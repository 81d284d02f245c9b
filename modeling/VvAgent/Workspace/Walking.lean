import VvAgent.Lib.LinkCycles
import VvAgent.Workspace.Local

/-!
The walk behind a listing of a local workspace. It enters every entry that is a directory behind
its links and remembers none of them, so that a link to a directory above it is entered again and
again until the operating system follows no more links.
-/

namespace VvAgent
open Lib Relation

/-- What a walk from a directory should do, whatever number of links the operating system
follows. -/
structure WalkEnds (tree : FileTree) (root : Place) : Prop where
  /-- The tree alone bounds what the walk meets. -/
  bounded : ∃ bound, ∀ links, (tree.walk links root).length ≤ bound
  /-- A listing names each file at most once for each way to it. -/
  listed : ∀ links (workspace : LocalWorkspace) base pattern,
    ((tree.walk links root).filterMap fun entry =>
      (workspace.listedPath tree base pattern entry).map fun path => (entry.route, path)).Nodup
  /-- A directory is not listed again below itself. -/
  once : ∀ links, ∀ first ∈ ⟨[], some root⟩ :: tree.walk links root,
    ∀ second ∈ tree.walk links root, ∀ dir, tree.isDir dir = true → first.target = some dir →
      second.target = some dir → first.route <+: second.route → first = second

theorem listed_nodup (tree : FileTree) (root : Place) (links : Nat) (workspace : LocalWorkspace)
    (base : Place) (pattern : String) :
    ((tree.walk links root).filterMap fun entry =>
      (workspace.listedPath tree base pattern entry).map fun path =>
        (entry.route, path)).Nodup := by
  have hroutes : ((tree.walk links root).map FileTree.Entry.route).Nodup :=
    FileTree.nodup_descend _ _ _ _
  refine List.pairwise_filterMap.mpr ((List.pairwise_map.mp hroutes).imp ?_)
  intro first second hne shown hshown shown' hshown' hsame
  obtain ⟨path, _, rfl⟩ := Option.map_eq_some_iff.mp hshown
  obtain ⟨path', _, rfl⟩ := Option.map_eq_some_iff.mp hshown'
  exact hne (Prod.mk.inj hsame).1

theorem once_of_loopFree {tree : FileTree} {root : Place} (hfree : tree.LoopFree root)
    (links : Nat) {first second : FileTree.Entry}
    (hfirst : first ∈ ⟨[], some root⟩ :: tree.walk links root)
    (hsecond : second ∈ tree.walk links root) {dir : Place} (hdir : tree.isDir dir = true)
    (htarget : first.target = some dir) (htarget' : second.target = some dir)
    (hfront : first.route <+: second.route) : first = second := by
  obtain ⟨back, hback⟩ := hfront
  rcases List.mem_cons.mp hfirst with rfl | hfirst
  · obtain rfl := Option.some.inj htarget
    exact absurd (FileTree.transGen_of_descend hsecond htarget' hdir) (hfree root .refl)
  · cases back with
    | nil =>
        rw [List.append_nil] at hback
        have hroutes : ((tree.walk links root).map FileTree.Entry.route).Nodup :=
          FileTree.nodup_descend _ _ _ _
        exact List.inj_on_of_nodup_map hroutes hfirst hsecond hback
    | cons next back =>
        have hreach := (FileTree.transGen_of_descend hfirst htarget hdir).to_reflTransGen
        have hloop := FileTree.transGen_of_prefix hfirst hsecond htarget htarget' hdir hdir
          hback.symm
        exact absurd hloop (hfree dir hreach)

/-- A walk ends by itself exactly where no directory that it comes to leads back to itself. -/
theorem walk_ends_iff (tree : FileTree) (root : Place) :
    WalkEnds tree root ↔ tree.LoopFree root := by
  constructor
  · rintro ⟨⟨bound, hbound⟩, _, _⟩ place hreach hloop
    obtain ⟨links, hlong⟩ := FileTree.unbounded_of_loop hreach hloop bound
    exact absurd (hbound links) (Nat.not_le_of_lt hlong)
  · intro hfree
    refine ⟨?_, fun links workspace base pattern => listed_nodup tree root links workspace base
      pattern, ?_⟩
    · obtain ⟨bound, hbound⟩ := FileTree.bounded_of_loopFree hfree
      exact ⟨bound, fun links => hbound _ links []⟩
    · intro links first hfirst second hsecond dir hdir htarget htarget' hfront
      exact once_of_loopFree hfree links hfirst hsecond hdir htarget htarget' hfront

/-- A directory that holds a link to itself. -/
def loopedTree : FileTree where
  nodes := [([['l']], .link ['.'])]
  proper := by decide
  closed := by
    intro place name hnode
    cases place with
    | nil => rfl
    | cons first place => simp [nodeAt] at hnode

/-- It is listed again under each of its own names. -/
theorem looped_tree_listed_again : ¬∀ tree root, WalkEnds tree root := by
  intro h
  have hsame : (⟨[], some []⟩ : FileTree.Entry) = ⟨[['l']], some []⟩ :=
    (h loopedTree []).once 1 ⟨[], some []⟩ List.mem_cons_self ⟨[['l']], some []⟩ (by decide) []
      rfl rfl rfl (List.nil_prefix)
  cases hsame

end VvAgent
