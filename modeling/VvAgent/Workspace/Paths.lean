import VvAgent.Workspace.Backend
import VvAgent.Lib.FileTree

/-!
The directories and files of a workspace, named by lists of segments, and the texts that the
backends know them by. A directory's text followed by a separator stands at the front of a
file's text exactly if the file is below the directory.
-/

namespace VvAgent
open Lib

/-- A name that workspace paths can spell, too. -/
structure SegmentName (name : Name) : Prop extends ProperName name where
  noBackslash : '\\' ∉ name

theorem segmentName_iff (name : Name) : SegmentName name ↔ ProperName name ∧ '\\' ∉ name :=
  ⟨fun h => ⟨h.1, h.2⟩, fun h => ⟨h.1, h.2⟩⟩

instance (name : Name) : Decidable (SegmentName name) :=
  decidable_of_iff _ (segmentName_iff name).symm

def joinNames (names : List Name) : List Char := List.intercalate ['/'] names

/-- A directory of a workspace, by the names that lead to it from the root. -/
structure Directory where
  names : List Name
  proper : ∀ name ∈ names, SegmentName name
  deriving DecidableEq

/-- A file of a workspace. -/
structure FilePath where
  names : List Name
  proper : ∀ name ∈ names, SegmentName name
  nonempty : names ≠ []
  deriving DecidableEq

def Directory.text (dir : Directory) : String := .ofList (joinNames dir.names)

def FilePath.text (file : FilePath) : String := .ofList (joinNames file.names)

/-- The file is `dir/rel`. -/
def FilePath.isBelow (file : FilePath) (dir : Directory) (rel : FilePath) : Prop :=
  file.names = dir.names ++ rel.names

/-- The paths of a listing in their order. -/
def sortPaths (paths : List String) : List String :=
  paths.mergeSort fun first second => (compare first second).isLE

theorem joinNames_append (front back : List Name) (hfront : front ≠ []) (hback : back ≠ []) :
    joinNames (front ++ back) = joinNames front ++ '/' :: joinNames back := by
  induction front with
  | nil => exact absurd rfl hfront
  | cons name front ih =>
      cases front with
      | nil => simp [joinNames, List.intercalate_cons_of_ne_nil hback]
      | cons next front =>
          have hrest := ih (by simp)
          simp only [joinNames, List.cons_append, List.intercalate_cons_cons] at hrest ⊢
          simp [hrest]

theorem not_mem_splitOn (text : List Char) : ∀ piece ∈ text.splitOn '/', '/' ∉ piece := by
  induction text with
  | nil => simp
  | cons c text ih =>
      rw [List.splitOn_cons_eq_if_modifyHead]
      split_ifs with hslash
      · intro piece hpiece
        rcases List.mem_cons.mp hpiece with rfl | hmem
        · simp
        · exact ih piece hmem
      · obtain ⟨first, rest, hsplit⟩ := List.exists_cons_of_ne_nil (List.splitOn_ne_nil '/' text)
        rw [hsplit] at ih ⊢
        intro piece hpiece
        rcases List.mem_cons.mp hpiece with rfl | hmem
        · have hfirst := ih first (by simp)
          have hne : '/' ≠ c := by
            rintro rfl
            simp at hslash
          simp [hne, hfirst]
        · exact ih piece (by simp [hmem])

theorem splitOn_text {names : List Name} (hne : names ≠ []) (h : ∀ name ∈ names, '/' ∉ name) :
    (joinNames names).splitOn '/' = names :=
  List.splitOn_intercalate '/' h hne

theorem splitOn_joinNames (names : List Name) (hnames : ∀ name ∈ names, SegmentName name)
    (hne : names ≠ []) : (joinNames names).splitOn '/' = names :=
  List.splitOn_intercalate '/' (fun name hname => (hnames name hname).noSlash) hne

theorem joinNames_inj {first second : List Name} (hfirst : ∀ name ∈ first, SegmentName name)
    (hsecond : ∀ name ∈ second, SegmentName name) (hfirstne : first ≠ []) (hsecondne : second ≠ [])
    (h : joinNames first = joinNames second) : first = second := by
  rw [← splitOn_joinNames first hfirst hfirstne, h, splitOn_joinNames second hsecond hsecondne]

/-- What stands behind a directory's text and a separator is the text of the names that lead
on from the directory. -/
theorem joinNames_behind (front names : List Name) (rest : List Char)
    (hfront : ∀ name ∈ front, SegmentName name) (hnames : ∀ name ∈ names, SegmentName name)
    (hfrontne : front ≠ []) (hne : names ≠ [])
    (h : joinNames names = joinNames front ++ '/' :: rest) :
    ∃ back, back ≠ [] ∧ names = front ++ back ∧ rest = joinNames back := by
  have hsplit := splitOn_joinNames names hnames hne
  rw [h, List.splitOn_append_cons_self, splitOn_joinNames front hfront hfrontne] at hsplit
  exact ⟨rest.splitOn '/', List.splitOn_ne_nil _ _, hsplit.symm,
    (List.intercalate_splitOn '/').symm⟩

theorem joinNames_eq_nil {names : List Name} (hnames : ∀ name ∈ names, SegmentName name) :
    joinNames names = [] ↔ names = [] := by
  constructor
  · intro h
    by_contra hne
    have hsplit := splitOn_joinNames names hnames hne
    rw [h] at hsplit
    have hempty : [] ∈ names := by
      rw [← hsplit]
      simp
    exact (hnames [] hempty).nonempty rfl
  · rintro rfl
    rfl

/-- The text of a list of names starts as its first name does. -/
theorem head?_joinNames {names : List Name} (hnames : ∀ name ∈ names, SegmentName name) :
    (joinNames names).head? ≠ some '/' := by
  intro hhead
  obtain ⟨rest, hrest⟩ := List.head?_eq_some_iff.mp hhead
  have hne : names ≠ [] := by
    rintro rfl
    simp [joinNames] at hrest
  have hsplit := splitOn_joinNames names hnames hne
  rw [hrest, ← List.nil_append ('/' :: rest), List.splitOn_append_cons_self] at hsplit
  have hempty : [] ∈ names := by
    rw [← hsplit]
    simp
  exact (hnames [] hempty).nonempty rfl

/-- The text of a list of names ends as its last name does. -/
theorem getLast?_joinNames {names : List Name} (hnames : ∀ name ∈ names, SegmentName name) :
    (joinNames names).getLast? ≠ some '/' := by
  by_cases hne : names = []
  · subst hne
    simp [joinNames]
  · have hlast := hnames _ (List.getLast_mem hne)
    have hname : (names.getLast hne).getLast? ≠ some '/' := fun h =>
      hlast.noSlash (List.mem_of_getLast? h)
    rw [← List.dropLast_append_getLast hne]
    by_cases hfront : names.dropLast = []
    · simpa [hfront, joinNames] using hname
    · rw [joinNames_append _ _ hfront (by simp), List.getLast?_append]
      simp only [joinNames, List.intercalate_singleton, List.getLast?_cons]
      intro h
      cases hend : (names.getLast hne).getLast? with
      | none =>
          rw [List.getLast?_eq_none_iff] at hend
          exact hlast.nonempty hend
      | some c =>
          rw [hend] at h hname
          simp at h
          simp [h] at hname

theorem joinNames_not_backslash (names : List Name) (hnames : ∀ name ∈ names, SegmentName name) :
    '\\' ∉ joinNames names := by
  induction names with
  | nil => simp [joinNames]
  | cons name names ih =>
      have hname := (hnames name (by simp)).noBackslash
      have hrest := ih fun other hother => hnames other (by simp [hother])
      cases names with
      | nil => simpa [joinNames] using hname
      | cons next names =>
          simp only [joinNames, List.intercalate_cons_cons] at hrest ⊢
          simp [hname, hrest]

theorem foldl_pushSegment (names front : List Name) (hnames : ∀ name ∈ names, SegmentName name) :
    names.foldl pushSegment front = front ++ names := by
  induction names generalizing front with
  | nil => simp
  | cons name names ih =>
      have hname := hnames name (by simp)
      have hrest : ∀ other ∈ names, SegmentName other := fun other h => hnames other (by simp [h])
      simp [pushSegment, hname.nonempty, hname.notHere, hname.notUp, ih (front ++ [name]) hrest]

theorem replaced_eq_self {text : List Char} (h : '\\' ∉ text) :
    text.map (fun c => if c = '\\' then '/' else c) = text := by
  rw [List.map_congr_left (g := id), List.map_id]
  intro c hc
  rw [if_neg]
  · rfl
  · rintro rfl
    exact h hc

/-- The text of a list of names is in normal form. -/
theorem normalizeWorkspacePath_joinNames (names : List Name)
    (hnames : ∀ name ∈ names, SegmentName name) :
    normalizeWorkspacePath (.ofList (joinNames names)) = .ofList (joinNames names) := by
  rw [normalizeWorkspacePath, pathSegments, String.toList_ofList,
    replaced_eq_self (joinNames_not_backslash names hnames)]
  by_cases hne : names = []
  · subst hne
    rfl
  · rw [splitOn_joinNames names hnames hne, foldl_pushSegment names [] hnames, List.nil_append]
    rfl

theorem Directory.normalize_text (dir : Directory) :
    normalizeWorkspacePath dir.text = dir.text :=
  normalizeWorkspacePath_joinNames dir.names dir.proper

theorem FilePath.normalize_text (file : FilePath) :
    normalizeWorkspacePath file.text = file.text :=
  normalizeWorkspacePath_joinNames file.names file.proper

theorem FilePath.text_inj {first second : FilePath} (h : first.text = second.text) :
    first = second := by
  have hnames : first.names = second.names :=
    joinNames_inj first.proper second.proper first.nonempty second.nonempty
      (String.ofList_injective h)
  cases first
  cases second
  simpa using hnames

end VvAgent
