import VvAgent.Lib.Run
import VvAgent.Workspace.Artifacts

/-!
The in-memory workspace over whole runs of calls. Its files and directories live in two maps
under normalized paths. The exclusive writer looks at both maps and at the files above its path;
`write_text` and `mkdir` look at neither, and keep the two maps a tree exactly if there is no
directory, respectively no file, at the path they are given and no file above it.
-/

namespace VvAgent
open Lib Lib.Outcome

/-! ### Paths by their names -/

/-- The text of a normalized path, by the names in it. -/
def keyOf (names : List Name) : String := .ofList (joinNames names)

/-- Names as a normalized path can have them. -/
def Listed (names : List Name) : Prop := ∀ name ∈ names, name ≠ [] ∧ '/' ∉ name

/-- The names of the normal form of a path. -/
def normalNames (path : String) : List Name := (pathSegments path).foldl pushSegment []

theorem normalizeWorkspacePath_eq_keyOf (path : String) :
    normalizeWorkspacePath path = keyOf (normalNames path) := rfl

theorem listed_normalNames (path : String) : Listed (normalNames path) := by
  have hpushed : ∀ (segments front : List Name), (∀ segment ∈ segments, '/' ∉ segment) →
      Listed front → Listed (segments.foldl pushSegment front) := by
    intro segments
    induction segments with
    | nil =>
        intro front _ hfront
        exact hfront
    | cons segment segments ih =>
        intro front hsegments hfront
        apply ih _ fun other hother => hsegments other (by simp [hother])
        unfold pushSegment
        split_ifs with hhere hup
        · exact hfront
        · exact fun name hname => hfront name (List.mem_of_mem_dropLast hname)
        · intro name hname
          rcases List.mem_append.mp hname with hname | hname
          · exact hfront name hname
          · obtain rfl := List.mem_singleton.mp hname
            exact ⟨fun h => hhere (.inl h), hsegments name (by simp)⟩
  apply hpushed
  · intro segment hsegment
    exact not_mem_splitOn _ segment hsegment
  · intro name hname
    cases hname

theorem joinNames_listed {names : List Name} (h : Listed names) (hne : names ≠ []) :
    (joinNames names).splitOn '/' = names :=
  splitOn_text hne fun name hname => (h name hname).2

theorem keyOf_eq_empty {names : List Name} (h : Listed names) : keyOf names = "" ↔ names = [] := by
  constructor
  · intro hempty
    by_contra hne
    have htext : joinNames names = [] := by
      have hlist := congrArg String.toList hempty
      simpa [keyOf] using hlist
    have hsplit := joinNames_listed h hne
    rw [htext] at hsplit
    have hname : [] ∈ names := by
      rw [← hsplit]
      simp
    exact (h [] hname).1 rfl
  · rintro rfl
    rfl

theorem keyOf_inj {first second : List Name} (hfirst : Listed first) (hsecond : Listed second)
    (h : keyOf first = keyOf second) : first = second := by
  by_cases hempty : first = []
  · subst hempty
    exact ((keyOf_eq_empty hsecond).mp h.symm).symm
  · have hne : second ≠ [] := fun hnone => hempty ((keyOf_eq_empty hfirst).mp (by rw [h, hnone]; rfl))
    have htext : joinNames first = joinNames second := by
      have hlist := congrArg String.toList h
      simpa [keyOf] using hlist
    rw [← joinNames_listed hfirst hempty, htext, joinNames_listed hsecond hne]

/-- A directory that a path is in, at any depth. -/
def IsAncestor (dir key : String) : Prop :=
  ∃ front back : List Name, Listed (front ++ back) ∧ back ≠ [] ∧ dir = keyOf front ∧
    key = keyOf (front ++ back)

theorem IsAncestor.ne_empty {dir key : String} (h : IsAncestor dir key) : key ≠ "" := by
  obtain ⟨front, back, hlisted, hback, _, rfl⟩ := h
  rw [Ne, keyOf_eq_empty hlisted]
  simp [hback]

theorem IsAncestor.ne {dir key : String} (h : IsAncestor dir key) : dir ≠ key := by
  obtain ⟨front, back, hlisted, hback, rfl, rfl⟩ := h
  intro hsame
  have hfront : Listed front := fun name hname => hlisted name (by simp [hname])
  have hnames := keyOf_inj hfront hlisted hsame
  exact hback (by simpa using hnames)

theorem IsAncestor.trans {top dir key : String} (h : IsAncestor top dir)
    (hdir : IsAncestor dir key) : IsAncestor top key := by
  obtain ⟨front, back, hlisted, hback, rfl, rfl⟩ := h
  obtain ⟨middle, rest, hlisted', _, hmiddle, rfl⟩ := hdir
  have hnames : front ++ back = middle :=
    keyOf_inj hlisted (fun name hname => hlisted' name (by simp [hname])) hmiddle
  subst hnames
  rw [List.append_assoc] at hlisted'
  refine ⟨front, back ++ rest, hlisted', by simp [hback], rfl, ?_⟩
  rw [List.append_assoc]

namespace MemoryWorkspace

theorem parentDirs_eq_cons (key : String) : parentDirs key = "" :: (parentDirs key).tail := rfl

theorem parentDirs_keyOf {names : List Name} (h : Listed names) :
    parentDirs (keyOf names) = names.dropLast.inits.map keyOf := by
  have hparts : ((keyOf names).toList.splitOn '/').filter (!·.isEmpty) = names := by
    by_cases hne : names = []
    · subst hne
      decide
    · have htext : (keyOf names).toList = joinNames names := by simp [keyOf]
      rw [htext, joinNames_listed h hne, List.filter_eq_self]
      intro name hname
      simpa using (h name hname).1
  simp only [parentDirs, hparts]
  cases hinits : names.dropLast.inits with
  | nil =>
      have hlength := congrArg List.length hinits
      simp at hlength
  | cons first rest =>
      have hfirst : first = [] := by
        have hhead : names.dropLast.inits.head? = some [] := by
          cases names.dropLast <;> simp
        rw [hinits] at hhead
        exact Option.some.inj hhead
      subst hfirst
      rfl

/-- The directories that a key is put into: the root and the key's ancestors. -/
theorem mem_parentDirs {names : List Name} (h : Listed names) (dir : String) :
    dir ∈ parentDirs (keyOf names) ↔ dir = "" ∨ IsAncestor dir (keyOf names) := by
  rw [parentDirs_keyOf h, List.mem_map]
  constructor
  · rintro ⟨front, hfront, rfl⟩
    rw [List.mem_inits] at hfront
    by_cases hne : names = []
    · subst hne
      exact .inl (by rw [List.prefix_nil.mp hfront]; rfl)
    · obtain ⟨middle, hmiddle⟩ := hfront
      have hnames : front ++ (middle ++ [names.getLast hne]) = names := by
        rw [← List.append_assoc, hmiddle, List.dropLast_concat_getLast]
      exact .inr ⟨front, middle ++ [names.getLast hne], by rwa [hnames], by simp, rfl, by rw [hnames]⟩
  · rintro (rfl | ⟨front, back, hlisted, hback, rfl, hkey⟩)
    · exact ⟨[], by simp, rfl⟩
    · have hnames := keyOf_inj h hlisted hkey
      refine ⟨front, ?_, rfl⟩
      rw [List.mem_inits, hnames, List.dropLast_append_of_ne_nil hback]
      exact List.prefix_append _ _

/-! ### The calls -/

def mkdir (workspace : MemoryWorkspace) (path : String) : MemoryWorkspace :=
  let key := normalizeWorkspacePath path
  insertParentDirs { workspace with dirs := workspace.dirs ++ [key] } key

end MemoryWorkspace

/-- A call that may change the workspace, with its arguments. -/
inductive WorkspaceCall where
  | writeText (path content : String) (append : Bool)
  | writeTextExclusive (path content : String)
  | writeTextChunksExclusive (path : String) (pieces : List (IoResult String))
  | mkdir (path : String)

namespace WorkspaceCall

/-- What a call answers: the number of bytes written, and the workspace after it. -/
def answer (workspace : MemoryWorkspace) : WorkspaceCall → IoResult (Nat × MemoryWorkspace)
  | .writeText path content append => workspace.writeText path content append
  | .writeTextExclusive path content => workspace.writeTextChunksExclusive path [.ok content]
  | .writeTextChunksExclusive path pieces => workspace.writeTextChunksExclusive path pieces
  | .mkdir path => .ok (0, workspace.mkdir path)

/-- A call that fails changes nothing. -/
def step (call : WorkspaceCall) (workspace : MemoryWorkspace) : MemoryWorkspace :=
  match call.answer workspace with
  | .ok (_, after) => after
  | .error _ => workspace

end WorkspaceCall

/-! ### The tree -/

namespace MemoryWorkspace

/-- The workspace is a tree: its root is a directory, no path is both a file and a directory,
and every ancestor of a file or directory is a directory and not a file. -/
structure IsTree (workspace : MemoryWorkspace) : Prop where
  root : "" ∈ workspace.dirs
  apart : ∀ key, (workspace.files[key]?).isSome = true → key ∉ workspace.dirs
  above : ∀ key, (workspace.files[key]?).isSome = true ∨ key ∈ workspace.dirs →
    ∀ dir, IsAncestor dir key → dir ∈ workspace.dirs ∧ workspace.files[dir]? = none

/-- There is no file above a path. -/
def NoFileAbove (workspace : MemoryWorkspace) (key : String) : Prop :=
  ∀ dir, IsAncestor dir key → workspace.files[dir]? = none

/-- A file at a path, with the directories above it. -/
def withFile (workspace : MemoryWorkspace) (key : String) (data : ByteArray) : MemoryWorkspace :=
  insertParentDirs { workspace with files := workspace.files.insert key data } key

theorem mem_dirs_withFile {workspace : MemoryWorkspace} {names : List Name} (h : Listed names)
    (data : ByteArray) (dir : String) :
    dir ∈ (workspace.withFile (keyOf names) data).dirs ↔
      dir ∈ workspace.dirs ∨ dir = "" ∨ IsAncestor dir (keyOf names) := by
  change dir ∈ workspace.dirs ++ parentDirs (keyOf names) ↔ _
  rw [List.mem_append, mem_parentDirs h]

theorem files_withFile (workspace : MemoryWorkspace) (key : String) (data : ByteArray)
    (other : String) :
    (workspace.withFile key data).files[other]? =
      if key = other then some data else workspace.files[other]? :=
  Table.get_insert workspace.files key other data

/-- A file makes a tree of a tree exactly if there is no directory at its path and no file
above it. -/
theorem isTree_withFile_iff {workspace : MemoryWorkspace} (htree : workspace.IsTree)
    {names : List Name} (h : Listed names) (data : ByteArray) :
    (workspace.withFile (keyOf names) data).IsTree ↔
      keyOf names ∉ workspace.dirs ∧ workspace.NoFileAbove (keyOf names) := by
  constructor
  · intro hafter
    have hfile : (((workspace.withFile (keyOf names) data).files[keyOf names]?).isSome) = true := by
      rw [files_withFile, if_pos rfl]
      rfl
    refine ⟨fun hdir => hafter.apart _ hfile ((mem_dirs_withFile h data _).mpr (.inl hdir)), ?_⟩
    intro dir hdir
    have hnone := (hafter.above _ (.inl hfile) dir hdir).2
    rwa [files_withFile, if_neg hdir.ne.symm] at hnone
  · rintro ⟨hfree, hnofile⟩
    have hdiffers : ∀ dir ∈ workspace.dirs, keyOf names ≠ dir := by
      rintro dir hdir rfl
      exact hfree hdir
    constructor
    · exact (mem_dirs_withFile h data _).mpr (.inl htree.root)
    · intro key hkey hdir
      rw [files_withFile] at hkey
      rw [mem_dirs_withFile h] at hdir
      by_cases hsame : keyOf names = key
      · subst hsame
        rcases hdir with hdir | hroot | hancestor
        · exact hfree hdir
        · exact hfree (by rw [hroot]; exact htree.root)
        · exact hancestor.ne rfl
      · rw [if_neg hsame] at hkey
        rcases hdir with hdir | rfl | hancestor
        · exact htree.apart key hkey hdir
        · exact htree.apart "" hkey htree.root
        · simp [hnofile key hancestor] at hkey
    · intro key hkey dir hancestor
      rw [files_withFile, mem_dirs_withFile h] at hkey
      rw [mem_dirs_withFile h, files_withFile]
      -- every directory that is above the new file is new or there already, and no file
      have hnew : IsAncestor dir (keyOf names) → (dir ∈ workspace.dirs ∨ dir = "" ∨
          IsAncestor dir (keyOf names)) ∧
            (if keyOf names = dir then some data else workspace.files[dir]?) = none := by
        intro hdir
        rw [if_neg hdir.ne.symm]
        exact ⟨.inr (.inr hdir), hnofile dir hdir⟩
      have hold : (workspace.files[key]?).isSome = true ∨ key ∈ workspace.dirs →
          (dir ∈ workspace.dirs ∨ dir = "" ∨ IsAncestor dir (keyOf names)) ∧
            (if keyOf names = dir then some data else workspace.files[dir]?) = none := by
        intro hthere
        obtain ⟨hdir, hnone⟩ := htree.above key hthere dir hancestor
        rw [if_neg (hdiffers dir hdir)]
        exact ⟨.inl hdir, hnone⟩
      by_cases hsame : keyOf names = key
      · exact hnew (by rwa [hsame])
      · rw [if_neg hsame] at hkey
        rcases hkey with hfile | hdir | rfl | habove
        · exact hold (.inl hfile)
        · exact hold (.inr hdir)
        · exact absurd rfl hancestor.ne_empty
        · exact hnew (hancestor.trans habove)

theorem mem_dirs_mkdir (workspace : MemoryWorkspace) (path dir : String) :
    dir ∈ (workspace.mkdir path).dirs ↔
      dir ∈ workspace.dirs ∨ dir = normalizeWorkspacePath path ∨ dir = "" ∨
        IsAncestor dir (normalizeWorkspacePath path) := by
  change dir ∈ (workspace.dirs ++ [normalizeWorkspacePath path]) ++
    parentDirs (normalizeWorkspacePath path) ↔ _
  rw [List.mem_append, List.mem_append, List.mem_singleton, normalizeWorkspacePath_eq_keyOf,
    mem_parentDirs (listed_normalNames path), or_assoc]

/-- `mkdir` makes a tree of a tree exactly if there is no file at its path and none above it. -/
theorem isTree_mkdir_iff {workspace : MemoryWorkspace} (htree : workspace.IsTree) (path : String) :
    (workspace.mkdir path).IsTree ↔
      workspace.files[normalizeWorkspacePath path]? = none ∧
        workspace.NoFileAbove (normalizeWorkspacePath path) := by
  have hfiles : (workspace.mkdir path).files = workspace.files := rfl
  constructor
  · intro hafter
    have hdir := (mem_dirs_mkdir workspace path _).mpr (.inr (.inl rfl))
    constructor
    · by_contra hfile
      have hsome : (workspace.files[normalizeWorkspacePath path]?).isSome = true :=
        Option.isSome_iff_ne_none.mpr hfile
      exact hafter.apart _ hsome hdir
    · intro dir hancestor
      exact (hafter.above _ (.inr hdir) dir hancestor).2
  · rintro ⟨hfree, hnofile⟩
    constructor
    · exact (mem_dirs_mkdir workspace path _).mpr (.inl htree.root)
    · intro key hkey hdir
      rw [hfiles] at hkey
      rcases (mem_dirs_mkdir workspace path key).mp hdir with hdir | rfl | rfl | hancestor
      · exact htree.apart key hkey hdir
      · simp [hfree] at hkey
      · exact htree.apart "" hkey htree.root
      · simp [hnofile key hancestor] at hkey
    · intro key hkey dir hancestor
      rw [hfiles, mem_dirs_mkdir] at hkey ⊢
      have hnew : IsAncestor dir (normalizeWorkspacePath path) →
          (dir ∈ workspace.dirs ∨ dir = normalizeWorkspacePath path ∨ dir = "" ∨
            IsAncestor dir (normalizeWorkspacePath path)) ∧ workspace.files[dir]? = none :=
        fun hdir => ⟨.inr (.inr (.inr hdir)), hnofile dir hdir⟩
      have hold : (workspace.files[key]?).isSome = true ∨ key ∈ workspace.dirs →
          (dir ∈ workspace.dirs ∨ dir = normalizeWorkspacePath path ∨ dir = "" ∨
            IsAncestor dir (normalizeWorkspacePath path)) ∧ workspace.files[dir]? = none := by
        intro hthere
        obtain ⟨hdir, hnone⟩ := htree.above key hthere dir hancestor
        exact ⟨.inl hdir, hnone⟩
      rcases hkey with hfile | hdir | rfl | rfl | habove
      · exact hold (.inl hfile)
      · exact hold (.inr hdir)
      · exact hnew hancestor
      · exact absurd rfl hancestor.ne_empty
      · exact hnew (hancestor.trans habove)

end MemoryWorkspace

/-! ### What a call does -/

namespace WorkspaceCall
open MemoryWorkspace

/-- The path that a call writes a file at. -/
def target : WorkspaceCall → Option String
  | .writeText path _ _ | .writeTextExclusive path _ | .writeTextChunksExclusive path _ => some path
  | .mkdir _ => none

/-- The pieces that were read before the first that could not be. -/
def piecesText (pieces : List (IoResult String)) : String :=
  String.join (pieces.filterMap Except.toOption)

/-- What a write that succeeds leaves at its path. -/
def left (workspace : MemoryWorkspace) : WorkspaceCall → ByteArray
  | .writeText path content append =>
      if append then
        (workspace.files[normalizeWorkspacePath path]?).getD ByteArray.empty ++ content.toUTF8
      else content.toUTF8
  | .writeTextExclusive _ content => content.toUTF8
  | .writeTextChunksExclusive _ pieces => (piecesText pieces).toUTF8
  | .mkdir _ => ByteArray.empty

/-- A call writes a file under a normalized path and succeeds. -/
def Wrote (call : WorkspaceCall) (workspace : MemoryWorkspace) (key : String) : Prop :=
  call.target.map normalizeWorkspacePath = some key ∧ ∃ answered, call.answer workspace = .ok answered

/-- The condition under which a call keeps a tree. -/
def KeepsTree (call : WorkspaceCall) (workspace : MemoryWorkspace) : Prop :=
  match call with
  | .writeText path _ _ => isReservedArtifactPath path = true ∨
      (normalizeWorkspacePath path ∉ workspace.dirs ∧
        workspace.NoFileAbove (normalizeWorkspacePath path))
  | .mkdir path => workspace.files[normalizeWorkspacePath path]? = none ∧
      workspace.NoFileAbove (normalizeWorkspacePath path)
  | .writeTextExclusive _ _ | .writeTextChunksExclusive _ _ => True

theorem writeText_eq (workspace : MemoryWorkspace) (path content : String) (append : Bool) :
    workspace.writeText path content append =
      if isReservedArtifactPath path then
        .error ⟨.permissionDenied, "artifact paths are immutable"⟩
      else .ok (content.utf8ByteSize, workspace.withFile (normalizeWorkspacePath path)
        ((WorkspaceCall.writeText path content append).left workspace)) := by
  unfold MemoryWorkspace.writeText
  cases isReservedArtifactPath path <;> rfl

/-- An exclusive write that succeeds found nothing at its path and no file above it. -/
theorem writeTextChunksExclusive_cases {workspace : MemoryWorkspace} {path : String}
    {pieces : List (IoResult String)} {answered : Nat × MemoryWorkspace}
    (h : workspace.writeTextChunksExclusive path pieces = .ok answered) :
    workspace.files[normalizeWorkspacePath path]? = none ∧
      normalizeWorkspacePath path ∉ workspace.dirs ∧
      (∀ dir ∈ (parentDirs (normalizeWorkspacePath path)).tail, workspace.files[dir]? = none) ∧
      answered.2 = workspace.withFile (normalizeWorkspacePath path) (piecesText pieces).toUTF8 := by
  obtain ⟨written, after⟩ := answered
  simp only [MemoryWorkspace.writeTextChunksExclusive, bind_eq_ok, refuse_eq_ok, exists_const,
    Bool.or_eq_false_iff] at h
  obtain ⟨key, hkey, texts, htexts, ⟨hfree, hnodir⟩, hwrite⟩ := h
  have hjoin : piecesText pieces = String.join texts := by
    rw [mapM_id_eq_ok htexts, piecesText, List.filterMap_map]
    congr 1
    exact List.filterMap_some
  rw [exclusiveWorkspacePath_eq_ok hkey, hjoin]
  cases hparent : (parentDirs key).tail.find? fun parent => (workspace.files[parent]?).isSome with
  | some parent =>
      rw [hparent] at hwrite
      cases hwrite
  | none =>
      simp only [hparent, pure_ok, Except.ok.injEq, Prod.mk.injEq] at hwrite
      obtain ⟨_, rfl⟩ := hwrite
      rw [Option.isSome_eq_false_iff, Option.isNone_iff_eq_none] at hfree
      refine ⟨hfree, by simpa using hnodir, ?_, rfl⟩
      intro dir hdir
      simpa using List.find?_eq_none.mp hparent dir hdir

theorem step_writeText (workspace : MemoryWorkspace) (path content : String) (append : Bool) :
    (WorkspaceCall.writeText path content append).step workspace =
      if isReservedArtifactPath path then workspace
      else workspace.withFile (normalizeWorkspacePath path)
        ((WorkspaceCall.writeText path content append).left workspace) := by
  simp only [step, answer, writeText_eq]
  cases isReservedArtifactPath path <;> rfl

theorem piecesText_single (content : String) : piecesText [.ok content] = content := by
  simp [piecesText, Except.toOption, String.join]

/-- A call fails and changes nothing, is a write that puts a file into the workspace, or is
`mkdir`. -/
theorem step_cases (call : WorkspaceCall) (workspace : MemoryWorkspace) :
    ((∀ answered, call.answer workspace ≠ .ok answered) ∧ call.step workspace = workspace) ∨
      (∃ path answered, call.target = some path ∧ call.answer workspace = .ok answered ∧
        call.step workspace =
          workspace.withFile (normalizeWorkspacePath path) (call.left workspace)) ∨
      ∃ path, call = .mkdir path ∧ call.step workspace = workspace.mkdir path := by
  cases hanswer : call.answer workspace with
  | error error =>
      refine .inl ⟨fun answered h => (by cases h), ?_⟩
      simp [step, hanswer]
  | ok answered =>
      have hstep : call.step workspace = answered.2 := by simp [step, hanswer]
      rw [hstep]
      cases call with
      | writeText path content append =>
          refine .inr (.inl ⟨path, answered, rfl, rfl, ?_⟩)
          rw [answer, writeText_eq] at hanswer
          split_ifs at hanswer
          rw [← Except.ok.inj hanswer]
      | writeTextExclusive path content =>
          refine .inr (.inl ⟨path, answered, rfl, rfl, ?_⟩)
          have hafter := (writeTextChunksExclusive_cases hanswer).2.2.2
          rwa [piecesText_single] at hafter
      | writeTextChunksExclusive path pieces =>
          refine .inr (.inl ⟨path, answered, rfl, rfl, ?_⟩)
          exact (writeTextChunksExclusive_cases hanswer).2.2.2
      | mkdir path =>
          refine .inr (.inr ⟨path, rfl, ?_⟩)
          rw [← Except.ok.inj hanswer]

/-- A write that succeeded leaves its data at its path, and nothing else changes a file. -/
theorem step_files (call : WorkspaceCall) (workspace : MemoryWorkspace) (key : String) :
    (call.Wrote workspace key ∧ (call.step workspace).files[key]? = some (call.left workspace)) ∨
      (¬call.Wrote workspace key ∧ (call.step workspace).files[key]? = workspace.files[key]?) := by
  rcases call.step_cases workspace with
    ⟨hfails, hstep⟩ | ⟨path, answered, htarget, hanswer, hstep⟩ | ⟨path, rfl, hstep⟩
  · exact .inr ⟨fun hwrote => hwrote.2.elim hfails, by rw [hstep]⟩
  · rw [hstep, files_withFile]
    by_cases hkey : normalizeWorkspacePath path = key
    · rw [if_pos hkey]
      exact .inl ⟨⟨by rw [htarget, Option.map_some, hkey], answered, hanswer⟩, rfl⟩
    · rw [if_neg hkey]
      refine .inr ⟨fun hwrote => hkey ?_, rfl⟩
      have hname := hwrote.1
      rw [htarget, Option.map_some] at hname
      exact Option.some.inj hname
  · refine .inr ⟨fun hwrote => ?_, by rw [hstep]; rfl⟩
    cases hwrote.1

/-- A call makes a tree of a tree exactly under its condition. -/
theorem step_isTree_iff (call : WorkspaceCall) {workspace : MemoryWorkspace}
    (htree : workspace.IsTree) : (call.step workspace).IsTree ↔ call.KeepsTree workspace := by
  have hexclusive : ∀ path pieces,
      ((WorkspaceCall.writeTextChunksExclusive path pieces).step workspace).IsTree := by
    intro path pieces
    cases hanswer : workspace.writeTextChunksExclusive path pieces with
    | error error => simpa [step, answer, hanswer] using htree
    | ok answered =>
        obtain ⟨_, hnodir, hnofile, hafter⟩ := writeTextChunksExclusive_cases hanswer
        have hstep : (WorkspaceCall.writeTextChunksExclusive path pieces).step workspace =
            answered.2 := by simp [step, answer, hanswer]
        have hlisted := listed_normalNames path
        rw [hstep, hafter, normalizeWorkspacePath_eq_keyOf, isTree_withFile_iff htree hlisted]
        refine ⟨hnodir, fun dir hancestor => ?_⟩
        have hmem : dir ∈ parentDirs (keyOf (normalNames path)) :=
          (mem_parentDirs hlisted dir).mpr (.inr hancestor)
        rw [parentDirs_eq_cons, List.mem_cons] at hmem
        rcases hmem with rfl | htail
        · by_contra hfile
          exact htree.apart "" (Option.isSome_iff_ne_none.mpr hfile) htree.root
        · exact hnofile dir htail
  cases call with
  | writeText path content append =>
      rw [step_writeText, KeepsTree]
      cases hreserved : isReservedArtifactPath path with
      | true => simpa using htree
      | false =>
          rw [if_neg (by simp), normalizeWorkspacePath_eq_keyOf,
            isTree_withFile_iff htree (listed_normalNames path)]
          simp
  | writeTextExclusive path content => exact iff_of_true (hexclusive path [.ok content]) trivial
  | writeTextChunksExclusive path pieces => exact iff_of_true (hexclusive path pieces) trivial
  | mkdir path => exact isTree_mkdir_iff htree path

/-! ### Runs -/

/-- A file that no call of a run writes keeps its content. -/
theorem run_files_unwritten (calls : List WorkspaceCall) (workspace : MemoryWorkspace)
    (key : String)
    (h : ∀ before call rest, calls = before ++ call :: rest →
      ¬call.Wrote (run step before workspace) key) :
    (run step calls workspace).files[key]? = workspace.files[key]? := by
  induction calls generalizing workspace with
  | nil => rfl
  | cons call calls ih =>
      have hfirst : ¬call.Wrote workspace key := h [] call calls rfl
      have hrest := ih (call.step workspace) fun before later rest hcalls =>
        h (call :: before) later rest (by rw [hcalls, List.cons_append])
      rw [run_cons, hrest]
      rcases call.step_files workspace key with ⟨hwrote, _⟩ | ⟨_, hsame⟩
      · exact absurd hwrote hfirst
      · exact hsame

/-- The calls that write under the artifacts are exclusive, and find no file. -/
theorem Wrote.fresh {call : WorkspaceCall} {workspace : MemoryWorkspace} {key : String}
    (h : call.Wrote workspace key) (hreserved : startsWith key artifactsRoot = true) :
    workspace.files[key]? = none := by
  obtain ⟨hname, answered, hanswer⟩ := h
  cases call with
  | writeText path content append =>
      obtain rfl : normalizeWorkspacePath path = key := Option.some.inj hname
      have hrefused : isReservedArtifactPath path = true := hreserved
      rw [answer, writeText_eq, if_pos hrefused] at hanswer
      cases hanswer
  | writeTextExclusive path content =>
      obtain rfl : normalizeWorkspacePath path = key := Option.some.inj hname
      exact (writeTextChunksExclusive_cases hanswer).1
  | writeTextChunksExclusive path pieces =>
      obtain rfl : normalizeWorkspacePath path = key := Option.some.inj hname
      exact (writeTextChunksExclusive_cases hanswer).1
  | mkdir path => cases hname

/-- A file under the artifacts stays as it is. -/
theorem run_artifact (calls : List WorkspaceCall) (workspace : MemoryWorkspace) {key : String}
    (hreserved : startsWith key artifactsRoot = true) {data : ByteArray}
    (hfile : workspace.files[key]? = some data) :
    (run step calls workspace).files[key]? = some data := by
  induction calls generalizing workspace with
  | nil => exact hfile
  | cons call calls ih =>
      apply ih
      rcases call.step_files workspace key with ⟨hwrote, _⟩ | ⟨_, hsame⟩
      · rw [hwrote.fresh hreserved] at hfile
        cases hfile
      · rw [hsame]
        exact hfile

end WorkspaceCall

namespace MemoryWorkspace

theorem isTree_empty : ({} : MemoryWorkspace).IsTree where
  root := List.mem_singleton.mpr rfl
  apart := by
    intro key hfile
    simp at hfile
  above := by
    intro key hthere dir hancestor
    rcases hthere with hfile | hdir
    · simp at hfile
    · exact absurd (List.mem_singleton.mp hdir) hancestor.ne_empty

end MemoryWorkspace

open WorkspaceCall MemoryWorkspace in
/-- In a run from the empty workspace the workspace is a tree throughout exactly if each
`write_text` finds no directory at its path and no file above it, and each `mkdir` no file at
its path or above it. In every run a path reads what the last write to its normal form left,
however it is spelled, and an artifact that is there stays as it is. -/
theorem memory_workspace_runs (calls : List WorkspaceCall) :
    ((∀ before rest, calls = before ++ rest → (run step before {}).IsTree) ↔
        Along step KeepsTree calls {}) ∧
      (∀ before call rest key, calls = before ++ call :: rest →
        call.Wrote (run step before {}) key →
        (∀ between later others, rest = between ++ later :: others →
          ¬later.Wrote (run step (before ++ call :: between) {}) key) →
        ∀ path, normalizeWorkspacePath path = key →
          (run step calls {}).readBytes path = .ok (call.left (run step before {}))) ∧
      (∀ key, (∀ before call rest, calls = before ++ call :: rest →
          ¬call.Wrote (run step before {}) key) →
        ∀ path, normalizeWorkspacePath path = key →
          (run step calls {}).readBytes path = .error (notFound path)) ∧
      ∀ before rest, calls = before ++ rest → ∀ path, isReservedArtifactPath path = true →
        ∀ data, (run step before {}).readBytes path = .ok data →
          (run step calls {}).readBytes path = .ok data := by
  refine ⟨holds_throughout_iff (fun call _ htree => call.step_isTree_iff htree) calls isTree_empty,
    ?_, ?_, ?_⟩
  · rintro before call rest key rfl hwrote hlast path rfl
    have hfile : ((call.step (run step before {})).files[normalizeWorkspacePath path]?) =
        some (call.left (run step before {})) := by
      rcases call.step_files (run step before {}) (normalizeWorkspacePath path) with
        ⟨_, hleft⟩ | ⟨hnot, _⟩
      · exact hleft
      · exact absurd hwrote hnot
    have hkept := run_files_unwritten rest (call.step (run step before {}))
      (normalizeWorkspacePath path) fun between later others hrest => by
        have hlater := hlast between later others hrest
        rwa [run_append, run_cons] at hlater
    rw [run_append, run_cons, readBytes, hkept, hfile, require_some]
  · rintro key hnever path rfl
    have hnone := run_files_unwritten calls {} (normalizeWorkspacePath path) hnever
    rw [readBytes, hnone]
    simp
  · rintro before rest rfl path hreserved data hread
    have hfile : (run step before {}).files[normalizeWorkspacePath path]? = some data := by
      simpa [readBytes] using hread
    rw [run_append, readBytes, run_artifact rest _ hreserved hfile, require_some]

open WorkspaceCall MemoryWorkspace in
/-- A file below a file: both the path above is a file and a directory. -/
theorem write_below_file :
    ¬(run step [.writeText "a" "1" false, .writeText "a/b" "2" false] {}).IsTree := by
  intro htree
  have hfile : ((run step [.writeText "a" "1" false, .writeText "a/b" "2" false]
      {}).files["a"]?).isSome = true := by decide +kernel
  exact htree.apart "a" hfile (by decide +kernel)

end VvAgent
