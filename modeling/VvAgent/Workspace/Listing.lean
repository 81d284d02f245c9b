import VvAgent.Workspace.Local
import Mathlib.Data.Set.Insert

/-!
What `list_files` shows, in the three backends. The in-memory backend and the one over an
object store write the base directory in front of the pattern and match whole paths; the local
backend walks the base directory and matches what is below it. A base directory in whose name
no wildcard stands gives the same listing everywhere.
-/

namespace VvAgent
open Lib Lib.Outcome

/-- The pattern for whole paths that a base directory and a glob make up. -/
def basePattern (base glob : String) : String :=
  if base.isEmpty then normalizedGlobPattern glob
  else base ++ "/" ++ normalizedGlobPattern glob

def MemoryWorkspace.listFiles (workspace : MemoryWorkspace) (base glob : String) :
    IoResult (List String) :=
  let base := normalizeWorkspacePath base
  if isReservedArtifactPath base then .ok []
  else
    .ok (sortPaths ((workspace.files.toList.map Prod.fst).filter fun path =>
      !isReservedArtifactPath path && globMatch path (basePattern base glob)))

/-- The workspace in an object store: the directory that its keys start with, and the locations
of the objects below it in the order in which the store lists them. -/
structure S3Workspace where
  lead : Directory
  locations : List String

namespace S3Workspace

def objectKey (lead path : String) : String :=
  let path := normalizeWorkspacePath path
  if lead.isEmpty then path
  else if path.isEmpty then lead
  else lead ++ "/" ++ path

/-- The rest of a text behind what it starts with. -/
def stripLead (lead text : List Char) : Option (List Char) :=
  if lead.isPrefixOf text then some (text.drop lead.length) else none

def relativeKey (lead key : String) : Option String :=
  if lead.isEmpty then some (normalizeWorkspacePath key)
  else if key = lead then some ""
  else (stripLead (lead ++ "/").toList key.toList).map fun rest =>
    normalizeWorkspacePath (.ofList rest)

def listFiles (workspace : S3Workspace) (base glob : String) : IoResult (List String) :=
  let base := normalizeWorkspacePath base
  if isReservedArtifactPath base then .ok []
  else
    .ok (sortPaths ((workspace.locations.filterMap (relativeKey workspace.lead.text)).filter
      fun path => !path.isEmpty && path.toList.getLast? != some '/' &&
        !isReservedArtifactPath path && globMatch path (basePattern base glob)))

end S3Workspace

/-- The result is these paths, in their order and each once. -/
def Lists (result : IoResult (List String)) (paths : Set String) : Prop :=
  ∃ listed, result = .ok listed ∧
    listed.Pairwise (fun first second => compare first second = .lt) ∧
    ∀ path, path ∈ listed ↔ path ∈ paths

/-- The files below a directory that a glob matches there, without those that are reserved. -/
def listing (files : Set FilePath) (dir : Directory) (glob : String) : Set String :=
  {path | ∃ file ∈ files, path = file.text ∧ isReservedArtifactPath path = false ∧
    ∃ rel, file.isBelow dir rel ∧ globMatch rel.text (normalizedGlobPattern glob) = true}

def MemoryWorkspace.Holds (workspace : MemoryWorkspace) (files : Set FilePath) : Prop :=
  ∀ key, (workspace.files[key]?).isSome = true ↔ ∃ file ∈ files, key = file.text

def S3Workspace.Holds (workspace : S3Workspace) (files : Set FilePath) : Prop :=
  workspace.locations.Nodup ∧ ∀ location, location ∈ workspace.locations ↔
    ∃ file ∈ files, location = S3Workspace.objectKey workspace.lead.text file.text

/-- The root is a directory with no links below it, and with these files. -/
def LocalWorkspace.Holds (workspace : LocalWorkspace) (tree : FileTree) (files : Set FilePath) :
    Prop :=
  ∃ root, canonicalize tree workspace.root = .ok root ∧ tree.isDir root = true ∧
    (∀ back, tree.isLink (root ++ back) = false) ∧
    ∀ back, tree.isFile (root ++ back) = true ↔ ∃ file ∈ files, file.names = back

/-- The ways to spell a directory. -/
def Directory.spellings (dir : Directory) : List String :=
  if dir.names = [] then ["", "."] else [dir.text]

/-- Every backend lists the files it holds below the directory. -/
def ListAlike (dir : Directory) (base glob : String) : Prop :=
  ∀ files : Set FilePath,
    (∀ workspace : MemoryWorkspace, workspace.Holds files →
      Lists (workspace.listFiles base glob) (listing files dir glob)) ∧
    (∀ workspace : S3Workspace, workspace.Holds files →
      Lists (workspace.listFiles base glob) (listing files dir glob)) ∧
    ∀ (workspace : LocalWorkspace) (tree : FileTree), workspace.Holds tree files →
      Lists (workspace.listFiles tree base glob) (listing files dir glob)

/-- No character of the directory's name is a wildcard. -/
def Directory.Literal (dir : Directory) : Prop := ∀ name ∈ dir.names, '*' ∉ name ∧ '?' ∉ name

theorem compare_total (first second : String) :
    ((compare first second).isLE || (compare second first).isLE) = true := by
  have hswap : compare second first = (compare first second).swap := Std.OrientedCmp.eq_swap
  rw [hswap]
  cases compare first second <;> rfl

theorem lists_sortPaths (paths : List String) (hnodup : paths.Nodup) (shown : Set String)
    (h : ∀ path, path ∈ paths ↔ path ∈ shown) : Lists (.ok (sortPaths paths)) shown := by
  have hsorted : (sortPaths paths).Pairwise fun first second =>
      (compare first second).isLE = true :=
    List.pairwise_mergeSort (fun _ _ _ => Std.TransCmp.isLE_trans) compare_total paths
  have hdistinct : (sortPaths paths).Nodup := (List.mergeSort_perm paths _).nodup_iff.mpr hnodup
  refine ⟨_, rfl, ?_, ?_⟩
  · refine (hsorted.and hdistinct).imp ?_
    rintro first second ⟨hle, hne⟩
    cases hcompare : compare first second with
    | lt => rfl
    | eq => exact absurd (Std.LawfulEqCmp.eq_of_compare hcompare) hne
    | gt => simp [hcompare] at hle
  · intro path
    rw [sortPaths, List.mem_mergeSort]
    exact h path

theorem lists_nil (shown : Set String) (h : ∀ path, path ∉ shown) : Lists (.ok []) shown :=
  ⟨[], rfl, List.Pairwise.nil, by simpa using h⟩

theorem FilePath.reserved_iff (file : FilePath) :
    isReservedArtifactPath file.text = startsWith file.text artifactsRoot := by
  rw [isReservedArtifactPath, file.normalize_text]

theorem Directory.reserved_iff (dir : Directory) :
    isReservedArtifactPath dir.text = startsWith dir.text artifactsRoot := by
  rw [isReservedArtifactPath, dir.normalize_text]

/-- The text of a file below a directory other than the root. -/
theorem FilePath.text_of_isBelow {file rel : FilePath} {dir : Directory}
    (h : file.isBelow dir rel) (hdir : dir.names ≠ []) :
    file.text.toList = dir.text.toList ++ '/' :: rel.text.toList := by
  simp only [FilePath.text, Directory.text, String.toList_ofList]
  rw [show file.names = dir.names ++ rel.names from h,
    joinNames_append _ _ hdir rel.nonempty]

/-- Files below a reserved directory are reserved. -/
theorem listing_reserved {files : Set FilePath} {dir : Directory} {glob : String}
    (h : isReservedArtifactPath dir.text = true) (path : String) :
    path ∉ listing files dir glob := by
  rintro ⟨file, -, rfl, hfree, rel, hbelow, -⟩
  have hdir : dir.names ≠ [] := by
    intro hnil
    rw [dir.reserved_iff, Directory.text, hnil] at h
    exact absurd h (by decide)
  rw [dir.reserved_iff, startsWith, List.isPrefixOf_iff_prefix] at h
  have hreserved : isReservedArtifactPath file.text = true := by
    rw [file.reserved_iff, startsWith, List.isPrefixOf_iff_prefix, file.text_of_isBelow hbelow hdir]
    exact h.trans (List.prefix_append _ _)
  simp [hreserved] at hfree

theorem plainBytes_of_literal (text : List Char) (hstar : '*' ∉ text) (hquestion : '?' ∉ text) :
    ∀ byte ∈ textBytes text, byte ≠ 42 ∧ byte ≠ 63 := by
  intro byte hbyte
  obtain ⟨c, hc, hencoded⟩ := List.mem_flatMap.mp hbyte
  constructor
  · rintro rfl
    have hcode := mem_utf8EncodeChar_ascii (by decide) hencoded
    have hchar : c = '*' := Char.ext (UInt32.toNat_inj.mp hcode)
    exact hstar (hchar ▸ hc)
  · rintro rfl
    have hcode := mem_utf8EncodeChar_ascii (by decide) hencoded
    have hchar : c = '?' := Char.ext (UInt32.toNat_inj.mp hcode)
    exact hquestion (hchar ▸ hc)

theorem mem_joinNames {c : Char} {names : List Name} (h : c ∈ joinNames names) :
    c = '/' ∨ ∃ name ∈ names, c ∈ name := by
  induction names with
  | nil => simp [joinNames] at h
  | cons name names ih =>
      cases names with
      | nil => exact Or.inr ⟨name, by simp, by simpa [joinNames] using h⟩
      | cons next names =>
          simp only [joinNames, List.intercalate_cons_cons, List.mem_append, List.mem_cons,
            List.not_mem_nil, or_false] at h ih
          rcases h with (hname | rfl) | hrest
          · exact Or.inr ⟨name, by simp, hname⟩
          · exact Or.inl rfl
          · rcases ih hrest with rfl | ⟨other, hother, hmem⟩
            · exact Or.inl rfl
            · exact Or.inr ⟨other, by simp [hother], hmem⟩

theorem Directory.Literal.text {dir : Directory} (h : dir.Literal) :
    '*' ∉ dir.text.toList ∧ '?' ∉ dir.text.toList := by
  rw [Directory.text, String.toList_ofList]
  constructor
  all_goals
    intro hmem
    rcases mem_joinNames hmem with hslash | ⟨name, hname, hchar⟩
    · simp at hslash
    · have hplain := h name hname
      simp_all

theorem FilePath.isBelow_root {file rel : FilePath} {dir : Directory} (h : dir.names = []) :
    file.isBelow dir rel ↔ file = rel := by
  rw [FilePath.isBelow, h, List.nil_append, FilePath.mk.injEq]

theorem Directory.isEmpty_text (dir : Directory) : dir.text.isEmpty = true ↔ dir.names = [] := by
  rw [String.isEmpty_iff, Directory.text, String.ofList_eq_empty_iff, joinNames_eq_nil dir.proper]

theorem FilePath.text_ne_empty (file : FilePath) : file.text.isEmpty = false := by
  rw [← Bool.not_eq_true, String.isEmpty_iff, FilePath.text, String.ofList_eq_empty_iff,
    joinNames_eq_nil file.proper]
  exact file.nonempty

theorem Directory.normalize_spelling {dir : Directory} {base : String} (h : base ∈ dir.spellings) :
    normalizeWorkspacePath base = dir.text := by
  unfold Directory.spellings at h
  split_ifs at h with hroot
  · rw [Directory.text, hroot]
    simp only [List.mem_cons, List.not_mem_nil, or_false] at h
    rcases h with rfl | rfl <;> decide
  · obtain rfl := List.mem_singleton.mp h
    exact dir.normalize_text

/-- With no wildcard in the base directory, the pattern for whole paths matches the files below
it that the glob matches there. -/
theorem globMatch_basePattern {dir : Directory} (h : dir.Literal) (file : FilePath)
    (glob : String) :
    globMatch file.text (basePattern dir.text glob) = true ↔
      ∃ rel, file.isBelow dir rel ∧ globMatch rel.text (normalizedGlobPattern glob) = true := by
  by_cases hroot : dir.names = []
  · rw [basePattern, if_pos ((dir.isEmpty_text).mpr hroot)]
    simp only [FilePath.isBelow_root hroot, exists_eq_left']
  · rw [basePattern, if_neg (fun hempty => hroot ((dir.isEmpty_text).mp hempty))]
    have hplain : ∀ byte ∈ textBytes (dir.text.toList ++ ['/']), byte ≠ 42 ∧ byte ≠ 63 :=
      plainBytes_of_literal _ (by simpa using h.text.1) (by simpa using h.text.2)
    have hpattern : textBytes (dir.text ++ "/" ++ normalizedGlobPattern glob).toList =
        textBytes (dir.text.toList ++ ['/']) ++ textBytes (normalizedGlobPattern glob).toList := by
      rw [String.toList_append, String.toList_append, textBytes_append]
      rfl
    rw [globMatch, hpattern, globMatchBytes_append _ _ _ hplain]
    constructor
    · rintro ⟨rest, hpath, hmatch⟩
      obtain ⟨tail, htext, rfl⟩ := textBytes_prefix _ _ _ hpath
      rw [List.append_assoc, List.singleton_append] at htext
      simp only [FilePath.text, Directory.text, String.toList_ofList] at htext
      obtain ⟨back, hback, hnames, rfl⟩ :=
        joinNames_behind _ _ _ dir.proper file.proper hroot file.nonempty htext
      have hproper : ∀ name ∈ back, SegmentName name := fun name hname =>
        file.proper name (by simp [hnames, hname])
      refine ⟨⟨back, hproper, hback⟩, hnames, ?_⟩
      rw [globMatch, FilePath.text, String.toList_ofList]
      exact hmatch
    · rintro ⟨rel, hbelow, hmatch⟩
      refine ⟨textBytes rel.text.toList, ?_, hmatch⟩
      rw [file.text_of_isBelow hbelow hroot, ← textBytes_append, List.append_assoc,
        List.singleton_append]

/-- The listing of a backend that matches whole paths. -/
theorem lists_matched {files : Set FilePath} {dir : Directory} (glob : String)
    (hliteral : dir.Literal) (paths : List String) (hnodup : paths.Nodup)
    (hpaths : ∀ path, path ∈ paths ↔ ∃ file ∈ files, path = file.text) :
    Lists (.ok (sortPaths (paths.filter fun path =>
      !isReservedArtifactPath path && globMatch path (basePattern dir.text glob))))
      (listing files dir glob) := by
  refine lists_sortPaths _ (hnodup.filter _) _ fun path => ?_
  rw [List.mem_filter, hpaths, Bool.and_eq_true, Bool.not_eq_true']
  constructor
  · rintro ⟨⟨file, hfile, rfl⟩, hfree, hmatch⟩
    exact ⟨file, hfile, rfl, hfree, (globMatch_basePattern hliteral file glob).mp hmatch⟩
  · rintro ⟨file, hfile, rfl, hfree, hrel⟩
    exact ⟨⟨file, hfile, rfl⟩, hfree, (globMatch_basePattern hliteral file glob).mpr hrel⟩

theorem MemoryWorkspace.listFiles_lists {workspace : MemoryWorkspace} {files : Set FilePath}
    {dir : Directory} {base : String} (glob : String) (hbase : base ∈ dir.spellings)
    (hfiles : workspace.Holds files)
    (hdir : dir.Literal ∨ isReservedArtifactPath dir.text = true) :
    Lists (workspace.listFiles base glob) (listing files dir glob) := by
  simp only [listFiles, dir.normalize_spelling hbase]
  by_cases hreserved : isReservedArtifactPath dir.text = true
  · rw [if_pos hreserved]
    exact lists_nil _ (listing_reserved hreserved)
  · rw [if_neg hreserved]
    refine lists_matched glob (hdir.resolve_right hreserved) _ (Table.nodup_keys _) fun path => ?_
    rw [← hfiles path, Option.isSome_iff_exists, List.mem_map]
    constructor
    · rintro ⟨⟨key, row⟩, hmem, rfl⟩
      exact ⟨row, (Table.mem_toList _ _ _).mp hmem⟩
    · rintro ⟨row, hrow⟩
      exact ⟨(path, row), (Table.mem_toList _ _ _).mpr hrow, rfl⟩

namespace S3Workspace

theorem stripLead_append (lead rest : List Char) : stripLead lead (lead ++ rest) = some rest := by
  rw [stripLead, if_pos (List.isPrefixOf_iff_prefix.mpr (List.prefix_append _ _)),
    List.drop_left]

theorem relativeKey_objectKey (lead : Directory) (file : FilePath) :
    relativeKey lead.text (objectKey lead.text file.text) = some file.text := by
  have hfile := file.text_ne_empty
  cases hlead : lead.text.isEmpty with
  | true => simp [relativeKey, objectKey, hlead, file.normalize_text]
  | false =>
      have hkey : objectKey lead.text file.text = lead.text ++ "/" ++ file.text := by
        simp [objectKey, hlead, file.normalize_text, hfile]
      have hne : lead.text ++ "/" ++ file.text ≠ lead.text := by
        intro h
        have hlength := congrArg String.length h
        have hslash : "/".length = 1 := rfl
        rw [String.length_append, String.length_append] at hlength
        omega
      have hstrip : stripLead (lead.text ++ "/").toList (lead.text ++ "/" ++ file.text).toList =
          some file.text.toList := by
        simp only [String.toList_append]
        exact stripLead_append _ _
      rw [hkey, relativeKey, hlead, if_neg (by simp), if_neg hne, hstrip, Option.map_some,
        String.ofList_toList, file.normalize_text]

theorem Holds.mem_paths {workspace : S3Workspace} {files : Set FilePath}
    (h : workspace.Holds files) (path : String) :
    path ∈ workspace.locations.filterMap (relativeKey workspace.lead.text) ↔
      ∃ file ∈ files, path = file.text := by
  rw [List.mem_filterMap]
  constructor
  · rintro ⟨location, hlocation, hkey⟩
    obtain ⟨file, hfile, rfl⟩ := (h.2 location).mp hlocation
    rw [relativeKey_objectKey] at hkey
    exact ⟨file, hfile, (Option.some.inj hkey).symm⟩
  · rintro ⟨file, hfile, rfl⟩
    exact ⟨_, (h.2 _).mpr ⟨file, hfile, rfl⟩, relativeKey_objectKey _ _⟩

theorem Holds.nodup_paths {workspace : S3Workspace} {files : Set FilePath}
    (h : workspace.Holds files) :
    (workspace.locations.filterMap (relativeKey workspace.lead.text)).Nodup := by
  refine List.pairwise_filterMap.mpr (h.1.imp_of_mem ?_)
  intro first second hfirst hsecond hne path hpath path' hpath' heq
  obtain ⟨file, -, rfl⟩ := (h.2 first).mp hfirst
  obtain ⟨other, -, rfl⟩ := (h.2 second).mp hsecond
  rw [relativeKey_objectKey, Option.some.injEq] at hpath hpath'
  have hsame : file = other := FilePath.text_inj (by rw [hpath, hpath', heq])
  exact hne (by rw [hsame])

theorem listFiles_lists {workspace : S3Workspace} {files : Set FilePath}
    {dir : Directory} {base : String} (glob : String) (hbase : base ∈ dir.spellings)
    (hfiles : workspace.Holds files)
    (hdir : dir.Literal ∨ isReservedArtifactPath dir.text = true) :
    Lists (workspace.listFiles base glob) (listing files dir glob) := by
  simp only [listFiles, dir.normalize_spelling hbase]
  by_cases hreserved : isReservedArtifactPath dir.text = true
  · rw [if_pos hreserved]
    exact lists_nil _ (listing_reserved hreserved)
  · rw [if_neg hreserved]
    have hlisted := lists_matched glob (hdir.resolve_right hreserved) _ hfiles.nodup_paths
      hfiles.mem_paths
    -- Directory markers are dropped, of which the store has none here.
    rw [List.filter_congr (q := fun path =>
      !isReservedArtifactPath path && globMatch path (basePattern dir.text glob))]
    · exact hlisted
    · intro path hpath
      obtain ⟨file, -, rfl⟩ := (hfiles.mem_paths path).mp hpath
      have hlast := getLast?_joinNames file.proper
      have hend : (file.text.toList.getLast? != some '/') = true := by
        rw [bne_iff_ne, FilePath.text, String.toList_ofList]
        exact hlast
      simp [file.text_ne_empty, hend]

end S3Workspace

namespace LocalWorkspace

theorem plain_below {tree : FileTree} {root : Place} (hroot : tree.isDir root = true)
    (hfree : ∀ back, tree.isLink (root ++ back) = false) (back : Place) :
    tree.Plain (root ++ back) := by
  intro front hfront
  rcases List.prefix_or_prefix_of_prefix hfront (List.prefix_append root back) with hshort | hlong
  · obtain ⟨rest, hrest⟩ := hshort
    by_cases hnil : rest = []
    · rw [hnil, List.append_nil] at hrest
      simpa [hrest] using hfree []
    · have hnode : tree.node (front ++ rest) ≠ none := by
        rw [hrest]
        exact (FileTree.settled_of_isDir hroot).1
      exact (FileTree.settled_of_isDir
        (FileTree.isDir_iff.mpr (FileTree.node_above rest front hnil hnode))).2
  · obtain ⟨rest, rfl⟩ := hlong
    exact hfree rest

theorem proper_below {tree : FileTree} {root : Place} (hroot : tree.isDir root = true)
    (dir : Directory) : ∀ name ∈ root ++ dir.names, ProperName name := by
  intro name hname
  rcases List.mem_append.mp hname with hroots | hdir
  · exact FileTree.proper_of_node (FileTree.settled_of_isDir hroot).1 name hroots
  · exact (dir.proper name hdir).toProperName

/-- An empty piece, or one that is a dot, leads nowhere. -/
theorem canonicalize_here {tree : FileTree} {root : Place} (hroot : tree.isDir root = true)
    {piece : Name} (hpiece : piece = [] ∨ piece = ['.']) :
    canonicalize tree (root ++ [piece]) = .ok root := by
  have hsettled := FileTree.settled_of_isDir hroot
  rw [canonicalize, FileTree.lookup, FileTree.seek_append_settled false _ root [] [piece] hsettled]
  simp [FileTree.maxLinks, FileTree.seek, FileTree.stepThrough, hroot, hpiece, Except.map]

/-- A spelling of a directory resolves to the directory. -/
theorem resolve_spelling {tree : FileTree} {root : Place} {dir : Directory} {base : String}
    (hbase : base ∈ dir.spellings) (hroot : tree.isDir root = true)
    (hfree : ∀ back, tree.isLink (root ++ back) = false) :
    resolveExistingOrParent tree (root ++ base.toList.splitOn '/') = root ++ dir.names := by
  unfold Directory.spellings at hbase
  split_ifs at hbase with hnames
  · have hpiece : ∃ piece, base.toList.splitOn '/' = [piece] ∧ (piece = [] ∨ piece = ['.']) := by
      simp only [List.mem_cons, List.not_mem_nil, or_false] at hbase
      rcases hbase with rfl | rfl
      · exact ⟨[], by decide, Or.inl rfl⟩
      · exact ⟨['.'], by decide, Or.inr rfl⟩
    obtain ⟨piece, hsplit, hpiece⟩ := hpiece
    rw [hsplit, resolveExistingOrParent, canonicalize_here hroot hpiece, hnames, List.append_nil]
  · obtain rfl := List.mem_singleton.mp hbase
    rw [Directory.text, String.toList_ofList, splitOn_joinNames dir.names dir.proper hnames]
    exact resolveExistingOrParent_plain (proper_below hroot dir)
      (plain_below hroot hfree dir.names)

theorem expandHomePath_spelling (workspace : LocalWorkspace) {dir : Directory} {base : String}
    (hbase : base ∈ dir.spellings) (hhome : dir.names.head? ≠ some ['~']) :
    workspace.expandHomePath base.toList = base.toList := by
  apply expandHomePath_of_ne
  unfold Directory.spellings at hbase
  split_ifs at hbase with hnames
  · simp only [List.mem_cons, List.not_mem_nil, or_false] at hbase
    rcases hbase with rfl | rfl <;> decide
  · obtain rfl := List.mem_singleton.mp hbase
    rw [Directory.text, String.toList_ofList, splitOn_joinNames dir.names dir.proper hnames]
    exact hhome

theorem isAbsolutePath_spelling {dir : Directory} {base : String} (hbase : base ∈ dir.spellings) :
    isAbsolutePath base.toList = false := by
  unfold Directory.spellings at hbase
  split_ifs at hbase with hnames
  · simp only [List.mem_cons, List.not_mem_nil, or_false] at hbase
    rcases hbase with rfl | rfl <;> decide
  · obtain rfl := List.mem_singleton.mp hbase
    rw [isAbsolutePath, beq_eq_false_iff_ne, Directory.text, String.toList_ofList]
    exact head?_joinNames dir.proper

theorem resolvePath_spelling {workspace : LocalWorkspace} {tree : FileTree} {root : Place}
    {dir : Directory} {base : String} (hbase : base ∈ dir.spellings)
    (hhome : dir.names.head? ≠ some ['~']) (hcanonical : canonicalize tree workspace.root = .ok root)
    (hroot : tree.isDir root = true) (hfree : ∀ back, tree.isLink (root ++ back) = false) :
    workspace.resolvePath tree base = .ok (root ++ dir.names) := by
  have hnormalized : workspace.normalizedRoot tree = root := by
    rw [normalizedRoot, hcanonical]
  have hinside : root.isPrefixOf (root ++ dir.names) = true :=
    List.isPrefixOf_iff_prefix.mpr (List.prefix_append _ _)
  simp only [resolvePath, hnormalized, workspace.expandHomePath_spelling hbase hhome,
    isAbsolutePath_spelling hbase, Bool.false_eq_true, if_false,
    resolve_spelling hbase hroot hfree, hinside, Bool.not_true, Bool.and_false, refuse_false,
    ok_bind, pure_ok]

theorem artifactSegments_free {dir : Directory} {base : String} (hbase : base ∈ dir.spellings)
    (hfree : isReservedArtifactPath dir.text = false) : artifactSegments base = .ok none := by
  have hnormalized : isReservedArtifactPath (normalizeWorkspacePath base) = false := by
    rw [dir.normalize_spelling hbase, hfree]
  unfold artifactSegments
  simp [hnormalized]

theorem exclusiveWorkspacePath_text {dir : Directory} (hnames : dir.names ≠ [])
    (habsolute : isAbsolutePath dir.text.toList = false) :
    exclusiveWorkspacePath dir.text = .ok dir.text := by
  have hslash : '\\' ∉ dir.text.toList := by
    rw [Directory.text, String.toList_ofList]
    exact joinNames_not_backslash dir.names dir.proper
  have hnul : Char.ofNat 0 ∉ dir.text.toList := by
    rw [Directory.text, String.toList_ofList]
    intro hmem
    rcases mem_joinNames hmem with hsep | ⟨name, hname, hchar⟩
    · exact absurd hsep (by decide)
    · exact (dir.proper name hname).noNul hchar
  have hsplit : dir.text.toList.splitOn '/' = dir.names := by
    rw [Directory.text, String.toList_ofList, splitOn_joinNames dir.names dir.proper hnames]
  have hproper : (dir.names.any fun name =>
      decide (name = [] ∨ name = ['.'] ∨ name = ['.', '.'])) = false := by
    rw [List.any_eq_false]
    intro name hname
    have h := dir.proper name hname
    simp [h.nonempty, h.notHere, h.notUp]
  simp only [exclusiveWorkspacePath, habsolute, List.contains_eq_mem, hslash, hnul, hsplit, hproper,
    decide_false, Bool.or_self, refuse_false, ok_bind, pure_ok]
  rfl

theorem artifactSegments_reserved {dir : Directory} {base : String} (hbase : base ∈ dir.spellings)
    (hreserved : isReservedArtifactPath dir.text = true) :
    ∃ segments, artifactSegments base = .ok (some segments) := by
  have habsolute := isAbsolutePath_spelling hbase
  have hlead : artifactsRoot.toList <+: dir.text.toList := by
    rwa [dir.reserved_iff, startsWith, List.isPrefixOf_iff_prefix] at hreserved
  have hhead : dir.text.toList.head? = some '.' := by
    obtain ⟨rest, hrest⟩ := hlead
    rw [← hrest]
    rfl
  have hnames : dir.names ≠ [] := by
    intro hnil
    rw [Directory.text, hnil] at hhead
    exact absurd hhead (by decide)
  have hspelled : base = dir.text := by
    unfold Directory.spellings at hbase
    rw [if_neg hnames] at hbase
    exact List.mem_singleton.mp hbase
  subst hspelled
  have hbackslash : ¬(isAbsolutePath dir.text.toList = true ∨
      dir.text.toList.head? = some '\\') := by
    simp [habsolute, hhead]
  rw [artifactSegments, if_neg hbackslash, dir.normalize_text, if_pos hreserved,
    exclusiveWorkspacePath_text hnames habsolute]
  exact ⟨_, rfl⟩

/-- Nothing is below what is not a directory. -/
theorem listing_missing {tree : FileTree} {root : Place} {files : Set FilePath} {dir : Directory}
    {glob : String} (hfile : ∀ back, tree.isFile (root ++ back) = true ↔
      ∃ file ∈ files, file.names = back)
    (hdir : tree.isDir (root ++ dir.names) = false) (path : String) :
    path ∉ listing files dir glob := by
  rintro ⟨file, hmem, -, -, rel, hbelow, -⟩
  have hnode : tree.node (root ++ dir.names ++ rel.names) ≠ none := by
    have hisfile := (hfile file.names).mpr ⟨file, hmem, rfl⟩
    rw [show file.names = dir.names ++ rel.names from hbelow, ← List.append_assoc] at hisfile
    exact FileTree.node_of_isFile hisfile
  have hisdir := FileTree.isDir_iff.mpr (FileTree.node_above _ _ rel.nonempty hnode)
  rw [hisdir] at hdir
  exact absurd hdir (by decide)

theorem pathToPosix_names {names : List Name} (h : ∀ name ∈ names, SegmentName name) :
    pathToPosix names = .ofList (joinNames names) := by
  rw [pathToPosix, replaced_eq_self (joinNames_not_backslash names h)]

theorem outputPath_file (root : Place) (file : FilePath) :
    outputPath root (root ++ file.names) = file.text := by
  have hempty := file.text_ne_empty
  rw [FilePath.text] at hempty
  rw [outputPath, if_pos (List.isPrefixOf_iff_prefix.mpr (List.prefix_append _ _)), List.drop_left,
    pathToPosix_names file.proper]
  simp [hempty, FilePath.text]

/-- The files a walk of the directory shows. -/
theorem listedPath_iff {workspace : LocalWorkspace} {tree : FileTree} {root : Place}
    {files : Set FilePath} {dir : Directory} {pattern path : String} {back : List Name}
    (hnormalized : workspace.normalizedRoot tree = root)
    (hfile : ∀ back, tree.isFile (root ++ back) = true ↔ ∃ file ∈ files, file.names = back)
    (hback : back ≠ []) :
    workspace.listedPath tree (root ++ dir.names) pattern
        ⟨back, some (root ++ dir.names ++ back)⟩ = some path ↔
      ∃ file ∈ files, path = file.text ∧ isReservedArtifactPath path = false ∧
        ∃ rel : FilePath, rel.names = back ∧ file.isBelow dir rel ∧
          globMatch rel.text pattern = true := by
  have hshown : workspace.listedPath tree (root ++ dir.names) pattern
      ⟨back, some (root ++ dir.names ++ back)⟩ = some path ↔
      tree.isFile (root ++ (dir.names ++ back)) = true ∧
        globMatch (pathToPosix back) pattern = true ∧ isReservedArtifactPath path = false ∧
        path = outputPath root (root ++ (dir.names ++ back)) := by
    simp only [listedPath, hnormalized, List.append_assoc, Option.ite_none_right_eq_some,
      Option.ite_none_left_eq_some, Bool.and_eq_true, Bool.not_eq_true, Option.some.injEq]
    constructor
    · rintro ⟨⟨hisfile, hmatch⟩, hfree, rfl⟩
      exact ⟨hisfile, hmatch, hfree, rfl⟩
    · rintro ⟨hisfile, hmatch, hfree, rfl⟩
      exact ⟨⟨hisfile, hmatch⟩, hfree, rfl⟩
  rw [hshown, hfile]
  constructor
  · rintro ⟨⟨file, hmem, hnames⟩, hmatch, hfree, hpath⟩
    have hproper : ∀ name ∈ back, SegmentName name := fun name hname =>
      file.proper name (by simp [hnames, hname])
    rw [← hnames, outputPath_file] at hpath
    rw [pathToPosix_names hproper] at hmatch
    exact ⟨file, hmem, hpath, hfree, ⟨back, hproper, hback⟩, rfl, hnames, hmatch⟩
  · rintro ⟨file, hmem, hpath, hfree, rel, rfl, hbelow, hmatch⟩
    refine ⟨⟨file, hmem, hbelow⟩, ?_, hfree, ?_⟩
    · rw [pathToPosix_names rel.proper]
      exact hmatch
    · rw [← show file.names = dir.names ++ rel.names from hbelow, outputPath_file]
      exact hpath

theorem listFiles_lists {workspace : LocalWorkspace} {tree : FileTree} {files : Set FilePath}
    {dir : Directory} {base : String} (glob : String) (hbase : base ∈ dir.spellings)
    (hfiles : workspace.Holds tree files) (hhome : dir.names.head? ≠ some ['~']) :
    Lists (workspace.listFiles tree base glob) (listing files dir glob) := by
  obtain ⟨root, hcanonical, hroot, hfree, hfile⟩ := hfiles
  by_cases hreserved : isReservedArtifactPath dir.text = true
  · obtain ⟨segments, hsegments⟩ := artifactSegments_reserved hbase hreserved
    simp only [listFiles, hsegments, ok_bind, Option.isSome_some, if_true, pure_ok]
    exact lists_nil _ (listing_reserved hreserved)
  · rw [Bool.not_eq_true] at hreserved
    simp only [listFiles, artifactSegments_free hbase hreserved, ok_bind, Option.isSome_none,
      Bool.false_eq_true, if_false, resolvePath_spelling hbase hhome hcanonical hroot hfree]
    have hnormalized : workspace.normalizedRoot tree = root := by
      rw [normalizedRoot, hcanonical]
    have hbelow : ∀ back, tree.isLink (root ++ dir.names ++ back) = false := by
      intro back
      rw [List.append_assoc]
      exact hfree _
    by_cases hnode : tree.node (root ++ dir.names) = none
    · obtain ⟨error, herror⟩ := FileTree.lookup_missing FileTree.maxLinks (root ++ dir.names)
        (proper_below hroot dir) (plain_below hroot hfree dir.names) hnode
      rw [herror]
      exact lists_nil _ (listing_missing hfile (by simp [FileTree.isDir, hnode]))
    · have hsettled : tree.Settled ([] ++ (root ++ dir.names)) := ⟨hnode, hfree dir.names⟩
      rw [FileTree.lookup_of_settled _ _ [] hsettled]
      dsimp only
      by_cases hdir : tree.isDir (root ++ dir.names) = true
      · rw [List.nil_append, if_pos hdir]
        refine lists_sortPaths _ ?_ _ fun path => ?_
        · refine List.pairwise_filterMap.mpr ((List.pairwise_map.mp
            (FileTree.nodup_descend _ _ _ _)).imp_of_mem ?_)
          intro first second hfirst hsecond hne path hpath path' hpath' heq
          subst heq
          obtain ⟨back, hback, -, rfl⟩ := (FileTree.mem_walk _ _ hbelow).mp hfirst
          obtain ⟨back', hback', -, rfl⟩ := (FileTree.mem_walk _ _ hbelow).mp hsecond
          obtain ⟨file, -, htext, -, rel, rfl, hrel, -⟩ :=
            (listedPath_iff hnormalized hfile hback).mp hpath
          obtain ⟨file', -, htext', -, rel', rfl, hrel', -⟩ :=
            (listedPath_iff hnormalized hfile hback').mp hpath'
          obtain rfl := FilePath.text_inj (htext.symm.trans htext')
          exact hne (List.append_cancel_left (hrel.symm.trans hrel'))
        · rw [List.mem_filterMap]
          constructor
          · rintro ⟨entry, hentry, hshown⟩
            obtain ⟨back, hback, -, rfl⟩ := (FileTree.mem_walk _ _ hbelow).mp hentry
            obtain ⟨file, hmem, hpath, hfree, rel, -, hrest⟩ :=
              (listedPath_iff hnormalized hfile hback).mp hshown
            exact ⟨file, hmem, hpath, hfree, rel, hrest⟩
          · rintro ⟨file, hmem, hpath, hfree, rel, hrel, hmatch⟩
            refine ⟨⟨rel.names, some (root ++ dir.names ++ rel.names)⟩,
              (FileTree.mem_walk _ _ hbelow).mpr ⟨rel.names, rel.nonempty, ?_, rfl⟩,
              (listedPath_iff hnormalized hfile rel.nonempty).mpr
                ⟨file, hmem, hpath, hfree, rel, rfl, hrel, hmatch⟩⟩
            have hisfile := (hfile file.names).mpr ⟨file, hmem, rfl⟩
            rw [show file.names = dir.names ++ rel.names from hrel, ← List.append_assoc] at hisfile
            exact FileTree.node_of_isFile hisfile
      · rw [List.nil_append, if_neg hdir]
        exact lists_nil _ (listing_missing hfile (by simpa using hdir))

end LocalWorkspace

/-- What stands before and after one of the names in their text. -/
theorem joinNames_middle (front back : List Name) :
    ∃ before after, (∀ c ∈ before, c = '/' ∨ ∃ name ∈ front, c ∈ name) ∧
      ∀ name, joinNames (front ++ name :: back) = before ++ name ++ after := by
  have hafter : ∃ after, ∀ name, joinNames (name :: back) = name ++ after := by
    by_cases hback : back = []
    · exact ⟨[], fun name => by simp [hback, joinNames]⟩
    · refine ⟨'/' :: joinNames back, fun name => ?_⟩
      simp [joinNames, List.intercalate_cons_of_ne_nil hback]
  obtain ⟨after, hafter⟩ := hafter
  by_cases hfront : front = []
  · exact ⟨[], after, by simp, fun name => by simp [hfront, hafter]⟩
  · refine ⟨joinNames front ++ ['/'], after, ?_, fun name => ?_⟩
    · intro c hc
      rcases List.mem_append.mp hc with hmem | hmem
      · exact mem_joinNames hmem
      · exact Or.inl (List.mem_singleton.mp hmem)
    · rw [joinNames_append _ _ hfront (by simp), hafter]
      simp

def isWildcard (c : Char) : Bool := c == '*' || c == '?'

/-- The first wildcard of a list of names. -/
theorem first_wildcard (names : List Name) (h : ¬∀ name ∈ names, '*' ∉ name ∧ '?' ∉ name) :
    ∃ front plain wild tail back, names = front ++ (plain ++ wild :: tail) :: back ∧
      isWildcard wild = true ∧ (∀ c ∈ plain, isWildcard c = false) ∧
      ∀ name ∈ front, ∀ c ∈ name, isWildcard c = false := by
  have hsome : (names.find? fun name => name.any isWildcard).isSome = true := by
    rw [List.find?_isSome]
    by_contra hnone
    refine h fun name hname => ?_
    have hplain : ∀ c ∈ name, isWildcard c = false := by
      simpa using fun hany => hnone ⟨name, hname, hany⟩
    exact ⟨fun hstar => absurd (hplain _ hstar) (by decide),
      fun hquestion => absurd (hplain _ hquestion) (by decide)⟩
  obtain ⟨name, hname⟩ := Option.isSome_iff_exists.mp hsome
  obtain ⟨hwild, front, back, hnames, hfront⟩ := List.find?_eq_some_iff_append.mp hname
  have hchar : (name.find? isWildcard).isSome = true := by
    rwa [List.find?_isSome, ← List.any_eq_true]
  obtain ⟨wild, hfirst⟩ := Option.isSome_iff_exists.mp hchar
  obtain ⟨hiswild, plain, tail, hsplit, hplain⟩ := List.find?_eq_some_iff_append.mp hfirst
  refine ⟨front, plain, wild, tail, back, by rw [hnames, hsplit], hiswild, ?_, ?_⟩
  · intro c hc
    simpa using hplain c hc
  · intro other hother c hc
    have hnone := hfront other hother
    simp only [Bool.not_eq_true', List.any_eq_false] at hnone
    simpa using hnone c hc

theorem plainBytes_of_isWildcard (text : List Char) (h : ∀ c ∈ text, isWildcard c = false) :
    ∀ byte ∈ textBytes text, byte ≠ 42 ∧ byte ≠ 63 :=
  plainBytes_of_literal text (fun hstar => absurd (h _ hstar) (by decide))
    (fun hquestion => absurd (h _ hquestion) (by decide))

/-- A name with a letter where another has a wildcard. -/
theorem SegmentName.swap {plain tail : List Char} {wild : Char}
    (h : SegmentName (plain ++ wild :: tail)) : SegmentName (plain ++ 'x' :: tail) := by
  have hslash := h.noSlash
  have hnul := h.noNul
  have hbackslash := h.noBackslash
  simp only [List.mem_append, List.mem_cons, not_or] at hslash hnul hbackslash
  have hx (dots : List Char) (hdots : 'x' ∉ dots) : plain ++ 'x' :: tail ≠ dots := by
    rintro rfl
    exact hdots (by simp)
  refine ⟨⟨hx _ (by simp), hx _ (by decide), hx _ (by decide), ?_, ?_⟩, ?_⟩
  · simp [hslash.1, hslash.2.2]
  · simp [hnul.1, hnul.2.2]
  · simp [hbackslash.1, hbackslash.2.2]

/-- A file outside a directory whose name, read as a pattern, matches the file's directory. -/
theorem Directory.impostor (dir : Directory) (hwild : ¬dir.Literal)
    (hfree : isReservedArtifactPath dir.text = false) :
    ∃ file : FilePath, isReservedArtifactPath file.text = false ∧
      globMatch file.text (basePattern dir.text "f") = true ∧ ∀ rel, ¬file.isBelow dir rel := by
  obtain ⟨front, plain, wild, tail, back, hnames, hiswild, hplain, hfront⟩ :=
    first_wildcard dir.names hwild
  obtain ⟨before, after, hbefore, hjoin⟩ := joinNames_middle front back
  have hlead : ∀ c ∈ before ++ plain, isWildcard c = false := by
    intro c hc
    rcases List.mem_append.mp hc with hmem | hmem
    · rcases hbefore c hmem with rfl | ⟨name, hname, hchar⟩
      · rfl
      · exact hfront name hname c hchar
    · exact hplain c hmem
  have hdir : dir.text.toList = before ++ plain ++ wild :: (tail ++ after) := by
    rw [Directory.text, String.toList_ofList, hnames, hjoin]
    simp
  have hproper : ∀ name ∈ front ++ (plain ++ 'x' :: tail) :: back ++ [['f']], SegmentName name := by
    intro name hname
    simp only [List.mem_append, List.mem_cons, List.not_mem_nil, or_false] at hname
    rcases hname with (hmem | rfl | hmem) | rfl
    · exact dir.proper name (by simp [hnames, hmem])
    · exact (dir.proper (plain ++ wild :: tail) (by simp [hnames])).swap
    · exact dir.proper name (by simp [hnames, hmem])
    · decide
  let file : FilePath := ⟨front ++ (plain ++ 'x' :: tail) :: back ++ [['f']], hproper, by simp⟩
  have hfile : file.text.toList = before ++ plain ++ 'x' :: (tail ++ after ++ ['/', 'f']) := by
    rw [FilePath.text, String.toList_ofList, joinNames_append _ _ (by simp) (by simp), hjoin]
    simp [joinNames]
  refine ⟨file, ?_, ?_, ?_⟩
  · rw [file.reserved_iff, startsWith, hfile, ← Bool.not_eq_true, List.isPrefixOf_iff_prefix]
    intro hreserved
    rw [dir.reserved_iff, startsWith, hdir, ← Bool.not_eq_true, List.isPrefixOf_iff_prefix] at hfree
    have hx : 'x' ∉ artifactsRoot.toList := by decide
    rw [List.append_cons] at hreserved
    rcases List.prefix_or_prefix_of_prefix hreserved (List.prefix_append _ _) with hshort | hlong
    · rcases List.prefix_concat_iff.mp hshort with heq | hinside
      · exact hx (by rw [heq]; simp)
      · exact hfree (hinside.trans (List.prefix_append _ _))
    · exact hx (hlong.subset (by simp))
  · have hempty : ¬dir.text.isEmpty = true := by
      rw [dir.isEmpty_text, hnames]
      simp
    have hglob : normalizedGlobPattern "f" = "f" := by decide
    have hpattern : textBytes (basePattern dir.text "f").toList =
        textBytes (before ++ plain) ++ (String.utf8EncodeChar wild ++
          (textBytes (tail ++ after) ++ 47 :: [102])) := by
      rw [basePattern, if_neg hempty, hglob, String.toList_append, String.toList_append, hdir,
        List.append_assoc _ _ "f".toList, textBytes_append, textBytes_append, textBytes_cons,
        List.append_assoc, List.append_assoc]
      rfl
    have hpath : textBytes file.text.toList =
        textBytes (before ++ plain) ++ (120 :: (textBytes (tail ++ after) ++ 47 :: [102])) := by
      rw [hfile, textBytes_append, textBytes_cons, textBytes_append (tail ++ after)]
      rfl
    have hbyte : ∃ byte, String.utf8EncodeChar wild = [byte] ∧ (byte = 42 ∨ byte = 63) := by
      simp only [isWildcard, Bool.or_eq_true, beq_iff_eq] at hiswild
      rcases hiswild with rfl | rfl
      · exact ⟨42, by decide, Or.inl rfl⟩
      · exact ⟨63, by decide, Or.inr rfl⟩
    obtain ⟨byte, hencoded, hbyte⟩ := hbyte
    rw [globMatch, hpattern, hpath, hencoded]
    exact globMatchBytes_instance _ _ [102] [102] 120 byte
      (plainBytes_of_isWildcard _ hlead) hbyte (by decide) (by decide)
  · intro rel hbelow
    have hsame : front ++ (plain ++ 'x' :: tail) :: back ++ [['f']] =
        front ++ (plain ++ wild :: tail) :: back ++ rel.names := by
      rw [← hnames]
      exact hbelow
    simp only [List.append_assoc, List.cons_append, List.append_cancel_left_eq, List.cons.injEq]
      at hsame
    rw [← hsame.1.1] at hiswild
    exact absurd hiswild (by decide)

/-- The in-memory backend with one file, which is empty. -/
def MemoryWorkspace.single (path : String) : MemoryWorkspace where
  files := (∅ : Table ByteArray).insert path ByteArray.empty

theorem MemoryWorkspace.single_holds (file : FilePath) : (single file.text).Holds {file} := by
  intro key
  rw [single, Table.get_insert]
  by_cases hkey : file.text = key
  · subst hkey
    simp
  · have hne : ¬key = file.text := fun h => hkey h.symm
    simp [hkey, hne]

theorem MemoryWorkspace.single_listed {file : FilePath} {dir : Directory} {base glob : String}
    (hbase : base ∈ dir.spellings) (hdir : isReservedArtifactPath dir.text = false)
    (hfree : isReservedArtifactPath file.text = false)
    (hmatch : globMatch file.text (basePattern dir.text glob) = true) (listed : List String)
    (h : (single file.text).listFiles base glob = .ok listed) : file.text ∈ listed := by
  simp only [listFiles, dir.normalize_spelling hbase, hdir, Bool.false_eq_true, if_false,
    Except.ok.injEq] at h
  have hrow : (file.text, ByteArray.empty) ∈ (single file.text).files.toList := by
    rw [Table.mem_toList, single, Table.get_insert, if_pos rfl]
  rw [← h, sortPaths, List.mem_mergeSort, List.mem_filter]
  exact ⟨List.mem_map.mpr ⟨_, hrow, rfl⟩, by simp [hfree, hmatch]⟩

theorem Directory.spellings_text {dir : Directory} (h : dir.names ≠ []) :
    dir.spellings = [dir.text] := by
  rw [Directory.spellings, if_neg h]

namespace LocalWorkspace

/-- A file system with nothing but one directory in it. -/
def bareTree : FileTree where
  nodes := [([['w']], .dir)]
  proper := by decide
  closed := by
    intro place name h
    have hplace : place ++ [name] = [['w']] := by
      simpa [nodeAt] using h
    cases place with
    | nil => rfl
    | cons first rest => simp at hplace

theorem bareTree_node {place : Place} (h : place ≠ [] ∧ place ≠ [['w']]) :
    bareTree.node place = none := by
  simp [FileTree.node, nodeAt, bareTree, h.1, h.2]

theorem bareTree_isLink (place : Place) : bareTree.isLink place = false := by
  by_cases h : place ≠ [] ∧ place ≠ [['w']]
  · simp [FileTree.isLink, bareTree_node h]
  · rw [not_and_or, not_not, not_not] at h
    rcases h with rfl | rfl <;> rfl

theorem bareTree_isFile (place : Place) : bareTree.isFile place = false := by
  by_cases h : place ≠ [] ∧ place ≠ [['w']]
  · simp [FileTree.isFile, bareTree_node h]
  · rw [not_and_or, not_not, not_not] at h
    rcases h with rfl | rfl <;> rfl

/-- The backend over that directory, for a process whose home is elsewhere. -/
def awayFromHome : LocalWorkspace where
  root := [[], ['w']]
  artifactRoot := [[], ['t']]
  home := some ['/', 'h']

theorem awayFromHome_canonical : canonicalize bareTree awayFromHome.root = .ok [['w']] := by
  rfl

theorem awayFromHome_holds : awayFromHome.Holds bareTree ∅ := by
  refine ⟨[['w']], awayFromHome_canonical, rfl, fun back => bareTree_isLink _, fun back => ?_⟩
  simp [bareTree_isFile]

theorem expandHomePath_home (tail : List Name)
    (htail : ∀ name ∈ tail, SegmentName name) :
    awayFromHome.expandHomePath (joinNames (['~'] :: tail)) =
      '/' :: joinNames (['h'] :: tail) := by
  by_cases hnil : tail = []
  · subst hnil
    rfl
  · have habsolute : isAbsolutePath (joinNames tail) = false := by
      rw [isAbsolutePath, beq_eq_false_iff_ne]
      exact head?_joinNames htail
    have hpath (name : Name) : joinNames (name :: tail) = name ++ '/' :: joinNames tail := by
      simp [joinNames, List.intercalate_cons_of_ne_nil hnil]
    rw [hpath, hpath]
    simp [expandHomePath, awayFromHome, habsolute]

theorem listFiles_home {dir : Directory} (hhome : dir.names.head? = some ['~']) (glob : String) :
    ∃ error, awayFromHome.listFiles bareTree dir.text glob = .error error := by
  obtain ⟨tail, hnames⟩ := List.head?_eq_some_iff.mp hhome
  have htail : ∀ name ∈ tail, SegmentName name := fun name hname =>
    dir.proper name (by simp [hnames, hname])
  have hproper : ∀ name ∈ ['h'] :: tail, SegmentName name := by
    intro name hname
    rcases List.mem_cons.mp hname with rfl | hmem
    · decide
    · exact htail name hmem
  have hspelled : dir.text ∈ dir.spellings := by
    simp [Directory.spellings_text (show dir.names ≠ [] by simp [hnames])]
  have hfree : isReservedArtifactPath dir.text = false := by
    rw [dir.reserved_iff, startsWith, ← Bool.not_eq_true, List.isPrefixOf_iff_prefix]
    rintro ⟨rest, hrest⟩
    have hhead := congrArg List.head? hrest
    rw [Directory.text, String.toList_ofList, hnames] at hhead
    cases tail <;> exact absurd hhead (by simp [joinNames, artifactsRoot])
  have hresolved : resolveExistingOrParent bareTree
      (('/' :: joinNames (['h'] :: tail)).splitOn '/') = ['h'] :: tail := by
    have hsplit : ([] ++ '/' :: joinNames (['h'] :: tail)).splitOn '/' =
        [] :: (joinNames (['h'] :: tail)).splitOn '/' :=
      List.splitOn_append_cons_self_of_not_mem (by simp) _
    rw [← List.nil_append ('/' :: joinNames (['h'] :: tail)), hsplit,
      splitOn_joinNames _ hproper (by simp), resolve_rooted]
    exact resolveExistingOrParent_plain (fun name hname => (hproper name hname).toProperName)
      fun front _ => bareTree_isLink front
  have hroot : awayFromHome.normalizedRoot bareTree = [['w']] := by
    rw [normalizedRoot, awayFromHome_canonical]
  refine ⟨⟨.permissionDenied, "Path escapes workspace: " ++ dir.text⟩, ?_⟩
  have hcandidate : awayFromHome.expandHomePath dir.text.toList =
      '/' :: joinNames (['h'] :: tail) := by
    rw [Directory.text, String.toList_ofList, hnames, expandHomePath_home tail htail]
  have hresolve : awayFromHome.resolvePath bareTree dir.text =
      .error ⟨.permissionDenied, "Path escapes workspace: " ++ dir.text⟩ := by
    have habsolute : isAbsolutePath ('/' :: joinNames (['h'] :: tail)) = true := rfl
    have houtside : ([['w']] : Place).isPrefixOf (['h'] :: tail) = false := rfl
    have hinside : awayFromHome.allowOutsideRoot = false := rfl
    simp only [resolvePath, hroot, hcandidate, habsolute, if_true, hresolved, houtside, hinside,
      Bool.not_false, Bool.and_self, refuse_true, error_bind]
  simp only [listFiles, artifactSegments_free hspelled hfree, ok_bind, Option.isSome_none,
    Bool.false_eq_true, if_false, hresolve, error_bind]

end LocalWorkspace

/-- The three backends list the same files below a directory, whatever they hold and whatever
the glob, exactly if the directory's name is not read as something else: as a pattern, by two
of them, or as a path of the home directory, by the third. A reserved directory shows nothing
anyway. -/
theorem backends_list_alike (dir : Directory) :
    (∀ base ∈ dir.spellings, ∀ glob, ListAlike dir base glob) ↔
      dir.names.head? ≠ some ['~'] ∧
        (dir.Literal ∨ isReservedArtifactPath dir.text = true) := by
  constructor
  · intro h
    constructor
    · intro hhome
      have hnames : dir.names ≠ [] := by
        rintro hnil
        simp [hnil] at hhome
      obtain ⟨-, -, hlocal⟩ := h dir.text (by simp [Directory.spellings_text hnames]) "" ∅
      obtain ⟨listed, hlisted, -⟩ := hlocal _ _ LocalWorkspace.awayFromHome_holds
      obtain ⟨error, herror⟩ := LocalWorkspace.listFiles_home hhome ""
      simp [herror] at hlisted
    · by_contra hneither
      rw [not_or, Bool.not_eq_true] at hneither
      obtain ⟨file, hfree, hmatch, houtside⟩ := dir.impostor hneither.1 hneither.2
      obtain ⟨base, hbase⟩ : ∃ base, base ∈ dir.spellings := by
        unfold Directory.spellings
        split_ifs <;> simp
      obtain ⟨hmemory, -⟩ := h base hbase "f" {file}
      obtain ⟨listed, hlisted, -, hmem⟩ := hmemory _ (MemoryWorkspace.single_holds file)
      have hshown := (hmem file.text).mp
        (MemoryWorkspace.single_listed hbase hneither.2 hfree hmatch listed hlisted)
      obtain ⟨other, hother, -, -, rel, hbelow, -⟩ := hshown
      rw [Set.mem_singleton_iff.mp hother] at hbelow
      exact houtside rel hbelow
  · rintro ⟨hhome, hdir⟩ base hbase glob files
    exact ⟨fun _ hfiles => MemoryWorkspace.listFiles_lists glob hbase hfiles hdir,
      fun _ hfiles => S3Workspace.listFiles_lists glob hbase hfiles hdir,
      fun _ _ hfiles => LocalWorkspace.listFiles_lists glob hbase hfiles hhome⟩

namespace Sample

def starred : Directory := ⟨[['a', '*', 'b']], by decide⟩

/-- A file beside that directory. -/
def sibling : FilePath := ⟨[['a', 'x', 'b'], ['f']], by decide, by decide⟩

end Sample

/-- The in-memory backend shows `axb/f` below `a*b`. -/
theorem starred_base_lists_sibling :
    (MemoryWorkspace.single "axb/f").Holds {Sample.sibling} ∧
      ¬ListAlike Sample.starred "a*b" "**/*" := by
  have htext : Sample.sibling.text = "axb/f" := by decide
  have hholds : (MemoryWorkspace.single "axb/f").Holds {Sample.sibling} := by
    rw [← htext]
    exact MemoryWorkspace.single_holds Sample.sibling
  refine ⟨hholds, fun h => ?_⟩
  obtain ⟨listed, hlisted, -, hmem⟩ := (h {Sample.sibling}).1 _ hholds
  rw [← htext] at hlisted
  have hbase : "a*b" ∈ Sample.starred.spellings := by decide
  have hshown := (hmem Sample.sibling.text).mp
    (MemoryWorkspace.single_listed hbase (by decide) (by decide) (by decide +kernel) listed hlisted)
  obtain ⟨file, hfile, -, -, rel, hbelow, -⟩ := hshown
  rw [Set.mem_singleton_iff.mp hfile] at hbelow
  have hfirst : some ['a', 'x', 'b'] = some ['a', '*', 'b'] := congrArg List.head? hbelow
  exact absurd hfirst (by decide)

end VvAgent
