import VvAgent.Workspace.Glob
import VvAgent.Workspace.Paths
import VvAgent.Lib.FileChange

/-!
The backend over a directory of a file system. Every path is resolved first: what exists is
followed through all links, what is missing is put below its parent, and where the parent is
missing too the path is only rewritten. The result has to lie below the root. Where no link
stands on the way to a path, it resolves to itself.
-/

namespace VvAgent
open Lib Lib.Outcome

def isAbsolutePath (path : List Char) : Bool := path.head? == some '/'

/-- The components of a path, of the pieces that its separators cut it into. -/
def pathComponents (pieces : List Name) : List Name :=
  pieces.filter fun piece => piece ≠ [] ∧ piece ≠ ['.']

def normalizePathLexically (names : List Name) : Place :=
  names.foldl (fun done name => if name = ['.', '.'] then done.dropLast else done ++ [name]) []

/-- The place where a path ends if all links are followed. -/
def canonicalize (tree : FileTree) (pieces : List Name) : Except FileError Place :=
  (tree.lookup FileTree.maxLinks [] pieces).map Prod.fst

/-- The parent of a missing path: where it is, or else how it is spelled. -/
def resolvedParent (tree : FileTree) (parent : List Name) : Place :=
  match canonicalize tree parent with
  | .ok place => place
  | .error _ => normalizePathLexically parent

def resolveExistingOrParent (tree : FileTree) (pieces : List Name) : Place :=
  match canonicalize tree pieces with
  | .ok place => place
  | .error _ =>
      let names := pathComponents pieces
      let parent := resolvedParent tree names.dropLast
      match names.getLast? with
      | none => parent
      | some name => if name = ['.', '.'] then parent else parent ++ [name]

def exclusiveWorkspacePath (path : String) : IoResult String := do
  refuse (isAbsolutePath path.toList || path.toList.contains '\\' ||
      path.toList.contains (Char.ofNat 0))
    ⟨.invalidInput, "exclusive path must be a normalized relative path"⟩
  let segments := path.toList.splitOn '/'
  refuse (segments.any fun segment => segment = [] ∨ segment = ['.'] ∨ segment = ['.', '.'])
    ⟨.invalidInput, "exclusive path contains an invalid segment"⟩
  return .ofList (List.intercalate ['/'] segments)

/-- The backend, with what it takes from the environment of the process. -/
structure LocalWorkspace where
  /-- The root, made absolute, cut at its separators. -/
  root : List Name
  allowOutsideRoot : Bool := false
  /-- The directory that artifacts are kept in, cut at its separators. -/
  artifactRoot : List Name
  /-- The home directory. -/
  home : Option (List Char) := none

namespace LocalWorkspace

def normalizedRoot (workspace : LocalWorkspace) (tree : FileTree) : Place :=
  match canonicalize tree workspace.root with
  | .ok place => place
  | .error _ => pathComponents workspace.root

/-- `~` and what stands behind `~/` are taken from the home directory. -/
def expandHomePath (workspace : LocalWorkspace) (path : List Char) : List Char :=
  match workspace.home, path with
  | some home, ['~'] => home
  | some home, '~' :: '/' :: rest =>
      if isAbsolutePath rest then rest
      else if home.getLast? = some '/' then home ++ rest
      else home ++ '/' :: rest
  | _, path => path

def resolvePath (workspace : LocalWorkspace) (tree : FileTree) (path : String) :
    IoResult Place := do
  let root := workspace.normalizedRoot tree
  let candidate := workspace.expandHomePath path.toList
  let pieces := candidate.splitOn '/'
  let target := if isAbsolutePath candidate then pieces else root ++ pieces
  let normalized := resolveExistingOrParent tree target
  refuse (!workspace.allowOutsideRoot && !root.isPrefixOf normalized)
    ⟨.permissionDenied, "Path escapes workspace: " ++ path⟩
  return normalized

/-- The segments of a path that is reserved for artifacts. -/
def artifactSegments (path : String) : IoResult (Option (List Name)) :=
  if isAbsolutePath path.toList ∨ path.toList.head? = some '\\' then .ok none
  else if isReservedArtifactPath (normalizeWorkspacePath path) then do
    let canonical ← exclusiveWorkspacePath path
    return some (canonical.toList.splitOn '/')
  else .ok none

def pathToPosix (names : List Name) : String :=
  .ofList ((joinNames names).map fun c => if c = '\\' then '/' else c)

def outputPath (root path : Place) : String :=
  if root.isPrefixOf path then
    let output := pathToPosix (path.drop root.length)
    if output.isEmpty then "." else output
  else .ofList ('/' :: joinNames path)

/-- The path under which a listing shows an entry, if it shows it. -/
def listedPath (workspace : LocalWorkspace) (tree : FileTree) (root : Place) (pattern : String)
    (entry : FileTree.Entry) : Option String :=
  match entry.target with
  | none => none
  | some target =>
      if tree.isFile target && globMatch (pathToPosix entry.route) pattern then
        let path := outputPath (workspace.normalizedRoot tree) (root ++ entry.route)
        if isReservedArtifactPath path then none else some path
      else none

/-- The stack of directories to read is a recursion here; the order in which they are read is
lost in the sorting. -/
def listFiles (workspace : LocalWorkspace) (tree : FileTree) (base glob : String) :
    IoResult (List String) := do
  let segments ← artifactSegments base
  if segments.isSome then return [] else
  let root ← workspace.resolvePath tree base
  match tree.lookup FileTree.maxLinks [] root with
  | .error _ => return []
  | .ok (place, links) =>
      if tree.isDir place then
        return sortPaths ((tree.walk links place).filterMap
          (workspace.listedPath tree root (normalizedGlobPattern glob)))
      else return []

def artifactPathInvalid : IoError := ⟨.invalidInput, "artifact_path_invalid"⟩

/-- An error of the operating system. -/
def osError : FileError → IoError
  | .notFound => ⟨.notFound, "No such file or directory (os error 2)"⟩
  | .notADirectory => ⟨.notADirectory, "Not a directory (os error 20)"⟩
  | .tooManyLinks => ⟨.other, "Too many levels of symbolic links (os error 40)"⟩
  | .alreadyExists => ⟨.alreadyExists, "File exists (os error 17)"⟩
  | .isADirectory => ⟨.other, "Is a directory (os error 21)"⟩
  | .invalidName => ⟨.invalidInput, "file name contained an unexpected NUL byte"⟩

def ensureExistingPrivateDirectory (tree : FileTree) (path : List Name) : IoResult Unit :=
  match tree.entryAt path with
  | .ok .dir => .ok ()
  | .ok _ => .error artifactPathInvalid
  | .error .notFound => .ok ()
  | .error error => .error (osError error)

/-- A path below the artifact directory, none of whose segments may be a link. -/
def checkArtifactSegments (tree : FileTree) : List Name → List Name → IoResult (List Name)
  | target, [] => .ok target
  | target, segment :: rest =>
      match tree.entryAt (target ++ [segment]) with
      | .ok (.link _) => .error artifactPathInvalid
      | .ok _ => checkArtifactSegments tree (target ++ [segment]) rest
      | .error .notFound => checkArtifactSegments tree (target ++ [segment]) rest
      | .error error => .error (osError error)

def resolveReadPath (workspace : LocalWorkspace) (tree : FileTree) (path : String) :
    IoResult (List Name) := do
  match ← artifactSegments path with
  | some segments => do
      ensureExistingPrivateDirectory tree workspace.artifactRoot
      checkArtifactSegments tree workspace.artifactRoot segments
  | none => workspace.resolvePath tree path

/-- The file that a path leads to, for reading. -/
def openedFile (tree : FileTree) (names : List Name) : IoResult Place :=
  match tree.lookup FileTree.maxLinks [] names with
  | .error error => .error (osError error)
  | .ok (place, _) => if tree.isFile place then .ok place else .error (osError .isADirectory)

def readPlace (workspace : LocalWorkspace) (tree : FileTree) (path : String) : IoResult Place := do
  let target ← workspace.resolveReadPath tree path
  openedFile tree target

def readBytes (workspace : LocalWorkspace) (tree : FileTree) (path : String) :
    IoResult ByteArray := do
  let place ← workspace.readPlace tree path
  return (tree.content place).getD ByteArray.empty

/-- The directories whose entries `list_files` reads. -/
def listedDirs (workspace : LocalWorkspace) (tree : FileTree) (base : String) :
    IoResult (List Place) := do
  let segments ← artifactSegments base
  if segments.isSome then return [] else
  let root ← workspace.resolvePath tree base
  match tree.lookup FileTree.maxLinks [] root with
  | .error _ => return []
  | .ok (place, links) =>
      if tree.isDir place then
        return place :: ((tree.walk links place).filterMap (·.target)).filter (tree.isDir ·)
      else return []

def isReservedTarget (workspace : LocalWorkspace) (tree : FileTree) (target : Place) : Bool :=
  let root := workspace.normalizedRoot tree
  root.isPrefixOf target && isReservedArtifactPath (pathToPosix (target.drop root.length))

def artifactsImmutable : IoError := ⟨.permissionDenied, "artifact paths are immutable"⟩

/-- The place that a change is for; artifacts are not changed. -/
def resolveChange (workspace : LocalWorkspace) (tree : FileTree) (path : String) :
    IoResult Place := do
  refuse (isReservedArtifactPath path) artifactsImmutable
  let target ← workspace.resolvePath tree path
  refuse (workspace.isReservedTarget tree target) artifactsImmutable
  return target

def osResult {α : Type} : Except FileError α → IoResult α
  | .ok value => .ok value
  | .error error => .error (osError error)

def writeText (workspace : LocalWorkspace) (tree : FileTree) (path content : String)
    (append : Bool) : IoResult (Nat × FileTree) := do
  let target ← workspace.resolveChange tree path
  let prepared ← osResult (if target = [] then .ok tree else tree.createDirAll target.dropLast)
  let written ← osResult (prepared.writeFile target fun before =>
    if append then before ++ content.toUTF8 else content.toUTF8)
  return (content.utf8ByteSize, written)

def mkdir (workspace : LocalWorkspace) (tree : FileTree) (path : String) : IoResult FileTree := do
  let target ← workspace.resolveChange tree path
  osResult (tree.createDirAll target)

end LocalWorkspace

theorem LocalWorkspace.expandHomePath_of_ne (workspace : LocalWorkspace) {path : List Char}
    (h : (path.splitOn '/').head? ≠ some ['~']) : workspace.expandHomePath path = path := by
  unfold expandHomePath
  split
  · exact absurd (by decide) h
  · rename_i home rest _
    refine absurd ?_ h
    have hsplit : (['~'] ++ '/' :: rest).splitOn '/' = ['~'] :: rest.splitOn '/' :=
      List.splitOn_append_cons_self_of_not_mem (by decide) rest
    exact congrArg List.head? hsplit
  · rfl

theorem pathComponents_proper (names : List Name) (h : ∀ name ∈ names, ProperName name) :
    pathComponents names = names := by
  rw [pathComponents, List.filter_eq_self]
  intro name hname
  simp [(h name hname).nonempty, (h name hname).notHere]

/-- Names without a step up are added as they are. -/
theorem foldl_lexically (names : List Name) (front : Place)
    (h : ∀ name ∈ names, name ≠ ['.', '.']) :
    names.foldl (fun done name => if name = ['.', '.'] then done.dropLast else done ++ [name])
      front = front ++ names := by
  induction names generalizing front with
  | nil => simp
  | cons name names ih =>
      have hname := h name (by simp)
      simp [hname, ih _ (fun other hother => h other (by simp [hother]))]

theorem normalizePathLexically_proper (names : List Name) (h : ∀ name ∈ names, ProperName name) :
    normalizePathLexically names = names :=
  (foldl_lexically names [] fun name hname => (h name hname).notUp).trans (List.nil_append names)

/-- The root of a path leads nowhere. -/
theorem canonicalize_rooted (tree : FileTree) (names : List Name) :
    canonicalize tree ([] :: names) = canonicalize tree names := by
  simp [canonicalize, FileTree.maxLinks, FileTree.lookup, FileTree.seek, FileTree.stepThrough,
    FileTree.isDir]

theorem resolve_rooted (tree : FileTree) (names : List Name) :
    resolveExistingOrParent tree ([] :: names) = resolveExistingOrParent tree names := by
  simp [resolveExistingOrParent, canonicalize_rooted, pathComponents]

theorem canonicalize_settled {tree : FileTree} {place : Place} (h : tree.Settled place) :
    canonicalize tree place = .ok place := by
  rw [canonicalize, FileTree.lookup_of_settled _ place [] h]
  rfl

theorem canonicalize_missing {tree : FileTree} {place : Place}
    (hproper : ∀ name ∈ place, ProperName name) (hplain : tree.Plain place)
    (hnone : tree.node place = none) : ∃ error, canonicalize tree place = .error error := by
  obtain ⟨error, herror⟩ := FileTree.lookup_missing FileTree.maxLinks place hproper hplain hnone
  exact ⟨error, by rw [canonicalize, herror]; rfl⟩

theorem resolvedParent_plain {tree : FileTree} {place : Place}
    (hproper : ∀ name ∈ place, ProperName name) (hplain : tree.Plain place) :
    resolvedParent tree place = place := by
  unfold resolvedParent
  by_cases hnone : tree.node place = none
  · obtain ⟨error, herror⟩ := canonicalize_missing hproper hplain hnone
    rw [herror]
    exact normalizePathLexically_proper place hproper
  · rw [canonicalize_settled ⟨hnone, hplain place (List.prefix_refl _)⟩]

/-- Where no link stands on the way, a path resolves to itself, whatever of it exists. -/
theorem resolveExistingOrParent_plain {tree : FileTree} {place : Place}
    (hproper : ∀ name ∈ place, ProperName name) (hplain : tree.Plain place) :
    resolveExistingOrParent tree place = place := by
  unfold resolveExistingOrParent
  by_cases hnone : tree.node place = none
  · obtain ⟨error, herror⟩ := canonicalize_missing hproper hplain hnone
    have hne : place ≠ [] := by
      rintro rfl
      simp at hnone
    have hlast := List.dropLast_append_getLast hne
    have hup : place.getLast hne ≠ ['.', '.'] :=
      (hproper _ (List.getLast_mem hne)).notUp
    have hfront : ∀ name ∈ place.dropLast, ProperName name := fun name hname =>
      hproper name (List.mem_of_mem_dropLast hname)
    have hparent : resolvedParent tree place.dropLast = place.dropLast :=
      resolvedParent_plain hfront (hplain.of_prefix (List.dropLast_prefix place))
    simp only [herror, pathComponents_proper place hproper, hparent,
      List.getLast?_eq_some_getLast hne, if_neg hup, hlast]
  · rw [canonicalize_settled ⟨hnone, hplain place (List.prefix_refl _)⟩]

end VvAgent
