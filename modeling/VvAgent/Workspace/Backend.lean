import VvAgent.Json
import VvAgent.Lib.Table

/-!
Workspace paths and the backends that hold the files of a workspace. The tools see a backend
through four operations; what they rely on is gathered in `LawfulBackend`, and the in-memory
backend is one that keeps it.
-/

namespace VvAgent
open Lib Lib.Outcome

inductive IoErrorKind where
  | notFound | permissionDenied | alreadyExists | notADirectory | invalidInput | invalidData
  | writeZero | other
  deriving DecidableEq

structure IoError where
  kind : IoErrorKind
  message : String
  deriving DecidableEq

abbrev IoResult := Except IoError

def trimWhitespace (text : List Char) : List Char :=
  ((text.dropWhile isWhitespace).reverse.dropWhile isWhitespace).reverse

/-- A path with its separators made uniform, cut at them. -/
def pathSegments (path : String) : List (List Char) :=
  (path.toList.map fun c => if c = '\\' then '/' else c).splitOn '/'

/-- One more segment: `.` stays where it is, `..` goes up as long as there is an up. -/
def pushSegment (parts : List (List Char)) (segment : List Char) : List (List Char) :=
  if segment = [] ∨ segment = ['.'] then parts
  else if segment = ['.', '.'] then parts.dropLast
  else parts ++ [segment]

def normalizeWorkspacePath (path : String) : String :=
  .ofList (List.intercalate ['/'] ((pathSegments path).foldl pushSegment []))

def artifactsRoot : String := ".vv-agent/artifacts/"

def startsWith (text lead : String) : Bool := lead.toList.isPrefixOf text.toList

def isReservedArtifactPath (path : String) : Bool :=
  startsWith (normalizeWorkspacePath path) artifactsRoot

/-- What the tools ask of a `FileInfo`. -/
structure FileInfo where
  isFile : Bool
  isDir : Bool
  deriving DecidableEq

/-- The operations of a backend that the file tools use, and the check of the tool context
that a path stays in the workspace. The files are the state, which others change too. -/
structure WorkspaceBackend (World : Type) where
  resolveWorkspacePath : World → String → Except String Unit
  fileInfo : World → String → IoResult (Option FileInfo)
  readBytes : World → String → IoResult ByteArray
  writeText : World → String → String → Bool → IoResult (Nat × World)

/-- Bytes that are the text of some string. -/
def decodes (raw : ByteArray) : Bool := (String.fromUTF8? raw).isSome

/-- There is a file, as opposed to nothing or a directory. -/
def WorkspaceBackend.holdsFile {World : Type} (backend : WorkspaceBackend World) (world : World)
    (path : String) : Bool :=
  match backend.fileInfo world path with
  | .ok (some info) => info.isFile
  | _ => false

/-- What is written can be read again. An append may read the file as text, so nothing is said
about one to a file that is not text. -/
structure LawfulBackend {World : Type} (backend : WorkspaceBackend World) : Prop where
  overwrite : ∀ {world path content written world'},
    backend.writeText world path content false = .ok (written, world') →
    backend.readBytes world' path = .ok content.toUTF8
  create : ∀ {world path content written world'}, backend.holdsFile world path = false →
    backend.writeText world path content true = .ok (written, world') →
    backend.readBytes world' path = .ok content.toUTF8
  append : ∀ {world path content raw written world'},
    backend.holdsFile world path = true → backend.readBytes world path = .ok raw →
    decodes raw = true → backend.writeText world path content true = .ok (written, world') →
    backend.readBytes world' path = .ok (raw ++ content.toUTF8)

/-- The files and directories of the in-memory backend, under normalized paths. -/
structure MemoryWorkspace where
  files : Table ByteArray := ∅
  dirs : List String := [""]

namespace MemoryWorkspace

def notFound (path : String) : IoError := ⟨.notFound, "path not found: " ++ path⟩

def fileInfo (workspace : MemoryWorkspace) (path : String) : Option FileInfo :=
  let key := normalizeWorkspacePath path
  if (workspace.files[key]?).isSome then some ⟨true, false⟩
  else if workspace.dirs.contains key then some ⟨false, true⟩
  else none

def readBytes (workspace : MemoryWorkspace) (path : String) : IoResult ByteArray :=
  require workspace.files[normalizeWorkspacePath path]? (notFound path)

/-- Every proper prefix of a key, cut at its separators, and the root. -/
def parentDirs (key : String) : List String :=
  let parts := (key.toList.splitOn '/').filter (!·.isEmpty)
  "" :: parts.dropLast.inits.tail.map fun front => String.ofList (List.intercalate ['/'] front)

def insertParentDirs (workspace : MemoryWorkspace) (key : String) : MemoryWorkspace :=
  { workspace with dirs := workspace.dirs ++ parentDirs key }

def writeText (workspace : MemoryWorkspace) (path content : String) (append : Bool) :
    IoResult (Nat × MemoryWorkspace) := do
  refuse (isReservedArtifactPath path) ⟨.permissionDenied, "artifact paths are immutable"⟩
  let key := normalizeWorkspacePath path
  let before := (workspace.files[key]?).getD ByteArray.empty
  let data := if append then before ++ content.toUTF8 else content.toUTF8
  let written := { workspace with files := workspace.files.insert key data }
  return (content.utf8ByteSize, written.insertParentDirs key)

/-- The in-memory backend under a given check of the tool context. -/
def backend (resolve : MemoryWorkspace → String → Except String Unit) :
    WorkspaceBackend MemoryWorkspace where
  resolveWorkspacePath := resolve
  fileInfo := fun workspace path => .ok (workspace.fileInfo path)
  readBytes := readBytes
  writeText := writeText

theorem writeText_eq_ok {workspace after : MemoryWorkspace} {path content : String}
    {append : Bool} {written : Nat}
    (h : workspace.writeText path content append = .ok (written, after)) :
    readBytes after path =
      .ok (if append then
          (workspace.files[normalizeWorkspacePath path]?).getD ByteArray.empty ++ content.toUTF8
        else content.toUTF8) := by
  simp only [writeText, unit_guard_bind, pure_ok, Except.ok.injEq, Prod.mk.injEq] at h
  obtain ⟨_, _, rfl⟩ := h
  simp only [readBytes, insertParentDirs, Table.get_insert, if_true, require_some]

theorem holdsFile_backend (resolve : MemoryWorkspace → String → Except String Unit)
    (workspace : MemoryWorkspace) (path : String) :
    (backend resolve).holdsFile workspace path =
      (workspace.files[normalizeWorkspacePath path]?).isSome := by
  by_cases hfile : (workspace.files[normalizeWorkspacePath path]?).isSome = true
  · simp only [WorkspaceBackend.holdsFile, backend, fileInfo, hfile, if_true]
  · rw [Bool.not_eq_true] at hfile
    by_cases hdir : workspace.dirs.contains (normalizeWorkspacePath path) = true
    · simp only [WorkspaceBackend.holdsFile, backend, fileInfo, hfile, hdir, Bool.false_eq_true,
        if_true, if_false]
    · simp only [WorkspaceBackend.holdsFile, backend, fileInfo, hfile, hdir, Bool.false_eq_true,
        if_false]

theorem backend_lawful (resolve : MemoryWorkspace → String → Except String Unit) :
    LawfulBackend (backend resolve) where
  overwrite := fun h => writeText_eq_ok h
  create := by
    intro world path content written world' hfree h
    rw [holdsFile_backend, Option.isSome_eq_false_iff, Option.isNone_iff_eq_none] at hfree
    have hread := writeText_eq_ok h
    change readBytes world' path = _
    simpa [hfree] using hread
  append := by
    intro world path content raw written world' _ hraw _ h
    have hfile : world.files[normalizeWorkspacePath path]? = some raw := by
      simpa [backend, readBytes] using hraw
    have hread := writeText_eq_ok h
    change readBytes world' path = _
    simpa [hfile] using hread

end MemoryWorkspace

end VvAgent
