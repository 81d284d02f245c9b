import Mathlib.Algebra.Group.Nat.Defs
import VvAgent.Events
import VvAgent.Workspace.Backend

/-!
The tools `read_file`, `write_file` and `edit_file`. Each records what it saw or wrote as the
baseline of the path, in the shared state of the run; a later overwrite or edit is checked
against it. A tool is split at the point where it touches the workspace: everything before is
a plan, which either refuses the call with its result or says what is going to be done.
-/

namespace VvAgent
open Lib Lib.Outcome

/-- The hexadecimal SHA-256 digest of the bytes of a file. -/
class ContentDigest where
  contentHash : ByteArray → String

export ContentDigest (contentHash)

def boolArg (value : Option Json) (fallback : Bool) : Bool := (value >>= Json.asBool?).getD fallback

def stringArg (value : Option Json) (fallback : String) : String :=
  (value >>= Json.asStr?).getD fallback

/-- `as_i64`. -/
def integerArg : Json → Option Int
  | .num (.posInt value) => if value < 2 ^ 63 then some value else none
  | .num (.negInt magnitude) => if magnitude ≤ 2 ^ 63 then some (-magnitude) else none
  | _ => none

/-- A text before and after the first place where another one occurs in it. -/
def splitFirst (old : List Char) : List Char → Option (List Char × List Char)
  | [] => if old = [] then some ([], []) else none
  | c :: rest =>
      if old.isPrefixOf (c :: rest) then some ([], (c :: rest).drop old.length)
      else (splitFirst old rest).map fun parts => (c :: parts.1, parts.2)

/-- The first occurrences of a text, one after the other, replaced. -/
def replaceN (old new : List Char) : Nat → List Char → List Char
  | 0, text => text
  | limit + 1, text =>
      match splitFirst old text with
      | none => text
      | some (before, after) => before ++ new ++ replaceN old new limit after

/-- The number of occurrences that do not overlap, at most as many as the bound. -/
def countMatches (old : List Char) : Nat → List Char → Nat
  | 0, _ => 0
  | bound + 1, text =>
      match splitFirst old text with
      | none => 0
      | some (_, after) => countMatches old bound after + 1

def matchCount (text old : String) : Nat :=
  countMatches old.toList text.toList.length text.toList

/-- `replace` of a non-empty text. -/
def replaceAll (text old new : String) : String :=
  .ofList (replaceN old.toList new.toList text.toList.length text.toList)

def detectLineEnding (text : String) : String :=
  let lfCount := text.toList.count '\n'
  let crlfCount := matchCount text "\r\n"
  if 0 < crlfCount ∧ crlfCount = lfCount then "crlf" else if 0 < crlfCount then "mixed" else "lf"

/-- The text of a file without its byte order mark, and whether it had one. -/
def decodeWorkspaceText (raw : ByteArray) : Option (String × Bool) := do
  let text ← String.fromUTF8? raw
  match text.toList with
  | '\uFEFF' :: rest => return (.ofList rest, true)
  | _ => return (text, false)

section
variable [Platform]

def toolResultWithMetadata (status : ToolResultStatus) (content : Json) (errorCode : Option String)
    (metadata : JsonObject) : ToolExecutionResult where
  toolCallId := ""
  content := Platform.jsonText content
  status := status
  errorCode := errorCode
  metadata :=
    match errorCode with
    | some code =>
        if (metadata.lookup "error_code").isSome then metadata
        else insertMember "error_code" (.str code) metadata
    | none => metadata

def toolErrorWithCode (message errorCode : String) : ToolExecutionResult :=
  toolResultWithMetadata .error
    (.obj [("error", .str message), ("error_code", .str errorCode), ("ok", .bool false)])
    (if errorCode = "" then none else some errorCode) []

def toolError (message : String) : ToolExecutionResult := toolErrorWithCode message ""

def pathEscapesWorkspaceError (message : String) : ToolExecutionResult :=
  toolErrorWithCode message "path_escapes_workspace"

def pathEscapesText : List Char := "Path escapes workspace".toList

def workspaceBackendError (error : IoError) : ToolExecutionResult :=
  if error.kind = .permissionDenied ∧ (splitFirst pathEscapesText error.message.toList).isSome then
    pathEscapesWorkspaceError error.message
  else toolError error.message

def workspaceToolErrorWithDetails (message errorCode : String) (details : JsonObject) :
    ToolExecutionResult where
  toolCallId := ""
  content := Platform.jsonText (.obj (insertMembers
    [("error", .str message), ("error_code", .str errorCode), ("message", .str message),
      ("ok", .bool false)] (details.map fun member => (member.1, some member.2))))
  status := .error
  errorCode := some errorCode
  metadata := insertMember "error_code" (.str errorCode) details

def workspaceToolError (message errorCode path : String) : ToolExecutionResult :=
  workspaceToolErrorWithDetails message errorCode [("path", .str path)]

def missingPathError : ToolExecutionResult :=
  workspaceToolErrorWithDetails "`path` is required." "invalid_arguments"
    [("missing_arguments", .arr [.str "path"])]

end

def fileBaselinesStateKey : String := "_workspace_file_baselines"

def readFileBaselineSource : String := "read_file"

def writeFileBaselineSource : String := "write_file"

def editFileBaselineSource : String := "edit_file"

/-- The sources of a baseline that `write_file` and `edit_file` take, alike for both. -/
def allowedBaselineSources : List String :=
  [readFileBaselineSource, writeFileBaselineSource, editFileBaselineSource]

def fileBaselines (sharedState : JsonObject) : JsonObject :=
  ((sharedState.lookup fileBaselinesStateKey) >>= Json.asObject?).getD []

def putFileBaseline (sharedState : JsonObject) (path : String) (entry : Json) : JsonObject :=
  insertMember fileBaselinesStateKey (.obj (insertMember path entry (fileBaselines sharedState)))
    sharedState

section
variable [ContentDigest]

def baselineEntry (hash : String) (size : Nat) (lineEnding : String) (isPartial : Bool)
    (source : String) : Json :=
  .obj
    [("hash", .str hash), ("is_partial", .bool isPartial), ("line_ending", .str lineEnding),
      ("size", .nat size), ("source", .str source)]

def recordFileBaseline (sharedState : JsonObject) (path : String) (raw : ByteArray)
    (isPartial : Bool) (source : String) : JsonObject :=
  let lineEnding := ((String.fromUTF8? raw).map detectLineEnding).getD "unknown"
  putFileBaseline sharedState path
    (baselineEntry (contentHash raw) raw.size lineEnding isPartial source)

/-- What speaks against changing a file: no baseline, one that shows a part of it only, or one
of other bytes. -/
def baselineIssue (sharedState : JsonObject) (path : String) (currentRaw : ByteArray)
    (allowedSources : List String) (allowPartial : Bool) : Option String :=
  match (fileBaselines sharedState).lookup path >>= Json.asObject? with
  | none => some "file_not_read"
  | some baseline =>
      match baseline.lookup "is_partial" >>= Json.asBool? with
      | none => some "file_not_read"
      | some isPartial =>
          match baseline.lookup "source" >>= Json.asStr? with
          | none => some "file_not_read"
          | some source =>
              if !allowedSources.contains source then some "file_not_read"
              else if isPartial && !(allowPartial && source == readFileBaselineSource) then
                some "file_not_read"
              else if (baseline.lookup "hash" >>= Json.asStr?) != some (contentHash currentRaw) then
                some "file_changed_since_read"
              else none

end

/-- What the tools of a run share: the shared state and the files. -/
structure ToolContext (World : Type) where
  sharedState : JsonObject
  world : World

def readFileMaxLines : Nat := 2000

def readFileMaxChars : Nat := 12000

/-- One page of a file: the selection, what has been put out, and where the reader stands. -/
structure ReadPage where
  startLine : Nat
  endLine : Option Nat
  requestedOffset : Option Nat
  showLineNumbers : Bool
  output : List Char := []
  offset : Nat := 0
  nextOffset : Nat
  line : Nat := 1
  atLineStart : Bool := true
  previous : Char := '\x00'
  visibleChars : Nat := 0
  outputLines : Nat := 0
  originalBytes : Nat := 0
  truncated : Bool := false
  lf : Nat := 0
  crlf : Nat := 0

namespace ReadPage

def new (startLine : Nat) (endLine offset : Option Nat) (showLineNumbers : Bool) : ReadPage where
  startLine := startLine
  endLine := endLine
  requestedOffset := offset
  showLineNumbers := showLineNumbers
  nextOffset := offset.getD 0

def selects (page : ReadPage) (character : Char) : Bool :=
  match page.requestedOffset with
  | some offset => decide (offset ≤ page.offset)
  | none =>
      decide (page.startLine ≤ page.line) &&
        (match page.endLine with
          | none => true
          | some last =>
              decide (page.line < last) || (page.line == last && character != '\n'))

def linePrefix (page : ReadPage) : List Char :=
  if page.showLineNumbers && page.atLineStart then (toString page.line ++ ": ").toList else []

/-- A selected character is put out as long as the page has room. -/
def put (page : ReadPage) (character : Char) : ReadPage :=
  let lead := page.linePrefix
  let counted :=
    { page with
      originalBytes := page.originalBytes + (String.ofList (lead ++ [character])).utf8ByteSize }
  if page.truncated || decide (readFileMaxChars < page.visibleChars + (lead.length + 1)) ||
      (page.atLineStart && decide (readFileMaxLines ≤ page.outputLines)) then
    { counted with truncated := true }
  else
    { counted with
      output := page.output ++ lead ++ [character]
      visibleChars := page.visibleChars + (lead.length + 1)
      nextOffset := page.offset + 1
      outputLines := if character = '\n' then page.outputLines + 1 else page.outputLines }

/-- A character that is not selected; before the first line it moves the start of the page. -/
def skip (page : ReadPage) : ReadPage :=
  if !page.truncated && page.requestedOffset.isNone && decide (page.line < page.startLine) then
    { page with nextOffset := page.offset + 1 }
  else page

def advance (page : ReadPage) (character : Char) : ReadPage :=
  { page with
    lf := if character = '\n' then page.lf + 1 else page.lf
    crlf := if character = '\n' ∧ page.previous = '\x0d' then page.crlf + 1 else page.crlf
    line := if character = '\n' then page.line + 1 else page.line
    atLineStart := character = '\n'
    previous := character
    offset := page.offset + 1 }

def step (page : ReadPage) (character : Char) : ReadPage :=
  (if page.selects character then page.put character else page.skip).advance character

/-- The characters of a text, a byte order mark at its start left out. -/
def consume (page : ReadPage) (text : List Char) : ReadPage :=
  match text with
  | '\uFEFF' :: rest => rest.foldl step page
  | _ => text.foldl step page

def lineEnding (page : ReadPage) : String :=
  if 0 < page.crlf ∧ page.crlf = page.lf then "crlf" else if 0 < page.crlf then "mixed" else "lf"

end ReadPage

/-- Leading `./`s are dropped, as often as they stand there. -/
def stripCurrentDir : Nat → List Char → List Char
  | fuel + 1, '.' :: '/' :: rest => stripCurrentDir fuel rest
  | _, path => path

def normalizeCursorPath (path : String) : String :=
  let slashed := (trimWhitespace path.toList).map fun c => if c = '\\' then '/' else c
  .ofList (stripCurrentDir slashed.length slashed)

/-- What a call of `read_file` has come to, when it was not refused. -/
structure PlannedRead where
  path : String
  raw : ByteArray
  /-- Whether the call asked for a part of the file. -/
  asksPart : Bool
  page : ReadPage

def PlannedRead.isPartial (plan : PlannedRead) : Bool := plan.asksPart || plan.page.truncated

structure PlannedWrite where
  path : String
  /-- The content with the newlines the call asks for. -/
  content : String
  append : Bool
  leadingNewline : Bool
  trailingNewline : Bool
  /-- The bytes of the file, when there is one. -/
  existing : Option ByteArray
  /-- Whether the baseline shows these bytes whole. -/
  knownFull : Bool

structure PlannedEdit where
  path : String
  /-- The bytes of the file. -/
  raw : ByteArray
  content : String
  replacedCount : Nat
  lineEnding : String

section
variable [Platform] [ContentDigest] {World : Type}

namespace ToolContext

/-- The file a tool is asked about: there is one, and it is a file. -/
def requireFile (backend : WorkspaceBackend World) (context : ToolContext World) (path : String) :
    Except ToolExecutionResult Unit := do
  let info ← (backend.fileInfo context.world path).mapError workspaceBackendError
  refuse (!info.any (·.isFile))
    (workspaceToolError ("file not found: " ++ path) "file_not_found" path)

def readCursor (arguments : JsonObject) (path : String) :
    Except ToolExecutionResult (Option ToolResultCursor) :=
  match arguments.lookup "cursor" with
  | none => .ok none
  | some (.obj members) =>
      match ToolResultCursor.fromValue (.obj members) with
      | some cursor =>
          if cursor.validate = .ok () then .ok (some cursor)
          else .error (workspaceToolError "`cursor` is invalid" "invalid_arguments" path)
      | none => .error (workspaceToolError "`cursor` is invalid" "invalid_arguments" path)
  | some _ => .error (workspaceToolError "`cursor` must be an object" "invalid_arguments" path)

/-- A line number of the arguments, at least as large as the bound. -/
def readLine (arguments : JsonObject) (name path : String) (atLeast : Nat) :
    Except ToolExecutionResult (Option Nat) :=
  match arguments.lookup name with
  | none => .ok none
  | some value =>
      match integerArg value with
      | some line => .ok (some (max line atLeast).toNat)
      | none =>
          .error (workspaceToolError "`start_line`/`end_line` must be integers"
            "invalid_arguments" path)

def planRead (backend : WorkspaceBackend World) (context : ToolContext World)
    (arguments : JsonObject) : Except ToolExecutionResult PlannedRead := do
  refuse (arguments.lookup "path").isNone missingPathError
  let path := stringArg (arguments.lookup "path") ""
  (backend.resolveWorkspacePath context.world path).mapError pathEscapesWorkspaceError
  requireFile backend context path
  let cursor ← readCursor arguments path
  refuse (cursor.isSome &&
      ((arguments.lookup "start_line").isSome || (arguments.lookup "end_line").isSome))
    (workspaceToolError "`cursor` is incompatible with `start_line` and `end_line`"
      "invalid_arguments" path)
  let startLine ← readLine arguments "start_line" path 1
  let endLine ← readLine arguments "end_line" path (startLine.getD 1)
  refuse (cursor.any fun cursor => normalizeCursorPath cursor.path != normalizeCursorPath path)
    (workspaceToolError "cursor path does not match requested path" "cursor_path_mismatch" path)
  let raw ← (backend.readBytes context.world path).mapError workspaceBackendError
  let text ← require (String.fromUTF8? raw)
    (workspaceToolError "Unsupported file encoding for read_file." "unsupported_encoding" path)
  let page := (ReadPage.new (startLine.getD 1) endLine (cursor.map (·.offsetChars))
    (boolArg (arguments.lookup "show_line_numbers") false)).consume text.toList
  refuse (cursor.any fun cursor => cursor.sha256 != contentHash raw)
    (workspaceToolError "source changed after cursor was issued" "stale_cursor" path)
  refuse (cursor.any fun cursor => decide (page.offset < cursor.offsetChars))
    (workspaceToolError "cursor offset is outside the source" "cursor_offset_invalid" path)
  return {
    path
    raw
    asksPart := startLine.getD 1 != 1 || endLine.isSome || cursor.isSome
    page }

/-- The page that was read, with a cursor behind it when it is not the rest of the file. -/
def readTextResult (plan : PlannedRead) : ToolExecutionResult :=
  let content := String.ofList plan.page.output
  let whole : ToolExecutionResult := { toolCallId := "", content, status := .success }
  if plan.page.truncated then
    { whole with
      truncated := true
      truncationReason := some .readLimit
      originalBytes := some plan.page.originalBytes
      visibleBytes := some content.utf8ByteSize
      cursor := some {
        kind := "read_file"
        path := normalizeCursorPath plan.path
        offsetChars := plan.page.nextOffset
        sha256 := contentHash plan.raw } }
  else whole

def readFile (backend : WorkspaceBackend World) (context : ToolContext World)
    (arguments : JsonObject) : ToolExecutionResult × ToolContext World :=
  match planRead backend context arguments with
  | .error result => (result, context)
  | .ok plan =>
      let entry := baselineEntry (contentHash plan.raw) plan.raw.size plan.page.lineEnding
        plan.isPartial readFileBaselineSource
      (readTextResult plan,
        { context with sharedState := putFileBaseline context.sharedState plan.path entry })

def readExisting (backend : WorkspaceBackend World) (context : ToolContext World)
    (path : String) : Except ToolExecutionResult (Option ByteArray) := do
  let info ← (backend.fileInfo context.world path).mapError workspaceBackendError
  if info.any (·.isFile) then
    some <$> (backend.readBytes context.world path).mapError workspaceBackendError
  else return none

def planWrite (backend : WorkspaceBackend World) (context : ToolContext World)
    (arguments : JsonObject) : Except ToolExecutionResult PlannedWrite := do
  refuse (arguments.lookup "path").isNone missingPathError
  let path := stringArg (arguments.lookup "path") ""
  (backend.resolveWorkspacePath context.world path).mapError pathEscapesWorkspaceError
  let append := boolArg (arguments.lookup "append") false
  let leadingNewline := append && boolArg (arguments.lookup "leading_newline") false
  let trailingNewline := append && boolArg (arguments.lookup "trailing_newline") false
  let existing ← readExisting backend context path
  let issue := existing.bind fun raw =>
    baselineIssue context.sharedState path raw allowedBaselineSources false
  refuse (!append && issue.isSome)
    (workspaceToolError
      (if issue = some "file_changed_since_read" then
        "File changed since it was last read. Re-read it before overwriting."
      else "Read the full file with read_file before overwriting.")
      (issue.getD "") path)
  return {
    path
    content := (if leadingNewline then "\n" else "") ++ stringArg (arguments.lookup "content") "" ++
      (if trailingNewline then "\n" else "")
    append
    leadingNewline
    trailingNewline
    existing
    knownFull := issue.isNone }

def writeResult (plan : PlannedWrite) (writtenBytes : Nat) : ToolExecutionResult where
  toolCallId := ""
  content := Platform.jsonText (.obj
    [("append", .bool plan.append), ("leading_newline", .bool plan.leadingNewline),
      ("ok", .bool true), ("path", .str plan.path),
      ("trailing_newline", .bool plan.trailingNewline), ("written_bytes", .nat writtenBytes),
      ("written_chars", .nat plan.content.length)])
  status := .success
  metadata :=
    [("append", .bool plan.append), ("changed_files", .arr [.str plan.path]),
      ("operation", .str "write_file")]

def writeFile (backend : WorkspaceBackend World) (context : ToolContext World)
    (arguments : JsonObject) : ToolExecutionResult × ToolContext World :=
  match planWrite backend context arguments with
  | .error result => (result, context)
  | .ok plan =>
      match backend.writeText context.world plan.path plan.content plan.append with
      | .error error => (workspaceBackendError error, context)
      | .ok (written, world) =>
          match backend.readBytes world plan.path with
          | .error error => (workspaceBackendError error, { context with world })
          | .ok updatedRaw =>
              (writeResult plan written,
                { sharedState := recordFileBaseline context.sharedState plan.path updatedRaw
                    (plan.append && plan.existing.isSome && !plan.knownFull)
                    writeFileBaselineSource
                  world })

def editMissing (arguments : JsonObject) : List Json :=
  (["path", "old_string", "new_string"].filter fun name => (arguments.lookup name).isNone).map .str

/-- The two texts of an edit, in the line ending of the file where they are only found so. -/
def editTexts (text oldString newString : String) : String × String × Nat :=
  let found := matchCount text oldString
  if found = 0 ∧ detectLineEnding text = "crlf" ∧ matchCount oldString "\r\n" = 0 then
    let old := replaceAll oldString "\n" "\r\n"
    (old, replaceAll newString "\n" "\r\n", matchCount text old)
  else (oldString, newString, found)

def planEdit (backend : WorkspaceBackend World) (context : ToolContext World)
    (arguments : JsonObject) : Except ToolExecutionResult PlannedEdit := do
  refuse (!(editMissing arguments).isEmpty)
    (workspaceToolErrorWithDetails "`path`, `old_string`, and `new_string` are required."
      "invalid_arguments" [("missing_arguments", .arr (editMissing arguments))])
  let path := stringArg (arguments.lookup "path") ""
  (backend.resolveWorkspacePath context.world path).mapError pathEscapesWorkspaceError
  requireFile backend context path
  let oldString := stringArg (arguments.lookup "old_string") ""
  refuse (oldString == "")
    (workspaceToolError "`old_string` cannot be empty." "old_string_empty" path)
  let newString := stringArg (arguments.lookup "new_string") ""
  refuse (oldString == newString)
    (workspaceToolError "No changes: old_string and new_string are identical." "no_changes" path)
  let everywhere := boolArg (arguments.lookup "replace_all") false
  let raw ← (backend.readBytes context.world path).mapError workspaceBackendError
  let decoded ← require (decodeWorkspaceText raw)
    (workspaceToolError "Unsupported file encoding for edit_file." "unsupported_encoding" path)
  let issue := baselineIssue context.sharedState path raw allowedBaselineSources true
  refuse issue.isSome
    (workspaceToolError
      (if issue = some "file_changed_since_read" then
        "File changed since it was last read. Re-read it before editing."
      else "Read the file with read_file before editing.")
      (issue.getD "") path)
  let texts := editTexts decoded.1 oldString newString
  refuse (texts.2.2 == 0)
    (workspaceToolError "`old_string` not found in file." "old_string_not_found" path)
  refuse (decide (1 < texts.2.2) && !everywhere)
    (workspaceToolErrorWithDetails
      "`old_string` matched multiple locations; make it unique or set replace_all=true."
      "old_string_not_unique" [("match_count", .nat texts.2.2), ("path", .str path)])
  let replaced :=
    if everywhere then replaceAll decoded.1 texts.1 texts.2.1
    else .ofList (replaceN texts.1.toList texts.2.1.toList 1 decoded.1.toList)
  return {
    path
    raw
    content := if decoded.2 then "\uFEFF" ++ replaced else replaced
    replacedCount := if everywhere then texts.2.2 else 1
    lineEnding := detectLineEnding decoded.1 }

def editSuccessResult (plan : PlannedEdit) : ToolExecutionResult where
  toolCallId := ""
  content := Platform.jsonText (.obj
    [("ok", .bool true), ("path", .str plan.path), ("replaced_count", .nat plan.replacedCount)])
  status := .success
  metadata :=
    [("changed_files", .arr [.str plan.path]), ("line_ending", .str plan.lineEnding),
      ("operation", .str "edit_file")]

def editFile (backend : WorkspaceBackend World) (context : ToolContext World)
    (arguments : JsonObject) : ToolExecutionResult × ToolContext World :=
  match planEdit backend context arguments with
  | .error result => (result, context)
  | .ok plan =>
      match backend.writeText context.world plan.path plan.content false with
      | .error error => (workspaceBackendError error, context)
      | .ok (_, world) =>
          (editSuccessResult plan,
            { sharedState := recordFileBaseline context.sharedState plan.path plan.content.toUTF8
                false editFileBaselineSource
              world })

end ToolContext

end

end VvAgent
