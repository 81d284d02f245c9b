import Mathlib.Data.List.Basic
import VvAgent.Types.Usage

/-!
Tool results, tool calls and cycle records with their dictionaries. A dictionary
omits absent optional fields, so the readers look members up by name; they refuse
unknown members, and a tool result must also satisfy `ToolExecutionResult.validate`.
The last section states when a record survives its own dictionary.
-/

namespace VvAgent
open Lib.Outcome

inductive ToolResultStatus where
  | success
  | error
  | waitResponse
  | running
  | pendingCompress
  deriving DecidableEq

inductive ToolDirective where
  | continue
  | waitUser
  | finish
  deriving DecidableEq

inductive ToolTruncationReason where
  | outputLimit
  | readLimit
  deriving DecidableEq

namespace ToolResultStatus

def asStr : ToolResultStatus → String
  | .success => "SUCCESS"
  | .error => "ERROR"
  | .waitResponse => "WAIT_RESPONSE"
  | .running => "RUNNING"
  | .pendingCompress => "PENDING_COMPRESS"

def parse : String → Option ToolResultStatus
  | "SUCCESS" => some .success
  | "ERROR" => some .error
  | "WAIT_RESPONSE" => some .waitResponse
  | "RUNNING" => some .running
  | "PENDING_COMPRESS" => some .pendingCompress
  | _ => none

@[simp]
theorem parse_asStr (status : ToolResultStatus) : parse status.asStr = some status := by
  cases status <;> rfl

end ToolResultStatus

namespace ToolDirective

def asStr : ToolDirective → String
  | .continue => "continue"
  | .waitUser => "wait_user"
  | .finish => "finish"

def parse : String → Option ToolDirective
  | "continue" => some .continue
  | "wait_user" => some .waitUser
  | "finish" => some .finish
  | _ => none

@[simp]
theorem parse_asStr (directive : ToolDirective) :
    parse directive.asStr = some directive := by
  cases directive <;> rfl

end ToolDirective

namespace ToolTruncationReason

def asStr : ToolTruncationReason → String
  | .outputLimit => "output_limit"
  | .readLimit => "read_limit"

def parse : String → Option ToolTruncationReason
  | "output_limit" => some .outputLimit
  | "read_limit" => some .readLimit
  | _ => none

@[simp]
theorem parse_asStr (reason : ToolTruncationReason) :
    parse reason.asStr = some reason := by
  cases reason <;> rfl

end ToolTruncationReason

structure ToolArtifactRef where
  path : String
  mediaType : String
  encoding : String
  sizeBytes : Nat
  sha256 : String
  deriving DecidableEq

structure ToolResultCursor where
  kind : String
  path : String
  offsetChars : Nat
  sha256 : String
  deriving DecidableEq

structure ToolExecutionResult where
  toolCallId : String
  content : String
  status : ToolResultStatus
  directive : ToolDirective := .continue
  errorCode : Option String := none
  metadata : JsonObject := []
  imageUrl : Option String := none
  imagePath : Option String := none
  truncated : Bool := false
  truncationReason : Option ToolTruncationReason := none
  originalBytes : Option Nat := none
  visibleBytes : Option Nat := none
  artifact : Option ToolArtifactRef := none
  cursor : Option ToolResultCursor := none
  deriving DecidableEq

structure ToolCall where
  id : String
  name : String
  arguments : JsonObject
  extraContent : Option Json
  deriving DecidableEq

structure CycleRecord where
  index : UInt32
  assistantMessage : String
  toolCalls : List ToolCall
  toolResults : List ToolExecutionResult
  memoryCompacted : Bool
  deriving DecidableEq

def isAsciiAlphanumeric (c : Char) : Bool :=
  ('0' ≤ c && c ≤ '9') || ('a' ≤ c && c ≤ 'z') || ('A' ≤ c && c ≤ 'Z')

/-- One segment of an artifact path. -/
def validArtifactSegment (segment : List Char) : Bool :=
  segment.length ≤ 128 && segment.head?.any isAsciiAlphanumeric &&
    segment.all (fun c => isAsciiAlphanumeric c || c == '.' || c == '_' || c == '-')

def artifactPathStart : String := ".vv-agent/artifacts/"

def validArtifactPath (path : String) : Bool :=
  path.utf8ByteSize ≤ 512 && artifactPathStart.toList.isPrefixOf path.toList &&
    !path.toList.contains '\\' && !path.toList.contains '\x00' &&
    ((path.toList.drop artifactPathStart.length).splitOn '/').all validArtifactSegment

def ToolArtifactRef.validate (artifact : ToolArtifactRef) : Except String Unit := do
  refuse (!validArtifactPath artifact.path) "artifact_path_invalid"
  refuse (artifact.mediaType != "text/plain" || artifact.encoding != "utf-8")
    "tool_result_invalid: artifact media type or encoding is invalid"
  refuse (!isSha256 artifact.sha256) "tool_result_invalid: artifact sha256 is invalid"

def ToolResultCursor.validate (cursor : ToolResultCursor) : Except String Unit :=
  refuse
    (cursor.kind != "read_file" || isBlank cursor.path ||
      cursor.path.toList.contains '\\' || cursor.path.toList.contains '\x00' ||
      maxWireInteger < cursor.offsetChars || !isSha256 cursor.sha256)
    "tool_result_invalid: read_file cursor is invalid"

namespace ToolExecutionResult

/-- Metadata keys that would repeat the bulk output of a tool. -/
def forbiddenMetadata : List String :=
  ["content", "instructions", "output", "stderr", "stdout"]

def validateMetadata (metadata : JsonObject) : Except String Unit :=
  checkAll
    (fun forbidden =>
      refuse (metadata.any (·.1 == forbidden))
        ("tool_result_invalid: metadata key \"" ++ forbidden ++
          "\" may not repeat bulk output"))
    forbiddenMetadata

/-- The recovery fields of a truncated result. -/
def validateRecovery (result : ToolExecutionResult) : Except String Unit := do
  let reason ← require result.truncationReason
    "tool_result_invalid: truncated result requires truncation_reason"
  let originalBytes ← require result.originalBytes
    "tool_result_invalid: truncated result requires original_bytes"
  let visibleBytes ← require result.visibleBytes
    "tool_result_invalid: truncated result requires visible_bytes"
  refuse (visibleBytes != result.content.utf8ByteSize || originalBytes < visibleBytes)
    "tool_result_invalid: truncated result byte counts are invalid"
  match reason with
  | .outputLimit => do
      let artifact ← require result.artifact
        "tool_result_invalid: output_limit requires artifact"
      refuse result.cursor.isSome "tool_result_invalid: output_limit cannot contain cursor"
      artifact.validate
  | .readLimit => do
      let cursor ← require result.cursor "tool_result_invalid: read_limit requires cursor"
      refuse result.artifact.isSome
        "tool_result_invalid: read_limit cannot contain artifact"
      cursor.validate

def validate (result : ToolExecutionResult) : Except String Unit := do
  refuse (result.status = .success && result.errorCode.isSome)
    "tool_result_invalid: SUCCESS results must not contain an error_code"
  validateMetadata result.metadata
  if result.truncated then
    result.validateRecovery
  else
    refuse
      (result.truncationReason.isSome || result.originalBytes.isSome ||
        result.visibleBytes.isSome || result.artifact.isSome || result.cursor.isSome)
      "tool_result_invalid: ordinary results cannot contain recovery fields"

end ToolExecutionResult

namespace ToolArtifactRef

def toValue (artifact : ToolArtifactRef) : Json :=
  .obj
    [("encoding", .str artifact.encoding), ("media_type", .str artifact.mediaType),
      ("path", .str artifact.path), ("sha256", .str artifact.sha256),
      ("size_bytes", .nat artifact.sizeBytes)]

def fromValue : Json → Option ToolArtifactRef
  | .obj
      [("encoding", .str encoding), ("media_type", .str mediaType), ("path", .str path),
        ("sha256", .str sha256), ("size_bytes", .num (.posInt sizeBytes))] =>
      some { path, mediaType, encoding, sizeBytes, sha256 }
  | _ => none

@[simp]
theorem fromValue_toValue (artifact : ToolArtifactRef) :
    fromValue artifact.toValue = some artifact := by
  simp [fromValue, toValue, Json.nat]

end ToolArtifactRef

namespace ToolResultCursor

def toValue (cursor : ToolResultCursor) : Json :=
  .obj
    [("kind", .str cursor.kind), ("offset_chars", .nat cursor.offsetChars),
      ("path", .str cursor.path), ("sha256", .str cursor.sha256)]

def fromValue : Json → Option ToolResultCursor
  | .obj
      [("kind", .str kind), ("offset_chars", .num (.posInt offsetChars)),
        ("path", .str path), ("sha256", .str sha256)] =>
      some { kind, path, offsetChars, sha256 }
  | _ => none

@[simp]
theorem fromValue_toValue (cursor : ToolResultCursor) :
    fromValue cursor.toValue = some cursor := by
  simp [fromValue, toValue, Json.nat]

end ToolResultCursor

/-- The members of a dictionary that are written: those with a value. -/
def present : List (String × Option Json) → JsonObject
  | [] => []
  | (key, some value) :: rest => (key, value) :: present rest
  | (_, none) :: rest => present rest

/-- A map is left out of a dictionary when it is empty. -/
def metadataValue (metadata : JsonObject) : Option Json :=
  if metadata.isEmpty then none else some (.obj metadata)

namespace ToolExecutionResult

def toDict (result : ToolExecutionResult) : Json :=
  .obj <| present
    [("artifact", result.artifact.map ToolArtifactRef.toValue),
      ("content", some (.str result.content)),
      ("cursor", result.cursor.map ToolResultCursor.toValue),
      ("directive", some (.str result.directive.asStr)),
      ("error_code", result.errorCode.map .str),
      ("image_path", result.imagePath.map .str),
      ("image_url", result.imageUrl.map .str),
      ("metadata", metadataValue result.metadata),
      ("original_bytes", result.originalBytes.map .nat),
      ("status_code", some (.str result.status.asStr)),
      ("tool_call_id", some (.str result.toolCallId)),
      ("truncated", if result.truncated then some (.bool true) else none),
      ("truncation_reason", result.truncationReason.map (.str ·.asStr)),
      ("visible_bytes", result.visibleBytes.map .nat)]

def requiredFields : List String := ["content", "directive", "status_code", "tool_call_id"]

def allowedFields : List String :=
  requiredFields ++
    ["artifact", "cursor", "error_code", "image_path", "image_url", "metadata",
      "original_bytes", "truncated", "truncation_reason", "visible_bytes"]

end ToolExecutionResult

/-- `["a", "b"]`, as field names are listed in error messages. -/
def debugNames (names : List String) : String :=
  "[" ++ ", ".intercalate (names.map fun name => "\"" ++ name ++ "\"") ++ "]"

def readRequiredString (members : JsonObject) (key : String) : Except String String :=
  match members.lookup key with
  | some (.str value) => .ok value
  | _ => .error ("missing required string field \"" ++ key ++ "\"")

theorem readRequiredString_of_lookup (members : JsonObject) (key value : String)
    (h : members.lookup key = some (.str value)) :
    readRequiredString members key = .ok value := by
  simp [readRequiredString, h]

namespace ToolExecutionResult

def readMetadata (members : JsonObject) : Except String JsonObject :=
  match members.lookup "metadata" with
  | none => .ok []
  | some (.obj metadata) => .ok metadata
  | some _ => .error "ToolExecutionResult metadata must be an object"

def readTruncated (members : JsonObject) : Except String Bool :=
  match members.lookup "truncated" with
  | none => .ok false
  | some (.bool true) => .ok true
  | some _ => .error "tool_result_invalid: truncated must be omitted or true"

def strictOptionalString (members : JsonObject) (key : String) :
    Except String (Option String) :=
  match members.lookup key with
  | none => .ok none
  | some (.str value) => .ok (some value)
  | some _ => .error ("ToolExecutionResult " ++ key ++ " must be a string")

def strictOptionalU64 (members : JsonObject) (key : String) :
    Except String (Option Nat) :=
  let message := "ToolExecutionResult " ++ key ++ " must be a JSON-safe unsigned integer"
  match members.lookup key with
  | none => .ok none
  | some (.num (.posInt value)) => do
      refuse (maxWireInteger < value) message
      return some value
  | some _ => .error message

/-- An optional nested object, read by its derived reader. -/
def strictOptionalObject {α : Type} (read : Json → Option α) (members : JsonObject)
    (key : String) : Except String (Option α) :=
  match members.lookup key with
  | none => .ok none
  | some (.obj object) => do
      let value ← require (read (.obj object))
        ("tool_result_invalid: ToolExecutionResult " ++ key ++ " is invalid")
      return some value
  | some _ => .error ("ToolExecutionResult " ++ key ++ " must be an object")

def readTruncationReason (members : JsonObject) :
    Except String (Option ToolTruncationReason) := do
  match ← strictOptionalString members "truncation_reason" with
  | none => return none
  | some text => do
      let reason ← require (ToolTruncationReason.parse text)
        "tool_result_invalid: truncation_reason is invalid"
      return some reason

def readStatus (members : JsonObject) : Except String ToolResultStatus := do
  let text ← readRequiredString members "status_code"
  require (ToolResultStatus.parse text) ("unknown tool result status: " ++ text)

def readDirective (members : JsonObject) : Except String ToolDirective := do
  let text ← readRequiredString members "directive"
  require (ToolDirective.parse text) ("unknown tool directive: " ++ text)

def fromDict (data : Json) : Except String ToolExecutionResult := do
  let members ← require data.asObject? "ToolExecutionResult payload must be an object"
  let keys := members.map (·.1)
  let missing := requiredFields.filter (!keys.contains ·)
  let unknown := keys.filter (!allowedFields.contains ·)
  refuse (!missing.isEmpty || !unknown.isEmpty)
    ("tool_result_invalid: ToolExecutionResult fields do not match the current wire: missing=" ++
      debugNames missing ++ ", unknown=" ++ debugNames unknown)
  let metadata ← readMetadata members
  let truncated ← readTruncated members
  let truncationReason ← readTruncationReason members
  let toolCallId ← readRequiredString members "tool_call_id"
  let content ← readRequiredString members "content"
  let status ← readStatus members
  let directive ← readDirective members
  let errorCode ← strictOptionalString members "error_code"
  let imageUrl ← strictOptionalString members "image_url"
  let imagePath ← strictOptionalString members "image_path"
  let originalBytes ← strictOptionalU64 members "original_bytes"
  let visibleBytes ← strictOptionalU64 members "visible_bytes"
  let artifact ← strictOptionalObject ToolArtifactRef.fromValue members "artifact"
  let cursor ← strictOptionalObject ToolResultCursor.fromValue members "cursor"
  let result : ToolExecutionResult :=
    { toolCallId, content, status, directive, errorCode, metadata, imageUrl, imagePath,
      truncated, truncationReason, originalBytes, visibleBytes, artifact, cursor }
  result.validate
  return result

end ToolExecutionResult

namespace ToolCall

def toDict (call : ToolCall) : Json :=
  .obj <| present
    [("arguments", some (.obj call.arguments)),
      ("extra_content", call.extraContent),
      ("id", some (.str call.id)),
      ("name", some (.str call.name))]

def readExtraContent (members : JsonObject) : Except String (Option Json) :=
  match members.lookup "extra_content" with
  | none => .ok none
  | some (.obj object) => .ok (some (.obj object))
  | some _ => .error "ToolCall extra_content must be an object"

/-- `strict_tool_call`, the reader used inside cycle records. -/
def strictFromDict (data : Json) : Except String ToolCall := do
  let members ← require data.asObject? "ToolCall payload must be an object"
  match members.find? (fun member =>
      !(["arguments", "extra_content", "id", "name"].contains member.1)) with
  | some member => .error ("ToolCall contains unknown field \"" ++ member.1 ++ "\"")
  | none => do
      let id ← readRequiredString members "id"
      let name ← readRequiredString members "name"
      let arguments ← require (members.lookup "arguments" >>= Json.asObject?)
        "ToolCall arguments must be an object"
      let extraContent ← readExtraContent members
      return { id, name, arguments, extraContent }

end ToolCall

namespace CycleRecord

def toDict (cycle : CycleRecord) : Json :=
  .obj
    [("assistant_message", .str cycle.assistantMessage),
      ("index", .nat cycle.index.toNat),
      ("memory_compacted", .bool cycle.memoryCompacted),
      ("tool_calls", .arr (cycle.toolCalls.map ToolCall.toDict)),
      ("tool_results", .arr (cycle.toolResults.map ToolExecutionResult.toDict))]

def readIndex (members : JsonObject) : Except String UInt32 :=
  match members.lookup "index" with
  | some (.num (.posInt value)) =>
      if value < UInt32.size then .ok (UInt32.ofNat value)
      else .error "CycleRecord index must fit in an unsigned 32-bit integer"
  | _ => .error "CycleRecord index must be an unsigned integer"

def fromDict (data : Json) : Except String CycleRecord := do
  let members ← require data.asObject? "CycleRecord payload must be an object"
  match members.find? (fun member =>
      !(["assistant_message", "index", "memory_compacted", "tool_calls",
        "tool_results"].contains member.1)) with
  | some member => .error ("CycleRecord contains unknown field \"" ++ member.1 ++ "\"")
  | none => do
      let index ← readIndex members
      let assistantMessage ← require (members.lookup "assistant_message" >>= Json.asStr?)
        "CycleRecord assistant_message must be a string"
      let toolCalls ← require (members.lookup "tool_calls" >>= Json.asArray?)
        "CycleRecord tool_calls must be an array"
      let toolCalls ← toolCalls.mapM ToolCall.strictFromDict
      let toolResults ← require (members.lookup "tool_results" >>= Json.asArray?)
        "CycleRecord tool_results must be an array"
      let toolResults ← toolResults.mapM ToolExecutionResult.fromDict
      let memoryCompacted ← require (members.lookup "memory_compacted" >>= Json.asBool?)
        "CycleRecord memory_compacted must be a boolean"
      return { index, assistantMessage, toolCalls, toolResults, memoryCompacted }

end CycleRecord

/-! ### Reading a record back from its own dictionary -/

@[simp]
theorem lookup_present_nil (key : String) : (present []).lookup key = none := rfl

@[simp]
theorem lookup_present_cons (key name : String) (value : Option Json)
    (rest : List (String × Option Json)) :
    (present ((name, value) :: rest)).lookup key =
      if key = name then value.or ((present rest).lookup key)
      else (present rest).lookup key := by
  cases value with
  | none => simp [present]
  | some item =>
      by_cases h : key = name
      · simp [present, h]
      · simp [present, List.lookup_cons, h, beq_eq_false_iff_ne.mpr h]

theorem mem_keys_present (fields : List (String × Option Json)) (key : String)
    (h : key ∈ (present fields).map (·.1)) : key ∈ fields.map (·.1) := by
  induction fields with
  | nil => simp [present] at h
  | cons field rest ih =>
      obtain ⟨name, value⟩ := field
      cases value with
      | none => exact List.mem_cons_of_mem _ (ih h)
      | some item =>
          simp only [present, List.map_cons, List.mem_cons] at h ⊢
          exact h.imp_right ih

theorem mem_keys_of_lookup (members : JsonObject) (key : String) (value : Json)
    (h : members.lookup key = some value) : key ∈ members.map (·.1) := by
  induction members with
  | nil => simp at h
  | cons member rest ih =>
      obtain ⟨name, item⟩ := member
      by_cases hkey : key = name
      · simp [hkey]
      · rw [List.lookup_cons, beq_eq_false_iff_ne.mpr hkey] at h
        exact List.mem_cons_of_mem _ (ih h)

namespace ToolExecutionResult

/-- What the dictionary of a tool result can carry: the result is valid and its
byte counts are JSON-safe. -/
structure WireSafe (result : ToolExecutionResult) : Prop where
  valid : result.validate = .ok ()
  original : ∀ n ∈ result.originalBytes, n ≤ maxWireInteger
  visible : ∀ n ∈ result.visibleBytes, n ≤ maxWireInteger

/-- The members that the dictionary of `result` holds, by name. -/
def fields (result : ToolExecutionResult) : JsonObject :=
  result.toDict.asObject?.getD []

theorem toDict_eq (result : ToolExecutionResult) : result.toDict = .obj result.fields := rfl

private theorem missing_fields (result : ToolExecutionResult) :
    requiredFields.filter (!(result.fields.map (·.1)).contains ·) = [] := by
  rw [List.filter_eq_nil_iff]
  intro key hkey
  have hlookup : ∃ value, result.fields.lookup key = some value := by
    simp only [requiredFields, List.mem_cons, List.not_mem_nil, or_false] at hkey
    rcases hkey with h | h | h | h <;> subst h <;>
      exact ⟨_, by simp [fields, toDict, Json.asObject?]; rfl⟩
  obtain ⟨value, hvalue⟩ := hlookup
  simpa using mem_keys_of_lookup result.fields key value hvalue

private theorem unknown_fields (result : ToolExecutionResult) :
    (result.fields.map (·.1)).filter (!allowedFields.contains ·) = [] := by
  rw [List.filter_eq_nil_iff]
  intro key hkey
  have hfields := mem_keys_present _ key hkey
  simp only [List.map_cons, List.map_nil, List.mem_cons, List.not_mem_nil, or_false]
    at hfields
  rcases hfields with h | h | h | h | h | h | h | h | h | h | h | h | h | h <;>
    subst h <;> decide

private theorem readMetadata_fields (result : ToolExecutionResult) :
    readMetadata result.fields = .ok result.metadata := by
  have hlookup : result.fields.lookup "metadata" = metadataValue result.metadata := by
    simp [fields, toDict, Json.asObject?]
  unfold readMetadata
  rw [hlookup]
  cases hmeta : result.metadata <;> simp [metadataValue]

private theorem readTruncated_fields (result : ToolExecutionResult) :
    readTruncated result.fields = .ok result.truncated := by
  have hlookup : result.fields.lookup "truncated" =
      if result.truncated then some (.bool true) else none := by
    simp [fields, toDict, Json.asObject?]
  unfold readTruncated
  rw [hlookup]
  cases result.truncated <;> rfl

private theorem strictOptionalString_of_lookup (members : JsonObject) (key : String)
    (value : Option String) (h : members.lookup key = value.map .str) :
    strictOptionalString members key = .ok value := by
  unfold strictOptionalString
  rw [h]
  cases value <;> rfl

private theorem strictOptionalU64_of_lookup (members : JsonObject) (key : String)
    (value : Option Nat) (h : members.lookup key = value.map .nat)
    (hsafe : ∀ n ∈ value, n ≤ maxWireInteger) :
    strictOptionalU64 members key = .ok value := by
  unfold strictOptionalU64
  rw [h]
  cases value with
  | none => rfl
  | some n =>
      have hn : ¬ maxWireInteger < n := Nat.not_lt.mpr (hsafe n rfl)
      simp [Json.nat, hn]

private theorem readTruncationReason_fields (result : ToolExecutionResult) :
    readTruncationReason result.fields = .ok result.truncationReason := by
  have hread : strictOptionalString result.fields "truncation_reason" =
      .ok (result.truncationReason.map (·.asStr)) := by
    apply strictOptionalString_of_lookup
    simp [fields, toDict, Json.asObject?, Function.comp_def]
  unfold readTruncationReason
  rw [hread]
  cases result.truncationReason <;> simp

private theorem strictOptionalObject_artifact (result : ToolExecutionResult) :
    strictOptionalObject ToolArtifactRef.fromValue result.fields "artifact" =
      .ok result.artifact := by
  have hlookup : result.fields.lookup "artifact" =
      result.artifact.map ToolArtifactRef.toValue := by
    simp [fields, toDict, Json.asObject?]
  unfold strictOptionalObject
  rw [hlookup]
  cases result.artifact with
  | none => rfl
  | some artifact =>
      have hread := ToolArtifactRef.fromValue_toValue artifact
      simp only [ToolArtifactRef.toValue] at hread
      simp [ToolArtifactRef.toValue, hread]

private theorem strictOptionalObject_cursor (result : ToolExecutionResult) :
    strictOptionalObject ToolResultCursor.fromValue result.fields "cursor" =
      .ok result.cursor := by
  have hlookup : result.fields.lookup "cursor" =
      result.cursor.map ToolResultCursor.toValue := by
    simp [fields, toDict, Json.asObject?]
  unfold strictOptionalObject
  rw [hlookup]
  cases result.cursor with
  | none => rfl
  | some cursor =>
      have hread := ToolResultCursor.fromValue_toValue cursor
      simp only [ToolResultCursor.toValue] at hread
      simp [ToolResultCursor.toValue, hread]

/-- A tool result within the limits of the wire is read back unchanged. -/
theorem fromDict_toDict (result : ToolExecutionResult) (hsafe : result.WireSafe) :
    fromDict result.toDict = .ok result := by
  have hstatus : readStatus result.fields = .ok result.status := by
    unfold readStatus
    rw [readRequiredString_of_lookup _ _ result.status.asStr
      (by simp [fields, toDict, Json.asObject?])]
    simp
  have hdirective : readDirective result.fields = .ok result.directive := by
    unfold readDirective
    rw [readRequiredString_of_lookup _ _ result.directive.asStr
      (by simp [fields, toDict, Json.asObject?])]
    simp
  unfold fromDict
  rw [toDict_eq]
  simp only [Json.asObject?, require_some, ok_bind, missing_fields, unknown_fields,
    List.isEmpty_nil, Bool.not_true, Bool.or_self, refuse_false, readMetadata_fields,
    readTruncated_fields, readTruncationReason_fields, hstatus, hdirective,
    strictOptionalObject_artifact, strictOptionalObject_cursor]
  rw [readRequiredString_of_lookup _ "tool_call_id" result.toolCallId
      (by simp [fields, toDict, Json.asObject?]),
    readRequiredString_of_lookup _ "content" result.content
      (by simp [fields, toDict, Json.asObject?]),
    strictOptionalString_of_lookup _ "error_code" result.errorCode
      (by simp [fields, toDict, Json.asObject?]),
    strictOptionalString_of_lookup _ "image_url" result.imageUrl
      (by simp [fields, toDict, Json.asObject?]),
    strictOptionalString_of_lookup _ "image_path" result.imagePath
      (by simp [fields, toDict, Json.asObject?]),
    strictOptionalU64_of_lookup _ "original_bytes" result.originalBytes
      (by simp [fields, toDict, Json.asObject?]) hsafe.original,
    strictOptionalU64_of_lookup _ "visible_bytes" result.visibleBytes
      (by simp [fields, toDict, Json.asObject?]) hsafe.visible]
  simp [hsafe.valid]

end ToolExecutionResult

/-- Extra content survives the cycle dictionary when it is absent or an object. -/
def ToolCall.wireSafe (call : ToolCall) : Bool := call.extraContent.all Json.isObject

theorem ToolCall.strictFromDict_toDict (call : ToolCall) (hsafe : call.wireSafe = true) :
    strictFromDict call.toDict = .ok call := by
  obtain ⟨id, name, arguments, extraContent⟩ := call
  cases extraContent with
  | none =>
      simp [strictFromDict, toDict, present, Json.asObject?, readRequiredString,
        readExtraContent, List.lookup_cons]
  | some extra =>
      cases extra with
      | obj object =>
          simp [strictFromDict, toDict, present, Json.asObject?, readRequiredString,
            readExtraContent, List.lookup_cons]
      | null | bool | num | str | arr =>
          simp [wireSafe, Json.isObject, Json.asObject?] at hsafe

theorem mapM_map_ok {α β ε : Type} (read : β → Except ε α) (write : α → β) (l : List α)
    (h : ∀ a ∈ l, read (write a) = .ok a) : (l.map write).mapM read = .ok l := by
  induction l with
  | nil => rfl
  | cons a rest ih =>
      have hrest := ih fun b hb => h b (List.mem_cons_of_mem _ hb)
      simp [List.mapM_cons, h a (List.mem_cons_self ..), hrest]

/-- What the dictionary of a cycle record can carry. -/
structure CycleRecord.WireSafe (cycle : CycleRecord) : Prop where
  toolCalls : ∀ call ∈ cycle.toolCalls, call.wireSafe = true
  toolResults : ∀ result ∈ cycle.toolResults, result.WireSafe

/-- A cycle record within the limits of the wire is read back unchanged. -/
theorem CycleRecord.fromDict_toDict (cycle : CycleRecord) (hsafe : cycle.WireSafe) :
    fromDict cycle.toDict = .ok cycle := by
  have hcalls : (cycle.toolCalls.map ToolCall.toDict).mapM ToolCall.strictFromDict =
      .ok cycle.toolCalls :=
    mapM_map_ok _ _ _ fun call hcall =>
      ToolCall.strictFromDict_toDict call (hsafe.toolCalls call hcall)
  have hresults :
      (cycle.toolResults.map ToolExecutionResult.toDict).mapM ToolExecutionResult.fromDict =
        .ok cycle.toolResults :=
    mapM_map_ok _ _ _ fun result hresult =>
      ToolExecutionResult.fromDict_toDict result (hsafe.toolResults result hresult)
  have hindex : cycle.index.toNat < 4294967296 := cycle.index.toNat_lt
  simp [fromDict, toDict, Json.asObject?, Json.asStr?, Json.asArray?, Json.asBool?,
    readIndex, Json.nat, List.lookup_cons, hcalls, hresults, hindex]

end VvAgent
