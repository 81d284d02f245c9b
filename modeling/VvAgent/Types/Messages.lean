import VvAgent.Events
import VvAgent.Workspace.Backend

/-!
Messages on the wire and the message that answers a tool call. A tool call inside a message
carries its arguments as a text, which is parsed when the message is read; a truncated result
carries the way to the rest of its output as a JSON text on the last line of its content.
-/

namespace VvAgent
open Lib Lib.Outcome

/-- JSON texts as the JSON library reads and writes them. -/
class Texts extends Platform where
  /-- The value of a text, or what is wrong with the text. -/
  parse : String → Except String Json
  /-- The value that a text starts with. -/
  parseLeading : String → Option Json
  canonicalText : Json → String
  /-- The answer of a summary model without its code fence, analysis and tags. -/
  normalizeSummaryOutput : String → String

export Texts (parse parseLeading canonicalText normalizeSummaryOutput)

def MessageRole.parse : String → Option MessageRole
  | "system" => some .system
  | "user" => some .user
  | "assistant" => some .assistant
  | "tool" => some .tool
  | _ => none

theorem MessageRole.parse_asStr (role : MessageRole) : parse role.asStr = some role := by
  cases role <;> rfl

def Message.tool (content toolCallId : String) : Message :=
  { role := .tool, content, toolCallId := some toolCallId }

def jsonTypeName : Json → String
  | .null => "null"
  | .bool _ => "bool"
  | .num _ => "number"
  | .str _ => "string"
  | .arr _ => "array"
  | .obj _ => "object"

/-- `read_optional_string`. -/
def readOptionalString (members : JsonObject) (key : String) : Option String :=
  members.lookup key >>= Json.asStr?

/-- `read_metadata`. -/
def readObject (members : JsonObject) (key : String) : Except String JsonObject :=
  match members.lookup key with
  | some (.obj object) => .ok object
  | some .null | none => .ok []
  | some _ => .error ("\"" ++ key ++ "\" must be an object")

/-- `read_array`, with nothing where there is no array. -/
def readArray (members : JsonObject) (key : String) : List Json :=
  ((members.lookup key) >>= Json.asArray?).getD []

section
variable [Texts]

/-- The arguments of a call, or a code and a text for what is wrong with them. -/
def parseRawToolArguments : Json → Except (String × String) JsonObject
  | .null => .ok []
  | .obj members => .ok members
  | .str raw =>
      let stripped := trimWhitespace raw.toList
      if stripped = [] then .ok []
      else
        match parse (.ofList stripped) with
        | .ok (.obj members) => .ok members
        | .ok _ =>
            .error ("invalid_arguments_payload", "Tool arguments must decode to an object")
        | .error error =>
            .error ("invalid_arguments_json", "Invalid tool arguments JSON: " ++ error)
  | other =>
      .error
        ("invalid_arguments_type", "Unsupported tool argument type: " ++ jsonTypeName other)

namespace ToolCall

/-- Arguments that cannot be read are kept beside the error. -/
def fromRawArguments (id name : String) (rawArguments : Json) : ToolCall :=
  match parseRawToolArguments rawArguments with
  | .ok arguments => { id, name, arguments, extraContent := none }
  | .error (errorCode, error) =>
      { id, name, arguments := []
        extraContent := some (.obj
          [("argument_error", .str error), ("argument_error_code", .str errorCode),
            ("raw_arguments", rawArguments)]) }

def fromDict (data : Json) : Except String ToolCall := do
  let members ← require data.asObject? "ToolCall payload must be an object"
  match members.lookup "function" >>= Json.asObject? with
  | some function => do
      let id ← readRequiredString members "id"
      let name ← readRequiredString function "name"
      let rawArguments := (function.lookup "arguments").getD (.str "\x7b\x7d")
      return { fromRawArguments id name rawArguments with
        extraContent := (members.lookup "extra_content").filter Json.isObject }
  | none => do
      let id ← readRequiredString members "id"
      let name ← readRequiredString members "name"
      let arguments ← readObject members "arguments"
      return { id, name, arguments,
               extraContent := (members.lookup "extra_content").filter Json.isObject }

end ToolCall

namespace Message

def allowedFields : List String :=
  ["role", "content", "name", "tool_call_id", "tool_calls", "reasoning_content", "image_url",
    "metadata", "artifact_ref"]

def stringFields : List String := ["name", "tool_call_id", "reasoning_content", "image_url"]

def checkStringField (members : JsonObject) (field : String) : Except String Unit :=
  refuse ((members.lookup field).any fun value => value != .null && value.asStr?.isNone)
    ("Message field \"" ++ field ++ "\" must be a string or null")

def readArtifactRef (members : JsonObject) : Except String (Option ToolArtifactRef) :=
  match members.lookup "artifact_ref" with
  | none => .ok none
  | some value => do
      refuse (!value.isObject) "Message field \"artifact_ref\" must be an object"
      let artifact ← require (ToolArtifactRef.fromValue value) "invalid artifact_ref"
      artifact.validate
      return some artifact

def fromDict (data : Json) : Except String Message := do
  let members ← require data.asObject? "Message payload must be an object"
  let unknown := (members.map (·.1)).filter (!allowedFields.contains ·)
  refuse (!unknown.isEmpty) ("Message contains unknown fields: " ++ debugNames unknown)
  let roleText ← readRequiredString members "role"
  let role ← require (MessageRole.parse roleText) ("unknown message role: " ++ roleText)
  let content ← readRequiredString members "content"
  let toolCalls ← (readArray members "tool_calls").mapM ToolCall.fromDict
  checkAll (checkStringField members) stringFields
  let artifactRef ← readArtifactRef members
  let metadata ← readObject members "metadata"
  validateCompactionMetadata metadata
  return { role, content, toolCalls, metadata, artifactRef
           name := readOptionalString members "name"
           toolCallId := readOptionalString members "tool_call_id"
           reasoningContent := readOptionalString members "reasoning_content"
           imageUrl := readOptionalString members "image_url" }

end Message

namespace ToolExecutionResult

/-- Where the rest of a truncated result is. A result that passed its check has the reason and
both byte counts. -/
def recoveryMembers (result : ToolExecutionResult) : JsonObject :=
  present
    [("artifact", result.artifact.map ToolArtifactRef.toValue),
      ("cursor", result.cursor.map ToolResultCursor.toValue),
      ("original_bytes", result.originalBytes.map .nat),
      ("truncated", some (.bool true)),
      ("truncation_reason", result.truncationReason.map fun reason => .str reason.asStr),
      ("visible_bytes", result.visibleBytes.map .nat)]

def recoveryValue (result : ToolExecutionResult) : Json :=
  .obj [("vv_agent_recovery", .obj result.recoveryMembers)]

def messageContent (result : ToolExecutionResult) : String :=
  if result.truncated then result.content ++ "\n" ++ canonicalText result.recoveryValue
  else result.content

def microcompactExcerptKey : String := "_vv_agent_microcompact_excerpt"

def toMessage (result : ToolExecutionResult) : Message :=
  { Message.tool result.messageContent result.toolCallId with
    artifactRef := result.artifact
    metadata :=
      if result.artifact.isSome then [(microcompactExcerptKey, .str result.content)] else [] }

end ToolExecutionResult

/-! ### Messages that are read back as they were written -/

namespace Message

/-- The members that the dictionary of a message holds, by name. -/
def fields (message : Message) : JsonObject := message.toDict.asObject?.getD []

theorem toDict_eq (message : Message) : message.toDict = .obj message.fields := rfl

private theorem unknown_fields (message : Message) :
    (message.fields.map (·.1)).filter (!allowedFields.contains ·) = [] := by
  rw [List.filter_eq_nil_iff]
  intro key hkey
  have hfields := mem_keys_present _ key hkey
  simp only [List.map_cons, List.map_nil, List.mem_cons, List.not_mem_nil, or_false] at hfields
  rcases hfields with h | h | h | h | h | h | h | h | h <;> subst h <;> decide

omit [Texts] in
private theorem readOptionalString_of_lookup (members : JsonObject) (key : String)
    (value : Option String) (h : members.lookup key = value.map .str) :
    readOptionalString members key = value := by
  unfold readOptionalString
  rw [h]
  cases value <;> rfl

omit [Texts] in
private theorem checkStringField_of_lookup (members : JsonObject) (key : String)
    (value : Option String) (h : members.lookup key = value.map .str) :
    checkStringField members key = .ok () := by
  unfold checkStringField
  rw [h]
  cases value <;> simp [Json.asStr?]

private theorem readArray_fields (message : Message) :
    readArray message.fields "tool_calls" = message.toolCalls.map toolCallToOpenai := by
  have hlookup : message.fields.lookup "tool_calls" =
      if message.toolCalls.isEmpty then none
      else some (.arr (message.toolCalls.map toolCallToOpenai)) := by
    simp [fields, toDict, Json.asObject?]
  unfold readArray
  rw [hlookup]
  cases message.toolCalls with
  | nil => simp
  | cons call rest => simp [Json.asArray?]

private theorem readObject_fields (message : Message) :
    readObject message.fields "metadata" = .ok message.metadata := by
  have hlookup : message.fields.lookup "metadata" = metadataValue message.metadata := by
    simp [fields, toDict, Json.asObject?]
  unfold readObject
  rw [hlookup]
  cases hmeta : message.metadata <;> simp [metadataValue]

/-- The artifact reference of a message is checked when the message is read. -/
private theorem readArtifactRef_fields (message : Message) :
    readArtifactRef message.fields = .ok message.artifactRef ↔
      ∀ artifact ∈ message.artifactRef, artifact.validate = .ok () := by
  have hlookup : message.fields.lookup "artifact_ref" =
      message.artifactRef.map ToolArtifactRef.toValue := by
    simp [fields, toDict, Json.asObject?]
  unfold readArtifactRef
  rw [hlookup]
  cases message.artifactRef with
  | none => simp
  | some artifact =>
      have hobject : artifact.toValue.isObject = true := rfl
      simp [ToolArtifactRef.fromValue_toValue, hobject, unit_guard_bind]

private theorem checkStringFields_fields (message : Message) :
    checkAll (checkStringField message.fields) stringFields = .ok () := by
  rw [checkAll_eq_ok]
  intro key hkey
  simp only [stringFields, List.mem_cons, List.not_mem_nil, or_false] at hkey
  rcases hkey with rfl | rfl | rfl | rfl
  · exact checkStringField_of_lookup _ _ message.name (by simp [fields, toDict, Json.asObject?])
  · exact checkStringField_of_lookup _ _ message.toolCallId
      (by simp [fields, toDict, Json.asObject?])
  · exact checkStringField_of_lookup _ _ message.reasoningContent
      (by simp [fields, toDict, Json.asObject?])
  · exact checkStringField_of_lookup _ _ message.imageUrl
      (by simp [fields, toDict, Json.asObject?])

/-- The calls of a message are read back from the texts of their arguments. -/
def CallsReadBack (message : Message) : Prop :=
  (message.toolCalls.map toolCallToOpenai).mapM ToolCall.fromDict = .ok message.toolCalls

/-- A message that is read back unchanged from its dictionary. -/
def Decodable (message : Message) : Prop := fromDict message.toDict = .ok message

/-- Reading can only fail on the artifact reference, the evidence of a compaction and the
calls. -/
theorem decodable_iff (message : Message) :
    message.Decodable ↔
      message.CallsReadBack ∧ (∀ artifact ∈ message.artifactRef, artifact.validate = .ok ()) ∧
        validateCompactionMetadata message.metadata = .ok () := by
  have hrole : readRequiredString message.fields "role" = .ok message.role.asStr :=
    readRequiredString_of_lookup _ _ _ (by simp [fields, toDict, Json.asObject?])
  have hcontent : readRequiredString message.fields "content" = .ok message.content :=
    readRequiredString_of_lookup _ _ _ (by simp [fields, toDict, Json.asObject?])
  have hname : readOptionalString message.fields "name" = message.name :=
    readOptionalString_of_lookup _ _ _ (by simp [fields, toDict, Json.asObject?])
  have hcall : readOptionalString message.fields "tool_call_id" = message.toolCallId :=
    readOptionalString_of_lookup _ _ _ (by simp [fields, toDict, Json.asObject?])
  have hreasoning : readOptionalString message.fields "reasoning_content" =
      message.reasoningContent :=
    readOptionalString_of_lookup _ _ _ (by simp [fields, toDict, Json.asObject?])
  have himage : readOptionalString message.fields "image_url" = message.imageUrl :=
    readOptionalString_of_lookup _ _ _ (by simp [fields, toDict, Json.asObject?])
  unfold Decodable fromDict
  rw [toDict_eq]
  simp only [Json.asObject?, require_some, ok_bind, unknown_fields, List.isEmpty_nil,
    Bool.not_true, refuse_false, hrole, MessageRole.parse_asStr, hcontent, readArray_fields,
    checkStringFields_fields, readObject_fields, hname, hcall, hreasoning, himage, bind_eq_ok,
    pure_ok, Except.ok.injEq]
  constructor
  · rintro ⟨calls, hcalls, artifact, hartifact, _, hmetadata, heq⟩
    obtain rfl : calls = message.toolCalls := congrArg Message.toolCalls heq
    obtain rfl : artifact = message.artifactRef := congrArg Message.artifactRef heq
    exact ⟨hcalls, (readArtifactRef_fields message).mp hartifact, hmetadata⟩
  · rintro ⟨hcalls, hartifact, hmetadata⟩
    exact ⟨message.toolCalls, hcalls, message.artifactRef,
      (readArtifactRef_fields message).mpr hartifact, (), hmetadata, rfl⟩

end Message

end

end VvAgent
