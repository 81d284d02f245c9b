import VvAgent.Types.Dictionaries

/-!
Session items and their JSON. An item is written as the message it stands for; the writer checks
the compaction evidence of the message and nothing else, while the reader checks the tool calls
and the artifact reference as well.
-/

namespace VvAgent
open Lib Lib.Outcome

inductive SessionItem where
  | user (content : String)
  | assistant (content : String)
  | system (content : String)
  | tool (content toolCallId : String)
  | message (message : Message)
  deriving DecidableEq

namespace SessionItem

def toMessage : SessionItem → Message
  | .user content => .user content
  | .assistant content => { role := .assistant, content }
  | .system content => { role := .system, content }
  | .tool content toolCallId => .tool content toolCallId
  | .message whole => whole

/-- A message with more than its content is kept whole. -/
def fromMessage (message : Message) : SessionItem :=
  let unrepresentableToolCallId :=
    match message.role with
    | .tool => message.toolCallId.isNone
    | _ => message.toolCallId.isSome
  if unrepresentableToolCallId || message.name.isSome || !message.toolCalls.isEmpty ||
      message.reasoningContent.isSome || message.imageUrl.isSome || !message.metadata.isEmpty ||
      message.artifactRef.isSome then
    .message message
  else
    match message.role with
    | .system => .system message.content
    | .user => .user message.content
    | .assistant => .assistant message.content
    | .tool => .tool message.content (message.toolCallId.getD "")

theorem toMessage_fromMessage (message : Message) : (fromMessage message).toMessage = message := by
  obtain ⟨role, content, name, toolCallId, toolCalls, reasoning, image, metadata, artifact⟩ :=
    message
  unfold fromMessage
  dsimp only
  split_ifs with hmore
  · rfl
  · simp only [Bool.or_eq_true, not_or, Bool.not_eq_true, Option.isSome_eq_false_iff,
      Option.isNone_iff_eq_none, Bool.not_eq_false', List.isEmpty_iff] at hmore
    obtain ⟨⟨⟨⟨⟨⟨hid, rfl⟩, rfl⟩, rfl⟩, rfl⟩, rfl⟩, rfl⟩ := hmore
    cases role <;> cases toolCallId <;> first | rfl | cases hid

end SessionItem

/-! ### The JSON of a session item -/

section
variable [Texts]

/-- An optional field that, when it is there, holds a string. -/
def presentString (members : JsonObject) (key : String) : Except String (Option String) :=
  match members.lookup key with
  | none => .ok none
  | some (.str value) => .ok (some value)
  | some _ => .error ("invalid type for `" ++ key ++ "`, expected a string")

/-- A closed record: an object without unknown fields. -/
def closedObject (value : Json) (fields : List String) : Except String JsonObject := do
  let members ← require value.asObject? "invalid type, expected a map"
  refuse (members.any fun member => !fields.contains member.1) "unknown field"
  return members

/-- `SessionToolCallInput`, read and turned into a call. -/
def sessionToolCall (value : Json) : Except String ToolCall := do
  let members ← closedObject value ["id", "type", "function", "extra_content"]
  let id ← readRequiredString members "id"
  let kind ← readRequiredString members "type"
  let function ← require (members.lookup "function") "missing field `function`"
  let functionMembers ← closedObject function ["name", "arguments"]
  let name ← readRequiredString functionMembers "name"
  let raw ← readRequiredString functionMembers "arguments"
  let extraContent ← ToolCall.readExtraContent members
  refuse (isBlank id) "session tool call id must be non-empty"
  refuse (kind != "function") ("unknown session tool call type: " ++ kind)
  refuse (isBlank name) "session tool function name must be non-empty"
  let arguments ← parse raw
  let arguments ← require arguments.asObject? "session tool arguments must decode to an object"
  return { id, name, arguments, extraContent }

namespace SessionItem

def messageFields : List String :=
  ["role", "content", "name", "tool_call_id", "tool_calls", "reasoning_content", "image_url",
    "metadata", "artifact_ref"]

def readToolCalls (members : JsonObject) : Except String (List ToolCall) :=
  match members.lookup "tool_calls" with
  | none => .ok []
  | some (.arr calls) => calls.mapM sessionToolCall
  | some _ => .error "invalid type for `tool_calls`, expected a sequence"

def readItemMetadata (members : JsonObject) : Except String JsonObject :=
  match members.lookup "metadata" with
  | none => .ok []
  | some (.obj metadata) => .ok metadata
  | some _ => .error "invalid type for `metadata`, expected a map"

def readItemArtifact (members : JsonObject) : Except String (Option ToolArtifactRef) :=
  match members.lookup "artifact_ref" with
  | none => .ok none
  | some value => do
      let artifact ← require (ToolArtifactRef.fromValue value) "invalid artifact_ref"
      artifact.validate
      return some artifact

/-- `SessionMessageInput`, read and turned into an item. -/
def fromValue (value : Json) : Except String SessionItem := do
  let members ← closedObject value messageFields
  let roleText ← readRequiredString members "role"
  let content ← readRequiredString members "content"
  let name ← presentString members "name"
  let toolCallId ← presentString members "tool_call_id"
  let reasoningContent ← presentString members "reasoning_content"
  let imageUrl ← presentString members "image_url"
  let metadata ← readItemMetadata members
  let role ← require (MessageRole.parse roleText) ("unknown message role: " ++ roleText)
  let toolCalls ← readToolCalls members
  let artifactRef ← readItemArtifact members
  validateCompactionMetadata metadata
  return fromMessage
    { role, content, name, toolCallId, toolCalls, reasoningContent, imageUrl, metadata,
      artifactRef }

/-- An item is written as its message is. -/
def toValue (item : SessionItem) : Except String Json := do
  validateCompactionMetadata item.toMessage.metadata
  return item.toMessage.toDict

def toText (item : SessionItem) : Except String String := do
  let value ← item.toValue
  return Platform.jsonText value

def ofText (payload : String) : Except String SessionItem := do
  let value ← parse payload
  fromValue value

/-- The payload of an item, from which the item is read back. -/
structure WrittenAs (payload : String) (item : SessionItem) : Prop where
  written : item.toText = .ok payload
  readBack : ofText payload = .ok item

end SessionItem

/-- A call that the reader of session items accepts. -/
structure ToolCall.Storable (call : ToolCall) : Prop where
  id : isBlank call.id = false
  name : isBlank call.name = false
  extraContent : call.wireSafe = true
  arguments : parse (Platform.jsonText (.obj call.arguments)) = .ok (.obj call.arguments)

/-- A message that a session can keep as JSON. -/
structure Message.Storable (message : Message) : Prop where
  calls : ∀ call ∈ message.toolCalls, call.Storable
  artifact : ∀ artifact ∈ message.artifactRef, artifact.validate = .ok ()
  evidence : validateCompactionMetadata message.metadata = .ok ()
  text : parse (Platform.jsonText message.toDict) = .ok message.toDict

namespace SessionItem

theorem sessionToolCall_toolCallToOpenai {call : ToolCall} (h : call.Storable) :
    sessionToolCall (toolCallToOpenai call) = .ok call := by
  obtain ⟨id, name, arguments, extraContent⟩ := call
  obtain ⟨hid, hname, hextra, harguments⟩ := h
  dsimp only at hid hname harguments
  cases extraContent with
  | none =>
      simp [sessionToolCall, toolCallToOpenai, present, closedObject, Json.asObject?,
        readRequiredString, ToolCall.readExtraContent, List.lookup_cons, hid, hname, harguments]
  | some extra =>
      obtain ⟨members, rfl⟩ := ToolCall.isObject_iff.mp hextra
      simp [sessionToolCall, toolCallToOpenai, present, closedObject, Json.asObject?,
        readRequiredString, ToolCall.readExtraContent, List.lookup_cons, hid, hname, harguments]

omit [Texts] in
private theorem presentString_of_lookup {members : JsonObject} {key : String}
    {value : Option String} (h : members.lookup key = value.map .str) :
    presentString members key = .ok value := by
  unfold presentString
  rw [h]
  cases value <;> rfl

/-- The dictionary of a message is a closed record of the fields of an item. -/
theorem closedObject_fields (message : Message) :
    closedObject message.toDict messageFields = .ok message.fields := by
  have hknown : (message.fields.any fun member => !messageFields.contains member.1) = false := by
    rw [List.any_eq_false]
    rintro ⟨key, value⟩ hmember
    have hkey := mem_keys_present _ key (List.mem_map_of_mem hmember)
    simp only [List.map_cons, List.map_nil, List.mem_cons, List.not_mem_nil, or_false] at hkey
    dsimp only
    rcases hkey with h | h | h | h | h | h | h | h | h <;> subst h <;> decide
  rw [Message.toDict_eq, closedObject, Json.asObject?, require_some, ok_bind, hknown]
  rfl

/-- A storable message is read from its JSON as the item it is kept as. -/
theorem fromValue_toDict {message : Message} (h : message.Storable) :
    fromValue message.toDict = .ok (fromMessage message) := by
  have hrole : readRequiredString message.fields "role" = .ok message.role.asStr := by
    simp [readRequiredString, Message.fields, Message.toDict, Json.asObject?]
  have hcontent : readRequiredString message.fields "content" = .ok message.content := by
    simp [readRequiredString, Message.fields, Message.toDict, Json.asObject?]
  have hname : presentString message.fields "name" = .ok message.name :=
    presentString_of_lookup (by simp [Message.fields, Message.toDict, Json.asObject?])
  have hid : presentString message.fields "tool_call_id" = .ok message.toolCallId :=
    presentString_of_lookup (by simp [Message.fields, Message.toDict, Json.asObject?])
  have hreasoning : presentString message.fields "reasoning_content" =
      .ok message.reasoningContent :=
    presentString_of_lookup (by simp [Message.fields, Message.toDict, Json.asObject?])
  have himage : presentString message.fields "image_url" = .ok message.imageUrl :=
    presentString_of_lookup (by simp [Message.fields, Message.toDict, Json.asObject?])
  have hmetadata : readItemMetadata message.fields = .ok message.metadata := by
    have hmembers : message.fields.lookup "metadata" = metadataValue message.metadata := by
      simp [Message.fields, Message.toDict, Json.asObject?]
    unfold readItemMetadata
    rw [hmembers]
    cases message.metadata <;> simp [metadataValue]
  have hartifact : readItemArtifact message.fields = .ok message.artifactRef := by
    have hmembers : message.fields.lookup "artifact_ref" =
        message.artifactRef.map ToolArtifactRef.toValue := by
      simp [Message.fields, Message.toDict, Json.asObject?]
    unfold readItemArtifact
    rw [hmembers]
    cases hartifact : message.artifactRef with
    | none => rfl
    | some artifact =>
        have hvalid := h.artifact artifact hartifact
        simp [ToolArtifactRef.fromValue_toValue, hvalid]
  have hcalls : readToolCalls message.fields = .ok message.toolCalls := by
    have hmembers : message.fields.lookup "tool_calls" =
        if message.toolCalls.isEmpty then none
        else some (.arr (message.toolCalls.map toolCallToOpenai)) := by
      simp [Message.fields, Message.toDict, Json.asObject?]
    have hread : (message.toolCalls.map toolCallToOpenai).mapM sessionToolCall =
        .ok message.toolCalls :=
      mapM_map_ok _ _ _ fun call hcall => sessionToolCall_toolCallToOpenai (h.calls call hcall)
    unfold readToolCalls
    rw [hmembers]
    cases hsome : message.toolCalls with
    | nil => rfl
    | cons call rest =>
        rw [hsome] at hread
        simpa using hread
  unfold fromValue
  simp only [closedObject_fields, ok_bind, hrole, hcontent, hname, hid, hreasoning, himage,
    hmetadata, MessageRole.parse_asStr, require_some, hcalls, hartifact, h.evidence, pure_ok]

/-- The payload of a storable message. -/
theorem writtenAs_fromMessage {message : Message} (h : message.Storable) :
    WrittenAs (Platform.jsonText message.toDict) (fromMessage message) := by
  constructor
  · simp [toText, toValue, toMessage_fromMessage, h.evidence]
  · simp [ofText, h.text, fromValue_toDict h]

end SessionItem

end

end VvAgent
