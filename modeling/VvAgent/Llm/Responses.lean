import VvAgent.Types.Messages

/-!
The responses of a model, complete and streamed. A complete response is translated as it is; a
stream is collected from its deltas, with the fragments of the tool calls put together under the id
of their call, or else of the call that was active last.
-/

namespace VvAgent
open Lib

/-- The client library's tool call; in a stream, the delta of one. -/
structure VvToolCall where
  id : String := ""
  name : String := ""
  arguments : String := ""
  index : Option Nat := none
  extraContent : Option Json := none
  deriving DecidableEq

/-- What is done with the usage of a provider, and with the texts that it is estimated from. -/
class UsageReader (Usage : Type) where
  fromVvLlmUsage : Usage → TokenUsage
  /-- The JSON text of the tool calls. -/
  toolCallsText : List VvToolCall → Option String
  /-- The tokens of a text under a model. -/
  countTokens : String → String → Nat

export UsageReader (fromVvLlmUsage toolCallsText countTokens)

structure ChatResponse (Usage : Type) where
  id : String := ""
  model : String := ""
  content : String := ""
  toolCalls : List VvToolCall := []
  reasoningContent : Option String := none
  usage : Option Usage := none

structure ChatStreamDelta (Usage : Type) where
  content : String := ""
  reasoningContent : String := ""
  toolCalls : List VvToolCall := []
  usage : Option Usage := none

structure LLMResponse where
  content : String
  toolCalls : List ToolCall
  raw : JsonObject
  tokenUsage : TokenUsage

structure UsageEstimateContext where
  model : String
  promptTokens : Nat

def completionPayloadForUsage (Usage : Type) [UsageReader Usage] (content : String)
    (toolCalls : List VvToolCall) : String :=
  if toolCalls.isEmpty then content
  else
    match toolCallsText Usage toolCalls with
    | some text => (if content = "" then content else content ++ "\n") ++ text
    | none => content

def estimateMissingUsage (Usage : Type) [UsageReader Usage] (content : String)
    (toolCalls : List VvToolCall) : Option UsageEstimateContext → TokenUsage
  | none => {}
  | some estimate =>
      let completionTokens := countTokens Usage
        (completionPayloadForUsage Usage content toolCalls) estimate.model
      { inputTokens := some estimate.promptTokens
        outputTokens := some completionTokens
        totalTokens := some (estimate.promptTokens + completionTokens)
        usageSource := .estimated }

def mergeToolCallExtraContent : Json → Json → Json
  | .obj existing, .obj extra =>
      .obj (extra.foldl (fun members entry => insertMember entry.1 entry.2 members) existing)
  | existing, extraContent =>
      .obj [("parse_error", existing), ("provider_extra_content", extraContent)]

/-- `str::trim`. -/
def trimmedText (text : String) : String := String.ofList (trimWhitespace text.toList)

def normalizeToolCallId (id : String) (index : Nat) : String :=
  if trimmedText id = "" then "call_generated_" ++ toString index else trimmedText id

def normalizeToolCallName (name : String) : String := String.ofList (name.toList.filter (· ≠ ' '))

section
variable [Texts]

def fromVvLlmToolCall (toolCall : VvToolCall) (index : Nat) : ToolCall :=
  let normalized := ToolCall.fromRawArguments (normalizeToolCallId toolCall.id index)
    (normalizeToolCallName toolCall.name) (.str toolCall.arguments)
  match toolCall.extraContent with
  | none => normalized
  | some extraContent =>
      { normalized with
        extraContent := some (match normalized.extraContent with
          | some existing => mergeToolCallExtraContent existing extraContent
          | none => extraContent) }

def fromVvLlmToolCalls (toolCalls : List VvToolCall) : List ToolCall :=
  toolCalls.mapIdx fun index toolCall => fromVvLlmToolCall toolCall index

variable {Usage : Type} [UsageReader Usage]

def fromVvLlmResponse (response : ChatResponse Usage) (estimate : Option UsageEstimateContext) :
    LLMResponse :=
  let tokenUsage := (response.usage.map fromVvLlmUsage).getD
    (estimateMissingUsage Usage response.content response.toolCalls estimate)
  { content := response.content
    toolCalls := fromVvLlmToolCalls response.toolCalls
    raw := insertMembers []
      [("id", some (.str response.id)), ("model", some (.str response.model)),
        ("reasoning_content", (response.reasoningContent.filter (· ≠ "")).map .str),
        ("usage", some (.obj tokenUsage.providerUsage))]
    tokenUsage }

end

/-! ### Streams -/

structure StreamingToolCallParts where
  id : String
  index : Option Nat := none
  name : String := ""
  arguments : String := ""
  extraContent : Option Json := none
  deriving DecidableEq

def resolveStreamToolCallKey (toolCall : VvToolCall) (index : Nat)
    (activeToolCallKey : Option String) : String :=
  if toolCall.id ≠ "" then toolCall.id
  else activeToolCallKey.getD ("call_stream_" ++ toString index)

/-- A delta of the call of these parts. -/
def StreamingToolCallParts.take (slot : StreamingToolCallParts) (delta : VvToolCall) :
    StreamingToolCallParts where
  id := if delta.id ≠ "" then delta.id else slot.id
  index := delta.index.or slot.index
  name := if delta.name ≠ "" then delta.name else slot.name
  arguments := slot.arguments ++ delta.arguments
  extraContent :=
    match slot.extraContent, delta.extraContent with
    | existing, none => existing
    | none, some extraContent => some extraContent
    | some existing, some extraContent => some (mergeToolCallExtraContent existing extraContent)

def StreamingToolCallParts.toToolCall (parts : StreamingToolCallParts) : VvToolCall where
  id := parts.id
  name := parts.name
  arguments := parts.arguments
  index := parts.index
  extraContent := parts.extraContent

/-- What has been collected of the tool calls: the parts by their keys in the order of the calls,
and the key of the call that is active. -/
structure ToolCallStream where
  slots : List (String × StreamingToolCallParts) := []
  activeToolCallKey : Option String := none

/-- A delta in a chunk, with its place there. -/
def ToolCallStream.push (stream : ToolCallStream) (delta : VvToolCall) (index : Nat) :
    ToolCallStream :=
  let key := resolveStreamToolCallKey delta index stream.activeToolCallKey
  let slots :=
    if stream.slots.any (·.1 = key) then stream.slots
    else stream.slots ++ [(key, { id := if delta.id = "" then key else delta.id, index := delta.index })]
  { slots := slots.map fun slot => if slot.1 = key then (slot.1, slot.2.take delta) else slot
    activeToolCallKey := some key }

/-- The deltas of a chunk. -/
def ToolCallStream.pushAll (stream : ToolCallStream) (deltas : List VvToolCall) : ToolCallStream :=
  deltas.zipIdx.foldl (fun stream entry => stream.push entry.1 entry.2) stream

def ToolCallStream.collected (stream : ToolCallStream) : List VvToolCall :=
  (stream.slots.map (·.2)).filter (·.name ≠ "") |>.map (·.toToolCall)

structure StreamState (Usage : Type) where
  content : String := ""
  reasoningContent : String := ""
  usage : Option Usage := none
  toolCalls : ToolCallStream := {}

def StreamState.push {Usage : Type} (state : StreamState Usage) (delta : ChatStreamDelta Usage) :
    StreamState Usage where
  content := state.content ++ delta.content
  reasoningContent := state.reasoningContent ++ delta.reasoningContent
  usage := delta.usage.or state.usage
  toolCalls := state.toolCalls.pushAll delta.toolCalls

def readStream {Usage : Type} (deltas : List (ChatStreamDelta Usage)) : StreamState Usage :=
  deltas.foldl StreamState.push {}

section
variable [Texts] {Usage : Type} [UsageReader Usage]

/-- `collect_vv_llm_stream`, of a stream without an error. -/
def collectVvLlmStream (model : String) (deltas : List (ChatStreamDelta Usage))
    (estimate : Option UsageEstimateContext) : LLMResponse :=
  let state := readStream deltas
  let collected := state.toolCalls.collected
  let payload := completionPayloadForUsage Usage state.content collected
  let tokenUsage := (state.usage.map fromVvLlmUsage).getD
    (estimateMissingUsage Usage payload [] estimate)
  { content := state.content
    toolCalls := fromVvLlmToolCalls collected
    raw := insertMembers []
      [("model", some (.str model)), ("stream_collected", some (.bool true)),
        ("reasoning_content",
          if state.reasoningContent = "" then none else some (.str state.reasoningContent)),
        ("usage", some (.obj tokenUsage.providerUsage))]
    tokenUsage }

end

end VvAgent
