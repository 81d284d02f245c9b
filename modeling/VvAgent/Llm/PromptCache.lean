import Mathlib.Algebra.GroupWithZero.Nat
import Mathlib.Data.List.Infix
import VvAgent.Llm.Responses

/-!
Prompt caching. The messages and tools of a request are projected to JSON, where a plan puts cache
markers: at the end of the stable sections of the prompt, at the last tool, and at the last block of
the history that can have one. The contents of the plan are read back into the request.
-/

namespace VvAgent
open Lib

/-! ### The request -/

/-- A block of a message of the client library. -/
inductive VvContent where
  | text (text : String) (cacheControl : Option Json)
  | imageUrl (url : String)
  deriving DecidableEq

structure VvMessage where
  role : MessageRole
  content : List VvContent := []
  name : Option String := none
  toolCallId : Option String := none
  toolCalls : List VvToolCall := []
  reasoningContent : Option String := none
  deriving DecidableEq

structure ChatTool where
  name : String
  description : Option String := none
  parameters : Json
  cacheControl : Option Json := none
  deriving DecidableEq

structure ChatRequest where
  messages : List VvMessage
  tools : List ChatTool := []
  extraBody : Json := .null
  deriving DecidableEq

structure PromptSection where
  text : String
  stable : Bool

structure PromptBundle where
  sections : List PromptSection

def PromptBundle.flatten (bundle : PromptBundle) : String :=
  String.intercalate "\n\n" (bundle.sections.map (·.text))

def cacheControlEphemeral : Json := .obj [("type", .str "ephemeral")]

def promptCacheEnabledKey : String := "anthropic_prompt_cache_enabled"

/-- `to_ascii_lowercase`. -/
def asciiLowercase (text : List Char) : String := .ofList (text.map Char.toLower)

/-! ### Messages as JSON -/

def objectOf (fields : List (String × Option Json)) : Json := .obj (insertMembers [] fields)

def vvLlmContentToCacheJson : VvContent → Json
  | .text text cacheControl =>
      objectOf [("type", some (.str "text")), ("text", some (.str text)),
        ("cache_control", cacheControl)]
  | .imageUrl url =>
      objectOf [("type", some (.str "image_url")),
        ("image_url", some (objectOf [("url", some (.str url))]))]

def vvLlmToolCallToOpenaiJson (toolCall : VvToolCall) : Json :=
  objectOf [("id", some (.str toolCall.id)), ("type", some (.str "function")),
    ("function", some (objectOf [("name", some (.str toolCall.name)),
      ("arguments", some (.str toolCall.arguments))]))]

section
variable [Texts]

def vvLlmToolCallToAnthropicCacheJson (toolCall : VvToolCall) : Json :=
  let input :=
    match parse toolCall.arguments with
    | .ok value => value
    | .error _ => .str toolCall.arguments
  objectOf [("type", some (.str "tool_use")), ("id", some (.str toolCall.id)),
    ("name", some (.str toolCall.name)), ("input", some input)]

/-- A text that is left out where it is empty. -/
def filledText (text : Option String) : Option Json := (text.filter (· ≠ "")).map .str

def vvLlmMessageToCacheJson (message : VvMessage) : Json :=
  let toolCalls := message.toolCalls.map vvLlmToolCallToOpenaiJson
  objectOf [("role", some (.str message.role.asStr)),
    ("content", some (.arr (message.content.map vvLlmContentToCacheJson ++
      message.toolCalls.map vvLlmToolCallToAnthropicCacheJson))),
    ("name", filledText message.name), ("tool_call_id", filledText message.toolCallId),
    ("reasoning_content", filledText message.reasoningContent),
    ("tool_calls", if message.toolCalls.isEmpty then none else some (.arr toolCalls))]

def vvLlmToolToCacheJson (tool : ChatTool) : Json :=
  objectOf [("type", some (.str "function")),
    ("function", some (objectOf [("name", some (.str tool.name)),
      ("description", some (.str (tool.description.getD ""))),
      ("parameters", some tool.parameters)])),
    ("cache_control", tool.cacheControl)]

/-! ### Messages from JSON -/

def cacheBlockContentText : Option Json → String
  | some (.str text) => text
  | some (.bool value) => toString value
  | some .null | none => ""
  | some value => Platform.jsonText value

def cacheBlockToVvLlmContent (block : Json) : Option VvContent := do
  let members ← block.asObject?
  let blockType := asciiLowercase ((members.lookup "type" >>= Json.asStr?).getD "text").toList
  if blockType = "text" then
    some (.text ((members.lookup "text" >>= Json.asStr?).getD "") (members.lookup "cache_control"))
  else if blockType = "image_url" then
    (members.lookup "image_url" >>= (·.get? "url") >>= Json.asStr?).map .imageUrl
  else if blockType = "tool_result" then
    some (.text (cacheBlockContentText (members.lookup "content")) (members.lookup "cache_control"))
  else none

def cacheContentToVvLlmContent : Json → List VvContent
  | .arr items => items.filterMap cacheBlockToVvLlmContent
  | .str text => [.text text none]
  | _ => []

def applyPlannedMessageContent : List VvMessage → List Json → List VvMessage
  | message :: messages, planned :: plan =>
      (match planned.get? "content" with
        | some content => { message with content := cacheContentToVvLlmContent content }
        | none => message) :: applyPlannedMessageContent messages plan
  | messages, _ => messages

def applyPlannedToolCacheControl : List ChatTool → List Json → List ChatTool
  | tool :: tools, planned :: plan =>
      (match planned.get? "cache_control" with
        | some cacheControl => { tool with cacheControl := some cacheControl }
        | none => tool) :: applyPlannedToolCacheControl tools plan
  | tools, _ => tools

/-! ### Blocks and their sizes -/

def valueToString : Option Json → String
  | some (.str text) => text
  | some (.bool value) => toString value
  | some .null | none => ""
  | some value => Platform.jsonText value

def blockType (block : Json) : String :=
  let normalized := asciiLowercase (trimWhitespace (valueToString (block.get? "type")).toList)
  if normalized = "" then "text" else normalized

def isThinkingBlockType (type : String) : Bool := type = "thinking" || type = "redacted_thinking"

def normalizedContentBlocks : Option Json → List Json
  | some (.arr items) =>
      items.filterMap fun
        | .obj members => some (.obj members)
        | .str text => some (objectOf [("type", some (.str "text")), ("text", some (.str text))])
        | _ => none
  | some (.str text) => [objectOf [("type", some (.str "text")), ("text", some (.str text))]]
  | _ => []

def contentBlocks (message : Json) : List Json := normalizedContentBlocks (message.get? "content")

def setCacheControl : Json → Json
  | .obj members => .obj (insertMember "cache_control" cacheControlEphemeral members)
  | block => block

def estimateTokens (charCount : Nat) : Nat := (charCount + 3) / 4

/-- Objects are kept in the order of their keys, so that sorting leaves them as they are. -/
def estimateToolChars (tool : Json) : Nat := (Platform.jsonText tool).length

def estimateBlockChars (block : Json) : Nat :=
  let type := blockType block
  if type = "text" then (valueToString (block.get? "text")).length
  else if type = "tool_result" then
    (Platform.jsonText ((block.get? "content").getD .null)).length
  else if type = "tool_use" then
    (valueToString (block.get? "name")).length +
      (Platform.jsonText ((block.get? "input").getD .null)).length
  else if isThinkingBlockType type then 0
  else (Platform.jsonText block).length

/-! ### Breakpoints -/

def maxBreakpoints : Nat := 4

def isSystemMessage (message : Json) : Bool :=
  (message.get? "role" >>= Json.asStr?) = some "system"

/-- The sections of a prompt as the blocks of a message. -/
def systemBlocks (bundle : PromptBundle) : List Json :=
  bundle.sections.mapIdx fun index promptSection =>
    let separator := if index + 1 = bundle.sections.length then "" else "\n\n"
    objectOf [("type", some (.str "text")), ("text", some (.str (promptSection.text ++ separator)))]

/-- What a stage has planned: the messages or tools, their size, and how many breakpoints are left. -/
structure CacheStage where
  planned : List Json
  charCount : Nat
  breakpointBudget : Nat

def applySystemCacheBreakpoint (messages : List Json) (bundle : PromptBundle)
    (breakpointBudget : Nat) : CacheStage :=
  let nothing : CacheStage := { planned := messages, charCount := 0, breakpointBudget }
  if messages.isEmpty || breakpointBudget = 0 then nothing
  else
    match messages.findIdx? isSystemMessage with
    | none => nothing
    | some systemIndex =>
        match messages[systemIndex]? >>= Json.asObject? with
        | none => nothing
        | some members =>
            let blocks := systemBlocks bundle
            if blocks.isEmpty then nothing
            else
              let stableCount := (bundle.sections.takeWhile (·.stable)).length
              let marked :=
                if stableCount = 0 then blocks else blocks.modify (stableCount - 1) setCacheControl
              { planned := messages.set systemIndex
                  (.obj (insertMember "content" (.arr marked) members))
                charCount := (blocks.map estimateBlockChars).sum
                breakpointBudget :=
                  if stableCount = 0 then breakpointBudget else breakpointBudget - 1 }

def applyToolCacheBreakpoint (tools : List Json) (prefixCharCount tokenThreshold : Nat)
    (breakpointBudget : Nat) : CacheStage :=
  if tools.isEmpty || breakpointBudget = 0 then
    { planned := tools, charCount := 0, breakpointBudget }
  else
    let charCount := (tools.map estimateToolChars).sum
    if estimateTokens (prefixCharCount + charCount) < tokenThreshold then
      { planned := tools, charCount, breakpointBudget }
    else
      match tools.getLast? >>= Json.asObject? with
      | none => { planned := tools, charCount, breakpointBudget }
      | some members =>
          { planned := tools.dropLast ++
              [.obj (insertMember "cache_control" cacheControlEphemeral members)]
            charCount
            breakpointBudget := breakpointBudget - 1 }

def historyPriority (type : String) : Option Nat :=
  if type = "tool_result" then some 0 else if type = "text" then some 1 else none

/-- The blocks of a message from the last to the first, each with its place: the one to be marked,
or else one to fall back to. -/
def findBlock (messageIndex : Nat) :
    List (Json × Nat) → Option (Nat × Nat) → Option Nat × Option (Nat × Nat)
  | [], fallback => (none, fallback)
  | (block, blockIndex) :: rest, fallback =>
      if isThinkingBlockType (blockType block) then findBlock messageIndex rest fallback
      else if (block.get? "cache_control").isSome then findBlock messageIndex rest fallback
      else if estimateBlockChars block = 0 then findBlock messageIndex rest fallback
      else if (historyPriority (blockType block)).isSome then (some blockIndex, fallback)
      else findBlock messageIndex rest (fallback.or (some (messageIndex, blockIndex)))

/-- The messages from the last to the first, each with its place. -/
def findHistoryBlock :
    List (Json × Nat) → Option (Nat × Nat) → Option (Nat × Nat)
  | [], fallback => fallback
  | (message, messageIndex) :: rest, fallback =>
      if isSystemMessage message then findHistoryBlock rest fallback
      else
        match findBlock messageIndex (contentBlocks message).zipIdx.reverse fallback with
        | (some blockIndex, _) => some (messageIndex, blockIndex)
        | (none, fallback) => findHistoryBlock rest fallback

def findHistoryBreakpoint (messages : List Json) : Option (Nat × Nat) :=
  findHistoryBlock messages.zipIdx.reverse none

/-- The size of the messages that are not the system's, up to the block. -/
def historyChars (messageIndex blockIndex : Nat) : List (Json × Nat) → Nat
  | [] => 0
  | (message, index) :: rest =>
      if isSystemMessage message then historyChars messageIndex blockIndex rest
      else if index < messageIndex then
        ((contentBlocks message).map estimateBlockChars).sum +
          historyChars messageIndex blockIndex rest
      else (((contentBlocks message).take (blockIndex + 1)).map estimateBlockChars).sum

def applyHistoryCacheBreakpoint (messages : List Json) (prefixCharCount tokenThreshold : Nat)
    (breakpointBudget : Nat) : List Json :=
  if breakpointBudget = 0 then messages
  else
    match findHistoryBreakpoint messages with
    | none => messages
    | some (messageIndex, blockIndex) =>
        if estimateTokens (prefixCharCount +
            historyChars messageIndex blockIndex messages.zipIdx) < tokenThreshold then messages
        else
          match messages[messageIndex]? >>= Json.asObject? with
          | none => messages
          | some members =>
              let blocks := normalizedContentBlocks (members.lookup "content")
              if blockIndex < blocks.length then
                messages.set messageIndex
                  (.obj (insertMember "content" (.arr (blocks.modify blockIndex setCacheControl))
                    members))
              else messages

def applyCacheBreakpoints (messages tools : List Json) (bundle : PromptBundle)
    (tokenThreshold : Nat) : List Json × List Json :=
  let system := applySystemCacheBreakpoint messages bundle maxBreakpoints
  let tool := applyToolCacheBreakpoint tools system.charCount tokenThreshold
    system.breakpointBudget
  (applyHistoryCacheBreakpoint system.planned (system.charCount + tool.charCount) tokenThreshold
    tool.breakpointBudget, tool.planned)

end

/-! ### `apply_prompt_cache_to_chat_request` -/

def modelContains (text part : String) : Bool := text.toList.tails.any part.toList.isPrefixOf

def minimumCacheableTokens (model : String) : Nat :=
  if modelContains model "opus-4-6" || modelContains model "opus-4-5" then 4096
  else if modelContains model "haiku-4-5" then 4096
  else if modelContains model "haiku" then 2048
  else 1024

/-- `text.trim().to_ascii_lowercase()`. -/
def normalizedName (text : String) : String := asciiLowercase (trimWhitespace text.toList)

/-- Whether a plan is made: for an Anthropic endpoint and a Claude model, unless the request says
otherwise. -/
def promptCacheApplies (endpointType model : String) (metadata : Option Json) : Bool :=
  (normalizedName endpointType = "anthropic" ||
      normalizedName endpointType = "anthropic_vertex") &&
    startsWith (normalizedName model) "claude" &&
    (metadata >>= Json.asObject? >>= (·.lookup promptCacheEnabledKey) >>= Json.asBool?) ≠
      some false

section
variable [Texts]

def applyClaudePromptCache (endpointType model : String) (messages tools : List Json)
    (extraBody : Option Json) (bundle : PromptBundle) (metadata : Option Json) :
    List Json × List Json × Option Json :=
  if promptCacheApplies endpointType model metadata then
    let planned := applyCacheBreakpoints messages tools bundle
      (minimumCacheableTokens (normalizedName model))
    (planned.1, planned.2, extraBody.filter Json.isObject)
  else (messages, tools, extraBody)

def applyPromptCacheToChatRequest (endpointType model : String) (metadata : Json)
    (bundle : PromptBundle) (request : ChatRequest) : ChatRequest :=
  let planned := applyClaudePromptCache endpointType model
    (request.messages.map vvLlmMessageToCacheJson) (request.tools.map vvLlmToolToCacheJson)
    (some request.extraBody) bundle (some metadata)
  { messages := applyPlannedMessageContent request.messages planned.1
    tools := applyPlannedToolCacheControl request.tools planned.2.1
    extraBody := planned.2.2.getD request.extraBody }

end

end VvAgent
