import VvAgent.Types.ToolResult

/-!
Messages, resume observations and the terminal result of a run. A stored terminal
result is a JSON value; the reader accepts it only in the exact shape that
`AgentResult.toDict` writes, so an accepted value and its record determine each
other. `AgentResult.wellFormed` collects what the reader checks on the way.
-/

namespace VvAgent
open Lib.Outcome

inductive OperationKind where
  | model
  | tool
  deriving DecidableEq

inductive OperationState where
  | planned
  | started
  | deferred
  | succeeded
  | failed
  | ambiguous
  deriving DecidableEq

inductive ToolIdempotency where
  | supported
  | unsupported
  | unknown
  deriving DecidableEq

inductive ClaimMode where
  | continue
  | recovery
  deriving DecidableEq

inductive CheckpointStatus where
  | pending
  | running
  | deferred
  | hostInteraction
  | suspended
  | waitUser
  | completed
  | failed
  | maxCycles
  | reconciliationRequired
  deriving DecidableEq

inductive AgentStatus where
  | pending
  | running
  | deferred
  | hostInteraction
  | waitUser
  | completed
  | failed
  | maxCycles
  | reconciliationRequired
  deriving DecidableEq

inductive CompletionReason where
  | toolFinish
  | noToolFinish
  | stopOnFirstTool
  | stopAtToolName
  | waitUser
  | maxCycles
  | cancelled
  | failed
  | budgetExhausted
  deriving DecidableEq

inductive MessageRole where
  | system
  | user
  | assistant
  | tool
  deriving DecidableEq

def OperationKind.asStr : OperationKind → String
  | .model => "model"
  | .tool => "tool"

def OperationKind.parse : String → Option OperationKind
  | "model" => some .model
  | "tool" => some .tool
  | _ => none

def OperationState.asStr : OperationState → String
  | .planned => "planned"
  | .started => "started"
  | .deferred => "deferred"
  | .succeeded => "succeeded"
  | .failed => "failed"
  | .ambiguous => "ambiguous"

def OperationState.parse : String → Option OperationState
  | "planned" => some .planned
  | "started" => some .started
  | "deferred" => some .deferred
  | "succeeded" => some .succeeded
  | "failed" => some .failed
  | "ambiguous" => some .ambiguous
  | _ => none

def ToolIdempotency.asStr : ToolIdempotency → String
  | .supported => "supported"
  | .unsupported => "unsupported"
  | .unknown => "unknown"

def ToolIdempotency.parse : String → Option ToolIdempotency
  | "supported" => some .supported
  | "unsupported" => some .unsupported
  | "unknown" => some .unknown
  | _ => none

def CheckpointStatus.asStr : CheckpointStatus → String
  | .pending => "pending"
  | .running => "running"
  | .deferred => "deferred"
  | .hostInteraction => "host_interaction"
  | .suspended => "suspended"
  | .waitUser => "wait_user"
  | .completed => "completed"
  | .failed => "failed"
  | .maxCycles => "max_cycles"
  | .reconciliationRequired => "reconciliation_required"

def CheckpointStatus.isTerminal : CheckpointStatus → Bool
  | .waitUser | .completed | .failed | .maxCycles => true
  | _ => false

def AgentStatus.asStr : AgentStatus → String
  | .pending => "pending"
  | .running => "running"
  | .deferred => "deferred"
  | .hostInteraction => "host_interaction"
  | .waitUser => "wait_user"
  | .completed => "completed"
  | .failed => "failed"
  | .maxCycles => "max_cycles"
  | .reconciliationRequired => "reconciliation_required"

def CompletionReason.asStr : CompletionReason → String
  | .toolFinish => "tool_finish"
  | .noToolFinish => "no_tool_finish"
  | .stopOnFirstTool => "stop_on_first_tool"
  | .stopAtToolName => "stop_at_tool_name"
  | .waitUser => "wait_user"
  | .maxCycles => "max_cycles"
  | .cancelled => "cancelled"
  | .failed => "failed"
  | .budgetExhausted => "budget_exhausted"

def MessageRole.asStr : MessageRole → String
  | .system => "system"
  | .user => "user"
  | .assistant => "assistant"
  | .tool => "tool"

/-- What is known about a started operation without a durable receipt. -/
structure ResumeObservation where
  operationId : String
  operationKind : OperationKind
  cycleIndex : Nat
  state : OperationState
  risk : String
  idempotencySupport : Option ToolIdempotency
  deriving DecidableEq

namespace ResumeObservation

def validate (observation : ResumeObservation) : CheckpointResult Unit := do
  requireNonEmpty observation.operationId "resume observation operation_id"
  requirePositive observation.cycleIndex "resume observation cycle_index"
  refuse (observation.state != .ambiguous)
    ⟨"checkpoint_resume_observation_invalid",
      "resume observation state must be ambiguous"⟩
  requireNonEmpty observation.risk "resume observation risk"

def toValue (observation : ResumeObservation) : Json :=
  .obj
    [("cycle_index", .nat observation.cycleIndex),
      ("idempotency_support", .optStr (observation.idempotencySupport.map (·.asStr))),
      ("operation_id", .str observation.operationId),
      ("operation_kind", .str observation.operationKind.asStr),
      ("risk", .str observation.risk),
      ("state", .str observation.state.asStr)]

/-- The derived reader; an observation in another state than `ambiguous` is
refused by `validate`. -/
def fromValue : Json → Option ResumeObservation
  | .obj
      [("cycle_index", .num (.posInt cycleIndex)), ("idempotency_support", support),
        ("operation_id", .str operationId), ("operation_kind", .str kind),
        ("risk", .str risk), ("state", .str state)] => do
      let idempotencySupport ←
        match support with
        | .null => some none
        | .str text => (ToolIdempotency.parse text).map some
        | _ => none
      return {
        operationId, cycleIndex, risk, idempotencySupport
        operationKind := ← OperationKind.parse kind
        state := ← OperationState.parse state }
  | _ => none

def kindRank : OperationKind → Nat
  | .model => 0
  | .tool => 1

/-- The operation an observation is about. -/
def key (observation : ResumeObservation) : String × Nat × Nat :=
  (observation.operationId, kindRank observation.operationKind, observation.cycleIndex)

/-- Lexicographic order of operation keys. -/
def keyLe (left right : String × Nat × Nat) : Bool :=
  left.1 < right.1 ||
    (left.1 == right.1 &&
      (left.2.1 < right.2.1 || (left.2.1 == right.2.1 && left.2.2 ≤ right.2.2)))

end ResumeObservation

/-- The error of a failed run. -/
structure AgentResultError where
  code : String
  message : String
  retryable : Bool
  deriving DecidableEq

def AgentResultError.toValue (error : AgentResultError) : Json :=
  .obj
    [("code", .str error.code), ("message", .str error.message),
      ("retryable", .bool error.retryable)]

structure Message where
  role : MessageRole
  content : String
  name : Option String := none
  toolCallId : Option String := none
  toolCalls : List ToolCall := []
  reasoningContent : Option String := none
  imageUrl : Option String := none
  metadata : JsonObject := []
  artifactRef : Option ToolArtifactRef := none
  deriving DecidableEq

def Message.user (content : String) : Message := { role := .user, content }

section
variable [Platform]

def compactionMetadataKey : String := "_vv_agent_compaction"

/-- One record of the evidence that a compaction keeps: the tool call and the
pointer under which its output can be read again. -/
def validateCompactionRecord (pointer : String) (check : Json → Except String Unit)
    (record : Json) : Except String Unit := do
  let members ← require record.asObject? "invalid compaction evidence record"
  refuse
    (members.length != 4 ||
      !(["tool_call_id", "tool_name", "arguments", pointer].all
        (fun key => (members.map (·.1)).contains key)))
    "invalid compaction evidence record fields"
  checkAll
    (fun key => do
      match members.lookup key >>= Json.asStr? with
      | some text => refuse (text == "") "invalid compaction evidence identity"
      | none => .error "invalid compaction evidence identity")
    ["tool_call_id", "tool_name"]
  let raw ← require (members.lookup "arguments" >>= Json.asStr?)
    "invalid compaction evidence arguments"
  refuse (!Platform.isCanonicalObjectText raw)
    "compaction evidence arguments must be canonical object JSON"
  check ((members.lookup pointer).getD .null)

def validateCompactionMetadata (metadata : JsonObject) : Except String Unit :=
  match metadata.lookup compactionMetadataKey with
  | none => .ok ()
  | some manifest => do
      let members ← require manifest.asObject? "invalid compaction evidence manifest"
      let keys := members.map (·.1)
      refuse (members.length != 2 || !keys.contains "artifacts" || !keys.contains "cursors")
        "invalid compaction evidence manifest fields"
      let artifacts ← require (members.lookup "artifacts" >>= Json.asArray?)
        "compaction evidence must be arrays"
      checkAll
        (validateCompactionRecord "artifact_ref" fun value => do
          let artifact ← require (ToolArtifactRef.fromValue value) "invalid artifact_ref"
          artifact.validate)
        artifacts
      let cursors ← require (members.lookup "cursors" >>= Json.asArray?)
        "compaction evidence must be arrays"
      checkAll
        (validateCompactionRecord "cursor" fun value => do
          let cursor ← require (ToolResultCursor.fromValue value) "invalid cursor"
          cursor.validate)
        cursors

/-- A tool call inside a message: its arguments are printed to a string. -/
def toolCallToOpenai (call : ToolCall) : Json :=
  .obj <| present
    [("extra_content", call.extraContent),
      ("function", some (.obj
        [("arguments", .str (Platform.jsonText (.obj call.arguments))),
          ("name", .str call.name)])),
      ("id", some (.str call.id)),
      ("type", some (.str "function"))]

namespace Message

def toDict (message : Message) : Json :=
  .obj <| present
    [("artifact_ref", message.artifactRef.map ToolArtifactRef.toValue),
      ("content", some (.str message.content)),
      ("image_url", message.imageUrl.map .str),
      ("metadata", metadataValue message.metadata),
      ("name", message.name.map .str),
      ("reasoning_content", message.reasoningContent.map .str),
      ("role", some (.str message.role.asStr)),
      ("tool_call_id", message.toolCallId.map .str),
      ("tool_calls",
        if message.toolCalls.isEmpty then none
        else some (.arr (message.toolCalls.map toolCallToOpenai)))]

/-- A message whose dictionary is read back and written again unchanged. -/
def wellFormed (message : Message) : Bool :=
  (message.artifactRef.all fun artifact => artifact.validate.isOk) &&
    (validateCompactionMetadata message.metadata).isOk &&
    message.toolCalls.all fun call =>
      call.wireSafe && Platform.argumentsReprint call.arguments

end Message

end

/-- The result a finished run reports. Budget values are kept as the JSON objects
they are written as. -/
structure AgentResult where
  status : AgentStatus
  messages : List Message
  cycles : List CycleRecord
  completionReason : Option CompletionReason
  completionToolName : Option String := none
  partialOutput : Option String := none
  budgetUsage : Option Json := none
  budgetExhaustion : Option Json := none
  checkpointKey : Option String := none
  resumeObservations : List ResumeObservation := []
  finalAnswer : Option String := none
  waitReason : Option String := none
  error : Option AgentResultError := none
  errorCode : Option String := none
  sharedState : JsonObject := []
  tokenUsage : TaskTokenUsage := {}
  deriving DecidableEq

namespace AgentResult
variable [Platform]

def toDict (result : AgentResult) : Json :=
  .obj <| present
    [("budget_exhaustion", result.budgetExhaustion),
      ("budget_usage", result.budgetUsage),
      ("checkpoint_key", some (.optStr result.checkpointKey)),
      ("completion_reason", some (.optStr (result.completionReason.map (·.asStr)))),
      ("completion_tool_name", some (.optStr result.completionToolName)),
      ("cycles", some (.arr (result.cycles.map CycleRecord.toDict))),
      ("error", some ((result.error.map AgentResultError.toValue).getD .null)),
      ("error_code", result.errorCode.map .str),
      ("final_answer", some (.optStr result.finalAnswer)),
      ("messages", some (.arr (result.messages.map Message.toDict))),
      ("partial_output", some (.optStr result.partialOutput)),
      ("resume_observations",
        some (.arr (result.resumeObservations.map ResumeObservation.toValue))),
      ("shared_state", some (.obj result.sharedState)),
      ("status", some (.str result.status.asStr)),
      ("token_usage", some result.tokenUsage.toValue),
      ("wait_reason", some (.optStr result.waitReason))]

/-- `validate_resume_observations`: valid, and strictly ordered by operation. -/
def observationsOrdered : List ResumeObservation → Bool
  | [] => true
  | [observation] => observation.validate.isOk
  | first :: second :: rest =>
      first.validate.isOk && !ResumeObservation.keyLe second.key first.key &&
        observationsOrdered (second :: rest)

/-- What `AgentResult::from_dict` checks about the record it reads; a value that
passes is the dictionary of exactly this record. -/
def wellFormed (result : AgentResult) : Bool :=
  result.messages.all Message.wellFormed &&
    (result.cycles.all fun cycle =>
      (CycleRecord.fromDict cycle.toDict).toOption == some cycle) &&
    (result.error.all fun error => !isBlank error.code && !isBlank error.message) &&
    observationsOrdered result.resumeObservations &&
    result.tokenUsage.wellFormed &&
    (result.budgetUsage.all fun usage => Platform.readBudgetUsage usage = some usage) &&
    result.budgetExhaustion.all fun exhaustion =>
      Platform.readBudgetExhaustion exhaustion = some exhaustion

end AgentResult

end VvAgent
