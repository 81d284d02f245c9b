import VvAgent.Budget.Wire
import VvAgent.Checkpoint.Identity

/-!
Run events. An event travels as a JSON object; the store keeps that object and asks
two things of it: that the event reader accepts it, and that it is written exactly as
the event writer writes it. `acceptsEvent` decides both at once from the table of
event types, and `RunEvent.toValue` is the writer, used for the events that the store
itself appends.
-/

namespace VvAgent
open Lib.Outcome

/-- `Map::insert` on members in key order. -/
def insertMember (key : String) (value : Json) : JsonObject → JsonObject
  | [] => [(key, value)]
  | (name, item) :: rest =>
      if key < name then (key, value) :: (name, item) :: rest
      else if key = name then (key, value) :: rest
      else (name, item) :: insertMember key value rest

/-- Insert members one after the other, the absent ones skipped. -/
def insertMembers (members : JsonObject) : List (String × Option Json) → JsonObject
  | [] => members
  | (_, none) :: rest => insertMembers members rest
  | (key, some value) :: rest => insertMembers (insertMember key value members) rest

private theorem lookup_cons_if (key name : String) (value : Json) (members : JsonObject) :
    List.lookup key ((name, value) :: members) =
      if key = name then some value else members.lookup key := by
  by_cases h : key = name
  · simp [h]
  · have hne : (key == name) = false := by simpa using h
    simp [List.lookup_cons, hne, h]

theorem lookup_insertMember (key name : String) (value : Json) (members : JsonObject) :
    (insertMember name value members).lookup key =
      if key = name then some value else members.lookup key := by
  induction members with
  | nil => rw [insertMember, lookup_cons_if]
  | cons head rest ih =>
      obtain ⟨other, item⟩ := head
      rw [insertMember]
      split
      · rw [lookup_cons_if]
      · split
        next hkey =>
          subst hkey
          rw [lookup_cons_if, lookup_cons_if]
          split <;> rfl
        next hkey =>
          rw [lookup_cons_if, lookup_cons_if, ih]
          by_cases h : key = name
          · subst h
            simp [hkey]
          · simp [h]

theorem mem_insertMember (name : String) (value : Json) (members : JsonObject)
    (entry : String × Json) (hentry : entry ∈ insertMember name value members) :
    entry = (name, value) ∨ entry ∈ members := by
  induction members with
  | nil => simpa [insertMember] using hentry
  | cons head rest ih =>
      obtain ⟨other, item⟩ := head
      simp only [insertMember] at hentry
      split at hentry
      · simpa using hentry
      · split at hentry
        · simp only [List.mem_cons] at hentry ⊢
          tauto
        · simp only [List.mem_cons] at hentry ⊢
          tauto

section Fields

def isStr (value : Json) : Bool := value.asStr?.isSome

/-- A string with something in it besides white space. -/
def isText (value : Json) : Bool := value.asStr?.any (!isBlank ·)

def isU64 (value : Json) : Bool := value.asU64?.isSome

def isU32 (value : Json) : Bool := value.readU32.isSome

def isPositiveU64 (value : Json) : Bool := value.asU64?.any (0 < ·)

def isPositiveU32 (value : Json) : Bool := value.readU32.any (· != 0)

def isSafeU64 (value : Json) : Bool := value.asU64?.any (· ≤ maxWireInteger)

def isBoolean (value : Json) : Bool := value.asBool?.isSome

def isDigest (value : Json) : Bool := value.asStr?.any isSha256

def oneOf (names : List String) (value : Json) : Bool := value.asStr?.any names.contains

def nullOr (check : Json → Bool) (value : Json) : Bool := value = .null || check value

def anyValue (_ : Json) : Bool := true

end Fields

/-- The fields of one event type: those that must be present, those that may be, and
the check that relates them. -/
structure EventShape where
  required : List (String × (Json → Bool))
  optional : List (String × (Json → Bool)) := []
  check : JsonObject → Option UInt32 → Bool := fun _ _ => true

section
variable [Platform]

def agentStatusNames : List String :=
  ["pending", "running", "deferred", "host_interaction", "wait_user", "completed", "failed",
    "max_cycles", "reconciliation_required"]

def boundaryNames : List String :=
  ["run_start", "cycle_start", "model_call_complete", "tool_batch_preflight",
    "tool_batch_complete", "terminal"]

def completionReasonNames : List String :=
  ["tool_finish", "no_tool_finish", "stop_on_first_tool", "stop_at_tool_name", "wait_user",
    "max_cycles", "cancelled", "failed", "budget_exhausted"]

def isTokenUsage (value : Json) : Bool := (TokenUsage.fromValue value).isSome

/-- The completion fields of terminal events. -/
def completionFields : List (String × (Json → Bool)) :=
  [("completion_reason", nullOr (oneOf completionReasonNames)),
    ("completion_tool_name", nullOr isStr), ("partial_output", nullOr isStr),
    ("budget_usage", nullOr fun value => (Platform.readBudgetUsage value).isSome),
    ("budget_exhaustion", nullOr fun value => (Platform.readBudgetExhaustion value).isSome)]

def toolMetadataField : String × (Json → Bool) :=
  ("tool_metadata", fun value => Platform.readToolMetadata value = some value)

def positiveCycle (_ : JsonObject) (cycleIndex : Option UInt32) : Bool :=
  cycleIndex.any (· != 0)

def hasCycle (_ : JsonObject) (cycleIndex : Option UInt32) : Bool := cycleIndex.isSome

def modelCallFields : List (String × (Json → Bool)) :=
  [("call_id", isText), ("operation_id", isText), ("attempt", isPositiveU32),
    ("operation", oneOf ["agent_cycle", "session_memory", "memory_compaction"]),
    ("backend", isText), ("model", isText)]

def hostIdentityFields : List (String × (Json → Bool)) :=
  [("checkpoint_key", isText), ("resume_attempt", isPositiveU64), ("interaction_id", isText),
    ("logical_cycle", isPositiveU64), ("operation_id", isText), ("tool_call_id", isText),
    ("request_digest", isDigest)]

def operationFields : List (String × (Json → Bool)) :=
  [("checkpoint_key", isText), ("operation_id", isText),
    ("operation_kind", oneOf ["model", "tool"])]

/-- A string member, or the empty string. -/
def textOf (members : JsonObject) (key : String) : String :=
  (members.lookup key >>= Json.asStr?).getD ""

/-- An integer member, or zero. -/
def natOf (members : JsonObject) (key : String) : Nat :=
  (members.lookup key >>= Json.asU64?).getD 0

/-- The prompt, the cycle and the digest of a requested host interaction. -/
def hostRequestedCheck (members : JsonObject) (cycleIndex : Option UInt32) : Bool :=
  let request : HostInteractionRequest := {
    schemaVersion := HostInteractionRequest.schema
    interactionId := textOf members "interaction_id"
    logicalCycle := natOf members "logical_cycle"
    operationId := textOf members "operation_id"
    toolCallId := textOf members "tool_call_id"
    requestDigest := textOf members "request_digest"
    prompt := textOf members "prompt" }
  cycleIndex.any (fun cycle => request.logicalCycle = cycle.toNat + 1) &&
    request.validate.isOk

def hostConsumedCheck (members : JsonObject) (cycleIndex : Option UInt32) : Bool :=
  cycleIndex.any fun cycle =>
    natOf members "logical_cycle" = cycle.toNat + 1 ||
      natOf members "logical_cycle" = cycle.toNat

/-- A duration is reported only for a tool that was started. -/
def toolCompletedCheck (members : JsonObject) (_ : Option UInt32) : Bool :=
  members.lookup "execution_started" = some (.bool true) ||
    members.lookup "duration_ms" = some .null

def toolDeferredCheck (members : JsonObject) (_ : Option UInt32) : Bool :=
  (members.lookup "handle" >>= DeferredToolHandle.fromValue).any fun handle =>
    handle.validate.isOk && handle.operationId = textOf members "operation_id" &&
      handle.attempt = natOf members "attempt"

/-- A cancel request is recorded as one typed transition, never in the metadata. -/
def runStateCheck (members : JsonObject) (_ : Option UInt32) : Bool :=
  (members.lookup "metadata" >>= fun metadata => metadata.get? "cancel_requested").isNone &&
    (members.lookup "cancel_requested").all fun transition =>
      transition = .obj [("from", .bool false), ("to", .bool true)]

def ambiguousCheck (members : JsonObject) (cycleIndex : Option UInt32) : Bool :=
  cycleIndex.isSome &&
    if textOf members "operation_kind" = "tool" then
      members.lookup "idempotency_support" != some .null
    else members.lookup "idempotency_support" = some .null

def reconciliationRequiredCheck (members : JsonObject) (cycleIndex : Option UInt32) : Bool :=
  (members.lookup "resume_observation" >>= ResumeObservation.fromValue).any fun observation =>
    observation.validate.isOk &&
      observation.operationId = textOf members "operation_id" &&
      observation.operationKind.asStr = textOf members "operation_kind" &&
      cycleIndex.any fun cycle => observation.cycleIndex = cycle.toNat

def reconciliationResolvedCheck (members : JsonObject) (cycleIndex : Option UInt32) : Bool :=
  cycleIndex.isSome &&
    if textOf members "decision" = "accept_deferred" then
      members.lookup "claim_mode" = some (.str "recovery")
    else (members.lookup "claim_mode").all (· = .null)

def cycleAbortedCheck (members : JsonObject) (cycleIndex : Option UInt32) : Bool :=
  cycleIndex.any fun cycle => natOf members "logical_cycle" = cycle.toNat + 1

def budgetExhaustedCheck (members : JsonObject) (_ : Option UInt32) : Bool :=
  (members.lookup "budget_exhaustion" >>= fun value => value.get? "enforcement_boundary") =
    members.lookup "enforcement_boundary"

/-- The event types and their fields. -/
def eventShape : String → Option EventShape
  | "run_started" => some { required := [("input", isStr)] }
  | "agent_started" | "cycle_started" | "session_persisted" => some { required := [] }
  | "model_call_started" =>
      some { required := modelCallFields, check := positiveCycle }
  | "model_call_completed" =>
      some { required := modelCallFields ++ [("usage", isTokenUsage)], check := positiveCycle }
  | "model_call_failed" =>
      some {
        required := modelCallFields ++
          [("outcome", oneOf ["definitive", "ambiguous"]), ("usage", isTokenUsage),
            ("error_code", isText)]
        check := positiveCycle }
  | "run_state_changed" =>
      some {
        required := [("state", isStr)], optional := [("cancel_requested", Json.isObject)]
        check := runStateCheck }
  | "host_interaction_requested" =>
      some {
        required := hostIdentityFields ++ [("prompt", isText)], check := hostRequestedCheck }
  | "host_interaction_response_consumed" =>
      some {
        required := hostIdentityFields ++
          [("command_id", isText), ("response_digest", isDigest),
            ("consumed_revision", isSafeU64)]
        check := hostConsumedCheck }
  | "diagnostic" =>
      some {
        required :=
          [("level", oneOf ["debug", "info", "warning", "error"]), ("code", isText),
            ("details", Json.isObject)] }
  | "assistant_delta" =>
      some {
        required := [("delta", isStr)]
        optional := [("content_chars", isSafeU64), ("estimated_tokens", isSafeU64)]
        check := positiveCycle }
  | "reasoning_delta" =>
      some {
        required := [("delta", isStr)]
        optional := [("reasoning_chars", isSafeU64), ("estimated_tokens", isSafeU64)]
        check := positiveCycle }
  | "model_tool_call_started" | "model_tool_call_progress" =>
      some {
        required := [("tool_call_id", isText), ("tool_name", isText)]
        optional :=
          [("tool_call_index", isSafeU64), ("arguments_chars", isSafeU64),
            ("estimated_tokens", isSafeU64)]
        check := positiveCycle }
  | "tool_call_planned" | "tool_call_started" =>
      some {
        required :=
          [("tool_call_id", isText), ("tool_name", isText), ("arguments", Json.isObject)]
        optional := [toolMetadataField] }
  | "tool_call_completed" =>
      some {
        required :=
          [("tool_call_id", isText), ("tool_name", isText),
            ("status", oneOf ["success", "error", "wait_response", "running",
              "pending_compress"]),
            ("directive", oneOf ["continue", "wait_user", "finish"]),
            ("error_code", nullOr isStr), ("execution_started", isBoolean),
            ("duration_ms", nullOr isSafeU64)]
        optional :=
          [("operation_id", isStr), ("attempt", isU32), ("checkpoint_key", anyValue),
            toolMetadataField]
        check := toolCompletedCheck }
  | "tool_call_deferred" =>
      some {
        required :=
          [("tool_call_id", isText), ("tool_name", isText), ("operation_id", isText),
            ("attempt", isPositiveU32), ("handle", Json.isObject),
            ("execution_started", isBoolean), ("duration_ms", (· = .null))]
        optional := [("operation_kind", oneOf ["tool"]), ("checkpoint_key", anyValue)]
        check := toolDeferredCheck }
  | "approval_requested" =>
      some {
        required :=
          [("request_id", isStr), ("tool_call_id", isStr), ("tool_name", isStr),
            ("message", isStr)] }
  | "approval_resolved" =>
      some {
        required :=
          [("request_id", isStr), ("tool_call_id", isStr), ("tool_name", isStr),
            ("action", oneOf ["allow", "allow_session", "deny", "timeout"])] }
  | "memory_compact_started" =>
      some {
        required :=
          [("message_count", isU64),
            ("trigger", oneOf ["micro_threshold", "full_threshold", "prompt_too_long"]),
            ("configured_threshold", isSafeU64), ("effective_threshold", isSafeU64),
            ("microcompact_threshold", isSafeU64), ("microcompact_target", isSafeU64),
            ("candidate_count", isSafeU64), ("estimated_reclaimable_tokens", isSafeU64),
            ("model_context_window", isSafeU64),
            ("model_max_output_tokens", nullOr isSafeU64),
            ("reserved_output_tokens", isSafeU64),
            ("reserved_output_source", oneOf ["model_settings", "task_metadata",
              "framework_fallback", "framework_fallback_capped_by_model_capability"]),
            ("autocompact_buffer_tokens", isSafeU64)]
        optional := [("estimated_tokens", isU64)] }
  | "memory_compact_completed" =>
      some {
        required :=
          [("before_count", isU64), ("after_count", isU64),
            ("mode", oneOf ["none", "micro", "structural", "summary", "emergency"]),
            ("changed", isBoolean), ("archived_count", isSafeU64),
            ("reclaimed_tokens", isSafeU64), ("artifact_failure_count", isSafeU64)]
        optional := [("summary_tokens", isU64)] }
  | "sub_run_started" =>
      some {
        required := [("parent_tool_call_id", isStr), ("status", anyValue)]
        optional := [("child_session_id", isStr), ("task_id", isStr)] }
  | "sub_run_completed" =>
      some {
        required := [("parent_tool_call_id", isStr), ("status", oneOf agentStatusNames)]
        optional :=
          [("final_output", isStr), ("child_session_id", anyValue), ("task_id", anyValue),
            ("wait_reason", anyValue), ("error", anyValue), ("token_usage", anyValue)] ++
          completionFields }
  | "handoff_started" =>
      some {
        required :=
          [("source_agent", isStr), ("target_agent", isStr), ("tool_call_id", isStr),
            ("status", anyValue)]
        optional := [("child_session_id", anyValue)] }
  | "handoff_completed" =>
      some {
        required :=
          [("source_agent", isStr), ("target_agent", isStr), ("tool_call_id", isStr),
            ("status", anyValue)]
        optional := [("child_session_id", anyValue), ("child_run_id", anyValue)] }
  | "budget_snapshot" =>
      some {
        required :=
          [("enforcement_boundary", oneOf boundaryNames),
            ("budget_usage", fun value => Platform.readBudgetUsage value = some value)] }
  | "budget_exhausted" =>
      some {
        required :=
          [("enforcement_boundary", oneOf boundaryNames),
            ("budget_usage", fun value => Platform.readBudgetUsage value = some value),
            ("budget_exhaustion",
              fun value => Platform.readBudgetExhaustion value = some value)]
        check := budgetExhaustedCheck }
  | "checkpoint_created" | "checkpoint_resumed" =>
      some {
        required := [("checkpoint_key", isText), ("resume_attempt", isPositiveU64)]
        check := hasCycle }
  | "operation_replayed" =>
      some {
        required := operationFields ++ [("receipt_state", oneOf ["succeeded", "failed"])]
        check := hasCycle }
  | "operation_ambiguous" =>
      some {
        required := operationFields ++
          [("risk", isText),
            ("idempotency_support", nullOr (oneOf ["supported", "unsupported", "unknown"]))]
        check := ambiguousCheck }
  | "reconciliation_required" =>
      some {
        required := operationFields ++
          [("interruption_reason", isText), ("resume_observation", Json.isObject)]
        check := reconciliationRequiredCheck }
  | "model_retry_duplicate_risk" =>
      some {
        required :=
          [("checkpoint_key", isText), ("operation_id", isText),
            ("operation_kind", oneOf ["model"]), ("risk", isText)]
        check := hasCycle }
  | "reconciliation_resolved" =>
      some {
        required := operationFields ++
          [("decision", oneOf ["defer", "accept_deferred", "retry", "replay_success",
            "record_failure", "abort"])]
        optional := [("claim_mode", nullOr (oneOf ["continue", "recovery"]))]
        check := reconciliationResolvedCheck }
  | "run_completed" =>
      some {
        required := [("status", oneOf agentStatusNames)]
        optional := ("final_output", anyValue) :: completionFields }
  | "run_failed" =>
      some {
        required := [("error", isStr)]
        optional := ("status", anyValue) :: completionFields }
  | "run_cancelled" =>
      some {
        required := [("reason", isStr)]
        optional := completionFields.filter (·.1 != "completion_tool_name") }
  | "cycle_aborted" =>
      some {
        required :=
          [("logical_cycle", isU64),
            ("reason", oneOf ["cancelled", "operator_abort", "lease_lost"])]
        check := cycleAbortedCheck }
  | _ => none

/-- A finite number that is not negative. -/
def isTimestamp : Json → Bool
  | .num (.posInt _) => true
  | .num (.negInt magnitude) => magnitude = 0
  | .num (.float value) => 0 ≤ value
  | _ => false

/-- The fields every event has, and those it may have. An empty metadata object is
never written. -/
def commonShape : EventShape where
  required :=
    [("version", (· = .str "v5")), ("type", isStr), ("event_id", isText), ("run_id", isText),
      ("trace_id", isText), ("created_at", isTimestamp)]
  optional :=
    [("session_id", isStr), ("parent_event_id", isStr), ("parent_run_id", isStr),
      ("cycle_index", isU32), ("agent_name", isStr),
      ("metadata", fun value => value.asObject?.any fun members => !members.isEmpty)]

/-- Presence and form of the fields of a shape. -/
def EventShape.fieldsOk (shape : EventShape) (members : JsonObject) : Bool :=
  (shape.required.all fun field => (members.lookup field.1).any field.2) &&
    shape.optional.all fun field => (members.lookup field.1).all field.2

def EventShape.names (shape : EventShape) : List String :=
  (shape.required ++ shape.optional).map (·.1)

/-- Whether the event reader accepts a value and the writer gives it back unchanged. -/
def acceptsEvent (value : Json) : Bool :=
  match value with
  | .obj members =>
      match members.lookup "type" >>= Json.asStr? >>= eventShape with
      | none => false
      | some shape =>
          (members.all fun member =>
            commonShape.names.contains member.1 || shape.names.contains member.1) &&
          commonShape.fieldsOk members && shape.fieldsOk members &&
          shape.check members (members.lookup "cycle_index" >>= Json.readU32)
  | _ => false

/-- What the event reader makes of a value: its event id, and whether the value is
written as the writer writes it. -/
def readEvent (value : Json) : Option (String × Bool) :=
  if acceptsEvent value then
    (value.get? "event_id" >>= Json.asStr?).map fun eventId => (eventId, true)
  else (Platform.lenientEventId value).map fun eventId => (eventId, false)

end

inductive ModelCallFailureOutcome where
  | definitive
  | ambiguous
  deriving DecidableEq

def ModelCallFailureOutcome.asStr : ModelCallFailureOutcome → String
  | .definitive => "definitive"
  | .ambiguous => "ambiguous"

/-- The payloads of the events that the store appends, and of those that close a model
call. -/
inductive RunEventPayload where
  | runStateChanged (state : String)
  | hostInteractionRequested (checkpointKey : String) (resumeAttempt : Nat)
      (request : HostInteractionRequest)
  | hostInteractionResponseConsumed (checkpointKey : String) (resumeAttempt : Nat)
      (request : HostInteractionRequest) (commandId responseDigest : String)
      (consumedRevision : Nat)
  | toolCallCompleted (toolCallId toolName status : String) (directive : ToolDirective)
      (errorCode : Option String) (executionStarted : Bool) (durationMs : Option Nat)
      (operationId : Option String) (attempt : Option UInt32)
  | toolCallDeferred (toolCallId toolName operationId : String) (attempt : UInt32)
      (handle : DeferredToolHandle) (executionStarted : Bool) (durationMs : Option Nat)
      (operationKind : Option OperationKind)
  | checkpointResumed (checkpointKey : String) (resumeAttempt : Nat)
  | reconciliationResolved (checkpointKey operationId : String) (operationKind : OperationKind)
      (decision : String) (claimMode : Option ClaimMode)
  | runFailed (error : String)
  | runCancelled (reason : String)
  | cycleAborted (logicalCycle : Nat) (reason : String)
  | modelCallCompleted (callId operationId : String) (attempt : UInt32)
      (operation : ModelCallOperation) (backend model : String) (usage : TokenUsage)
  | modelCallFailed (callId operationId : String) (attempt : UInt32)
      (operation : ModelCallOperation) (backend model : String)
      (outcome : ModelCallFailureOutcome) (usage : TokenUsage) (errorCode : String)
  | budgetSnapshot (enforcementBoundary : BudgetEnforcementBoundary)
      (budgetUsage : BudgetUsageSnapshot)
  | budgetExhausted (enforcementBoundary : BudgetEnforcementBoundary)
      (budgetUsage : BudgetUsageSnapshot) (budgetExhaustion : BudgetExhaustion)
  deriving DecidableEq

def ClaimMode.asStr : ClaimMode → String
  | .continue => "continue"
  | .recovery => "recovery"

namespace RunEventPayload

def hostFields (checkpointKey : String) (resumeAttempt : Nat)
    (request : HostInteractionRequest) : List (String × Option Json) :=
  [("checkpoint_key", some (.str checkpointKey)), ("resume_attempt", some (.nat resumeAttempt)),
    ("interaction_id", some (.str request.interactionId)),
    ("logical_cycle", some (.nat request.logicalCycle)),
    ("operation_id", some (.str request.operationId)),
    ("tool_call_id", some (.str request.toolCallId)),
    ("request_digest", some (.str request.requestDigest))]

def modelCallFields (callId operationId : String) (attempt : UInt32)
    (operation : ModelCallOperation) (backend model : String) : List (String × Option Json) :=
  [("call_id", some (.str callId)), ("operation_id", some (.str operationId)),
    ("attempt", some (.nat attempt.toNat)), ("operation", some (.str operation.asStr)),
    ("backend", some (.str backend)), ("model", some (.str model))]

/-- The derived writer: the tag and the fields of the variant. -/
def fields : RunEventPayload → List (String × Option Json)
  | .runStateChanged state =>
      [("type", some (.str "run_state_changed")), ("state", some (.str state))]
  | .hostInteractionRequested checkpointKey resumeAttempt request =>
      ("type", some (.str "host_interaction_requested")) ::
        hostFields checkpointKey resumeAttempt request ++
        [("prompt", some (.str request.prompt))]
  | .hostInteractionResponseConsumed checkpointKey resumeAttempt request commandId
      responseDigest consumedRevision =>
      ("type", some (.str "host_interaction_response_consumed")) ::
        hostFields checkpointKey resumeAttempt request ++
        [("command_id", some (.str commandId)), ("response_digest", some (.str responseDigest)),
          ("consumed_revision", some (.nat consumedRevision))]
  | .toolCallCompleted toolCallId toolName status directive errorCode executionStarted
      durationMs operationId attempt =>
      [("type", some (.str "tool_call_completed")), ("tool_call_id", some (.str toolCallId)),
        ("tool_name", some (.str toolName)), ("status", some (.str status)),
        ("directive", some (.str directive.asStr)), ("error_code", some (.optStr errorCode)),
        ("execution_started", some (.bool executionStarted)),
        ("duration_ms", some (.optNat durationMs)), ("operation_id", operationId.map .str),
        ("attempt", attempt.map fun value => .nat value.toNat)]
  | .toolCallDeferred toolCallId toolName operationId attempt handle executionStarted
      durationMs operationKind =>
      [("type", some (.str "tool_call_deferred")), ("tool_call_id", some (.str toolCallId)),
        ("tool_name", some (.str toolName)), ("operation_id", some (.str operationId)),
        ("attempt", some (.nat attempt.toNat)), ("handle", some handle.toValue),
        ("execution_started", some (.bool executionStarted)),
        ("duration_ms", some (.optNat durationMs)),
        ("operation_kind", operationKind.map fun kind => .str kind.asStr)]
  | .checkpointResumed checkpointKey resumeAttempt =>
      [("type", some (.str "checkpoint_resumed")), ("checkpoint_key", some (.str checkpointKey)),
        ("resume_attempt", some (.nat resumeAttempt))]
  | .reconciliationResolved checkpointKey operationId operationKind decision claimMode =>
      [("type", some (.str "reconciliation_resolved")),
        ("checkpoint_key", some (.str checkpointKey)),
        ("operation_id", some (.str operationId)),
        ("operation_kind", some (.str operationKind.asStr)), ("decision", some (.str decision)),
        ("claim_mode", claimMode.map fun mode => .str mode.asStr)]
  | .runFailed error =>
      [("type", some (.str "run_failed")), ("error", some (.str error))]
  | .runCancelled reason =>
      [("type", some (.str "run_cancelled")), ("reason", some (.str reason))]
  | .cycleAborted logicalCycle reason =>
      [("type", some (.str "cycle_aborted")), ("logical_cycle", some (.nat logicalCycle)),
        ("reason", some (.str reason))]
  | .modelCallCompleted callId operationId attempt operation backend model usage =>
      ("type", some (.str "model_call_completed")) ::
        modelCallFields callId operationId attempt operation backend model ++
        [("usage", some usage.toValue)]
  | .modelCallFailed callId operationId attempt operation backend model outcome usage errorCode =>
      ("type", some (.str "model_call_failed")) ::
        modelCallFields callId operationId attempt operation backend model ++
        [("outcome", some (.str outcome.asStr)), ("usage", some usage.toValue),
          ("error_code", some (.str errorCode))]
  | .budgetSnapshot enforcementBoundary budgetUsage =>
      [("type", some (.str "budget_snapshot")),
        ("enforcement_boundary", some (.str enforcementBoundary.asStr)),
        ("budget_usage", some budgetUsage.toValue)]
  | .budgetExhausted enforcementBoundary budgetUsage budgetExhaustion =>
      [("type", some (.str "budget_exhausted")),
        ("enforcement_boundary", some (.str enforcementBoundary.asStr)),
        ("budget_usage", some budgetUsage.toValue),
        ("budget_exhaustion", some budgetExhaustion.toValue)]

/-- `add_constructed_supplemental_fields`. -/
def constructedFields : RunEventPayload → JsonObject
  | .runFailed _ | .runCancelled _ => [("partial_output", .null)]
  | _ => []

end RunEventPayload

structure RunEvent where
  eventId : String
  runId : String
  traceId : String
  sessionId : Option String := none
  parentEventId : Option String := none
  parentRunId : Option String := none
  createdAt : JsonNumber
  cycleIndex : Option UInt32
  agentName : Option String
  metadata : JsonObject := []
  payload : RunEventPayload
  extraFields : JsonObject
  deriving DecidableEq

namespace RunEvent

/-- `RunEvent::new`. The event id is replaced by every caller; the clock reading is an
argument. -/
def new (createdAt : JsonNumber) (runId traceId agentName : String)
    (cycleIndex : Option UInt32) (payload : RunEventPayload) : RunEvent where
  eventId := ""
  runId := runId
  traceId := traceId
  createdAt := createdAt
  cycleIndex := cycleIndex
  agentName := some agentName
  payload := payload
  extraFields := payload.constructedFields

/-- `EventId::stable` refuses a blank id. -/
def withEventId (event : RunEvent) (eventId : String) : Except String RunEvent := do
  refuse (isBlank eventId) "event id must be non-empty"
  return { event with eventId }

def withCheckpointKey (event : RunEvent) (checkpointKey : String) : RunEvent :=
  { event with
    extraFields := insertMember "checkpoint_key" (.str checkpointKey) event.extraFields }

def withCancelRequestedTransition (event : RunEvent) : RunEvent :=
  { event with
    extraFields :=
      insertMember "cancel_requested" (.obj [("from", .bool false), ("to", .bool true)])
        event.extraFields }

def withMetadata (event : RunEvent) (key : String) (value : Json) : RunEvent :=
  { event with metadata := insertMember key value event.metadata }

def withCompletionDetails (event : RunEvent) (completionReason : Option CompletionReason)
    (completionToolName partialOutput : Option String) : RunEvent :=
  { event with
    extraFields :=
      insertMembers event.extraFields
        [("completion_reason", completionReason.map fun reason => .str reason.asStr),
          ("completion_tool_name", completionToolName.map .str),
          ("partial_output", partialOutput.map .str)] }

/-- `Map::entry(key).or_insert(value)`. -/
def orInsert (key : String) (value : Json) (members : JsonObject) : JsonObject :=
  if (members.lookup key).isSome then members else insertMember key value members

/-- The budget fields of a terminal event, with the `null` fields that go with them. -/
def withBudgetDetails (event : RunEvent) (budgetUsage budgetExhaustion : Option Json) :
    RunEvent :=
  let withUsage :=
    match budgetUsage with
    | none => event.extraFields
    | some usage =>
        let extra := insertMember "budget_usage" usage event.extraFields
        let extra :=
          match event.payload with
          | .runCancelled _ => extra
          | _ => orInsert "completion_tool_name" .null extra
        let extra := orInsert "partial_output" .null extra
        match event.payload with
        | .runFailed _ => orInsert "status" (.str "failed") extra
        | _ => extra
  { event with extraFields := insertMembers withUsage [("budget_exhaustion", budgetExhaustion)] }

/-- The writer of events. -/
def toValue (event : RunEvent) : Json :=
  let payload := insertMembers [] event.payload.fields
  let extended := insertMembers payload
    (event.extraFields.map fun member => (member.1, some member.2))
  .obj <| insertMembers extended
    [("version", some (.str "v5")), ("event_id", some (.str event.eventId)),
      ("run_id", some (.str event.runId)), ("trace_id", some (.str event.traceId)),
      ("session_id", event.sessionId.map .str),
      ("parent_event_id", event.parentEventId.map .str),
      ("parent_run_id", event.parentRunId.map .str),
      ("created_at", some (.num event.createdAt)),
      ("cycle_index", event.cycleIndex.map fun cycle => .nat cycle.toNat),
      ("agent_name", event.agentName.map .str),
      ("metadata", metadataValue event.metadata)]

end RunEvent

end VvAgent
