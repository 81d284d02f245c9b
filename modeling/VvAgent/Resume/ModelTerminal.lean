import VvAgent.Budget.Changes
import VvAgent.Checkpoint.Validation

/-!
How a model call is closed. Its terminal carries a ledger record, an event and what the
budget observed; committing it puts the record into the ledger and the events into the
outbox, the budget observation right behind the terminal event. The validator of the store
asks for that observation whenever the run has budget limits.
-/

namespace VvAgent
open Lib Lib.Outcome

structure ModelCallIdentity where
  callId : String
  operationId : String
  attempt : UInt32
  operation : ModelCallOperation
  cycleIndex : UInt32
  backend : String
  model : String
  deriving DecidableEq

def ModelCallIdentity.create (operationId : String) (attempt : UInt32)
    (operation : ModelCallOperation) (cycleIndex : UInt32) (backend model : String) :
    Except String ModelCallIdentity := do
  checkAll
    (fun field : String × String =>
      refuse (isBlank field.2) (field.1 ++ " must be a non-empty string"))
    [("operation_id", operationId), ("backend", backend), ("model", model)]
  refuse (attempt = 0) "attempt must be positive"
  refuse (cycleIndex = 0) "cycle_index must be positive"
  return {
    callId := operationId ++ ":attempt:" ++ toString attempt.toNat
    operationId, attempt, operation, cycleIndex, backend, model }

/-- What a coordinator writes into its events. -/
structure ModelCallCoordinator where
  runId : String
  traceId : String
  agentName : String
  sessionId : Option String := none
  parentRunId : Option String := none

/-- The id of an event and the time at which it is created. -/
structure EventStamp where
  eventId : String
  createdAt : JsonNumber

structure ModelCallBudgetObservation where
  exhaustion : Option BudgetExhaustion
  event : Option RunEvent

structure ModelCallTerminal where
  record : ModelCallRecord
  event : RunEvent
  budget : ModelCallBudgetObservation

namespace ModelCallCoordinator

/-- A new event of the run, decorated. -/
def event (coordinator : ModelCallCoordinator) (stamp : EventStamp) (cycleIndex : UInt32)
    (payload : RunEventPayload) : RunEvent :=
  { RunEvent.new stamp.createdAt coordinator.runId coordinator.traceId coordinator.agentName
      (some cycleIndex) payload with
    eventId := stamp.eventId
    sessionId := coordinator.sessionId
    parentRunId := coordinator.parentRunId }

def observeBudget (coordinator : ModelCallCoordinator) (identity : ModelCallIdentity)
    (update : BudgetUpdate) (stamp : EventStamp) : ModelCallBudgetObservation where
  exhaustion := update.exhaustion
  event := update.snapshot.map fun budgetUsage =>
    coordinator.event stamp identity.cycleIndex <|
      match update.exhaustion with
      | some exhaustion =>
          .budgetExhausted exhaustion.enforcementBoundary budgetUsage exhaustion
      | none => .budgetSnapshot .modelCallComplete budgetUsage

/-- The ledger record of a call. -/
def record (identity : ModelCallIdentity) (status : ModelCallStatus) (usage : TokenUsage)
    (errorCode : Option String) : ModelCallRecord where
  callId := identity.callId
  operationId := identity.operationId
  attempt := identity.attempt
  operation := identity.operation
  cycleIndex := identity.cycleIndex
  backend := identity.backend
  model := identity.model
  status := status
  usage := usage
  errorCode := errorCode

def completedTerminal (coordinator : ModelCallCoordinator) (identity : ModelCallIdentity)
    (usage : TokenUsage) (update : BudgetUpdate) (stamp budgetStamp : EventStamp) :
    ModelCallTerminal where
  record := record identity .completed usage none
  event := coordinator.event stamp identity.cycleIndex
    (.modelCallCompleted identity.callId identity.operationId identity.attempt identity.operation
      identity.backend identity.model usage)
  budget := coordinator.observeBudget identity update budgetStamp

def failedTerminal (coordinator : ModelCallCoordinator) (identity : ModelCallIdentity)
    (errorCode : String) (ambiguous : Bool) (usage : TokenUsage) (update : BudgetUpdate)
    (stamp budgetStamp : EventStamp) : ModelCallTerminal where
  record := record identity (if ambiguous then .ambiguous else .failed) usage (some errorCode)
  event := coordinator.event stamp identity.cycleIndex
    (.modelCallFailed identity.callId identity.operationId identity.attempt identity.operation
      identity.backend identity.model (if ambiguous then .ambiguous else .definitive) usage
      errorCode)
  budget := coordinator.observeBudget identity update budgetStamp

end ModelCallCoordinator

section
variable [Platform]

def modelIdentityFromEntry (entry : OperationJournalEntry) :
    CheckpointResult ModelCallIdentity := do
  refuse (entry.kind != .model)
    ⟨"checkpoint_status_invalid", "model identity requested for a non-model journal entry"⟩
  refuse (UInt32.size ≤ entry.attempt)
    ⟨"checkpoint_status_invalid", "model journal attempt is outside the runtime range"⟩
  refuse (UInt32.size ≤ entry.cycleIndex)
    ⟨"checkpoint_status_invalid", "model journal cycle is outside the runtime range"⟩
  let operation ← require entry.modelOperation
    ⟨"checkpoint_status_invalid", "model journal operation is missing"⟩
  let backend ← require entry.backend
    ⟨"checkpoint_status_invalid", "model journal backend is missing"⟩
  let model ← require entry.model
    ⟨"checkpoint_status_invalid", "model journal model is missing"⟩
  let identity ← withCode "checkpoint_status_invalid" <|
    ModelCallIdentity.create entry.operationId (UInt32.ofNat entry.attempt) operation
      (UInt32.ofNat entry.cycleIndex) backend model
  refuse (entry.callId != some identity.callId)
    ⟨"checkpoint_status_invalid", "model journal call_id does not match operation_id and attempt"⟩
  return identity

/-- The identity that the event of a terminal names. -/
def RunEvent.modelIdentity (event : RunEvent) : Option ModelCallIdentity :=
  match event.payload with
  | .modelCallCompleted callId operationId attempt operation backend model _
  | .modelCallFailed callId operationId attempt operation backend model _ _ _ =>
      event.cycleIndex.map fun cycleIndex =>
        { callId, operationId, attempt, operation, cycleIndex, backend, model }
  | _ => none

def requireModelTerminalIdentity (entry : OperationJournalEntry) (terminal : ModelCallTerminal) :
    CheckpointResult Unit := do
  let identity ← modelIdentityFromEntry entry
  let status : ModelCallStatus ←
    match entry.state with
    | .succeeded => pure .completed
    | .failed => pure .failed
    | .ambiguous => pure .ambiguous
    | _ =>
        .error
          ⟨"checkpoint_status_invalid", "model terminal requires a terminal journal state"⟩
  refuse
    (terminal.record !=
      ModelCallCoordinator.record identity status terminal.record.usage terminal.record.errorCode)
    ⟨"checkpoint_status_invalid",
      "model terminal record identity does not match its durable journal"⟩
  refuse (terminal.event.modelIdentity != some identity)
    ⟨"checkpoint_status_invalid",
      "model terminal event identity does not match its durable journal"⟩

def queueEvent (outbox : List EventOutboxEntry) (event : RunEvent) :
    CheckpointResult (List EventOutboxEntry) := do
  let candidate ← EventOutboxEntry.pending event.eventId event.toValue
  appendEventOutboxOnce outbox candidate

/-- The usage that a budget event reports. -/
def RunEvent.budgetUsage (event : RunEvent) : Option BudgetUsageSnapshot :=
  match event.payload with
  | .budgetSnapshot _ budgetUsage | .budgetExhausted _ budgetUsage _ => some budgetUsage
  | _ => none

/-- What `commit_model_terminal` hands to the store. -/
def commitModelTerminal (checkpoint : Checkpoint) (operationId : String)
    (terminal : ModelCallTerminal) : CheckpointResult Checkpoint := do
  let entry ← require
    (checkpoint.modelCallJournal.find? fun entry => entry.operationId == operationId)
    ⟨"checkpoint_status_invalid", "model terminal journal entry is missing"⟩
  requireModelTerminalIdentity entry terminal
  refuse (checkpoint.modelCalls.any fun existing => existing.callId == terminal.record.callId)
    ⟨"checkpoint_status_invalid", "model call ledger contains a duplicate call_id"⟩
  let closed ← queueEvent checkpoint.eventOutbox terminal.event
  let observed ←
    match terminal.budget.event with
    | some event => queueEvent closed event
    | none => pure closed
  return { checkpoint with
    modelCalls := checkpoint.modelCalls ++ [terminal.record]
    budgetUsage := ((terminal.budget.event >>= RunEvent.budgetUsage).map (·.toValue)).or
      checkpoint.budgetUsage
    eventOutbox := observed }

end

end VvAgent
