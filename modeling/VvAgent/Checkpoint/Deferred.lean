import VvAgent.Checkpoint.Validation
import VvAgent.Lib.Lists

/-!
Deferred tools. A worker hands a whole batch of started tools over to their providers
(`admitDeferredBatch`), or an operator declares that lost tools are with their providers
(`acceptDeferredBatch`); the claim is released and the checkpoint waits at the barrier.
Each provider then resolves its handle once.
-/

namespace VvAgent
open Lib Lib.Outcome

/-- The readings of the clock during one operation, by the id of the event that is
created. -/
abbrev Clock := String → JsonNumber

inductive ToolCallOutcome where
  | completed (result : ToolExecutionResult)
  | deferred (handle : DeferredToolHandle)
  | hostInteraction (result : ToolExecutionResult) (request : HostInteractionRequest)
  deriving DecidableEq

/-- One model-tool result collected before the single admission. -/
structure DeferredBatchEntry where
  operationId : String
  cycleIndex : Nat
  attempt : Nat
  requestDigest : String
  toolCallId : String
  toolName : String
  idempotencyKey : Option String := none
  idempotencySupport : ToolIdempotency := .unknown
  outcome : ToolCallOutcome
  deriving DecidableEq

structure AcceptDeferredDecision where
  schemaVersion : String
  kind : String
  handle : DeferredToolHandle
  deriving DecidableEq

inductive DeferredReceiptStatus where
  | succeeded
  | failed
  deriving DecidableEq

/-- A definitive result, retained independently of the checkpoint. -/
structure DeferredReceipt where
  handleKey : String
  handle : DeferredToolHandle
  result : ToolExecutionResult
  resultDigest : String
  eventId : String
  eventPayloadDigest : String
  receiptStatus : DeferredReceiptStatus
  deriving DecidableEq

inductive DeferredResolveDecision where
  | appliedReady (receipt : DeferredReceipt)
  | appliedWaiting (receipt : DeferredReceipt)
  | replayed (receipt : DeferredReceipt)
  | notAdmitted (retryableError : String)
  | reconciliationRequired
  deriving DecidableEq

structure DeferredBatchAdmission where
  checkpoint : Checkpoint
  handles : List DeferredToolHandle
  deriving DecidableEq

def reconciliationDecisionSchema : String := "vv-agent.reconciliation-decision.v1"

def AcceptDeferredDecision.validate (decision : AcceptDeferredDecision) :
    CheckpointResult Unit := do
  refuse
    (decision.schemaVersion != reconciliationDecisionSchema ||
      decision.kind != "accept_deferred")
    ⟨"reconciliation_decision_invalid", "unsupported reconciliation decision"⟩
  decision.handle.validate

section
variable [Platform]

def ToolCallOutcome.validate : ToolCallOutcome → CheckpointResult Unit
  | .completed result =>
      withCode
        (if result.status = .success ∧ result.errorCode.isSome then "tool_result_invalid"
          else "tool_call_outcome_invalid")
        result.validate
  | .deferred handle => handle.validate
  | .hostInteraction result request => do
      request.validate
      withCode "tool_call_outcome_invalid"
        ((validateDefinitiveResult result).mapError CheckpointError.display)
      refuse (result.directive != .continue || result.toolCallId != request.toolCallId)
        ⟨"tool_call_outcome_invalid",
          "host interaction result identity or directive is invalid"⟩

def DeferredBatchEntry.validate (batch : DeferredBatchEntry) : CheckpointResult Unit := do
  refuse (isBlank batch.operationId || isBlank batch.toolCallId || isBlank batch.toolName)
    ⟨"deferred_batch_entry_invalid", "deferred batch identity fields must be non-empty"⟩
  refuse (batch.cycleIndex == 0 || batch.attempt == 0)
    ⟨"deferred_batch_entry_invalid", "deferred batch cycle and attempt must be positive"⟩
  validateSha256 batch.requestDigest "deferred batch request_digest"
  batch.outcome.validate

def DeferredReceipt.validate (receipt : DeferredReceipt) : CheckpointResult Unit := do
  receipt.handle.validate
  let handleKey ← receipt.handle.handleKey
  refuse (receipt.handleKey != handleKey)
    ⟨"deferred_receipt_identity_invalid",
      "receipt handle_key does not match the exact handle"⟩
  validateDefinitiveResult receipt.result
  let identityKey ← toolReceiptIdentityKey receipt.handle.checkpointKey
    receipt.handle.operationId receipt.handle.attempt receipt.result.toolCallId
    receipt.handle.requestDigest
  refuse (receipt.eventId != "evt_receipt_" ++ identityKey)
    ⟨"deferred_receipt_identity_invalid",
      "receipt event_id does not match the canonical tool receipt identity"⟩
  let digest ← VvAgent.resultDigest receipt.result
  refuse (receipt.resultDigest != digest)
    ⟨"deferred_receipt_invalid",
      "receipt result_digest does not match the canonical result"⟩
  validateSha256 receipt.eventPayloadDigest "receipt event_payload_digest"
  refuse (isBlank receipt.eventId)
    ⟨"deferred_receipt_invalid", "receipt event_id must be non-empty"⟩
  refuse
    (receipt.receiptStatus != if receipt.result.status = .success then .succeeded else .failed)
    ⟨"deferred_receipt_invalid", "receipt_status does not match the definitive result"⟩

def DeferredReceipt.new (handle : DeferredToolHandle) (result : ToolExecutionResult)
    (eventId eventPayloadDigest : String) : CheckpointResult DeferredReceipt := do
  handle.validate
  validateDefinitiveResult result
  let digest ← VvAgent.resultDigest result
  let handleKey ← handle.handleKey
  let receipt : DeferredReceipt := {
    handleKey, handle, result, eventId, eventPayloadDigest
    resultDigest := digest
    receiptStatus := if result.status = .success then .succeeded else .failed }
  receipt.validate
  return receipt

/-- An event of the run, under an id of the store's choice. -/
def checkpointEvent (clock : Clock) (checkpoint : Checkpoint) (cycleIndex : Option UInt32)
    (eventId : String) (payload : RunEventPayload) : CheckpointResult RunEvent :=
  withCode "checkpoint_event_invalid"
    ((RunEvent.new (clock eventId) checkpoint.rootRunId checkpoint.traceId checkpoint.taskId
      cycleIndex payload).withEventId eventId)

/-- The outbox entry of a checkpoint-scoped event, which has no agent name. -/
def outboxOf (event : RunEvent) : CheckpointResult EventOutboxEntry :=
  EventOutboxEntry.pending event.eventId { event with agentName := none }.toValue

/-- `deferred_event`; the casts to 32 bits wrap. -/
def deferredEvent (clock : Clock) (checkpoint : Checkpoint) (batch : DeferredBatchEntry)
    (handle : DeferredToolHandle) : CheckpointResult EventOutboxEntry := do
  let event ← checkpointEvent clock checkpoint (some (UInt32.ofNat batch.cycleIndex))
    ("evt_deferred_" ++ batch.toolCallId ++ "_deferred")
    (.toolCallDeferred batch.toolCallId batch.toolName batch.operationId
      (UInt32.ofNat batch.attempt) handle true none (some .tool))
  outboxOf (event.withCheckpointKey checkpoint.checkpointKey)

def deferredEventFromJournal (clock : Clock) (checkpoint : Checkpoint)
    (journal : OperationJournalEntry) : CheckpointResult EventOutboxEntry := do
  let handle ← require journal.deferredHandle
    ⟨"operation_deferred_handle_required", "deferred handle missing"⟩
  deferredEvent clock checkpoint
    { operationId := journal.operationId
      cycleIndex := journal.cycleIndex
      attempt := journal.attempt
      requestDigest := journal.requestDigest
      toolCallId := journal.toolCallId.getD ""
      toolName := journal.toolName.getD ""
      idempotencyKey := journal.idempotencyKey
      idempotencySupport := journal.idempotencySupport.getD .unknown
      outcome := .deferred handle }
    handle

def reconciliationEvent (clock : Clock) (checkpoint : Checkpoint)
    (journal : OperationJournalEntry) : CheckpointResult EventOutboxEntry := do
  let event ← checkpointEvent clock checkpoint (some (UInt32.ofNat journal.cycleIndex))
    ("evt_deferred_" ++ journal.toolCallId.getD journal.operationId ++ "_reconciliation")
    (.reconciliationResolved checkpoint.checkpointKey journal.operationId .tool
      "accept_deferred" (some .recovery))
  outboxOf event

/-- The event status of a tool result. -/
def toolStatusName : ToolResultStatus → String
  | .success => "success"
  | .error => "error"
  | .waitResponse => "wait_response"
  | .running => "running"
  | .pendingCompress => "pending_compress"

/-- The event that goes with the receipt of one tool call. -/
def receiptEvent (clock : Clock) (checkpoint : Checkpoint) (journal : OperationJournalEntry)
    (result : ToolExecutionResult) : CheckpointResult EventOutboxEntry := do
  let toolCallId ← require journal.toolCallId
    ⟨"tool_receipt_identity_invalid", "tool receipt journal is missing tool_call_id"⟩
  refuse (toolCallId != result.toolCallId)
    ⟨"tool_receipt_identity_invalid",
      "tool receipt result tool_call_id does not match the journal"⟩
  let identityKey ← toolReceiptIdentityKey checkpoint.checkpointKey journal.operationId
    journal.attempt toolCallId journal.requestDigest
  let event ← checkpointEvent clock checkpoint (some (UInt32.ofNat journal.cycleIndex))
    ("evt_receipt_" ++ identityKey)
    (.toolCallCompleted toolCallId (journal.toolName.getD "") (toolStatusName result.status)
      result.directive result.errorCode true none (some journal.operationId)
      (some (UInt32.ofNat journal.attempt)))
  outboxOf event

def hasCurrentCycleState (entries : List OperationJournalEntry) (claimedCycle : Nat)
    (states : List OperationState) : Bool :=
  entries.any fun entry => entry.cycleIndex = claimedCycle && states.contains entry.state

/-- The journal entry a batch entry is about. -/
def DeferredBatchEntry.concerns (batch : DeferredBatchEntry)
    (entry : OperationJournalEntry) : Bool :=
  entry.operationId == batch.operationId && entry.cycleIndex == batch.cycleIndex &&
    entry.attempt == batch.attempt && entry.requestDigest == batch.requestDigest &&
    entry.toolCallId == some batch.toolCallId && entry.toolName == some batch.toolName

/-- Hand one started tool of the batch over. -/
def admitBatchEntry (clock : Clock) (snapshot : Checkpoint) (batch : DeferredBatchEntry) :
    CheckpointResult (Checkpoint × DeferredToolHandle) := do
  batch.validate
  let journal ← require (snapshot.toolJournal.find? batch.concerns)
    ⟨"deferred_batch_not_admitted",
      "deferred batch operation is not in the active tool journal"⟩
  refuse (journal.state != .started)
    ⟨"deferred_batch_not_admitted",
      "deferred batch operation identity or state does not match"⟩
  match batch.outcome with
  | .hostInteraction _ _ =>
      .error ⟨"deferred_batch_not_admitted", "host interactions require their own admission"⟩
  | .completed _ =>
      .error ⟨"deferred_admission_completed_outcome_invalid",
        "admit_deferred_batch accepts only unresolved deferred outcomes; record ordinary " ++
          "receipts first"⟩
  | .deferred handle => do
      refuse
        (handle.checkpointKey != snapshot.checkpointKey ||
          handle.operationId != batch.operationId || handle.attempt != batch.attempt ||
          handle.requestDigest != batch.requestDigest)
        ⟨"deferred_handle_invalid", "deferred handle does not match the active journal"⟩
      let deferred := { journal with state := .deferred, deferredHandle := some handle }
      let admitted :=
        { snapshot with
          toolJournal := replaceFirst batch.concerns deferred snapshot.toolJournal }
      let event ← deferredEvent clock admitted batch handle
      return ({ admitted with eventOutbox := admitted.eventOutbox ++ [event] }, handle)

def admitBatchEntries (clock : Clock) (snapshot : Checkpoint) :
    List DeferredBatchEntry → CheckpointResult (Checkpoint × List DeferredToolHandle)
  | [] => .ok (snapshot, [])
  | batch :: rest => do
      let (admitted, handle) ← admitBatchEntry clock snapshot batch
      let (final, handles) ← admitBatchEntries clock admitted rest
      return (final, handle :: handles)

/-- The next revision; a revision is a 64-bit counter. -/
def nextRevision (revision : Nat) : CheckpointResult Nat :=
  require (checkedAdd revision 1) ⟨"checkpoint_revision_overflow", "revision overflow"⟩

/-- Only started tools must be covered by the batch. -/
def admitDeferredBatch (clock : Clock) (current : Checkpoint) (expectedRevision : Nat)
    (claimToken : String) (claimedCycle : Nat) (entries : List DeferredBatchEntry) :
    CheckpointResult (Checkpoint × List DeferredToolHandle) :=
  if current.revision ≠ expectedRevision ∨ current.claimToken ≠ some claimToken ∨
      current.claimedCycle ≠ some claimedCycle ∨ current.status ≠ .running ∨
      entries = [] then
    .ok (current, [])
  else do
    let (snapshot, handles) ← admitBatchEntries clock current entries
    refuse (hasCurrentCycleState snapshot.journals claimedCycle [.started])
      ⟨"deferred_batch_incomplete",
        "deferred batch must cover every started tool in the claimed cycle"⟩
    let released := { snapshot.releaseClaim with status := .deferred }
    let revision ← nextRevision expectedRevision
    let updated := { released with revision }
    validateCheckpoint updated
    return (updated, handles)

/-- The identity under which a decision batch is checked for repetitions. -/
def DeferredToolHandle.operationKey (handle : DeferredToolHandle) : String × Nat × String :=
  (handle.operationId, handle.attempt, handle.requestDigest)

/-- The ambiguous journal entry a decision is about. -/
def AcceptDeferredDecision.concerns (decision : AcceptDeferredDecision) (claimedCycle : Nat)
    (entry : OperationJournalEntry) : Bool :=
  entry.operationId == decision.handle.operationId && entry.cycleIndex == claimedCycle &&
    entry.attempt == decision.handle.attempt &&
    entry.requestDigest == decision.handle.requestDigest && entry.state == .ambiguous

def acceptDecisions (clock : Clock) (claimedCycle : Nat) (snapshot : Checkpoint)
    (seen : List (String × Nat × String)) :
    List AcceptDeferredDecision → CheckpointResult Checkpoint
  | [] => .ok snapshot
  | decision :: rest => do
      decision.validate
      refuse (seen.contains decision.handle.operationKey)
        ⟨"reconciliation_required", "accept_deferred batch contains duplicate handles"⟩
      let entry ← require (snapshot.toolJournal.find? (decision.concerns claimedCycle))
        ⟨"reconciliation_required",
          "accept_deferred decision does not match an ambiguous current-batch entry"⟩
      refuse (decision.handle.checkpointKey != snapshot.checkpointKey)
        ⟨"reconciliation_required",
          "accept_deferred handle checkpoint does not match the store key"⟩
      let deferred :=
        { entry with state := .deferred, deferredHandle := some decision.handle }
      let accepted :=
        { snapshot with
          toolJournal :=
            replaceFirst (decision.concerns claimedCycle) deferred snapshot.toolJournal }
      let reconciliation ← reconciliationEvent clock accepted deferred
      let event ← deferredEventFromJournal clock accepted deferred
      acceptDecisions clock claimedCycle
        { accepted with eventOutbox := accepted.eventOutbox ++ [reconciliation, event] }
        (decision.handle.operationKey :: seen) rest

/-- Recovery acceptance must cover every unresolved entry of the cycle. -/
def acceptDeferredBatch (clock : Clock) (current : Checkpoint) (expectedRevision : Nat)
    (claimToken : String) (claimedCycle : Nat) (decisions : List AcceptDeferredDecision) :
    CheckpointResult (Checkpoint × Bool) :=
  if current.revision ≠ expectedRevision ∨ current.claimToken ≠ some claimToken ∨
      current.claimedCycle ≠ some claimedCycle ∨ current.resumeAttempt ≤ 1 ∨
      decisions = [] then
    .ok (current, false)
  else do
    refuse
      (hasCurrentCycleState current.modelCallJournal claimedCycle
        [.planned, .started, .ambiguous])
      ⟨"reconciliation_required",
        "accept_deferred batch must cover model and tool ambiguity before release"⟩
    let snapshot ← acceptDecisions clock claimedCycle current [] decisions
    refuse (hasCurrentCycleState snapshot.journals claimedCycle [.planned, .started, .ambiguous])
      ⟨"reconciliation_required",
        "accept_deferred batch must cover every unresolved journal entry in the current cycle"⟩
    let released := { snapshot.releaseClaim with status := .deferred }
    let revision ← nextRevision expectedRevision
    let updated := { released with revision }
    validateCheckpoint updated
    return (updated, true)

end

/-- Whether a decision batch repeats exactly what the barrier already holds. -/
def deferredBatchIsIdempotent (current : Checkpoint)
    (decisions : List AcceptDeferredDecision) : Bool :=
  !decisions.isEmpty && (decisions.map (·.handle.operationKey)).Nodup &&
    current.deferredEntries.length == decisions.length &&
    current.deferredEntries.all fun entry =>
      entry.deferredHandle.any fun handle =>
        (decisions.map (·.handle.operationKey)).contains handle.operationKey &&
          decisions.any fun decision => decision.handle == handle

end VvAgent
