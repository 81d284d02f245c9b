import VvAgent.Checkpoint.Record

/-!
`validate_checkpoint`, the check that every write of a store goes through. It is one
sequence of guards; here it is cut into the groups that belong together, in the order
of the source.
-/

namespace VvAgent
open Lib.Outcome

section
variable [Platform]

/-- Cycle records are positive, strictly increasing, and at most one past the last
committed cycle. -/
def cyclesOrdered (cycleIndex : Nat) (cycles : List CycleRecord) : Bool :=
  (cycles.all fun cycle => cycle.index != 0 && cycle.index.toNat ≤ cycleIndex + 1) &&
    (cycles.zip cycles.tail).all fun pair => pair.1.index < pair.2.index

def validateHistory (checkpoint : Checkpoint) : CheckpointResult Unit := do
  checkpoint.history.validate
  checkAll
    (fun message : Message =>
      withCode "checkpoint_messages_invalid" (validateCompactionMetadata message.metadata))
    checkpoint.messages
  refuse (!cyclesOrdered checkpoint.cycleIndex checkpoint.cycles)
    ⟨"checkpoint_history_invalid",
      "checkpoint cycles must be positive, strictly ordered, and no later than the active cycle"⟩

def validateDefinition (checkpoint : Checkpoint) : CheckpointResult Unit := do
  refuse (checkpoint.schemaVersion != checkpointSchema)
    ⟨"checkpoint_schema_unsupported", "checkpoint schema_version is unsupported"⟩
  refuse (checkpoint.runDefinitionSchema != runDefinitionSchema)
    ⟨"checkpoint_definition_schema_unsupported",
      "run_definition_schema is missing or unsupported"⟩
  validateRunDefinition checkpoint.runDefinition
  refuse (!isSha256 checkpoint.runDefinitionDigest)
    ⟨"checkpoint_definition_digest_invalid",
      "run_definition_digest must be a lowercase SHA-256 hex digest"⟩
  let digest ← runDefinitionDigest checkpoint.runDefinition
  refuse (digest != checkpoint.runDefinitionDigest)
    ⟨"checkpoint_definition_mismatch",
      "run_definition_digest does not match embedded run_definition"⟩

def validateIdentity (checkpoint : Checkpoint) : CheckpointResult Unit := do
  validateCheckpointKey checkpoint.checkpointKey
  requireNonEmpty checkpoint.taskId "task_id"
  requireNonEmpty checkpoint.rootRunId "root_run_id"
  requireNonEmpty checkpoint.traceId "trace_id"
  refuse (checkpoint.resumeAttempt == 0 || maxWireInteger < checkpoint.resumeAttempt)
    ⟨"checkpoint_resume_attempt_invalid", "resume_attempt must be positive and JSON-safe"⟩
  refuse (maxWireInteger < checkpoint.cycleIndex || maxWireInteger < checkpoint.revision)
    ⟨"checkpoint_integer_invalid", "checkpoint integer is outside the JSON-safe range"⟩

/-- A claim is all there or not at all, and it is on the cycle after the last committed
one. -/
def validateClaim (checkpoint : Checkpoint) : CheckpointResult Unit :=
  match checkpoint.claimToken, checkpoint.claimedCycle, checkpoint.leaseExpiresAtMs with
  | none, none, none => .ok ()
  | some claimToken, some claimedCycle, some lease => do
      refuse (isBlank claimToken) ⟨"checkpoint_claim_invalid", "claim_token must be non-empty"⟩
      refuse (claimedCycle != checkpoint.cycleIndex + 1 || maxWireInteger < claimedCycle)
        ⟨"checkpoint_claim_invalid", "claimed_cycle must equal cycle_index + 1"⟩
      refuse (maxWireInteger < lease)
        ⟨"checkpoint_claim_invalid", "lease expiry is outside the JSON-safe range"⟩
  | _, _, _ =>
      .error ⟨"checkpoint_claim_invalid", "claim fields must be all present or all null"⟩

def isDurableStatus : CheckpointStatus → Bool
  | .pending | .running | .hostInteraction | .suspended | .deferred
  | .reconciliationRequired => true
  | _ => false

def validateTerminalStatus (checkpoint : Checkpoint) : CheckpointResult Unit := do
  refuse (checkpoint.terminalResult.isSome && checkpoint.claimToken.isSome)
    ⟨"checkpoint_status_invalid", "terminal checkpoint cannot have an active claim"⟩
  refuse (checkpoint.terminalAcknowledged && checkpoint.terminalResult.isNone)
    ⟨"checkpoint_status_invalid", "terminal acknowledgement requires a terminal result"⟩
  refuse (checkpoint.terminalResult.isNone && !isDurableStatus checkpoint.status)
    ⟨"checkpoint_status_invalid",
      "non-terminal checkpoint must be running or reconciliation_required"⟩
  refuse (checkpoint.terminalResult.isSome && !checkpoint.status.isTerminal)
    ⟨"checkpoint_status_invalid", "terminal_result requires a terminal checkpoint status"⟩

/-- The host interaction a checkpoint waits for, also while it is suspended. -/
def Checkpoint.pendingInteraction (checkpoint : Checkpoint) : Option HostInteractionRequest :=
  checkpoint.activeHostInteraction <|>
    (checkpoint.suspendedOrigin.bind (·.activeHostInteraction))

/-- Whether the record keeps the committed cycle whose tool call asked the host. -/
def committedOrigin (checkpoint : Checkpoint) (request : HostInteractionRequest) : Bool :=
  request.logicalCycle = checkpoint.cycleIndex &&
    checkpoint.cycles.any fun cycle =>
      cycle.index.toNat = request.logicalCycle &&
        cycle.toolResults.any fun result => result.toolCallId = request.toolCallId

def validatePendingInteraction (checkpoint : Checkpoint) : CheckpointResult Unit :=
  match checkpoint.pendingInteraction with
  | none => .ok ()
  | some request => do
      request.validate
      refuse
        (request.logicalCycle != checkpoint.cycleIndex + 1 &&
          !committedOrigin checkpoint request)
        ⟨"checkpoint_status_invalid",
          "host interaction must identify the active cycle or a retained completed tool cycle"⟩

/-- What a checkpoint waits for agrees with its status. -/
def validateWaitingStatus (checkpoint : Checkpoint) : CheckpointResult Unit :=
  match checkpoint.status with
  | .hostInteraction =>
      refuse
        (checkpoint.activeHostInteraction.isNone || checkpoint.suspendedOrigin.isSome ||
          checkpoint.claimToken.isSome)
        ⟨"checkpoint_status_invalid",
          "host_interaction requires an active request, no suspended origin, and no claim"⟩
  | .suspended =>
      refuse
        (checkpoint.activeHostInteraction.isSome || checkpoint.suspendedOrigin.isNone ||
          checkpoint.claimToken.isSome)
        ⟨"checkpoint_status_invalid",
          "suspended requires an origin, no active request, and no claim"⟩
  | _ =>
      refuse (checkpoint.activeHostInteraction.isSome || checkpoint.suspendedOrigin.isSome)
        ⟨"checkpoint_status_invalid",
          "active_host_interaction and suspended_origin are only valid for their matching statuses"⟩

def validateInteraction (checkpoint : Checkpoint) : CheckpointResult Unit := do
  validatePendingInteraction checkpoint
  checkAll SuspendedOrigin.validate checkpoint.suspendedOrigin.toList
  validateWaitingStatus checkpoint

/-- The receipt of a closed tool entry names the operation it closes. -/
def validateReceiptIdentity (checkpointKey : String) (entry : OperationJournalEntry) :
    CheckpointResult Unit := do
  let toolCallId ← require entry.toolCallId
    ⟨"operation_receipt_identity_invalid", "closed tool journal entry is missing tool_call_id"⟩
  let expected ← toolReceiptIdentityKey checkpointKey entry.operationId entry.attempt
    toolCallId entry.requestDigest
  refuse (entry.identityKey != some expected)
    ⟨"operation_receipt_identity_invalid",
      "closed tool journal identity_key does not match its operation identity"⟩
  if let some value := entry.result then do
    let result ← withContext "operation_receipt_identity_invalid"
      "closed tool result is invalid: " (ToolExecutionResult.fromDict value)
    refuse (result.toolCallId != toolCallId)
      ⟨"operation_receipt_identity_invalid",
        "closed tool result tool_call_id does not match its journal"⟩

def validateJournalEntry (checkpointKey : String) (activeCycle : Nat)
    (entry : OperationJournalEntry) : CheckpointResult Unit := do
  entry.validate
  refuse (entry.cycleIndex != activeCycle)
    ⟨"checkpoint_journal_cycle_invalid", "journal cycle_index must equal the active cycle"⟩
  if entry.kind = .tool ∧ (entry.state = .succeeded ∨ entry.state = .failed) then
    validateReceiptIdentity checkpointKey entry

def validateJournals (checkpoint : Checkpoint) : CheckpointResult Unit := do
  refuse (!(checkpoint.modelCalls.map (·.callId)).Nodup)
    ⟨"checkpoint_status_invalid", "checkpoint model_calls contains duplicate call ids"⟩
  let activeCycle ← checkpoint.activeCycle
  checkAll (validateJournalEntry checkpoint.checkpointKey activeCycle) checkpoint.journals
  refuse
    ((checkpoint.modelCallJournal.any fun entry => entry.kind != .model) ||
      checkpoint.toolJournal.any fun entry => entry.kind != .tool)
    ⟨"checkpoint_journal_kind_invalid", "journal arrays contain an entry of the wrong kind"⟩

def maxExtensionNamespaceBytes : Nat := 128

def maxExtensionEntryBytes : Nat := 65536

def isNamespaceChar (c : Char) : Bool :=
  ('a' ≤ c && c ≤ 'z') || ('0' ≤ c && c ≤ '9') || c == '.' || c == '_' || c == '-'

def validateExtensionNamespace (name : String) : CheckpointResult Unit := do
  let invalid (message : String) : CheckpointError :=
    ⟨"checkpoint_extension_namespace_invalid", message⟩
  refuse (name == "" || !name.toList.all fun c => c.toNat < 128)
    (invalid "extension namespace must be non-empty ASCII")
  refuse (maxExtensionNamespaceBytes < name.utf8ByteSize)
    (invalid ("extension namespace exceeds " ++ toString maxExtensionNamespaceBytes ++ " bytes"))
  refuse (!name.toList.head?.any fun c => ('a' ≤ c && c ≤ 'z') || ('0' ≤ c && c ≤ '9'))
    (invalid "extension namespace must begin with a lowercase letter or digit")
  refuse (!name.toList.contains '.' || !name.toList.all isNamespaceChar)
    (invalid "extension namespace does not match the reverse-DNS grammar")

/-- The total size of the extension entries, each of them within its own limit. -/
def extensionStateSize :
    List (String × ExtensionStateEntry) → Nat → CheckpointResult Nat
  | [], total => .ok total
  | (name, entry) :: rest, total => do
      let bytes ← canonicalJsonBytes entry.toValue "extension state entry"
      refuse (maxExtensionEntryBytes < Platform.canonicalLength bytes)
        ⟨"checkpoint_extension_entry_too_large",
          "extension " ++ name ++ " exceeds " ++ toString maxExtensionEntryBytes ++ " bytes"⟩
      extensionStateSize rest (total + Platform.canonicalLength bytes)

def validateExtensionStateSize (extensions : List (String × ExtensionStateEntry))
    (maxTotal : Nat) : CheckpointResult Unit := do
  let total ← extensionStateSize extensions 0
  refuse (maxTotal < total)
    ⟨"checkpoint_extension_state_too_large",
      "extension state exceeds " ++ toString maxTotal ++ " bytes"⟩

def validateExtensions (checkpoint : Checkpoint) : CheckpointResult Unit := do
  checkAll
    (fun entry : String × ExtensionStateEntry => do
      validateExtensionNamespace entry.1
      entry.2.validate)
    checkpoint.extensionState
  validateExtensionStateSize checkpoint.extensionState maxWireInteger
  if let some cursor := checkpoint.eventCursor then
    cursor.validate

/-- Every entry verifies, and no event id occurs twice. -/
def validateOutbox (seen : List String) : List EventOutboxEntry → CheckpointResult Unit
  | [] => .ok ()
  | entry :: rest => do
      entry.verifyPayload
      refuse (seen.contains entry.eventId)
        ⟨"event_identity_conflict",
          "checkpoint event_outbox contains a duplicate event id"⟩
      validateOutbox (entry.eventId :: seen) rest

/-- What ties together a journal entry, a ledger record and an event of one model call. -/
structure ModelAccountingIdentity where
  callId : String
  operationId : String
  attempt : Nat
  operation : ModelCallOperation
  cycleIndex : Nat
  backend : String
  model : String
  deriving DecidableEq

def modelAccountingError (message : String) : CheckpointError :=
  ⟨"checkpoint_status_invalid", message⟩

def modelJournalIdentity (journal : OperationJournalEntry) :
    CheckpointResult ModelAccountingIdentity := do
  let callId ← require journal.callId
    (modelAccountingError "model journal call_id is missing from accounting identity")
  let operation ← require journal.modelOperation
    (modelAccountingError "model journal operation is missing from accounting identity")
  let backend ← require journal.backend
    (modelAccountingError "model journal backend is missing from accounting identity")
  let model ← require journal.model
    (modelAccountingError "model journal model is missing from accounting identity")
  return {
    callId, operation, backend, model
    operationId := journal.operationId
    attempt := journal.attempt
    cycleIndex := journal.cycleIndex }

def modelRecordIdentity (record : ModelCallRecord) : ModelAccountingIdentity where
  callId := record.callId
  operationId := record.operationId
  attempt := record.attempt.toNat
  operation := record.operation
  cycleIndex := record.cycleIndex.toNat
  backend := record.backend
  model := record.model

/-- The type of an event. -/
def eventType (event : Json) : Option String := event.get? "type" >>= Json.asStr?

def modelEventIdentity (event : Json) : Option ModelAccountingIdentity := do
  let kind ← eventType event
  guard (["model_call_started", "model_call_completed", "model_call_failed"].contains kind)
  let operation ← event.get? "operation" >>= Json.asStr?
  return {
    callId := ← event.get? "call_id" >>= Json.asStr?
    operationId := ← event.get? "operation_id" >>= Json.asStr?
    attempt := ← event.get? "attempt" >>= Json.asU64?
    operation := ← ModelCallOperation.parse operation
    cycleIndex := ← event.get? "cycle_index" >>= Json.asU64?
    backend := ← event.get? "backend" >>= Json.asStr?
    model := ← event.get? "model" >>= Json.asStr? }

/-- An outbox event of a model call, with its place in the outbox. -/
structure ModelEvent where
  index : Nat
  event : Json
  identity : ModelAccountingIdentity

def ModelAccountingIdentity.concerns (identity : ModelAccountingIdentity)
    (callId operationId : String) (attempt : Nat) : Bool :=
  callId == identity.callId || (operationId == identity.operationId && attempt == identity.attempt)

/-- The outbox events that claim to be about one model call. -/
def modelEventCandidates (identity : ModelAccountingIdentity) :
    Nat → List EventOutboxEntry → CheckpointResult (List ModelEvent)
  | _, [] => .ok []
  | index, entry :: rest => do
      entry.verifyPayload
      let later ← modelEventCandidates identity (index + 1) rest
      match modelEventIdentity entry.event with
      | some observed =>
          if identity.concerns observed.callId observed.operationId observed.attempt then
            return ⟨index, entry.event, observed⟩ :: later
          else return later
      | none => return later

def requireModelIdentity (expected observed : ModelAccountingIdentity) : CheckpointResult Unit :=
  refuse (expected != observed)
    (modelAccountingError "model journal, event, and ledger identities do not match")

def isModelBudgetEvent (event : Json) : Bool :=
  (eventType event = some "budget_snapshot" || eventType event = some "budget_exhausted") &&
    event.get? "enforcement_boundary" = some (.str "model_call_complete")

/-- With a budget configured, the budget observation directly follows the terminal event
of a model call, and there is only one. -/
def validateTerminalBudgetEventOrder (checkpoint : Checkpoint) (index : Nat) :
    CheckpointResult Unit := do
  let budgetConfigured := (checkpoint.runDefinition.get? "budget_limits").any (· != .null)
  let nextIsModelBudget :=
    checkpoint.eventOutbox[index + 1]?.any fun entry => isModelBudgetEvent entry.event
  refuse (budgetConfigured != nextIsModelBudget)
    (modelAccountingError
      "model terminal event must be followed immediately by its configured budget observation")
  refuse
    (nextIsModelBudget &&
      checkpoint.eventOutbox[index + 2]?.any fun entry => isModelBudgetEvent entry.event)
    (modelAccountingError
      "budget_exhausted must replace budget_snapshot for a model-call boundary")

/-- The ledger record of a closed model call against its journal entry and its terminal
event. -/
def validateModelTerminal (checkpoint : Checkpoint) (journal : OperationJournalEntry)
    (record : ModelCallRecord) (terminal : ModelEvent) : CheckpointResult Unit := do
  let statusMatches :=
    match journal.state with
    | .succeeded => record.status = .completed || record.status = .ambiguous
    | .failed => record.status = .failed || record.status = .ambiguous
    | .ambiguous => record.status = .ambiguous
    | _ => false
  let expectedType :=
    if record.status = .completed then "model_call_completed" else "model_call_failed"
  refuse (!statusMatches || eventType terminal.event != some expectedType)
    (modelAccountingError
      "model journal terminal state does not match its accounting evidence")
  refuse (terminal.event.get? "usage" != some record.usage.toValue)
    (modelAccountingError "model terminal event usage does not match its ledger record")
  if eventType terminal.event = some "model_call_failed" then
    let outcome := if record.status = .ambiguous then "ambiguous" else "definitive"
    refuse
      (terminal.event.get? "outcome" != some (.str outcome) ||
        terminal.event.get? "error_code" != record.errorCode.map .str)
      (modelAccountingError "model failed event does not match its ledger record")
  validateTerminalBudgetEventOrder checkpoint terminal.index

def missingEvidence : CheckpointError :=
  modelAccountingError "model journal attempt is missing atomic accounting evidence"

def validateModelJournalEntryAccounting (checkpoint : Checkpoint)
    (journal : OperationJournalEntry) : CheckpointResult Unit := do
  journal.validate
  let identity ← modelJournalIdentity journal
  let records := checkpoint.modelCalls.filter fun record =>
    identity.concerns record.callId record.operationId record.attempt.toNat
  let events ← modelEventCandidates identity 0 checkpoint.eventOutbox
  let started := events.filter fun event => eventType event.event = some "model_call_started"
  let terminal := events.filter fun event =>
    eventType event.event = some "model_call_completed" ||
      eventType event.event = some "model_call_failed"
  refuse (1 < records.length || 1 < started.length || 1 < terminal.length)
    (modelAccountingError "model journal attempt has duplicate accounting evidence")
  match journal.state, records, started, terminal with
  | .planned, [], [], [] => .ok ()
  | .planned, _, _, _ => .error missingEvidence
  | .started, [], [begun], [] => requireModelIdentity identity begun.identity
  | .started, _, _, _ => .error missingEvidence
  | .failed, [], [], [] => .ok ()
  | .deferred, _, _, _ => .error (modelAccountingError "model journal cannot be deferred")
  | _, [record], [begun], [ended] => do
      requireModelIdentity identity (modelRecordIdentity record)
      requireModelIdentity identity begun.identity
      requireModelIdentity identity ended.identity
      validateModelTerminal checkpoint journal record ended
  | _, _, _, _ => .error missingEvidence

def validateModelJournalAccounting (checkpoint : Checkpoint) : CheckpointResult Unit :=
  checkAll
    (fun journal => do
      refuse (journal.kind != .model)
        ⟨"operation_kind_fields_invalid", "model_call_journal contains a non-model entry"⟩
      validateModelJournalEntryAccounting checkpoint journal)
    checkpoint.modelCallJournal

def validateSharedState (checkpoint : Checkpoint) : CheckpointResult Unit :=
  checkAll (fun member : String × Json => member.2.validateIJson "shared_state")
    checkpoint.sharedState

def validateDeferredEntry (checkpointKey : String) (entry : OperationJournalEntry) :
    CheckpointResult Unit := do
  let handle ← require entry.deferredHandle
    ⟨"checkpoint_status_invalid", "deferred journal entry requires a handle"⟩
  refuse
    (handle.checkpointKey != checkpointKey || handle.operationId != entry.operationId ||
      handle.attempt != entry.attempt || handle.requestDigest != entry.requestDigest)
    ⟨"checkpoint_status_invalid",
      "deferred handle identity does not match checkpoint journal"⟩

/-- Which journal states go with which status and claim. -/
def validateLifecycle (checkpoint : Checkpoint) : CheckpointResult Unit := do
  refuse
    (checkpoint.status = .reconciliationRequired &&
      (!checkpoint.hasAmbiguousOperation || checkpoint.claimToken.isSome))
    ⟨"checkpoint_status_invalid",
      "reconciliation_required needs an ambiguous journal and no claim"⟩
  refuse
    (checkpoint.status = .deferred &&
      (checkpoint.deferredEntries.isEmpty || checkpoint.claimToken.isSome))
    ⟨"checkpoint_status_invalid",
      "deferred checkpoint requires a deferred journal and no claim"⟩
  checkAll (validateDeferredEntry checkpoint.checkpointKey) checkpoint.deferredEntries
  refuse
    (checkpoint.status = .running && checkpoint.hasAmbiguousOperation &&
      checkpoint.claimToken.isNone)
    ⟨"checkpoint_status_invalid",
      "running checkpoint with ambiguity needs an active recovery claim"⟩
  refuse (checkpoint.terminalResult.isSome && checkpoint.journals.any (·.isOpen))
    ⟨"checkpoint_status_invalid", "terminal checkpoint cannot retain active journals"⟩

/-- The checkpoint status of a terminal result. -/
def agentStatusMatchesCheckpoint : AgentStatus → CheckpointStatus → Bool
  | .pending, .pending | .running, .running | .waitUser, .waitUser
  | .completed, .completed | .failed, .failed | .maxCycles, .maxCycles
  | .reconciliationRequired, .reconciliationRequired | .deferred, .deferred
  | .hostInteraction, .hostInteraction => true
  | _, _ => false

def validateTerminalResult (checkpoint : Checkpoint) : CheckpointResult Unit := do
  if let some value := checkpoint.terminalResult then do
    value.value.validateIJson "terminal_result"
    let result ← withContext "checkpoint_status_invalid"
      "terminal_result is not the current AgentResult shape: " value.read
    refuse (!agentStatusMatchesCheckpoint result.status checkpoint.status)
      ⟨"checkpoint_status_invalid", "terminal result status must match checkpoint status"⟩
    refuse (result.checkpointKey.any (· != checkpoint.checkpointKey))
      ⟨"checkpoint_status_invalid", "terminal result checkpoint_key must match checkpoint"⟩
    refuse (result.tokenUsage.modelCalls != checkpoint.modelCalls)
      ⟨"checkpoint_status_invalid",
        "terminal result model-call ledger does not match checkpoint"⟩

def validateCheckpoint (checkpoint : Checkpoint) : CheckpointResult Unit := do
  validateHistory checkpoint
  validateDefinition checkpoint
  validateIdentity checkpoint
  validateClaim checkpoint
  validateTerminalStatus checkpoint
  validateInteraction checkpoint
  validateJournals checkpoint
  validateExtensions checkpoint
  validateOutbox [] checkpoint.eventOutbox
  validateModelJournalAccounting checkpoint
  validateSharedState checkpoint
  validateLifecycle checkpoint
  validateTerminalResult checkpoint

/-- The only outbox a new checkpoint may have: none, or its own creation event. -/
def hasOnlyCreationEvent (checkpoint : Checkpoint) : Bool :=
  match checkpoint.eventOutbox with
  | [] => true
  | [entry] =>
      entry.state == "pending" && entry.cursor.isNone &&
        eventType entry.event = some "checkpoint_created" &&
        (entry.event.get? "cycle_index" >>= Json.asU64?) = some 0 &&
        (entry.event.get? "checkpoint_key" >>= Json.asStr?) = some checkpoint.checkpointKey &&
        (entry.event.get? "resume_attempt" >>= Json.asU64?) = some 1
  | _ => false

def validateCheckpointCreation (checkpoint : Checkpoint) : CheckpointResult Unit := do
  validateCheckpoint checkpoint
  let invalid (message : String) : CheckpointError := ⟨"checkpoint_initial_invalid", message⟩
  refuse (checkpoint.revision != 0) (invalid "new checkpoints must start at revision zero")
  refuse (checkpoint.resumeAttempt != 1)
    (invalid "new checkpoints must start at resume_attempt one")
  refuse (checkpoint.history != {})
    (invalid "new checkpoints cannot reference archived history")
  refuse
    (checkpoint.claimToken.isSome || checkpoint.claimedCycle.isSome ||
      checkpoint.leaseExpiresAtMs.isSome)
    (invalid "new checkpoints must not carry an execution claim")
  refuse
    (checkpoint.status.isTerminal || checkpoint.terminalResult.isSome ||
      checkpoint.terminalAcknowledged)
    (invalid "new checkpoints must be non-terminal")
  refuse
    (checkpoint.cancelRequested || checkpoint.activeHostInteraction.isSome ||
      checkpoint.suspendedOrigin.isSome || checkpoint.eventCursor.isSome ||
      !checkpoint.cycles.isEmpty || !checkpoint.modelCalls.isEmpty ||
      !hasOnlyCreationEvent checkpoint || !checkpoint.modelCallJournal.isEmpty ||
      !checkpoint.toolJournal.isEmpty)
    (invalid "new checkpoints must not carry persisted lifecycle state")

end

end VvAgent
