import VvAgent.Checkpoint.Controller

/-!
What a question to the host and a controller command do to one checkpoint. A command is
guarded first and then transformed; the guards of the stores differ in their order and are
kept with the stores, the five transformations are shared. A store supplies the lookup of
host-interaction records.
-/

namespace VvAgent
open Lib Lib.Outcome

section
variable [Runtime]

def hostConflict (message : String) : CheckpointError := ⟨"host_interaction_conflict", message⟩

/-- The result of the tool call that asked the host, from a completed cycle. -/
def hostToolResult (snapshot : Checkpoint) (request : HostInteractionRequest) :
    CheckpointResult ToolExecutionResult := do
  let cycle ← require
    (snapshot.cycles.find? fun cycle => cycle.index.toNat == request.logicalCycle)
    (hostConflict "host interaction cycle is missing")
  refuse (cycle.toolCalls.map (·.id) != cycle.toolResults.map (·.toolCallId))
    (hostConflict "host interaction cycle has incomplete tool results")
  let result ← require
    (cycle.toolResults.find? fun result => result.toolCallId == request.toolCallId)
    (hostConflict "host interaction result is missing from cycle")
  (ToolCallOutcome.hostInteraction result request).validate
  return result

def validateHostToolReceiptReplay (current : Checkpoint) (request : HostInteractionRequest)
    (context : HostInteractionAdmissionContext) : CheckpointResult Unit := do
  refuse (current.revision ≤ context.expectedRevision)
    ⟨"host_interaction_stale", "host interaction replay revision is stale"⟩
  if let some snapshot := context.cycleSnapshot then do
    let stored ← hostToolResult current request
    let offered ← hostToolResult snapshot request
    refuse (stored != offered) (hostConflict "host interaction tool receipt conflicts")

def validateHostRecoveryCycle (current : Checkpoint) (request : HostInteractionRequest) :
    CheckpointResult Unit :=
  if checkedAdd current.cycleIndex 1 = some request.logicalCycle then .ok ()
  else do
    refuse (current.cycleIndex != request.logicalCycle)
      ⟨"host_interaction_recovery_stale", "logical cycle does not match checkpoint"⟩
    let _ ← hostToolResult current request

/-- The tool journal entry behind a host interaction. -/
def HostInteractionRequest.concerns (request : HostInteractionRequest)
    (entry : OperationJournalEntry) : Bool :=
  entry.operationId == request.operationId && entry.toolCallId == some request.toolCallId &&
    entry.cycleIndex == request.logicalCycle

/-- Close the cycle that asked the host: the result of the asking tool goes through its
receipt, everything else comes from the completed snapshot. -/
def prepareHostInteractionCycle (clock : Clock) (current : Checkpoint)
    (request : HostInteractionRequest) (context : HostInteractionAdmissionContext) :
    CheckpointResult Checkpoint := do
  refuse current.cancelRequested
    ⟨"checkpoint_cancel_requested", "cancelled run cannot enter host interaction"⟩
  match context.cycleSnapshot with
  | none => do
      refuse (!current.modelCallJournal.isEmpty || !current.toolJournal.isEmpty)
        (hostConflict "host interaction requires the completed cycle")
      return current
  | some completed => do
      refuse
        (!checkpointDefinitionMatches current completed ||
          completed.checkpointKey != current.checkpointKey ||
          completed.revision != current.revision ||
          completed.cycles.getLast?.map (·.index.toNat) != some request.logicalCycle)
        ⟨"host_interaction_stale", "host interaction cycle snapshot is stale"⟩
      let result ← hostToolResult completed request
      let entry ← require (current.toolJournal.find? request.concerns)
        (hostConflict "host interaction tool operation is missing")
      let receipt ← prepareToolReceipt clock current current
        { operationId := entry.operationId
          attempt := entry.attempt
          toolCallId := request.toolCallId
          requestDigest := entry.requestDigest
          claimedCycle := context.claimedCycle }
        result context.claimToken context.expectedRevision
      let updated ← require receipt
        (hostConflict "host interaction tool receipt was not admitted")
      refuse
        (updated.journals.any fun entry => entry.state != .succeeded && entry.state != .failed)
        (hostConflict "host interaction cannot commit unresolved operations")
      return { updated with
        messages := completed.messages
        cycles := completed.cycles
        sharedState := completed.sharedState
        extensionState := completed.extensionState
        budgetUsage := completed.budgetUsage
        cycleIndex := request.logicalCycle
        modelCallJournal := []
        toolJournal := [] }

def recoveryLeaseMs : Nat := 5 * 60 * 1000

/-- The notification that goes out with a question. -/
def notificationFor (checkpointKey recordId : String) (request : HostInteractionRequest) :
    CheckpointResult HostInteractionNotificationRecord := do
  let payload : HostInteractionNotificationPayload := {
    schemaVersion := hostInteractionNotificationSchema
    notificationId := notificationIdFor recordId
    recordId
    interactionId := request.interactionId
    logicalCycle := request.logicalCycle
    status := "host_interaction"
    waitReason := "host_interaction"
    prompt := request.prompt }
  payload.validate
  let payloadDigest ← payload.digest
  let notification : HostInteractionNotificationRecord :=
    { notificationId := payload.notificationId, checkpointKey, recordId, payload, payloadDigest }
  notification.validate
  return notification

/-- The event of a host interaction, under an id made of the record's. -/
def hostEvent (clock : Clock) (checkpoint : Checkpoint) (cycleIndex : UInt32) (eventId : String)
    (payload : RunEventPayload) : CheckpointResult RunEvent :=
  withCode "event_identity_conflict"
    ((RunEvent.new (clock eventId) checkpoint.rootRunId checkpoint.traceId "vv-agent"
      (some cycleIndex) payload).withEventId eventId)

/-- The record of a checkpoint that has put a question to the host. -/
def prepareHostInteraction (clock : Clock) (current : Checkpoint)
    (request : HostInteractionRequest) (context : HostInteractionAdmissionContext)
    (recordId : String) : CheckpointResult Checkpoint := do
  refuse (UInt32.size ≤ request.logicalCycle)
    ⟨"host_interaction_cycle_invalid", "logical cycle does not fit the RunEvent cycle index"⟩
  let event ← hostEvent clock current (UInt32.ofNat (request.logicalCycle - 1))
    ("host-interaction-requested-" ++ recordId)
    (.hostInteractionRequested current.checkpointKey current.resumeAttempt request)
  let cycle ← prepareHostInteractionCycle clock current request context
  let asked :=
    { cycle.releaseClaim with
      status := .hostInteraction
      activeHostInteraction := some request }
  let revision ← nextRevision current.revision
  let entry ← EventOutboxEntry.pending event.eventId event.toValue
  let updated := { asked with revision, eventOutbox := asked.eventOutbox ++ [entry] }
  validateCheckpoint updated
  return updated

def recoveryStale (message : String) : CheckpointError :=
  ⟨"host_interaction_recovery_stale", message⟩

/-- The record of a checkpoint whose recovery worker has taken the claim together with the
host's answer. -/
def prepareConsume (clock : Clock) (current : Checkpoint) (record : HostInteractionRecord)
    (response : HostInteractionResponse) (envelope : HostInteractionRecoveryEnvelope)
    (nowMs : Nat) : CheckpointResult Checkpoint := do
  let claimToken :=
    "host-recovery:" ++ record.recordId ++ ":" ++ toString (envelope.resumeAttempt + 1)
  let claimedCycle ← require (checkedAdd current.cycleIndex 1)
    ⟨"checkpoint_cycle_invalid", "cycle index overflow"⟩
  validateHostRecoveryCycle current record.request
  let resumeAttempt ← require (checkedAdd envelope.resumeAttempt 1)
    ⟨"checkpoint_resume_attempt_overflow", "resume attempt overflow"⟩
  let revision ← nextRevision envelope.expectedRevision
  refuse (UInt32.size ≤ current.cycleIndex) (recoveryStale "logical cycle does not fit event")
  let event ← hostEvent clock current (UInt32.ofNat current.cycleIndex)
    ("host-interaction-response-consumed-" ++ record.recordId)
    (.hostInteractionResponseConsumed current.checkpointKey resumeAttempt
      { record.request with
        interactionId := record.interactionId
        logicalCycle := record.logicalCycle
        requestDigest := record.requestDigest }
      response.commandId response.responseDigest revision)
  let entry ← EventOutboxEntry.pending event.eventId event.toValue
  let updated :=
    { current with
      messages := current.messages ++ [Message.user response.response.content]
      resumeAttempt, revision
      claimToken := some claimToken
      claimedCycle := some claimedCycle
      leaseExpiresAtMs := some (min (nowMs + recoveryLeaseMs) (UInt64.size - 1))
      eventOutbox := current.eventOutbox ++ [entry] }
  validateCheckpoint updated
  return updated

/-- A record whose answer has been consumed. -/
def HostInteractionRecord.consumed (record : HostInteractionRecord) (revision : Nat) :
    HostInteractionRecord :=
  { record with
    state := "consumed"
    consumedRevision := some revision
    claimToken := none
    leaseExpiresAtMs := none }

/-- What the recovery worker is told. -/
def recoveryResult (kind : String) (checkpoint : Checkpoint) (record : HostInteractionRecord) :
    HostInteractionRecoveryResult where
  schemaVersion := hostInteractionRecoveryResultSchema
  kind := kind
  recordId := record.recordId
  checkpointRevision := some checkpoint.revision
  consumedRevision := record.consumedRevision
  claimMode := "recovery"
  resumeAttempt := some checkpoint.resumeAttempt
  injectionCount := 1
  checkpointExecutionClaimState :=
    if kind = "applied" ∨ checkpoint.claimToken.isSome then "retained" else "released"
  error := none

/-- The cycle an event of the controller names: the one that was committed last. -/
def controlEventCycle (checkpoint : Checkpoint) (payload : RunEventPayload) : Option UInt32 :=
  if UInt32.size ≤ checkpoint.cycleIndex then none
  else
    match payload with
    | .checkpointResumed _ _ => some (UInt32.ofNat checkpoint.cycleIndex)
    | _ =>
        if checkpoint.cycleIndex = 0 then none else some (UInt32.ofNat checkpoint.cycleIndex)

def controlEventKind : RunEventPayload → String
  | .runStateChanged _ => "run_state_changed"
  | .checkpointResumed _ _ => "checkpoint_resumed"
  | .runCancelled _ => "run_cancelled"
  | .runFailed _ => "run_failed"
  | _ => "control"

/-- What a terminal event carries of the result it announces. -/
def RunEvent.withResult (event : RunEvent) (result : AgentResult) : RunEvent :=
  let completed := event.withCompletionDetails result.completionReason result.completionToolName
    result.partialOutput
  let budgeted := completed.withBudgetDetails result.budgetUsage result.budgetExhaustion
  match result.errorCode with
  | none => budgeted
  | some code => budgeted.withMetadata "error_code" (.str code)

def appendControlEvent (clock : Clock) (checkpoint : Checkpoint) (commandId : String)
    (payload : RunEventPayload) (result : Option AgentResult) :
    CheckpointResult Checkpoint := do
  let eventId := "controller-" ++ commandId ++ "-" ++ controlEventKind payload
  let draft := RunEvent.new (clock eventId) checkpoint.rootRunId checkpoint.traceId "vv-agent"
    (controlEventCycle checkpoint payload) payload
  let detailed := (result.map draft.withResult).getD draft
  let event ← withCode "event_identity_conflict" (detailed.withEventId eventId)
  let entry ← EventOutboxEntry.pending eventId event.toValue
  return { checkpoint with eventOutbox := checkpoint.eventOutbox ++ [entry] }

/-- The id of the event that announces a cancel request. -/
def cancelEventId (commandId : String) : String :=
  "controller-" ++ commandId ++ "-run_state_changed"

def appendCancelRequestedEvent (clock : Clock) (checkpoint : Checkpoint) (commandId : String) :
    CheckpointResult Checkpoint := do
  let payload := RunEventPayload.runStateChanged "running"
  let draft := RunEvent.new (clock (cancelEventId commandId)) checkpoint.rootRunId
    checkpoint.traceId "vv-agent" (controlEventCycle checkpoint payload) payload
  let event ← withCode "event_identity_conflict"
    (draft.withCancelRequestedTransition.withEventId (cancelEventId commandId))
  let entry ← EventOutboxEntry.pending (cancelEventId commandId) event.toValue
  return { checkpoint with eventOutbox := checkpoint.eventOutbox ++ [entry] }

/-- The terminal result of a command that ends the run. -/
def controlResult (checkpoint : Checkpoint) (reason : CompletionReason)
    (error code : String) : AgentResult where
  status := .failed
  messages := checkpoint.messages
  cycles := checkpoint.cycles
  completionReason := some reason
  budgetUsage := checkpoint.budgetUsage
  checkpointKey := some checkpoint.checkpointKey
  error := some { code, message := error, retryable := false }
  errorCode := some code
  sharedState := checkpoint.sharedState
  tokenUsage := summarizeTaskTokenUsage checkpoint.modelCalls

end

namespace Checkpoint

/-- A claim whose lease has run out. -/
def claimExpired (checkpoint : Checkpoint) (nowMs : Nat) : Bool :=
  checkpoint.claimToken.isSome && checkpoint.leaseExpiresAtMs.any (· ≤ nowMs)

/-- A claim whose lease still runs. -/
def claimLive (checkpoint : Checkpoint) (nowMs : Nat) : Bool :=
  checkpoint.claimToken.isSome && !checkpoint.claimExpired nowMs

end Checkpoint

def commandError (code message : String) : CheckpointError :=
  ⟨"controller_command_" ++ code, message⟩

/-- The handle and the fence of a command against the stored record. -/
def guardCommandFence (current : Checkpoint) (command : ControllerCommand)
    (record : String) : CheckpointResult Unit := do
  refuse
    (current.rootRunId != command.handle.runId || current.traceId != command.handle.traceId)
    (commandError "stale" ("controller handle does not match " ++ record))
  refuse
    (current.resumeAttempt != command.resumeAttempt ||
      current.revision != command.expectedRevision)
    (commandError "stale" ("controller fence does not match " ++ record))

def guardCommandTerminal (current : Checkpoint) : CheckpointResult Unit :=
  refuse (current.terminalResult.isSome || current.status.isTerminal)
    (commandError "terminal" "controller commands cannot mutate a terminal checkpoint")

/-- Only a cancel request reaches a checkpoint whose owner is alive. -/
def guardCommandClaim (current : Checkpoint) (command : ControllerCommandVariant)
    (nowMs : Nat) (message : String) : CheckpointResult Unit :=
  refuse (current.claimLive nowMs && command != .cancel) (commandError "claim_active" message)

def guardCommandAmbiguity (current : Checkpoint) (command : ControllerCommandVariant)
    (message : String) : CheckpointResult Unit :=
  refuse
    (current.hasAmbiguousOperation && command != .abort &&
      !(command == .cancel && current.claimToken.isSome))
    (commandError "ambiguity_requires_reconciliation" message)

def guardCommandDeferred (current : Checkpoint) (command : ControllerCommandVariant) :
    CheckpointResult Unit :=
  refuse
    ((current.status == .deferred || !current.deferredEntries.isEmpty) &&
      command != .suspend && command != .resume && command != .cancel)
    (commandError "deferred_pending" "deferred resolution is an authoritative barrier")

/-- A cancel or suspend command takes an expired claim away; a cancel counts as a recovery. -/
def releaseExpiredClaim (current : Checkpoint) (command : ControllerCommandVariant)
    (nowMs : Nat) : CheckpointResult Checkpoint :=
  if current.claimExpired nowMs && command == .cancel then do
    let resumeAttempt ← nextResumeAttempt current.resumeAttempt
    return { current.releaseClaim with resumeAttempt, cancelRequested := true }
  else if current.claimExpired nowMs && command == .suspend then .ok current.releaseClaim
  else .ok current

/-- What a command does: the record to store, the host-interaction record it rewrites, and
the wake it asks for. -/
structure CommandEffect where
  checkpoint : Checkpoint
  hostRecord : Option HostInteractionRecord := none
  wake : ControllerCommandWake := .none
  deriving DecidableEq

/-- The host interaction that a response can answer. -/
def answerableInteraction (current : Checkpoint) : Option HostInteractionRequest :=
  match current.status, current.activeHostInteraction, current.suspendedOrigin with
  | .hostInteraction, some request, _ => some request
  | .suspended, _, some origin =>
      if origin.status == "host_interaction" then origin.activeHostInteraction else none
  | _, _, _ => none

/-- How a store finds the record of a host interaction. -/
abbrev HostRecordLookup := HostInteractionRequest → CheckpointResult (Option HostInteractionRecord)

section
variable [Runtime]

/-- The record of a host interaction with its answer. -/
def HostInteractionRecord.answered (record : HostInteractionRecord)
    (response : HostInteractionResponse) (commandId : String) (resolvedRevision : Nat) :
    HostInteractionRecord :=
  { record with
    state := "resolved_pending"
    response := some response
    responseDigest := some response.responseDigest
    commandId := some commandId
    resolvedRevision := some resolvedRevision }

def applyHostResponse (lookup : HostRecordLookup) (missing : String)
    (current updated : Checkpoint) (command : ControllerCommand)
    (answer : HostResponseCommand) : CheckpointResult CommandEffect := do
  let request ← require (answerableInteraction current)
    (commandError "invalid_state" "no pending host interaction matches response")
  refuse
    (request.interactionId != answer.interactionId ||
      request.logicalCycle != answer.logicalCycle ||
      request.operationId != answer.operationId || request.toolCallId != answer.toolCallId ||
      request.requestDigest != answer.requestDigest)
    (commandError "stale" "host response identity does not match pending interaction")
  let found ← lookup request
  let record ← require found (commandError "stale" missing)
  refuse (record.state != "active" || record.request != request)
    (commandError "stale" "host interaction record is no longer active")
  let response ← HostInteractionResponse.new answer command.commandId
  let answered := record.answered response command.commandId (current.revision + 1)
  answered.validate
  if current.status = .hostInteraction then do
    let resumed :=
      { updated with
        status := .running
        activeHostInteraction := none
        revision := current.revision + 1 }
    validateCheckpoint resumed
    return {
      checkpoint := resumed
      hostRecord := some answered
      wake := .recovery answer.logicalCycle }
  else do
    let waiting :=
      { updated with
        status := .suspended
        activeHostInteraction := none
        suspendedOrigin := some (.hostInteraction request)
        revision := current.revision + 1 }
    validateCheckpoint waiting
    return { checkpoint := waiting, hostRecord := some answered }

/-- What a suspended checkpoint returns to. -/
def suspensionOrigin (current : Checkpoint) : CheckpointResult SuspendedOrigin :=
  match current.status with
  | .running => .ok .running
  | .deferred => .ok .deferred
  | .hostInteraction => do
      let request ← require current.activeHostInteraction
        (commandError "invalid_state" "host interaction status has no request")
      return .hostInteraction request
  | _ => .error (commandError "invalid_state" "suspend is not valid in the current state")

def applySuspend (clock : Clock) (current updated : Checkpoint) (command : ControllerCommand) :
    CheckpointResult CommandEffect := do
  let origin ← suspensionOrigin current
  let suspended :=
    { updated with
      status := .suspended
      activeHostInteraction := none
      suspendedOrigin := some origin
      revision := current.revision + 1 }
  let checkpoint ← appendControlEvent clock suspended command.commandId
    (.runStateChanged "suspended") none
  validateCheckpoint checkpoint
  return { checkpoint }

/-- The state a suspended checkpoint resumes in, and the wake that goes with it. A
question whose answer has arrived meanwhile is not asked again. -/
def resumeFrom (lookup : HostRecordLookup) (current updated : Checkpoint)
    (origin : SuspendedOrigin) : CheckpointResult (Checkpoint × ControllerCommandWake) :=
  match origin.status with
  | "deferred" =>
      if current.deferredEntries.isEmpty then
        .ok ({ updated with status := .running, suspendedOrigin := none },
          .recovery (current.cycleIndex + 1))
      else .ok ({ updated with status := .deferred, suspendedOrigin := none }, .none)
  | "running" =>
      .ok ({ updated with status := .running, suspendedOrigin := none },
        .recovery (current.cycleIndex + 1))
  | "host_interaction" => do
      let request ← require origin.activeHostInteraction
        (commandError "invalid_state" "host origin has no request")
      let record ← lookup request
      if record.any (·.state == "resolved_pending") then
        return ({ updated with status := .running, suspendedOrigin := none },
          .recovery request.logicalCycle)
      else
        return ({ updated with
          status := .hostInteraction
          activeHostInteraction := some request
          suspendedOrigin := none }, .none)
  | _ => .error (commandError "invalid_state" "unsupported suspended origin")

def applyResume (clock : Clock) (lookup : HostRecordLookup) (current updated : Checkpoint)
    (command : ControllerCommand) : CheckpointResult CommandEffect := do
  refuse (current.status != .suspended)
    (commandError "invalid_state" "resume requires suspended state")
  let origin ← require current.suspendedOrigin
    (commandError "invalid_state" "suspended checkpoint has no origin")
  let (resumed, wake) ← resumeFrom lookup current updated origin
  let checkpoint ← appendControlEvent clock { resumed with revision := current.revision + 1 }
    command.commandId (.checkpointResumed current.checkpointKey current.resumeAttempt) none
  validateCheckpoint checkpoint
  return { checkpoint, wake }

/-- End the run with a result of the controller's. -/
def terminateWith (clock : Clock) (current updated : Checkpoint) (commandId reason : String)
    (result : AgentResult) (ending : RunEventPayload) : CheckpointResult CommandEffect := do
  let failed :=
    { updated.releaseClaim with
      status := .failed
      activeHostInteraction := none
      suspendedOrigin := none
      terminalResult := some (.decoded result) }
  let closed ← closeUnresolvedTools clock failed reason
  let cleared := { closed with modelCallJournal := [], revision := current.revision + 1 }
  let changed ← appendControlEvent clock cleared commandId (.runStateChanged "failed") none
  let checkpoint ← appendControlEvent clock changed commandId ending (some result)
  validateCheckpoint checkpoint
  return { checkpoint }

/-- The result of a cancelled run. -/
def cancelResult (current : Checkpoint) : AgentResult :=
  controlResult current .cancelled "Operation was cancelled" "cancelled_with_unknown_outcome"

/-- A cancel command only leaves a request with a live owner; otherwise it ends the run. -/
def applyCancel (clock : Clock) (current updated : Checkpoint) (command : ControllerCommand)
    (nowMs : Nat) : CheckpointResult CommandEffect :=
  if current.claimLive nowMs then do
    let checkpoint ←
      if current.cancelRequested then .ok updated
      else
        appendCancelRequestedEvent clock { updated with cancelRequested := true }
          command.commandId
    validateCheckpoint checkpoint
    return { checkpoint }
  else
    terminateWith clock current updated command.commandId "cancelled" (cancelResult current)
      (.runCancelled "Operation was cancelled")

/-- The observation an abort leaves about an operation of unknown outcome. -/
def abortObservation (entry : OperationJournalEntry) : ResumeObservation where
  operationId := entry.operationId
  operationKind := entry.kind
  cycleIndex := entry.cycleIndex
  state := entry.state
  risk := "operator abort leaves the external operation outcome unknown"
  idempotencySupport := entry.idempotencySupport

/-- The result of an aborted run, with its first operation of unknown outcome. -/
def abortResult (current : Checkpoint) : AgentResult :=
  let ambiguous := current.journals.find? fun entry => entry.state == .ambiguous
  { controlResult current .failed "Operator accepted that the external outcome is unknown."
      "operator_abort_with_unknown_outcome" with
    resumeObservations := (ambiguous.map abortObservation).toList }

def applyAbort (clock : Clock) (current updated : Checkpoint) (command : ControllerCommand) :
    CheckpointResult CommandEffect := do
  refuse (current.status != .reconciliationRequired)
    (commandError "invalid_state" "abort requires reconciliation_required state")
  terminateWith clock current updated command.commandId "operator_abort" (abortResult current)
    (.runFailed "failed")

/-- The transformation of a command, after the guards. -/
def transformByCommand (clock : Clock) (lookup : HostRecordLookup) (missing : String)
    (current : Checkpoint) (command : ControllerCommand) (nowMs : Nat) :
    CheckpointResult CommandEffect := do
  let updated ← releaseExpiredClaim current command.command nowMs
  match command.command with
  | .hostInteractionResponse answer =>
      applyHostResponse lookup missing current updated command answer
  | .suspend => applySuspend clock current updated command
  | .resume => applyResume clock lookup current updated command
  | .cancel => applyCancel clock current updated command nowMs
  | .abort => applyAbort clock current updated command

end

/-- The receipt of an applied command. -/
def commandReceipt (command : ControllerCommand) (effect : CommandEffect) :
    ControllerCommandReceipt where
  schemaVersion := controllerCommandReceiptSchema
  commandId := command.commandId
  commandDigest := command.commandDigest
  handle := command.handle
  resumeAttempt := command.resumeAttempt
  expectedRevision := command.expectedRevision
  resultingRevision := effect.checkpoint.revision
  resultingStatus := effect.checkpoint.status.asStr
  outboxState := if effect.wake.action == "recovery_dispatch" then "pending" else "delivered"
  outboxAction := effect.wake.action
  outboxDestination := effect.wake.destination
  outboxAttempt := 0

end VvAgent
