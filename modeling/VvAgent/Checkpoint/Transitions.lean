import VvAgent.Checkpoint.Deferred

/-!
The transitions of one checkpoint: taking a claim, the writes of the claim's owner
(progress, tool receipt, suspension, commit, finalization), event delivery and the
acknowledgement of a terminal result. Each returns the record to store, or `none` when
the write does not apply; `validate_checkpoint` is the last step of every one.
-/

namespace VvAgent
open Lib Lib.Outcome

/-- Whether a checkpoint may be claimed. A lease that has not run out is never given to a
second claimer, and an expired one only for recovery. -/
def claimCandidate (checkpoint : Checkpoint) (cycleIndex nowMs : Nat) (claimMode : ClaimMode) :
    CheckpointResult Bool := do
  refuse (cycleIndex == 0 || maxWireInteger < cycleIndex)
    ⟨"checkpoint_claim_invalid", "claimed cycle must be positive and JSON-safe"⟩
  refuse (maxWireInteger < nowMs)
    ⟨"checkpoint_claim_invalid", "now_ms is outside the JSON-safe range"⟩
  return checkpoint.terminalResult.isNone && !checkpoint.status.isTerminal &&
    (checkpoint.status = .running || checkpoint.status = .reconciliationRequired) &&
    checkpoint.cycleIndex + 1 = cycleIndex &&
    (claimMode = .recovery ||
      !(checkpoint.status = .reconciliationRequired || checkpoint.hasAmbiguousOperation)) &&
    checkpoint.leaseExpiresAtMs.all fun expiry => expiry ≤ nowMs && claimMode = .recovery

/-- The next value of a 64-bit counter, or an error. -/
def nextResumeAttempt (resumeAttempt : Nat) : CheckpointResult Nat :=
  require (checkedAdd resumeAttempt 1)
    ⟨"checkpoint_resume_attempt_invalid", "resume_attempt overflow"⟩

def applyClaim (checkpoint : Checkpoint) (cycleIndex : Nat) (claimToken : String)
    (leaseExpiresAtMs : Nat) (claimMode : ClaimMode) : CheckpointResult Checkpoint := do
  refuse (isBlank claimToken || maxWireInteger < leaseExpiresAtMs)
    ⟨"checkpoint_claim_invalid", "claim token and lease must be non-empty and JSON-safe"⟩
  let revision ← nextRevision checkpoint.revision
  let resumeAttempt ←
    match claimMode with
    | .recovery => nextResumeAttempt checkpoint.resumeAttempt
    | .continue => .ok checkpoint.resumeAttempt
  return { checkpoint with
    revision, resumeAttempt
    status := .running
    claimToken := some claimToken
    claimedCycle := some cycleIndex
    leaseExpiresAtMs := some leaseExpiresAtMs }

/-- Whether a snapshot is an extension of the stored record: same definition and same
history, committed cycles untouched, and nothing new outside the active cycle. -/
def checkpointDefinitionMatches (current snapshot : Checkpoint) : Bool :=
  let committed := current.cycles.takeWhile fun cycle => cycle.index.toNat ≤ current.cycleIndex
  let activeCycle := current.cycleIndex + 1
  current.schemaVersion == snapshot.schemaVersion &&
    current.runDefinitionSchema == snapshot.runDefinitionSchema &&
    current.checkpointKey == snapshot.checkpointKey && current.taskId == snapshot.taskId &&
    current.rootRunId == snapshot.rootRunId && current.traceId == snapshot.traceId &&
    current.runDefinitionDigest == snapshot.runDefinitionDigest &&
    current.runDefinition == snapshot.runDefinition &&
    current.resumeAttempt == snapshot.resumeAttempt &&
    current.terminalAcknowledged == snapshot.terminalAcknowledged &&
    current.history == snapshot.history &&
    current.modelCalls.isPrefixOf snapshot.modelCalls &&
    ((snapshot.modelCalls.drop current.modelCalls.length).all fun record =>
      record.cycleIndex.toNat = activeCycle) &&
    committed.isPrefixOf snapshot.cycles &&
    (snapshot.cycles.drop committed.length).all fun cycle => cycle.index.toNat = activeCycle

/-- The fence of the owner's writes: token, revision, cycle, key and definition. -/
def claimMatches (current snapshot : Checkpoint) (claimToken : String)
    (expectedRevision : Nat) : Bool :=
  current.revision == expectedRevision && snapshot.revision == expectedRevision &&
    current.claimToken == some claimToken && current.claimedCycle == snapshot.claimedCycle &&
    current.checkpointKey == snapshot.checkpointKey && current.terminalResult.isNone &&
    checkpointDefinitionMatches current snapshot

section
variable [Runtime]

/-- The record a claim stores, or `none` when the checkpoint is not free. -/
def prepareClaim (current : Checkpoint) (cycleIndex : Nat) (claimToken : String)
    (leaseExpiresAtMs nowMs : Nat) (claimMode : ClaimMode) :
    CheckpointResult (Option Checkpoint) := do
  if ← claimCandidate current cycleIndex nowMs claimMode then do
    let claimed ← applyClaim current cycleIndex claimToken leaseExpiresAtMs claimMode
    validateCheckpoint claimed
    return some claimed
  else return none

def appendAllOnce (outbox : List EventOutboxEntry) :
    List EventOutboxEntry → CheckpointResult (List EventOutboxEntry)
  | [] => .ok outbox
  | candidate :: rest => do
      let extended ← appendEventOutboxOnce outbox candidate
      appendAllOnce extended rest

/-- What a snapshot never overrides: a cancel request, the stored events and the delivery
cursor. -/
def mergeAuthoritativeFields (current snapshot : Checkpoint) : CheckpointResult Checkpoint := do
  let eventOutbox ← appendAllOnce current.eventOutbox snapshot.eventOutbox
  return { snapshot with
    cancelRequested := snapshot.cancelRequested || current.cancelRequested
    eventOutbox
    eventCursor := current.eventCursor }

def prepareProgress (current snapshot : Checkpoint) (claimToken : String)
    (expectedRevision : Nat) : CheckpointResult (Option Checkpoint) :=
  if claimMatches current snapshot claimToken expectedRevision then do
    let claimed :=
      { snapshot with
        claimToken := current.claimToken
        claimedCycle := current.claimedCycle
        leaseExpiresAtMs := current.leaseExpiresAtMs }
    let merged ← mergeAuthoritativeFields current claimed
    let revision ← nextRevision expectedRevision
    let updated := { merged with revision }
    validateCheckpoint updated
    return some updated
  else .ok none

def unknownToolObservation (entry : OperationJournalEntry) : ResumeObservation where
  operationId := entry.operationId
  operationKind := .tool
  cycleIndex := entry.cycleIndex
  state := .ambiguous
  risk := "unknown_tool_side_effect"
  idempotencySupport := entry.idempotencySupport

/-- The identity of one tool call, as the caller of a receipt states it. -/
structure ToolReceiptTarget where
  operationId : String
  attempt : Nat
  toolCallId : String
  requestDigest : String
  claimedCycle : Nat
  deriving DecidableEq

/-- An entry of the cycle under the identity of a receipt. -/
def ToolReceiptTarget.identifies (target : ToolReceiptTarget)
    (entry : OperationJournalEntry) : Bool :=
  entry.operationId == target.operationId && entry.attempt == target.attempt &&
    entry.toolCallId == some target.toolCallId && entry.requestDigest == target.requestDigest &&
    entry.cycleIndex == target.claimedCycle

/-- The entry a receipt can still close. -/
def ToolReceiptTarget.closes (target : ToolReceiptTarget) (entry : OperationJournalEntry) :
    Bool :=
  target.identifies entry && (entry.state = .started || entry.state = .ambiguous)

/-- The observation of an unknown outcome must be staged in the caller's snapshot. -/
def receiptObservation (checkpoint : Checkpoint) (entry : OperationJournalEntry)
    (target : ToolReceiptTarget) (result : ToolExecutionResult) :
    CheckpointResult (Option ResumeObservation) :=
  if result.errorCode = some "tool_outcome_unknown" then do
    let expected := unknownToolObservation entry
    let source := checkpoint.toolJournal.find? fun source =>
      source.kind == entry.kind && target.identifies source && source.state == .ambiguous
    refuse ((source.bind (·.resumeObservation)) != some expected)
      ⟨"checkpoint_journal_integrity_mismatch",
        "tool outcome observation does not match the authoritative operation"⟩
    return some expected
  else .ok none

/-- The journal entry after a definitive result. -/
def closeWithResult (entry : OperationJournalEntry) (identityKey resultDigest : String)
    (observation : Option ResumeObservation) (result : ToolExecutionResult) :
    OperationJournalEntry :=
  { entry with
    identityKey := some identityKey
    resultDigest := some resultDigest
    deferredHandle := none
    resumeObservation := observation
    state := if result.status = .success then .succeeded else .failed
    result := some result.toDict
    error :=
      if result.status = .success then none else some (operationErrorFromToolResult result) }

def prepareToolReceipt (clock : Clock) (current checkpoint : Checkpoint)
    (target : ToolReceiptTarget) (result : ToolExecutionResult) (claimToken : String)
    (expectedRevision : Nat) : CheckpointResult (Option Checkpoint) := do
  refuse
    (isBlank claimToken || current.claimToken.isNone || checkpoint.claimToken.isNone)
    ⟨"checkpoint_claim_required", "record_tool_receipt requires an active claim"⟩
  refuse
    (current.claimToken != some claimToken || checkpoint.claimToken != some claimToken ||
      current.claimedCycle != some target.claimedCycle ||
      checkpoint.claimedCycle != some target.claimedCycle)
    ⟨"checkpoint_claim_conflict",
      "record_tool_receipt claim does not match the active owner"⟩
  refuse (current.revision != expectedRevision || checkpoint.revision != expectedRevision)
    ⟨"checkpoint_revision_conflict", "record_tool_receipt expected revision is stale"⟩
  if current.status ≠ .running ∨ current.terminalResult.isSome ∨
      ¬checkpointDefinitionMatches current checkpoint then
    .ok none
  else
    match current.toolJournal.find? target.closes with
    | none => .ok none
    | some entry => do
        validateDefinitiveResult result
        let identityKey ← toolReceiptIdentityKey current.checkpointKey target.operationId
          target.attempt target.toolCallId target.requestDigest
        let digest ← toolResultDigest result
        let observation ← receiptObservation checkpoint entry target result
        let closed := closeWithResult entry identityKey digest observation result
        closed.validate
        let updated :=
          { current with
            toolJournal := replaceFirst target.closes closed current.toolJournal }
        let event ← receiptEvent clock updated closed result
        let eventOutbox ← appendAllOnce (updated.eventOutbox ++ [event]) checkpoint.eventOutbox
        let revision ← nextRevision expectedRevision
        let stored := { updated with eventOutbox, revision }
        validateCheckpoint stored
        return some stored

/-- Give the claim back with an ambiguous operation on record. -/
def prepareSuspend (current snapshot : Checkpoint) (claimToken : String)
    (expectedRevision : Nat) : CheckpointResult (Option Checkpoint) :=
  if claimMatches current snapshot claimToken expectedRevision &&
      snapshot.hasAmbiguousOperation then do
    let merged ← mergeAuthoritativeFields current snapshot
    let released := { merged.releaseClaim with status := .reconciliationRequired }
    let revision ← nextRevision expectedRevision
    let updated := { released with revision }
    validateCheckpoint updated
    return some updated
  else .ok none

/-- States that keep a cycle from being committed. -/
def blocksCommit (entry : OperationJournalEntry) : Bool :=
  entry.state = .started || entry.state = .deferred || entry.state = .ambiguous

/-- Close the claimed cycle. -/
def prepareCommit (current snapshot : Checkpoint) (claimToken : String)
    (expectedRevision : Nat) : CheckpointResult (Option Checkpoint) :=
  if claimMatches current snapshot claimToken expectedRevision then do
    refuse (current.cancelRequested || snapshot.cancelRequested)
      ⟨"checkpoint_cycle_cancel_requested",
        "cancelled cycles must use claimed terminal finalization"⟩
    if current.claimedCycle = some snapshot.cycleIndex then do
      refuse (snapshot.journals.any blocksCommit)
        ⟨"checkpoint_cycle_unresolved",
          "cycle commit requires all operation journal entries to be closed"⟩
      validateModelJournalAccounting snapshot
      let closed :=
        { snapshot.releaseClaim with
          eventOutbox := snapshot.eventOutbox.filter fun entry => entry.state == "pending"
          modelCallJournal := []
          toolJournal := []
          cancelRequested := false }
      let revision ← nextRevision expectedRevision
      let updated := { closed with revision }
      validateCheckpoint updated
      return some updated
    else return none
  else .ok none

/-- The reason under which a terminal result closes what is still open. -/
def terminalClosureReason (checkpoint : Checkpoint) : Option String := do
  let result ← checkpoint.terminalResult
  let error ← result.value.get? "error"
  let code ← error.get? "code"
  match ← code.asStr? with
  | "operator_abort_with_unknown_outcome" => some "operator_abort"
  | "cancelled" | "cancelled_with_unknown_outcome" => some "cancelled"
  | "checkpoint_lease_lost" | "lease_lost" | "lease_lost_with_unknown_outcome" =>
      some "lease_lost"
  | _ => none

def toolCancelledError : OperationError where
  code := "tool_cancelled"
  message :=
    "Tool execution ended before a definitive receipt; external effect remains unknown."
  retryable := false

/-- One open tool entry, closed without a result. -/
def closeUnresolvedTool (checkpointKey : String) (entry : OperationJournalEntry) :
    CheckpointResult OperationJournalEntry := do
  let identityKey ← toolReceiptIdentityKey checkpointKey entry.operationId entry.attempt
    (entry.toolCallId.getD "") entry.requestDigest
  let closed :=
    { entry with
      identityKey := some identityKey
      resultDigest := none
      resumeObservation := some (unknownToolObservation entry)
      deferredHandle := none
      state := .failed
      result := none
      error := some toolCancelledError }
  closed.validate
  return closed

def closeToolJournal (checkpointKey : String) :
    List OperationJournalEntry → CheckpointResult (List OperationJournalEntry)
  | [] => .ok []
  | entry :: rest => do
      let closed ←
        if entry.isOpen then closeUnresolvedTool checkpointKey entry else .ok entry
      let later ← closeToolJournal checkpointKey rest
      return closed :: later

/-- The order of observations: those without a key first. -/
def observationKeyLe : Option (String × Nat × Nat) → Option (String × Nat × Nat) → Bool
  | none, _ => true
  | some _, none => false
  | some left, some right => ResumeObservation.keyLe left right

/-- `dedup_by`: of neighbours with one key, the first is kept. -/
def dedupBy {α κ : Type} [DecidableEq κ] (key : α → κ) : List α → List α
  | [] => []
  | a :: rest =>
      match dedupBy key rest with
      | [] => [a]
      | b :: later => if key a = key b then a :: later else a :: b :: later

/-- The observations of a terminal result with those of the closed tools, in order and
without repetition. -/
def mergeObservations {α : Type} (key : α → Option (String × Nat × Nat))
    (observations closures : List α) : List α :=
  let closedKeys := closures.map key
  let kept := observations.filter fun observation =>
    (key observation).isNone || !closedKeys.contains (key observation)
  dedupBy key
    ((kept ++ closures).mergeSort fun left right => observationKeyLe (key left) (key right))

/-- `observation_key` of a JSON value. -/
def observationKey (value : Json) : Option (String × Nat × Nat) := do
  let operationId ← value.get? "operation_id" >>= Json.asStr?
  let kind ← value.get? "operation_kind" >>= Json.asStr? >>= OperationKind.parse
  let cycleIndex ← value.get? "cycle_index" >>= Json.asU64?
  return (operationId, ResumeObservation.kindRank kind, cycleIndex)

/-- The observations a terminal result carries. -/
def TerminalValue.hasObservations : TerminalValue → Bool
  | .decoded result => !result.resumeObservations.isEmpty
  | .foreign value =>
      (value.get? "resume_observations" >>= Json.asArray?).any (!·.isEmpty)

/-- A terminal result after the observations of the closed tools are written into it. -/
def TerminalValue.observe (closures : List ResumeObservation) : TerminalValue → TerminalValue
  | .decoded result =>
      .decoded { result with
        resumeObservations :=
          mergeObservations (fun observation => some observation.key)
            result.resumeObservations closures }
  | .foreign (.obj members) =>
      let observations := (members.lookup "resume_observations" >>= Json.asArray?).getD []
      let merged := mergeObservations observationKey observations
        (closures.map ResumeObservation.toValue)
      let edited := Json.obj (insertMember "resume_observations" (.arr merged) members)
      match Runtime.recognizeResult edited with
      | some result => .decoded result
      | none => .foreign edited
  | .foreign value => .foreign value

/-- An event after which a run has ended. -/
def isTerminalEvent (entry : EventOutboxEntry) : Bool :=
  match eventType entry.event with
  | some "run_cancelled" | some "run_completed" | some "run_failed" => true
  | some "run_state_changed" =>
      (entry.event.get? "state" >>= Json.asStr?).any (· != "running")
  | _ => false

/-- Insert an entry before the first one that satisfies `p`, else at the end. -/
def insertBefore {α : Type} (p : α → Bool) (entry : α) : List α → List α
  | [] => [entry]
  | a :: rest => if p a then entry :: a :: rest else a :: insertBefore p entry rest

/-- Add an event to the outbox once, ahead of the events that end the run. -/
def appendEventOnce (checkpoint : Checkpoint) (eventId : String) (event : Json) :
    CheckpointResult Checkpoint := do
  let entry ← EventOutboxEntry.pending eventId event
  let extended ← appendEventOutboxOnce checkpoint.eventOutbox entry
  if extended.length = checkpoint.eventOutbox.length then return checkpoint
  else return { checkpoint with
    eventOutbox := insertBefore isTerminalEvent entry checkpoint.eventOutbox }

/-- A 64-bit cycle as the 32-bit cycle of an event. -/
def eventCycle (cycle : Nat) (message : String) : CheckpointResult UInt32 := do
  refuse (UInt32.size ≤ cycle) ⟨"checkpoint_cycle_invalid", message⟩
  return UInt32.ofNat cycle

/-- Close every open tool entry, record the aborted cycle and carry the observations into
the terminal result. -/
def closeUnresolvedTools (clock : Clock) (checkpoint : Checkpoint) (reason : String) :
    CheckpointResult Checkpoint := do
  let logicalCycle := checkpoint.claimedCycle.getD (checkpoint.cycleIndex + 1)
  refuse (logicalCycle == 0 || maxWireInteger < logicalCycle)
    ⟨"checkpoint_cycle_invalid", "logical cycle is outside the JSON-safe range"⟩
  let toolJournal ← closeToolJournal checkpoint.checkpointKey checkpoint.toolJournal
  let opened := checkpoint.toolJournal.filter (·.isOpen)
  let closed := { checkpoint with toolJournal }
  let announced ←
    if !opened.isEmpty || checkpoint.terminalResult.any (·.hasObservations) then do
      let cycle ← eventCycle (logicalCycle - 1) "cycle event cycle is too large"
      let eventId := "evt_cycle_aborted_" ++ reason
      let event ← checkpointEvent clock closed (some cycle) eventId
        (.cycleAborted logicalCycle reason)
      appendEventOnce closed eventId event.toValue
    else .ok closed
  return { announced with
    terminalResult :=
      announced.terminalResult.map (·.observe (opened.map unknownToolObservation)) }

/-- Outbox events that outlive the terminal write. -/
def retainedAtTerminal (entry : EventOutboxEntry) : Bool :=
  entry.state == "pending" ||
    ["tool_call_completed", "run_state_changed", "run_cancelled", "run_failed",
      "cycle_aborted"].any fun kind => eventType entry.event = some kind

/-- A terminal snapshot after the closure its result calls for: the cycle that was under
way did not happen, and its open operations are closed. -/
def closeForReason (clock : Clock) (snapshot : Checkpoint) :
    Option String → CheckpointResult Checkpoint
  | none => .ok snapshot
  | some reason => do
      let closed ← closeUnresolvedTools clock
        { snapshot with
          cycleIndex := (snapshot.claimedCycle.map (· - 1)).getD snapshot.cycleIndex }
        reason
      return { closed with modelCallJournal := [] }

def prepareTerminalSnapshot (clock : Clock) (snapshot : Checkpoint) (expectedRevision : Nat) :
    CheckpointResult Checkpoint := do
  refuse snapshot.terminalResult.isNone
    ⟨"checkpoint_terminal_result_required", "finalize requires terminal_result"⟩
  refuse (!snapshot.status.isTerminal)
    ⟨"checkpoint_status_invalid", "finalize requires a terminal status"⟩
  let closureReason := terminalClosureReason snapshot
  let closed ← closeForReason clock snapshot closureReason
  validateModelJournalAccounting closed
  let revision ← nextRevision expectedRevision
  let updated :=
    { closed.releaseClaim with
      eventOutbox := closed.eventOutbox.filter retainedAtTerminal
      modelCallJournal := if closureReason.isNone then [] else closed.modelCallJournal
      toolJournal := if closureReason.isNone then [] else closed.toolJournal
      revision }
  validateCheckpoint updated
  return updated

/-- Finalization without a claim, for a checkpoint nobody holds. -/
def prepareFinalize (clock : Clock) (current snapshot : Checkpoint) (expectedRevision : Nat) :
    CheckpointResult (Option Checkpoint) :=
  if current.revision ≠ expectedRevision ∨ snapshot.revision ≠ expectedRevision ∨
      ¬checkpointDefinitionMatches current snapshot ∨ current.claimToken.isSome ∨
      current.terminalResult.isSome then
    .ok none
  else do
    let merged ← mergeAuthoritativeFields current snapshot
    let updated ← prepareTerminalSnapshot clock merged expectedRevision
    return some updated

def prepareFinalizeClaimed (clock : Clock) (current snapshot : Checkpoint)
    (claimToken : String) (expectedRevision : Nat) : CheckpointResult (Option Checkpoint) :=
  if claimMatches current snapshot claimToken expectedRevision then do
    let merged ← mergeAuthoritativeFields current snapshot
    let updated ← prepareTerminalSnapshot clock merged expectedRevision
    return some updated
  else .ok none

/-- An outbox entry after its delivery. -/
def EventOutboxEntry.delivered (entry : EventOutboxEntry) (cursor : EventCursor) :
    EventOutboxEntry :=
  { entry with state := "delivered", cursor := some cursor.toValue }

def prepareEventDelivery (current : Checkpoint) (claimToken : Option String)
    (expectedRevision : Nat) (eventId payloadDigest : String) (cursor : EventCursor) :
    CheckpointResult (Option Checkpoint) := do
  refuse (isBlank eventId) ⟨"checkpoint_event_outbox_invalid", "event_id must be non-empty"⟩
  validateSha256 payloadDigest "event_outbox.payload_digest"
  cursor.validate
  refuse (cursor.lastEventId != some eventId)
    ⟨"checkpoint_event_cursor_invalid",
      "event cursor last_event_id must match the delivered event"⟩
  if current.revision ≠ expectedRevision ∨ current.claimToken ≠ claimToken then return none
  else
    match current.eventOutbox.filter fun entry => entry.eventId == eventId with
    | [entry] =>
        if entry.state ≠ "pending" ∨ entry.payloadDigest ≠ payloadDigest then return none
        else do
          let revision ← nextRevision expectedRevision
          let updated :=
            { current with
              eventOutbox :=
                replaceFirst (fun entry => entry.eventId == eventId) (entry.delivered cursor)
                  current.eventOutbox
              eventCursor := some cursor
              revision }
          validateCheckpoint updated
          return some updated
    | _ => return none

def prepareAck (current : Checkpoint) (expectedRevision : Nat) :
    CheckpointResult (Option Checkpoint) :=
  if current.revision ≠ expectedRevision ∨ current.terminalResult.isNone ∨
      current.claimToken.isSome ∨ current.terminalAcknowledged then
    .ok none
  else do
    let revision ← nextRevision expectedRevision
    let updated := { current with terminalAcknowledged := true, revision }
    validateCheckpoint updated
    return some updated

/-- The journal entry a deferred handle names. -/
def DeferredToolHandle.names (handle : DeferredToolHandle) (entry : OperationJournalEntry) :
    Bool :=
  entry.operationId == handle.operationId && entry.attempt == handle.attempt &&
    entry.requestDigest == handle.requestDigest

/-- The journal entry of a deferred tool after its definitive result. -/
def resolvedEntry (entry : OperationJournalEntry) (identityKey resultDigest : String)
    (result : ToolExecutionResult) : OperationJournalEntry :=
  let resolved :=
    { entry with
      identityKey := some identityKey
      resultDigest := some resultDigest
      deferredHandle := none
      result := some result.toDict }
  if result.status = .success then { resolved with state := .succeeded }
  else
    { resolved with
      state := .failed
      error := some (operationErrorFromToolResult result)
      resumeObservation :=
        if result.errorCode = some "tool_outcome_unknown" then
          some (unknownToolObservation entry)
        else entry.resumeObservation }

/-- What is known about a handle without a receipt before its entry is resolved: the entry,
or an answer that does not write. -/
def deferredTarget (checkpoint : Checkpoint) (handle : DeferredToolHandle)
    (result : ToolExecutionResult) :
    CheckpointResult (DeferredResolveDecision ⊕ OperationJournalEntry) := do
  let stale (message : String) : CheckpointError := ⟨"deferred_resolution_stale", message⟩
  let entry ← require (checkpoint.toolJournal.find? handle.names)
    (stale "no active journal matches the deferred handle")
  if entry.state = .started then
    return .inl (.notAdmitted "deferred_resolution_not_admitted")
  else if entry.state = .ambiguous then return .inl .reconciliationRequired
  else do
    refuse checkpoint.claimToken.isSome
      ⟨"deferred_checkpoint_claimed",
        "deferred resolution is blocked while the checkpoint is claimed"⟩
    refuse (entry.state != .deferred || entry.deferredHandle != some handle)
      (stale "deferred handle is stale or no longer active")
    refuse (entry.toolCallId != some result.toolCallId)
      (stale "deferred result tool_call_id does not match the journal")
    return .inr entry

/-- The record after one more deferred result, with its receipt. The status follows from
what is left to wait for; a suspended checkpoint stays suspended. -/
def resolveEntry (clock : Clock) (checkpoint : Checkpoint) (handle : DeferredToolHandle)
    (entry : OperationJournalEntry) (result : ToolExecutionResult) :
    CheckpointResult (Checkpoint × DeferredReceipt) := do
  let event ← receiptEvent clock checkpoint entry result
  let identityKey ← toolReceiptIdentityKey checkpoint.checkpointKey entry.operationId
    entry.attempt (entry.toolCallId.getD "") entry.requestDigest
  let digest ← toolResultDigest result
  let resolved :=
    { checkpoint with
      toolJournal :=
        replaceFirst handle.names (resolvedEntry entry identityKey digest result)
          checkpoint.toolJournal
      eventOutbox := checkpoint.eventOutbox ++ [event] }
  let revision ← nextRevision checkpoint.revision
  let updated :=
    { resolved with
      status :=
        if checkpoint.status = .suspended then .suspended
        else if resolved.deferredEntries.isEmpty then .running
        else .deferred
      revision }
  validateCheckpoint updated
  let receipt ← DeferredReceipt.new handle result event.eventId event.payloadDigest
  return (updated, receipt)

end

end VvAgent
