import VvAgent.Checkpoint.Commands
import VvAgent.Checkpoint.History

/-!
The in-memory checkpoint store: its tables, and the operations of claim owners and of
providers of deferred results. Every operation runs under the store's lock, so it is one
step from the tables before it to the tables after it. An operation that fails before its
first write leaves the tables as they were.
-/

namespace VvAgent
open Lib Lib.Outcome

/-- The archived batches of one checkpoint, each read back from its canonical text, and the
ids of the model calls in them. -/
structure ArchivedHistory where
  payloads : List Json := []
  callIds : List String := []
  deriving DecidableEq

/-- The archive with one more batch, stored as `payload`. -/
def ArchivedHistory.append (archive : ArchivedHistory) (payload : Json)
    (batch : CheckpointHistoryBatch) : ArchivedHistory :=
  let archived := (batch.payload.get? "model_calls" >>= Json.asArray?).getD []
  { payloads := archive.payloads ++ [payload]
    callIds := archive.callIds ++
      archived.filterMap fun record => record.get? "call_id" >>= Json.asStr? }

structure WakeLease where
  claimToken : String
  leaseExpiresAtMs : Nat
  deriving DecidableEq

structure ControllerLedger where
  hostInteractions : Table HostInteractionRecord := ∅
  notifications : Table HostInteractionNotificationRecord := ∅
  commandReceipts : Table (ControllerCommandReceipt × ControllerCommandResolution) := ∅
  commands : Table ControllerCommand := ∅
  wakeLeases : Table WakeLease := ∅

/-- The tables of the store. A checkpoint without an archive has an empty one. -/
structure MemoryStore where
  checkpoints : Table Checkpoint := ∅
  history : Table ArchivedHistory := ∅
  deferredReceipts : Table DeferredReceipt := ∅
  ledger : ControllerLedger := {}

/-- The answer of an operation and the tables after it. -/
abbrev StoreResult (α : Type) := CheckpointResult α × MemoryStore

/-- Run an operation that writes only when it succeeds. -/
def MemoryStore.atomically {α : Type} (store : MemoryStore)
    (outcome : CheckpointResult (α × MemoryStore)) : StoreResult α :=
  match outcome with
  | .ok (answer, after) => (.ok answer, after)
  | .error error => (.error error, store)

inductive CheckpointRenewalOutcome where
  | renewed (leaseExpiresAtMs : Nat)
  | cancelRequested (leaseExpiresAtMs : Nat)
  | claimLost (revision : Nat)
  deriving DecidableEq

/-- The archive of a key. -/
def MemoryStore.archiveOf (store : MemoryStore) (checkpointKey : String) : ArchivedHistory :=
  store.history[checkpointKey]?.getD {}

section
variable [Runtime]

/-- Archive what a record no longer needs. -/
def persistHistory (archive : ArchivedHistory) (checkpoint : Checkpoint) :
    CheckpointResult (Checkpoint × ArchivedHistory) := do
  refuse (checkpoint.modelCalls.any fun record => archive.callIds.contains record.callId)
    (historyError "model call identity is already archived")
  let (normalized, batch) ← normalizeCheckpointHistory checkpoint
  match batch with
  | none => return (normalized, archive)
  | some batch => do
      refuse (archive.payloads.length + 1 != batch.sequence)
        (historyError "history cursor does not match archive")
      let payload ← canonicalJsonBytes batch.payload "checkpoint history"
      return (normalized, archive.append payload batch)

namespace MemoryStore

/-- Write a record with its archive under a key. -/
def write (store : MemoryStore) (checkpointKey : String) (checkpoint : Checkpoint)
    (archive : ArchivedHistory) : MemoryStore :=
  { store with
    checkpoints := store.checkpoints.insert checkpointKey checkpoint
    history := store.history.insert checkpoint.checkpointKey archive }

/-- Archive and write a prepared record. -/
def persist (store : MemoryStore) (checkpointKey : String) (updated : Checkpoint) :
    CheckpointResult (Checkpoint × MemoryStore) := do
  let (stored, archive) ← persistHistory (store.archiveOf updated.checkpointKey) updated
  return (stored, store.write checkpointKey stored archive)

/-- Replace the record of a key by what `prepare` makes of it, if anything. -/
def update (store : MemoryStore) (checkpointKey : String)
    (prepare : Checkpoint → CheckpointResult (Option Checkpoint)) : StoreResult Bool :=
  store.atomically <|
    match store.checkpoints[checkpointKey]? with
    | none => .ok (false, store)
    | some current => do
        match ← prepare current with
        | none => return (false, store)
        | some updated => do
            let (_, after) ← store.persist checkpointKey updated
            return (true, after)

def createCheckpoint (store : MemoryStore) (checkpoint : Checkpoint) : StoreResult Bool :=
  store.atomically do
    validateCheckpointCreation checkpoint
    if store.checkpoints.contains checkpoint.checkpointKey then return (false, store)
    else return (true, { store with
      checkpoints := store.checkpoints.insert checkpoint.checkpointKey checkpoint })

def loadCheckpoint (store : MemoryStore) (checkpointKey : String) : Option Checkpoint :=
  store.checkpoints[checkpointKey]?

def loadCheckpointHistory (store : MemoryStore) (checkpointKey : String) :
    CheckpointResult CheckpointHistoryRecords :=
  match store.checkpoints[checkpointKey]? with
  | none => .ok {}
  | some checkpoint =>
      decodeCheckpointHistory checkpoint (store.archiveOf checkpointKey).payloads

/-- A response that has not been consumed keeps its checkpoint from being claimed. -/
def hasUnconsumedResponse (store : MemoryStore) (checkpointKey : String) : Bool :=
  store.ledger.hostInteractions.toList.any fun (_, record) =>
    record.checkpointKey == checkpointKey &&
      (record.state == "resolved_pending" || record.state == "resolved_claimed")

/-- A claim asks for a token and a lease in the future. -/
def guardLease (claimToken : String) (leaseExpiresAtMs nowMs : Nat) (error : CheckpointError) :
    CheckpointResult Unit :=
  refuse (isBlank claimToken || leaseExpiresAtMs ≤ nowMs) error

def claimError : CheckpointError :=
  ⟨"checkpoint_claim_invalid", "claim token must be non-empty and lease must be in the future"⟩

def claimCheckpoint (store : MemoryStore) (checkpointKey : String) (cycleIndex : Nat)
    (claimToken : String) (leaseExpiresAtMs nowMs : Nat) (claimMode : ClaimMode) :
    StoreResult (Option Checkpoint) :=
  store.atomically do
    guardLease claimToken leaseExpiresAtMs nowMs claimError
    match store.checkpoints[checkpointKey]? with
    | none => return (none, store)
    | some current => do
        refuse (store.hasUnconsumedResponse checkpointKey)
          ⟨"host_interaction_recovery_required",
            "checkpoint has an unresolved host interaction response"⟩
        match ← prepareClaim current cycleIndex claimToken leaseExpiresAtMs nowMs claimMode with
        | none => return (none, store)
        | some claimed =>
            return (some claimed, { store with
              checkpoints := store.checkpoints.insert checkpointKey claimed })

def progressCheckpoint (store : MemoryStore) (checkpoint : Checkpoint) (claimToken : String)
    (expectedRevision : Nat) : StoreResult Bool :=
  store.update checkpoint.checkpointKey fun current =>
    prepareProgress current checkpoint claimToken expectedRevision

def suspendCheckpoint (store : MemoryStore) (checkpoint : Checkpoint) (claimToken : String)
    (expectedRevision : Nat) : StoreResult Bool :=
  store.update checkpoint.checkpointKey fun current =>
    prepareSuspend current checkpoint claimToken expectedRevision

def commitCheckpoint (store : MemoryStore) (checkpoint : Checkpoint) (claimToken : String)
    (expectedRevision : Nat) : StoreResult Bool :=
  store.update checkpoint.checkpointKey fun current =>
    prepareCommit current checkpoint claimToken expectedRevision

def finalizeCheckpoint (store : MemoryStore) (clock : Clock) (checkpoint : Checkpoint)
    (expectedRevision : Nat) : StoreResult Bool :=
  store.update checkpoint.checkpointKey fun current =>
    prepareFinalize clock current checkpoint expectedRevision

def finalizeClaimedCheckpoint (store : MemoryStore) (clock : Clock) (checkpoint : Checkpoint)
    (claimToken : String) (expectedRevision : Nat) : StoreResult Bool :=
  store.update checkpoint.checkpointKey fun current =>
    prepareFinalizeClaimed clock current checkpoint claimToken expectedRevision

/-- The owner extends its lease; nothing else changes, and nothing is validated again. -/
def renewCheckpointClaim (store : MemoryStore) (checkpointKey claimToken : String)
    (leaseExpiresAtMs nowMs : Nat) : StoreResult CheckpointRenewalOutcome :=
  store.atomically do
    guardLease claimToken leaseExpiresAtMs nowMs claimError
    match store.checkpoints[checkpointKey]? with
    | none => return (.claimLost 0, store)
    | some checkpoint =>
        if checkpoint.claimToken ≠ some claimToken ∨
            checkpoint.leaseExpiresAtMs.all (· ≤ nowMs) then
          return (.claimLost checkpoint.revision, store)
        else
          let renewed := { checkpoint with leaseExpiresAtMs := some leaseExpiresAtMs }
          return (if checkpoint.cancelRequested then .cancelRequested leaseExpiresAtMs
              else .renewed leaseExpiresAtMs,
            { store with checkpoints := store.checkpoints.insert checkpointKey renewed })

/-- What the receipt table of the journal says about a receipt: `some true` is a replay. -/
def receiptReplay (current : Checkpoint) (identityKey resultDigest : String) :
    CheckpointResult Bool :=
  match current.toolJournal.find? fun entry => entry.identityKey == some identityKey with
  | none => .ok false
  | some existing => do
      refuse (existing.resultDigest != some resultDigest)
        ⟨"tool_receipt_conflict", "tool receipt conflicts with the retained identity"⟩
      return true

def recordToolReceipt (store : MemoryStore) (clock : Clock) (checkpoint : Checkpoint)
    (target : ToolReceiptTarget) (result : ToolExecutionResult) (claimToken : String)
    (expectedRevision : Nat) : StoreResult Bool :=
  store.atomically do
    validateDefinitiveResult result
    let identityKey ← toolReceiptIdentityKey checkpoint.checkpointKey target.operationId
      target.attempt target.toolCallId target.requestDigest
    let resultDigest ← toolResultDigest result
    match store.checkpoints[checkpoint.checkpointKey]? with
    | none => return (false, store)
    | some current => do
        if ← receiptReplay current identityKey resultDigest then return (true, store)
        else
          match ← prepareToolReceipt clock current checkpoint target result claimToken
            expectedRevision with
          | none => return (false, store)
          | some updated => do
              let (_, after) ← store.persist checkpoint.checkpointKey updated
              return (true, after)

def acknowledgeTerminal (store : MemoryStore) (checkpointKey : String)
    (expectedRevision : Nat) : StoreResult Bool :=
  store.update checkpointKey fun current => prepareAck current expectedRevision

def recordEventDelivery (store : MemoryStore) (checkpointKey : String)
    (claimToken : Option String) (expectedRevision : Nat) (eventId payloadDigest : String)
    (cursor : EventCursor) : StoreResult Bool :=
  store.update checkpointKey fun current =>
    prepareEventDelivery current claimToken expectedRevision eventId payloadDigest cursor

def notFound : CheckpointError := ⟨"checkpoint_not_found", "checkpoint does not exist"⟩

def admitDeferredBatch (store : MemoryStore) (clock : Clock) (checkpointKey : String)
    (expectedRevision : Nat) (claimToken : String) (claimedCycle : Nat)
    (entries : List DeferredBatchEntry) : StoreResult DeferredBatchAdmission :=
  store.atomically do
    let current ← require store.checkpoints[checkpointKey]? notFound
    let (updated, handles) ← VvAgent.admitDeferredBatch clock current expectedRevision claimToken
      claimedCycle entries
    refuse (updated.revision == current.revision)
      ⟨"checkpoint_revision_conflict", "deferred batch admission precondition failed"⟩
    let (stored, after) ← store.persist checkpointKey updated
    return ({ checkpoint := stored, handles }, after)

def acceptDeferredBatch (store : MemoryStore) (clock : Clock) (checkpointKey : String)
    (expectedRevision : Nat) (claimToken : String) (claimedCycle : Nat)
    (decisions : List AcceptDeferredDecision) : StoreResult DeferredBatchAdmission :=
  store.atomically do
    let current ← require store.checkpoints[checkpointKey]? notFound
    if deferredBatchIsIdempotent current decisions then
      return ({ checkpoint := current, handles := decisions.map (·.handle) }, store)
    else do
      let (updated, changed) ← VvAgent.acceptDeferredBatch clock current expectedRevision
        claimToken claimedCycle decisions
      refuse (!changed)
        ⟨"reconciliation_required", "deferred reconciliation precondition failed"⟩
      let (stored, after) ← store.persist checkpointKey updated
      return ({ checkpoint := stored, handles := decisions.map (·.handle) }, after)

def resolveDeferred (store : MemoryStore) (clock : Clock) (handle : DeferredToolHandle)
    (result : ToolExecutionResult) : StoreResult DeferredResolveDecision :=
  store.atomically do
    validateDefinitiveResult result
    let key ← handle.handleKey
    match store.deferredReceipts[key]? with
    | some receipt => do
        let retained ← resultDigest receipt.result
        let offered ← resultDigest result
        refuse (retained != offered)
          ⟨"deferred_resolution_conflict",
            "deferred handle already has a different definitive result"⟩
        return (.replayed receipt, store)
    | none => do
        let checkpoint ← require store.checkpoints[handle.checkpointKey]?
          ⟨"deferred_resolution_stale", "checkpoint does not exist"⟩
        match ← deferredTarget checkpoint handle result with
        | .inl answer => return (answer, store)
        | .inr entry => do
            let (updated, receipt) ← resolveEntry clock checkpoint handle entry result
            let (_, after) ← store.persist updated.checkpointKey updated
            return (
              if updated.status = .running then .appliedReady receipt
              else .appliedWaiting receipt,
              { after with deferredReceipts := after.deferredReceipts.insert key receipt })

end MemoryStore

end

end VvAgent
