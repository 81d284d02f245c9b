import VvAgent.Store.Memory

/-!
The in-memory store's side of hosts and controllers: questions to the host, controller
commands, the recovery that consumes an answer, the delivery of notifications and wakes, and
deletion.
-/

namespace VvAgent
open Lib Lib.Outcome

section
variable [Runtime]

/-- `apply_controller_command` on one record: the in-memory order of the guards. -/
def applyControllerCommand (clock : Clock) (lookup : HostRecordLookup) (current : Checkpoint)
    (command : ControllerCommand) (nowMs : Nat) : CheckpointResult CommandEffect := do
  guardCommandFence current command "the authoritative checkpoint"
  guardCommandTerminal current
  guardCommandClaim current command.command nowMs
    "controller commands require a released execution claim"
  guardCommandAmbiguity current command.command
    "controller command is blocked by an ambiguous external operation"
  guardCommandDeferred current command.command
  transformByCommand clock lookup "pending host interaction record does not exist" current
    command nowMs

end

namespace MemoryStore

def findInteraction (store : MemoryStore) (checkpointKey interactionId : String) :
    Option (String × HostInteractionRecord) :=
  store.ledger.hostInteractions.toList.find? fun row =>
    row.2.checkpointKey == checkpointKey && row.2.interactionId == interactionId

def putHostRecord (store : MemoryStore) (recordId : String) (record : HostInteractionRecord) :
    MemoryStore :=
  { store with
    ledger := { store.ledger with
      hostInteractions := store.ledger.hostInteractions.insert recordId record } }

def putNotification (store : MemoryStore) (notificationId : String)
    (notification : HostInteractionNotificationRecord) : MemoryStore :=
  { store with
    ledger := { store.ledger with
      notifications := store.ledger.notifications.insert notificationId notification } }

section
variable [Runtime]

/-- The retained answer to a question that was put before. -/
def replayedOutcome (store : MemoryStore) (request : HostInteractionRequest) (revision : Nat)
    (recordId : String) : CheckpointResult HostInteractionOutcome := do
  let notification ← require store.ledger.notifications[notificationIdFor recordId]?
    (hostConflict "retained host interaction has no notification outbox row")
  hostInteractionOutcome request revision "replayed" recordId notification

def alreadyBound : CheckpointError :=
  hostConflict "interaction identity is already bound to a different request"

/-- A first admission, under the claim of the context. -/
def admitHostInteraction (store : MemoryStore) (clock : Clock)
    (request : HostInteractionRequest) (context : HostInteractionAdmissionContext)
    (current : Checkpoint) : CheckpointResult (HostInteractionOutcome × MemoryStore) := do
  refuse
    (current.status != .running || current.revision != context.expectedRevision ||
      current.claimToken != some context.claimToken ||
      current.claimedCycle != some context.claimedCycle ||
      request.logicalCycle != context.claimedCycle ||
      current.leaseExpiresAtMs != some context.leaseExpiresAtMs || !context.isLive)
    ⟨"host_interaction_claim_required", "host interaction admission claim is stale or expired"⟩
  let recordId := recordIdFor context.checkpointKey request
  match store.ledger.hostInteractions[recordId]? with
  | some existing => do
      refuse
        (existing.request != request || existing.checkpointKey != current.checkpointKey ||
          existing.logicalCycle != request.logicalCycle)
        alreadyBound
      let outcome ← store.replayedOutcome request current.revision recordId
      return (outcome, store)
  | none => do
      let notification ← notificationFor context.checkpointKey recordId request
      let record := HostInteractionRecord.active context.checkpointKey recordId request
      record.validate
      let updated ← prepareHostInteraction clock current request context recordId
      let outcome ← hostInteractionOutcome request updated.revision "admitted" recordId
        notification
      let (_, after) ← store.persist context.checkpointKey updated
      return (outcome,
        (after.putHostRecord recordId record).putNotification (notificationIdFor recordId)
          notification)

def produceHostInteraction (store : MemoryStore) (clock : Clock)
    (request : HostInteractionRequest) (context : HostInteractionAdmissionContext) :
    StoreResult HostInteractionOutcome :=
  store.atomically do
    request.validate
    context.validate
    match store.findInteraction context.checkpointKey request.interactionId with
    | some (recordId, existing) => do
        -- Admission releases the claim, so a retry is recognized by the record alone.
        refuse (existing.request != request) alreadyBound
        let checkpoint ← require store.checkpoints[existing.checkpointKey]?
          (hostConflict "retained host interaction has no checkpoint")
        validateHostToolReceiptReplay checkpoint request context
        let outcome ← store.replayedOutcome request checkpoint.revision recordId
        return (outcome, store)
    | none => do
        let current ← require store.checkpoints[context.checkpointKey]?
          ⟨"host_interaction_claim_required",
            "host interaction admission checkpoint was not found"⟩
        store.admitHostInteraction clock request context current

/-- The lookup of host-interaction records by their identity. -/
def hostRecordLookup (store : MemoryStore) (checkpointKey : String) : HostRecordLookup :=
  fun request => .ok store.ledger.hostInteractions[recordIdFor checkpointKey request]?

/-- Write the host record that a command has answered. -/
def putAnswer (store : MemoryStore) (checkpointKey : String) :
    Option HostInteractionRecord → MemoryStore
  | none => store
  | some record => store.putHostRecord (recordIdFor checkpointKey record.request) record

/-- Apply a command. The answered host record is written before the receipt is checked. -/
def applyControllerCommand (store : MemoryStore) (clock : Clock) (command : ControllerCommand)
    (nowMs : Nat) : StoreResult (ControllerCommandReceipt × ControllerCommandResolution) :=
  match store.checkpoints[command.handle.checkpointKey]? with
  | none => (.error (commandError "stale" "checkpoint does not exist"), store)
  | some current =>
      match VvAgent.applyControllerCommand clock (store.hostRecordLookup current.checkpointKey)
        current command nowMs with
      | .error error => (.error error, store)
      | .ok effect =>
          let answered := store.putAnswer current.checkpointKey effect.hostRecord
          let receipt := commandReceipt command effect
          match receipt.validate with
          | .error error => (.error error, answered)
          | .ok () =>
              (.ok (receipt, .applied receipt effect.wake),
                { answered with
                  checkpoints :=
                    answered.checkpoints.insert current.checkpointKey effect.checkpoint })

/-- Retain the receipt of an applied command with the command. -/
def retainReceipt (store : MemoryStore) (command : ControllerCommand)
    (receipt : ControllerCommandReceipt) (resolution : ControllerCommandResolution) :
    MemoryStore :=
  { store with
    ledger := { store.ledger with
      commandReceipts :=
        store.ledger.commandReceipts.insert command.commandId (receipt, resolution)
      commands := store.ledger.commands.insert command.commandId command } }

def commandConflict : CheckpointError :=
  commandError "conflict" "command_id is already bound to a different command digest"

end

end MemoryStore

def ControllerCommandResolution.replay :
    ControllerCommandResolution → ControllerCommandResolution
  | .applied receipt wake | .replayed receipt wake => .replayed receipt wake
  | .rejected error => .rejected error

def ControllerCommandResolution.withReceipt (resolution : ControllerCommandResolution)
    (receipt : ControllerCommandReceipt) : ControllerCommandResolution :=
  match resolution with
  | .applied _ wake => .applied receipt wake
  | .replayed _ wake => .replayed receipt wake
  | .rejected error => .rejected error

/-- Failures that a resolution reports as a rejection. -/
def isRejection (error : CheckpointError) : Bool :=
  error.code == "controller_command_stale" || error.code == "controller_command_terminal"

namespace MemoryStore

section
variable [Runtime]

def admitControllerCommand (store : MemoryStore) (clock : Clock) (command : ControllerCommand)
    (nowMs : Nat) : StoreResult ControllerCommandReceipt :=
  match command.validate with
  | .error error => (.error error, store)
  | .ok () =>
      match store.ledger.commandReceipts[command.commandId]? with
      | some (receipt, _) =>
          (do refuse (receipt.commandDigest != command.commandDigest) commandConflict
              return receipt, store)
      | none =>
          match store.applyControllerCommand clock command nowMs with
          | (.error error, after) => (.error error, after)
          | (.ok (receipt, resolution), after) =>
              (.ok receipt, after.retainReceipt command receipt resolution)

def resolveControllerCommand (store : MemoryStore) (clock : Clock) (command : ControllerCommand)
    (nowMs : Nat) : StoreResult ControllerCommandResolution :=
  match command.validate with
  | .error error => (.error error, store)
  | .ok () =>
      match store.ledger.commandReceipts[command.commandId]? with
      | some (receipt, resolution) =>
          (do refuse (receipt.commandDigest != command.commandDigest) commandConflict
              return resolution.replay, store)
      | none =>
          match store.applyControllerCommand clock command nowMs with
          | (.error error, after) =>
              (if isRejection error then .ok (.rejected error.display) else .error error, after)
          | (.ok (receipt, resolution), after) =>
              (.ok resolution, after.retainReceipt command receipt resolution)

def findResolvedPendingHostInteraction (store : MemoryStore) (checkpointKey : String) :
    CheckpointResult (Option HostInteractionRecord) :=
  let pending := (store.ledger.hostInteractions.toList.map (·.2)).filter fun record =>
    record.checkpointKey == checkpointKey && record.state == "resolved_pending"
  match pending with
  | [] => .ok none
  | [record] => .ok (some record)
  | _ => .error (recoveryStale "checkpoint has multiple resolved host interaction records")

/-- The write of a recovery: the prepared record and the consumed answer. -/
def consumeResponse (store : MemoryStore) (clock : Clock) (current : Checkpoint)
    (record : HostInteractionRecord) (envelope : HostInteractionRecoveryEnvelope) (nowMs : Nat) :
    CheckpointResult (Checkpoint × HostInteractionRecord × MemoryStore) := do
  refuse
    (!recoveryIdentityMatches current record envelope ||
      current.revision != envelope.expectedRevision ||
      current.resumeAttempt != envelope.resumeAttempt || current.status != .running ||
      current.claimToken.isSome || current.hasAmbiguousOperation ||
      record.state != "resolved_pending")
    (recoveryStale "recovery envelope is stale or the hard recovery barrier is not admissible")
  let response ← require record.response (recoveryStale "resolved record has no response")
  let updated ← prepareConsume clock current record response envelope nowMs
  let consumed := record.consumed updated.revision
  consumed.validate
  let (stored, after) ← store.persist envelope.checkpointKey updated
  return (stored, consumed, after.putHostRecord consumed.recordId consumed)

def claimAndConsumeHostInteractionResponse (store : MemoryStore) (clock : Clock)
    (envelope : HostInteractionRecoveryEnvelope) (nowMs : Nat) :
    StoreResult HostInteractionRecoveryResult :=
  let found := do
    envelope.validate
    let current ← require store.checkpoints[envelope.checkpointKey]?
      (recoveryStale "checkpoint does not exist")
    let record ← require store.ledger.hostInteractions[envelope.recordId]?
      (recoveryStale "host interaction record does not exist")
    return (current, record)
  match found with
  | .error error => (.error error, store)
  | .ok (current, record) =>
      if record.state = "consumed" then
        store.atomically do
          refuse (!recoveryIdentityMatches current record envelope)
            (recoveryStale "recovery envelope does not match consumed record")
          let result := recoveryResult "replayed" current record
          result.validate
          return (result, store)
      else
        match store.consumeResponse clock current record envelope nowMs with
        | .error error => (.error error, store)
        | .ok (stored, consumed, after) =>
            -- The answer is checked after the rows have been written.
            let result := recoveryResult "applied" stored consumed
            (do result.validate
                return result, after)

def reapHostInteractionRecord (store : MemoryStore) (recordId checkpointKey : String)
    (nowMs : Nat) : StoreResult Bool :=
  store.atomically <|
    match store.ledger.hostInteractions[recordId]?, store.checkpoints[checkpointKey]? with
    | some record, some checkpoint =>
        if record.checkpointKey ≠ checkpointKey ∨ record.state ≠ "resolved_claimed" ∨
            record.claimToken.isNone ∨ checkpoint.status ≠ .running ∨
            checkpoint.claimToken ≠ record.claimToken ∨
            checkpoint.leaseExpiresAtMs.all (nowMs < ·) ∨
            record.leaseExpiresAtMs.all (nowMs < ·) then
          .ok (false, store)
        else do
          let updated :=
            { record with
              state := "resolved_pending"
              claimToken := none
              leaseExpiresAtMs := none
              lastError := some "host_interaction_response_claim_expired" }
          updated.validate
          return (true, store.putHostRecord recordId updated)
    | _, _ => .ok (false, store)

end

end MemoryStore

end VvAgent
