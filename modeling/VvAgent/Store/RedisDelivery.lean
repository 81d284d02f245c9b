import VvAgent.Store.NotificationRow
import VvAgent.Store.RedisRows

/-!
Deliveries in the Redis store. A transaction reads the rows it watches, decides, and
writes; a failed one writes nothing. A wake is kept in three rows, the receipt, the
command and the outbox row, which every operation reads and compares; a notification is
kept in one.
-/

namespace VvAgent
open Lib Lib.Outcome

/-- The Redis rows that deliveries read and write, under the ids in their keys, and the ids
in the receipt set of each checkpoint. -/
structure RedisDelivery where
  receipts : Table Json := {}
  commands : Table Json := {}
  outboxes : Table Json := {}
  notifications : Table Json := {}
  receiptSets : Table (List String) := {}

abbrev RedisResult (α : Type) := CheckpointResult α × RedisDelivery

/-- `controller_transaction`: a failed operation leaves the rows as they were. -/
def RedisDelivery.transaction {α : Type} (store : RedisDelivery)
    (body : CheckpointResult (α × RedisDelivery)) : RedisResult α :=
  match body with
  | .ok (value, after) => (.ok value, after)
  | .error error => (.error error, store)

section
variable [Runtime]

def redisValidateControllerReceiptBinding (receipt : ControllerCommandReceipt)
    (command : ControllerCommand) : CheckpointResult Unit :=
  refuse
    (receipt.commandId != command.commandId || receipt.commandDigest != command.commandDigest ||
      receipt.handle != command.handle || receipt.resumeAttempt != command.resumeAttempt ||
      receipt.expectedRevision != command.expectedRevision)
    (commandError "conflict"
      "controller receipt and command payload are not bound to the same identity")

def redisWakeOutboxMatchesReceipt (wake : RedisControllerWakeOutbox)
    (receipt : ControllerCommandReceipt) : CheckpointResult Unit :=
  refuse
    (wake.commandId != receipt.commandId || wake.commandDigest != receipt.commandDigest ||
      wake.outboxAction != receipt.outboxAction ||
      wake.outboxDestination != receipt.outboxDestination ||
      wake.outboxState != receipt.outboxState || wake.attempt != receipt.outboxAttempt)
    (commandError "conflict" "controller receipt and wake outbox conflict")

/-- The message of a completion or a reconciliation under a digest that is not the
receipt's. -/
def wakeDigestMismatch : String := "controller wake digest does not match receipt"

namespace RedisDelivery

def loadControllerCommand (store : RedisDelivery) (commandId commandDigest : String) :
    CheckpointResult ControllerCommand := do
  let raw ← require store.commands[commandId]?
    (commandError "conflict" "controller command payload is missing")
  let command ← ControllerCommand.fromValue raw
  refuse (command.commandId != commandId || command.commandDigest != commandDigest)
    (commandError "conflict" "controller command payload conflicts with receipt")
  return command

/-- The outbox row that belongs to a receipt. -/
def loadOutbox (store : RedisDelivery) (receipt : ControllerCommandReceipt) :
    CheckpointResult RedisControllerWakeOutbox := do
  let raw ← require store.outboxes[receipt.commandId]?
    (commandError "conflict" "controller wake outbox is missing")
  let wake ← RedisControllerWakeOutbox.fromValue raw
  redisWakeOutboxMatchesReceipt wake receipt
  return wake

/-- The receipt and the outbox row of a wake, after all comparisons. -/
def loadWake (store : RedisDelivery) (commandId commandDigest mismatch : String) :
    CheckpointResult (Option (ControllerCommandReceipt × RedisControllerWakeOutbox)) :=
  match store.receipts[commandId]? with
  | none => .ok none
  | some raw => do
      let receipt ← ControllerCommandReceipt.fromValue raw
      let command ← store.loadControllerCommand commandId commandDigest
      redisValidateControllerReceiptBinding receipt command
      refuse (receipt.commandId != commandId || receipt.commandDigest != commandDigest)
        (commandError "conflict" mismatch)
      let wake ← store.loadOutbox receipt
      return some (receipt, wake)

/-- Write the receipt and the outbox row of a wake; both are checked first. -/
def putWake (store : RedisDelivery) (receipt : ControllerCommandReceipt)
    (wake : RedisControllerWakeOutbox) : CheckpointResult RedisDelivery := do
  receipt.validate
  wake.validate
  return { store with
    receipts := store.receipts.insert receipt.commandId receipt.toValue
    outboxes := store.outboxes.insert receipt.commandId wake.toValue }

/-- The rows that a resolved command leaves for the delivery of its wake. -/
def recordControllerCommand (store : RedisDelivery) (receipt : ControllerCommandReceipt)
    (command : ControllerCommand) : RedisResult Unit :=
  store.transaction do
    receipt.validate
    command.validate
    let row ← RedisControllerWakeOutbox.fromReceiptUnchecked receipt
    row.validate
    let key := command.handle.checkpointKey
    return ((), { store with
      receipts := store.receipts.insert command.commandId receipt.toValue
      commands := store.commands.insert command.commandId command.toValue
      outboxes := store.outboxes.insert command.commandId row.toValue
      receiptSets := store.receiptSets.insert key
        ((store.receiptSets[key]?.getD []).insert command.commandId) })

def claimControllerCommandWake (store : RedisDelivery) (commandId commandDigest : String)
    (claimToken : String) (leaseExpiresAtMs nowMs : Nat) :
    RedisResult (Option ControllerCommandReceipt) :=
  store.transaction do
    MemoryStore.guardLease claimToken leaseExpiresAtMs nowMs
      (wakeInvalid "wake claim token must be non-empty and lease must be in the future")
    validateSha256 commandDigest "command_digest"
    match ← store.loadWake commandId commandDigest
      "controller wake identity or digest does not match receipt" with
    | none => return (none, store)
    | some (receipt, wake) => do
        if wake.outboxAction = "none" ∨ wake.outboxState = "delivered" then
          return (some receipt, store)
        else do
          refuse (wake.outboxState == "ambiguous")
            (commandError "stale" "controller wake requires reconciliation")
          if wake.outboxState = "claimed" ∧ wake.claimToken = some claimToken ∧
              wake.leaseExpiresAtMs.any (nowMs < ·) then
            return (some receipt, store)
          else do
            refuse (wake.outboxState == "claimed" && wake.leaseExpiresAtMs.any (nowMs < ·))
              (commandError "stale" "controller wake is claimed by another owner")
            if wake.outboxState ≠ "pending" ∧ wake.outboxState ≠ "claimed" then
              return (none, store)
            else do
              let updated :=
                { receipt with
                  outboxState := "claimed"
                  outboxAttempt := saturatingAdd receipt.outboxAttempt 1 }
              updated.validate
              let row ← RedisControllerWakeOutbox.fromReceiptUnchecked updated
              let after ← store.putWake updated
                { row with
                  claimToken := some claimToken
                  leaseExpiresAtMs := some leaseExpiresAtMs }
              return (some updated, after)

def completeControllerCommandWake (store : RedisDelivery)
    (commandId commandDigest claimToken : String) (attempt : Nat) (outcome : String)
    (nowMs : Nat) (error : Option String) : RedisResult (Option ControllerCommandReceipt) :=
  store.transaction do
    refuse (isBlank claimToken || attempt == 0)
      (wakeInvalid "wake completion claim token and attempt are invalid")
    validateSha256 commandDigest "command_digest"
    refuse (outcome != "delivered" && outcome != "ambiguous")
      (wakeInvalid "wake completion outcome is invalid")
    match ← store.loadWake commandId commandDigest wakeDigestMismatch with
    | none => return (none, store)
    | some (receipt, wake) => do
        if wake.outboxState = "delivered" ∨ wake.outboxState = "ambiguous" then do
          refuse (wake.outboxState != outcome)
            (commandError "stale" "controller wake has already completed")
          return (some receipt, store)
        else do
          refuse
            (receipt.outboxState != "claimed" || wake.attempt != attempt ||
              wake.claimToken != some claimToken)
            (commandError "stale" "controller wake owner or attempt is stale")
          let updated := { receipt with outboxState := outcome }
          updated.validate
          let row ← RedisControllerWakeOutbox.fromReceiptUnchecked updated
          let after ← store.putWake updated
            { row with
              deliveredAtMs := if outcome = "delivered" then some nowMs else none
              lastError := error }
          return (some updated, after)

def reconcileControllerCommandWake (store : RedisDelivery) (commandId commandDigest : String)
    (outcome : String) (nowMs : Nat) : RedisResult (Option ControllerCommandReceipt) :=
  store.transaction do
    refuse (outcome != "delivered" && outcome != "retry")
      (wakeInvalid "wake reconciliation outcome is invalid")
    validateSha256 commandDigest "command_digest"
    match ← store.loadWake commandId commandDigest wakeDigestMismatch with
    | none => return (none, store)
    | some (receipt, wake) => do
        let target := if outcome = "delivered" then "delivered" else "pending"
        if wake.outboxState = target then return (some receipt, store)
        else do
          refuse (wake.outboxState != "ambiguous")
            (commandError "stale" "controller wake is not ambiguous")
          let updated := { receipt with outboxState := target }
          updated.validate
          let row ← RedisControllerWakeOutbox.fromReceiptUnchecked updated
          let after ← store.putWake updated
            { row with deliveredAtMs := if target = "delivered" then some nowMs else none }
          return (some updated, after)

/-- A member of the receipt set, if its wake is free to be dispatched. -/
def reapCandidate (store : RedisDelivery) (checkpointKey : String) (nowMs : Nat)
    (commandId : String) :
    CheckpointResult (Option (ControllerCommandReceipt × RedisControllerWakeOutbox)) :=
  match store.receipts[commandId]? with
  | none => .ok none
  | some raw => do
      let receipt ← ControllerCommandReceipt.fromValue raw
      refuse (commandId != receipt.commandId)
        (commandError "conflict" "controller receipt key does not match command identity")
      if receipt.handle.checkpointKey ≠ checkpointKey ∨
          receipt.outboxAction ≠ "recovery_dispatch" then
        return none
      else do
        let command ← store.loadControllerCommand receipt.commandId receipt.commandDigest
        redisValidateControllerReceiptBinding receipt command
        let wake ← store.loadOutbox receipt
        if receipt.outboxState = "pending" ∨
            (receipt.outboxState = "claimed" ∧ wake.leaseExpiresAtMs.any (· ≤ nowMs)) then
          return some (receipt, wake)
        else return none

def reapCandidates (store : RedisDelivery) (checkpointKey : String) (nowMs : Nat) :
    List String →
      CheckpointResult (List (ControllerCommandReceipt × RedisControllerWakeOutbox))
  | [] => .ok []
  | commandId :: rest => do
      let candidate ← store.reapCandidate checkpointKey nowMs commandId
      let later ← store.reapCandidates checkpointKey nowMs rest
      return candidate.toList ++ later

/-- Hand one wake back to the dispatcher. -/
def reapWake (store : RedisDelivery)
    (candidate : ControllerCommandReceipt × RedisControllerWakeOutbox) :
    CheckpointResult (ControllerCommandWakeRecord × RedisDelivery) := do
  let (receipt, wake) := candidate
  if receipt.outboxState = "pending" then do
    let record ← ControllerCommandWakeRecord.fromReceiptLifecycle receipt wake.outboxId
      wake.attempt wake.claimToken wake.leaseExpiresAtMs wake.deliveredAtMs wake.lastError
    return (record, store)
  else do
    let updated := { receipt with outboxState := "pending" }
    updated.validate
    let row ← RedisControllerWakeOutbox.fromReceiptUnchecked updated
    let row := { row with lastError := some "controller_wake_claim_expired" }
    let after ← store.putWake updated row
    let record ← ControllerCommandWakeRecord.fromReceiptLifecycle updated row.outboxId
      row.attempt row.claimToken row.leaseExpiresAtMs row.deliveredAtMs row.lastError
    return (record, after)

def reapWakes (store : RedisDelivery) :
    List (ControllerCommandReceipt × RedisControllerWakeOutbox) →
      CheckpointResult (List ControllerCommandWakeRecord × RedisDelivery)
  | [] => .ok ([], store)
  | candidate :: rest => do
      let (record, after) ← store.reapWake candidate
      let (later, final) ← after.reapWakes rest
      return (record :: later, final)

def reapControllerCommandWakes (store : RedisDelivery) (checkpointKey : String) (nowMs : Nat) :
    RedisResult (List ControllerCommandWakeRecord) :=
  store.transaction do
    let candidates ← store.reapCandidates checkpointKey nowMs
      (store.receiptSets[checkpointKey]?.getD [])
    store.reapWakes (candidates.mergeSort fun left right =>
      left.1.expectedRevision < right.1.expectedRevision ||
        (left.1.expectedRevision == right.1.expectedRevision &&
          left.1.commandId ≤ right.1.commandId))

def loadNotification (store : RedisDelivery) (notificationId : String) :
    CheckpointResult (Option HostInteractionNotificationRecord) :=
  match store.notifications[notificationId]? with
  | none => .ok none
  | some raw => do
      let row ← RedisNotification.decode raw
      refuse (row.notificationId != notificationId)
        (notificationConflict "Redis notification key does not match notification identity")
      return some row

def putNotification (store : RedisDelivery) (notificationId : String)
    (row : HostInteractionNotificationRecord) : RedisDelivery :=
  { store with
    notifications := store.notifications.insert notificationId (RedisNotification.encode row) }

/-- The row that a question leaves for the delivery of its notification. -/
def recordNotification (store : RedisDelivery) (checkpointKey : String)
    (request : HostInteractionRequest) : RedisResult Unit :=
  store.transaction do
    let recordId := recordIdFor checkpointKey request
    let notification ← notificationFor checkpointKey recordId request
    (HostInteractionRecord.active checkpointKey recordId request).validate
    return ((), store.putNotification (notificationIdFor recordId) notification)

def claimHostInteractionNotification (store : RedisDelivery)
    (notificationId payloadDigest claimToken : String) (leaseExpiresAtMs nowMs : Nat) :
    RedisResult (Option HostInteractionNotificationRecord) :=
  store.transaction do
    MemoryStore.guardLease claimToken leaseExpiresAtMs nowMs
      (notificationConflict
        "notification claim token must be non-empty and lease must be in the future")
    match ← store.loadNotification notificationId with
    | none => return (none, store)
    | some row => do
        refuse (row.payloadDigest != payloadDigest)
          (notificationConflict "notification payload digest does not match")
        if row.claimable nowMs then
          let updated := row.claimedBy claimToken leaseExpiresAtMs
          return (some updated, store.putNotification notificationId updated)
        else return (none, store)

def completeHostInteractionNotification (store : RedisDelivery)
    (notificationId payloadDigest claimToken : String) (attempt : Nat) (outcome : String)
    (nowMs : Nat) (error : Option String) :
    RedisResult (Option HostInteractionNotificationRecord) :=
  store.transaction do
    match ← store.loadNotification notificationId with
    | none => return (none, store)
    | some row => do
        if !row.heldUnder payloadDigest claimToken attempt then return (none, store)
        else do
          let updated ← row.completed outcome nowMs error
          return (some updated, store.putNotification notificationId updated)

def reconcileHostInteractionNotification (store : RedisDelivery)
    (notificationId payloadDigest outcome : String) (nowMs : Nat) (abortReason : Option String) :
    RedisResult (Option HostInteractionNotificationRecord) :=
  store.transaction do
    guardDecision outcome abortReason
    match ← store.loadNotification notificationId with
    | none => return (none, store)
    | some row => do
        refuse (row.payloadDigest != payloadDigest)
          (notificationConflict "notification payload digest does not match")
        let target ← require (MemoryStore.reconciledState outcome)
          (notificationConflict "notification reconciliation outcome is invalid")
        if row.outboxState = target then return (some row, store)
        else do
          refuse (row.outboxState != .ambiguous)
            ⟨"notification_stale", "notification is not ambiguous"⟩
          let updated := row.reconciled target nowMs abortReason
          return (some updated, store.putNotification notificationId updated)

end RedisDelivery

end

end VvAgent
