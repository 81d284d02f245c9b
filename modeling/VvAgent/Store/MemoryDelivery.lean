import VvAgent.Store.MemoryController

/-!
Delivery of what the store owes to others, notifications to the host and wakes to the
recovery dispatcher, and the deletion of a checkpoint with everything that belongs to it.
These operations write the ledger only; deletion also removes the record, its archive and
its deferred receipts.
-/

namespace VvAgent
open Lib Lib.Outcome

def wakeStale (message : String) : CheckpointError :=
  ⟨"controller_command_outbox_stale", message⟩

def notificationConflict (message : String) : CheckpointError :=
  ⟨"notification_conflict", message⟩

section
variable [Runtime]

/-- The record of a wake that nobody has claimed. -/
def unclaimedWake (receipt : ControllerCommandReceipt) :
    CheckpointResult ControllerCommandWakeRecord := do
  let outboxId ← controllerReceiptOutboxId receipt.commandId receipt.commandDigest
  ControllerCommandWakeRecord.fromReceiptLifecycle receipt outboxId receipt.outboxAttempt
    none none none none

namespace MemoryStore

def claimHostInteractionNotification (store : MemoryStore) (notificationId payloadDigest : String)
    (claimToken : String) (leaseExpiresAtMs nowMs : Nat) :
    StoreResult (Option HostInteractionNotificationRecord) :=
  store.atomically do
    guardLease claimToken leaseExpiresAtMs nowMs
      (notificationConflict
        "notification claim token must be non-empty and lease must be in the future")
    match store.ledger.notifications[notificationId]? with
    | none => return (none, store)
    | some row => do
        refuse (row.payloadDigest != payloadDigest)
          (notificationConflict "notification payload digest conflicts")
        if row.outboxState = .delivered ∨ row.outboxState = .aborted then return (some row, store)
        else do
          refuse
            (row.outboxState == .claimed && row.claimToken != some claimToken &&
              row.leaseExpiresAtMs.any (nowMs < ·))
            ⟨"notification_stale", "notification is claimed by another owner"⟩
          let attempt ← require (checkedAdd row.attempt 1)
            (notificationConflict "notification attempt overflow")
          let updated :=
            { row with
              outboxState := .claimed
              claimToken := some claimToken
              leaseExpiresAtMs := some leaseExpiresAtMs
              attempt }
          updated.validate
          return (some updated, store.putNotification notificationId updated)

def completeHostInteractionNotification (store : MemoryStore)
    (notificationId payloadDigest claimToken : String) (attempt : Nat) (outcome : String)
    (nowMs : Nat) (error : Option String) :
    StoreResult (Option HostInteractionNotificationRecord) :=
  store.atomically do
    refuse (outcome != "delivered" && outcome != "ambiguous")
      (notificationConflict "notification completion outcome must be delivered or ambiguous")
    match store.ledger.notifications[notificationId]? with
    | none => return (none, store)
    | some row => do
        refuse (row.payloadDigest != payloadDigest)
          (notificationConflict "notification payload digest conflicts")
        refuse
          (row.outboxState != .claimed || row.claimToken != some claimToken ||
            row.attempt != attempt)
          ⟨"notification_stale", "notification owner or attempt is stale"⟩
        let updated :=
          { row with
            outboxState := if outcome = "delivered" then .delivered else .ambiguous
            claimToken := none
            leaseExpiresAtMs := none
            deliveredAtMs := if outcome = "delivered" then some nowMs else none
            lastError := error }
        updated.validate
        return (some updated, store.putNotification notificationId updated)

/-- The state an operator's decision about an ambiguous notification leads to. -/
def reconciledState : String → Option NotificationOutboxState
  | "delivered" => some .delivered
  | "retry" => some .pending
  | "abort" => some .aborted
  | _ => none

def reconcileHostInteractionNotification (store : MemoryStore)
    (notificationId payloadDigest outcome : String) (nowMs : Nat) (abortReason : Option String) :
    StoreResult (Option HostInteractionNotificationRecord) :=
  store.atomically do
    let target ← require (reconciledState outcome)
      (notificationConflict "notification reconciliation outcome is invalid")
    refuse
      (target == .aborted && abortReason.all fun reason =>
        isBlank reason || hostInteractionContentMaxUtf8Bytes < reason.utf8ByteSize)
      (notificationConflict "notification abort requires an explicit reason")
    match store.ledger.notifications[notificationId]? with
    | none => return (none, store)
    | some row => do
        refuse (row.payloadDigest != payloadDigest)
          (notificationConflict "notification payload digest conflicts")
        if row.outboxState = target then return (some row, store)
        else do
          refuse (row.outboxState != .ambiguous)
            ⟨"notification_stale", "notification is not ambiguous"⟩
          let updated :=
            { row with
              outboxState := target
              deliveredAtMs := if target = .delivered then some nowMs else none
              abortedAtMs := if target = .aborted then some nowMs else none
              abortReason := if target = .aborted then abortReason else none }
          updated.validate
          return (some updated, store.putNotification notificationId updated)

/-- Rewrite the receipt of a command, and its lease if the wake is claimed. -/
def putReceipt (store : MemoryStore) (commandId : String) (receipt : ControllerCommandReceipt)
    (resolution : ControllerCommandResolution) (lease : Option WakeLease) : MemoryStore :=
  { store with
    ledger := { store.ledger with
      commandReceipts := store.ledger.commandReceipts.insert commandId
        (receipt, resolution.withReceipt receipt)
      wakeLeases :=
        match lease with
        | some lease => store.ledger.wakeLeases.insert commandId lease
        | none => store.ledger.wakeLeases.erase commandId } }

def claimControllerCommandWake (store : MemoryStore) (commandId commandDigest : String)
    (claimToken : String) (leaseExpiresAtMs nowMs : Nat) :
    StoreResult (Option ControllerCommandReceipt) :=
  store.atomically do
    guardLease claimToken leaseExpiresAtMs nowMs
      (wakeInvalid "wake claim token must be non-empty and lease must be in the future")
    match store.ledger.commandReceipts[commandId]? with
    | none => return (none, store)
    | some (receipt, resolution) => do
        refuse (receipt.commandDigest != commandDigest)
          (commandError "conflict" "wake command digest conflicts")
        refuse (receipt.outboxState == "ambiguous")
          (wakeStale "ambiguous wake requires reconciliation before claiming")
        if receipt.outboxAction = "none" ∨ receipt.outboxState = "delivered" then
          return (some receipt, store)
        else do
          let running := store.ledger.wakeLeases[commandId]?.filter fun lease =>
            receipt.outboxState == "claimed" && nowMs < lease.leaseExpiresAtMs
          match running with
          | some lease => do
              refuse (lease.claimToken != claimToken)
                (wakeStale "wake is claimed by another owner")
              return (some receipt, store)
          | none => do
              let outboxAttempt ← require (checkedAdd receipt.outboxAttempt 1)
                (wakeInvalid "wake attempt overflow")
              let updated := { receipt with outboxState := "claimed", outboxAttempt }
              updated.validate
              return (some updated, store.putReceipt commandId updated resolution
                (some { claimToken, leaseExpiresAtMs }))

def completeControllerCommandWake (store : MemoryStore)
    (commandId commandDigest claimToken : String) (attempt : Nat) (outcome : String) :
    StoreResult (Option ControllerCommandReceipt) :=
  store.atomically do
    refuse (outcome != "delivered" && outcome != "ambiguous")
      (wakeInvalid "wake completion outcome must be delivered or ambiguous")
    match store.ledger.commandReceipts[commandId]? with
    | none => return (none, store)
    | some (receipt, resolution) => do
        refuse (receipt.commandDigest != commandDigest)
          (commandError "conflict" "wake command digest conflicts")
        if receipt.outboxState = "delivered" ∨ receipt.outboxState = "ambiguous" then do
          refuse (receipt.outboxState != outcome)
            (commandError "stale" "controller wake has already completed")
          return (some receipt, store)
        else do
          refuse
            (receipt.outboxState != "claimed" || receipt.outboxAttempt != attempt ||
              store.ledger.wakeLeases[commandId]?.all (·.claimToken != claimToken))
            (wakeStale "wake owner or attempt is stale")
          let updated := { receipt with outboxState := outcome }
          updated.validate
          return (some updated, store.putReceipt commandId updated resolution none)

/-- The decision about an ambiguous wake; `retry` is written as the outbox state. -/
def reconcileControllerCommandWake (store : MemoryStore) (commandId commandDigest : String)
    (outcome : String) : StoreResult (Option ControllerCommandReceipt) :=
  store.atomically do
    refuse (outcome != "delivered" && outcome != "retry")
      (wakeInvalid "wake reconciliation outcome must be delivered or retry")
    match store.ledger.commandReceipts[commandId]? with
    | none => return (none, store)
    | some (receipt, resolution) => do
        refuse (receipt.commandDigest != commandDigest)
          (commandError "conflict" "wake command digest conflicts")
        refuse (receipt.outboxState != "ambiguous") (wakeStale "wake is not ambiguous")
        let updated := { receipt with outboxState := outcome }
        updated.validate
        return (some updated, store.putReceipt commandId updated resolution
          store.ledger.wakeLeases[commandId]?)

/-- Whether the lease of a claimed wake has run out. -/
def wakeExpired (store : MemoryStore) (commandId : String) (nowMs : Nat) : Bool :=
  store.ledger.wakeLeases[commandId]?.any (·.leaseExpiresAtMs ≤ nowMs)

/-- The wakes of a checkpoint that are free to be dispatched, in the order of their
revisions. -/
def wakeCandidates (store : MemoryStore) (checkpointKey : String) (nowMs : Nat) : List String :=
  let due := store.ledger.commandReceipts.toList.filter fun (commandId, receipt, _) =>
    receipt.handle.checkpointKey == checkpointKey &&
      receipt.outboxAction == "recovery_dispatch" &&
      (receipt.outboxState == "pending" ||
        (receipt.outboxState == "claimed" && store.wakeExpired commandId nowMs))
  (due.mergeSort fun left right =>
    left.2.1.expectedRevision < right.2.1.expectedRevision ||
      (left.2.1.expectedRevision == right.2.1.expectedRevision && left.1 ≤ right.1)).map (·.1)

/-- Hand one wake back to the dispatcher. -/
def reapWake (store : MemoryStore) (checkpointKey commandId : String) (nowMs : Nat) :
    StoreResult (Option ControllerCommandWakeRecord) :=
  match store.ledger.commandReceipts[commandId]? with
  | none => (.ok none, store)
  | some (receipt, resolution) =>
      if receipt.handle.checkpointKey ≠ checkpointKey ∨
          receipt.outboxAction ≠ "recovery_dispatch" then
        (.ok none, store)
      else if receipt.outboxState = "pending" then
        (some <$> unclaimedWake receipt, store)
      else if receipt.outboxState ≠ "claimed" ∨ !store.wakeExpired commandId nowMs then
        (.ok none, store)
      else
        let updated := { receipt with outboxState := "pending" }
        match updated.validate with
        | .error error => (.error error, store)
        | .ok () =>
            (some <$> unclaimedWake updated,
              store.putReceipt commandId updated resolution none)

def reapWakes (store : MemoryStore) (checkpointKey : String) (nowMs : Nat) :
    List String → StoreResult (List ControllerCommandWakeRecord)
  | [] => (.ok [], store)
  | commandId :: rest =>
      match store.reapWake checkpointKey commandId nowMs with
      | (.error error, after) => (.error error, after)
      | (.ok reaped, after) =>
          let (later, final) := after.reapWakes checkpointKey nowMs rest
          (later.map (reaped.toList ++ ·), final)

def reapControllerCommandWakes (store : MemoryStore) (checkpointKey : String) (nowMs : Nat) :
    StoreResult (List ControllerCommandWakeRecord) :=
  store.reapWakes checkpointKey nowMs (store.wakeCandidates checkpointKey nowMs)

end MemoryStore

end

namespace MemoryStore

def getControllerCommandReceipt (store : MemoryStore) (commandId : String) :
    Option ControllerCommandReceipt :=
  store.ledger.commandReceipts[commandId]?.map (·.1)

def getControllerCommand (store : MemoryStore) (commandId : String) : Option ControllerCommand :=
  store.ledger.commands[commandId]?

/-- Remove a checkpoint with its archive, receipts and ledger rows. -/
def deleteCheckpoint (store : MemoryStore) (checkpointKey : String) : MemoryStore :=
  let commandReceipts := store.ledger.commandReceipts.filter fun _ row =>
    row.1.handle.checkpointKey != checkpointKey
  { checkpoints := store.checkpoints.erase checkpointKey
    history := store.history.erase checkpointKey
    deferredReceipts := store.deferredReceipts.filter fun _ receipt =>
      receipt.handle.checkpointKey != checkpointKey
    ledger := {
      hostInteractions := store.ledger.hostInteractions.filter fun _ record =>
        record.checkpointKey != checkpointKey
      notifications := store.ledger.notifications.filter fun _ notification =>
        notification.checkpointKey != checkpointKey
      commandReceipts
      commands := store.ledger.commands.filter fun _ command =>
        command.handle.checkpointKey != checkpointKey
      wakeLeases := store.ledger.wakeLeases.filter fun commandId _ =>
        commandReceipts.contains commandId } }

end MemoryStore

end VvAgent
