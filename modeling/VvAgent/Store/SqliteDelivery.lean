import VvAgent.Store.NotificationRow
import VvAgent.Store.RedisRows

/-!
Deliveries in the SQLite store. The columns of a row are texts and 64-bit integers; the
payload of a notification is a column of JSON text. A statement that writes is the last
one of its transaction, and a transaction that fails is rolled back.
-/

namespace VvAgent
open Lib Lib.Outcome

/-- One more than the largest SQLite integer. -/
def sqliteIntegerBound : Nat := 9223372036854775808

def toI64 (value : Nat) (field : String) : CheckpointResult Int := do
  refuse (sqliteIntegerBound ≤ value)
    ⟨"checkpoint_integer_invalid", field ++ " does not fit SQLite INTEGER"⟩
  return value

def toU64 (value : Int) : CheckpointResult Nat := do
  refuse (value < 0) ⟨"checkpoint_row_invalid", "negative SQLite integer in checkpoint"⟩
  return value.toNat

/-- `transpose` of a conversion under an option. -/
def convertOption {α β : Type} (convert : α → CheckpointResult β) :
    Option α → CheckpointResult (Option β)
  | none => .ok none
  | some value => do return some (← convert value)

/-! JSON-safe numbers go into columns and back. -/

theorem toI64_of_safe {value : Nat} (hsafe : value ≤ maxWireInteger) (field : String) :
    toI64 value field = .ok (value : Int) := by
  have hbound : maxWireInteger < sqliteIntegerBound := by decide
  have hsmall : decide (sqliteIntegerBound ≤ value) = false := by
    rw [decide_eq_false_iff_not]
    omega
  simp [toI64, hsmall]

theorem toU64_natCast (value : Nat) : toU64 (value : Int) = .ok value := by
  have hnonneg : decide ((value : Int) < 0) = false := by
    rw [decide_eq_false_iff_not]
    omega
  simp [toU64, hnonneg]

theorem convertOption_toI64 {value : Option Nat} (hsafe : ∀ n, value = some n → n ≤ maxWireInteger)
    (field : String) :
    convertOption (toI64 · field) value = .ok (value.map fun n : Nat => (n : Int)) := by
  cases value with
  | none => rfl
  | some n => simp [convertOption, toI64_of_safe (hsafe n rfl)]

theorem convertOption_toU64 (value : Option Nat) :
    convertOption toU64 (value.map fun n : Nat => (n : Int)) = .ok value := by
  cases value with
  | none => rfl
  | some n => simp [convertOption, toU64_natCast]

/-- A row of `host_interaction_notification_outbox`. -/
structure SqliteNotification where
  notificationId : String
  checkpointKey : String
  recordId : String
  payload : Json
  payloadDigest : String
  outboxState : String
  claimToken : Option String
  leaseExpiresAtMs : Option Int
  attempt : Int
  deliveredAtMs : Option Int
  abortedAtMs : Option Int
  abortReason : Option String
  lastError : Option String

/-- The rows of `host_interaction_notification_outbox` under their primary key. -/
abbrev SqliteNotifications := Table SqliteNotification

section
variable [Platform]

/-- The columns a notification is inserted with. -/
def SqliteNotification.of (row : HostInteractionNotificationRecord) :
    CheckpointResult SqliteNotification := do
  let leaseExpiresAtMs ← convertOption (toI64 · "lease_expires_at_ms") row.leaseExpiresAtMs
  let attempt ← toI64 row.attempt "attempt"
  let deliveredAtMs ← convertOption (toI64 · "delivered_at_ms") row.deliveredAtMs
  let abortedAtMs ← convertOption (toI64 · "aborted_at_ms") row.abortedAtMs
  return {
    notificationId := row.notificationId
    checkpointKey := row.checkpointKey
    recordId := row.recordId
    payload := row.payload.toValue
    payloadDigest := row.payloadDigest
    outboxState := row.outboxState.asStr
    claimToken := row.claimToken
    leaseExpiresAtMs, attempt, deliveredAtMs, abortedAtMs
    abortReason := row.abortReason
    lastError := row.lastError }

/-- The record in the columns of a row. -/
def SqliteNotification.read (columns : SqliteNotification) :
    CheckpointResult HostInteractionNotificationRecord := do
  let payload ← HostInteractionNotificationPayload.fromValue columns.payload
  let outboxState ← require (NotificationOutboxState.parse columns.outboxState)
    (notificationConflict "unknown notification outbox state")
  let leaseExpiresAtMs ← convertOption toU64 columns.leaseExpiresAtMs
  let attempt ← toU64 columns.attempt
  let deliveredAtMs ← convertOption toU64 columns.deliveredAtMs
  let abortedAtMs ← convertOption toU64 columns.abortedAtMs
  let record : HostInteractionNotificationRecord := {
    notificationId := columns.notificationId
    checkpointKey := columns.checkpointKey
    recordId := columns.recordId
    payload
    payloadDigest := columns.payloadDigest
    outboxState
    claimToken := columns.claimToken
    leaseExpiresAtMs, attempt, deliveredAtMs, abortedAtMs
    abortReason := columns.abortReason
    lastError := columns.lastError }
  record.validate
  return record

namespace SqliteNotifications

abbrev Outcome :=
  CheckpointResult (Option HostInteractionNotificationRecord) × SqliteNotifications

/-- A failed transaction is rolled back. -/
def transaction (rows : SqliteNotifications)
    (body : CheckpointResult (Option HostInteractionNotificationRecord × SqliteNotifications)) :
    Outcome :=
  match body with
  | .ok (value, after) => (.ok value, after)
  | .error error => (.error error, rows)

def loadNotification (rows : SqliteNotifications) (notificationId : String) :
    CheckpointResult (Option HostInteractionNotificationRecord) :=
  convertOption SqliteNotification.read rows[notificationId]?

/-- The update of the row of a notification; the identity columns select it and stay. -/
def updateNotification (rows : SqliteNotifications) (row : HostInteractionNotificationRecord) :
    CheckpointResult SqliteNotifications := do
  row.validate
  let columns ← SqliteNotification.of row
  return rows.alter row.notificationId fun stored =>
    stored.map fun stored =>
      if stored.checkpointKey = row.checkpointKey ∧ stored.payloadDigest = row.payloadDigest then
        { stored with
          outboxState := columns.outboxState
          claimToken := columns.claimToken
          leaseExpiresAtMs := columns.leaseExpiresAtMs
          attempt := columns.attempt
          deliveredAtMs := columns.deliveredAtMs
          abortedAtMs := columns.abortedAtMs
          abortReason := columns.abortReason
          lastError := columns.lastError }
      else stored

def claimHostInteractionNotification (rows : SqliteNotifications)
    (notificationId payloadDigest claimToken : String) (leaseExpiresAtMs nowMs : Nat) : Outcome :=
  rows.transaction do
    MemoryStore.guardLease claimToken leaseExpiresAtMs nowMs
      (notificationConflict
        "notification claim token must be non-empty and lease must be in the future")
    match ← rows.loadNotification notificationId with
    | none => return (none, rows)
    | some row => do
        refuse (row.payloadDigest != payloadDigest)
          (notificationConflict "notification payload digest does not match")
        if row.claimable nowMs then do
          let updated := row.claimedBy claimToken leaseExpiresAtMs
          let after ← rows.updateNotification updated
          return (some updated, after)
        else return (none, rows)

def completeHostInteractionNotification (rows : SqliteNotifications)
    (notificationId payloadDigest claimToken : String) (attempt : Nat) (outcome : String)
    (nowMs : Nat) (error : Option String) : Outcome :=
  rows.transaction do
    match ← rows.loadNotification notificationId with
    | none => return (none, rows)
    | some row => do
        if !row.heldUnder payloadDigest claimToken attempt then return (none, rows)
        else do
          let updated ← row.completed outcome nowMs error
          let after ← rows.updateNotification updated
          return (some updated, after)

def reconcileHostInteractionNotification (rows : SqliteNotifications)
    (notificationId payloadDigest outcome : String) (nowMs : Nat) (abortReason : Option String) :
    Outcome :=
  rows.transaction do
    guardDecision outcome abortReason
    match ← rows.loadNotification notificationId with
    | none => return (none, rows)
    | some row => do
        refuse (row.payloadDigest != payloadDigest)
          (notificationConflict "notification payload digest does not match")
        let target ← require (MemoryStore.reconciledState outcome)
          (notificationConflict "notification reconciliation outcome is invalid")
        if row.outboxState = target then return (some row, rows)
        else do
          refuse (row.outboxState != .ambiguous)
            ⟨"notification_stale", "notification is not ambiguous"⟩
          let updated := row.reconciled target nowMs abortReason
          let after ← rows.updateNotification updated
          return (some updated, after)

end SqliteNotifications

end

end VvAgent
