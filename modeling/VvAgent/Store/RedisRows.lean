import VvAgent.Checkpoint.RoundTrip

/-!
The rows of the Redis store that carry a delivery: the outbox row of a controller wake and
the row of a host notification. Both are JSON objects. The writer of a row writes what
the row holds; the reader asks for more, and a row that it refuses can never be claimed,
completed or handed back again. The lemmas say which rows are read back.
-/

namespace VvAgent
open Lib Lib.Outcome Wire

structure RedisControllerWakeOutbox where
  commandId : String
  commandDigest : String
  outboxId : String
  outboxAction : String
  outboxDestination : Option String
  outboxState : String
  attempt : Nat
  claimToken : Option String := none
  leaseExpiresAtMs : Option Nat := none
  deliveredAtMs : Option Nat := none
  lastError : Option String := none
  deriving DecidableEq

/-- The schema of a wake row. -/
def redisWakeSchema : String := "vv-agent.controller-command-wake.v1"

section
variable [Platform]

namespace RedisControllerWakeOutbox

def fromReceiptUnchecked (receipt : ControllerCommandReceipt) :
    CheckpointResult RedisControllerWakeOutbox := do
  let outboxId ← controllerReceiptOutboxId receipt.commandId receipt.commandDigest
  return {
    commandId := receipt.commandId
    commandDigest := receipt.commandDigest
    outboxId
    outboxAction := receipt.outboxAction
    outboxDestination := receipt.outboxDestination
    outboxState := receipt.outboxState
    attempt := receipt.outboxAttempt }

def validate (row : RedisControllerWakeOutbox) : CheckpointResult Unit := do
  refuse (isBlank row.commandId || controllerCommandMaxUtf8Bytes < row.commandId.utf8ByteSize)
    (wakeInvalid "wake command_id is invalid")
  validateSha256 row.commandDigest "command_digest"
  let expected ← controllerReceiptOutboxId row.commandId row.commandDigest
  refuse (row.outboxId != expected)
    (wakeInvalid "wake outbox_id does not match command identity")
  refuse (row.outboxAction != "none" && row.outboxAction != "recovery_dispatch")
    (wakeInvalid "wake outbox_action is invalid")
  refuse
    (row.outboxAction == "none" &&
      (row.outboxDestination.isSome || row.outboxState != "delivered" || row.attempt != 0))
    (wakeInvalid "wake none action is invalid")
  refuse
    (row.outboxAction == "recovery_dispatch" &&
      row.outboxDestination != some "distributed_advance")
    (wakeInvalid "wake destination is invalid")
  refuse (!(["pending", "claimed", "delivered", "ambiguous"].contains row.outboxState))
    (wakeInvalid "wake outbox_state is invalid")
  refuse
    (maxWireInteger < row.attempt || row.leaseExpiresAtMs.any (maxWireInteger < ·) ||
      row.deliveredAtMs.any (maxWireInteger < ·))
    (wakeInvalid "wake lifecycle integer is invalid")
  refuse (row.claimToken.isSome != row.leaseExpiresAtMs.isSome)
    (wakeInvalid "wake claim and lease must be paired")
  refuse (row.claimToken.any fun token => isBlank token || 512 < token.utf8ByteSize)
    (wakeInvalid "wake claim token is invalid")
  refuse (row.lastError.any fun text => hostInteractionContentMaxUtf8Bytes < text.utf8ByteSize)
    (wakeInvalid "wake last_error is too large")
  refuse (row.outboxState == "claimed" && row.claimToken.isNone)
    (wakeInvalid "claimed wake has no owner")
  refuse (row.outboxState != "claimed" && row.claimToken.isSome)
    (wakeInvalid "unclaimed wake has an owner")
  refuse
    (row.outboxAction == "recovery_dispatch" && row.outboxState != "pending" && row.attempt < 1)
    (wakeInvalid "recovery wake requires an attempt")

def toValue (row : RedisControllerWakeOutbox) : Json :=
  .obj
    [("attempt", .nat row.attempt), ("claim_token", .optStr row.claimToken),
      ("command_digest", .str row.commandDigest), ("command_id", .str row.commandId),
      ("delivered_at_ms", .optNat row.deliveredAtMs), ("last_error", .optStr row.lastError),
      ("lease_expires_at_ms", .optNat row.leaseExpiresAtMs),
      ("outbox_action", .str row.outboxAction),
      ("outbox_destination", .optStr row.outboxDestination), ("outbox_id", .str row.outboxId),
      ("outbox_state", .str row.outboxState), ("schema_version", .str redisWakeSchema)]

def fields : List String :=
  ["schema_version", "command_id", "command_digest", "outbox_id", "outbox_action",
    "outbox_destination", "outbox_state", "attempt", "claim_token", "lease_expires_at_ms",
    "delivered_at_ms", "last_error"]

/-- A text that is not blank, or null. -/
def nullableString (object : JsonObject) (field : String) : CheckpointResult (Option String) :=
  match object.lookup field with
  | some .null => .ok none
  | some (.str text) => do
      refuse (isBlank text) (wakeInvalid ("wake " ++ field ++ " must be a string or null"))
      return some text
  | _ => .error (wakeInvalid ("wake " ++ field ++ " must be a string or null"))

def nullableInteger (object : JsonObject) (field : String) : CheckpointResult (Option Nat) :=
  match object.lookup field with
  | some .null => .ok none
  | some value => do
      let number ← require value.asU64?
        (wakeInvalid ("wake " ++ field ++ " must be an integer or null"))
      return some number
  | none => .error (wakeInvalid ("wake " ++ field ++ " is missing"))

/-- A text, or the empty text where there is none. -/
def textOrDefault (object : JsonObject) (field : String) : String :=
  (object.lookup field >>= Json.asStr?).getD ""

def fromValue (value : Json) : CheckpointResult RedisControllerWakeOutbox := do
  let object ← require value.asObject? (wakeInvalid "wake outbox must be an object")
  refuse
    (object.length != fields.length || fields.any fun field => !containsKey object field)
    (wakeInvalid "wake outbox has unknown or missing fields")
  refuse ((object.lookup "schema_version" >>= Json.asStr?) != some redisWakeSchema)
    (wakeInvalid "unsupported wake outbox schema_version")
  let outboxDestination ← nullableString object "outbox_destination"
  let attempt ← require (object.lookup "attempt" >>= Json.asU64?)
    (wakeInvalid "wake attempt is invalid")
  let claimToken ← nullableString object "claim_token"
  let leaseExpiresAtMs ← nullableInteger object "lease_expires_at_ms"
  let deliveredAtMs ← nullableInteger object "delivered_at_ms"
  let lastError ← nullableString object "last_error"
  let row : RedisControllerWakeOutbox := {
    commandId := textOrDefault object "command_id"
    commandDigest := textOrDefault object "command_digest"
    outboxId := textOrDefault object "outbox_id"
    outboxAction := textOrDefault object "outbox_action"
    outboxDestination
    outboxState := textOrDefault object "outbox_state"
    attempt, claimToken, leaseExpiresAtMs, deliveredAtMs, lastError }
  row.validate
  return row

end RedisControllerWakeOutbox

/-! The row of a notification. -/

namespace NotificationOutboxState

def asStr : NotificationOutboxState → String
  | .pending => "pending"
  | .claimed => "claimed"
  | .delivered => "delivered"
  | .ambiguous => "ambiguous"
  | .aborted => "aborted"

def parse : String → Option NotificationOutboxState
  | "pending" => some .pending
  | "claimed" => some .claimed
  | "delivered" => some .delivered
  | "ambiguous" => some .ambiguous
  | "aborted" => some .aborted
  | _ => none

omit [Platform] in
@[simp]
theorem parse_asStr (state : NotificationOutboxState) : parse state.asStr = some state := by
  cases state <;> rfl

end NotificationOutboxState

namespace RedisNotification

def conflict (message : String) : CheckpointError := ⟨"notification_conflict", message⟩

def encode (row : HostInteractionNotificationRecord) : Json :=
  .obj
    [("abort_reason", .optStr row.abortReason), ("aborted_at_ms", .optNat row.abortedAtMs),
      ("attempt", .nat row.attempt), ("checkpoint_key", .str row.checkpointKey),
      ("claim_token", .optStr row.claimToken), ("delivered_at_ms", .optNat row.deliveredAtMs),
      ("last_error", .optStr row.lastError),
      ("lease_expires_at_ms", .optNat row.leaseExpiresAtMs),
      ("notification_id", .str row.notificationId),
      ("outbox_state", .str row.outboxState.asStr), ("payload", row.payload.toValue),
      ("payload_digest", .str row.payloadDigest), ("record_id", .str row.recordId)]

def fields : List String :=
  ["notification_id", "checkpoint_key", "record_id", "payload", "payload_digest", "outbox_state",
    "claim_token", "lease_expires_at_ms", "attempt", "delivered_at_ms", "aborted_at_ms",
    "abort_reason", "last_error"]

def requiredText (object : JsonObject) (name : String) : CheckpointResult String := do
  let text ← require (object.lookup name >>= Json.asStr?)
    (conflict ("notification field " ++ name ++ " must be a non-empty string"))
  refuse (isBlank text) (conflict ("notification field " ++ name ++ " must be a non-empty string"))
  return text

/-- A text that is not empty, or null. -/
def nullableText (object : JsonObject) (name : String) : CheckpointResult (Option String) := do
  let value ← require (object.lookup name)
    (conflict ("notification field " ++ name ++ " is missing"))
  if value = .null then return none
  else do
    let text ← require value.asStr?
      (conflict ("notification field " ++ name ++ " must be string or null"))
    refuse (text == "") (conflict ("notification field " ++ name ++ " must be string or null"))
    return some text

def nullableU64 (object : JsonObject) (name : String) : CheckpointResult (Option Nat) := do
  let value ← require (object.lookup name)
    (conflict ("notification field " ++ name ++ " is missing"))
  if value = .null then return none
  else do
    let number ← require value.asU64?
      (conflict ("notification field " ++ name ++ " must be an unsigned integer or null"))
    return some number

def decode (value : Json) : CheckpointResult HostInteractionNotificationRecord := do
  let object ← require value.asObject? (conflict "notification record must be an object")
  refuse
    (object.length != fields.length ||
      (object.map Prod.fst).any fun key => !fields.contains key)
    (conflict "notification record has unknown or missing fields")
  let attempt ← require (object.lookup "attempt" >>= Json.asU64?)
    (conflict "notification attempt must be an unsigned integer")
  let outboxState ← require
    (object.lookup "outbox_state" >>= Json.asStr? >>= NotificationOutboxState.parse)
    (conflict "notification outbox state is invalid")
  let notificationId ← requiredText object "notification_id"
  let checkpointKey ← requiredText object "checkpoint_key"
  let recordId ← requiredText object "record_id"
  let stored ← require (object.lookup "payload") (conflict "notification payload is missing")
  let payload ← HostInteractionNotificationPayload.fromValue stored
  let payloadDigest ← requiredText object "payload_digest"
  let claimToken ← nullableText object "claim_token"
  let leaseExpiresAtMs ← nullableU64 object "lease_expires_at_ms"
  let deliveredAtMs ← nullableU64 object "delivered_at_ms"
  let abortedAtMs ← nullableU64 object "aborted_at_ms"
  let abortReason ← nullableText object "abort_reason"
  let lastError ← nullableText object "last_error"
  let row : HostInteractionNotificationRecord :=
    { notificationId, checkpointKey, recordId, payload, payloadDigest, outboxState, claimToken,
      leaseExpiresAtMs, attempt, deliveredAtMs, abortedAtMs, abortReason, lastError }
  row.validate
  return row

end RedisNotification

/-! What the readers take. -/

section
variable {object : JsonObject} {field : String}

omit [Platform] in
theorem RedisControllerWakeOutbox.nullableString_eq_ok {text : Option String} :
    nullableString object field = .ok text ↔
      object.lookup field = some (.optStr text) ∧ text.all (!isBlank ·) = true := by
  unfold nullableString
  cases hfound : object.lookup field with
  | none => simp
  | some value =>
      cases value with
      | null => cases text <;> simp [Json.optStr]
      | str found =>
          simp only [bind_eq_ok, refuse_eq_ok, exists_const, pure_ok, Except.ok.injEq,
            Option.some.injEq]
          cases text with
          | none => simp [Json.optStr]
          | some text =>
              simp only [Option.some.injEq, Json.optStr, Json.str.injEq, Option.all_some,
                Bool.not_eq_true']
              constructor
              · rintro ⟨hblank, rfl⟩
                exact ⟨rfl, hblank⟩
              · rintro ⟨rfl, hblank⟩
                exact ⟨hblank, rfl⟩
      | _ => cases text <;> simp [Json.optStr]

omit [Platform] in
theorem RedisControllerWakeOutbox.nullableInteger_eq_ok {number : Option Nat} :
    nullableInteger object field = .ok number ↔ object.lookup field = some (.optNat number) := by
  unfold nullableInteger
  cases hfound : object.lookup field with
  | none => simp
  | some value =>
      cases value with
      | null => cases number <;> simp [Json.optNat, Json.nat]
      | num read =>
          cases read with
          | posInt n => cases number <;> simp [Json.optNat, Json.nat, Json.asU64?]
          | _ => cases number <;> simp [Json.optNat, Json.nat, Json.asU64?]
      | _ => cases number <;> simp [Json.optNat, Json.nat, Json.asU64?]

omit [Platform] in
theorem RedisNotification.requiredText_eq_ok {text : String} :
    requiredText object field = .ok text ↔
      object.lookup field = some (.str text) ∧ isBlank text = false := by
  simp only [requiredText, bind_eq_ok, require_eq_ok, Option.bind_eq_bind,
    Option.bind_eq_some_iff, Json.asStr?_eq_some, refuse_eq_ok, exists_const, pure_ok,
    Except.ok.injEq]
  constructor
  · rintro ⟨_, ⟨_, hfound, rfl⟩, hblank, rfl⟩
    exact ⟨hfound, hblank⟩
  · rintro ⟨hfound, hblank⟩
    exact ⟨text, ⟨_, hfound, rfl⟩, hblank, rfl⟩

omit [Platform] in
theorem RedisNotification.nullableText_eq_ok {text : Option String} :
    nullableText object field = .ok text ↔
      object.lookup field = some (.optStr text) ∧ text ≠ some "" := by
  unfold nullableText
  cases hfound : object.lookup field with
  | none => simp
  | some value =>
      cases value with
      | null => cases text <;> simp [Json.optStr]
      | str found =>
          simp only [require_some, ok_bind, reduceCtorEq, if_false, Json.asStr?, bind_eq_ok,
            refuse_eq_ok, exists_const, pure_ok, Except.ok.injEq, Option.some.injEq,
            beq_eq_false_iff_ne]
          cases text with
          | none => simp [Json.optStr]
          | some text =>
              simp only [Option.some.injEq, Json.optStr, Json.str.injEq]
              constructor
              · rintro ⟨hempty, rfl⟩
                exact ⟨rfl, by simpa using hempty⟩
              · rintro ⟨rfl, hempty⟩
                exact ⟨by simpa using hempty, rfl⟩
      | _ => cases text <;> simp [Json.optStr, Json.asStr?]

omit [Platform] in
theorem RedisNotification.nullableU64_eq_ok {number : Option Nat} :
    nullableU64 object field = .ok number ↔ object.lookup field = some (.optNat number) := by
  unfold nullableU64
  cases hfound : object.lookup field with
  | none => simp
  | some value =>
      cases value with
      | null => cases number <;> simp [Json.optNat, Json.nat]
      | num read =>
          cases read with
          | posInt n => cases number <;> simp [Json.optNat, Json.nat, Json.asU64?]
          | _ => cases number <;> simp [Json.optNat, Json.nat, Json.asU64?]
      | _ => cases number <;> simp [Json.optNat, Json.nat, Json.asU64?]

end

/-- A valid wake row names a destination or none, and an owner that is not blank. -/
theorem RedisControllerWakeOutbox.validate_texts {row : RedisControllerWakeOutbox}
    (h : row.validate = .ok ()) :
    row.outboxDestination.all (!isBlank ·) = true ∧ row.claimToken.all (!isBlank ·) = true := by
  simp only [validate, bind_eq_ok, exists_const, refuse_eq_ok] at h
  obtain ⟨_, _, _, _, _, _, haction, hnone, hdispatch, _, _, _, htoken, _⟩ := h
  constructor
  · cases hdestination : row.outboxDestination with
    | none => rfl
    | some text =>
        simp only [hdestination, Option.isSome_some, Bool.true_or, Bool.and_true,
          beq_eq_false_iff_ne] at hnone
        simp only [Bool.and_eq_false_iff, bne_eq_false_iff_eq, hnone, false_or] at haction
        simp only [haction, hdestination, beq_self_eq_true, Bool.true_and,
          bne_eq_false_iff_eq, Option.some.injEq] at hdispatch
        subst hdispatch
        decide
  · cases htokens : row.claimToken with
    | none => rfl
    | some token =>
        simp only [htokens, Option.any_some, Bool.or_eq_false_iff] at htoken
        simp [htoken.1]

/-- A valid wake row is read back unless its error text is blank. -/
theorem RedisControllerWakeOutbox.fromValue_toValue_iff {row : RedisControllerWakeOutbox}
    (h : row.validate = .ok ()) :
    fromValue row.toValue = .ok row ↔ row.lastError.all (!isBlank ·) = true := by
  obtain ⟨hdestination, htoken⟩ := validate_texts h
  simp only [fromValue, bind_eq_ok, require_eq_ok, refuse_eq_ok, exists_const,
    nullableString_eq_ok, nullableInteger_eq_ok, pure_ok, Except.ok.injEq]
  constructor
  · rintro ⟨_, _, _, _, _, _, _, _, _, _, _, _, _, _, _, ⟨_, herror⟩, _, _, rfl⟩
    exact herror
  · intro herror
    exact ⟨_, rfl, by simp [fields, containsKey, List.lookup_cons],
      by simp [List.lookup_cons, Json.asStr?], _, ⟨rfl, hdestination⟩, _, rfl, _, ⟨rfl, htoken⟩, _, rfl, _, rfl, _, ⟨rfl, herror⟩,
      (), h, rfl⟩

theorem RedisNotification.decode_valid (value : Json) :
    Yields (decode value) fun row => row.validate = .ok () := by
  unfold decode
  iterate 16 refine Yields.bind fun _ _ => ?_
  exact Yields.checked _ _

/-- A notification row is read back if it is valid and no text of it is empty. -/
theorem RedisNotification.decode_encode_iff {row : HostInteractionNotificationRecord} :
    decode (encode row) = .ok row ↔
      row.validate = .ok () ∧ isBlank row.checkpointKey = false ∧ row.claimToken ≠ some "" ∧
        row.lastError ≠ some "" := by
  constructor
  · intro hread
    refine ⟨decode_valid _ _ hread, ?_⟩
    simp only [decode, bind_eq_ok, require_eq_ok, refuse_eq_ok, exists_const,
      requiredText_eq_ok, nullableText_eq_ok, nullableU64_eq_ok, pure_ok,
      Except.ok.injEq] at hread
    obtain ⟨_, _, _, _, _, _, _, _, _, _, ⟨_, hkey⟩, _, _, _, _, _, _, _, _, _, ⟨_, htoken⟩, _, _, _,
      _, _, _, _, _, _, ⟨_, herror⟩, _, _, rfl⟩ := hread
    exact ⟨hkey, htoken, herror⟩
  · rintro ⟨hvalid, hkey, htoken, herror⟩
    have hparts := hvalid
    simp only [HostInteractionNotificationRecord.validate, bind_eq_ok, exists_const,
      refuse_eq_ok, Bool.or_eq_false_iff, bne_eq_false_iff_eq, Bool.not_eq_false'] at hparts
    obtain ⟨_, hpayload, _, _, ⟨⟨hnotification, hrecord⟩, _⟩, hdigest, _, _, ⟨hreason, _⟩, _⟩ := hparts
    have hpayloadParts := hpayload
    simp only [HostInteractionNotificationPayload.validate, checkAll_eq_ok, List.forall_mem_cons,
      badIdentity, unit_guard_bind, refuse_eq_ok, Bool.or_eq_false_iff] at hpayloadParts
    obtain ⟨_, ⟨hnotificationId, hrecordId, _⟩, _⟩ := hpayloadParts
    rw [← hnotification] at hnotificationId
    rw [← hrecord] at hrecordId
    have hreasonText : row.abortReason ≠ some "" := by
      intro hempty
      simp only [hempty, Option.any_some, Bool.or_eq_false_iff] at hreason
      exact absurd hreason.1 (by decide)
    simp only [decode, bind_eq_ok, require_eq_ok, refuse_eq_ok, exists_const,
      requiredText_eq_ok, nullableText_eq_ok, nullableU64_eq_ok, pure_ok]
    exact ⟨_, rfl, by simp [fields], _, rfl, _, NotificationOutboxState.parse_asStr _, _,
      ⟨rfl, hnotificationId.1⟩, _, ⟨rfl, hkey⟩, _, ⟨rfl, hrecordId.1⟩, _, rfl, _,
      HostInteractionNotificationPayload.fromValue_toValue hpayload, _,
      ⟨rfl, isBlank_eq_false_of_isSha256 hdigest⟩, _, ⟨rfl, htoken⟩, _, rfl, _, rfl, _, rfl, _,
      ⟨rfl, hreasonText⟩, _, ⟨rfl, herror⟩, (), hvalid, rfl⟩

end

end VvAgent
