import VvAgent.Store.MemoryDelivery

/-!
What the SQL and the Redis store make of a notification row when it is claimed, completed
or reconciled. The two stores share these steps and differ in how they keep the row. The
lemmas say when the new row is a valid one, given that the old one was: the identity of a
notification is never touched, so only the times, the attempt and the texts matter.
-/

namespace VvAgent
open Lib Lib.Outcome

/-- `saturating_add` on `u64`. -/
def saturatingAdd (value increment : Nat) : Nat :=
  if value + increment < UInt64.size then value + increment else UInt64.size - 1

/-- The checks on a reconciliation that are made before any row is read. -/
def guardDecision (outcome : String) (abortReason : Option String) : CheckpointResult Unit :=
  refuse
    (!(["delivered", "retry", "abort"].contains outcome) ||
      (outcome == "abort" && abortReason.all isBlank))
    (notificationConflict "notification reconciliation payload is invalid")

/-- Outcomes that are no decision lead nowhere. -/
theorem reconciledState_eq_none {outcome : String}
    (hunknown : ["delivered", "retry", "abort"].contains outcome = false) :
    MemoryStore.reconciledState outcome = none := by
  unfold MemoryStore.reconciledState
  split
  · exact absurd hunknown (by decide)
  · exact absurd hunknown (by decide)
  · exact absurd hunknown (by decide)
  · rfl

namespace HostInteractionNotificationRecord

/-- Whether a row may be claimed: nobody holds it, or its lease has run out. -/
def claimable (row : HostInteractionNotificationRecord) (nowMs : Nat) : Bool :=
  row.outboxState == .pending ||
    (row.outboxState == .claimed && row.leaseExpiresAtMs.any (· ≤ nowMs))

def claimedBy (row : HostInteractionNotificationRecord) (claimToken : String)
    (leaseExpiresAtMs : Nat) : HostInteractionNotificationRecord :=
  { row with
    outboxState := .claimed
    claimToken := some claimToken
    leaseExpiresAtMs := some leaseExpiresAtMs
    attempt := saturatingAdd row.attempt 1
    deliveredAtMs := none
    abortedAtMs := none
    abortReason := none
    lastError := none }

/-- Whether a row is held under this token, for this attempt at this payload. -/
def heldUnder (row : HostInteractionNotificationRecord) (payloadDigest claimToken : String)
    (attempt : Nat) : Bool :=
  row.payloadDigest == payloadDigest && row.outboxState == .claimed &&
    row.claimToken == some claimToken && row.attempt == attempt

def completed (row : HostInteractionNotificationRecord) (outcome : String) (nowMs : Nat)
    (error : Option String) : CheckpointResult HostInteractionNotificationRecord :=
  match outcome with
  | "delivered" =>
      .ok { row with
        outboxState := .delivered
        deliveredAtMs := some nowMs
        lastError := none
        claimToken := none
        leaseExpiresAtMs := none }
  | "ambiguous" =>
      .ok { row with
        outboxState := .ambiguous
        lastError := error
        claimToken := none
        leaseExpiresAtMs := none }
  | _ => .error (notificationConflict "notification completion outcome is invalid")

/-- The row after a decision that leads to `target`, for which only the states an operator
can choose are asked. -/
def reconciled (row : HostInteractionNotificationRecord) (target : NotificationOutboxState)
    (nowMs : Nat) (abortReason : Option String) : HostInteractionNotificationRecord :=
  { row with
    outboxState := target
    deliveredAtMs := if target = .delivered then some nowMs else row.deliveredAtMs
    abortedAtMs := if target = .aborted then some nowMs else row.abortedAtMs
    abortReason := if target = .aborted then abortReason else row.abortReason
    lastError := none
    claimToken := none
    leaseExpiresAtMs := none }

section
variable [Platform]

/-- The identity of a row goes with its payload. -/
structure Bound (row : HostInteractionNotificationRecord) : Prop where
  payload : row.payload.validate = .ok ()
  digest : row.payload.digest = .ok row.payloadDigest
  notificationId : row.notificationId = row.payload.notificationId
  recordId : row.recordId = row.payload.recordId
  sha256 : isSha256 row.payloadDigest = true

/-- The attempt and the times of a row are JSON-safe. -/
def safeNumbers (row : HostInteractionNotificationRecord) : Bool :=
  row.attempt ≤ maxWireInteger && row.leaseExpiresAtMs.all (· ≤ maxWireInteger) &&
    row.deliveredAtMs.all (· ≤ maxWireInteger) && row.abortedAtMs.all (· ≤ maxWireInteger)

/-- A text is short enough for a row. -/
def fits (text : String) : Bool := text.utf8ByteSize ≤ hostInteractionContentMaxUtf8Bytes

theorem validate_eq_ok (row : HostInteractionNotificationRecord) :
    row.validate = .ok () ↔
      row.Bound ∧ row.claimToken.isSome = row.leaseExpiresAtMs.isSome ∧
        row.safeNumbers = true ∧ (row.abortReason.all fun text => !isBlank text && fits text) ∧
        row.lastError.all fits = true ∧ row.lifecycleOk = true := by
  simp only [validate, bind_eq_ok, exists_const, refuse_eq_ok, Bool.or_eq_false_iff,
    bne_eq_false_iff_eq, decide_eq_false_iff_not, Nat.not_lt, Option.any_eq_false,
    Bool.not_eq_false', safeNumbers, fits, Bool.and_eq_true, decide_eq_true_eq,
    Option.all_eq_true, Bool.not_eq_true']
  constructor
  · rintro ⟨_, hpayload, digest, hdigest, ⟨⟨hid, hrecord⟩, rfl⟩, hsha, hpaired, hnumbers,
      ⟨hreason, herror⟩, hlifecycle⟩
    exact ⟨⟨hpayload, hdigest, hid, hrecord, hsha⟩, hpaired, hnumbers, hreason, herror, hlifecycle⟩
  · rintro ⟨⟨hpayload, hdigest, hid, hrecord, hsha⟩, hpaired, hnumbers, hreason, herror,
      hlifecycle⟩
    exact ⟨(), hpayload, _, hdigest, ⟨⟨hid, hrecord⟩, rfl⟩, hsha, hpaired, hnumbers,
      ⟨hreason, herror⟩, hlifecycle⟩

variable {row : HostInteractionNotificationRecord}

/-- A valid row that has not been delivered or aborted carries nothing of either. -/
theorem open_of_valid (hvalid : row.validate = .ok ())
    (hopen : row.outboxState = .pending ∨ row.outboxState = .claimed ∨
      row.outboxState = .ambiguous) :
    row.deliveredAtMs = none ∧ row.abortedAtMs = none ∧ row.abortReason = none := by
  obtain ⟨-, -, -, -, -, hlifecycle⟩ := (validate_eq_ok row).mp hvalid
  rcases hopen with hstate | hstate | hstate <;>
    simp only [lifecycleOk, hstate, Bool.and_eq_true, Option.isNone_iff_eq_none] at hlifecycle
  · exact ⟨hlifecycle.2.1.1, hlifecycle.2.1.2, hlifecycle.2.2⟩
  · exact ⟨hlifecycle.1.2.1.1, hlifecycle.1.2.1.2, hlifecycle.1.2.2⟩
  · exact ⟨hlifecycle.2.1.1, hlifecycle.2.1.2, hlifecycle.2.2⟩

theorem attempt_le_of_valid (hvalid : row.validate = .ok ()) : row.attempt ≤ maxWireInteger := by
  obtain ⟨-, -, hnumbers, -⟩ := (validate_eq_ok row).mp hvalid
  simp only [safeNumbers, Bool.and_eq_true, decide_eq_true_eq] at hnumbers
  exact hnumbers.1.1.1

theorem bound_of_valid (hvalid : row.validate = .ok ()) : row.Bound :=
  ((validate_eq_ok row).mp hvalid).1

omit [Platform] in
theorem saturatingAdd_one {value : Nat} (hsafe : value ≤ maxWireInteger) :
    saturatingAdd value 1 = value + 1 := by
  unfold saturatingAdd
  rw [if_pos]
  have hwide : maxWireInteger + 1 < UInt64.size := by decide
  omega

/-- A claim makes a valid row exactly when the attempts have not run out and the lease is
JSON-safe. -/
theorem claimedBy_valid_iff (hvalid : row.validate = .ok ()) (token : String) (lease : Nat) :
    (row.claimedBy token lease).validate = .ok () ↔
      row.attempt < maxWireInteger ∧ lease ≤ maxWireInteger := by
  obtain ⟨hpayload, hdigest, hid, hrecord, hsha⟩ := bound_of_valid hvalid
  have hnext := saturatingAdd_one (attempt_le_of_valid hvalid)
  rw [validate_eq_ok]
  constructor
  · rintro ⟨-, -, hnumbers, -⟩
    simp only [safeNumbers, claimedBy, hnext, Bool.and_eq_true, decide_eq_true_eq,
      Option.all_some, Option.all_none] at hnumbers
    omega
  · rintro ⟨hattempt, hlease⟩
    refine ⟨⟨hpayload, hdigest, hid, hrecord, hsha⟩, rfl, ?_, rfl, rfl, ?_⟩
    · simp only [safeNumbers, claimedBy, hnext, Bool.and_eq_true, decide_eq_true_eq,
        Option.all_some, Option.all_none]
      exact ⟨⟨⟨by omega, hlease⟩, trivial⟩, trivial⟩
    · simp [lifecycleOk, claimedBy, hnext]

/-- A completion makes a valid row exactly when the time of a delivery is JSON-safe, and
the error of an unclear one is short enough. -/
theorem completed_valid_iff {updated : HostInteractionNotificationRecord} {outcome : String}
    {nowMs : Nat} {error : Option String} (hvalid : row.validate = .ok ())
    (hstate : row.outboxState = .claimed)
    (hdone : row.completed outcome nowMs error = .ok updated) :
    updated.validate = .ok () ↔
      (outcome = "delivered" → nowMs ≤ maxWireInteger) ∧
        (outcome = "ambiguous" → error.all fits = true) := by
  obtain ⟨hpayload, hdigest, hid, hrecord, hsha⟩ := bound_of_valid hvalid
  obtain ⟨hdelivered, haborted, hreason⟩ := open_of_valid hvalid (.inr (.inl hstate))
  have hattempt := attempt_le_of_valid hvalid
  unfold completed at hdone
  split at hdone
  · cases hdone
    rw [validate_eq_ok]
    simp only [forall_const, String.reduceEq, false_implies, and_true]
    constructor
    · rintro ⟨-, -, hnumbers, -⟩
      simp only [safeNumbers, Bool.and_eq_true, decide_eq_true_eq, Option.all_some] at hnumbers
      exact hnumbers.1.2
    · intro hnow
      exact ⟨⟨hpayload, hdigest, hid, hrecord, hsha⟩, rfl,
        by simp [safeNumbers, hattempt, hnow, haborted], by simp [hreason], rfl,
        by simp [lifecycleOk, haborted, hreason]⟩
  · cases hdone
    rw [validate_eq_ok]
    simp only [forall_const, String.reduceEq, false_implies, true_and]
    constructor
    · rintro ⟨-, -, -, -, herror, -⟩
      exact herror
    · intro herror
      exact ⟨⟨hpayload, hdigest, hid, hrecord, hsha⟩, rfl,
        by simp [safeNumbers, hattempt, hdelivered, haborted], by simp [hreason], herror,
        by simp [lifecycleOk, hdelivered, haborted, hreason]⟩
  · cases hdone

/-- A decision makes a valid row exactly when the time it is stamped with is JSON-safe, and
the reason of an abort is one. -/
theorem reconciled_valid_iff {outcome : String} {target : NotificationOutboxState} {nowMs : Nat}
    {abortReason : Option String} (hvalid : row.validate = .ok ())
    (hstate : row.outboxState = .ambiguous)
    (htarget : MemoryStore.reconciledState outcome = some target) :
    (row.reconciled target nowMs abortReason).validate = .ok () ↔
      (target ≠ .pending → nowMs ≤ maxWireInteger) ∧
        (target = .aborted →
          abortReason.any (fun text => !isBlank text && fits text) = true) := by
  obtain ⟨hpayload, hdigest, hid, hrecord, hsha⟩ := bound_of_valid hvalid
  obtain ⟨hdelivered, haborted, hreason⟩ := open_of_valid hvalid (.inr (.inr hstate))
  have hattempt := attempt_le_of_valid hvalid
  have hbound : (row.reconciled target nowMs abortReason).Bound :=
    ⟨hpayload, hdigest, hid, hrecord, hsha⟩
  rw [validate_eq_ok, and_iff_right hbound]
  unfold MemoryStore.reconciledState at htarget
  split at htarget <;> cases htarget
  · simp [reconciled, safeNumbers, hattempt, haborted, hreason, lifecycleOk]
  · simp [reconciled, safeNumbers, hattempt, hdelivered, haborted, hreason, lifecycleOk]
  · cases abortReason with
    | none => simp [reconciled, safeNumbers, lifecycleOk]
    | some reason =>
        simp only [reconciled, safeNumbers, lifecycleOk, hattempt, hdelivered, if_true,
          reduceCtorEq, if_false, Option.isSome_none, Option.all_none, Option.all_some,
          Option.any_some, Option.isNone_none, Option.isSome_some, decide_true, Bool.true_and,
          Bool.and_eq_true, decide_eq_true_eq, Bool.not_eq_true', true_and, ne_eq,
          not_false_eq_true, forall_const]
        constructor
        · rintro ⟨hnow, htext, -⟩
          exact ⟨hnow, htext⟩
        · rintro ⟨hnow, htext⟩
          exact ⟨hnow, htext, htext.1⟩

end

end HostInteractionNotificationRecord

end VvAgent
