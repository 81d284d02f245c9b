import VvAgent.Store.RedisReadBack
import VvAgent.Store.SqliteDelivery

/-!
One notification in three stores. `NotificationCall.next` is the lifecycle of a row, as the
SQL and the Redis store run it: a closed row stays closed, an unclear one waits for a
decision, a live claim keeps everybody out. The in-memory store does not follow it when an
unclear or held row is claimed, and answers some refusals in another way; `Agrees` is what
a call and the row it meets have to satisfy for the three to go together.
-/

namespace VvAgent
open Lib Lib.Outcome HostInteractionNotificationRecord

/-- A call about one notification. -/
inductive NotificationCall where
  | claim (payloadDigest claimToken : String) (leaseExpiresAtMs nowMs : Nat)
  | complete (payloadDigest claimToken : String) (attempt : Nat) (outcome : String)
      (nowMs : Nat) (error : Option String)
  | reconcile (payloadDigest outcome : String) (nowMs : Nat) (abortReason : Option String)

namespace NotificationCall

/-- The row after a call, or nothing where the call is refused. -/
def next (call : NotificationCall) (row : HostInteractionNotificationRecord) :
    Option HostInteractionNotificationRecord :=
  match call with
  | .claim digest token lease now =>
      if isBlank token ∨ lease ≤ now ∨ row.payloadDigest ≠ digest ∨ row.claimable now = false then
        none
      else some (row.claimedBy token lease)
  | .complete digest token attempt outcome now error =>
      if row.heldUnder digest token attempt then (row.completed outcome now error).toOption
      else none
  | .reconcile digest outcome now reason =>
      if row.payloadDigest ≠ digest ∨ (outcome = "abort" ∧ reason.all isBlank = true) then none
      else
        match MemoryStore.reconciledState outcome with
        | none => none
        | some target =>
            if row.outboxState = target then some row
            else if row.outboxState = .ambiguous then some (row.reconciled target now reason)
            else none

/-- The row after a call; a refused call leaves it as it was. -/
def after (call : NotificationCall) (row : HostInteractionNotificationRecord) :
    HostInteractionNotificationRecord :=
  (call.next row).getD row

/-- The calls that the three stores treat alike. -/
def Agrees (call : NotificationCall) (row : HostInteractionNotificationRecord) : Prop :=
  match call with
  | .claim digest token lease now =>
      isBlank token = true ∨ lease ≤ now ∨ row.payloadDigest ≠ digest ∨
        (row.claimable now = true ∧ row.lastError = none ∧ row.attempt < maxWireInteger ∧
          lease ≤ maxWireInteger)
  | .complete digest token attempt outcome now error =>
      row.heldUnder digest token attempt = true ∧
        (outcome = "delivered" → now ≤ maxWireInteger ∧ error = none) ∧
        (outcome = "ambiguous" → error ≠ some "" ∧ error.all fits = true)
  | .reconcile digest outcome now reason =>
      (outcome = "abort" → reason.all (fun text => isBlank text || fits text) = true ∨
        row.payloadDigest ≠ digest ∨ row.outboxState ≠ .aborted ∧ row.outboxState ≠ .ambiguous) ∧
      (row.payloadDigest = digest → row.outboxState = .ambiguous →
        (outcome = "delivered" ∨ outcome = "retry" ∨
          outcome = "abort" ∧ reason.all isBlank = false) →
        row.lastError = none ∧ (outcome ≠ "retry" → now ≤ maxWireInteger))

/-- What a row may become under a call: a closed row stays; an unclear row is left only by a
decision, and never for a claim; a live claim is not given to anybody. -/
structure Lawful (call : NotificationCall) (row after : HostInteractionNotificationRecord) :
    Prop where
  closed : row.outboxState = .delivered ∨ row.outboxState = .aborted → after = row
  unclear : row.outboxState = .ambiguous → after = row ∨
    ∃ digest outcome now reason, call = .reconcile digest outcome now reason ∧
      MemoryStore.reconciledState outcome = some after.outboxState
  held : ∀ digest token lease now, call = .claim digest token lease now →
    row.outboxState = .claimed → row.leaseExpiresAtMs.any (now < ·) = true → after = row

theorem next_lawful (call : NotificationCall) (row : HostInteractionNotificationRecord) :
    call.Lawful row (call.after row) := by
  cases call with
  | claim digest token lease now =>
      dsimp only [after, next]
      split
      · exact ⟨fun _ => rfl, fun _ => .inl rfl, fun _ _ _ _ _ _ _ => rfl⟩
      · rename_i hclaims
        have hclaimable : row.claimable now = true := by
          cases hrow : row.claimable now with
          | true => rfl
          | false => exact absurd (.inr (.inr (.inr hrow))) hclaims
        simp only [claimable, Bool.or_eq_true, beq_iff_eq, Bool.and_eq_true] at hclaimable
        constructor
        · intro hclosed
          rcases hclaimable with hstate | ⟨hstate, _⟩ <;> rw [hstate] at hclosed <;> simp at hclosed
        · intro hunclear
          rcases hclaimable with hstate | ⟨hstate, _⟩ <;> rw [hstate] at hunclear <;> cases hunclear
        · intro _ _ _ _ hcall hheld hlive
          cases hcall
          rcases hclaimable with hstate | ⟨_, hexpired⟩
          · rw [hstate] at hheld
            cases hheld
          · cases hlease : row.leaseExpiresAtMs with
            | none => simp [hlease] at hlive
            | some expires =>
                simp only [hlease, Option.any_some, decide_eq_true_eq] at hlive hexpired
                omega
  | complete digest token attempt outcome now error =>
      dsimp only [after, next]
      split
      · rename_i hheld
        have hstate : row.outboxState = .claimed := by
          simp only [heldUnder, Bool.and_eq_true, beq_iff_eq] at hheld
          exact hheld.1.1.2
        constructor
        · intro hclosed
          rw [hstate] at hclosed
          simp at hclosed
        · intro hunclear
          rw [hstate] at hunclear
          cases hunclear
        · rintro _ _ _ _ ⟨⟩
      · exact ⟨fun _ => rfl, fun _ => .inl rfl, (by rintro _ _ _ _ ⟨⟩)⟩
  | reconcile digest outcome now reason =>
      dsimp only [after, next]
      split
      · exact ⟨fun _ => rfl, fun _ => .inl rfl, (by rintro _ _ _ _ ⟨⟩)⟩
      · cases htarget : MemoryStore.reconciledState outcome with
        | none => exact ⟨fun _ => rfl, fun _ => .inl rfl, (by rintro _ _ _ _ ⟨⟩)⟩
        | some target =>
            dsimp only
            split
            · exact ⟨fun _ => rfl, fun _ => .inl rfl, (by rintro _ _ _ _ ⟨⟩)⟩
            · split
              · rename_i hunclear
                refine ⟨fun hclosed => ?_, fun _ => .inr ⟨_, _, _, _, rfl, htarget⟩, (by rintro _ _ _ _ ⟨⟩)⟩
                rw [hunclear] at hclosed
                simp at hclosed
              · exact ⟨fun _ => rfl, fun _ => .inl rfl, (by rintro _ _ _ _ ⟨⟩)⟩

end NotificationCall

/-- The answer of a store to a call: the new row, or a refusal. -/
def Answers (result : CheckpointResult (Option HostInteractionNotificationRecord)) :
    Option HostInteractionNotificationRecord → Prop
  | some row => result = .ok (some row)
  | none => result.toBool = false

section
variable [Runtime]

/-- The three stores. -/
structure Stores where
  memory : MemoryStore
  sqlite : SqliteNotifications
  redis : RedisDelivery

/-- What the stores answer, in the order memory, SQLite, Redis, and the stores after a
call. -/
structure Answered where
  memory : CheckpointResult (Option HostInteractionNotificationRecord)
  sqlite : CheckpointResult (Option HostInteractionNotificationRecord)
  redis : CheckpointResult (Option HostInteractionNotificationRecord)
  stores : Stores

namespace Stores

/-- A call about the notification `id`, made to every store. -/
def ask (id : String) (call : NotificationCall) (stores : Stores) : Answered :=
  match call with
  | .claim digest token lease now =>
      let memory := stores.memory.claimHostInteractionNotification id digest token lease now
      let sqlite := stores.sqlite.claimHostInteractionNotification id digest token lease now
      let redis := stores.redis.claimHostInteractionNotification id digest token lease now
      ⟨memory.1, sqlite.1, redis.1, ⟨memory.2, sqlite.2, redis.2⟩⟩
  | .complete digest token attempt outcome now error =>
      let memory := stores.memory.completeHostInteractionNotification id digest token attempt
        outcome now error
      let sqlite := stores.sqlite.completeHostInteractionNotification id digest token attempt
        outcome now error
      let redis := stores.redis.completeHostInteractionNotification id digest token attempt
        outcome now error
      ⟨memory.1, sqlite.1, redis.1, ⟨memory.2, sqlite.2, redis.2⟩⟩
  | .reconcile digest outcome now reason =>
      let memory := stores.memory.reconcileHostInteractionNotification id digest outcome now reason
      let sqlite := stores.sqlite.reconcileHostInteractionNotification id digest outcome now reason
      let redis := stores.redis.reconcileHostInteractionNotification id digest outcome now reason
      ⟨memory.1, sqlite.1, redis.1, ⟨memory.2, sqlite.2, redis.2⟩⟩

end Stores

/-- The columns of a row whose numbers fit. -/
def SqliteNotification.columnsOf (row : HostInteractionNotificationRecord) :
    SqliteNotification where
  notificationId := row.notificationId
  checkpointKey := row.checkpointKey
  recordId := row.recordId
  payload := row.payload.toValue
  payloadDigest := row.payloadDigest
  outboxState := row.outboxState.asStr
  claimToken := row.claimToken
  leaseExpiresAtMs := row.leaseExpiresAtMs.map fun n : Nat => (n : Int)
  attempt := row.attempt
  deliveredAtMs := row.deliveredAtMs.map fun n : Nat => (n : Int)
  abortedAtMs := row.abortedAtMs.map fun n : Nat => (n : Int)
  abortReason := row.abortReason
  lastError := row.lastError

/-- The three stores hold the same row of a notification, and each of them can read it. -/
structure Stores.Hold (id : String) (stores : Stores) (row : HostInteractionNotificationRecord) :
    Prop where
  filed : row.notificationId = id
  readable : RedisNotification.decode (RedisNotification.encode row) = .ok row
  memory : stores.memory.ledger.notifications[id]? = some row
  sqlite : stores.sqlite[id]? = some (SqliteNotification.columnsOf row)
  redis : stores.redis.notifications[id]? = some (RedisNotification.encode row)

namespace NotificationCall

/-- A row keeps the identity of its notification. -/
structure SameIdentity (row after : HostInteractionNotificationRecord) : Prop where
  notificationId : after.notificationId = row.notificationId
  checkpointKey : after.checkpointKey = row.checkpointKey
  recordId : after.recordId = row.recordId
  payload : after.payload = row.payload
  payloadDigest : after.payloadDigest = row.payloadDigest

omit [Runtime] in
theorem next_identity {call : NotificationCall} {row after : HostInteractionNotificationRecord}
    (hnext : call.next row = some after) : SameIdentity row after := by
  cases call with
  | claim digest token lease now =>
      dsimp only [next] at hnext
      split at hnext
      · cases hnext
      · cases hnext
        exact ⟨rfl, rfl, rfl, rfl, rfl⟩
  | complete digest token attempt outcome now error =>
      dsimp only [next] at hnext
      split at hnext
      · unfold completed at hnext
        split at hnext
        · cases hnext
          exact ⟨rfl, rfl, rfl, rfl, rfl⟩
        · cases hnext
          exact ⟨rfl, rfl, rfl, rfl, rfl⟩
        · cases hnext
      · cases hnext
  | reconcile digest outcome now reason =>
      dsimp only [next] at hnext
      split at hnext
      · cases hnext
      · split at hnext
        · cases hnext
        · split at hnext
          · cases hnext
            exact ⟨rfl, rfl, rfl, rfl, rfl⟩
          · split at hnext
            · cases hnext
              exact ⟨rfl, rfl, rfl, rfl, rfl⟩
            · cases hnext

/-- The row after an agreed call can be read by every store. -/
theorem next_readable {call : NotificationCall} {row after : HostInteractionNotificationRecord}
    (hagrees : call.Agrees row)
    (hreadable : RedisNotification.decode (RedisNotification.encode row) = .ok row)
    (hnext : call.next row = some after) :
    RedisNotification.decode (RedisNotification.encode after) = .ok after := by
  obtain ⟨hvalid, hkey, -, -⟩ := RedisNotification.decode_encode_iff.mp hreadable
  have hkeyAfter : isBlank after.checkpointKey = false := by
    rw [(next_identity hnext).checkpointKey]
    exact hkey
  cases call with
  | claim digest token lease now =>
      dsimp only [next] at hnext
      split at hnext
      · cases hnext
      · rename_i hclaims
        cases hnext
        simp only [not_or, Bool.not_eq_true, Nat.not_le, ne_eq, not_not] at hclaims
        obtain ⟨htoken, hlease, hdigest, -⟩ := hclaims
        have hsafe : row.attempt < maxWireInteger ∧ lease ≤ maxWireInteger := by
          rcases hagrees with hblank | hpast | hother | ⟨_, _, hsafe⟩
          · rw [htoken] at hblank
            cases hblank
          · omega
          · exact absurd hdigest hother
          · exact hsafe
        refine RedisNotification.decode_encode_iff.mpr
          ⟨(claimedBy_valid_iff hvalid _ _).mpr hsafe, hkeyAfter, ?_, (by rintro ⟨⟩)⟩
        intro hempty
        rw [Option.some.inj hempty] at htoken
        exact absurd htoken (by decide)
  | complete digest token attempt outcome now error =>
      obtain ⟨hheld, hdelivered, hambiguous⟩ := hagrees
      have hstate : row.outboxState = .claimed := by
        simp only [heldUnder, Bool.and_eq_true, beq_iff_eq] at hheld
        exact hheld.1.1.2
      dsimp only [next] at hnext
      rw [if_pos hheld] at hnext
      cases hdone : row.completed outcome now error with
      | error failure => simp [hdone, Except.toOption] at hnext
      | ok done =>
          rw [hdone] at hnext
          cases hnext
          refine RedisNotification.decode_encode_iff.mpr
            ⟨(completed_valid_iff hvalid hstate hdone).mpr
              ⟨fun h => (hdelivered h).1, fun h => (hambiguous h).2⟩, hkeyAfter, ?_⟩
          unfold completed at hdone
          split at hdone
          · cases hdone
            exact ⟨(by rintro ⟨⟩), (by rintro ⟨⟩)⟩
          · cases hdone
            exact ⟨(by rintro ⟨⟩), (hambiguous rfl).1⟩
          · cases hdone
  | reconcile digest outcome now reason =>
      obtain ⟨hreason, hwritten⟩ := hagrees
      dsimp only [next] at hnext
      split at hnext
      · cases hnext
      · rename_i hasked
        simp only [not_or, ne_eq, not_not, not_and, Bool.not_eq_true] at hasked
        obtain ⟨hdigest, habort⟩ := hasked
        cases htarget : MemoryStore.reconciledState outcome with
        | none => simp [htarget] at hnext
        | some target =>
            simp only [htarget] at hnext
            split at hnext
            · cases hnext
              exact hreadable
            · split at hnext
              · rename_i hstate
                cases hnext
                refine RedisNotification.decode_encode_iff.mpr
                  ⟨(reconciled_valid_iff hvalid hstate htarget).mpr ?_, hkeyAfter, (by rintro ⟨⟩), (by rintro ⟨⟩)⟩
                have hwritten := hwritten hdigest hstate
                unfold MemoryStore.reconciledState at htarget
                split at htarget <;> cases htarget
                · exact ⟨fun _ => (hwritten (.inl rfl)).2 (by decide), (by rintro ⟨⟩)⟩
                · exact ⟨fun hpending => absurd rfl hpending, (by rintro ⟨⟩)⟩
                · have hnow := (hwritten (.inr (.inr ⟨rfl, habort rfl⟩))).2 (by decide)
                  refine ⟨fun _ => hnow, fun _ => ?_⟩
                  obtain ⟨text, htext, hblank⟩ := (Option.all_eq_false _ _).mp (habort rfl)
                  rcases hreason rfl with hfits | hother | hclosed
                  · simp only [htext, Option.all_some, hblank, Bool.false_or] at hfits
                    simp [htext, hblank, hfits]
                  · exact absurd hdigest hother
                  · exact absurd hstate hclosed.2
              · cases hnext

end NotificationCall

/-! The stores, one by one. -/

/-- The transaction that the SQL and the Redis store run, over what they load and how they
write. -/
def NotificationCall.body {σ : Type} (call : NotificationCall)
    (loaded : CheckpointResult (Option HostInteractionNotificationRecord))
    (write : HostInteractionNotificationRecord → CheckpointResult σ) (store : σ) :
    CheckpointResult (Option HostInteractionNotificationRecord × σ) :=
  match call with
  | .claim digest token lease now => do
      MemoryStore.guardLease token lease now
        (notificationConflict
          "notification claim token must be non-empty and lease must be in the future")
      match ← loaded with
      | none => return (none, store)
      | some row => do
          refuse (row.payloadDigest != digest)
            (notificationConflict "notification payload digest does not match")
          if row.claimable now then do
            let updated := row.claimedBy token lease
            let after ← write updated
            return (some updated, after)
          else return (none, store)
  | .complete digest token attempt outcome now error => do
      match ← loaded with
      | none => return (none, store)
      | some row => do
          if !row.heldUnder digest token attempt then return (none, store)
          else do
            let updated ← row.completed outcome now error
            let after ← write updated
            return (some updated, after)
  | .reconcile digest outcome now reason => do
      guardDecision outcome reason
      match ← loaded with
      | none => return (none, store)
      | some row => do
          refuse (row.payloadDigest != digest)
            (notificationConflict "notification payload digest does not match")
          let target ← require (MemoryStore.reconciledState outcome)
            (notificationConflict "notification reconciliation outcome is invalid")
          if row.outboxState = target then return (some row, store)
          else do
            refuse (row.outboxState != .ambiguous)
              ⟨"notification_stale", "notification is not ambiguous"⟩
            let updated := row.reconciled target now reason
            let after ← write updated
            return (some updated, after)

theorem Stores.ask_sqlite (id : String) (call : NotificationCall) (stores : Stores) :
    ((stores.ask id call).sqlite, (stores.ask id call).stores.sqlite) =
      stores.sqlite.transaction
        (call.body (stores.sqlite.loadNotification id) stores.sqlite.updateNotification
          stores.sqlite) := by
  cases call <;> rfl

theorem Stores.ask_redis (id : String) (call : NotificationCall) (stores : Stores) :
    ((stores.ask id call).redis, (stores.ask id call).stores.redis) =
      stores.redis.transaction
        (call.body (stores.redis.loadNotification id)
          (fun row => .ok (stores.redis.putNotification id row)) stores.redis) := by
  cases call <;> rfl

omit [Runtime] in
/-- On an agreed call the transaction fails where the lifecycle refuses, and otherwise
writes the next row or leaves the row it found. -/
theorem NotificationCall.body_spec {σ : Type} {call : NotificationCall}
    {row : HostInteractionNotificationRecord} (hagrees : call.Agrees row)
    (write : HostInteractionNotificationRecord → CheckpointResult σ) (store : σ) :
    match call.next row with
    | none => ∃ error, call.body (.ok (some row)) write store = .error error
    | some after =>
        call.body (.ok (some row)) write store =
            (write after >>= fun written => .ok (some after, written)) ∨
          after = row ∧ call.body (.ok (some row)) write store = .ok (some row, store) := by
  cases call with
  | claim digest token lease now =>
      dsimp only [next, body]
      by_cases hlease : isBlank token = true ∨ lease ≤ now
      · have hbad : (isBlank token || decide (lease ≤ now)) = true := by simpa using hlease
        rw [if_pos (by rcases hlease with h | h <;> simp [h])]
        exact ⟨_, by rw [MemoryStore.guardLease, hbad]; rfl⟩
      have hgood : (isBlank token || decide (lease ≤ now)) = false := by simpa using hlease
      rw [MemoryStore.guardLease, hgood]
      simp only [not_or, Bool.not_eq_true, Nat.not_le] at hlease
      by_cases hdigest : row.payloadDigest = digest
      · have hclaimable : row.claimable now = true := by
          rcases hagrees with hblank | hpast | hother | ⟨hclaimable, _⟩
          · rw [hlease.1] at hblank
            cases hblank
          · omega
          · exact absurd hdigest hother
          · exact hclaimable
        rw [if_neg (by simp [hlease, hdigest, hclaimable])]
        left
        simp [hdigest, hclaimable]
      · have hother : (row.payloadDigest != digest) = true := by simpa using hdigest
        rw [if_pos (.inr (.inr (.inl hdigest)))]
        refine ⟨notificationConflict "notification payload digest does not match", ?_⟩
        simp only [refuse_false, ok_bind, hother, refuse_true, error_bind]
  | complete digest token attempt outcome now error =>
      dsimp only [next, body]
      rw [if_pos hagrees.1]
      cases hdone : row.completed outcome now error with
      | error failure => exact ⟨failure, by simp [hagrees.1, hdone]⟩
      | ok after =>
          left
          simp [hagrees.1, hdone]
  | reconcile digest outcome now reason =>
      dsimp only [next, body]
      cases hguard : guardDecision outcome reason with
      | error failure =>
          have hrefused := ((refuse_eq_error _ _ _).mp hguard).1
          simp only [Bool.or_eq_true, Bool.not_eq_true', Bool.and_eq_true, beq_iff_eq] at hrefused
          rcases hrefused with hunknown | hblank
          · rw [reconciledState_eq_none hunknown]
            dsimp only
            rw [ite_self]
            exact ⟨failure, rfl⟩
          · rw [if_pos (.inr hblank)]
            exact ⟨failure, rfl⟩
      | ok _ =>
          have hasked : ¬ (outcome = "abort" ∧ reason.all isBlank = true) := by
            simp only [guardDecision, refuse_eq_ok, Bool.or_eq_false_iff, Bool.and_eq_false_iff,
              beq_eq_false_iff_ne] at hguard
            rintro ⟨habort, hblank⟩
            rcases hguard.2 with hother | hreason
            · exact hother habort
            · rw [hreason] at hblank
              cases hblank
          by_cases hdigest : row.payloadDigest = digest
          · have hmatch : (row.payloadDigest != digest) = false := by simpa using hdigest
            rw [if_neg (by simp only [not_or]; exact ⟨fun h => h hdigest, hasked⟩)]
            simp only [ok_bind, hmatch, refuse_false]
            cases htarget : MemoryStore.reconciledState outcome with
            | none => exact ⟨_, rfl⟩
            | some target =>
                simp only [require_some, ok_bind]
                by_cases hsame : row.outboxState = target
                · rw [if_pos hsame, if_pos hsame]
                  exact .inr ⟨rfl, rfl⟩
                · rw [if_neg hsame, if_neg hsame]
                  by_cases hunclear : row.outboxState = .ambiguous
                  · rw [if_pos hunclear]
                    left
                    simp [hunclear]
                  · have hclear : (row.outboxState != .ambiguous) = true := by simpa using hunclear
                    rw [if_neg hunclear]
                    simp only [hclear, refuse_true, error_bind]
                    exact ⟨_, rfl⟩
          · have hother : (row.payloadDigest != digest) = true := by simpa using hdigest
            rw [if_pos (.inl hdigest)]
            refine ⟨notificationConflict "notification payload digest does not match", ?_⟩
            simp only [ok_bind, hother, refuse_true, error_bind]

/-- A valid row fits its columns and is read from them. -/
theorem SqliteNotification.of_valid {row : HostInteractionNotificationRecord}
    (hvalid : row.validate = .ok ()) :
    SqliteNotification.of row = .ok (columnsOf row) ∧ (columnsOf row).read = .ok row := by
  obtain ⟨hbound, -, hnumbers, -⟩ := (validate_eq_ok row).mp hvalid
  simp only [safeNumbers, Bool.and_eq_true, decide_eq_true_eq, Option.all_eq_true] at hnumbers
  obtain ⟨⟨⟨hattempt, hlease⟩, hdelivered⟩, haborted⟩ := hnumbers
  constructor
  · simp only [SqliteNotification.of, convertOption_toI64 hlease, toI64_of_safe hattempt,
      convertOption_toI64 hdelivered, convertOption_toI64 haborted, ok_bind]
    rfl
  · simp only [SqliteNotification.read, columnsOf,
      HostInteractionNotificationPayload.fromValue_toValue hbound.payload,
      NotificationOutboxState.parse_asStr, require_some, convertOption_toU64, toU64_natCast,
      ok_bind]
    simp [hvalid]

/-! The row that the in-memory store makes is the next one, if no error is left in it. -/

omit [Runtime] in
theorem claimable_spec {row : HostInteractionNotificationRecord} {now : Nat}
    (hclaimable : row.claimable now = true) (token : String) :
    ¬ (row.outboxState = .delivered ∨ row.outboxState = .aborted) ∧
      (row.outboxState == .claimed && row.claimToken != some token &&
        row.leaseExpiresAtMs.any (now < ·)) = false := by
  simp only [claimable, Bool.or_eq_true, beq_iff_eq, Bool.and_eq_true] at hclaimable
  rcases hclaimable with hstate | ⟨hstate, hexpired⟩
  · simp [hstate]
  · cases hlease : row.leaseExpiresAtMs with
    | none => simp [hlease] at hexpired
    | some expires =>
        simp only [hlease, Option.any_some, decide_eq_true_eq] at hexpired
        simp [hstate, hexpired]

theorem claimedBy_eq {row : HostInteractionNotificationRecord} {now : Nat}
    (hvalid : row.validate = .ok ()) (hclaimable : row.claimable now = true)
    (herror : row.lastError = none) (token : String) (lease : Nat) :
    { row with
      outboxState := .claimed
      claimToken := some token
      leaseExpiresAtMs := some lease
      attempt := row.attempt + 1 } = row.claimedBy token lease := by
  have hopen : row.outboxState = .pending ∨ row.outboxState = .claimed ∨
      row.outboxState = .ambiguous := by
    simp only [claimable, Bool.or_eq_true, beq_iff_eq, Bool.and_eq_true] at hclaimable
    rcases hclaimable with hstate | ⟨hstate, _⟩
    · exact .inl hstate
    · exact .inr (.inl hstate)
  obtain ⟨hdelivered, haborted, hreason⟩ := open_of_valid hvalid hopen
  simp only [HostInteractionNotificationRecord.claimedBy, saturatingAdd_one (attempt_le_of_valid hvalid), hdelivered, haborted,
    hreason, herror]

theorem reconciled_eq {row : HostInteractionNotificationRecord}
    (hvalid : row.validate = .ok ()) (hunclear : row.outboxState = .ambiguous)
    (herror : row.lastError = none) (target : NotificationOutboxState) (now : Nat)
    (reason : Option String) :
    { row with
      outboxState := target
      deliveredAtMs := if target = .delivered then some now else none
      abortedAtMs := if target = .aborted then some now else none
      abortReason := if target = .aborted then reason else none } =
      row.reconciled target now reason := by
  obtain ⟨hdelivered, haborted, hreason⟩ := open_of_valid hvalid (.inr (.inr hunclear))
  obtain ⟨-, hpaired, -, -, -, hlifecycle⟩ := (validate_eq_ok row).mp hvalid
  simp only [lifecycleOk, hunclear, Bool.and_eq_true, Option.isNone_iff_eq_none] at hlifecycle
  have hlease : row.leaseExpiresAtMs = none := by
    rw [hlifecycle.1, Option.isSome_none] at hpaired
    exact Option.isSome_eq_false_iff.mp hpaired.symm |> Option.isNone_iff_eq_none.mp
  simp only [reconciled, hdelivered, haborted, hreason, herror, hlifecycle.1, hlease]

/-! The in-memory store looks at the reason of an abort before it reads the row. -/

omit [Runtime] in
theorem eq_abort_of_target {outcome : String}
    (htarget : MemoryStore.reconciledState outcome = some .aborted) : outcome = "abort" := by
  unfold MemoryStore.reconciledState at htarget
  split at htarget
  · cases htarget
  · cases htarget
  · rfl
  · cases htarget

omit [Runtime] in
theorem asked_of_reason {outcome : String} {target : NotificationOutboxState}
    {reason : Option String} (htarget : MemoryStore.reconciledState outcome = some target)
    (hguard : (target == .aborted && reason.all fun text =>
      isBlank text || hostInteractionContentMaxUtf8Bytes < text.utf8ByteSize) = false) :
    ¬ (outcome = "abort" ∧ reason.all isBlank = true) := by
  rintro ⟨rfl, hblank⟩
  cases htarget
  cases reason with
  | none => cases hguard
  | some text =>
      simp only [Option.all_some] at hblank
      simp [hblank] at hguard

omit [Runtime] in
theorem decision_of_target {outcome : String} {target : NotificationOutboxState}
    {reason : Option String} (htarget : MemoryStore.reconciledState outcome = some target)
    (hasked : ¬ (outcome = "abort" ∧ reason.all isBlank = true)) :
    outcome = "delivered" ∨ outcome = "retry" ∨ outcome = "abort" ∧ reason.all isBlank = false := by
  unfold MemoryStore.reconciledState at htarget
  split at htarget
  · exact .inl rfl
  · exact .inr (.inl rfl)
  · exact .inr (.inr ⟨rfl, by simpa using hasked⟩)
  · cases htarget

omit [Runtime] in
theorem next_of_bad_reason {row : HostInteractionNotificationRecord} {digest outcome : String}
    {now : Nat} {target : NotificationOutboxState} {reason : Option String}
    (htarget : MemoryStore.reconciledState outcome = some target)
    (hguard : (target == .aborted && reason.all fun text =>
      isBlank text || hostInteractionContentMaxUtf8Bytes < text.utf8ByteSize) = true)
    (hreason : outcome = "abort" → reason.all (fun text => isBlank text || fits text) = true ∨
      row.payloadDigest ≠ digest ∨ row.outboxState ≠ .aborted ∧ row.outboxState ≠ .ambiguous) :
    NotificationCall.next (.reconcile digest outcome now reason) row = none := by
  obtain ⟨haborted, hbad⟩ := Bool.and_eq_true_iff.mp hguard
  obtain rfl := beq_iff_eq.mp haborted
  obtain rfl := eq_abort_of_target htarget
  rcases hreason rfl with hfits | hother | ⟨hclosed, hclear⟩
  · refine if_pos (.inr ⟨rfl, ?_⟩)
    cases reason with
    | none => rfl
    | some text =>
        simp only [Option.all_some, Bool.or_eq_true, decide_eq_true_eq, fits] at hbad hfits ⊢
        rcases hbad with hblank | hlong
        · exact hblank
        · rcases hfits with hblank | hshort
          · exact hblank
          · omega
  · exact if_pos (.inl hother)
  · simp [NotificationCall.next, htarget, hclosed, hclear]

namespace Stores.Hold

variable {id : String} {stores : Stores} {row : HostInteractionNotificationRecord}

theorem valid (h : stores.Hold id row) : row.validate = .ok () :=
  (RedisNotification.decode_encode_iff.mp h.readable).1

theorem loadSqlite (h : stores.Hold id row) :
    stores.sqlite.loadNotification id = .ok (some row) := by
  simp [SqliteNotifications.loadNotification, h.sqlite, convertOption,
    (SqliteNotification.of_valid h.valid).2]

theorem loadRedis (h : stores.Hold id row) :
    stores.redis.loadNotification id = .ok (some row) := by
  simp [RedisDelivery.loadNotification, h.redis, h.readable, h.filed]

/-- SQLite writes a valid row of the same notification. -/
theorem updateSqlite (h : stores.Hold id row) {after : HostInteractionNotificationRecord}
    (hvalid : after.validate = .ok ()) (hsame : NotificationCall.SameIdentity row after) :
    ∃ rows, stores.sqlite.updateNotification after = .ok rows ∧
      rows[id]? = some (SqliteNotification.columnsOf after) := by
  simp only [SqliteNotifications.updateNotification, hvalid, ok_bind,
    (SqliteNotification.of_valid hvalid).1, pure_ok, Except.ok.injEq, exists_eq_left']
  have hid : after.notificationId = id := hsame.notificationId.trans h.filed
  rw [hid, Std.ExtTreeMap.getElem?_alter_self, h.sqlite]
  simp [SqliteNotification.columnsOf, hsame.checkpointKey, hsame.payloadDigest,
    hsame.notificationId, hsame.recordId, hsame.payload]

/-- SQLite answers an agreed call with the next row and keeps it. -/
theorem answersSqlite (h : stores.Hold id row) {call : NotificationCall}
    (hagrees : call.Agrees row) :
    Answers (stores.ask id call).sqlite (call.next row) ∧
      (stores.ask id call).stores.sqlite[id]? =
        some (SqliteNotification.columnsOf ((call.next row).getD row)) := by
  have hask := stores.ask_sqlite id call
  rw [h.loadSqlite] at hask
  have hspec := NotificationCall.body_spec hagrees stores.sqlite.updateNotification stores.sqlite
  cases hnext : call.next row with
  | none =>
      simp only [hnext] at hspec
      obtain ⟨error, hbody⟩ := hspec
      rw [hbody] at hask
      obtain ⟨hanswer, hrows⟩ := Prod.mk.inj hask
      rw [hanswer, hrows]
      exact ⟨rfl, h.sqlite⟩
  | some after =>
      simp only [hnext] at hspec
      rcases hspec with hbody | ⟨rfl, hbody⟩
      · have hvalid : after.validate = .ok () :=
          (RedisNotification.decode_encode_iff.mp
            (NotificationCall.next_readable hagrees h.readable hnext)).1
        obtain ⟨rows, hupdate, hstored⟩ :=
          h.updateSqlite hvalid (NotificationCall.next_identity hnext)
        rw [hbody, hupdate] at hask
        obtain ⟨hanswer, hrows⟩ := Prod.mk.inj hask
        rw [hanswer, hrows]
        exact ⟨rfl, hstored⟩
      · rw [hbody] at hask
        obtain ⟨hanswer, hrows⟩ := Prod.mk.inj hask
        rw [hanswer, hrows]
        exact ⟨rfl, h.sqlite⟩

/-- Redis answers an agreed call with the next row and keeps it. -/
theorem answersRedis (h : stores.Hold id row) {call : NotificationCall}
    (hagrees : call.Agrees row) :
    Answers (stores.ask id call).redis (call.next row) ∧
      (stores.ask id call).stores.redis.notifications[id]? =
        some (RedisNotification.encode ((call.next row).getD row)) := by
  have hask := stores.ask_redis id call
  rw [h.loadRedis] at hask
  have hspec := NotificationCall.body_spec hagrees
    (fun row => .ok (stores.redis.putNotification id row)) stores.redis
  cases hnext : call.next row with
  | none =>
      simp only [hnext] at hspec
      obtain ⟨error, hbody⟩ := hspec
      rw [hbody] at hask
      obtain ⟨hanswer, hrows⟩ := Prod.mk.inj hask
      rw [hanswer, hrows]
      exact ⟨rfl, h.redis⟩
  | some after =>
      simp only [hnext] at hspec
      rcases hspec with hbody | ⟨rfl, hbody⟩
      · rw [hbody] at hask
        obtain ⟨hanswer, hrows⟩ := Prod.mk.inj hask
        rw [hanswer, hrows]
        exact ⟨rfl, (Table.get_insert _ _ _ _).trans (if_pos rfl)⟩
      · rw [hbody] at hask
        obtain ⟨hanswer, hrows⟩ := Prod.mk.inj hask
        rw [hanswer, hrows]
        exact ⟨rfl, h.redis⟩

omit [Runtime] in
/-- A transaction of the in-memory store that fails, or that writes one row. -/
theorem answersOfBody {memory : MemoryStore} (hrow : memory.ledger.notifications[id]? = some row)
    {next : Option HostInteractionNotificationRecord}
    {body : CheckpointResult (Option HostInteractionNotificationRecord × MemoryStore)}
    (hbody : match next with
      | none => ∃ error, body = .error error
      | some after => body = .ok (some after, memory.putNotification id after) ∨
          after = row ∧ body = .ok (some row, memory)) :
    Answers (memory.atomically body).1 next ∧
      (memory.atomically body).2.ledger.notifications[id]? = some (next.getD row) := by
  cases next with
  | none =>
      obtain ⟨error, rfl⟩ := hbody
      exact ⟨rfl, hrow⟩
  | some after =>
      rcases hbody with rfl | ⟨rfl, rfl⟩
      · exact ⟨rfl, (Table.get_insert _ _ _ _).trans (if_pos rfl)⟩
      · exact ⟨rfl, hrow⟩

theorem memoryClaim (h : stores.Hold id row) {digest token : String} {lease now : Nat}
    (hagrees : NotificationCall.Agrees (.claim digest token lease now) row)
    (hvalid : ∀ after, NotificationCall.next (.claim digest token lease now) row = some after →
      after.validate = .ok ()) :
    Answers (stores.ask id (.claim digest token lease now)).memory
        (NotificationCall.next (.claim digest token lease now) row) ∧
      (stores.ask id (.claim digest token lease now)).stores.memory.ledger.notifications[id]? =
        some ((NotificationCall.next (.claim digest token lease now) row).getD row) := by
  refine answersOfBody h.memory ?_
  simp only [h.memory]
  by_cases hlease : isBlank token = true ∨ lease ≤ now
  · have hbad : (isBlank token || decide (lease ≤ now)) = true := by simpa using hlease
    have hnext : NotificationCall.next (.claim digest token lease now) row = none :=
      if_pos (by rcases hlease with hblank | hpast <;> simp [*])
    simp only [hnext, MemoryStore.guardLease, hbad, refuse_true, error_bind]
    exact ⟨_, rfl⟩
  have hgood : (isBlank token || decide (lease ≤ now)) = false := by simpa using hlease
  simp only [not_or, Bool.not_eq_true, Nat.not_le] at hlease
  simp only [MemoryStore.guardLease, hgood, refuse_false, ok_bind]
  by_cases hdigest : row.payloadDigest = digest
  · have hmatch : (row.payloadDigest != digest) = false := by simpa using hdigest
    rcases hagrees with hblank | hpast | hother | ⟨hclaimable, herror, hattempt, _⟩
    · rw [hlease.1] at hblank
      cases hblank
    · omega
    · exact absurd hdigest hother
    have hnext : NotificationCall.next (.claim digest token lease now) row =
        some (row.claimedBy token lease) := if_neg (by simp [hlease, hdigest, hclaimable])
    have hadded : checkedAdd row.attempt 1 = some (row.attempt + 1) := by
      rw [checkedAdd_one_eq_some]
      have hwide : maxWireInteger < UInt64.size := by decide
      exact ⟨by omega, rfl⟩
    obtain ⟨hopen, hfree⟩ := claimable_spec hclaimable token
    have hclaimed := claimedBy_eq h.valid hclaimable herror token lease
    simp only [hnext, hmatch, refuse_false, ok_bind, if_neg hopen, hfree, hadded, require_some,
      hclaimed, hvalid _ hnext, pure_ok]
    exact .inl trivial
  · have hother : (row.payloadDigest != digest) = true := by simpa using hdigest
    have hnext : NotificationCall.next (.claim digest token lease now) row = none :=
      if_pos (.inr (.inr (.inl hdigest)))
    simp only [hnext, hother, refuse_true, error_bind]
    exact ⟨_, rfl⟩

theorem memoryComplete (h : stores.Hold id row) {digest token : String} {attempt : Nat}
    {outcome : String} {now : Nat} {error : Option String}
    (hagrees : NotificationCall.Agrees (.complete digest token attempt outcome now error) row)
    (hvalid : ∀ after, NotificationCall.next (.complete digest token attempt outcome now error)
      row = some after → after.validate = .ok ()) :
    Answers (stores.ask id (.complete digest token attempt outcome now error)).memory
        (NotificationCall.next (.complete digest token attempt outcome now error) row) ∧
      (stores.ask id (.complete digest token attempt outcome now
        error)).stores.memory.ledger.notifications[id]? =
        some ((NotificationCall.next (.complete digest token attempt outcome now error)
          row).getD row) := by
  refine answersOfBody h.memory ?_
  obtain ⟨hheld, hdelivered, _⟩ := hagrees
  simp only [heldUnder, Bool.and_eq_true, beq_iff_eq] at hheld
  obtain ⟨⟨⟨hdigest, hstate⟩, htoken⟩, hattempt⟩ := hheld
  obtain ⟨hnone, -, -⟩ := open_of_valid h.valid (.inr (.inl hstate))
  have hheld : row.heldUnder digest token attempt = true := by
    simp [heldUnder, hdigest, hstate, htoken, hattempt]
  have howner : (row.outboxState != .claimed || row.claimToken != some token ||
      row.attempt != attempt) = false := by simp [hstate, htoken, hattempt]
  have hmatch : (row.payloadDigest != digest) = false := by simpa using hdigest
  have hnext : NotificationCall.next (.complete digest token attempt outcome now error) row =
      (row.completed outcome now error).toOption := if_pos hheld
  rw [hnext] at hvalid ⊢
  simp only [h.memory, hmatch, howner, refuse_false, ok_bind]
  unfold completed at hvalid ⊢
  split at hvalid
  · obtain ⟨_, rfl⟩ := hdelivered rfl
    have hupdated := hvalid _ rfl
    simp only [bne_self_eq_false, Bool.false_and, refuse_false, ok_bind, if_true, Except.toOption,
      hupdated, pure_ok]
    exact .inl trivial
  · have hupdated := hvalid _ rfl
    simp only [bne_self_eq_false, Bool.and_false, refuse_false, ok_bind, String.reduceEq, if_false,
      Except.toOption, hnone] at hupdated ⊢
    simp only [hupdated, ok_bind, pure_ok]
    exact .inl trivial
  · rename_i hother hunknown
    have hbad : (outcome != "delivered" && outcome != "ambiguous") = true := by
      simp only [Bool.and_eq_true, bne_iff_ne]
      exact ⟨hother, hunknown⟩
    simp only [hbad, refuse_true, error_bind, Except.toOption]
    exact ⟨_, rfl⟩

theorem memoryReconcile (h : stores.Hold id row) {digest outcome : String} {now : Nat}
    {reason : Option String}
    (hagrees : NotificationCall.Agrees (.reconcile digest outcome now reason) row)
    (hvalid : ∀ after, NotificationCall.next (.reconcile digest outcome now reason) row =
      some after → after.validate = .ok ()) :
    Answers (stores.ask id (.reconcile digest outcome now reason)).memory
        (NotificationCall.next (.reconcile digest outcome now reason) row) ∧
      (stores.ask id (.reconcile digest outcome now
        reason)).stores.memory.ledger.notifications[id]? =
        some ((NotificationCall.next (.reconcile digest outcome now reason) row).getD row) := by
  refine answersOfBody h.memory ?_
  obtain ⟨hreason, hwritten⟩ := hagrees
  cases htarget : MemoryStore.reconciledState outcome with
  | none =>
      have hnext : NotificationCall.next (.reconcile digest outcome now reason) row = none := by
        dsimp only [NotificationCall.next]
        rw [htarget]
        exact ite_self _
      simp only [hnext, require_none, error_bind]
      exact ⟨_, rfl⟩
  | some target =>
      simp only [require_some, ok_bind]
      cases hguard : (target == .aborted && reason.all fun text =>
          isBlank text || hostInteractionContentMaxUtf8Bytes < text.utf8ByteSize) with
      | true =>
          have hnext : NotificationCall.next (.reconcile digest outcome now reason) row = none :=
            next_of_bad_reason htarget hguard hreason
          simp only [hnext, refuse_true, error_bind]
          exact ⟨_, rfl⟩
      | false =>
          have hasked : ¬ (outcome = "abort" ∧ reason.all isBlank = true) :=
            asked_of_reason htarget hguard
          simp only [h.memory, refuse_false, ok_bind]
          by_cases hdigest : row.payloadDigest = digest
          · have hmatch : (row.payloadDigest != digest) = false := by simpa using hdigest
            have hnext : NotificationCall.next (.reconcile digest outcome now reason) row =
                if row.outboxState = target then some row
                else if row.outboxState = .ambiguous then some (row.reconciled target now reason)
                else none := by
              dsimp only [NotificationCall.next]
              rw [htarget, if_neg (by simp only [not_or]; exact ⟨fun h => h hdigest, hasked⟩)]
            rw [hnext] at hvalid ⊢
            simp only [hmatch, refuse_false, ok_bind]
            by_cases hsame : row.outboxState = target
            · rw [if_pos hsame, if_pos hsame]
              exact .inr ⟨rfl, rfl⟩
            · rw [if_neg hsame] at hvalid ⊢
              rw [if_neg hsame]
              by_cases hunclear : row.outboxState = .ambiguous
              · have hclear : (row.outboxState != .ambiguous) = false := by simpa using hunclear
                have hdone := (hwritten hdigest hunclear (decision_of_target htarget hasked)).1
                rw [if_pos hunclear] at hvalid ⊢
                simp only [hclear, refuse_false, ok_bind, reconciled_eq h.valid hunclear hdone,
                  hvalid _ rfl, pure_ok]
                exact .inl trivial
              · have hclear : (row.outboxState != .ambiguous) = true := by simpa using hunclear
                rw [if_neg hunclear]
                simp only [hclear, refuse_true, error_bind]
                exact ⟨_, rfl⟩
          · have hother : (row.payloadDigest != digest) = true := by simpa using hdigest
            have hnext : NotificationCall.next (.reconcile digest outcome now reason) row = none :=
              if_pos (.inl hdigest)
            simp only [hnext, hother, refuse_true, error_bind]
            exact ⟨_, rfl⟩

/-- The in-memory store answers an agreed call with the next row and keeps it. -/
theorem answersMemory (h : stores.Hold id row) {call : NotificationCall}
    (hagrees : call.Agrees row) :
    Answers (stores.ask id call).memory (call.next row) ∧
      (stores.ask id call).stores.memory.ledger.notifications[id]? =
        some ((call.next row).getD row) := by
  have hvalid : ∀ after, call.next row = some after → after.validate = .ok () :=
    fun after hnext => (RedisNotification.decode_encode_iff.mp
      (NotificationCall.next_readable hagrees h.readable hnext)).1
  cases call with
  | claim digest token lease now => exact h.memoryClaim hagrees hvalid
  | complete digest token attempt outcome now error => exact h.memoryComplete hagrees hvalid
  | reconcile digest outcome now reason => exact h.memoryReconcile hagrees hvalid

/-- One agreed call: the stores answer alike and hold the same row afterwards, which is the
next one of the lifecycle. -/
theorem ask (h : stores.Hold id row) (call : NotificationCall) (hagrees : call.Agrees row) :
    Answers (stores.ask id call).memory (call.next row) ∧
      Answers (stores.ask id call).sqlite (call.next row) ∧
      Answers (stores.ask id call).redis (call.next row) ∧
      (stores.ask id call).stores.Hold id ((call.next row).getD row) := by
  obtain ⟨hmemory, hmemoryRow⟩ := h.answersMemory hagrees
  obtain ⟨hsqlite, hsqliteRow⟩ := h.answersSqlite hagrees
  obtain ⟨hredis, hredisRow⟩ := h.answersRedis hagrees
  refine ⟨hmemory, hsqlite, hredis, ?_, ?_, hmemoryRow, hsqliteRow, hredisRow⟩
  · cases hnext : call.next row with
    | none => exact h.filed
    | some after => exact (NotificationCall.next_identity hnext).notificationId.trans h.filed
  · cases hnext : call.next row with
    | none => exact h.readable
    | some after => exact NotificationCall.next_readable hagrees h.readable hnext

end Stores.Hold

/-- Along calls that agree with the lifecycle of a row, the three stores hold the same row,
give the same answer to every call, and every step obeys the laws of the lifecycle. -/
theorem notification_stores_agree (id : String) (calls : List NotificationCall) (stores : Stores)
    (row : HostInteractionNotificationRecord) (hholds : stores.Hold id row)
    (hagrees : Along NotificationCall.after NotificationCall.Agrees calls row)
    (first : List NotificationCall) (call : NotificationCall) (rest : List NotificationCall)
    (hcalls : calls = first ++ call :: rest) :
    let met := run (fun call stores => (Stores.ask id call stores).stores) first stores
    let before := run NotificationCall.after first row
    met.Hold id before ∧ (met.ask id call).stores.Hold id (call.after before) ∧
      Answers (met.ask id call).memory (call.next before) ∧
      Answers (met.ask id call).sqlite (call.next before) ∧
      Answers (met.ask id call).redis (call.next before) ∧
      call.Lawful before (call.after before) := by
  induction first generalizing calls stores row with
  | nil =>
      subst hcalls
      obtain ⟨hmemory, hsqlite, hredis, hafter⟩ := hholds.ask _ hagrees.1
      exact ⟨hholds, hafter, hmemory, hsqlite, hredis, call.next_lawful row⟩
  | cons earlier first ih =>
      subst hcalls
      obtain ⟨_, _, _, hafter⟩ := hholds.ask _ hagrees.1
      exact ih _ _ _ hafter hagrees.2 rfl

/-- A claim of an unclear row is where the stores part: SQLite and Redis let nobody have it,
the in-memory store gives it away. -/
theorem Stores.Hold.unclear_claimed {id : String} {stores : Stores}
    {row : HostInteractionNotificationRecord} (h : stores.Hold id row)
    (hunclear : row.outboxState = .ambiguous) {token : String} {lease now : Nat}
    (htoken : isBlank token = false) (hlease : now < lease) (hsafe : lease ≤ maxWireInteger)
    (hattempt : row.attempt < maxWireInteger) :
    let asked := stores.ask id (.claim row.payloadDigest token lease now)
    asked.sqlite = .ok none ∧ asked.redis = .ok none ∧
      ∃ taken, asked.memory = .ok (some taken) ∧ taken.outboxState = .claimed := by
  have hgood : (isBlank token || decide (lease ≤ now)) = false := by
    simp [htoken, hlease]
  have hnobody : row.claimable now = false := by simp [claimable, hunclear]
  have hrefused : ∀ {σ : Type} (write : HostInteractionNotificationRecord → CheckpointResult σ)
      (store : σ), NotificationCall.body (.claim row.payloadDigest token lease now)
        (.ok (some row)) write store = .ok (none, store) := by
    intro σ write store
    simp [NotificationCall.body, MemoryStore.guardLease, hgood, hnobody]
  refine ⟨?_, ?_, ?_⟩
  · have hask := stores.ask_sqlite id (.claim row.payloadDigest token lease now)
    rw [h.loadSqlite, hrefused] at hask
    exact (Prod.mk.inj hask).1
  · have hask := stores.ask_redis id (.claim row.payloadDigest token lease now)
    rw [h.loadRedis, hrefused] at hask
    exact (Prod.mk.inj hask).1
  · obtain ⟨hbound, -, hnumbers, hreasons, herrors, hlifecycle⟩ :=
      (validate_eq_ok row).mp h.valid
    obtain ⟨hdelivered, haborted, hreason⟩ := open_of_valid h.valid (.inr (.inr hunclear))
    have hadded : checkedAdd row.attempt 1 = some (row.attempt + 1) := by
      rw [checkedAdd_one_eq_some]
      have hwide : maxWireInteger < UInt64.size := by decide
      exact ⟨by omega, rfl⟩
    let taken : HostInteractionNotificationRecord :=
      { row with
        outboxState := .claimed
        claimToken := some token
        leaseExpiresAtMs := some lease
        attempt := row.attempt + 1 }
    have htaken : taken.validate = .ok () := by
      rw [validate_eq_ok]
      refine ⟨⟨hbound.payload, hbound.digest, hbound.notificationId, hbound.recordId,
        hbound.sha256⟩, rfl, ?_, hreasons, herrors, ?_⟩
      · simp only [taken, safeNumbers, hdelivered, haborted, Option.all_none, Option.all_some,
          Bool.and_eq_true, decide_eq_true_eq, Bool.and_true]
        omega
      · simp [taken, lifecycleOk, hdelivered, haborted, hreason]
    refine ⟨taken, ?_, rfl⟩
    show (stores.memory.claimHostInteractionNotification id row.payloadDigest token lease
      now).1 = _
    simp only [MemoryStore.claimHostInteractionNotification, MemoryStore.guardLease, hgood,
      refuse_false, ok_bind, h.memory, bne_self_eq_false, hunclear, reduceCtorEq, or_self,
      if_false, hadded, require_some]
    rw [show (NotificationOutboxState.ambiguous == NotificationOutboxState.claimed) = false from
      rfl]
    simp only [Bool.false_and, refuse_false, ok_bind]
    change (stores.memory.atomically (taken.validate >>= fun _ => _)).1 = _
    rw [htaken]
    rfl

end

namespace Sample

/-- The row of the question's notification, before anybody claims it. -/
def notification : HostInteractionNotificationRecord where
  notificationId := notificationId
  checkpointKey := "checkpoint"
  recordId := questionId
  payload := {
    schemaVersion := hostInteractionNotificationSchema
    notificationId := notificationId
    recordId := questionId
    interactionId := question.interactionId
    logicalCycle := question.logicalCycle
    status := "host_interaction"
    waitReason := "host_interaction"
    prompt := question.prompt }
  payloadDigest := notificationDigest

/-- Three stores that hold it. -/
def notified : Stores where
  memory := ({} : MemoryStore).putNotification notificationId notification
  sqlite := ({} : SqliteNotifications).insert notificationId
    (SqliteNotification.columnsOf notification)
  redis := ({} : RedisDelivery).putNotification notificationId notification

/-- Its delivery stays unclear. -/
def unclearCalls : List NotificationCall :=
  [.claim notificationDigest "observer-a" 2000 1000,
    .complete notificationDigest "observer-a" 1 "ambiguous" 1500 none]

/-- The decision is to send it again. -/
def resentCalls : List NotificationCall :=
  unclearCalls ++ [.reconcile notificationDigest "retry" 1600 none,
    .claim notificationDigest "observer-b" 3000 2000,
    .complete notificationDigest "observer-b" 2 "delivered" 2500 none]

theorem notified_holds :
    letI := runtime questionDocuments
    notified.Hold notificationId notification := by
  let _ : Runtime := runtime questionDocuments
  exact ⟨rfl, by decide +kernel, (Table.get_insert _ _ _ _).trans (if_pos rfl),
    (Table.get_insert _ _ _ _).trans (if_pos rfl), (Table.get_insert _ _ _ _).trans (if_pos rfl)⟩

end Sample

/-- A notification whose delivery is unclear is sent again after a decision; the stores agree
in the end that it is delivered. -/
theorem notification_stores_agree_resent :
    letI := Sample.runtime Sample.questionDocuments
    let met := run (fun call stores => (Stores.ask Sample.notificationId call stores).stores)
      (Sample.resentCalls.take 4) Sample.notified
    (met.ask Sample.notificationId
      (.complete Sample.notificationDigest "observer-b" 2 "delivered" 2500 none)).stores.Hold
        Sample.notificationId (run NotificationCall.after Sample.resentCalls
          Sample.notification) := by
  let _ : Runtime := Sample.runtime Sample.questionDocuments
  have hagree := notification_stores_agree Sample.notificationId Sample.resentCalls
    Sample.notified Sample.notification Sample.notified_holds ?_ (Sample.resentCalls.take 4)
    (.complete Sample.notificationDigest "observer-b" 2 "delivered" 2500 none) [] rfl
  · exact hagree.2.1
  · refine ⟨?_, ?_, ?_, ?_, ?_, trivial⟩
    · exact .inr (.inr (.inr (by decide)))
    · exact ⟨by decide, by decide, fun _ => ⟨by decide, rfl⟩⟩
    · exact ⟨by decide, fun _ _ _ => ⟨rfl, fun h => absurd rfl h⟩⟩
    · exact .inr (.inr (.inr (by decide)))
    · exact ⟨by decide, fun _ => by decide, by decide⟩

/-- After an unclear delivery another observer asks for the notification: SQLite and Redis
keep it back, the in-memory store hands it out for a second delivery. -/
theorem notification_redelivered :
    letI := Sample.runtime Sample.questionDocuments
    let met := run (fun call stores => (Stores.ask Sample.notificationId call stores).stores)
      Sample.unclearCalls Sample.notified
    let asked := met.ask Sample.notificationId
      (.claim Sample.notificationDigest "observer-b" 3000 2000)
    asked.sqlite = .ok none ∧ asked.redis = .ok none ∧
      ∃ taken, asked.memory = .ok (some taken) ∧ taken.outboxState = .claimed := by
  let _ : Runtime := Sample.runtime Sample.questionDocuments
  obtain ⟨_, _, _, hclaimed⟩ := Sample.notified_holds.ask
    (.claim Sample.notificationDigest "observer-a" 2000 1000) (.inr (.inr (.inr (by decide))))
  obtain ⟨_, _, _, hunclear⟩ := hclaimed.ask
    (.complete Sample.notificationDigest "observer-a" 1 "ambiguous" 1500 none)
    ⟨by decide, by decide, fun _ => ⟨by decide, rfl⟩⟩
  exact hunclear.unclear_claimed rfl (by decide) (by decide) (by decide) (by decide)

end VvAgent
