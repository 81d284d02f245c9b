import VvAgent.Lib.Run
import VvAgent.Sample
import VvAgent.Store.RedisDelivery

/-!
Every row that a delivery writes can be read again, in the Redis store. The writers check
less than the readers: a wake is written with an error text that its reader refuses when
it is blank, and a notification is written with no check at all. `RedisOp.Readable` says
for each operation what its caller has to promise, in the state the operation meets; along
such operations no row is ever lost to its reader.
-/

namespace VvAgent
open Lib Lib.Outcome HostInteractionNotificationRecord

/-- An operation of the Redis store on wakes and notifications. -/
inductive RedisOp where
  | recordCommand (receipt : ControllerCommandReceipt) (command : ControllerCommand)
  | claimWake (commandId commandDigest claimToken : String) (leaseExpiresAtMs nowMs : Nat)
  | completeWake (commandId commandDigest claimToken : String) (attempt : Nat)
      (outcome : String) (nowMs : Nat) (error : Option String)
  | reconcileWake (commandId commandDigest outcome : String) (nowMs : Nat)
  | reapWakes (checkpointKey : String) (nowMs : Nat)
  | recordNotification (checkpointKey : String) (request : HostInteractionRequest)
  | claimNotification (notificationId payloadDigest claimToken : String)
      (leaseExpiresAtMs nowMs : Nat)
  | completeNotification (notificationId payloadDigest claimToken : String) (attempt : Nat)
      (outcome : String) (nowMs : Nat) (error : Option String)
  | reconcileNotification (notificationId payloadDigest outcome : String) (nowMs : Nat)
      (abortReason : Option String)

section
variable [Runtime]

namespace RedisDelivery

/-- The rows after one operation. -/
def exec (op : RedisOp) (store : RedisDelivery) : RedisDelivery :=
  match op with
  | .recordCommand receipt command => (store.recordControllerCommand receipt command).2
  | .claimWake commandId digest token lease now =>
      (store.claimControllerCommandWake commandId digest token lease now).2
  | .completeWake commandId digest token attempt outcome now error =>
      (store.completeControllerCommandWake commandId digest token attempt outcome now error).2
  | .reconcileWake commandId digest outcome now =>
      (store.reconcileControllerCommandWake commandId digest outcome now).2
  | .reapWakes key now => (store.reapControllerCommandWakes key now).2
  | .recordNotification key request => (store.recordNotification key request).2
  | .claimNotification notificationId digest token lease now =>
      (store.claimHostInteractionNotification notificationId digest token lease now).2
  | .completeNotification notificationId digest token attempt outcome now error =>
      (store.completeHostInteractionNotification notificationId digest token attempt outcome
        now error).2
  | .reconcileNotification notificationId digest outcome now reason =>
      (store.reconcileHostInteractionNotification notificationId digest outcome now reason).2

/-- Every row is the writing of a row that its reader finds in it. -/
structure Sound (store : RedisDelivery) : Prop where
  wakes : ∀ (id : String) (raw : Json), store.outboxes[id]? = some raw →
    ∃ row : RedisControllerWakeOutbox,
      raw = row.toValue ∧ RedisControllerWakeOutbox.fromValue raw = .ok row
  notifications : ∀ (id : String) (raw : Json), store.notifications[id]? = some raw →
    ∃ row : HostInteractionNotificationRecord,
      raw = RedisNotification.encode row ∧ RedisNotification.decode raw = .ok row

/-- A wake is held under a token, for an attempt. -/
def HoldsWake (store : RedisDelivery) (commandId commandDigest claimToken : String)
    (attempt : Nat) : Prop :=
  ∃ (receipt : ControllerCommandReceipt) (wake : RedisControllerWakeOutbox),
    store.loadWake commandId commandDigest wakeDigestMismatch = .ok (some (receipt, wake)) ∧
      receipt.outboxState = "claimed" ∧ wake.attempt = attempt ∧
      wake.claimToken = some claimToken

end RedisDelivery

/-- What keeps the row that an operation writes readable. A completed wake may not carry a
blank error. A notification may not be claimed beyond the last JSON-safe attempt or with a
lease that is not JSON-safe, completed or reconciled at such a time, left unclear with an
empty error or one that is too long, or aborted for a reason that is too long. -/
def RedisOp.Readable (op : RedisOp) (store : RedisDelivery) : Prop :=
  match op with
  | .completeWake commandId digest token attempt outcome now error =>
      store.HoldsWake commandId digest token attempt →
        (outcome = "delivered" ∧ now ≤ maxWireInteger ∨ outcome = "ambiguous") →
        ∀ text ∈ error, fits text = true → isBlank text = false
  | .claimNotification notificationId digest token lease now =>
      ∀ row, store.loadNotification notificationId = .ok (some row) →
        row.payloadDigest = digest → row.claimable now = true → isBlank token = false →
        now < lease → row.attempt < maxWireInteger ∧ lease ≤ maxWireInteger
  | .completeNotification notificationId digest token attempt outcome now error =>
      ∀ row, store.loadNotification notificationId = .ok (some row) →
        row.heldUnder digest token attempt = true →
        (outcome = "delivered" → now ≤ maxWireInteger) ∧
          (outcome = "ambiguous" → error ≠ some "" ∧ error.all fits = true)
  | .reconcileNotification notificationId digest outcome now reason =>
      ∀ row, store.loadNotification notificationId = .ok (some row) →
        row.payloadDigest = digest → row.outboxState = .ambiguous →
        (outcome = "delivered" → now ≤ maxWireInteger) ∧
          (outcome = "abort" → ∀ text ∈ reason, isBlank text = false →
            now ≤ maxWireInteger ∧ fits text = true)
  | _ => True

namespace RedisDelivery

theorem Sound.empty : Sound {} := by
  constructor
  · intro id raw hrow
    simp at hrow
  · intro id raw hrow
    simp at hrow

theorem Sound.transaction {α : Type} {store : RedisDelivery} (h : store.Sound)
    {body : CheckpointResult (α × RedisDelivery)} (hbody : Yields body fun out => out.2.Sound) :
    (store.transaction body).2.Sound := by
  unfold RedisDelivery.transaction
  cases hresult : body with
  | error error => exact h
  | ok out => exact hbody out hresult

/-! The two kinds of rows. -/

theorem Sound.putNotification {store : RedisDelivery} (h : store.Sound) (id : String)
    {row : HostInteractionNotificationRecord}
    (hrow : RedisNotification.decode (RedisNotification.encode row) = .ok row) :
    (store.putNotification id row).Sound := by
  constructor
  · exact h.wakes
  · intro other raw hraw
    change (store.notifications.insert id _)[other]? = some raw at hraw
    rw [Table.get_insert] at hraw
    split at hraw
    · cases hraw
      exact ⟨row, rfl, hrow⟩
    · exact h.notifications other raw hraw

/-- A wake row that passes its check is readable if its error is not blank. -/
theorem Sound.putWake {store after : RedisDelivery} (h : store.Sound)
    {receipt : ControllerCommandReceipt} {wake : RedisControllerWakeOutbox}
    (hput : store.putWake receipt wake = .ok after)
    (herror : wake.lastError.all (!isBlank ·) = true) : after.Sound := by
  simp only [RedisDelivery.putWake, unit_guard_bind, pure_ok, Except.ok.injEq] at hput
  obtain ⟨-, hvalid, rfl⟩ := hput
  constructor
  · intro other raw hraw
    change (store.outboxes.insert receipt.commandId _)[other]? = some raw at hraw
    rw [Table.get_insert] at hraw
    split at hraw
    · cases hraw
      exact ⟨wake, rfl, (RedisControllerWakeOutbox.fromValue_toValue_iff hvalid).mpr herror⟩
    · exact h.wakes other raw hraw
  · exact h.notifications

theorem fromReceiptUnchecked_lastError {receipt : ControllerCommandReceipt}
    {row : RedisControllerWakeOutbox}
    (hrow : RedisControllerWakeOutbox.fromReceiptUnchecked receipt = .ok row) :
    row.lastError = none := by
  simp only [RedisControllerWakeOutbox.fromReceiptUnchecked, bind_eq_ok, pure_ok,
    Except.ok.injEq] at hrow
  obtain ⟨_, _, rfl⟩ := hrow
  rfl

theorem putWake_valid {store after : RedisDelivery} {receipt : ControllerCommandReceipt}
    {wake : RedisControllerWakeOutbox} (hput : store.putWake receipt wake = .ok after) :
    wake.validate = .ok () := by
  simp only [RedisDelivery.putWake, unit_guard_bind] at hput
  exact hput.2.1

/-- The row that is read is one that can be written and read again. -/
theorem Sound.loaded {store : RedisDelivery} (h : store.Sound) {id : String}
    {row : HostInteractionNotificationRecord}
    (hload : store.loadNotification id = .ok (some row)) :
    RedisNotification.decode (RedisNotification.encode row) = .ok row := by
  unfold RedisDelivery.loadNotification at hload
  cases hraw : store.notifications[id]? with
  | none => simp [hraw] at hload
  | some raw =>
      simp only [hraw, bind_eq_ok, refuse_eq_ok, exists_const, pure_ok, Except.ok.injEq,
        Option.some.injEq] at hload
      obtain ⟨found, hfound, -, rfl⟩ := hload
      obtain ⟨written, rfl, hread⟩ := h.notifications id raw hraw
      rw [hfound] at hread
      cases hread
      exact hfound

/-! Wakes. -/

theorem recordControllerCommand_sound {store : RedisDelivery} (h : store.Sound)
    (receipt : ControllerCommandReceipt) (command : ControllerCommand) :
    (store.recordControllerCommand receipt command).2.Sound := by
  refine h.transaction ?_
  intro out hout
  simp only [bind_eq_ok, pure_ok, Except.ok.injEq] at hout
  obtain ⟨_, -, _, -, row, hrow, _, hvalid, rfl⟩ := hout
  constructor
  · intro other raw hraw
    change (store.outboxes.insert command.commandId _)[other]? = some raw at hraw
    rw [Table.get_insert] at hraw
    split at hraw
    · cases hraw
      refine ⟨row, rfl, (RedisControllerWakeOutbox.fromValue_toValue_iff hvalid).mpr ?_⟩
      rw [fromReceiptUnchecked_lastError hrow]
      rfl
    · exact h.wakes other raw hraw
  · exact h.notifications

theorem claimControllerCommandWake_sound {store : RedisDelivery} (h : store.Sound)
    (commandId commandDigest claimToken : String) (leaseExpiresAtMs nowMs : Nat) :
    (store.claimControllerCommandWake commandId commandDigest claimToken leaseExpiresAtMs
      nowMs).2.Sound := by
  refine h.transaction (Yields.bind fun _ _ => Yields.bind fun _ _ => Yields.bind fun found _ => ?_)
  cases found with
  | none => exact Yields.pure h
  | some pair =>
      obtain ⟨receipt, wake⟩ := pair
      dsimp only
      split
      · exact Yields.pure h
      refine Yields.bind fun _ _ => ?_
      split
      · exact Yields.pure h
      refine Yields.bind fun _ _ => ?_
      split
      · exact Yields.pure h
      refine Yields.bind fun _ _ => Yields.bind fun row hrow => Yields.bind fun after hput =>
        Yields.pure (h.putWake hput ?_)
      show row.lastError.all _ = true
      rw [fromReceiptUnchecked_lastError hrow]
      rfl

theorem completeControllerCommandWake_sound {store : RedisDelivery} (h : store.Sound)
    {commandId commandDigest claimToken outcome : String} {attempt nowMs : Nat}
    {error : Option String}
    (hreadable : RedisOp.Readable
      (.completeWake commandId commandDigest claimToken attempt outcome nowMs error) store) :
    (store.completeControllerCommandWake commandId commandDigest claimToken attempt outcome
      nowMs error).2.Sound := by
  refine h.transaction (Yields.bind fun _ _ => Yields.bind fun _ _ => Yields.bind fun _ houtcome =>
    Yields.bind fun found hfound => ?_)
  cases found with
  | none => exact Yields.pure h
  | some pair =>
      obtain ⟨receipt, wake⟩ := pair
      dsimp only
      split
      · exact Yields.bind fun _ _ => Yields.pure h
      refine Yields.bind fun _ hheld => Yields.bind fun _ _ => Yields.bind fun row hrow =>
        Yields.bind fun after hput => Yields.pure (h.putWake hput ?_)
      simp only [refuse_eq_ok, Bool.or_eq_false_iff, bne_eq_false_iff_eq] at hheld
      obtain ⟨⟨hclaimed, hattempt⟩, htoken⟩ := hheld
      have hvalid := putWake_valid hput
      simp only [RedisControllerWakeOutbox.validate, bind_eq_ok, exists_const, refuse_eq_ok,
        Bool.or_eq_false_iff] at hvalid
      obtain ⟨_, _, _, _, _, _, _, _, _, _, ⟨_, hnow⟩, _, _, hlong, _⟩ := hvalid
      simp only [refuse_eq_ok, Bool.and_eq_false_iff, bne_eq_false_iff_eq] at houtcome
      have hdone : outcome = "delivered" ∧ nowMs ≤ maxWireInteger ∨ outcome = "ambiguous" := by
        rcases houtcome with rfl | rfl
        · left
          simpa using hnow
        · exact .inr rfl
      have hheld : store.HoldsWake commandId commandDigest claimToken attempt :=
        ⟨receipt, wake, hfound, hclaimed, hattempt, htoken⟩
      rw [Option.all_eq_true]
      intro text htext
      have hfits : fits text = true := by
        have hshort := (Option.any_eq_false _ _).mp hlong text htext
        simpa [fits] using hshort
      simp [hreadable hheld hdone text htext hfits]

theorem reconcileControllerCommandWake_sound {store : RedisDelivery} (h : store.Sound)
    (commandId commandDigest outcome : String) (nowMs : Nat) :
    (store.reconcileControllerCommandWake commandId commandDigest outcome nowMs).2.Sound := by
  refine h.transaction (Yields.bind fun _ _ => Yields.bind fun _ _ => Yields.bind fun found _ => ?_)
  cases found with
  | none => exact Yields.pure h
  | some pair =>
      obtain ⟨receipt, wake⟩ := pair
      dsimp only
      generalize (if outcome = "delivered" then "delivered" else "pending") = target
      split
      · exact Yields.pure h
      refine Yields.bind fun _ _ => Yields.bind fun _ _ => Yields.bind fun row hrow =>
        Yields.bind fun after hput => Yields.pure (h.putWake hput ?_)
      show row.lastError.all _ = true
      rw [fromReceiptUnchecked_lastError hrow]
      rfl

theorem reapWake_sound {store : RedisDelivery} (h : store.Sound)
    (candidate : ControllerCommandReceipt × RedisControllerWakeOutbox) :
    Yields (store.reapWake candidate) fun out => out.2.Sound := by
  obtain ⟨receipt, wake⟩ := candidate
  unfold RedisDelivery.reapWake
  dsimp only
  split
  · exact Yields.bind fun _ _ => Yields.pure h
  · refine Yields.bind fun _ _ => Yields.bind fun _ _ => Yields.bind fun after hput =>
      Yields.bind fun _ _ => Yields.pure (h.putWake hput ?_)
    show (some "controller_wake_claim_expired").all (!isBlank ·) = true
    decide

/-- Each wake that is handed back leaves the rows readable for the next one. -/
theorem reapWakes_sound {store : RedisDelivery} (h : store.Sound)
    (candidates : List (ControllerCommandReceipt × RedisControllerWakeOutbox)) :
    Yields (store.reapWakes candidates) fun out => out.2.Sound := by
  induction candidates generalizing store with
  | nil => exact Yields.ok h
  | cons candidate rest ih =>
      refine Yields.bind fun first hfirst => Yields.bind fun later hlater => Yields.pure ?_
      exact ih (reapWake_sound h candidate first hfirst) later hlater

theorem reapControllerCommandWakes_sound {store : RedisDelivery} (h : store.Sound)
    (checkpointKey : String) (nowMs : Nat) :
    (store.reapControllerCommandWakes checkpointKey nowMs).2.Sound :=
  h.transaction (Yields.bind fun _ _ => reapWakes_sound h _)

/-! Notifications. -/

theorem recordNotification_sound {store : RedisDelivery} (h : store.Sound)
    (checkpointKey : String) (request : HostInteractionRequest) :
    (store.recordNotification checkpointKey request).2.Sound := by
  refine h.transaction (Yields.bind fun notification hnotification => Yields.bind fun _ hrecord =>
    Yields.pure (h.putNotification _ ?_))
  simp only [HostInteractionRecord.validate, bind_eq_ok, exists_const, refuse_eq_ok] at hrecord
  obtain ⟨_, hidentity, _⟩ := hrecord
  simp only [HostInteractionRecord.active, badIdentity, Bool.or_eq_false_iff] at hidentity
  simp only [notificationFor, bind_eq_ok, pure_ok, Except.ok.injEq] at hnotification
  obtain ⟨_, _, _, _, _, hvalid, rfl⟩ := hnotification
  exact RedisNotification.decode_encode_iff.mpr ⟨hvalid, hidentity.2.1, (by rintro ⟨⟩), (by rintro ⟨⟩)⟩

theorem claimHostInteractionNotification_sound {store : RedisDelivery} (h : store.Sound)
    {notificationId payloadDigest claimToken : String} {leaseExpiresAtMs nowMs : Nat}
    (hreadable : RedisOp.Readable (.claimNotification notificationId payloadDigest claimToken
      leaseExpiresAtMs nowMs) store) :
    (store.claimHostInteractionNotification notificationId payloadDigest claimToken
      leaseExpiresAtMs nowMs).2.Sound := by
  refine h.transaction (Yields.bind fun _ hlease => Yields.bind fun found hfound => ?_)
  simp only [MemoryStore.guardLease, refuse_eq_ok, Bool.or_eq_false_iff, decide_eq_false_iff_not,
    Nat.not_le] at hlease
  cases found with
  | none => exact Yields.pure h
  | some row =>
      refine Yields.bind fun _ hdigest => ?_
      simp only [refuse_eq_ok, bne_eq_false_iff_eq] at hdigest
      split
      · rename_i hclaimable
        refine Yields.pure (h.putNotification _ ?_)
        obtain ⟨hvalid, hkey, -, -⟩ := RedisNotification.decode_encode_iff.mp (h.loaded hfound)
        have hsafe := hreadable row hfound hdigest hclaimable hlease.1 hlease.2
        refine RedisNotification.decode_encode_iff.mpr
          ⟨(claimedBy_valid_iff hvalid _ _).mpr hsafe, hkey, ?_, (by rintro ⟨⟩)⟩
        intro hempty
        have hblank := hlease.1
        rw [Option.some.inj hempty] at hblank
        exact absurd hblank (by decide)
      · exact Yields.pure h

theorem completeHostInteractionNotification_sound {store : RedisDelivery} (h : store.Sound)
    {notificationId payloadDigest claimToken outcome : String} {attempt nowMs : Nat}
    {error : Option String}
    (hreadable : RedisOp.Readable (.completeNotification notificationId payloadDigest claimToken
      attempt outcome nowMs error) store) :
    (store.completeHostInteractionNotification notificationId payloadDigest claimToken attempt
      outcome nowMs error).2.Sound := by
  refine h.transaction (Yields.bind fun found hfound => ?_)
  cases found with
  | none => exact Yields.pure h
  | some row =>
      dsimp only
      split
      · exact Yields.pure h
      · rename_i hheld
        simp only [Bool.not_eq_true, Bool.not_eq_false'] at hheld
        refine Yields.bind fun updated hupdated => Yields.pure (h.putNotification _ ?_)
        obtain ⟨hvalid, hkey, -, -⟩ := RedisNotification.decode_encode_iff.mp (h.loaded hfound)
        obtain ⟨hdelivered, hambiguous⟩ := hreadable row hfound hheld
        have hstate : row.outboxState = .claimed := by
          simp only [heldUnder, Bool.and_eq_true, beq_iff_eq] at hheld
          exact hheld.1.1.2
        have hupdatedValid : updated.validate = .ok () :=
          (completed_valid_iff hvalid hstate hupdated).mpr
            ⟨hdelivered, fun houtcome => (hambiguous houtcome).2⟩
        refine RedisNotification.decode_encode_iff.mpr ⟨hupdatedValid, ?_⟩
        unfold completed at hupdated
        split at hupdated
        · cases hupdated
          exact ⟨hkey, (by rintro ⟨⟩), (by rintro ⟨⟩)⟩
        · cases hupdated
          exact ⟨hkey, (by rintro ⟨⟩), (hambiguous rfl).1⟩
        · cases hupdated

theorem reconcileHostInteractionNotification_sound {store : RedisDelivery} (h : store.Sound)
    {notificationId payloadDigest outcome : String} {nowMs : Nat} {abortReason : Option String}
    (hreadable : RedisOp.Readable (.reconcileNotification notificationId payloadDigest outcome
      nowMs abortReason) store) :
    (store.reconcileHostInteractionNotification notificationId payloadDigest outcome nowMs
      abortReason).2.Sound := by
  refine h.transaction (Yields.bind fun _ hdecision => Yields.bind fun found hfound => ?_)
  cases found with
  | none => exact Yields.pure h
  | some row =>
      refine Yields.bind fun _ hdigest => Yields.bind fun target htarget => ?_
      simp only [refuse_eq_ok, bne_eq_false_iff_eq] at hdigest
      split
      · exact Yields.pure h
      · refine Yields.bind fun _ hstate => Yields.pure (h.putNotification _ ?_)
        simp only [refuse_eq_ok, bne_eq_false_iff_eq] at hstate
        obtain ⟨hvalid, hkey, -, -⟩ := RedisNotification.decode_encode_iff.mp (h.loaded hfound)
        obtain ⟨hdelivered, haborted⟩ := hreadable row hfound hdigest hstate
        have htarget := (require_eq_ok _ _ _).mp htarget
        refine RedisNotification.decode_encode_iff.mpr
          ⟨(reconciled_valid_iff hvalid hstate htarget).mpr ?_, hkey, (by rintro ⟨⟩), (by rintro ⟨⟩)⟩
        unfold MemoryStore.reconciledState at htarget
        split at htarget <;> cases htarget
        · exact ⟨fun _ => hdelivered rfl, (by rintro ⟨⟩)⟩
        · exact ⟨fun hpending => absurd rfl hpending, (by rintro ⟨⟩)⟩
        · simp only [guardDecision, refuse_eq_ok, Bool.or_eq_false_iff, beq_self_eq_true,
            Bool.true_and, Option.all_eq_false] at hdecision
          obtain ⟨text, htext, hblank⟩ := hdecision.2
          obtain ⟨hnow, hfits⟩ := haborted rfl text htext hblank
          exact ⟨fun _ => hnow, fun _ => by simp [htext, hblank, hfits]⟩

theorem exec_sound (op : RedisOp) (store : RedisDelivery) (hreadable : op.Readable store)
    (h : store.Sound) : (exec op store).Sound := by
  cases op with
  | recordCommand receipt command => exact recordControllerCommand_sound h receipt command
  | claimWake commandId digest token lease now =>
      exact claimControllerCommandWake_sound h commandId digest token lease now
  | completeWake commandId digest token attempt outcome now error =>
      exact completeControllerCommandWake_sound h hreadable
  | reconcileWake commandId digest outcome now =>
      exact reconcileControllerCommandWake_sound h commandId digest outcome now
  | reapWakes key now => exact reapControllerCommandWakes_sound h key now
  | recordNotification key request => exact recordNotification_sound h key request
  | claimNotification notificationId digest token lease now =>
      exact claimHostInteractionNotification_sound h hreadable
  | completeNotification notificationId digest token attempt outcome now error =>
      exact completeHostInteractionNotification_sound h hreadable
  | reconcileNotification notificationId digest outcome now reason =>
      exact reconcileHostInteractionNotification_sound h hreadable

/-- In every run whose operations keep their promise, every row of every state that the run
goes through is read as it was written. -/
theorem redis_rows_decode (ops : List RedisOp) (store : RedisDelivery) (hsound : store.Sound)
    (hreadable : Along exec RedisOp.Readable ops store) (first rest : List RedisOp)
    (hops : ops = first ++ rest) : (run exec first store).Sound :=
  along_preserves exec_sound hreadable hsound first rest hops

/-- An accepted operation has written a notification that its reader refuses. -/
def losesNotification (id : String)
    (done : RedisResult (Option HostInteractionNotificationRecord)) : Bool :=
  done.1.toBool && done.2.notifications[id]?.any fun raw =>
    !(RedisNotification.decode raw).toBool

theorem losesNotification_unsound (id : String)
    {done : RedisResult (Option HostInteractionNotificationRecord)}
    (hloses : losesNotification id done = true) : done.1.toBool = true ∧ ¬ done.2.Sound := by
  obtain ⟨haccepted, hlost⟩ := Bool.and_eq_true_iff.mp hloses
  refine ⟨haccepted, fun hsound => ?_⟩
  obtain ⟨raw, hraw, hlost⟩ := (Option.any_eq_true _ _).mp hlost
  obtain ⟨row, _, hread⟩ := hsound.notifications _ raw hraw
  simp [hread, Except.toBool] at hlost

end RedisDelivery

end

namespace Sample

/-- The id of the question's notification. -/
def notificationId : String :=
  "723078e489e7fc911d853d75e5dcc31ccd4c550798ac7aa62ed91436d2e5b76d"

/-- The digest of its payload. -/
def notificationDigest : String :=
  "9699be1b080ca56a5684ecf5b240f8f481624130195c706288277ca6e9e15654"

/-- The question's notification is claimed. -/
def claimedDelivery : List RedisOp :=
  [.recordNotification "checkpoint" question,
    .claimNotification notificationId notificationDigest "observer-a" 2000 1000]

/-- Its delivery stays unclear. -/
def unclear (error : Option String) : RedisOp :=
  .completeNotification notificationId notificationDigest "observer-a" 1 "ambiguous" 1500 error

/-- What the claimed delivery comes to, computed at once: the runs share their front. -/
theorem claimedDelivery_computed :
    letI := runtime questionDocuments
    ((RedisDelivery.exec (.recordNotification "checkpoint" question) {}).loadNotification
        notificationId).map
        (·.all fun row => decide (row.attempt < maxWireInteger)) = .ok true ∧
      RedisDelivery.losesNotification notificationId
        ((run RedisDelivery.exec claimedDelivery {}).completeHostInteractionNotification
          notificationId notificationDigest "observer-a" 1 "ambiguous" 1500 (some "")) = true := by
  decide +kernel

end Sample

/-- With an error that says something, the row of the unclear delivery is readable. -/
theorem RedisDelivery.redis_rows_decode_unclear :
    letI := Sample.runtime Sample.questionDocuments
    (run exec (Sample.claimedDelivery ++ [Sample.unclear (some "timeout")]) {}).Sound := by
  let _ : Runtime := Sample.runtime Sample.questionDocuments
  refine redis_rows_decode (Sample.claimedDelivery ++ [Sample.unclear (some "timeout")]) {}
    .empty ?_ _ [] (List.append_nil _).symm
  refine ⟨trivial, ?_, ?_, trivial⟩
  · intro row hload _ _ _ _
    have hfresh := Sample.claimedDelivery_computed.1
    rw [hload] at hfresh
    exact ⟨by simpa [Except.map] using hfresh, by decide⟩
  · intro row _ _
    exact ⟨by decide, fun _ => by decide⟩

/-- With an empty error the completion is accepted, and its row is lost to the reader. -/
theorem RedisDelivery.unclear_unreadable :
    letI := Sample.runtime Sample.questionDocuments
    letI completed := (run exec Sample.claimedDelivery {}).completeHostInteractionNotification
      Sample.notificationId Sample.notificationDigest "observer-a" 1 "ambiguous" 1500 (some "")
    completed.1.toBool = true ∧ ¬ completed.2.Sound := by
  let _ : Runtime := Sample.runtime Sample.questionDocuments
  exact losesNotification_unsound Sample.notificationId Sample.claimedDelivery_computed.2

end VvAgent
