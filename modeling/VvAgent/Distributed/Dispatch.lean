import VvAgent.Distributed.Worker
import VvAgent.Store.Line

/-!
What the driver sends out. `advance` enqueues at most one envelope, only for a run that can go
on, and always for the cycle after the last committed one. A worker that takes the envelope up
at its time is given the claim exactly when the run is running, no answer of the host waits to
be consumed, and the counters of the record have not run out.
-/

namespace VvAgent
open Lib Lib.Outcome

section
variable [Runtime]

omit [Runtime] in
/-- A claim is all there or not at all, and is on the cycle after the last committed one. -/
theorem validateClaim_cases {checkpoint : Checkpoint} (h : validateClaim checkpoint = .ok ()) :
    (checkpoint.claimToken = none ∧ checkpoint.claimedCycle = none ∧
        checkpoint.leaseExpiresAtMs = none) ∨
      ∃ token lease, checkpoint.claimToken = some token ∧
        checkpoint.claimedCycle = some (checkpoint.cycleIndex + 1) ∧
        checkpoint.leaseExpiresAtMs = some lease ∧ lease ≤ maxWireInteger := by
  unfold validateClaim at h
  cases htoken : checkpoint.claimToken with
  | none =>
      cases hcycle : checkpoint.claimedCycle <;> cases hlease : checkpoint.leaseExpiresAtMs <;>
        simp_all
  | some token =>
      cases hcycle : checkpoint.claimedCycle with
      | none => simp [htoken, hcycle] at h
      | some cycle =>
          cases hlease : checkpoint.leaseExpiresAtMs with
          | none => simp [htoken, hcycle, hlease] at h
          | some lease =>
              simp only [htoken, hcycle, hlease, unit_guard_bind, refuse_eq_ok,
                Bool.or_eq_false_iff, bne_eq_false_iff_eq, decide_eq_false_iff_not, not_lt] at h
              exact .inr ⟨token, lease, rfl, by rw [h.2.1.1], rfl, h.2.2⟩

/-- The parts of the validator that a dispatch rests on. -/
theorem validateCheckpoint_claim {checkpoint : Checkpoint}
    (h : validateCheckpoint checkpoint = .ok ()) : validateClaim checkpoint = .ok () :=
  ((validateCheckpoint_eq_ok checkpoint).mp h).2.2.2.1

omit [Runtime] in
/-- The cycle that is sent out is the one after the last committed one, whichever of the
three cases applies. -/
theorem nextDispatch_eq_ok {checkpoint : Checkpoint} {previousCycle nowMs cycle : Nat}
    {mode : ClaimMode} {notBefore : Option Nat} (hclaim : validateClaim checkpoint = .ok ())
    (h : nextDispatch checkpoint previousCycle nowMs = .ok (cycle, mode, notBefore)) :
    cycle = checkpoint.cycleIndex + 1 ∧
      (checkpoint.claimToken.isSome = true → checkpoint.claimedCycle = some cycle) ∧
      (mode = .recovery ↔
        checkpoint.claimToken.isSome = true ∨ checkpoint.cycleIndex < previousCycle) ∧
      notBefore = checkpoint.leaseExpiresAtMs.filter (nowMs < ·) := by
  unfold nextDispatch at h
  rcases validateClaim_cases hclaim with ⟨htoken, hcycle, hlease⟩ | ⟨token, lease, htoken, hcycle, hlease, _⟩
  · simp only [htoken, Option.isSome_none, Bool.false_eq_true, if_false] at h
    by_cases hsame : checkpoint.cycleIndex = previousCycle
    · rw [if_pos hsame] at h
      simp only [bind_eq_ok, require_eq_ok, pure_ok, Except.ok.injEq, Prod.mk.injEq] at h
      obtain ⟨next, hnext, rfl, rfl, rfl⟩ := h
      have hvalue : next = checkpoint.cycleIndex + 1 := by
        unfold checkedAdd at hnext
        split at hnext <;> simp_all
      refine ⟨hvalue, by simp [htoken], ?_, by simp [hlease]⟩
      simp [htoken, hsame]
    · rw [if_neg hsame] at h
      by_cases hbehind : checkedAdd checkpoint.cycleIndex 1 = some previousCycle
      · rw [if_pos hbehind] at h
        simp only [pure_ok, Except.ok.injEq, Prod.mk.injEq] at h
        obtain ⟨rfl, rfl, rfl⟩ := h
        have hvalue : previousCycle = checkpoint.cycleIndex + 1 := by
          unfold checkedAdd at hbehind
          split at hbehind <;> simp_all
        refine ⟨hvalue, by simp [htoken], ?_, by simp [hlease]⟩
        simp [htoken, hvalue]
      · rw [if_neg hbehind] at h
        cases h
  · simp only [htoken, Option.isSome_some, if_true, hcycle, require_some, ok_bind, pure_ok,
      Except.ok.injEq, Prod.mk.injEq] at h
    obtain ⟨rfl, rfl, rfl⟩ := h
    exact ⟨rfl, fun _ => hcycle, by simp [htoken], rfl⟩

/-- What has been established about a run when a dispatch is planned for it. -/
structure Dispatchable (previous : DistributedRunEnvelope) (checkpoint : Checkpoint)
    (nowMs cycle : Nat) (mode : ClaimMode) (notBefore : Option Nat) : Prop where
  going : checkpoint.terminalResult = none
  free : barrierOf checkpoint.status = none
  settled : checkpoint.status ≠ .reconciliationRequired
  current : supersedes checkpoint previous.cycleIndex.toNat = false
  next : nextDispatch checkpoint previous.cycleIndex.toNat nowMs = .ok (cycle, mode, notBefore)
  within : cycle ≤ previous.task.maxCycles.toNat

omit [Runtime] in
theorem judgeRunning_dispatch {previous : DistributedRunEnvelope} {checkpoint : Checkpoint}
    {response : Option CycleDispatchResult} {nowMs cycle : Nat} {mode : ClaimMode}
    {notBefore : Option Nat}
    (h : judgeRunning previous checkpoint response nowMs =
      .ok (.dispatch cycle mode notBefore)) :
    supersedes checkpoint previous.cycleIndex.toNat = false ∧
      nextDispatch checkpoint previous.cycleIndex.toNat nowMs = .ok (cycle, mode, notBefore) ∧
      cycle ≤ previous.task.maxCycles.toNat := by
  rw [judgeRunning, unit_guard_bind] at h
  obtain ⟨_, h⟩ := h
  by_cases hlate : supersedes checkpoint previous.cycleIndex.toNat = true
  · rw [if_pos hlate] at h
    cases h
  · rw [if_neg hlate, unit_guard_bind, bind_eq_ok] at h
    obtain ⟨_, next, hnext, h⟩ := h
    by_cases hmax : previous.task.maxCycles.toNat < next.1
    · rw [if_pos hmax] at h
      cases h
    · rw [if_neg hmax] at h
      simp only [pure_ok, Except.ok.injEq, AdvancePlan.dispatch.injEq] at h
      obtain ⟨rfl, rfl, rfl⟩ := h
      exact ⟨by simpa using hlate, hnext, by omega⟩

omit [Runtime] in
theorem judgeCandidate_not_dispatch {previous : DistributedRunEnvelope} {checkpoint : Checkpoint}
    {revision cycle : Nat} {result : AgentResult} {mode : ClaimMode} {notBefore : Option Nat} :
    judgeCandidate previous checkpoint revision result ≠ .ok (.dispatch cycle mode notBefore) := by
  intro h
  rw [judgeCandidate, unit_guard_bind] at h
  obtain ⟨_, h⟩ := h
  by_cases hreconcile : result.status = .reconciliationRequired
  · rw [if_pos hreconcile, unit_guard_bind] at h
    cases h.2
  · rw [if_neg hreconcile, unit_guard_bind, unit_guard_bind] at h
    cases h.2.2

omit [Runtime] in
theorem judgeOpen_dispatch {previous : DistributedRunEnvelope} {checkpoint : Checkpoint}
    {response : Option CycleDispatchResult} {nowMs cycle : Nat} {mode : ClaimMode}
    {notBefore : Option Nat} (hgoing : checkpoint.terminalResult = none)
    (h : judgeOpen previous checkpoint response nowMs = .ok (.dispatch cycle mode notBefore)) :
    Dispatchable previous checkpoint nowMs cycle mode notBefore := by
  unfold judgeOpen at h
  cases hbarrier : barrierOf checkpoint.status with
  | some barrier =>
      simp only [hbarrier, unit_guard_bind, pure_ok, Except.ok.injEq] at h
      cases h.2
  | none =>
      simp only [hbarrier] at h
      by_cases hreconcile : checkpoint.status = .reconciliationRequired
      · simp only [if_pos hreconcile] at h
        split at h
        · exact absurd h judgeCandidate_not_dispatch
        · cases h
      · simp only [if_neg hreconcile] at h
        split at h
        · exact absurd h judgeCandidate_not_dispatch
        · obtain ⟨hcurrent, hnext, hwithin⟩ := judgeRunning_dispatch h
          exact ⟨hgoing, hbarrier, hreconcile, hcurrent, hnext, hwithin⟩

namespace DistributedBackend

/-- A planned dispatch rests on the stored record. -/
theorem judge_dispatch {backend : DistributedBackend} {store : MemoryStore} {nowMs : Nat}
    {previous : DistributedRunEnvelope} {outcome : DistributedDeliveryOutcome}
    {checkpoint : Checkpoint} {cycle : Nat} {mode : ClaimMode} {notBefore : Option Nat}
    (h : backend.judge store nowMs previous outcome =
      .ok (checkpoint, .dispatch cycle mode notBefore)) :
    store.loadCheckpoint previous.checkpointConfig.key = some checkpoint ∧
      Dispatchable previous checkpoint nowMs cycle mode notBefore := by
  simp only [judge, bind_eq_ok, require_eq_ok] at h
  obtain ⟨_, _, loaded, hloaded, _, _, h⟩ := h
  cases hterminal : loaded.terminalResult with
  | some terminal =>
      simp only [hterminal, bind_eq_ok, pure_ok, Except.ok.injEq, Prod.mk.injEq] at h
      obtain ⟨_, _, _, hplan⟩ := h
      cases hplan
  | none =>
      simp only [hterminal] at h
      split at h
      · cases h
      · simp only [bind_eq_ok, pure_ok, Except.ok.injEq, Prod.mk.injEq] at h
        obtain ⟨plan, hplan, rfl, rfl⟩ := h
        exact ⟨hloaded, judgeOpen_dispatch hterminal hplan⟩

/-- What the enqueuer is called with was built for the planned cycle. -/
theorem advance_sent (backend : DistributedBackend) (store : MemoryStore) (nowMs : Nat)
    (previous : DistributedRunEnvelope) (outcome : DistributedDeliveryOutcome) :
    (backend.advance store nowMs previous outcome).2 = [] ∨
      ∃ checkpoint cycle mode notBefore envelope,
        (backend.advance store nowMs previous outcome).2 = [⟨envelope, notBefore⟩] ∧
        backend.judge store nowMs previous outcome =
          .ok (checkpoint, .dispatch cycle mode notBefore) ∧ cycle < UInt32.size ∧
        backend.envelopeFromCheckpoint previous checkpoint (.ofNat cycle) mode notBefore nowMs =
          .ok envelope := by
  unfold advance
  cases hjudge : backend.judge store nowMs previous outcome with
  | error error => exact .inl rfl
  | ok judged =>
      obtain ⟨checkpoint, plan⟩ := judged
      cases plan with
      | decided decision => exact .inl rfl
      | finalize result => exact .inl rfl
      | dispatch cycle mode notBefore =>
          simp only [carryOut, enqueueCycle]
          split
          · exact .inl rfl
          · rename_i envelope enqueue hprepared
            simp only [bind_eq_ok, refuse_eq_ok, exists_const, decide_eq_false_iff_not, not_le,
              pure_ok, Except.ok.injEq, Prod.mk.injEq] at hprepared
            obtain ⟨hsize, built, hbuilt, _, _, rfl, _⟩ := hprepared
            exact .inr ⟨checkpoint, cycle, mode, notBefore, built, rfl, rfl, hsize, hbuilt⟩

omit [Runtime] in
/-- An envelope that was built carries what it was built from, and a deadline that counts
from the time of its delivery. -/
theorem envelopeFromCheckpoint_eq_ok {backend : DistributedBackend}
    {previous envelope : DistributedRunEnvelope} {checkpoint : Checkpoint} {cycle : UInt32}
    {mode : ClaimMode} {notBefore : Option Nat} {nowMs : Nat}
    (h : backend.envelopeFromCheckpoint previous checkpoint cycle mode notBefore nowMs =
      .ok envelope) :
    envelope.cycleIndex = cycle ∧ envelope.claimMode = mode ∧ envelope.task = previous.task ∧
      envelope.checkpointConfig = previous.checkpointConfig ∧
      envelope.deadlineUnixMs =
        some (max nowMs (notBefore.getD 0) + backend.dispatchTimeoutMs) ∧
      max nowMs (notBefore.getD 0) + backend.dispatchTimeoutMs ≤ maxWireInteger ∧
      0 < envelope.leaseDurationMs := by
  simp only [envelopeFromCheckpoint, bind_eq_ok, refuse_eq_ok, exists_const, require_eq_ok,
    pure_ok, Except.ok.injEq] at h
  obtain ⟨_, _, _, deadline, hdeadline, _, hvalid, rfl⟩ := h
  have hsum : deadline = max nowMs (notBefore.getD 0) + backend.dispatchTimeoutMs := by
    unfold checkedAdd at hdeadline
    split at hdeadline <;> simp_all
  subst hsum
  simp only [DistributedRunEnvelope.validate, DistributedRunEnvelope.validateCurrentFields,
    unit_guard_bind, refuse_eq_ok, Option.any_some, Bool.or_eq_false_iff,
    decide_eq_false_iff_not, not_lt, beq_eq_false_iff_ne] at hvalid
  obtain ⟨_, ⟨_, _, _, _, _, _, _, _, hwire, _⟩, _, _, hlease, _⟩ := hvalid
  exact ⟨rfl, rfl, rfl, rfl, rfl, hwire, Nat.pos_of_ne_zero hlease⟩

end DistributedBackend

/-- A claim on a valid running record leaves a valid record, as long as its counters last. -/
theorem validateCheckpoint_claimedBy {checkpoint : Checkpoint} {token : String} {lease : Nat}
    {mode : ClaimMode} (hvalid : validateCheckpoint checkpoint = .ok ())
    (hgoing : checkpoint.terminalResult = none) (hrunning : checkpoint.status = .running)
    (hcycle : checkpoint.cycleIndex + 1 ≤ maxWireInteger) (htoken : isBlank token = false)
    (hlease : lease ≤ maxWireInteger) (hrevision : checkpoint.revision < maxWireInteger)
    (hattempt : mode = .recovery → checkpoint.resumeAttempt < maxWireInteger) :
    validateCheckpoint (claimedBy checkpoint (checkpoint.cycleIndex + 1) token lease mode) =
      .ok () := by
  rw [validateCheckpoint_eq_ok] at hvalid ⊢
  obtain ⟨h1, h2, hidentity, hclaim, hterminal, hinteraction, hjournals, h8, h9, h10, h11,
    hlifecycle, h13⟩ := hvalid
  refine ⟨h1, h2, ?_, ?_, ?_, ?_, ?_, h8, h9, h10, h11, ?_, ?_⟩
  · simp only [validateIdentity, unit_guard_bind, refuse_eq_ok, Bool.or_eq_false_iff,
      beq_eq_false_iff_ne, decide_eq_false_iff_not, not_lt] at hidentity ⊢
    obtain ⟨hkey, htask, hroot, htrace, ⟨hpositive, hbound⟩, hindex, _⟩ := hidentity
    refine ⟨hkey, htask, hroot, htrace, ⟨?_, ?_⟩, hindex, hrevision⟩
    · simp only [claimedBy]
      omega
    · simp only [claimedBy]
      split
      · rename_i hmode
        exact hattempt hmode
      · exact hbound
  · simp only [validateClaim, claimedBy, unit_guard_bind, refuse_eq_ok, Bool.or_eq_false_iff,
      bne_self_eq_false, decide_eq_false_iff_not, not_lt]
    exact ⟨htoken, ⟨trivial, hcycle⟩, hlease⟩
  · simp only [validateTerminalStatus, unit_guard_bind, refuse_eq_ok] at hterminal ⊢
    simp only [claimedBy, hgoing, isDurableStatus] at hterminal ⊢
    simpa using hterminal.2.1
  · simp only [validateInteraction, unit_guard_bind] at hinteraction ⊢
    refine ⟨hinteraction.1, hinteraction.2.1, ?_⟩
    have hwaiting := hinteraction.2.2
    simp only [validateWaitingStatus, hrunning] at hwaiting
    exact hwaiting
  · have hactive : (claimedBy checkpoint (checkpoint.cycleIndex + 1) token lease mode).activeCycle =
        checkpoint.activeCycle := by
      unfold Checkpoint.activeCycle
      rcases validateClaim_cases hclaim with ⟨_, hnone, _⟩ | ⟨_, _, _, hsome, _⟩
      · rw [hnone]
        rfl
      · rw [hsome]
        rfl
    simp only [validateJournals, bind_eq_ok, hactive] at hjournals ⊢
    exact hjournals
  · simp only [validateLifecycle, unit_guard_bind, refuse_eq_ok] at hlifecycle ⊢
    obtain ⟨_, _, hdeferred, _, _⟩ := hlifecycle
    refine ⟨by simp [claimedBy], by simp [claimedBy], hdeferred, by simp [claimedBy], ?_⟩
    simp [claimedBy, hgoing]
  · simp [validateTerminalResult, claimedBy, hgoing]

/-- The store grants a claim on a free record exactly when the record is running and its
counters last. -/
theorem prepareClaim_granted {checkpoint : Checkpoint} (token : String) {lease nowMs : Nat}
    {mode : ClaimMode} (hvalid : validateCheckpoint checkpoint = .ok ())
    (hgoing : checkpoint.terminalResult = none)
    (hsettled : checkpoint.status ≠ .reconciliationRequired)
    (hcycle : checkpoint.cycleIndex + 1 ≤ maxWireInteger) (htoken : isBlank token = false)
    (hlease : lease ≤ maxWireInteger) (hnow : nowMs ≤ maxWireInteger)
    (hexpired : ∀ expiry, checkpoint.leaseExpiresAtMs = some expiry →
      expiry ≤ nowMs ∧ mode = .recovery) :
    (∃ claimed, prepareClaim checkpoint (checkpoint.cycleIndex + 1) token lease nowMs mode =
        .ok (some claimed)) ↔
      checkpoint.status = .running ∧ checkpoint.revision < maxWireInteger ∧
        (mode = .recovery → checkpoint.resumeAttempt < maxWireInteger) := by
  constructor
  · rintro ⟨claimed, h⟩
    obtain ⟨hcandidate, _, hclaimed, rfl⟩ := prepareClaim_eq_some h
    rw [validateCheckpoint_eq_ok] at hclaimed
    have hidentity := hclaimed.2.2.1
    simp only [validateIdentity, unit_guard_bind, refuse_eq_ok, Bool.or_eq_false_iff,
      decide_eq_false_iff_not, not_lt] at hidentity
    obtain ⟨_, _, _, _, hattempt, _, hrevision⟩ := hidentity
    simp only [claimedBy] at hattempt hrevision
    refine ⟨?_, hrevision, fun hmode => ?_⟩
    · rcases (claimCandidate_eq_true hcandidate).2.2.1 with hrunning | hreconcile
      · exact hrunning
      · exact absurd hreconcile hsettled
    · have hnext := hattempt.2
      rw [if_pos hmode] at hnext
      exact hnext
  · rintro ⟨hrunning, hrevision, hattempt⟩
    have hclear : mode = .recovery ∨ checkpoint.hasAmbiguousOperation = false := by
      by_cases hmode : mode = .recovery
      · exact .inl hmode
      · right
        have hunclaimed : checkpoint.claimToken = none := by
          rcases validateClaim_cases (validateCheckpoint_claim hvalid) with
            ⟨hnone, _, _⟩ | ⟨_, expiry, _, _, hexpiry, _⟩
          · exact hnone
          · exact absurd (hexpired expiry hexpiry).2 hmode
        have hlifecycle := ((validateCheckpoint_eq_ok checkpoint).mp hvalid).2.2.2.2.2.2.2.2.2.2.2.1
        simp only [validateLifecycle, unit_guard_bind, refuse_eq_ok] at hlifecycle
        have hambiguous := hlifecycle.2.2.2.1
        simpa [hrunning, hunclaimed] using hambiguous
    have hcandidate : claimCandidate checkpoint (checkpoint.cycleIndex + 1) nowMs mode =
        .ok true := by
      simp only [claimCandidate, unit_guard_bind, refuse_eq_ok, pure_ok, Except.ok.injEq,
        Bool.or_eq_false_iff, beq_eq_false_iff_ne, decide_eq_false_iff_not, not_lt]
      refine ⟨⟨by omega, hcycle⟩, hnow, ?_⟩
      have hleases : (checkpoint.leaseExpiresAtMs.all fun expiry =>
          decide (expiry ≤ nowMs) && decide (mode = .recovery)) = true := by
        cases hstored : checkpoint.leaseExpiresAtMs with
        | none => rfl
        | some expiry =>
            obtain ⟨hbefore, hmode⟩ := hexpired expiry hstored
            simp [hbefore, hmode]
      rw [hleases, hgoing, hrunning]
      rcases hclear with hmode | hnone
      · simp [CheckpointStatus.isTerminal, hmode]
      · simp [CheckpointStatus.isTerminal, hnone]
    have hwire : maxWireInteger + 1 < UInt64.size := by decide
    refine ⟨claimedBy checkpoint (checkpoint.cycleIndex + 1) token lease mode, ?_⟩
    have happlied : applyClaim checkpoint (checkpoint.cycleIndex + 1) token lease mode =
        .ok (claimedBy checkpoint (checkpoint.cycleIndex + 1) token lease mode) := by
      unfold applyClaim
      rw [unit_guard_bind, refuse_eq_ok, Bool.or_eq_false_iff, decide_eq_false_iff_not, not_lt]
      refine ⟨⟨htoken, hlease⟩, ?_⟩
      cases mode with
      | recovery =>
          simp only [bind_eq_ok, nextRevision_eq_ok, nextResumeAttempt_eq_ok, pure_ok,
            Except.ok.injEq]
          have hbound := hattempt rfl
          exact ⟨_, ⟨by omega, rfl⟩, _, ⟨by omega, rfl⟩, rfl⟩
      | «continue» =>
          simp only [bind_eq_ok, nextRevision_eq_ok, pure_ok, Except.ok.injEq]
          exact ⟨_, ⟨by omega, rfl⟩, _, rfl, rfl⟩
    simp only [prepareClaim, hcandidate, ok_bind, if_true, happlied,
      validateCheckpoint_claimedBy hvalid hgoing hrunning hcycle htoken hlease hrevision hattempt,
      pure_ok]

/-- The claim of the store, for a record it holds. -/
theorem claimCheckpoint_granted {store : MemoryStore} {key token : String}
    {checkpoint : Checkpoint} {cycle lease nowMs : Nat} {mode : ClaimMode}
    (hstored : store.loadCheckpoint key = some checkpoint) :
    (∃ claimed, (store.claimCheckpoint key cycle token lease nowMs mode).1 =
        .ok (some claimed)) ↔
      isBlank token = false ∧ nowMs < lease ∧ store.hasUnconsumedResponse key = false ∧
        ∃ claimed, prepareClaim checkpoint cycle token lease nowMs mode = .ok (some claimed) := by
  unfold MemoryStore.loadCheckpoint at hstored
  constructor
  · rintro ⟨claimed, h⟩
    obtain ⟨after, h, _⟩ := MemoryStore.atomically_eq_ok h
    simp only [MemoryStore.guardLease, hstored, bind_eq_ok, refuse_eq_ok, exists_const, Bool.or_eq_false_iff,
      decide_eq_false_iff_not, not_le] at h
    obtain ⟨⟨htoken, hlease⟩, hconsumed, prepared, hprepared, h⟩ := h
    cases prepared with
    | none => simp at h
    | some updated => exact ⟨htoken, hlease, hconsumed, updated, hprepared⟩
  · rintro ⟨htoken, hlease, hconsumed, claimed, hprepared⟩
    have hguard : MemoryStore.guardLease token lease nowMs MemoryStore.claimError = .ok () := by
      simp [MemoryStore.guardLease, htoken, hlease]
    refine ⟨claimed, ?_⟩
    simp only [MemoryStore.claimCheckpoint, hguard, hstored, hconsumed, hprepared, refuse_false,
      ok_bind, pure_ok, MemoryStore.atomically]

/-- The time at which an enqueued envelope is to be delivered. -/
def EnqueuedEnvelope.dueMs (call : EnqueuedEnvelope) (nowMs : Nat) : Nat :=
  max nowMs (call.notBeforeUnixMs.getD 0)

/-- A worker that takes an envelope up at a given time, with the record as it is, gets the
claim: its lease can be computed, and the store grants it. -/
def ClaimGranted (store : MemoryStore) (checkpoint : Checkpoint)
    (envelope : DistributedRunEnvelope) (delivery : DistributedDeliveryMetadata) (token : String)
    (nowMs : Nat) : Prop :=
  ∃ lease claimed,
    leaseExpiryAt nowMs envelope.leaseDurationMs envelope.deadlineUnixMs = .ok lease ∧
    (store.claimCheckpoint envelope.checkpointConfig.key envelope.cycleIndex.toNat token lease
      nowMs (effectiveClaimMode envelope checkpoint delivery nowMs)).1 = .ok (some claimed)

omit [Runtime] in
/-- The lease of a delivery that keeps its deadline lies between now and the deadline. -/
theorem leaseExpiryAt_deadline {nowMs duration timeout : Nat}
    (hdeadline : nowMs + timeout ≤ maxWireInteger) :
    leaseExpiryAt nowMs duration (some (nowMs + timeout)) =
      .ok (nowMs + min duration timeout) := by
  have hwire : maxWireInteger < UInt64.size := by decide
  have hfits : nowMs + min duration timeout < UInt64.size := by
    have hmin := Nat.min_le_right duration timeout
    omega
  simp only [leaseExpiryAt, Nat.add_sub_cancel_left, checkedAdd, if_pos hfits, require_some]

/-- When the claim of a dispatched cycle is granted. -/
theorem claimGranted_iff {backend : DistributedBackend} {store : MemoryStore}
    {checkpoint : Checkpoint} {previous envelope : DistributedRunEnvelope} {mode : ClaimMode}
    {notBefore : Option Nat} {nowMs : Nat} {delivery : DistributedDeliveryMetadata}
    {token : String}
    (hstored : store.loadCheckpoint previous.checkpointConfig.key = some checkpoint)
    (hvalid : validateCheckpoint checkpoint = .ok ())
    (hgoing : checkpoint.terminalResult = none)
    (hsettled : checkpoint.status ≠ .reconciliationRequired)
    (hbuilt : backend.envelopeFromCheckpoint previous checkpoint envelope.cycleIndex mode notBefore
      nowMs = .ok envelope)
    (hcycle : envelope.cycleIndex.toNat = checkpoint.cycleIndex + 1)
    (hbefore : notBefore = checkpoint.leaseExpiresAtMs.filter (nowMs < ·))
    (htoken : isBlank token = false) :
    ClaimGranted store checkpoint envelope delivery token (max nowMs (notBefore.getD 0)) ↔
      checkpoint.status = .running ∧
      store.hasUnconsumedResponse previous.checkpointConfig.key = false ∧
      0 < backend.dispatchTimeoutMs ∧ checkpoint.revision < maxWireInteger ∧
      (effectiveClaimMode envelope checkpoint delivery (max nowMs (notBefore.getD 0)) =
        .recovery → checkpoint.resumeAttempt < maxWireInteger) := by
  obtain ⟨_, _, _, hconfig, hdeadline, hwire, hduration⟩ :=
    DistributedBackend.envelopeFromCheckpoint_eq_ok hbuilt
  generalize hdue : max nowMs (notBefore.getD 0) = due at *
  generalize hmode : effectiveClaimMode envelope checkpoint delivery due = claimMode
  have hsmall : checkpoint.cycleIndex + 1 ≤ maxWireInteger := by
    have hbound := envelope.cycleIndex.toNat_lt
    have hlimit : 2 ^ 32 ≤ maxWireInteger := by decide
    omega
  -- A stored lease has run out when the envelope is due, and then recovery is asked for.
  have hexpired : ∀ expiry, checkpoint.leaseExpiresAtMs = some expiry →
      expiry ≤ due ∧ claimMode = .recovery := by
    intro expiry hexpiry
    have hover : expiry ≤ due := by
      by_cases hlive : nowMs < expiry
      · have hheld : notBefore = some expiry := by
          rw [hbefore, hexpiry]
          simp [hlive]
        rw [hheld, Option.getD_some] at hdue
        omega
      · omega
    refine ⟨hover, ?_⟩
    rw [← hmode, effectiveClaimMode, hexpiry]
    simp [hover]
  have hlease : leaseExpiryAt due envelope.leaseDurationMs envelope.deadlineUnixMs =
      .ok (due + min envelope.leaseDurationMs backend.dispatchTimeoutMs) := by
    rw [hdeadline]
    exact leaseExpiryAt_deadline hwire
  have hleaseWire : due + min envelope.leaseDurationMs backend.dispatchTimeoutMs ≤
      maxWireInteger := by
    have hmin := Nat.min_le_right envelope.leaseDurationMs backend.dispatchTimeoutMs
    omega
  have hgranted := prepareClaim_granted token hvalid hgoing hsettled hsmall htoken
    hleaseWire (by omega) hexpired
  have hfuture : due < due + min envelope.leaseDurationMs backend.dispatchTimeoutMs ↔
      0 < backend.dispatchTimeoutMs := by
    rw [Nat.lt_add_right_iff_pos, Nat.lt_min]
    exact and_iff_right hduration
  unfold ClaimGranted
  rw [hmode, hlease, hconfig, hcycle]
  constructor
  · rintro ⟨lease, claimed, hsame, hclaim⟩
    obtain rfl := Except.ok.inj hsame
    obtain ⟨_, hlater, hconsumed, hprepared⟩ :=
      (claimCheckpoint_granted hstored).mp ⟨claimed, hclaim⟩
    obtain ⟨hrunning, hrevision, hattempt⟩ := hgranted.mp hprepared
    exact ⟨hrunning, hconsumed, hfuture.mp hlater, hrevision, hattempt⟩
  · rintro ⟨hrunning, hconsumed, htimeout, hrevision, hattempt⟩
    obtain ⟨claimed, hclaim⟩ := (claimCheckpoint_granted hstored).mpr
      ⟨htoken, hfuture.mpr htimeout, hconsumed, hgranted.mpr ⟨hrunning, hrevision, hattempt⟩⟩
    exact ⟨_, claimed, rfl, hclaim⟩

/-- For every delivery that comes back, at every time: the driver enqueues at most one
envelope, and none for a run that has ended, waits for somebody else, or has left the
delivered cycle behind. The envelope names the cycle after the last committed one, within the
limit of the task; it asks for recovery exactly when a claim is stored or the delivered cycle
was not committed, and is held back exactly until a lease that is still running. Delivered at
its time to an unchanged record, it is granted the claim exactly when the run is running, no
answer of the host waits to be consumed, the timeout is not rounded down to nothing, and the
counters of the record have not run out. -/
theorem dispatch_sound (backend : DistributedBackend) (store : MemoryStore) (nowMs : Nat)
    (previous : DistributedRunEnvelope) (outcome : DistributedDeliveryOutcome)
    (checkpoint : Checkpoint)
    (hstored : store.loadCheckpoint previous.checkpointConfig.key = some checkpoint)
    (hvalid : validateCheckpoint checkpoint = .ok ()) :
    let sent := (backend.advance store nowMs previous outcome).2
    sent.length ≤ 1 ∧
      (checkpoint.terminalResult.isSome = true ∨
          checkpoint.status ∈ [.hostInteraction, .suspended, .deferred, .reconciliationRequired] ∨
          previous.cycleIndex.toNat < checkpoint.cycleIndex → sent = []) ∧
      ∀ call ∈ sent,
        call.envelope.cycleIndex.toNat = checkpoint.cycleIndex + 1 ∧
        (checkpoint.claimToken.isSome = true →
          checkpoint.claimedCycle = some call.envelope.cycleIndex.toNat) ∧
        call.envelope.task = previous.task ∧
        call.envelope.cycleIndex.toNat ≤ call.envelope.task.maxCycles.toNat ∧
        (call.envelope.claimMode = .recovery ↔ checkpoint.claimToken.isSome = true ∨
          checkpoint.cycleIndex < previous.cycleIndex.toNat) ∧
        call.notBeforeUnixMs = checkpoint.leaseExpiresAtMs.filter (nowMs < ·) ∧
        ∀ delivery token, isBlank token = false →
          (ClaimGranted store checkpoint call.envelope delivery token (call.dueMs nowMs) ↔
            checkpoint.status = .running ∧
            store.hasUnconsumedResponse previous.checkpointConfig.key = false ∧
            0 < backend.dispatchTimeoutMs ∧ checkpoint.revision < maxWireInteger ∧
            (effectiveClaimMode call.envelope checkpoint delivery (call.dueMs nowMs) = .recovery →
              checkpoint.resumeAttempt < maxWireInteger)) := by
  intro sent
  have hsent : sent = (backend.advance store nowMs previous outcome).2 := rfl
  clear_value sent
  rcases backend.advance_sent store nowMs previous outcome with
    hnone | ⟨loaded, cycle, mode, notBefore, envelope, hone, hjudge, hsize, hbuilt⟩
  · rw [hsent, hnone]
    exact ⟨Nat.zero_le _, fun _ => rfl, fun call hcall => absurd hcall List.not_mem_nil⟩
  obtain ⟨hloaded, hplan⟩ := DistributedBackend.judge_dispatch hjudge
  obtain rfl : checkpoint = loaded := by
    rw [hstored] at hloaded
    exact Option.some.inj hloaded
  obtain ⟨hnext, hclaimed, hmode, hbefore⟩ :=
    nextDispatch_eq_ok (validateCheckpoint_claim hvalid) hplan.next
  obtain ⟨hindex, henvelopeMode, htask, _, _, _, _⟩ :=
    DistributedBackend.envelopeFromCheckpoint_eq_ok hbuilt
  have hcycle : envelope.cycleIndex.toNat = cycle := by
    rw [hindex]
    exact UInt32.toNat_ofNat_of_lt hsize
  rw [hsent, hone]
  refine ⟨Nat.le_refl _, fun hstopped => ?_, fun call hcall => ?_⟩
  · have hbarrier := hplan.free
    have hcurrent := hplan.current
    rcases hstopped with hended | hstatus | hpast
    · rw [hplan.going] at hended
      cases hended
    · simp only [List.mem_cons, List.not_mem_nil, or_false] at hstatus
      rcases hstatus with h | h | h | h
      · simp [h, barrierOf] at hbarrier
      · simp [h, barrierOf] at hbarrier
      · simp [h, barrierOf] at hbarrier
      · exact absurd h hplan.settled
    · simp [supersedes, hpast] at hcurrent
  · rw [List.mem_singleton] at hcall
    subst hcall
    refine ⟨hcycle.trans hnext, fun htoken => ?_, htask, ?_, ?_, hbefore, fun delivery token htoken => ?_⟩
    · rw [hclaimed htoken, hcycle]
    · rw [hcycle, htask]
      exact hplan.within
    · rw [henvelopeMode]
      exact hmode
    · rw [← hindex] at hbuilt
      exact claimGranted_iff hstored hvalid hplan.going hplan.settled hbuilt (hcycle.trans hnext)
        hbefore htoken

end

namespace Sample

def storeRef : CapabilityRef := ⟨"checkpoints", "1"⟩

def recipe : RuntimeRecipe where
  settingsFile := "settings.json"
  backend := "moonshot"
  model := "kimi"
  workspace := "/workspace"
  capabilities :=
    { toolsetRef :=
        ⟨"vv-agent.builtin-tools", "4",
          "dfacb96a2c181e1eb56bca920911cb82f5425ad3cab288fd5f1e96651d9eb2c3"⟩
      checkpointStoreRef := some storeRef }

/-- The envelope of a cycle of the run. -/
def envelope (cycleIndex : UInt32) (claimMode : ClaimMode) : DistributedRunEnvelope where
  jobId := "run:cycle:1"
  runId := "run"
  task := ⟨"task", 5, []⟩
  recipe := recipe
  cycleName := "vv_agent.distributed.run_single_cycle"
  cycleIndex := cycleIndex
  idempotencyKey := "run:cycle:1"
  deadlineUnixMs := some 600000
  leaseDurationMs := 300000
  rootRunId := "run"
  traceId := "trace"
  runDefinitionDigest := definitionDigest.1
  claimMode := claimMode
  resumeAttempt := 1
  checkpointConfig := { key := "checkpoint", maxExtensionStateBytes := 262144 }

/-- A backend whose enqueuer takes every envelope. -/
def backend : DistributedBackend where
  runtimeRecipe := some recipe
  capabilityRegistry := some [storeRef]
  cycleEnqueuer := some fun _ _ => .ok ()
  cycleName := "vv_agent.distributed.run_single_cycle"
  dispatchTimeoutMs := 600000
  leaseDurationMs := 300000

/-- A run whose first cycle asked the host and was answered. -/
def answeredRun : List StoreOp :=
  [.create created, .claim "checkpoint" 1 "worker-a" 2000 1000 .continue,
    .produceHostInteraction clock question asking, .resolveCommand clock answerCommand 3000]

def answeredStore : MemoryStore := @run _ _ (@exec (runtime questionDocuments)) answeredRun {}

def claimedStore : MemoryStore := @run _ _ (@exec (runtime [])) claimRun {}

theorem claimedStore_sends :
    (@DistributedBackend.advance (runtime []) backend claimedStore 1500 (envelope 1 .continue)
      (.transportFailure "worker lost")).2.length = 1 := by
  decide +kernel

theorem answeredStore_sends :
    (@DistributedBackend.advance (runtime questionDocuments) backend answeredStore 4000
        (envelope 1 .continue) (.transportFailure "worker lost")).2.length = 1 ∧
      answeredStore.hasUnconsumedResponse "checkpoint" = true := by
  decide +kernel

end Sample

/-- A claim that is still running holds the envelope of its recovery back, which is granted
the claim when the lease is over. -/
theorem dispatch_sound_retry :
    ∃ call, (@DistributedBackend.advance (Sample.runtime []) Sample.backend Sample.claimedStore 1500
        (Sample.envelope 1 .continue) (.transportFailure "worker lost")).2 = [call] ∧
      call.notBeforeUnixMs = some 2000 ∧
      @ClaimGranted (Sample.runtime []) Sample.claimedStore Sample.claimed call.envelope {}
        "worker-b" 2000 := by
  let _ : Runtime := Sample.runtime []
  obtain ⟨call, hcall⟩ := List.length_eq_one_iff.mp Sample.claimedStore_sends
  obtain ⟨_, _, hsent⟩ := dispatch_sound Sample.backend Sample.claimedStore 1500
    (Sample.envelope 1 .continue) (.transportFailure "worker lost") Sample.claimed
    Sample.claimRun_record checkpoints_valid_claimRun
  obtain ⟨_, _, _, _, _, hbefore, hgranted⟩ := hsent call (by rw [hcall]; exact List.mem_singleton_self call)
  have hheld : call.notBeforeUnixMs = some 2000 := hbefore.trans (by decide)
  have hdue : call.dueMs 1500 = 2000 := by
    rw [EnqueuedEnvelope.dueMs, hheld]
    rfl
  refine ⟨call, hcall, hheld, ?_⟩
  rw [← hdue]
  exact (hgranted {} "worker-b" (by decide)).mpr
    ⟨rfl, by decide +kernel, by decide, by decide, fun _ => by decide⟩

/-- A run whose host has answered is dispatched, and the claim of that delivery is refused
until the answer has been consumed. -/
theorem answered_run_not_granted :
    ∃ checkpoint call,
      Sample.answeredStore.loadCheckpoint "checkpoint" = some checkpoint ∧
      (@DistributedBackend.advance (Sample.runtime Sample.questionDocuments) Sample.backend
        Sample.answeredStore 4000 (Sample.envelope 1 .continue)
        (.transportFailure "worker lost")).2 = [call] ∧
      ∀ delivery token,
        ¬ @ClaimGranted (Sample.runtime Sample.questionDocuments) Sample.answeredStore checkpoint
          call.envelope delivery token (call.dueMs 4000) := by
  let _ : Runtime := Sample.runtime Sample.questionDocuments
  obtain ⟨hsends, hwaiting⟩ := Sample.answeredStore_sends
  obtain ⟨call, hcall⟩ := List.length_eq_one_iff.mp hsends
  rcases Sample.backend.advance_sent Sample.answeredStore 4000 (Sample.envelope 1 .continue)
    (.transportFailure "worker lost") with
    hnone | ⟨checkpoint, cycle, mode, notBefore, envelope, hone, hjudge, _, hbuilt⟩
  · rw [hcall] at hnone
    cases hnone
  · have hstored := (DistributedBackend.judge_dispatch hjudge).1
    obtain ⟨_, _, _, hconfig, _, _, _⟩ := DistributedBackend.envelopeFromCheckpoint_eq_ok hbuilt
    refine ⟨checkpoint, _, hstored, hone, ?_⟩
    rintro delivery token ⟨lease, claimed, _, hclaim⟩
    rw [hconfig] at hclaim
    have hconsumed := ((claimCheckpoint_granted hstored).mp ⟨claimed, hclaim⟩).2.2.1
    rw [show (Sample.envelope 1 .continue).checkpointConfig.key = "checkpoint" from rfl,
      hwaiting] at hconsumed
    cases hconsumed

end VvAgent
