import VvAgent.Store.Invariant

/-!
Fencing. A write of the claim's owner carries the claim token and the revision it was made
from; a write of a controller carries the revision. Only the renewal of a lease and a
cancel request to a live owner leave the revision alone, so a record that has moved on
rejects every write that was made from an earlier state of it, in every interleaving of
the operations of any number of workers and controllers.
-/

namespace VvAgent
open Lib Lib.Outcome

namespace StoreOp

/-- The claim token a write carries. -/
def ownerToken : StoreOp → Option String
  | .renew _ token _ _ | .progress _ token _ | .suspend _ token _ | .commit _ token _
  | .finalizeClaimed _ _ token _ | .recordToolReceipt _ _ _ _ token _
  | .admitDeferred _ _ _ token _ _ | .acceptDeferred _ _ _ token _ _ => some token
  | .produceHostInteraction _ _ context => some context.claimToken
  | .recordEventDelivery _ token _ _ _ _ => token
  | _ => none

/-- The revision a write was made from. -/
def expectedRevision : StoreOp → Option Nat
  | .progress _ _ revision | .suspend _ _ revision | .commit _ _ revision
  | .finalize _ _ revision | .finalizeClaimed _ _ _ revision
  | .recordToolReceipt _ _ _ _ _ revision | .acknowledge _ revision
  | .recordEventDelivery _ _ revision _ _ _ | .admitDeferred _ _ revision _ _ _
  | .acceptDeferred _ _ revision _ _ _ => some revision
  | .produceHostInteraction _ _ context => some context.expectedRevision
  | .admitCommand _ command _ | .resolveCommand _ command _ => some command.expectedRevision
  | .consumeResponse _ envelope _ => some envelope.expectedRevision
  | _ => none

/-- The writes that leave the revision alone: a renewal, and a cancel request to a live
owner. -/
def keepsRevision (op : StoreOp) (current : Checkpoint) : Bool :=
  match op with
  | .renew _ _ _ _ => true
  | .admitCommand _ command now | .resolveCommand _ command now =>
      command.command == .cancel && current.claimLive now
  | _ => false

/-- An operation that can put a token into a record. -/
def installs (op : StoreOp) (token : String) : Prop :=
  match op with
  | .claim _ _ claimToken _ _ _ => claimToken = token
  | .consumeResponse _ envelope _ =>
      recoveryToken envelope.recordId envelope.resumeAttempt = token
  | _ => False

end StoreOp

/-- What a write changes of the fence itself. -/
structure Fenced (op : StoreOp) (current updated : Checkpoint) : Prop where
  token : ∀ token, op.ownerToken = some token → current.claimToken = some token
  expected : ∀ revision, op.expectedRevision = some revision → current.revision = revision
  revision : updated.revision = current.revision + if op.keepsRevision current then 0 else 1
  owner : updated.claimToken = current.claimToken ∨ updated.claimToken = none ∨
    ∃ token, updated.claimToken = some token ∧ op.installs token

/-- A write of the owner that raises the revision. -/
theorem Fenced.ofOwner {op : StoreOp} {current updated : Checkpoint} {token : String}
    {revision : Nat} (hop : op.ownerToken = some token)
    (hexpected : op.expectedRevision = some revision) (hkeeps : op.keepsRevision current = false)
    (htoken : current.claimToken = some token) (hrevision : current.revision = revision)
    (hraised : updated.revision = current.revision + 1)
    (howner : updated.claimToken = current.claimToken ∨ updated.claimToken = none) :
    Fenced op current updated where
  token other hother := by
    rw [hop, Option.some.injEq] at hother
    rw [htoken, hother]
  expected other hother := by
    rw [hexpected, Option.some.injEq] at hother
    rw [hrevision, hother]
  revision := by simp [hkeeps, hraised]
  owner := howner.imp id .inl

section
variable [Runtime]

theorem Made.fenced {op : StoreOp} {key : String} {current updated : Checkpoint}
    (hmade : Made op key current updated) : Fenced op current updated := by
  cases hmade with
  | claim _ h =>
      obtain ⟨_, _, _, rfl⟩ := prepareClaim_eq_some h
      exact ⟨nofun, nofun, rfl, .inr (.inr ⟨_, rfl, rfl⟩)⟩
  | renew _ htoken _ =>
      refine ⟨?_, nofun, rfl, .inl rfl⟩
      rintro token ⟨⟩
      exact htoken
  | progress h =>
      obtain ⟨hfence, _, _, _, rfl⟩ := prepareProgress_eq_some h
      exact .ofOwner rfl rfl rfl hfence.token hfence.revision rfl (.inl rfl)
  | suspend h =>
      obtain ⟨hfence, _, _, _, _, rfl⟩ := prepareSuspend_eq_some h
      exact .ofOwner rfl rfl rfl hfence.token hfence.revision rfl (.inr rfl)
  | commit h =>
      obtain ⟨hfence, _, _, _, _, _, rfl⟩ := prepareCommit_eq_some h
      exact .ofOwner rfl rfl rfl hfence.token hfence.revision rfl (.inr rfl)
  | finalize h =>
      obtain ⟨hrevision, _, _, _, _, _, _, hterminal⟩ := prepareFinalize_eq_some h
      obtain ⟨_, _, _, _, _, _, _, rfl⟩ := prepareTerminalSnapshot_eq_ok hterminal
      refine ⟨nofun, ?_, ?_, .inr (.inl rfl)⟩
      · rintro revision ⟨⟩
        exact hrevision
      · simp [StoreOp.keepsRevision, hrevision]
  | finalizeClaimed h =>
      obtain ⟨hfence, _, _, hterminal⟩ := prepareFinalizeClaimed_eq_some h
      obtain ⟨_, _, _, _, _, _, _, rfl⟩ := prepareTerminalSnapshot_eq_ok hterminal
      exact .ofOwner rfl rfl rfl hfence.token hfence.revision (by rw [hfence.revision])
        (.inr rfl)
  | toolReceipt h =>
      obtain ⟨htoken, _, hrevision, _, _, _, _, _, _, _, _, _, _, _, rfl⟩ :=
        prepareToolReceipt_eq_some h
      exact .ofOwner rfl rfl rfl htoken hrevision rfl (.inl rfl)
  | acknowledge h =>
      obtain ⟨hrevision, _, _, _, _, rfl⟩ := prepareAck_eq_some h
      refine ⟨nofun, ?_, rfl, .inl rfl⟩
      rintro revision ⟨⟩
      exact hrevision
  | delivery h =>
      obtain ⟨hrevision, htoken, _, _, _, _, rfl⟩ := prepareEventDelivery_eq_some h
      refine ⟨fun token hop => htoken.trans hop, ?_, rfl, .inl rfl⟩
      rintro revision ⟨⟩
      exact hrevision
  | admitDeferred h hchanged =>
      obtain ⟨hrevision, htoken, _, _, _, _, _, _, _, _, _, rfl⟩ :=
        admitDeferredBatch_eq_ok h hchanged
      exact .ofOwner rfl rfl rfl htoken hrevision rfl (.inr rfl)
  | acceptDeferred h =>
      obtain ⟨hrevision, htoken, _, _, _, _, _, _, _, _, rfl⟩ := acceptDeferredBatch_eq_ok h
      exact .ofOwner rfl rfl rfl htoken hrevision rfl (.inr rfl)
  | resolveDeferred _ _ h =>
      obtain ⟨_, _, _, _, _, _, _, _, _, _, rfl⟩ := resolveEntry_eq_ok h
      exact ⟨nofun, nofun, rfl, .inl rfl⟩
  | produce _ hrevision htoken _ h =>
      obtain ⟨_, _, _, _, rfl⟩ := prepareHostInteraction_eq_ok h
      exact .ofOwner rfl rfl rfl htoken hrevision rfl (.inr rfl)
  | command hop h hupdated =>
      obtain ⟨_, hrevision, _, _, hcase⟩ := applyControllerCommand_eq_ok h
      rw [hupdated] at hcase
      have hexpected : ∀ revision, op.expectedRevision = some revision →
          current.revision = revision := by
        rcases hop with rfl | rfl <;> (rintro revision ⟨⟩; exact hrevision)
      have hnone : ∀ token, op.ownerToken = some token → current.claimToken = some token := by
        rcases hop with rfl | rfl <;> nofun
      cases hcase with
      | requested _ hlive hcommand _ =>
          refine ⟨hnone, hexpected, ?_, .inl rfl⟩
          rcases hop with rfl | rfl <;> simp [StoreOp.keepsRevision, hcommand, hlive]
      | moved base _ _ _ _ hlive hbase _ =>
          refine ⟨hnone, hexpected, ?_, ?_⟩
          · rcases hop with rfl | rfl <;> simp [StoreOp.keepsRevision, hlive]
          · rcases hbase with ⟨rfl, _⟩ | rfl
            · exact .inl rfl
            · exact .inr (.inl rfl)
      | ended _ _ _ _ _ hlive =>
          refine ⟨hnone, hexpected, ?_, .inr (.inl rfl)⟩
          rcases hop with rfl | rfl <;> simp [StoreOp.keepsRevision, hlive]
  | consume hrevision _ _ _ _ hrecord h =>
      obtain ⟨_, _, rfl⟩ := prepareConsume_eq_ok h
      refine ⟨nofun, ?_, ?_, .inr (.inr ⟨_, rfl, ?_⟩)⟩
      · rintro revision ⟨⟩
        exact hrevision
      · simp [StoreOp.keepsRevision, hrevision]
      · rw [hrecord]
        rfl

theorem Wrote.fenced {op : StoreOp} {key : String} {current stored : Checkpoint}
    (hwrote : Wrote op key current stored) : Fenced op current stored := by
  obtain ⟨updated, _, _, _, _, hmade, _, rfl⟩ := hwrote.frame
  exact ⟨hmade.fenced.token, hmade.fenced.expected, hmade.fenced.revision, hmade.fenced.owner⟩

/-- A token that is not in a record does not get into it by other operations than those
that install it. -/
theorem exec_tokenAbsent {op : StoreOp} {store : MemoryStore} {key token : String}
    (hkeyed : Keyed store) (hinstalls : ¬op.installs token)
    (habsent : ∀ current, store.checkpoints[key]? = some current →
      current.claimToken ≠ some token) :
    ∀ current, (exec op store).checkpoints[key]? = some current →
      current.claimToken ≠ some token := by
  intro current hfound
  have hstep := (exec_step op store hkeyed).record key
  rw [hfound] at hstep
  generalize hbefore : store.checkpoints[key]? = record at hstep
  cases hstep with
  | kept => exact habsent current hbefore
  | created _ _ _ hcreation =>
      rw [(validateCheckpointCreation_initial hcreation).claimToken]
      simp
  | written before _ hwrote =>
      rcases hwrote.fenced.owner with hsame | hnone | ⟨other, hother, hinstalled⟩
      · rw [hsame]
        exact habsent before hbefore
      · simp [hnone]
      · rintro htoken
        rw [hother, Option.some.injEq] at htoken
        exact hinstalls (htoken ▸ hinstalled)

/-- The revision of a record never falls while the record is there. -/
theorem exec_revision {op : StoreOp} {store : MemoryStore} {key : String} {revision : Nat}
    (hkeyed : Keyed store) (hkept : op ≠ .delete key)
    (hreached : ∃ current, store.checkpoints[key]? = some current ∧
      revision ≤ current.revision) :
    ∃ current, (exec op store).checkpoints[key]? = some current ∧
      revision ≤ current.revision := by
  obtain ⟨current, hfound, hle⟩ := hreached
  have hstep := (exec_step op store hkeyed).record key
  rw [hfound] at hstep
  generalize (exec op store).checkpoints[key]? = record at hstep
  cases hstep with
  | kept => exact ⟨current, rfl, hle⟩
  | written _ stored hwrote =>
      refine ⟨stored, rfl, ?_⟩
      rw [hwrote.fenced.revision]
      omega
  | deleted _ hop => exact absurd hop hkept

/-- A write whose token or revision is not the stored one leaves the record alone. -/
theorem exec_stale {op : StoreOp} {store : MemoryStore} {key : String} (hkeyed : Keyed store)
    (hcarries : op.ownerToken.isSome ∨ op.expectedRevision.isSome)
    (hstale : ∀ current, store.checkpoints[key]? = some current →
      (∃ token, op.ownerToken = some token ∧ current.claimToken ≠ some token) ∨
        ∃ revision, op.expectedRevision = some revision ∧ current.revision ≠ revision) :
    (exec op store).checkpoints[key]? = store.checkpoints[key]? := by
  have hstep := (exec_step op store hkeyed).record key
  generalize hbefore : store.checkpoints[key]? = before at hstep
  generalize hafter : (exec op store).checkpoints[key]? = after at hstep
  cases hstep with
  | kept => rfl
  | created _ hop => simp [hop, StoreOp.ownerToken, StoreOp.expectedRevision] at hcarries
  | written current stored hwrote =>
      rcases hstale current hbefore with ⟨token, hop, htoken⟩ | ⟨revision, hop, hrevision⟩
      · exact absurd (hwrote.fenced.token token hop) htoken
      · exact absurd (hwrote.fenced.expected revision hop) hrevision
  | deleted _ hop => simp [hop, StoreOp.ownerToken, StoreOp.expectedRevision] at hcarries

/-- A claim is handed out only when the stored lease has run out. -/
theorem claimCheckpoint_eq_some {store : MemoryStore} {key : String} {cycle : Nat}
    {token : String} {lease now : Nat} {mode : ClaimMode} {claimed : Checkpoint}
    (h : (store.claimCheckpoint key cycle token lease now mode).1 = .ok (some claimed)) :
    ∃ current, store.checkpoints[key]? = some current ∧
      (∀ expiry, current.leaseExpiresAtMs = some expiry → expiry ≤ now) ∧
      claimed.claimToken = some token ∧
      (store.claimCheckpoint key cycle token lease now mode).2.checkpoints[key]? =
        some claimed := by
  obtain ⟨after, h, hafter⟩ := MemoryStore.atomically_eq_ok h
  change (store.claimCheckpoint key cycle token lease now mode).2 = after at hafter
  rw [hafter]
  simp only [bind_eq_ok] at h
  obtain ⟨_, _, h⟩ := h
  split at h
  · simp at h
  rename_i current hfound
  simp only [bind_eq_ok, refuse_eq_ok, exists_const] at h
  obtain ⟨_, prepared, hprepared, h⟩ := h
  cases prepared with
  | none => simp at h
  | some updated =>
      simp only [pure_ok, Except.ok.injEq, Prod.mk.injEq, Option.some.injEq] at h
      obtain ⟨rfl, rfl⟩ := h
      obtain ⟨hcandidate, _, _, hclaimed⟩ := prepareClaim_eq_some hprepared
      refine ⟨current, hfound, ?_, by rw [hclaimed, claimedBy], ?_⟩
      · intro expiry hexpiry
        exact ((claimCandidate_eq_true hcandidate).2.2.2.2.2 expiry hexpiry).1
      · rw [Table.get_insert, if_pos rfl]

omit [Runtime] in
/-- A lease is extended only for the token that holds it. -/
theorem renewCheckpointClaim_eq_ok {store : MemoryStore} {key token : String}
    {lease now : Nat} {outcome : CheckpointRenewalOutcome} {current : Checkpoint}
    (hfound : store.checkpoints[key]? = some current)
    (h : (store.renewCheckpointClaim key token lease now).1 = .ok outcome)
    (hkept : ∀ revision, outcome ≠ .claimLost revision) : current.claimToken = some token := by
  obtain ⟨after, h, _⟩ := MemoryStore.atomically_eq_ok h
  simp only [bind_eq_ok] at h
  obtain ⟨_, _, h⟩ := h
  by_contra hother
  simp only [hfound] at h
  rw [if_pos (.inl hother)] at h
  simp only [pure_ok, Except.ok.injEq, Prod.mk.injEq] at h
  exact hkept _ h.1.symm

/-- Fencing, in every store that any interleaving of operations reaches. A write is applied
only with the stored token and the stored revision, and it raises the revision by one unless
it is a renewal or a cancel request to a live owner. A lease that has not run out is not
given away. From then on, writes with a token that is no longer stored, or with an earlier
revision, never change the record again. -/
theorem writes_fenced (ops : List StoreOp) (key : String) (current : Checkpoint)
    (hcurrent : (run exec ops {}).checkpoints[key]? = some current) :
    (∀ op, op ≠ .delete key →
      (exec op (run exec ops {})).checkpoints[key]? ≠ some current →
      (∀ token, op.ownerToken = some token → current.claimToken = some token) ∧
      (∀ revision, op.expectedRevision = some revision → current.revision = revision) ∧
      ∃ stored, (exec op (run exec ops {})).checkpoints[key]? = some stored ∧
        stored.revision = current.revision + if op.keepsRevision current then 0 else 1) ∧
    (∀ token lease now outcome,
      ((run exec ops {}).renewCheckpointClaim key token lease now).1 = .ok outcome →
      (∀ revision, outcome ≠ .claimLost revision) → current.claimToken = some token) ∧
    (∀ cycle token lease now mode claimed,
      ((run exec ops {}).claimCheckpoint key cycle token lease now mode).1 = .ok (some claimed) →
      claimed.claimToken = some token ∧
        (exec (.claim key cycle token lease now mode) (run exec ops {})).checkpoints[key]? =
          some claimed ∧
        ∀ expiry, current.leaseExpiresAtMs = some expiry → expiry ≤ now) ∧
    (∀ token, current.claimToken ≠ some token →
      ∀ later, (∀ op ∈ later, ¬op.installs token) → ∀ op, op.ownerToken = some token →
        (exec op (run exec (ops ++ later) {})).checkpoints[key]? =
          (run exec (ops ++ later) {}).checkpoints[key]?) ∧
    (∀ later, (∀ op ∈ later, op ≠ .delete key) → ∀ op revision,
      op.expectedRevision = some revision → revision < current.revision →
        (exec op (run exec (ops ++ later) {})).checkpoints[key]? =
          (run exec (ops ++ later) {}).checkpoints[key]?) := by
  have hkeyed := run_keyed ops
  refine ⟨?_, ?_, ?_, ?_, ?_⟩
  · intro op hkept hchanged
    have hstep := exec_record ops op key
    rw [hcurrent] at hstep
    generalize (exec op (run exec ops {})).checkpoints[key]? = after at hstep hchanged ⊢
    cases hstep with
    | kept => exact absurd rfl hchanged
    | written _ stored hwrote =>
        exact ⟨hwrote.fenced.token, hwrote.fenced.expected, stored, rfl, hwrote.fenced.revision⟩
    | deleted _ hop => exact absurd hop hkept
  · intro token lease now outcome h hkept
    exact renewCheckpointClaim_eq_ok hcurrent h hkept
  · intro cycle token lease now mode claimed h
    obtain ⟨found, hfound, hlease, htoken, hstored⟩ := claimCheckpoint_eq_some h
    obtain rfl : current = found := Option.some.inj (hcurrent.symm.trans hfound)
    exact ⟨htoken, hstored, hlease⟩
  · intro token htoken later hlater op hop
    have habsent := run_preserves exec (fun op => ¬op.installs token)
      (fun store => Keyed store ∧ ∀ current, store.checkpoints[key]? = some current →
        current.claimToken ≠ some token)
      (fun op store hop h => ⟨exec_keyed op store h.1, exec_tokenAbsent h.1 hop h.2⟩)
      later hlater (run exec ops {})
      ⟨hkeyed, fun found hfound => by
        obtain rfl : current = found := Option.some.inj (hcurrent.symm.trans hfound)
        exact htoken⟩
    rw [← run_append] at habsent
    exact exec_stale habsent.1 (.inl (by simp [hop]))
      fun found hfound => .inl ⟨token, hop, habsent.2 found hfound⟩
  · intro later hlater op revision hop hold
    have hreached := run_preserves exec (fun op => op ≠ .delete key)
      (fun store => Keyed store ∧ ∃ found, store.checkpoints[key]? = some found ∧
        current.revision ≤ found.revision)
      (fun op store hop h => ⟨exec_keyed op store h.1, exec_revision h.1 hop h.2⟩)
      later hlater (run exec ops {}) ⟨hkeyed, current, hcurrent, le_rfl⟩
    rw [← run_append] at hreached
    obtain ⟨hlast, found, hfound, hle⟩ := hreached
    refine exec_stale hlast (.inr (by simp [hop])) fun other hother => .inr ⟨revision, hop, ?_⟩
    obtain rfl : found = other := Option.some.inj (hfound.symm.trans hother)
    omega

end

/-- While `worker-a` holds the claim, a write of `worker-b` and a write from revision 0 change
nothing, also after a renewal. -/
theorem writes_fenced_claimRun :
    letI := Sample.runtime []
    letI later := [StoreOp.renew "checkpoint" "worker-a" 3000 1500]
    (exec (.progress Sample.claimed "worker-b" 1)
        (run exec (Sample.claimRun ++ later) {})).checkpoints["checkpoint"]? =
      (run exec (Sample.claimRun ++ later) {}).checkpoints["checkpoint"]? ∧
    (exec (.commit Sample.created "worker-a" 0)
        (run exec (Sample.claimRun ++ later) {})).checkpoints["checkpoint"]? =
      (run exec (Sample.claimRun ++ later) {}).checkpoints["checkpoint"]? := by
  let _ : Runtime := Sample.runtime []
  have hfenced := writes_fenced Sample.claimRun "checkpoint" Sample.claimed
    Sample.claimRun_record
  exact ⟨hfenced.2.2.2.1 "worker-b" (by decide) _ (by simp [StoreOp.installs]) _ rfl,
    hfenced.2.2.2.2 _ (by simp) _ 0 rfl (by decide)⟩

end VvAgent
