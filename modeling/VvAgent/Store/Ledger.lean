import Mathlib.Data.List.Perm.Basic
import VvAgent.Checkpoint.Reading
import VvAgent.Store.Cancellation
import VvAgent.Store.Line

/-!
The archive loses nothing. The purpose of a checkpoint's history is a ledger: every cycle
that was committed, in order, and every model call that was written. The ledger is kept here
beside the run, from the calls of the store alone; the store keeps a bounded part of it in
the record and the rest in the archive, and both together are the ledger at every point of
every run whose snapshots survive their canonical text.
-/

namespace VvAgent
open Lib Lib.Outcome

/-- All cycles ever committed and all model calls ever written under a key. -/
structure Ledger where
  cycles : List CycleRecord := []
  calls : List ModelCallRecord := []

/-- The ledger after a write that moved the committed cycle from `before` to `after`. -/
def Ledger.extend (ledger : Ledger) (op : StoreOp) (known before after : Nat) : Ledger where
  cycles := ledger.cycles ++ (op.offered.elim [] (·.cycles)).filter fun cycle =>
    before < cycle.index.toNat && cycle.index.toNat ≤ after
  calls := ledger.calls ++ op.offeredCalls.drop known

/-- The ledger after one operation, from the record before it and the record after it. -/
def Ledger.record (ledger : Ledger) (op : StoreOp) : Option Checkpoint → Option Checkpoint → Ledger
  | some before, some after =>
      if after = before then ledger
      else ledger.extend op before.modelCalls.length before.cycleIndex after.cycleIndex
  | _, _ => {}

section
variable [Runtime]

/-- The store with the ledger of one key beside it. -/
def execLogged (key : String) (op : StoreOp) (state : MemoryStore × Ledger) :
    MemoryStore × Ledger :=
  (exec op state.1,
    state.2.record op state.1.checkpoints[key]? (exec op state.1).checkpoints[key]?)

/-- The ledger of a run. -/
def ledgerOf (ops : List StoreOp) (key : String) : Ledger :=
  (run (execLogged key) ops ({}, {})).2

theorem run_execLogged (key : String) (ops : List StoreOp) (store : MemoryStore) (ledger : Ledger) :
    (run (execLogged key) ops (store, ledger)).1 = run exec ops store := by
  induction ops generalizing store ledger with
  | nil => rfl
  | cons op rest ih => exact ih (exec op store) _

/-- What a call hands to the archive is stable, and a suspension does not take the committed
cycle back. -/
structure StoreOp.Archivable (op : StoreOp) : Prop where
  cycles : ∀ snapshot, op.offered = some snapshot → ∀ cycle ∈ snapshot.cycles, cycle.Stable
  calls : ∀ record ∈ op.offeredCalls, record.Stable
  forward : ∀ snapshot token revision, op = .suspend snapshot token revision →
    ∀ cycle, snapshot.claimedCycle = some cycle → cycle ≤ snapshot.cycleIndex + 1

/-- A record, its archive as it is read back, and the ledger. -/
structure Recorded (checkpoint : Checkpoint) (archive : ArchivedHistory) (ledger : Ledger)
    (state : DecodeState) : Prop where
  decoded : decodePayloads checkpoint.checkpointKey 0 {} archive.payloads = .ok state
  frontier : state.frontier checkpoint.history.sequence = checkpoint.history
  callIds : archive.callIds = state.modelCalls.map (·.callId)
  ordered : (state.cycles ++ checkpoint.cycles).Pairwise fun left right => left.index < right.index
  distinct : ((state.modelCalls ++ checkpoint.modelCalls).map (·.callId)).Nodup
  stableCycles : ∀ cycle ∈ checkpoint.cycles, cycle.Stable
  stableCalls : ∀ record ∈ checkpoint.modelCalls, record.Stable
  ledgerCalls : (state.modelCalls ++ checkpoint.modelCalls).Perm ledger.calls
  ledgerCycles : ∃ openCycles, state.cycles ++ checkpoint.cycles = ledger.cycles ++ openCycles ∧
    ∀ cycle ∈ openCycles, cycle.index.toNat = checkpoint.cycleIndex + 1
  committed : checkpoint.terminalResult = none →
    ∀ cycle ∈ state.cycles ++ ledger.cycles, cycle.index.toNat ≤ checkpoint.cycleIndex

/-- While a run goes on, the ledger is the archive and the committed cycles of the record. -/
theorem Recorded.ledger_open {checkpoint : Checkpoint} {archive : ArchivedHistory}
    {ledger : Ledger} {state : DecodeState} (h : Recorded checkpoint archive ledger state)
    (hopen : checkpoint.terminalResult = none) :
    ledger.cycles = state.cycles ++ checkpoint.committedCycles := by
  obtain ⟨openCycles, hcycles, hindex⟩ := h.ledgerCycles
  have hcommitted := h.committed hopen
  have hfiltered := congrArg
    (List.filter fun cycle => decide (cycle.index.toNat ≤ checkpoint.cycleIndex)) hcycles
  rw [List.filter_append, List.filter_append] at hfiltered
  have harchived : state.cycles.filter
      (fun cycle => decide (cycle.index.toNat ≤ checkpoint.cycleIndex)) = state.cycles := by
    rw [List.filter_eq_self]
    intro cycle hmem
    exact decide_eq_true (hcommitted cycle (List.mem_append_left _ hmem))
  have hledger : ledger.cycles.filter
      (fun cycle => decide (cycle.index.toNat ≤ checkpoint.cycleIndex)) = ledger.cycles := by
    rw [List.filter_eq_self]
    intro cycle hmem
    exact decide_eq_true (hcommitted cycle (List.mem_append_right _ hmem))
  have hlater : openCycles.filter
      (fun cycle => decide (cycle.index.toNat ≤ checkpoint.cycleIndex)) = [] := by
    rw [List.filter_eq_nil_iff]
    intro cycle hmem
    have heq := hindex cycle hmem
    simp only [decide_eq_true_eq]
    omega
  rw [harchived, hledger, hlater, List.append_nil] at hfiltered
  exact hfiltered.symm

/-- In a record, the committed cycles come first. -/
theorem committedCycles_eq_takeWhile {checkpoint : Checkpoint}
    (h : ValidBesidesLease checkpoint) :
    (checkpoint.cycles.takeWhile fun cycle => cycle.index.toNat ≤ checkpoint.cycleIndex) =
      checkpoint.committedCycles := by
  refine takeWhile_eq_filter _ _ (h.cycles_ordered.2.imp ?_)
  intro left right hless hright
  have hnat : left.index.toNat < right.index.toNat := hless
  simp only [decide_eq_true_eq] at hright ⊢
  omega

omit [Runtime] in
/-- Only a snapshot brings model calls. -/
theorem StoreOp.offeredCalls_of_none {op : StoreOp} (hnone : op.offered = none) :
    op.offeredCalls = [] := by
  cases op with
  | progress | suspend | commit | finalize | finalizeClaimed => cases hnone
  | _ => rfl

omit [Runtime] in
/-- An operation with a snapshot brings all of its model calls or none. -/
theorem StoreOp.offeredCalls_eq (op : StoreOp) {snapshot : Checkpoint}
    (hoffered : op.offered = some snapshot) :
    op.offeredCalls = snapshot.modelCalls ∨ op.offeredCalls = [] := by
  cases op with
  | progress | suspend | commit | finalize | finalizeClaimed =>
      rw [← Option.some.inj hoffered]
      exact .inl rfl
  | _ => exact .inr rfl

theorem StoreOp.Archivable.of_none {op : StoreOp} (hnone : op.offered = none) : op.Archivable where
  cycles snapshot hoffered := by
    rw [hnone] at hoffered
    cases hoffered
  calls record hmem := by
    rw [StoreOp.offeredCalls_of_none hnone] at hmem
    cases hmem
  forward snapshot token revision hop := by
    subst hop
    cases hnone

theorem StoreOp.Archivable.of_commit {snapshot : Checkpoint} {token : String} {revision : Nat}
    (hcycles : ∀ cycle ∈ snapshot.cycles, cycle.Stable)
    (hcalls : ∀ record ∈ snapshot.modelCalls, record.Stable) :
    (StoreOp.commit snapshot token revision).Archivable where
  cycles other hoffered := by
    obtain rfl : snapshot = other := Option.some.inj hoffered
    exact hcycles
  calls := hcalls
  forward other token' revision' hop := by cases hop

theorem StoreOp.Archivable.of_progress {snapshot : Checkpoint} {token : String} {revision : Nat}
    (hcycles : ∀ cycle ∈ snapshot.cycles, cycle.Stable)
    (hcalls : ∀ record ∈ snapshot.modelCalls, record.Stable) :
    (StoreOp.progress snapshot token revision).Archivable where
  cycles other hoffered := by
    obtain rfl : snapshot = other := Option.some.inj hoffered
    exact hcycles
  calls := hcalls
  forward other token' revision' hop := by cases hop

/-- The committed cycle of a run that goes on is never taken back. -/
theorem Made.cycleIndex_le {op : StoreOp} {key : String} {current updated : Checkpoint}
    (hmade : Made op key current updated) (hop : op.Archivable)
    (hcurrent : ValidBesidesLease current) (hopen : updated.terminalResult = none) :
    current.cycleIndex ≤ updated.cycleIndex := by
  rcases hmade.carries.cycles with ⟨_, _, hindex⟩ | ⟨snapshot, hoffered, _⟩
  · omega
  cases hmade with
  | progress h =>
      obtain ⟨hfence, hvalid, _, _, rfl⟩ := prepareProgress_eq_some h
      have hclaimed := hcurrent.claimedCycle_of_token hfence.token
      have hafter := (ValidBesidesLease.of_valid hvalid).claimedCycle hclaimed
      exact Nat.le_of_succ_le_succ (le_of_eq hafter)
  | suspend h =>
      obtain ⟨hfence, _, _, _, _, rfl⟩ := prepareSuspend_eq_some h
      have hclaimed := hcurrent.claimedCycle_of_token hfence.token
      have hforward := hop.forward _ _ _ rfl _ (hfence.cycle.symm.trans hclaimed)
      exact Nat.le_of_succ_le_succ hforward
  | commit h =>
      obtain ⟨_, _, _, hcycle, _, _, rfl⟩ := prepareCommit_eq_some h
      have hclaimed := hcurrent.claimedCycle hcycle
      exact Nat.le_of_succ_le (le_of_eq hclaimed.symm)
  | finalize h =>
      obtain ⟨_, _, _, _, _, _, _, hterminal⟩ := prepareFinalize_eq_some h
      obtain ⟨_, _, _, _, _, _, _, rfl⟩ := prepareTerminalSnapshot_eq_ok hterminal
      cases hopen
  | finalizeClaimed h =>
      obtain ⟨_, _, _, hterminal⟩ := prepareFinalizeClaimed_eq_some h
      obtain ⟨_, _, _, _, _, _, _, rfl⟩ := prepareTerminalSnapshot_eq_ok hterminal
      cases hopen
  | produce _ _ _ hclaimed h =>
      have hbefore := hcurrent.claimedCycle hclaimed
      obtain ⟨_, cycle, _, hcycle, rfl⟩ := prepareHostInteraction_eq_ok h
      rcases (prepareHostInteractionCycle_eq_ok hcycle).2 with
        ⟨rfl, _⟩ | ⟨_, receipt, _, _, _, _, _, _, rfl⟩
      · exact le_refl _
      · exact Nat.le_of_succ_le (le_of_eq hbefore.symm)
  | command hcommand => rcases hcommand with rfl | rfl <;> cases hoffered
  | claim | renew | toolReceipt | acknowledge | delivery | admitDeferred | acceptDeferred
  | resolveDeferred | consume => cases hoffered

/-- Preparing a record extends the ledger by what the operation offers. -/
theorem Recorded.prepare {op : StoreOp} {key : String} {current updated : Checkpoint}
    {archive : ArchivedHistory} {ledger : Ledger} {state : DecodeState}
    (h : Recorded current archive ledger state) (hmade : Made op key current updated)
    (hop : op.Archivable) (hcurrent : ValidBesidesLease current)
    (hfresh : ∀ record ∈ updated.modelCalls, record.callId ∉ archive.callIds) :
    Recorded updated archive
      (ledger.extend op current.modelCalls.length current.cycleIndex updated.cycleIndex) state := by
  have hcarries := hmade.carries
  have hvalid := hmade.validBesidesLease hcurrent
  have hdecoded : decodePayloads updated.checkpointKey 0 {} archive.payloads = .ok state := by
    rw [hmade.checkpointKey]
    exact h.decoded
  have hfrontier : state.frontier updated.history.sequence = updated.history := by
    rw [hcarries.history]
    exact h.frontier
  have hdistinct : ((state.modelCalls ++ updated.modelCalls).map (·.callId)).Nodup := by
    rw [List.map_append, List.nodup_append]
    refine ⟨?_, hvalid.callIds_nodup, ?_⟩
    · have hbefore := h.distinct
      rw [List.map_append, List.nodup_append] at hbefore
      exact hbefore.1
    · intro archived harchived active hactive
      obtain ⟨record, hmem, rfl⟩ := List.mem_map.mp hactive
      rintro rfl
      exact hfresh record hmem (h.callIds ▸ harchived)
  have hstableCalls : ∀ record ∈ updated.modelCalls, record.Stable := by
    intro record hmem
    rw [hcarries.calls] at hmem
    rcases List.mem_append.mp hmem with hold | hnew
    · exact h.stableCalls record hold
    · exact hop.calls record (List.mem_of_mem_drop hnew)
  have hledgerCalls : (state.modelCalls ++ updated.modelCalls).Perm
      (ledger.calls ++ op.offeredCalls.drop current.modelCalls.length) := by
    rw [hcarries.calls, ← List.append_assoc]
    exact h.ledgerCalls.append_right _
  rcases hcarries.cycles with ⟨hnone, hcycles, hindex⟩ | ⟨snapshot, hoffered, hopen, hextends, hcycles⟩
  · have hextend : (ledger.extend op current.modelCalls.length current.cycleIndex
        updated.cycleIndex).cycles = ledger.cycles := by
      simp [Ledger.extend, hnone]
    refine ⟨hdecoded, hfrontier, h.callIds, hcycles ▸ h.ordered, hdistinct,
      hcycles ▸ h.stableCycles, hstableCalls, hledgerCalls, ?_, ?_⟩
    · rw [hextend, hcycles, hindex]
      exact h.ledgerCycles
    · intro hstill
      rw [hextend, hindex]
      refine h.committed ?_
      by_contra hfinished
      have hends := hmade.staysTerminal (Option.isSome_iff_ne_none.mpr hfinished)
      simp [hstill] at hends
  · -- The offered cycles are the committed ones and at most the one under way.
    have hledger := h.ledger_open hopen
    have hcommitted := h.committed hopen
    have hkept := hextends.cycles
    have hnew := hextends.newCycles
    rw [committedCycles_eq_takeWhile hcurrent] at hkept hnew
    obtain ⟨rest, hsplit⟩ := hkept
    rw [← hsplit, List.drop_left] at hnew
    rw [← hsplit] at hcycles
    have hbounds := hvalid.cycles_ordered.1
    have hmemRest : ∀ cycle ∈ rest, cycle ∈ updated.cycles := fun cycle hmem => by
      rw [hcycles]
      exact List.mem_append_right _ hmem
    have hextend : (ledger.extend op current.modelCalls.length current.cycleIndex
        updated.cycleIndex).cycles =
        ledger.cycles ++ rest.filter fun cycle => cycle.index.toNat ≤ updated.cycleIndex := by
      simp only [Ledger.extend, hoffered, Option.elim_some, ← hsplit, List.filter_append]
      congr 1
      have hnone : current.committedCycles.filter (fun cycle =>
          decide (current.cycleIndex < cycle.index.toNat) &&
            decide (cycle.index.toNat ≤ updated.cycleIndex)) = [] := by
        rw [List.filter_eq_nil_iff]
        intro cycle hmem
        have hle := of_decide_eq_true (List.mem_filter.mp hmem).2
        simp only [Bool.and_eq_true, decide_eq_true_eq]
        omega
      rw [hnone, List.nil_append]
      refine List.filter_congr fun cycle hmem => ?_
      have heq := hnew cycle hmem
      simp only [heq, Nat.lt_add_one, decide_true, Bool.true_and]
    refine ⟨hdecoded, hfrontier, h.callIds, ?_, hdistinct, ?_, hstableCalls, hledgerCalls, ?_, ?_⟩
    · rw [hcycles, ← List.append_assoc, ← hledger, List.pairwise_append]
      have hordered := hvalid.cycles_ordered.2
      rw [hcycles, List.pairwise_append] at hordered
      refine ⟨?_, hordered.2.1, ?_⟩
      · rw [hledger]
        exact h.ordered.sublist (List.Sublist.append_left List.filter_sublist _)
      · intro left hleft right hright
        have hle := hcommitted left (List.mem_append_right _ hleft)
        have heq := hnew right hright
        rw [UInt32.lt_iff_toNat_lt]
        omega
    · intro cycle hmem
      rw [hcycles, hsplit] at hmem
      exact hop.cycles snapshot hoffered cycle hmem
    · by_cases hadvanced : current.cycleIndex + 1 ≤ updated.cycleIndex
      · refine ⟨[], ?_, by simp⟩
        have hall : (rest.filter fun cycle => cycle.index.toNat ≤ updated.cycleIndex) = rest := by
          rw [List.filter_eq_self]
          intro cycle hmem
          have heq := hnew cycle hmem
          exact decide_eq_true (by omega)
        rw [hextend, hall, hledger, hcycles, List.append_nil, List.append_assoc]
      · refine ⟨rest, ?_, ?_⟩
        · have hnothing :
              (rest.filter fun cycle => cycle.index.toNat ≤ updated.cycleIndex) = [] := by
            rw [List.filter_eq_nil_iff]
            intro cycle hmem
            have heq := hnew cycle hmem
            simp only [decide_eq_true_eq]
            omega
          rw [hextend, hnothing, hledger, hcycles, List.append_nil, List.append_assoc]
        · intro cycle hmem
          have heq := hnew cycle hmem
          have hle := (hbounds cycle (hmemRest cycle hmem)).2
          omega
    · intro hstill cycle hmem
      have hforward := hmade.cycleIndex_le hop hcurrent hstill
      rw [hextend] at hmem
      rcases List.mem_append.mp hmem with harchived | hmem
      · exact (hcommitted cycle (List.mem_append_left _ harchived)).trans hforward
      · rcases List.mem_append.mp hmem with hold | hrest
        · exact (hcommitted cycle (List.mem_append_right _ hold)).trans hforward
        · exact of_decide_eq_true (List.mem_filter.mp hrest).2

/-- The cycles that leave a record are the first ones of it. -/
theorem movedCycles_append_keptCycles {checkpoint : Checkpoint} (h : ValidBesidesLease checkpoint) :
    checkpoint.movedCycles ++ checkpoint.keptCycles = checkpoint.cycles := by
  unfold Checkpoint.movedCycles Checkpoint.keptCycles
  cases retainedCycle checkpoint with
  | none => rfl
  | some retained =>
      refine filter_append_filter_not _ _ (h.cycles_ordered.2.imp ?_)
      intro left right hless hright
      have hnat : left.index.toNat < right.index.toNat := hless
      simp only [archivesCycle, decide_eq_true_eq] at hright ⊢
      omega

omit [Runtime] in
theorem movedCalls_append_keptCalls (checkpoint : Checkpoint) :
    (checkpoint.movedCalls ++ checkpoint.keptCalls).Perm checkpoint.modelCalls := by
  unfold Checkpoint.movedCalls Checkpoint.keptCalls
  cases retainedCycle checkpoint with
  | none => exact List.Perm.refl _
  | some retained => exact List.filter_append_perm _ _

omit [Runtime] in
/-- What leaves the record of a run that goes on is committed. -/
theorem movedCycles_committed {checkpoint : Checkpoint} (hopen : checkpoint.terminalResult = none) :
    ∀ cycle ∈ checkpoint.movedCycles, cycle.index.toNat ≤ checkpoint.cycleIndex := by
  intro cycle hmem
  unfold Checkpoint.movedCycles at hmem
  cases hretained : retainedCycle checkpoint with
  | none => simp [hretained] at hmem
  | some retained =>
      simp only [hretained, List.mem_filter, archivesCycle, decide_eq_true_eq] at hmem
      rw [retainedCycle, hopen, Option.isSome_none, if_neg Bool.false_ne_true] at hretained
      have hbound := of_decide_eq_true (List.mem_filter.mp (List.max?_mem hretained)).2
      omega

/-- Archiving moves the border between the archive and the record; the ledger stays. -/
theorem Recorded.persist_take {updated stored : Checkpoint} {archive after : ArchivedHistory}
    {ledger : Ledger} {state : DecodeState} (h : Recorded updated archive ledger state)
    (hvalid : ValidBesidesLease updated)
    (hpersist : persistHistory archive updated = .ok (stored, after))
    (hsome : updated.archivesNothing = false) :
    ∃ next, Recorded stored after ledger next ∧
      next.cycles = state.cycles ++ updated.movedCycles ∧
      next.modelCalls = state.modelCalls ++ updated.movedCalls := by
  rcases (persistHistory_eq_ok hpersist).2 with
    ⟨hnothing, _⟩ | ⟨digest, terminal, _, hsequence, hdigest, hterminal, _, rfl, rfl⟩
  · simp [hnothing] at hsome
  have hcycles : state.cycles ++ updated.movedCycles ++ updated.keptCycles =
      state.cycles ++ updated.cycles := by
    rw [List.append_assoc, movedCycles_append_keptCycles hvalid]
  have hcalls : (state.modelCalls ++ updated.movedCalls ++ updated.keptCalls).Perm
      (state.modelCalls ++ updated.modelCalls) := by
    rw [List.append_assoc]
    exact (movedCalls_append_keptCalls updated).append_left _
  have hordered := h.ordered
  rw [← hcycles] at hordered
  have hdistinct : ((state.modelCalls ++ updated.movedCalls ++ updated.keptCalls).map
      (·.callId)).Nodup := (hcalls.map _).nodup_iff.mpr h.distinct
  have hread : decodePayload updated.checkpointKey updated.history.sequence state
      updated.archivePayload.canonical = .ok (state.take updated digest) := by
    refine decodePayload_archived h.stableCycles h.stableCalls hsome hdigest h.frontier ?_ ?_
    · exact (List.pairwise_append.mp hordered).1
    · rw [List.map_append, List.nodup_append] at hdistinct
      exact hdistinct.1
  refine ⟨state.take updated digest, ⟨?_, state.frontier_take updated digest h.frontier, ?_,
    hordered, hdistinct, ?_, ?_, hcalls.trans h.ledgerCalls, ?_, ?_⟩, rfl, rfl⟩
  · change decodePayloads updated.checkpointKey 0 {} (archive.payloads ++ [_]) = _
    rw [decodePayloads_concat, h.decoded, ok_bind, Nat.zero_add, hsequence]
    exact hread
  · simp only [DecodeState.take, List.map_append, h.callIds]
  · intro cycle hmem
    exact h.stableCycles cycle (updated.keptCycles_sublist.subset hmem)
  · intro record hmem
    exact h.stableCalls record (updated.keptCalls_sublist.subset hmem)
  · obtain ⟨openCycles, hledger, hindex⟩ := h.ledgerCycles
    exact ⟨openCycles, hcycles.trans hledger, hindex⟩
  · intro hstill cycle hmem
    have hfinished := trimTerminal_isSome hterminal
    have hopen : updated.terminalResult = none := by
      rw [← Option.isNone_iff_eq_none, ← Option.not_isSome, ← hfinished, Option.not_isSome]
      exact Option.isNone_iff_eq_none.mpr hstill
    change cycle ∈ state.cycles ++ updated.movedCycles ++ ledger.cycles at hmem
    rw [List.append_assoc, List.mem_append, List.mem_append] at hmem
    rcases hmem with hold | hmoved | hledger
    · exact h.committed hopen cycle (List.mem_append_left _ hold)
    · exact movedCycles_committed hopen cycle hmoved
    · exact h.committed hopen cycle (List.mem_append_right _ hledger)

theorem Recorded.persist {updated stored : Checkpoint} {archive after : ArchivedHistory}
    {ledger : Ledger} {state : DecodeState} (h : Recorded updated archive ledger state)
    (hvalid : ValidBesidesLease updated)
    (hpersist : persistHistory archive updated = .ok (stored, after)) :
    ∃ next, Recorded stored after ledger next := by
  rcases (persistHistory_eq_ok hpersist).2 with ⟨_, rfl, rfl⟩ | ⟨_, _, hsome, _⟩
  · exact ⟨state, h⟩
  · obtain ⟨next, hnext, _⟩ := h.persist_take hvalid hpersist hsome
    exact ⟨next, hnext⟩

/-- A line together with the ledger of its key. -/
inductive Line.Recorded : Line → Ledger → Prop
  | absent : Line.Recorded ⟨none, {}⟩ {}
  | present (checkpoint : Checkpoint) (archive : ArchivedHistory) (ledger : Ledger)
      (state : DecodeState) (h : VvAgent.Recorded checkpoint archive ledger state) :
      Line.Recorded ⟨some checkpoint, archive⟩ ledger

/-- An operation that leaves the record as it was offers nothing. -/
theorem Made.ledger_record {op : StoreOp} {key : String} {current updated stored : Checkpoint}
    (hmade : Made op key current updated) (ledger : Ledger)
    (hrevision : stored.revision = updated.revision)
    (hindex : stored.cycleIndex = updated.cycleIndex) :
    ledger.record op (some current) (some stored) =
      ledger.extend op current.modelCalls.length current.cycleIndex updated.cycleIndex := by
  change (if stored = current then ledger else _) = _
  by_cases hsame : stored = current
  · rw [if_pos hsame]
    have hraised := hmade.fenced.revision
    rw [← hrevision, hsame] at hraised
    have hkeeps : op.keepsRevision current = true := by
      by_contra hnot
      simp [hnot] at hraised
    have hnone : op.offered = none := by
      cases op with
      | renew | admitCommand | resolveCommand => rfl
      | _ => cases hkeeps
    simp [Ledger.extend, hnone, StoreOp.offeredCalls_of_none hnone]
  · rw [if_neg hsame, hindex]

theorem Recorded.create {checkpoint : Checkpoint}
    (hcreation : validateCheckpointCreation checkpoint = .ok ()) :
    Recorded checkpoint {} {} {} := by
  have hinitial := validateCheckpointCreation_initial hcreation
  refine ⟨rfl, ?_, rfl, ?_, ?_, ?_, ?_, ?_, ⟨[], ?_, ?_⟩, ?_⟩
  all_goals simp [hinitial.history, hinitial.cycles, hinitial.modelCalls]
  rfl

/-- One operation keeps a line and its ledger together. -/
theorem LineStep.recorded {op : StoreOp} {key : String} {before after : Line} {ledger : Ledger}
    (hstep : LineStep op key before after) (hop : op.Archivable) (hsound : before.Sound)
    (hrecorded : before.Recorded ledger) :
    after.Recorded (ledger.record op before.record after.record) := by
  cases hstep with
  | kept =>
      cases hrecorded with
      | absent => exact .absent
      | present _ _ _ state h =>
          refine .present _ _ _ state ?_
          simpa [Ledger.record] using h
  | created checkpoint archive _ hcreation =>
      cases hrecorded
      exact .present checkpoint {} {} {} (.create hcreation)
  | plain current updated archive hmade hplain =>
      cases hrecorded with
      | present _ _ _ state h =>
          cases hsound with
          | present _ _ hfiled =>
              have hcalls : updated.modelCalls = current.modelCalls := by
                rw [hmade.carries.calls, (op.offers_nothing hplain).2]
                simp
              rw [hmade.ledger_record ledger rfl rfl]
              exact .present _ _ _ state
                (h.prepare hmade hop hfiled.valid (hcalls ▸ hfiled.fresh))
  | archived current updated stored archive after hmade hpersist =>
      cases hrecorded with
      | present _ _ _ state h =>
          cases hsound with
          | present _ _ hfiled =>
              have hfresh := (persistHistory_eq_ok hpersist).1
              have hprepared := h.prepare hmade hop hfiled.valid hfresh
              have hvalid := hmade.validBesidesLease hfiled.valid
              obtain ⟨read, hread⟩ := hprepared.persist hvalid hpersist
              have hframe : stored.revision = updated.revision ∧
                  stored.cycleIndex = updated.cycleIndex := by
                rcases (persistHistory_eq_ok hpersist).2 with
                  ⟨_, rfl, _⟩ | ⟨_, _, _, _, _, _, _, rfl, _⟩ <;> exact ⟨rfl, rfl⟩
              rw [hmade.ledger_record ledger hframe.1 hframe.2]
              exact .present _ _ _ read hread
  | deleted =>
      have hempty : ledger.record op before.record none = {} := by
        cases before.record <;> rfl
      rw [hempty]
      exact .absent

/-- What a store that was reached has in common with its ledger. -/
theorem run_recorded (ops : List StoreOp) (hops : ∀ op ∈ ops, op.Archivable) (key : String) :
    ((run exec ops {}).line key).Recorded (ledgerOf ops key) := by
  have h := run_preserves (execLogged key) StoreOp.Archivable
    (fun state => Keyed state.1 ∧ (∀ key, (state.1.line key).Sound) ∧
      (state.1.line key).Recorded state.2)
    (fun op state hop h => ⟨exec_keyed op state.1 h.1, exec_line_sound op state.1 h.1 h.2.1,
      ((exec_step op state.1 h.1).line h.1 key).recorded hop (h.2.1 key) h.2.2⟩)
    ops hops ({}, {}) ⟨keyed_empty, run_line_sound [], Line.Recorded.absent⟩
  rw [run_execLogged] at h
  exact h.2.2

/-- The archive of a stored checkpoint reads back, and together with the record it is the
ledger: the cycles that were committed, strictly ordered, with at most the cycle under way
behind them, and every model call once. -/
theorem archive_loses_nothing (ops : List StoreOp) (hops : ∀ op ∈ ops, op.Archivable)
    (key : String) :
    ∃ archived, (run exec ops {}).loadCheckpointHistory key = .ok archived ∧
      ∀ checkpoint, (run exec ops {}).checkpoints[key]? = some checkpoint →
        archived.frontier = checkpoint.history ∧
        ((archived.cycles ++ checkpoint.cycles).Pairwise
          fun left right => left.index < right.index) ∧
        (∃ openCycles,
          archived.cycles ++ checkpoint.cycles = (ledgerOf ops key).cycles ++ openCycles ∧
          ∀ cycle ∈ openCycles, cycle.index.toNat = checkpoint.cycleIndex + 1) ∧
        (archived.modelCalls ++ checkpoint.modelCalls).Perm (ledgerOf ops key).calls ∧
        ((archived.modelCalls ++ checkpoint.modelCalls).map (·.callId)).Nodup := by
  have hkeyed := run_keyed ops
  have hrecorded := run_recorded ops hops key
  have hsound := run_line_sound ops key
  generalize run exec ops {} = store at hkeyed hrecorded hsound ⊢
  unfold MemoryStore.loadCheckpointHistory
  unfold MemoryStore.line at hrecorded hsound
  cases hfound : store.checkpoints[key]? with
  | none => exact ⟨{}, rfl, fun _ habsent => absurd habsent (by simp)⟩
  | some checkpoint =>
      rw [hfound] at hrecorded hsound
      cases hrecorded with
      | present _ _ _ state h =>
          cases hsound with
          | present _ _ hfiled =>
              have hbefore : ∀ archived ∈ state.cycles, ∀ active ∈ checkpoint.cycles,
                  archived.index < active.index := (List.pairwise_append.mp h.ordered).2.2
              have hread := decodeCheckpointHistory_of_decoded hfiled.sequence h.decoded h.frontier
                hbefore h.distinct
              refine ⟨⟨state.cycles, state.modelCalls, checkpoint.history⟩, hread, ?_⟩
              intro other hother
              obtain rfl : checkpoint = other := Option.some.inj hother
              exact ⟨rfl, h.ordered, h.ledgerCycles, h.ledgerCalls, h.distinct⟩

end

namespace Sample

/-- A cycle whose tool reported a score. -/
def searched (index : UInt32) (score : JsonNumber) : CycleRecord where
  index := index
  assistantMessage := "searching"
  toolCalls := []
  toolResults :=
    [{ toolCallId := "call-1"
       content := "found"
       status := .success
       metadata := [("score", .num score)] }]
  memoryCompacted := false

/-- A cycle without tools. -/
def quiet (index : UInt32) : CycleRecord where
  index := index
  assistantMessage := "done"
  toolCalls := []
  toolResults := []
  memoryCompacted := false

/-- The owner's snapshot at the end of the first cycle. -/
def firstCycle (score : JsonNumber) : Checkpoint :=
  { claimed with cycleIndex := 1, cycles := [searched 1 score] }

/-- The owner's snapshot at the end of the second cycle. -/
def secondCycle (score : JsonNumber) : Checkpoint :=
  { claimedBy { firstCycle score with revision := 2 } 2 "worker-a" 4000 .continue with
    cycleIndex := 2
    cycles := [searched 1 score, quiet 2] }

/-- A run of two cycles; the commit of the second one archives the first. -/
def twoCycles (score : JsonNumber) : List StoreOp :=
  [.create created, .claim "checkpoint" 1 "worker-a" 2000 1000 .continue,
    .commit (firstCycle score) "worker-a" 1,
    .claim "checkpoint" 2 "worker-a" 4000 3000 .continue,
    .commit (secondCycle score) "worker-a" 3]

/-- The batch of a run of two cycles, with its digest. -/
def batchDocument (digest : Digest) : List Known :=
  [{ member := "schema_version", text := historySchema, digest }]

/-- The batch that holds the score 7. -/
def smallBatch : List Known :=
  batchDocument
    ⟨"a2b45c0eed3a29af0a87a55622e789972cc56f5b8ffe054b0e0d68af766c34ac", by decide⟩

/-- The batch that holds the double 1e17, which is written `100000000000000000`. -/
def largeBatch : List Known :=
  batchDocument
    ⟨"7c1b4cc7e132e3da79e3f8ad53f587fda469038801725a3223f18b66902ba4b5", by decide⟩

theorem searched_stable (known : List Known) :
    @CycleRecord.Stable (runtime known).toPlatform (searched 1 (.posInt 7)) := by
  refine @CycleRecord.Stable.mk (runtime known).toPlatform _ ?_ ?_ <;> rfl

theorem quiet_stable (known : List Known) :
    @CycleRecord.Stable (runtime known).toPlatform (quiet 2) := by
  refine @CycleRecord.Stable.mk (runtime known).toPlatform _ ?_ ?_ <;> rfl

theorem twoCycles_archivable :
    ∀ op ∈ twoCycles (.posInt 7), @StoreOp.Archivable (runtime smallBatch) op := by
  let _ : Runtime := runtime smallBatch
  intro op hop
  simp only [twoCycles, List.mem_cons, List.not_mem_nil, or_false] at hop
  rcases hop with rfl | rfl | rfl | rfl | rfl
  · exact .of_none rfl
  · exact .of_none rfl
  · refine .of_commit (fun cycle hmem => ?_) fun record hmem => absurd hmem List.not_mem_nil
    rw [List.mem_singleton.mp hmem]
    exact searched_stable _
  · exact .of_none rfl
  · refine .of_commit (fun cycle hmem => ?_) fun record hmem => absurd hmem List.not_mem_nil
    rcases List.mem_cons.mp hmem with rfl | hmem
    · exact searched_stable _
    · rw [List.mem_singleton.mp hmem]
      exact quiet_stable _

end Sample

theorem archive_loses_nothing_twoCycles :
    ∃ archived, @MemoryStore.loadCheckpointHistory (Sample.runtime Sample.smallBatch)
      (@run _ _ (@exec (Sample.runtime Sample.smallBatch)) (Sample.twoCycles (.posInt 7)) {})
      "checkpoint" = .ok archived := by
  obtain ⟨archived, hload, _⟩ := @archive_loses_nothing (Sample.runtime Sample.smallBatch)
    (Sample.twoCycles (.posInt 7)) Sample.twoCycles_archivable "checkpoint"
  exact ⟨archived, hload⟩

/-- A double of large integral value is archived as an integer that the reader refuses. -/
theorem archive_unreadable :
    @MemoryStore.loadCheckpointHistory (Sample.runtime Sample.largeBatch)
      (@run _ _ (@exec (Sample.runtime Sample.largeBatch))
        (Sample.twoCycles (.float 100000000000000000)) {}) "checkpoint" =
      .error ⟨"checkpoint_definition_not_i_json",
        "checkpoint history.cycles[0].tool_results[0].metadata.score is outside the " ++
          "JSON-safe integer range"⟩ := by
  decide +kernel

end VvAgent
