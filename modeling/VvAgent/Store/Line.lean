import Mathlib.Data.List.Nodup
import VvAgent.Store.Invariant

/-!
The record of one key together with its archive, and what one operation does to the pair.
What an operation carries over from the stored record is said once for all operations:
the frontier never moves before the archive does, model calls and cycles are only added,
and only by the operations that offer a snapshot.
-/

namespace VvAgent
open Lib Lib.Outcome

/-- The record of a key, if there is one, and its archive. -/
structure Line where
  record : Option Checkpoint
  archive : ArchivedHistory

def MemoryStore.line (store : MemoryStore) (key : String) : Line where
  record := store.checkpoints[key]?
  archive := store.archiveOf key

namespace StoreOp

/-- The snapshot whose cycles an operation stores. -/
def offered : StoreOp → Option Checkpoint
  | .progress checkpoint _ _ | .suspend checkpoint _ _ | .commit checkpoint _ _
  | .finalize _ checkpoint _ | .finalizeClaimed _ checkpoint _ _ => some checkpoint
  | .produceHostInteraction _ _ context => context.cycleSnapshot
  | _ => none

/-- The model calls an operation stores, those that are stored already among them. -/
def offeredCalls : StoreOp → List ModelCallRecord
  | .progress checkpoint _ _ | .suspend checkpoint _ _ | .commit checkpoint _ _
  | .finalize _ checkpoint _ | .finalizeClaimed _ checkpoint _ _ => checkpoint.modelCalls
  | _ => []

theorem offers_nothing (op : StoreOp) (hplain : op.writesPlain = true) :
    op.offered = none ∧ op.offeredCalls = [] := by
  cases op with
  | claim | renew | admitCommand | resolveCommand => exact ⟨rfl, rfl⟩
  | _ => cases hplain

end StoreOp

/-- The cycles of a record that are committed. -/
def Checkpoint.committedCycles (checkpoint : Checkpoint) : List CycleRecord :=
  checkpoint.cycles.filter fun cycle => cycle.index.toNat ≤ checkpoint.cycleIndex

/-- What an operation carries over from the stored record to the one it prepares. -/
structure Carries (op : StoreOp) (current updated : Checkpoint) : Prop where
  history : updated.history = current.history
  calls : updated.modelCalls =
    current.modelCalls ++ op.offeredCalls.drop current.modelCalls.length
  cycles : op.offered = none ∧ updated.cycles = current.cycles ∧
      updated.cycleIndex = current.cycleIndex ∨
    ∃ snapshot, op.offered = some snapshot ∧ current.terminalResult = none ∧
      Extension current snapshot ∧ updated.cycles = snapshot.cycles

/-- An operation without a snapshot leaves the history as it is. -/
theorem Carries.same {op : StoreOp} {current updated : Checkpoint} (hnone : op.offered = none)
    (hcalls : op.offeredCalls = []) (hhistory : updated.history = current.history)
    (hmodelCalls : updated.modelCalls = current.modelCalls)
    (hcycles : updated.cycles = current.cycles)
    (hindex : updated.cycleIndex = current.cycleIndex) : Carries op current updated where
  history := hhistory
  calls := by simp [hmodelCalls, hcalls]
  cycles := .inl ⟨hnone, hcycles, hindex⟩

/-- A snapshot that is stored extends the stored record. -/
theorem Carries.ofSnapshot {op : StoreOp} {current updated snapshot : Checkpoint}
    (hoffered : op.offered = some snapshot) (hcalls : op.offeredCalls = snapshot.modelCalls)
    (hopen : current.terminalResult = none) (hextends : Extension current snapshot)
    (hhistory : updated.history = snapshot.history)
    (hmodelCalls : updated.modelCalls = snapshot.modelCalls)
    (hcycles : updated.cycles = snapshot.cycles) : Carries op current updated where
  history := hhistory.trans hextends.history.symm
  calls := by
    rw [hmodelCalls, hcalls]
    exact (List.prefix_iff_eq_append.mp hextends.modelCalls).symm
  cycles := .inr ⟨snapshot, hoffered, hopen, hextends, hcycles⟩

section
variable [Runtime]

/-- What one operation does to the record and the archive of one key. -/
inductive LineStep (op : StoreOp) (key : String) : Line → Line → Prop
  | kept (line : Line) : LineStep op key line line
  | created (checkpoint : Checkpoint) (archive : ArchivedHistory) (hop : op = .create checkpoint)
      (hvalid : validateCheckpointCreation checkpoint = .ok ()) :
      LineStep op key ⟨none, archive⟩ ⟨some checkpoint, archive⟩
  | plain (current updated : Checkpoint) (archive : ArchivedHistory)
      (hmade : Made op key current updated) (hplain : op.writesPlain = true) :
      LineStep op key ⟨some current, archive⟩ ⟨some updated, archive⟩
  | archived (current updated stored : Checkpoint) (archive after : ArchivedHistory)
      (hmade : Made op key current updated)
      (hpersist : persistHistory archive updated = .ok (stored, after)) :
      LineStep op key ⟨some current, archive⟩ ⟨some stored, after⟩
  | deleted (line : Line) (hop : op = .delete key) : LineStep op key line ⟨none, {}⟩

omit [Runtime] in
theorem archiveOf_insert (store : MemoryStore) (history : Table ArchivedHistory)
    (written key : String) (archive : ArchivedHistory)
    (h : store.history = history.insert written archive) :
    store.archiveOf key = if written = key then archive else history[key]?.getD {} := by
  rw [MemoryStore.archiveOf, h, Table.get_insert]
  split
  · rfl
  · rfl

theorem TableStep.line {op : StoreOp} {before after : MemoryStore} (h : TableStep op before after)
    (hkeyed : Keyed before) (key : String) :
    LineStep op key (before.line key) (after.line key) := by
  cases h with
  | kept hcheckpoints hhistory =>
      have hsame : after.line key = before.line key := by
        simp only [MemoryStore.line, MemoryStore.archiveOf, hcheckpoints, hhistory]
      rw [hsame]
      exact .kept _
  | created checkpoint hop hnew hvalid hcheckpoints hhistory =>
      simp only [MemoryStore.line, MemoryStore.archiveOf, hcheckpoints, hhistory, Table.get_insert]
      by_cases hkey : checkpoint.checkpointKey = key
      · rw [if_pos hkey, ← hkey, hnew]
        exact .created checkpoint _ hop hvalid
      · rw [if_neg hkey]
        exact .kept _
  | replaced written current updated hfound hmade hplain hcheckpoints hhistory =>
      simp only [MemoryStore.line, MemoryStore.archiveOf, hcheckpoints, hhistory, Table.get_insert]
      by_cases hkey : written = key
      · subst hkey
        rw [if_pos rfl, hfound]
        exact .plain current updated _ hmade hplain
      · rw [if_neg hkey]
        exact .kept _
  | archived written current updated stored archive hfound hmade hpersist hcheckpoints hhistory =>
      have hcurrent : current.checkpointKey = written := hkeyed written current hfound
      have hupdated : updated.checkpointKey = written := hmade.checkpointKey.trans hcurrent
      have hstored : stored.checkpointKey = written :=
        (Wrote.archived updated _ _ hmade hpersist).checkpointKey.trans hcurrent
      rw [hupdated] at hpersist
      rw [hstored] at hhistory
      simp only [MemoryStore.line, hcheckpoints, Table.get_insert,
        archiveOf_insert _ _ _ _ _ hhistory]
      by_cases hkey : written = key
      · subst hkey
        rw [if_pos rfl, if_pos rfl, hfound]
        exact .archived current updated stored _ archive hmade hpersist
      · rw [if_neg hkey, if_neg hkey]
        exact .kept _
  | deleted erased hop hcheckpoints hhistory =>
      simp only [MemoryStore.line, MemoryStore.archiveOf, hcheckpoints, hhistory, Table.get_erase]
      by_cases hkey : erased = key
      · subst hkey
        rw [if_pos rfl, if_pos rfl]
        exact .deleted _ hop
      · rw [if_neg hkey, if_neg hkey]
        exact .kept _

theorem Made.carries {op : StoreOp} {key : String} {current updated : Checkpoint}
    (hmade : Made op key current updated) : Carries op current updated := by
  cases hmade with
  | claim _ h =>
      obtain ⟨_, _, _, rfl⟩ := prepareClaim_eq_some h
      exact .same rfl rfl rfl rfl rfl rfl
  | renew => exact .same rfl rfl rfl rfl rfl rfl
  | progress h =>
      obtain ⟨hfence, _, _, _, rfl⟩ := prepareProgress_eq_some h
      exact .ofSnapshot rfl rfl hfence.open_ hfence.extends_ rfl rfl rfl
  | suspend h =>
      obtain ⟨hfence, _, _, _, _, rfl⟩ := prepareSuspend_eq_some h
      exact .ofSnapshot rfl rfl hfence.open_ hfence.extends_ rfl rfl rfl
  | commit h =>
      obtain ⟨hfence, _, _, _, _, _, rfl⟩ := prepareCommit_eq_some h
      exact .ofSnapshot rfl rfl hfence.open_ hfence.extends_ rfl rfl rfl
  | finalize h =>
      obtain ⟨_, _, hextends, _, hopen, merged, hmerged, hterminal⟩ := prepareFinalize_eq_some h
      obtain ⟨_, _, rfl⟩ := (mergeAuthoritativeFields_eq_ok _ _ _).mp hmerged
      obtain ⟨_, _, _, _, _, _, _, rfl⟩ := prepareTerminalSnapshot_eq_ok hterminal
      exact .ofSnapshot rfl rfl hopen hextends rfl rfl rfl
  | finalizeClaimed h =>
      obtain ⟨hfence, merged, hmerged, hterminal⟩ := prepareFinalizeClaimed_eq_some h
      obtain ⟨_, _, rfl⟩ := (mergeAuthoritativeFields_eq_ok _ _ _).mp hmerged
      obtain ⟨_, _, _, _, _, _, _, rfl⟩ := prepareTerminalSnapshot_eq_ok hterminal
      exact .ofSnapshot rfl rfl hfence.open_ hfence.extends_ rfl rfl rfl
  | toolReceipt h =>
      obtain ⟨_, _, _, _, _, _, _, _, _, _, _, _, _, _, rfl⟩ := prepareToolReceipt_eq_some h
      exact .same rfl rfl rfl rfl rfl rfl
  | acknowledge h =>
      obtain ⟨_, _, _, _, _, rfl⟩ := prepareAck_eq_some h
      exact .same rfl rfl rfl rfl rfl rfl
  | delivery h =>
      obtain ⟨_, _, _, _, _, _, rfl⟩ := prepareEventDelivery_eq_some h
      exact .same rfl rfl rfl rfl rfl rfl
  | admitDeferred h hchanged =>
      obtain ⟨_, _, _, _, _, _, _, _, _, _, _, rfl⟩ := admitDeferredBatch_eq_ok h hchanged
      exact .same rfl rfl rfl rfl rfl rfl
  | acceptDeferred h =>
      obtain ⟨_, _, _, _, _, _, _, _, _, _, rfl⟩ := acceptDeferredBatch_eq_ok h
      exact .same rfl rfl rfl rfl rfl rfl
  | resolveDeferred _ _ h =>
      obtain ⟨_, _, _, _, _, _, _, _, _, _, rfl⟩ := resolveEntry_eq_ok h
      exact .same rfl rfl rfl rfl rfl rfl
  | produce _ _ _ _ h =>
      obtain ⟨_, cycle, _, hcycle, rfl⟩ := prepareHostInteraction_eq_ok h
      rcases (prepareHostInteractionCycle_eq_ok hcycle).2 with
        ⟨rfl, hnone⟩ | ⟨completed, receipt, _, _, hsome, hextends, _, hreceipt, rfl⟩
      · exact .same hnone rfl rfl rfl rfl rfl
      · obtain ⟨_, _, _, _, hopen, _, _, _, _, _, _, _, _, _, rfl⟩ :=
          prepareToolReceipt_eq_some hreceipt
        exact ⟨rfl, by simp [StoreOp.offeredCalls, Checkpoint.releaseClaim],
          .inr ⟨completed, hsome, hopen, hextends, rfl⟩⟩
  | command hop h hupdated =>
      have hnone : op.offered = none ∧ op.offeredCalls = [] := by
        rcases hop with rfl | rfl <;> exact ⟨rfl, rfl⟩
      obtain ⟨_, _, _, _, hcase⟩ := applyControllerCommand_eq_ok h
      rw [hupdated] at hcase
      cases hcase with
      | requested => exact .same hnone.1 hnone.2 rfl rfl rfl rfl
      | moved base _ _ _ _ _ hbase =>
          rcases hbase with ⟨rfl, _⟩ | rfl <;> exact .same hnone.1 hnone.2 rfl rfl rfl rfl
      | ended => exact .same hnone.1 hnone.2 rfl rfl rfl rfl
  | consume _ _ _ _ _ _ h =>
      obtain ⟨_, _, rfl⟩ := prepareConsume_eq_ok h
      exact .same rfl rfl rfl rfl rfl rfl

/-- A plain write of a run that goes on leaves its history alone. -/
theorem Made.sameHistory {op : StoreOp} {key : String} {current updated : Checkpoint}
    (hmade : Made op key current updated) (hplain : op.writesPlain = true)
    (hopen : updated.terminalResult = none) : SameHistory current updated := by
  have hfinished (checkpoint : Checkpoint) (hnone : checkpoint.terminalResult = none) :
      checkpoint.terminalResult.isSome → checkpoint.status = current.status := by
    simp [hnone]
  cases hmade with
  | claim _ h =>
      obtain ⟨_, _, _, rfl⟩ := prepareClaim_eq_some h
      exact ⟨rfl, rfl, rfl, rfl, rfl, rfl, rfl, hfinished _ hopen⟩
  | renew => exact ⟨rfl, rfl, rfl, rfl, rfl, rfl, rfl, hfinished _ hopen⟩
  | command hop h hupdated =>
      obtain ⟨_, _, _, _, hcase⟩ := applyControllerCommand_eq_ok h
      rw [hupdated] at hcase
      cases hcase with
      | requested => exact ⟨rfl, rfl, rfl, rfl, rfl, rfl, rfl, hfinished _ hopen⟩
      | moved base _ _ _ _ _ hbase =>
          rcases hbase with ⟨rfl, _⟩ | rfl <;>
            exact ⟨rfl, rfl, rfl, rfl, rfl, rfl, rfl, hfinished _ hopen⟩
      | ended => simp at hopen
  | progress | suspend | commit | finalize | finalizeClaimed | toolReceipt | acknowledge
  | delivery | admitDeferred | acceptDeferred | resolveDeferred | produce | consume =>
      simp [StoreOp.writesPlain] at hplain

/-- How a record and its archive belong together, whatever the archive holds. -/
structure Filed (checkpoint : Checkpoint) (archive : ArchivedHistory) : Prop where
  valid : ValidBesidesLease checkpoint
  sequence : archive.payloads.length = checkpoint.history.sequence
  fresh : ∀ record ∈ checkpoint.modelCalls, record.callId ∉ archive.callIds
  settled : checkpoint.terminalResult = none → checkpoint.archivesNothing = true

/-- The parts of a valid record do not depend on its lease. -/
theorem ValidBesidesLease.callIds_nodup {checkpoint : Checkpoint}
    (h : ValidBesidesLease checkpoint) : (checkpoint.modelCalls.map (·.callId)).Nodup := by
  obtain ⟨lease, hvalid⟩ := h
  rw [validateCheckpoint_eq_ok] at hvalid
  have hjournals := hvalid.2.2.2.2.2.2.1
  simp only [validateJournals, unit_guard_bind, refuse_eq_ok, Bool.not_eq_false',
    decide_eq_true_eq] at hjournals
  exact hjournals.1

theorem ValidBesidesLease.cycles_ordered {checkpoint : Checkpoint}
    (h : ValidBesidesLease checkpoint) :
    (∀ cycle ∈ checkpoint.cycles,
        cycle.index ≠ 0 ∧ cycle.index.toNat ≤ checkpoint.cycleIndex + 1) ∧
      checkpoint.cycles.Pairwise fun left right => left.index < right.index := by
  obtain ⟨lease, hvalid⟩ := h
  rw [validateCheckpoint_eq_ok] at hvalid
  have hhistory := hvalid.1
  simp only [validateHistory, unit_guard_bind, refuse_eq_ok, Bool.not_eq_false',
    cyclesOrdered_iff] at hhistory
  exact hhistory.2.2

/-- A claim is on the cycle after the last committed one. -/
theorem ValidBesidesLease.claimedCycle {checkpoint : Checkpoint} {cycle : Nat}
    (h : ValidBesidesLease checkpoint) (hclaimed : checkpoint.claimedCycle = some cycle) :
    cycle = checkpoint.cycleIndex + 1 := by
  obtain ⟨lease, hvalid⟩ := h
  rw [validateCheckpoint_eq_ok] at hvalid
  have hclaim := hvalid.2.2.2.1
  unfold validateClaim at hclaim
  cases htoken : checkpoint.claimToken with
  | none => simp [htoken, hclaimed] at hclaim
  | some token =>
      cases lease with
      | none => simp [htoken, hclaimed] at hclaim
      | some lease =>
          simp only [htoken, hclaimed, unit_guard_bind, refuse_eq_ok, Bool.or_eq_false_iff,
            bne_eq_false_iff_eq] at hclaim
          exact hclaim.2.1.1

theorem ValidBesidesLease.claimedCycle_of_token {checkpoint : Checkpoint} {token : String}
    (h : ValidBesidesLease checkpoint) (htoken : checkpoint.claimToken = some token) :
    checkpoint.claimedCycle = some (checkpoint.cycleIndex + 1) := by
  cases hclaimed : checkpoint.claimedCycle with
  | some cycle => rw [h.claimedCycle hclaimed]
  | none =>
      obtain ⟨lease, hvalid⟩ := h
      rw [validateCheckpoint_eq_ok] at hvalid
      have hclaim := hvalid.2.2.2.1
      cases lease <;> simp [validateClaim, htoken, hclaimed] at hclaim

omit [Runtime] in
theorem keptCalls_fresh {checkpoint : Checkpoint}
    (hnodup : (checkpoint.modelCalls.map (·.callId)).Nodup) :
    ∀ record ∈ checkpoint.keptCalls, record.callId ∉ checkpoint.movedCalls.map (·.callId) := by
  intro record hkept hmoved
  obtain ⟨other, hother, hsame⟩ := List.mem_map.mp hmoved
  unfold Checkpoint.keptCalls at hkept
  unfold Checkpoint.movedCalls at hother
  cases hretained : retainedCycle checkpoint with
  | none => simp [hretained] at hother
  | some retained =>
      simp only [hretained, List.mem_filter] at hkept hother
      obtain rfl : other = record := List.inj_on_of_nodup_map hnodup hother.1 hkept.1 hsame
      simp [hother.2] at hkept

/-- The record and the archive of a persisted write belong together again. -/
theorem Filed.persist {updated stored : Checkpoint} {archive after : ArchivedHistory}
    (hvalid : ValidBesidesLease updated)
    (hsequence : archive.payloads.length = updated.history.sequence)
    (hpersist : persistHistory archive updated = .ok (stored, after)) : Filed stored after := by
  obtain ⟨hfresh, hcase⟩ := persistHistory_eq_ok hpersist
  rcases hcase with ⟨hnothing, rfl, rfl⟩ | ⟨digest, terminal, _, _, _, hterminal, hstored, rfl, rfl⟩
  · exact ⟨hvalid, hsequence, hfresh, fun _ => hnothing⟩
  · have hfinished := trimTerminal_isSome hterminal
    refine ⟨.of_valid hstored, ?_, ?_, fun _ => updated.archivesNothing_trimmed digest hfinished⟩
    · simp [Checkpoint.trimmed, Checkpoint.archivedFrontier, hsequence]
    · intro record hmem
      have hkept : record ∈ updated.keptCalls := hmem
      have hold := hfresh record (updated.keptCalls_sublist.subset hkept)
      have hnew := keptCalls_fresh hvalid.callIds_nodup record hkept
      simpa using ⟨hold, by simpa using hnew⟩

/-- A new record has nothing to archive. -/
theorem Filed.create {checkpoint : Checkpoint}
    (hcreation : validateCheckpointCreation checkpoint = .ok ()) : Filed checkpoint {} := by
  have hvalid := validateCheckpointCreation_valid hcreation
  have hinitial := validateCheckpointCreation_initial hcreation
  refine ⟨.of_valid hvalid, ?_, ?_, fun _ => ?_⟩
  · rw [hinitial.history]
    rfl
  · intro record hmem
    rw [hinitial.modelCalls] at hmem
    cases hmem
  · have hretained : retainedCycle checkpoint = none := by
      simp [retainedCycle, hinitial.terminalResult, hinitial.cycles]
    simp [Checkpoint.archivesNothing, Checkpoint.movedCycles, Checkpoint.movedCalls, hretained]

/-- The lines a store can hold: a record that belongs to its archive, or neither. -/
inductive Line.Sound : Line → Prop
  | absent : Line.Sound ⟨none, {}⟩
  | present (checkpoint : Checkpoint) (archive : ArchivedHistory) (h : Filed checkpoint archive) :
      Line.Sound ⟨some checkpoint, archive⟩

/-- One operation keeps a line sound. -/
theorem LineStep.sound {op : StoreOp} {key : String} {before after : Line}
    (hstep : LineStep op key before after) (hsound : before.Sound) : after.Sound := by
  cases hstep with
  | kept => exact hsound
  | created checkpoint archive _ hcreation =>
      cases hsound
      exact .present checkpoint {} (.create hcreation)
  | plain current updated archive hmade hplain =>
      cases hsound with
      | present _ _ hfiled =>
          have hcarries := hmade.carries
          have hcalls : updated.modelCalls = current.modelCalls := by
            rw [hcarries.calls, (op.offers_nothing hplain).2]
            simp
          refine .present updated archive ⟨hmade.validBesidesLease hfiled.valid, ?_, ?_, ?_⟩
          · rw [hcarries.history]
            exact hfiled.sequence
          · rw [hcalls]
            exact hfiled.fresh
          · intro hopen
            have hsame := hmade.sameHistory hplain hopen
            have hbefore := hfiled.settled (hsame.terminalResult ▸ hopen)
            simpa only [Checkpoint.archivesNothing, hsame.lists.1, hsame.lists.2.1] using hbefore
  | archived current updated stored archive after hmade hpersist =>
      cases hsound with
      | present _ _ hfiled =>
          have hsequence : archive.payloads.length = updated.history.sequence := by
            rw [hmade.carries.history]
            exact hfiled.sequence
          exact .present stored after
            (.persist (hmade.validBesidesLease hfiled.valid) hsequence hpersist)
  | deleted => exact .absent

theorem exec_line_sound (op : StoreOp) (store : MemoryStore) (hkeyed : Keyed store)
    (hsound : ∀ key, (store.line key).Sound) (key : String) : ((exec op store).line key).Sound :=
  ((exec_step op store hkeyed).line hkeyed key).sound (hsound key)

/-- Every line of a store that has been reached is sound. -/
theorem run_line_sound (ops : List StoreOp) (key : String) :
    ((run exec ops {}).line key).Sound :=
  (run_preserves exec (fun _ => True) (fun store => Keyed store ∧ ∀ key, (store.line key).Sound)
    (fun op store _ h => ⟨exec_keyed op store h.1, exec_line_sound op store h.1 h.2⟩) ops
    (fun _ _ => trivial) {}
    ⟨keyed_empty, fun key => by simpa [MemoryStore.line, MemoryStore.archiveOf] using
      Line.Sound.absent⟩).2 key

end

end VvAgent
