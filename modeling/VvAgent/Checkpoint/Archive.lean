import VvAgent.Checkpoint.Inversion

/-!
What one write moves into the archive. The lists that leave the active record and the lists
that stay are named here, normalization is restated over them, and a record that was valid
stays valid when they are moved: the model calls that leave are none of those that a journal
entry has to find.
-/

namespace VvAgent
open Lib.Outcome

namespace Checkpoint

/-- The cycles that leave the active record. -/
def movedCycles (checkpoint : Checkpoint) : List CycleRecord :=
  match retainedCycle checkpoint with
  | none => []
  | some retained => checkpoint.cycles.filter (archivesCycle retained)

/-- The cycles that stay. -/
def keptCycles (checkpoint : Checkpoint) : List CycleRecord :=
  match retainedCycle checkpoint with
  | none => checkpoint.cycles
  | some retained => checkpoint.cycles.filter fun cycle => !archivesCycle retained cycle

/-- The model calls that leave the active record. -/
def movedCalls (checkpoint : Checkpoint) : List ModelCallRecord :=
  match retainedCycle checkpoint with
  | none => []
  | some retained => checkpoint.modelCalls.filter (archivesCall checkpoint retained)

/-- The model calls that stay. -/
def keptCalls (checkpoint : Checkpoint) : List ModelCallRecord :=
  match retainedCycle checkpoint with
  | none => checkpoint.modelCalls
  | some retained =>
      checkpoint.modelCalls.filter fun record => !archivesCall checkpoint retained record

def archivesNothing (checkpoint : Checkpoint) : Bool :=
  checkpoint.movedCycles.isEmpty && checkpoint.movedCalls.isEmpty

/-- The batch that a write adds to the archive. -/
def archivePayload (checkpoint : Checkpoint) : Json :=
  historyPayload checkpoint.checkpointKey (checkpoint.history.sequence + 1)
    checkpoint.history.headDigest (checkpoint.movedCycles.map CycleRecord.toDict)
    (checkpoint.movedCalls.map ModelCallRecord.toValue)

/-- The frontier after the batch. -/
def archivedFrontier (checkpoint : Checkpoint) (digest : String) : CheckpointHistory :=
  { checkpoint.movedCalls.foldl CheckpointHistory.addCall
      { checkpoint.history with
        cycleCount := checkpoint.history.cycleCount + checkpoint.movedCycles.length } with
    sequence := checkpoint.history.sequence + 1
    headDigest := some digest }

/-- The active record without what the batch holds. -/
def trimmed (checkpoint : Checkpoint) (digest : String) (terminal : Option TerminalValue) :
    Checkpoint :=
  { checkpoint with
    cycles := checkpoint.keptCycles
    modelCalls := checkpoint.keptCalls
    history := checkpoint.archivedFrontier digest
    terminalResult := terminal }

end Checkpoint

theorem zip_tail_all_lt (cycles : List CycleRecord) :
    ((cycles.zip cycles.tail).all fun pair => pair.1.index < pair.2.index) = true ↔
      cycles.IsChain fun left right => left.index < right.index := by
  induction cycles with
  | nil => simp
  | cons first rest ih =>
      cases rest with
      | nil => simp
      | cons second rest => simpa using fun _ => ih

theorem cyclesOrdered_iff (cycleIndex : Nat) (cycles : List CycleRecord) :
    cyclesOrdered cycleIndex cycles = true ↔
      (∀ cycle ∈ cycles, cycle.index ≠ 0 ∧ cycle.index.toNat ≤ cycleIndex + 1) ∧
        cycles.Pairwise fun left right => left.index < right.index := by
  rw [cyclesOrdered, Bool.and_eq_true, zip_tail_all_lt, List.isChain_iff_pairwise]
  simp

theorem Checkpoint.keptCycles_sublist (checkpoint : Checkpoint) :
    checkpoint.keptCycles.Sublist checkpoint.cycles := by
  unfold Checkpoint.keptCycles
  split
  · exact List.Sublist.refl _
  · exact List.filter_sublist

theorem Checkpoint.keptCalls_sublist (checkpoint : Checkpoint) :
    checkpoint.keptCalls.Sublist checkpoint.modelCalls := by
  unfold Checkpoint.keptCalls
  split
  · exact List.Sublist.refl _
  · exact List.filter_sublist

theorem Checkpoint.movedCycles_sublist (checkpoint : Checkpoint) :
    checkpoint.movedCycles.Sublist checkpoint.cycles := by
  unfold Checkpoint.movedCycles
  split
  · exact List.nil_sublist _
  · exact List.filter_sublist

theorem Checkpoint.movedCalls_sublist (checkpoint : Checkpoint) :
    checkpoint.movedCalls.Sublist checkpoint.modelCalls := by
  unfold Checkpoint.movedCalls
  split
  · exact List.nil_sublist _
  · exact List.filter_sublist

/-- The last committed cycle stays in the record of a run that goes on. -/
theorem Checkpoint.mem_keptCycles {checkpoint : Checkpoint} {cycle : CycleRecord}
    (hopen : checkpoint.terminalResult = none) (hmem : cycle ∈ checkpoint.cycles)
    (hcycle : cycle.index.toNat = checkpoint.cycleIndex) : cycle ∈ checkpoint.keptCycles := by
  unfold Checkpoint.keptCycles
  cases hretained : retainedCycle checkpoint with
  | none => exact hmem
  | some retained =>
      have hmax : retained ≤ checkpoint.cycleIndex := by
        rw [retainedCycle, hopen, Option.isSome_none, if_neg Bool.false_ne_true] at hretained
        have hfiltered := List.max?_mem hretained
        exact of_decide_eq_true (List.mem_filter.mp hfiltered).2
      refine List.mem_filter.mpr ⟨hmem, ?_⟩
      simp only [archivesCycle, Bool.not_eq_true', decide_eq_false_iff_not]
      omega

/-- A model call that a journal entry names stays in the record. -/
theorem Checkpoint.mem_keptCalls {checkpoint : Checkpoint} {record : ModelCallRecord}
    {journal : OperationJournalEntry} (hmem : record ∈ checkpoint.modelCalls)
    (hjournal : journal ∈ checkpoint.modelCallJournal)
    (hcall : journal.callId = some record.callId) : record ∈ checkpoint.keptCalls := by
  unfold Checkpoint.keptCalls
  split
  · exact hmem
  · refine List.mem_filter.mpr ⟨hmem, ?_⟩
    simp only [archivesCall, Bool.not_and, Bool.not_not, Bool.or_eq_true, List.contains_iff_mem,
      List.mem_filterMap]
    exact .inr ⟨journal, hjournal, hcall⟩

theorem Checkpoint.keptCycles_eq {checkpoint : Checkpoint} {retained : Nat}
    (h : retainedCycle checkpoint = some retained) :
    checkpoint.keptCycles = checkpoint.cycles.filter fun cycle => !archivesCycle retained cycle := by
  simp only [Checkpoint.keptCycles, h]

/-- The retained cycle is retained again. -/
theorem retainedCycle_trimmed (checkpoint : Checkpoint) (digest : String)
    {terminal : Option TerminalValue}
    (hfinished : terminal.isSome = checkpoint.terminalResult.isSome) :
    retainedCycle (checkpoint.trimmed digest terminal) = retainedCycle checkpoint := by
  cases hretained : retainedCycle checkpoint with
  | none =>
      have hkept : checkpoint.keptCycles = checkpoint.cycles := by
        simp only [Checkpoint.keptCycles, hretained]
      rw [← hretained]
      simp only [retainedCycle, Checkpoint.trimmed, hkept, hfinished]
  | some retained =>
      have hkept := Checkpoint.keptCycles_eq hretained
      unfold retainedCycle at hretained ⊢
      simp only [Checkpoint.trimmed, hkept, hfinished]
      split at hretained
      · rename_i hterminal
        rw [if_pos hterminal]
        obtain ⟨last, hlast, rfl⟩ := Option.map_eq_some_iff.mp hretained
        obtain ⟨front, hcycles⟩ := List.getLast?_eq_some_iff.mp hlast
        simp [hcycles, archivesCycle]
      · rename_i hopen
        rw [if_neg hopen]
        rw [List.max?_eq_some_iff] at hretained ⊢
        simp only [List.mem_filter, List.mem_map, archivesCycle, Bool.not_eq_true',
          decide_eq_false_iff_not, decide_eq_true_eq, not_lt] at hretained ⊢
        obtain ⟨⟨⟨cycle, hmem, rfl⟩, hindex⟩, hmax⟩ := hretained
        refine ⟨⟨⟨cycle, ⟨hmem, le_refl _⟩, rfl⟩, hindex⟩, ?_⟩
        rintro _ ⟨⟨other, ⟨hother, _⟩, rfl⟩, hbound⟩
        exact hmax _ ⟨⟨other, hother, rfl⟩, hbound⟩

/-- Archiving is done in one write: what stays would stay again. -/
theorem Checkpoint.archivesNothing_trimmed (checkpoint : Checkpoint) (digest : String)
    {terminal : Option TerminalValue}
    (hfinished : terminal.isSome = checkpoint.terminalResult.isSome) :
    (checkpoint.trimmed digest terminal).archivesNothing = true := by
  have hretained := retainedCycle_trimmed checkpoint digest hfinished
  simp only [Checkpoint.archivesNothing, Checkpoint.movedCycles, Checkpoint.movedCalls, hretained]
  cases h : retainedCycle checkpoint with
  | none => rfl
  | some retained =>
      simp only [Checkpoint.trimmed, Checkpoint.keptCycles, Checkpoint.keptCalls, h,
        List.filter_filter, Bool.and_eq_true, List.isEmpty_iff, List.filter_eq_nil_iff]
      refine ⟨fun cycle _ => ?_, fun record _ => ?_⟩
      · simp
      · simp [archivesCall]

section
variable [Runtime]

theorem normalizeCheckpointHistory_eq (checkpoint : Checkpoint) :
    normalizeCheckpointHistory checkpoint =
      if checkpoint.archivesNothing then .ok (checkpoint, none)
      else do
        refuse (maxWireInteger < checkpoint.history.sequence + 1)
          (historyError "history sequence overflow")
        let digest ← sha256Canonical checkpoint.archivePayload "checkpoint history"
        let terminal ← trimTerminal checkpoint.keptCycles checkpoint.keptCalls
          checkpoint.terminalResult
        validateCheckpoint (checkpoint.trimmed digest terminal)
        return (checkpoint.trimmed digest terminal,
          some ⟨checkpoint.archivePayload, digest, checkpoint.history.sequence + 1⟩) := by
  cases hretained : retainedCycle checkpoint with
  | none =>
      simp [normalizeCheckpointHistory, Checkpoint.archivesNothing, Checkpoint.movedCycles,
        Checkpoint.movedCalls, hretained]
  | some retained =>
      simp only [normalizeCheckpointHistory, Checkpoint.archivesNothing, Checkpoint.movedCycles,
        Checkpoint.movedCalls, Checkpoint.keptCycles, Checkpoint.keptCalls,
        Checkpoint.archivePayload, Checkpoint.archivedFrontier, Checkpoint.trimmed, hretained]
      rfl

/-- The parts of the check, in the order of the source. -/
theorem validateCheckpoint_eq_ok (checkpoint : Checkpoint) :
    validateCheckpoint checkpoint = .ok () ↔
      validateHistory checkpoint = .ok () ∧ validateDefinition checkpoint = .ok () ∧
      validateIdentity checkpoint = .ok () ∧ validateClaim checkpoint = .ok () ∧
      validateTerminalStatus checkpoint = .ok () ∧ validateInteraction checkpoint = .ok () ∧
      validateJournals checkpoint = .ok () ∧ validateExtensions checkpoint = .ok () ∧
      validateOutbox [] checkpoint.eventOutbox = .ok () ∧
      validateModelJournalAccounting checkpoint = .ok () ∧
      validateSharedState checkpoint = .ok () ∧ validateLifecycle checkpoint = .ok () ∧
      validateTerminalResult checkpoint = .ok () := by
  simp only [validateCheckpoint, unit_guard_bind]

section
variable {checkpoint : Checkpoint} {digest : String} {terminal : Option TerminalValue}

omit [Runtime] in
theorem committedOrigin_trimmed (request : HostInteractionRequest)
    (hopen : checkpoint.terminalResult = none) :
    committedOrigin (checkpoint.trimmed digest terminal) request =
      committedOrigin checkpoint request := by
  rw [Bool.eq_iff_iff]
  simp only [committedOrigin, Checkpoint.trimmed, Bool.and_eq_true, List.any_eq_true]
  constructor
  · rintro ⟨hcycle, cycle, hmem, hrest⟩
    exact ⟨hcycle, cycle, checkpoint.keptCycles_sublist.subset hmem, hrest⟩
  · rintro ⟨hcycle, cycle, hmem, hindex, hresult⟩
    have hkept := Checkpoint.mem_keptCycles hopen hmem
      ((of_decide_eq_true hindex).trans (of_decide_eq_true hcycle))
    exact ⟨hcycle, cycle, hkept, hindex, hresult⟩

omit [Runtime] in
/-- A finished run waits for no host. -/
theorem pendingInteraction_of_finished (hstatus : checkpoint.status.isTerminal = true)
    (h : validateWaitingStatus checkpoint = .ok ()) : checkpoint.pendingInteraction = none := by
  have hnone : checkpoint.activeHostInteraction = none ∧ checkpoint.suspendedOrigin = none := by
    unfold validateWaitingStatus at h
    split at h
    · simp_all [CheckpointStatus.isTerminal]
    · simp_all [CheckpointStatus.isTerminal]
    · simpa using h
  simp [Checkpoint.pendingInteraction, hnone]

theorem validateInteraction_trimmed (hstatus : validateTerminalStatus checkpoint = .ok ())
    (h : validateInteraction checkpoint = .ok ()) :
    validateInteraction (checkpoint.trimmed digest terminal) = .ok () := by
  simp only [validateInteraction, unit_guard_bind] at h ⊢
  obtain ⟨hpending, horigin, hwaiting⟩ := h
  refine ⟨?_, horigin, hwaiting⟩
  have hsame : (checkpoint.trimmed digest terminal).pendingInteraction =
      checkpoint.pendingInteraction := rfl
  unfold validatePendingInteraction at hpending ⊢
  rw [hsame]
  cases hrequest : checkpoint.pendingInteraction with
  | none => rfl
  | some request =>
      have hopen : checkpoint.terminalResult = none := by
        by_contra hfinished
        have hterminal : checkpoint.status.isTerminal = true := by
          simp only [validateTerminalStatus, unit_guard_bind, refuse_eq_ok] at hstatus
          simpa [Option.isSome_iff_ne_none.mpr hfinished] using hstatus.2.2.2
        rw [pendingInteraction_of_finished hterminal hwaiting] at hrequest
        cases hrequest
      rw [hrequest] at hpending
      simp only [unit_guard_bind] at hpending ⊢
      rw [committedOrigin_trimmed request hopen]
      exact hpending

omit [Runtime] in
/-- Archiving takes no model call away that the accounting of a journal entry looks for. -/
theorem concerned_keptCalls {journal : OperationJournalEntry}
    {identity : ModelAccountingIdentity} (hjournal : journal ∈ checkpoint.modelCallJournal)
    (hidentity : journal.callId = some identity.callId)
    (hrecords : ∀ record ∈ checkpoint.modelCalls.filter (fun record =>
        identity.concerns record.callId record.operationId record.attempt.toNat),
      modelRecordIdentity record = identity) :
    (checkpoint.keptCalls.filter fun record =>
        identity.concerns record.callId record.operationId record.attempt.toNat) =
      checkpoint.modelCalls.filter fun record =>
        identity.concerns record.callId record.operationId record.attempt.toNat := by
  have hkept : ∀ record ∈ checkpoint.modelCalls,
      identity.concerns record.callId record.operationId record.attempt.toNat = true →
        record ∈ checkpoint.keptCalls := by
    intro record hmem hconcerns
    have hsame := hrecords record (List.mem_filter.mpr ⟨hmem, hconcerns⟩)
    refine Checkpoint.mem_keptCalls hmem hjournal ?_
    rw [hidentity, ← hsame]
    rfl
  unfold Checkpoint.keptCalls at hkept ⊢
  cases hretained : retainedCycle checkpoint with
  | none => rfl
  | some retained =>
      simp only [hretained] at hkept ⊢
      rw [List.filter_filter]
      refine List.filter_congr fun record hmem => ?_
      cases hconcerns : identity.concerns record.callId record.operationId record.attempt.toNat with
      | false => rfl
      | true => exact (List.mem_filter.mp (hkept record hmem hconcerns)).2

omit [Runtime] in
theorem modelJournalIdentity_callId {journal : OperationJournalEntry}
    {identity : ModelAccountingIdentity} (h : modelJournalIdentity journal = .ok identity) :
    journal.callId = some identity.callId := by
  simp only [modelJournalIdentity, bind_eq_ok, require_eq_ok, pure_ok, Except.ok.injEq] at h
  obtain ⟨callId, hcall, _, _, _, _, _, _, rfl⟩ := h
  exact hcall

theorem validateModelJournalEntryAccounting_trimmed {journal : OperationJournalEntry}
    (hjournal : journal ∈ checkpoint.modelCallJournal)
    (h : validateModelJournalEntryAccounting checkpoint journal = .ok ()) :
    validateModelJournalEntryAccounting (checkpoint.trimmed digest terminal) journal = .ok () := by
  unfold validateModelJournalEntryAccounting at h ⊢
  simp only [bind_eq_ok] at h ⊢
  obtain ⟨_, hvalid, identity, hidentity, events, hevents, _, hsingle, h⟩ := h
  have hkept : ((checkpoint.trimmed digest terminal).modelCalls.filter fun record =>
        identity.concerns record.callId record.operationId record.attempt.toNat) =
      checkpoint.modelCalls.filter fun record =>
        identity.concerns record.callId record.operationId record.attempt.toNat := by
    refine concerned_keptCalls hjournal (modelJournalIdentity_callId hidentity) ?_
    generalize (checkpoint.modelCalls.filter fun record =>
      identity.concerns record.callId record.operationId record.attempt.toNat) = records at h
    split at h
    all_goals first
      | exact fun _ hmem => absurd hmem List.not_mem_nil
      | simp at h
      | skip
    simp only [unit_guard_bind, requireModelIdentity, refuse_eq_ok, bne_eq_false_iff_eq] at h
    intro record hmem
    rw [List.mem_singleton.mp hmem]
    exact h.1.symm
  refine ⟨(), hvalid, identity, hidentity, events, hevents, ?_⟩
  rw [hkept]
  exact ⟨(), hsingle, h⟩

theorem validateJournals_trimmed (h : validateJournals checkpoint = .ok ()) :
    validateJournals (checkpoint.trimmed digest terminal) = .ok () := by
  simp only [validateJournals, unit_guard_bind, refuse_eq_ok, Bool.not_eq_false',
    decide_eq_true_eq] at h ⊢
  refine ⟨?_, h.2⟩
  exact (checkpoint.keptCalls_sublist.map _).nodup h.1

theorem validateModelJournalAccounting_trimmed
    (h : validateModelJournalAccounting checkpoint = .ok ()) :
    validateModelJournalAccounting (checkpoint.trimmed digest terminal) = .ok () := by
  simp only [validateModelJournalAccounting, checkAll_eq_ok, unit_guard_bind] at h ⊢
  intro journal hjournal
  exact ⟨(h journal hjournal).1,
    validateModelJournalEntryAccounting_trimmed hjournal (h journal hjournal).2⟩

theorem validateHistory_trimmed (h : validateHistory checkpoint = .ok ())
    (hfrontier : (checkpoint.archivedFrontier digest).validate = .ok ()) :
    validateHistory (checkpoint.trimmed digest terminal) = .ok () := by
  simp only [validateHistory, unit_guard_bind, refuse_eq_ok, Bool.not_eq_false',
    cyclesOrdered_iff] at h ⊢
  obtain ⟨_, hmessages, hbounds, hordered⟩ := h
  have hkept := checkpoint.keptCycles_sublist
  exact ⟨hfrontier, hmessages, fun cycle hmem => hbounds cycle (hkept.subset hmem),
    hordered.sublist hkept⟩

/-- Archiving keeps a record valid when the new frontier and the trimmed terminal result
are valid by themselves. -/
theorem validateCheckpoint_trimmed (h : validateCheckpoint checkpoint = .ok ())
    (hfrontier : (checkpoint.archivedFrontier digest).validate = .ok ())
    (hfinished : terminal.isSome = checkpoint.terminalResult.isSome)
    (hterminal : validateTerminalResult (checkpoint.trimmed digest terminal) = .ok ()) :
    validateCheckpoint (checkpoint.trimmed digest terminal) = .ok () := by
  rw [validateCheckpoint_eq_ok] at h ⊢
  obtain ⟨hhistory, hdefinition, hidentity, hclaim, hstatus, hinteraction, hjournals,
    hextensions, houtbox, haccounting, hshared, hlifecycle, _⟩ := h
  have hnone : terminal.isNone = checkpoint.terminalResult.isNone := by
    rw [← Option.not_isSome, hfinished, Option.not_isSome]
  refine ⟨validateHistory_trimmed hhistory hfrontier, hdefinition, hidentity, hclaim, ?_,
    validateInteraction_trimmed hstatus hinteraction, validateJournals_trimmed hjournals,
    hextensions, houtbox, validateModelJournalAccounting_trimmed haccounting, hshared, ?_,
    hterminal⟩
  · simpa only [validateTerminalStatus, Checkpoint.trimmed, hfinished, hnone] using hstatus
  · simp only [validateLifecycle, unit_guard_bind] at hlifecycle ⊢
    obtain ⟨hreconciled, hdeferred, hentries, hrunning, hopen⟩ := hlifecycle
    refine ⟨hreconciled, hdeferred, hentries, hrunning, ?_⟩
    rw [← hfinished] at hopen
    exact hopen

/-- What an archiving write asks for beyond a valid record. -/
def ArchiveFits (checkpoint : Checkpoint) : Prop :=
  checkpoint.archivesNothing = true ∨
    checkpoint.history.sequence + 1 ≤ maxWireInteger ∧
      ∃ digest terminal,
        sha256Canonical checkpoint.archivePayload "checkpoint history" = .ok digest ∧
        (checkpoint.archivedFrontier digest).validate = .ok () ∧
        trimTerminal checkpoint.keptCycles checkpoint.keptCalls checkpoint.terminalResult =
          .ok terminal ∧
        validateTerminalResult (checkpoint.trimmed digest terminal) = .ok ()

/-- Two records with the same history, open model calls and result. -/
structure SameHistory (checkpoint other : Checkpoint) : Prop where
  checkpointKey : other.checkpointKey = checkpoint.checkpointKey
  cycleIndex : other.cycleIndex = checkpoint.cycleIndex
  cycles : other.cycles = checkpoint.cycles
  modelCalls : other.modelCalls = checkpoint.modelCalls
  history : other.history = checkpoint.history
  modelCallJournal : other.modelCallJournal = checkpoint.modelCallJournal
  terminalResult : other.terminalResult = checkpoint.terminalResult
  status : other.terminalResult.isSome → other.status = checkpoint.status

omit [Runtime] in
/-- What leaves a record and what stays is a matter of its history. -/
theorem SameHistory.lists {other : Checkpoint} (hsame : SameHistory checkpoint other) :
    other.movedCycles = checkpoint.movedCycles ∧ other.movedCalls = checkpoint.movedCalls ∧
      other.keptCycles = checkpoint.keptCycles ∧ other.keptCalls = checkpoint.keptCalls := by
  obtain ⟨_, hindex, hcycles, hcalls, _, hjournal, hterminal, _⟩ := hsame
  have hretained : retainedCycle other = retainedCycle checkpoint := by
    simp only [retainedCycle, hterminal, hcycles, hindex]
  have harchives (retained : Nat) :
      archivesCall other retained = archivesCall checkpoint retained := by
    funext record
    simp only [archivesCall, hjournal]
  refine ⟨?_, ?_, ?_, ?_⟩
  · simp only [Checkpoint.movedCycles, hretained, hcycles]
  · simp only [Checkpoint.movedCalls, hretained, hcalls, harchives]
  · simp only [Checkpoint.keptCycles, hretained, hcycles]
  · simp only [Checkpoint.keptCalls, hretained, hcalls, harchives]

/-- Whether the archive takes a record is a matter of its history. -/
theorem ArchiveFits.congr {other : Checkpoint} (hsame : SameHistory checkpoint other)
    (h : ArchiveFits checkpoint) : ArchiveFits other := by
  obtain ⟨hmoved, hmovedCalls, hkept, hkeptCalls⟩ := hsame.lists
  obtain ⟨hkey, hindex, hcycles, hcalls, hhistory, hjournal, hterminal, hstatus⟩ := hsame
  rcases h with hnothing | ⟨hsequence, digest, terminal, hdigest, hfrontier, htrimmed, hresult⟩
  · left
    rw [Checkpoint.archivesNothing, hmoved, hmovedCalls]
    exact hnothing
  · right
    refine ⟨by rw [hhistory]; exact hsequence, digest, terminal, ?_, ?_, ?_, ?_⟩
    · simpa only [Checkpoint.archivePayload, hkey, hhistory, hmoved, hmovedCalls] using hdigest
    · simpa only [Checkpoint.archivedFrontier, hhistory, hmoved, hmovedCalls] using hfrontier
    · rw [hkept, hkeptCalls, hterminal]
      exact htrimmed
    · cases terminal with
      | none => rfl
      | some value =>
          have hfinished : other.terminalResult.isSome := by
            rw [hterminal]
            cases hbefore : checkpoint.terminalResult with
            | none => simp [hbefore, trimTerminal] at htrimmed
            | some _ => rfl
          simpa only [validateTerminalResult, Checkpoint.trimmed, hkeptCalls, hkey,
            hstatus hfinished] using hresult

theorem canonicalJsonBytes_eq_ok (value bytes : Json) (fieldName : String) :
    canonicalJsonBytes value fieldName = .ok bytes ↔
      value.validateIJson fieldName = .ok () ∧ bytes = value.canonical := by
  simp only [canonicalJsonBytes, unit_guard_bind, pure_ok, Except.ok.injEq]
  exact and_congr_right fun _ => eq_comm

theorem sha256Canonical_eq_ok (value : Json) (fieldName digest : String) :
    sha256Canonical value fieldName = .ok digest ↔
      value.validateIJson fieldName = .ok () ∧ digest = Platform.sha256 value.canonical := by
  simp only [sha256Canonical, bind_eq_ok, canonicalJsonBytes_eq_ok, pure_ok, Except.ok.injEq]
  constructor
  · rintro ⟨_, ⟨hvalid, rfl⟩, rfl⟩
    exact ⟨hvalid, rfl⟩
  · rintro ⟨hvalid, rfl⟩
    exact ⟨_, ⟨hvalid, rfl⟩, rfl⟩

theorem trimTerminal_isSome {cycles : List CycleRecord} {calls : List ModelCallRecord}
    {before after : Option TerminalValue} (h : trimTerminal cycles calls before = .ok after) :
    after.isSome = before.isSome := by
  cases before with
  | none =>
      rw [trimTerminal, Except.ok.injEq] at h
      rw [← h]
  | some value =>
      simp only [trimTerminal, bind_eq_ok, pure_ok, Except.ok.injEq] at h
      obtain ⟨_, _, rfl⟩ := h
      rfl

/-- A normalized record is the record itself, or what is left of it next to its batch. -/
theorem normalizeCheckpointHistory_eq_ok {normalized : Checkpoint}
    {batch : Option CheckpointHistoryBatch}
    (h : normalizeCheckpointHistory checkpoint = .ok (normalized, batch)) :
    checkpoint.archivesNothing = true ∧ normalized = checkpoint ∧ batch = none ∨
      ∃ digest terminal, checkpoint.archivesNothing = false ∧
        sha256Canonical checkpoint.archivePayload "checkpoint history" = .ok digest ∧
        trimTerminal checkpoint.keptCycles checkpoint.keptCalls checkpoint.terminalResult =
          .ok terminal ∧
        validateCheckpoint (checkpoint.trimmed digest terminal) = .ok () ∧
        normalized = checkpoint.trimmed digest terminal ∧
        batch = some ⟨checkpoint.archivePayload, digest, checkpoint.history.sequence + 1⟩ := by
  rw [normalizeCheckpointHistory_eq] at h
  split at h
  · rename_i hnothing
    simp only [Except.ok.injEq, Prod.mk.injEq] at h
    exact .inl ⟨hnothing, h.1.symm, h.2.symm⟩
  · rename_i hsome
    simp only [bind_eq_ok, refuse_eq_ok, exists_const, pure_ok, Except.ok.injEq,
      Prod.mk.injEq] at h
    obtain ⟨_, digest, hdigest, terminal, hterminal, _, hvalid, hnormalized, hbatch⟩ := h
    exact .inr ⟨digest, terminal, Bool.eq_false_iff.mpr hsome, hdigest, hterminal, hvalid,
      hnormalized.symm, hbatch.symm⟩

/-- A valid record normalizes exactly when its history fits the archive. -/
theorem normalizes_iff (h : validateCheckpoint checkpoint = .ok ()) :
    (∃ written, normalizeCheckpointHistory checkpoint = .ok written) ↔
      ArchiveFits checkpoint := by
  rw [normalizeCheckpointHistory_eq]
  constructor
  · rintro ⟨written, hwritten⟩
    split at hwritten
    · exact .inl ‹_›
    · simp only [bind_eq_ok, refuse_eq_ok, exists_const, decide_eq_false_iff_not, not_lt] at hwritten
      obtain ⟨hsequence, digest, hdigest, terminal, hterminal, _, hvalid, _⟩ := hwritten
      rw [validateCheckpoint_eq_ok] at hvalid
      have hfrontier := hvalid.1
      simp only [validateHistory, unit_guard_bind] at hfrontier
      exact .inr ⟨hsequence, digest, terminal, hdigest, hfrontier.1, hterminal,
        hvalid.2.2.2.2.2.2.2.2.2.2.2.2⟩
  · rintro (hnothing | ⟨hsequence, digest, terminal, hdigest, hfrontier, hterminal, hresult⟩)
    · exact ⟨(checkpoint, none), by rw [if_pos hnothing]⟩
    · have hvalid := validateCheckpoint_trimmed h hfrontier (trimTerminal_isSome hterminal) hresult
      split
      · exact ⟨_, rfl⟩
      · rw [decide_eq_false (not_lt.mpr hsequence), refuse_false, ok_bind, hdigest, ok_bind,
          hterminal, ok_bind, hvalid, ok_bind]
        exact ⟨_, rfl⟩

end

end

end VvAgent
