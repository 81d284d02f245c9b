import VvAgent.Store.Ledger

/-!
Terminal states are final. After a run has ended, only the delivery of an event and the
acknowledgement of the result are applied to its record. Both may still archive: a run that
was ended by a command keeps its completed cycles until then. What the record and the archive
say together stays as it was, and so does the result that a reader puts together from them.
-/

namespace VvAgent
open Lib Lib.Outcome

section
variable [Runtime]

/-- `hydrate_checkpoint_result` of the stored terminal result of a key. -/
def MemoryStore.hydratedResult (store : MemoryStore) (key : String) :
    Option (CheckpointResult AgentResult) := do
  let checkpoint ← store.checkpoints[key]?
  let value ← checkpoint.terminalResult
  return do
    let result ← withCode "checkpoint_status_invalid" value.read
    hydrateCheckpointResult checkpoint (store.loadCheckpointHistory key) result

/-- The same from one record and its archive. -/
def hydratedFrom (checkpoint : Checkpoint) (archive : ArchivedHistory) :
    Option (CheckpointResult AgentResult) :=
  checkpoint.terminalResult.map fun value => do
    let result ← withCode "checkpoint_status_invalid" value.read
    hydrateCheckpointResult checkpoint (decodeCheckpointHistory checkpoint archive.payloads) result

theorem MemoryStore.hydratedResult_eq {store : MemoryStore} {key : String}
    {checkpoint : Checkpoint} (hfound : store.checkpoints[key]? = some checkpoint) :
    store.hydratedResult key = hydratedFrom checkpoint (store.archiveOf key) := by
  simp only [MemoryStore.hydratedResult, MemoryStore.loadCheckpointHistory, hfound,
    Option.bind_eq_bind, Option.bind_some, hydratedFrom]
  cases checkpoint.terminalResult with
  | none => rfl
  | some value => rfl

/-- An outbox entry that stays as it is, or is delivered. -/
def Delivers (before after : EventOutboxEntry) : Prop :=
  after = before ∨ before.state = "pending" ∧ ∃ cursor, after = before.delivered cursor

omit [Runtime] in
theorem Delivers.trans {first second third : EventOutboxEntry} (h : Delivers first second)
    (h' : Delivers second third) : Delivers first third := by
  rcases h with rfl | ⟨hpending, cursor, rfl⟩
  · exact h'
  · rcases h' with rfl | ⟨hagain, _⟩
    · exact .inr ⟨hpending, cursor, rfl⟩
    · simp [EventOutboxEntry.delivered] at hagain

/-- What can still happen to the record of a run that has ended. -/
structure Finished (before after : Checkpoint) : Prop where
  frame : ∃ eventOutbox eventCursor revision terminalAcknowledged cycles modelCalls history
      terminalResult,
    after = { before with
      eventOutbox, eventCursor, revision, terminalAcknowledged, cycles, modelCalls, history
      terminalResult }
  outbox : List.Forall₂ Delivers before.eventOutbox after.eventOutbox
  acknowledged : before.terminalAcknowledged = true → after.terminalAcknowledged = true
  terminal : after.terminalResult.isSome = true

omit [Runtime] in
theorem forall₂_delivers_refl (outbox : List EventOutboxEntry) :
    List.Forall₂ Delivers outbox outbox := by
  induction outbox with
  | nil => exact .nil
  | cons entry rest ih => exact .cons (.inl rfl) ih

omit [Runtime] in
theorem forall₂_delivers_trans {first second third : List EventOutboxEntry}
    (h : List.Forall₂ Delivers first second) (h' : List.Forall₂ Delivers second third) :
    List.Forall₂ Delivers first third := by
  induction h generalizing third with
  | nil => exact h'
  | cons hentry _ ih =>
      cases h' with
      | cons hnext hrest => exact .cons (hentry.trans hnext) (ih hrest)

omit [Runtime] in
/-- A delivery turns one pending entry into a delivered one. -/
theorem forall₂_delivers_delivery {outbox : List EventOutboxEntry} {entry : EventOutboxEntry}
    {eventId : String} {cursor : EventCursor}
    (hentry : (outbox.filter fun entry => entry.eventId == eventId) = [entry])
    (hpending : entry.state = "pending") :
    List.Forall₂ Delivers outbox
      (replaceFirst (fun entry => entry.eventId == eventId) (entry.delivered cursor) outbox) := by
  have hfound : outbox.find? (fun entry => entry.eventId == eventId) = some entry := by
    rw [← List.head?_filter, hentry]
    rfl
  obtain ⟨front, back, houtbox, _, _, hreplaced⟩ :=
    replaceFirst_split _ (entry.delivered cursor) entry outbox hfound
  rw [hreplaced, houtbox]
  refine List.rel_append (forall₂_delivers_refl front) (.cons ?_ (forall₂_delivers_refl back))
  exact .inr ⟨hpending, cursor, rfl⟩

omit [Runtime] in
theorem Finished.refl {checkpoint : Checkpoint} (h : checkpoint.terminalResult.isSome = true) :
    Finished checkpoint checkpoint :=
  ⟨⟨_, _, _, _, _, _, _, _, rfl⟩, forall₂_delivers_refl _, id, h⟩

omit [Runtime] in
theorem Finished.trans {first second third : Checkpoint} (h : Finished first second)
    (h' : Finished second third) : Finished first third := by
  obtain ⟨⟨_, _, _, _, _, _, _, _, rfl⟩, houtbox, hack, _⟩ := h
  obtain ⟨⟨_, _, _, _, _, _, _, _, rfl⟩, houtbox', hack', hterminal⟩ := h'
  exact ⟨⟨_, _, _, _, _, _, _, _, rfl⟩, forall₂_delivers_trans houtbox houtbox', hack' ∘ hack,
    hterminal⟩

/-- A valid terminal record has no claim, a terminal status and no open operation. -/
theorem ValidBesidesLease.terminal {checkpoint : Checkpoint} (h : ValidBesidesLease checkpoint)
    (hterminal : checkpoint.terminalResult.isSome = true) :
    checkpoint.claimToken = none ∧ checkpoint.status.isTerminal = true ∧
      checkpoint.journals.any (·.isOpen) = false := by
  obtain ⟨lease, hvalid⟩ := h
  rw [validateCheckpoint_eq_ok] at hvalid
  have hstatus := hvalid.2.2.2.2.1
  have hlifecycle := hvalid.2.2.2.2.2.2.2.2.2.2.2.1
  simp only [validateTerminalStatus, unit_guard_bind, refuse_eq_ok, hterminal, Bool.true_and,
    Option.isSome_eq_false_iff, Option.isNone_iff_eq_none, Bool.not_eq_false'] at hstatus
  simp only [validateLifecycle, unit_guard_bind, refuse_eq_ok, hterminal, Bool.true_and] at hlifecycle
  exact ⟨hstatus.1, hstatus.2.2.2, hlifecycle.2.2.2.2⟩

/-- Only an acknowledgement and a delivery are applied to a terminal record. -/
theorem Made.finished {op : StoreOp} {key : String} {current updated : Checkpoint}
    (hmade : Made op key current updated) (hvalid : ValidBesidesLease current)
    (hterminal : current.terminalResult.isSome = true) :
    Finished current updated ∧ SameHistory current updated ∧ op.offered = none ∧
      op.writesPlain = false := by
  obtain ⟨hunclaimed, hstatus, hclosed⟩ := hvalid.terminal hterminal
  have hopen (hnone : current.terminalResult = none) : False := by simp [hnone] at hterminal
  have hclaimed {token : String} (htoken : current.claimToken = some token) : False := by
    simp [hunclaimed] at htoken
  have hrunning (hrun : current.status = .running) : False := by
    simp [hrun, CheckpointStatus.isTerminal] at hstatus
  cases hmade with
  | acknowledge h =>
      obtain ⟨_, _, _, _, _, rfl⟩ := prepareAck_eq_some h
      refine ⟨⟨⟨_, _, _, _, _, _, _, _, rfl⟩, forall₂_delivers_refl _, fun _ => rfl, hterminal⟩,
        ⟨rfl, rfl, rfl, rfl, rfl, rfl, rfl, fun _ => rfl⟩, rfl, rfl⟩
  | delivery h =>
      obtain ⟨_, _, _, entry, hentry, hpending, rfl⟩ := prepareEventDelivery_eq_some h
      refine ⟨⟨⟨_, _, _, _, _, _, _, _, rfl⟩, forall₂_delivers_delivery hentry hpending, id,
        hterminal⟩, ⟨rfl, rfl, rfl, rfl, rfl, rfl, rfl, fun _ => rfl⟩, rfl, rfl⟩
  | claim _ h =>
      obtain ⟨hcandidate, _⟩ := prepareClaim_eq_some h
      exact (hopen (claimCandidate_eq_true hcandidate).2.1).elim
  | renew _ htoken _ => exact (hclaimed htoken).elim
  | progress h => exact (hopen (prepareProgress_eq_some h).1.open_).elim
  | suspend h => exact (hopen (prepareSuspend_eq_some h).1.open_).elim
  | commit h => exact (hopen (prepareCommit_eq_some h).1.open_).elim
  | finalize h => exact (hopen (prepareFinalize_eq_some h).2.2.2.2.1).elim
  | finalizeClaimed h => exact (hopen (prepareFinalizeClaimed_eq_some h).1.open_).elim
  | toolReceipt h => exact (hopen (prepareToolReceipt_eq_some h).2.2.2.2.1).elim
  | admitDeferred h hchanged => exact (hclaimed (admitDeferredBatch_eq_ok h hchanged).2.1).elim
  | acceptDeferred h => exact (hclaimed (acceptDeferredBatch_eq_ok h).2.1).elim
  | resolveDeferred _ htarget _ =>
      obtain ⟨hfound, _, hdeferred, _⟩ := deferredTarget_eq_inr htarget
      have hopenEntry : ∃ entry ∈ current.journals, entry.isOpen = true :=
        ⟨_, List.mem_append_right _ (List.mem_of_find?_eq_some hfound), by
          simp [OperationJournalEntry.isOpen, hdeferred]⟩
      rw [← List.any_eq_true, hclosed] at hopenEntry
      cases hopenEntry
  | produce hrun => exact (hrunning hrun).elim
  | command _ h => exact (hopen (applyControllerCommand_eq_ok h).2.2.1).elim
  | consume _ _ hrun => exact (hrunning hrun).elim

/-- The model calls of a record are in the order of their cycles, none of them later than
the cycle under way. -/
structure CallsOrdered (checkpoint : Checkpoint) : Prop where
  ordered : checkpoint.modelCalls.Pairwise fun left right =>
    left.cycleIndex.toNat ≤ right.cycleIndex.toNat
  bound : checkpoint.terminalResult = none →
    ∀ record ∈ checkpoint.modelCalls, record.cycleIndex.toNat ≤ checkpoint.cycleIndex + 1

/-- The terminal result of a record sums up its own cycles and model calls. -/
structure Summarizes (checkpoint : Checkpoint) (result : AgentResult) : Prop where
  stored : checkpoint.terminalResult = some (.decoded result)
  cycles : result.cycles = checkpoint.cycles
  usage : result.tokenUsage = summarizeTaskTokenUsage checkpoint.modelCalls
  closed : checkpoint.modelCallJournal = []

/-- A terminal record is archived as far as it ever will be, or its result sums it up. -/
def Ended (checkpoint : Checkpoint) : Prop :=
  checkpoint.archivesNothing = true ∨ ∃ result, Summarizes checkpoint result

omit [Runtime] in
/-- The calls of a snapshot are those of the record and calls of the cycle under way. -/
theorem Carries.callsOrdered {op : StoreOp} {current updated : Checkpoint}
    (h : Carries op current updated) (hcalls : CallsOrdered current)
    (hforward : updated.terminalResult = none →
      current.terminalResult = none ∧ current.cycleIndex ≤ updated.cycleIndex) :
    CallsOrdered updated := by
  have hnew : ∀ record ∈ op.offeredCalls.drop current.modelCalls.length,
      current.terminalResult = none ∧ record.cycleIndex.toNat = current.cycleIndex + 1 := by
    intro record hmem
    rcases h.cycles with ⟨hnone, _⟩ | ⟨snapshot, hoffered, hopen, hextends, _⟩
    · rw [StoreOp.offeredCalls_of_none hnone, List.drop_nil] at hmem
      cases hmem
    · refine ⟨hopen, hextends.newCalls record ?_⟩
      rcases op.offeredCalls_eq hoffered with hall | hnothing
      · rwa [hall] at hmem
      · rw [hnothing, List.drop_nil] at hmem
        cases hmem
  refine ⟨?_, fun hstill record hmem => ?_⟩
  · rw [h.calls, List.pairwise_append]
    refine ⟨hcalls.ordered, ?_, ?_⟩
    · refine List.pairwise_of_forall_mem_list fun left hleft right hright => ?_
      rw [(hnew left hleft).2, (hnew right hright).2]
    · intro left hleft right hright
      have hbound := hcalls.bound (hnew right hright).1 left hleft
      rw [(hnew right hright).2]
      exact hbound
  · obtain ⟨hopen, hindex⟩ := hforward hstill
    rw [h.calls] at hmem
    rcases List.mem_append.mp hmem with hold | hoffered
    · have hbound := hcalls.bound hopen record hold
      omega
    · have heq := (hnew record hoffered).2
      omega

/-- A plain write that ends a run leaves a result that sums the record up. -/
theorem Made.summarizes {op : StoreOp} {key : String} {current updated : Checkpoint}
    (hmade : Made op key current updated) (hplain : op.writesPlain = true)
    (hopen : current.terminalResult = none) (hterminal : updated.terminalResult.isSome = true) :
    ∃ result, Summarizes updated result := by
  cases hmade with
  | claim _ h =>
      obtain ⟨_, _, _, rfl⟩ := prepareClaim_eq_some h
      simp [claimedBy, hopen] at hterminal
  | renew => simp [hopen] at hterminal
  | command hop h hupdated =>
      obtain ⟨_, _, _, _, hcase⟩ := applyControllerCommand_eq_ok h
      rw [hupdated] at hcase
      cases hcase with
      | requested => simp [hopen] at hterminal
      | moved base _ _ _ _ _ hbase =>
          rcases hbase with ⟨rfl, _⟩ | rfl <;> simp [hopen, Checkpoint.releaseClaim] at hterminal
      | ended _ _ _ _ result _ _ hcycles husage => exact ⟨result, rfl, hcycles, husage, rfl⟩
  | progress | suspend | commit | finalize | finalizeClaimed | toolReceipt | acknowledge
  | delivery | admitDeferred | acceptDeferred | resolveDeferred | produce | consume =>
      simp [StoreOp.writesPlain] at hplain

/-- A line whose record, if it has ended, has ended in order. -/
structure Line.InOrder (line : Line) : Prop where
  calls : ∀ checkpoint, line.record = some checkpoint → CallsOrdered checkpoint
  ended : ∀ checkpoint, line.record = some checkpoint →
    checkpoint.terminalResult.isSome = true → Ended checkpoint

/-- What archiving leaves is archived as far as it ever will be. -/
theorem persistHistory_settled {archive after : ArchivedHistory} {updated stored : Checkpoint}
    (hpersist : persistHistory archive updated = .ok (stored, after)) :
    stored.archivesNothing = true ∧ stored.modelCalls.Sublist updated.modelCalls ∧
      stored.cycleIndex = updated.cycleIndex ∧
      stored.terminalResult.isSome = updated.terminalResult.isSome := by
  rcases (persistHistory_eq_ok hpersist).2 with
    ⟨hnothing, rfl, _⟩ | ⟨digest, terminal, _, _, _, hterminal, _, rfl, _⟩
  · exact ⟨hnothing, List.Sublist.refl _, rfl, rfl⟩
  · have hfinished := trimTerminal_isSome hterminal
    exact ⟨updated.archivesNothing_trimmed digest hfinished, updated.keptCalls_sublist, rfl,
      hfinished⟩

omit [Runtime] in
theorem isSome_congr_none {α β : Type} {left : Option α} {right : Option β}
    (h : left.isSome = right.isSome) (hnone : left = none) : right = none := by
  rw [hnone] at h
  exact Option.isNone_iff_eq_none.mp (by rw [← Option.not_isSome, ← h]; rfl)

theorem LineStep.inOrder {op : StoreOp} {key : String} {before after : Line}
    (hstep : LineStep op key before after) (hop : op.Archivable) (hsound : before.Sound)
    (horder : before.InOrder) : after.InOrder := by
  cases hstep with
  | kept => exact horder
  | created checkpoint archive _ hcreation =>
      have hinitial := validateCheckpointCreation_initial hcreation
      refine ⟨fun other hother => ?_, fun other hother hterminal => ?_⟩
      all_goals obtain rfl : checkpoint = other := Option.some.inj hother
      · constructor <;> simp [hinitial.modelCalls]
      · simp [hinitial.terminalResult] at hterminal
  | plain current updated archive hmade hplain =>
      cases hsound with
      | present _ _ hfiled =>
          have hcurrent := horder.calls current rfl
          have hopen : current.terminalResult = none := by
            by_contra hfinished
            have hends := hmade.finished hfiled.valid (Option.isSome_iff_ne_none.mpr hfinished)
            simp [hplain] at hends
          refine ⟨fun other hother => ?_, fun other hother hterminal => ?_⟩
          all_goals obtain rfl : updated = other := Option.some.inj hother
          · refine hmade.carries.callsOrdered hcurrent fun hstill => ⟨hopen, ?_⟩
            exact hmade.cycleIndex_le hop hfiled.valid hstill
          · exact .inr (hmade.summarizes hplain hopen hterminal)
  | archived current updated stored archive after hmade hpersist =>
      cases hsound with
      | present _ _ hfiled =>
          have hcurrent := horder.calls current rfl
          obtain ⟨hsettled, hsublist, hindex, hfinished⟩ := persistHistory_settled hpersist
          refine ⟨fun other hother => ?_, fun other hother _ => ?_⟩
          all_goals obtain rfl : stored = other := Option.some.inj hother
          · have hupdated : CallsOrdered updated :=
              hmade.carries.callsOrdered hcurrent fun hstill => by
                refine ⟨?_, hmade.cycleIndex_le hop hfiled.valid hstill⟩
                by_contra hended
                have hends := hmade.staysTerminal (Option.isSome_iff_ne_none.mpr hended)
                simp [hstill] at hends
            refine ⟨hupdated.ordered.sublist hsublist, fun hstill record hmem => ?_⟩
            rw [hindex]
            exact hupdated.bound (isSome_congr_none hfinished hstill) record
              (hsublist.subset hmem)
          · exact .inl hsettled
  | deleted =>
      refine ⟨fun checkpoint habsent => ?_, fun checkpoint habsent => ?_⟩
      all_goals cases habsent

omit [Runtime] in
/-- Cycles that come after the archived ones are put behind them. -/
theorem hydrateCycles_append (archived cycles : List CycleRecord)
    (hordered : (archived ++ cycles).Pairwise fun left right => left.index < right.index) :
    hydrateCycles archived cycles = .ok (archived ++ cycles) := by
  induction cycles generalizing archived with
  | nil => simp [hydrateCycles]
  | cons cycle rest ih =>
      have hnew : (archived.find? fun existing => existing.index == cycle.index) = none := by
        rw [List.find?_eq_none]
        intro existing hmem hsame
        have hless := (List.pairwise_append.mp hordered).2.2 existing hmem cycle (by simp)
        rw [beq_iff_eq.mp hsame] at hless
        exact UInt32.lt_irrefl _ hless
      rw [List.append_cons] at hordered
      simp only [hydrateCycles, hnew]
      rw [ih (archived ++ [cycle]) hordered, List.append_assoc]
      rfl

omit [Runtime] in
theorem hydrateCalls_append (archived calls : List ModelCallRecord)
    (hdistinct : ((archived ++ calls).map (·.callId)).Nodup) :
    hydrateCalls archived calls = .ok (archived ++ calls) := by
  induction calls generalizing archived with
  | nil => simp [hydrateCalls]
  | cons call rest ih =>
      have hnew : (archived.any fun existing => existing.callId == call.callId) = false := by
        rw [List.map_append, List.map_cons, List.nodup_append] at hdistinct
        rw [List.any_eq_false]
        intro existing hmem
        have hne := hdistinct.2.2 existing.callId (List.mem_map_of_mem hmem) call.callId (by simp)
        simpa using hne
      rw [List.append_cons] at hdistinct
      simp only [hydrateCalls, hnew, refuse_false, ok_bind]
      rw [ih (archived ++ [call]) hdistinct, List.append_assoc]
      rfl

/-- The complete result of a run, put together from the archive and the record. -/
theorem hydratedFrom_summarized {checkpoint : Checkpoint} {archive : ArchivedHistory}
    {ledger : Ledger} {state : DecodeState} {result : AgentResult}
    (hfiled : Filed checkpoint archive) (h : Recorded checkpoint archive ledger state)
    (hresult : Summarizes checkpoint result) (hwell : result.wellFormed = true) :
    hydratedFrom checkpoint archive = some (.ok
      { result with
        cycles := state.cycles ++ checkpoint.cycles
        tokenUsage := summarizeTaskTokenUsage (state.modelCalls ++ checkpoint.modelCalls) }) := by
  have hread : withCode "checkpoint_status_invalid" (TerminalValue.decoded result).read =
      .ok result := by
    simp [TerminalValue.read, hwell, withCode]
  simp only [hydratedFrom, hresult.stored, Option.map_some, hread, ok_bind, Option.some.injEq]
  unfold hydrateCheckpointResult
  split
  · rename_i hzero
    have hnone : archive.payloads = [] := by
      rw [← List.length_eq_zero_iff, hfiled.sequence, hzero]
    have hstate : state = {} := by
      have hdecoded := h.decoded
      rw [hnone, decodePayloads, Except.ok.injEq] at hdecoded
      exact hdecoded.symm
    subst hstate
    simp only [List.nil_append, ← hresult.cycles, ← hresult.usage]
  · have hbefore : ∀ archived ∈ state.cycles, ∀ active ∈ checkpoint.cycles,
        archived.index < active.index := (List.pairwise_append.mp h.ordered).2.2
    rw [decodeCheckpointHistory_of_decoded hfiled.sequence h.decoded h.frontier hbefore h.distinct]
    simp only [ok_bind, bne_self_eq_false, refuse_false, hresult.cycles,
      hydrateCycles_append _ _ h.ordered, hydrateCalls_append _ _ h.distinct, pure_ok]

/-- The history decides how a result is put together. -/
theorem hydratedFrom_congr {checkpoint other : Checkpoint} (hsame : SameHistory checkpoint other)
    (archive : ArchivedHistory) : hydratedFrom other archive = hydratedFrom checkpoint archive := by
  obtain ⟨hkey, _, hcycles, hcalls, hhistory, _, hterminal, _⟩ := hsame
  simp only [hydratedFrom, hydrateCheckpointResult, decodeCheckpointHistory, hkey, hcycles, hcalls,
    hhistory, hterminal]

omit [Runtime] in
/-- Without open model operations, the calls that leave a record are the first ones of it. -/
theorem movedCalls_append_keptCalls_eq {checkpoint : Checkpoint} (hcalls : CallsOrdered checkpoint)
    (hclosed : checkpoint.modelCallJournal = []) :
    checkpoint.movedCalls ++ checkpoint.keptCalls = checkpoint.modelCalls := by
  unfold Checkpoint.movedCalls Checkpoint.keptCalls
  cases retainedCycle checkpoint with
  | none => rfl
  | some retained =>
      refine filter_append_filter_not _ _ (hcalls.ordered.imp ?_)
      intro left right hle hright
      simp only [archivesCall, hclosed, List.filterMap_nil, List.contains_nil, Bool.not_false,
        Bool.and_true, decide_eq_true_eq] at hright ⊢
      omega

/-- The stored result of a valid terminal record can be read. -/
theorem ValidBesidesLease.result_wellFormed {checkpoint : Checkpoint} {result : AgentResult}
    (h : ValidBesidesLease checkpoint)
    (hresult : checkpoint.terminalResult = some (.decoded result)) : result.wellFormed = true := by
  obtain ⟨lease, hvalid⟩ := h
  rw [validateCheckpoint_eq_ok] at hvalid
  have hterminal := hvalid.2.2.2.2.2.2.2.2.2.2.2.2
  simp only [validateTerminalResult, hresult, bind_eq_ok] at hterminal
  obtain ⟨_, _, read, hread, _⟩ := hterminal
  by_contra hmalformed
  simp [TerminalValue.read, hmalformed, withContext, Except.mapError] at hread

/-- A trimmed record is summed up by its trimmed result. -/
theorem Summarizes.trimmed {checkpoint : Checkpoint} {result : AgentResult}
    {terminal : Option TerminalValue} (digest : String) (h : Summarizes checkpoint result)
    (hterminal : trimTerminal checkpoint.keptCycles checkpoint.keptCalls
      checkpoint.terminalResult = .ok terminal) :
    Summarizes (checkpoint.trimmed digest terminal)
      { result with
        cycles := checkpoint.keptCycles
        tokenUsage := summarizeTaskTokenUsage checkpoint.keptCalls } := by
  simp only [trimTerminal, h.stored, bind_eq_ok, pure_ok, Except.ok.injEq] at hterminal
  obtain ⟨read, hread, rfl⟩ := hterminal
  have hsame : read = result := by
    simp only [TerminalValue.read] at hread
    split at hread
    · simpa [withCode] using hread.symm
    · simp [withCode] at hread
  rw [hsame]
  exact ⟨rfl, rfl, rfl, h.closed⟩

/-- A record that has ended, with what it and its archive hold together. -/
structure Settled (start checkpoint : Checkpoint) (archive : ArchivedHistory)
    (cycles : List CycleRecord) (calls : List ModelCallRecord)
    (hydrated : Option (CheckpointResult AgentResult)) : Prop where
  finished : Finished start checkpoint
  ended : Ended checkpoint
  ordered : CallsOrdered checkpoint
  hydrates : hydratedFrom checkpoint archive = hydrated
  recorded : ∃ ledger state, Recorded checkpoint archive ledger state ∧
    state.cycles ++ checkpoint.cycles = cycles ∧
    state.modelCalls ++ checkpoint.modelCalls = calls

/-- Archiving a record that has ended changes nothing of what it says. -/
theorem Settled.persist {start updated stored : Checkpoint} {archive after : ArchivedHistory}
    {cycles : List CycleRecord} {calls : List ModelCallRecord}
    {hydrated : Option (CheckpointResult AgentResult)}
    (h : Settled start updated archive cycles calls hydrated) (hfiled : Filed updated archive)
    (hpersist : persistHistory archive updated = .ok (stored, after)) :
    Settled start stored after cycles calls hydrated := by
  rcases (persistHistory_eq_ok hpersist).2 with
    ⟨_, rfl, rfl⟩ | ⟨digest, terminal, hsome, hsequence, hdigest, hterminal, hvalid, rfl, rfl⟩
  · exact h
  obtain ⟨hfinished, hended, hordered, hhydrated, ledger, state, hrecorded, hcycles, hcalls⟩ := h
  -- Only a run that a command has ended still has something to archive.
  obtain ⟨result, hresult⟩ : ∃ result, Summarizes updated result := by
    rcases hended with hnothing | hsummary
    · simp [hnothing] at hsome
    · exact hsummary
  obtain ⟨state', hrecorded', hstate⟩ := hrecorded.persist_take hfiled.valid hpersist hsome
  have hstored := hresult.trimmed digest hterminal
  have hfiled' := Filed.persist hfiled.valid hfiled.sequence hpersist
  have hallCycles : state'.cycles ++ updated.keptCycles = state.cycles ++ updated.cycles := by
    rw [hstate.1, List.append_assoc, movedCycles_append_keptCycles hfiled.valid]
  have hallCalls : state'.modelCalls ++ updated.keptCalls =
      state.modelCalls ++ updated.modelCalls := by
    rw [hstate.2, List.append_assoc, movedCalls_append_keptCalls_eq hordered hresult.closed]
  have hbefore := hydratedFrom_summarized hfiled hrecorded hresult
    (hfiled.valid.result_wellFormed hresult.stored)
  have hafter := hydratedFrom_summarized hfiled' hrecorded' hstored
    (hfiled'.valid.result_wellFormed hstored.stored)
  have hsublist := updated.keptCalls_sublist
  refine ⟨?_, .inr ⟨_, hstored⟩, ⟨hordered.ordered.sublist hsublist, fun hopen => ?_⟩, ?_,
    ledger, state', hrecorded', hallCycles.trans hcycles, hallCalls.trans hcalls⟩
  · have hsomeResult : terminal.isSome = true :=
      (trimTerminal_isSome hterminal).trans hfinished.terminal
    refine hfinished.trans ⟨⟨_, _, _, _, _, _, _, _, rfl⟩, forall₂_delivers_refl _, id, hsomeResult⟩
  · rw [hstored.stored] at hopen
    cases hopen
  · rw [hafter, ← hhydrated, hbefore]
    change some (Except.ok { result with
      cycles := state'.cycles ++ updated.keptCycles
      tokenUsage := summarizeTaskTokenUsage (state'.modelCalls ++ updated.keptCalls) }) = _
    rw [hallCycles, hallCalls]

/-- A line whose run has ended. -/
def Line.Settled (line : Line) (start : Checkpoint) (cycles : List CycleRecord)
    (calls : List ModelCallRecord) (hydrated : Option (CheckpointResult AgentResult)) : Prop :=
  ∃ checkpoint archive, line = ⟨some checkpoint, archive⟩ ∧
    VvAgent.Settled start checkpoint archive cycles calls hydrated

/-- No operation but a deletion takes a run back from its end. -/
theorem LineStep.settled {op : StoreOp} {key : String} {before after : Line} {start : Checkpoint}
    {cycles : List CycleRecord} {calls : List ModelCallRecord}
    {hydrated : Option (CheckpointResult AgentResult)} (hstep : LineStep op key before after)
    (hkept : op ≠ .delete key) (hsound : before.Sound)
    (h : before.Settled start cycles calls hydrated) :
    after.Settled start cycles calls hydrated := by
  obtain ⟨current, archive, rfl, hsettled⟩ := h
  cases hsound with
  | present _ _ hfiled =>
      cases hstep with
      | kept => exact ⟨current, archive, rfl, hsettled⟩
      | plain _ updated _ hmade hplain =>
          have hends := hmade.finished hfiled.valid hsettled.finished.terminal
          simp [hplain] at hends
      | archived _ updated stored _ after hmade hpersist =>
          obtain ⟨hfinished, hsame, hnone, _⟩ :=
            hmade.finished hfiled.valid hsettled.finished.terminal
          obtain ⟨hdone, hended, hordered, hhydrated, ledger, state, hrecorded, hcycles, hcalls⟩ :=
            hsettled
          have hvalid := hmade.validBesidesLease hfiled.valid
          have hprepared := hrecorded.prepare hmade (.of_none hnone) hfiled.valid
            (persistHistory_eq_ok hpersist).1
          have hended' : Ended updated := by
            rcases hended with hnothing | ⟨result, hresult⟩
            · left
              rw [Checkpoint.archivesNothing, hsame.lists.1, hsame.lists.2.1]
              exact hnothing
            · right
              refine ⟨result, hsame.terminalResult.trans hresult.stored,
                hresult.cycles.trans hsame.cycles.symm, ?_,
                hsame.modelCallJournal.trans hresult.closed⟩
              rw [hsame.modelCalls]
              exact hresult.usage
          have hupdated : VvAgent.Settled start updated archive cycles calls hydrated := by
            refine ⟨hdone.trans hfinished, hended', ⟨?_, fun hopen => ?_⟩, ?_, _, state, hprepared,
              ?_, ?_⟩
            · rw [hsame.modelCalls]
              exact hordered.ordered
            · have hterminal := hfinished.terminal
              simp [hopen] at hterminal
            · rw [hydratedFrom_congr hsame]
              exact hhydrated
            · rw [hsame.cycles]
              exact hcycles
            · rw [hsame.modelCalls]
              exact hcalls
          have hfiled' : Filed updated archive := by
            refine ⟨hvalid, ?_, (persistHistory_eq_ok hpersist).1, fun hopen => ?_⟩
            · rw [hsame.history]
              exact hfiled.sequence
            · have hterminal := hfinished.terminal
              simp [hopen] at hterminal
          exact ⟨stored, after, rfl, hupdated.persist hfiled' hpersist⟩
      | deleted _ hop => exact absurd hop hkept

/-- A store whose lines are all sound. -/
def LinesSound (store : MemoryStore) : Prop := Keyed store ∧ ∀ key, (store.line key).Sound

theorem exec_linesSound (op : StoreOp) (store : MemoryStore) (h : LinesSound store) :
    LinesSound (exec op store) :=
  ⟨exec_keyed op store h.1, exec_line_sound op store h.1 h.2⟩

theorem run_linesSound (ops : List StoreOp) : LinesSound (run exec ops {}) :=
  ⟨run_keyed ops, run_line_sound ops⟩

theorem run_inOrder (ops : List StoreOp) (hops : ∀ op ∈ ops, op.Archivable) (key : String) :
    ((run exec ops {}).line key).InOrder :=
  (run_preserves exec StoreOp.Archivable
    (fun store => LinesSound store ∧ (store.line key).InOrder)
    (fun op store hop h => ⟨exec_linesSound op store h.1,
      ((exec_step op store h.1.1).line h.1.1 key).inOrder hop (h.1.2 key) h.2⟩)
    ops hops {} ⟨run_linesSound [], by
      constructor
      · intro checkpoint habsent
        simp [MemoryStore.line] at habsent
      · intro checkpoint habsent
        simp [MemoryStore.line] at habsent⟩).2

theorem run_settled {start : Checkpoint} {cycles : List CycleRecord}
    {calls : List ModelCallRecord} {hydrated : Option (CheckpointResult AgentResult)}
    {key : String} (later : List StoreOp) (hkept : ∀ op ∈ later, op ≠ .delete key)
    {store : MemoryStore} (hsound : LinesSound store)
    (h : (store.line key).Settled start cycles calls hydrated) :
    ((run exec later store).line key).Settled start cycles calls hydrated :=
  (run_preserves exec (fun op => op ≠ .delete key)
    (fun store => LinesSound store ∧ (store.line key).Settled start cycles calls hydrated)
    (fun op store hop h => ⟨exec_linesSound op store h.1,
      ((exec_step op store h.1.1).line h.1.1 key).settled hop (h.1.2 key) h.2⟩)
    later hkept store ⟨hsound, h⟩).2

/-- A record that has ended, in a store that was reached by archivable calls. -/
theorem run_settled_start (ops : List StoreOp) (hops : ∀ op ∈ ops, op.Archivable) {key : String}
    {checkpoint : Checkpoint} (hfound : (run exec ops {}).checkpoints[key]? = some checkpoint)
    (hterminal : checkpoint.terminalResult.isSome = true) :
    ∃ archived, (run exec ops {}).loadCheckpointHistory key = .ok archived ∧
      ((run exec ops {}).line key).Settled checkpoint (archived.cycles ++ checkpoint.cycles)
        (archived.modelCalls ++ checkpoint.modelCalls) ((run exec ops {}).hydratedResult key) := by
  have horder := run_inOrder ops hops key
  have hrecorded := run_recorded ops hops key
  have hsound := run_line_sound ops key
  rw [MemoryStore.hydratedResult_eq hfound]
  generalize run exec ops {} = store at hfound horder hrecorded hsound ⊢
  unfold MemoryStore.loadCheckpointHistory
  unfold MemoryStore.line at horder hrecorded hsound ⊢
  rw [hfound] at horder hrecorded hsound ⊢
  cases hsound with
  | present _ _ hfiled =>
      cases hrecorded with
      | present _ _ _ state h =>
          have hbefore : ∀ archived ∈ state.cycles, ∀ active ∈ checkpoint.cycles,
              archived.index < active.index := (List.pairwise_append.mp h.ordered).2.2
          refine ⟨⟨state.cycles, state.modelCalls, checkpoint.history⟩,
            decodeCheckpointHistory_of_decoded hfiled.sequence h.decoded h.frontier hbefore
              h.distinct, checkpoint, _, rfl, .refl hterminal, horder.ended checkpoint rfl hterminal,
            horder.calls checkpoint rfl, rfl, _, state, h, rfl, rfl⟩

theorem Line.Settled.loaded {store : MemoryStore} {key : String} {start : Checkpoint}
    {cycles : List CycleRecord} {calls : List ModelCallRecord}
    {hydrated : Option (CheckpointResult AgentResult)} (hsound : (store.line key).Sound)
    (h : (store.line key).Settled start cycles calls hydrated) :
    ∃ final archived, store.checkpoints[key]? = some final ∧ Finished start final ∧
      final.claimToken = none ∧ store.hydratedResult key = hydrated ∧
      store.loadCheckpointHistory key = .ok archived ∧
      archived.cycles ++ final.cycles = cycles ∧
      archived.modelCalls ++ final.modelCalls = calls := by
  obtain ⟨final, archive, hline, hfinished, _, _, hhydrated, _, state, h, hcycles, hcalls⟩ := h
  have hfound : store.checkpoints[key]? = some final := congrArg Line.record hline
  have harchive : store.archiveOf key = archive := congrArg Line.archive hline
  rw [hline] at hsound
  cases hsound with
  | present _ _ hfiled =>
      have hbefore : ∀ archived ∈ state.cycles, ∀ active ∈ final.cycles,
          archived.index < active.index := (List.pairwise_append.mp h.ordered).2.2
      have hload : store.loadCheckpointHistory key =
          .ok ⟨state.cycles, state.modelCalls, final.history⟩ := by
        unfold MemoryStore.loadCheckpointHistory
        rw [hfound, harchive]
        exact decodeCheckpointHistory_of_decoded hfiled.sequence h.decoded h.frontier hbefore
          h.distinct
      refine ⟨final, _, hfound, hfinished, (hfiled.valid.terminal hfinished.terminal).1, ?_, hload,
        hcycles, hcalls⟩
      rw [MemoryStore.hydratedResult_eq hfound, harchive]
      exact hhydrated

/-- After a run has ended, every operation but a deletion leaves its record as it was, up to
deliveries, the acknowledgement and the archive; the complete result stays the same. -/
theorem terminal_states_final (ops later : List StoreOp) (hops : ∀ op ∈ ops, op.Archivable)
    (key : String) (checkpoint : Checkpoint)
    (hfound : (run exec ops {}).checkpoints[key]? = some checkpoint)
    (hterminal : checkpoint.terminalResult.isSome = true)
    (hkept : ∀ op ∈ later, op ≠ .delete key) :
    ∃ final archived archived', (run exec (ops ++ later) {}).checkpoints[key]? = some final ∧
      Finished checkpoint final ∧ final.claimToken = none ∧
      (run exec (ops ++ later) {}).hydratedResult key = (run exec ops {}).hydratedResult key ∧
      (run exec ops {}).loadCheckpointHistory key = .ok archived ∧
      (run exec (ops ++ later) {}).loadCheckpointHistory key = .ok archived' ∧
      archived'.cycles ++ final.cycles = archived.cycles ++ checkpoint.cycles ∧
      archived'.modelCalls ++ final.modelCalls =
        archived.modelCalls ++ checkpoint.modelCalls := by
  obtain ⟨archived, hload, hstart⟩ := run_settled_start ops hops hfound hterminal
  have hsound := run_line_sound (ops ++ later) key
  rw [run_append] at hsound ⊢
  have hsettled := run_settled later hkept (run_linesSound ops) hstart
  obtain ⟨final, archived', hfinal, hfinished, hunclaimed, hhydrated, hload', hcycles, hcalls⟩ :=
    hsettled.loaded hsound
  exact ⟨final, archived, archived', hfinal, hfinished, hunclaimed, hhydrated, hload, hload',
    hcycles, hcalls⟩

end

namespace Sample

/-- The owner's snapshot in the middle of the second cycle. -/
def underWay (score : JsonNumber) : Checkpoint :=
  { claimedBy { firstCycle score with revision := 2 } 2 "worker-a" 4000 .continue with
    cycles := [searched 1 score, quiet 2] }

/-- A cancel command for the second claim, after its lease. -/
def lateCancel : ControllerCommand where
  schemaVersion := controllerCommandSchema
  commandId := "cancel-2"
  commandDigest := "b61168729b59623570d449b697f89c95b9e0b7282bbfe06dd00dce13ea6547b2"
  handle := handle
  resumeAttempt := 1
  expectedRevision := 4
  command := .cancel

def lateCancelDocuments : List Known :=
  [{ member := "command_id"
     text := "cancel-2"
     digest :=
       ⟨"b61168729b59623570d449b697f89c95b9e0b7282bbfe06dd00dce13ea6547b2", by decide⟩ },
    { member := "event_id"
      text := "controller-cancel-2-run_state_changed"
      digest :=
        ⟨"2e6d1468086b329f8dda69967dd5f44035a80d7b13a6e7aeebce281502a9d74c", by decide⟩ },
    { member := "event_id"
      text := "controller-cancel-2-run_cancelled"
      digest :=
        ⟨"df602adfdacc7be718f13365361f69c156a4d20c8c1de2224260a524f02c8bac", by decide⟩ }]

/-- A run that is cancelled in its second cycle, with both cycles in the record. -/
def cancelledRun (score : JsonNumber) : List StoreOp :=
  [.create created, .claim "checkpoint" 1 "worker-a" 2000 1000 .continue,
    .commit (firstCycle score) "worker-a" 1,
    .claim "checkpoint" 2 "worker-a" 4000 3000 .continue,
    .progress (underWay score) "worker-a" 3, .resolveCommand clock lateCancel 5000]

/-- The documents of that run and of the batch its acknowledgement archives. -/
def smallEnd : List Known := lateCancelDocuments ++ smallBatch

def largeEnd : List Known := lateCancelDocuments ++ largeBatch

theorem cancelledRun_archivable :
    ∀ op ∈ cancelledRun (.posInt 7), @StoreOp.Archivable (runtime smallEnd) op := by
  let _ : Runtime := runtime smallEnd
  intro op hop
  simp only [cancelledRun, List.mem_cons, List.not_mem_nil, or_false] at hop
  rcases hop with rfl | rfl | rfl | rfl | rfl | rfl
  · exact .of_none rfl
  · exact .of_none rfl
  · refine .of_commit (fun cycle hmem => ?_) fun record hmem => absurd hmem List.not_mem_nil
    rw [List.mem_singleton.mp hmem]
    exact searched_stable _
  · exact .of_none rfl
  · refine .of_progress (fun cycle hmem => ?_) fun record hmem => absurd hmem List.not_mem_nil
    rcases List.mem_cons.mp hmem with rfl | hmem
    · exact searched_stable _
    · rw [List.mem_singleton.mp hmem]
      exact quiet_stable _
  · exact .of_none rfl

end Sample

/-- The acknowledgement of the cancelled run archives its cycles; the result stays. -/
theorem terminal_states_final_cancelledRun :
    letI := Sample.runtime Sample.smallEnd
    (run exec (Sample.cancelledRun (.posInt 7) ++ [.acknowledge "checkpoint" 5])
        {}).hydratedResult "checkpoint" =
      (run exec (Sample.cancelledRun (.posInt 7)) {}).hydratedResult "checkpoint" := by
  let _ : Runtime := Sample.runtime Sample.smallEnd
  have hended : ((run exec (Sample.cancelledRun (.posInt 7)) {}).checkpoints["checkpoint"]?).any
      (·.terminalResult.isSome) = true := by decide +kernel
  obtain ⟨checkpoint, hfound, hended⟩ := (Option.any_eq_true _ _).mp hended
  obtain ⟨_, _, _, _, _, _, hsame, _⟩ := terminal_states_final (Sample.cancelledRun (.posInt 7))
    [.acknowledge "checkpoint" 5] Sample.cancelledRun_archivable "checkpoint" checkpoint hfound
    hended (by simp)
  exact hsame

/-- A result whose first cycle holds the double 1e17 cannot be read any more after its
acknowledgement. -/
theorem terminal_result_lost :
    letI := Sample.runtime Sample.largeEnd
    ((run exec (Sample.cancelledRun (.float 100000000000000000)) {}).hydratedResult
        "checkpoint").any (·.toBool) = true ∧
      (run exec (Sample.cancelledRun (.float 100000000000000000) ++
          [.acknowledge "checkpoint" 5]) {}).hydratedResult "checkpoint" =
        some (.error ⟨"checkpoint_definition_not_i_json",
          "checkpoint history.cycles[0].tool_results[0].metadata.score is outside the " ++
            "JSON-safe integer range"⟩) := by
  exact ⟨by decide +kernel, by decide +kernel⟩

end VvAgent
