import VvAgent.Distributed.Dispatch

/-!
Worker and driver look at the same checkpoint with two decision procedures. Here the answer of
a worker that did not execute a cycle is handed to the driver, with the checkpoint as the
worker saw it last: what the driver then decides, status by status and cycle by cycle.
-/

namespace VvAgent
open Lib Lib.Outcome

section
variable [Runtime]

/-- A store that a run of operations with JSON-safe times has left. -/
def MemoryStore.Reachable (store : MemoryStore) : Prop :=
  ∃ ops : List StoreOp, (∀ op ∈ ops, op.timesSafe) ∧ store = run exec ops {}

theorem MemoryStore.Reachable.valid {store : MemoryStore} (h : store.Reachable) {key : String}
    {checkpoint : Checkpoint} (hstored : store.loadCheckpoint key = some checkpoint) :
    validateCheckpoint checkpoint = .ok () := by
  obtain ⟨ops, htimes, rfl⟩ := h
  exact checkpoints_valid ops htimes key checkpoint hstored

/-- What an answer without execution says about the record it was read from. -/
inductive WorkerAnswered (envelope : DistributedRunEnvelope) (store : MemoryStore)
    (checkpoint : Checkpoint) : CycleDispatchResult → Prop
  | pending (hgoing : checkpoint.terminalResult = none) :
      WorkerAnswered envelope store checkpoint .pending
  | committed (hgoing : checkpoint.terminalResult = none)
      (hbehind : envelope.cycleIndex.toNat ≤ checkpoint.cycleIndex)
      (hfree : checkpoint.claimToken = none)
      (hwire : (CycleDispatchResult.committed checkpoint.revision
        checkpoint.cycleIndex).validate = .ok ()) :
      WorkerAnswered envelope store checkpoint (.committed checkpoint.revision checkpoint.cycleIndex)
  | replayed (terminal : TerminalValue) (read result : AgentResult)
      (hended : checkpoint.terminalResult = some terminal) (hread : terminal.read = .ok read)
      (hresult : hydrateStored store checkpoint
        { read with checkpointKey := some checkpoint.checkpointKey } = .ok result)
      (hwire : (CycleDispatchResult.terminalReplay checkpoint.revision result).validate =
        .ok ()) :
      WorkerAnswered envelope store checkpoint (.terminalReplay checkpoint.revision result)

omit [Runtime] in
theorem CycleDispatchResult.checked_eq_ok (response checked : CycleDispatchResult) :
    response.checked = .ok checked ↔ response.validate = .ok () ∧ checked = response := by
  simp only [CycleDispatchResult.checked, unit_guard_bind, pure_ok, Except.ok.injEq]
  exact and_congr_right fun _ => eq_comm

/-- A valid record in a waiting status, or under a claim, has not ended. -/
theorem going_of_waiting {checkpoint : Checkpoint} (hvalid : validateCheckpoint checkpoint = .ok ())
    (h : checkpoint.status.isTerminal = false ∨ checkpoint.leaseExpiresAtMs.isSome = true) :
    checkpoint.terminalResult = none := by
  have hparts := (validateCheckpoint_eq_ok checkpoint).mp hvalid
  have hterminal := hparts.2.2.2.2.1
  simp only [validateTerminalStatus, unit_guard_bind, refuse_eq_ok] at hterminal
  obtain ⟨hclaim, _, _, hstatus⟩ := hterminal
  rcases h with hwaiting | hlease
  · simpa [hwaiting] using hstatus
  · rcases validateClaim_cases hparts.2.2.2.1 with ⟨_, _, hnone⟩ | ⟨token, _, htoken, _, _, _⟩
    · rw [hnone] at hlease
      cases hlease
    · simpa [htoken] using hclaim

omit [Runtime] in
theorem loadForWorker_eq_ok {store : MemoryStore} {key : String} {checkpoint : Checkpoint} :
    loadForWorker store key = .ok checkpoint ↔ store.loadCheckpoint key = some checkpoint := by
  simp [loadForWorker]

theorem replayEnded_answered {store : MemoryStore} (envelope : DistributedRunEnvelope)
    {key : String} {answer : WorkerAnswer} (h : replayEnded store key = .ok answer) :
    answer.observed = store ∧
      ∀ checkpoint, store.loadCheckpoint key = some checkpoint →
        WorkerAnswered envelope store checkpoint answer.response := by
  simp only [replayEnded, bind_eq_ok, loadForWorker_eq_ok, require_eq_ok,
    CycleDispatchResult.checked_eq_ok, pure_ok, Except.ok.injEq] at h
  obtain ⟨loaded, hloaded, terminal, hended, read, hread, result, hresult, response,
    ⟨hwire, rfl⟩, rfl⟩ := h
  refine ⟨rfl, fun checkpoint hstored => ?_⟩
  obtain rfl : loaded = checkpoint := Option.some.inj (hloaded.symm.trans hstored)
  have hsame : terminal.read = .ok read := by
    cases hvalue : terminal.read with
    | ok value =>
        rw [hvalue] at hread
        exact hread
    | error error =>
        rw [hvalue] at hread
        cases hread
  exact .replayed terminal read result hended hsame hresult hwire

theorem answerEarly_answered {envelope : DistributedRunEnvelope} {view : WorkerView}
    {checkpoint : Checkpoint} {answer : WorkerAnswer}
    (hvalid : validateCheckpoint checkpoint = .ok ())
    (h : answerEarly envelope view checkpoint = .ok (some answer)) :
    answer.observed = view.loaded ∧ WorkerAnswered envelope view.loaded checkpoint answer.response := by
  unfold answerEarly at h
  by_cases hwaiting : checkpoint.status = .deferred ∨ checkpoint.status = .hostInteraction
  · rw [if_pos hwaiting, Except.ok.injEq, Option.some.injEq] at h
    subst h
    refine ⟨rfl, .pending (going_of_waiting hvalid (.inl ?_))⟩
    rcases hwaiting with h | h
    · rw [h]
      rfl
    · rw [h]
      rfl
  · rw [if_neg hwaiting] at h
    by_cases hcommitted : checkpoint.terminalResult.isNone = true ∧
        envelope.cycleIndex.toNat ≤ checkpoint.cycleIndex ∧ checkpoint.claimToken.isNone = true
    · rw [if_pos hcommitted] at h
      simp only [bind_eq_ok, CycleDispatchResult.checked_eq_ok, pure_ok, Except.ok.injEq,
        Option.some.injEq] at h
      obtain ⟨_, ⟨hwire, rfl⟩, rfl⟩ := h
      obtain ⟨hgoing, hbehind, hfree⟩ := hcommitted
      exact ⟨rfl, .committed (Option.isNone_iff_eq_none.mp hgoing) hbehind
        (Option.isNone_iff_eq_none.mp hfree) hwire⟩
    · rw [if_neg hcommitted] at h
      by_cases hleased : (checkpoint.leaseExpiresAtMs.any (view.nowMs < ·)) = true
      · rw [if_pos hleased, Except.ok.injEq, Option.some.injEq] at h
        subst h
        refine ⟨rfl, .pending (going_of_waiting hvalid (.inr ?_))⟩
        cases hlease : checkpoint.leaseExpiresAtMs with
        | none => simp [hlease] at hleased
        | some lease => rfl
      · rw [if_neg hleased] at h
        cases h

omit [Runtime] in
/-- After the wakes the worker holds the record it came with, or the one it loaded again. -/
theorem consumeControllerWakes_loaded {view : WorkerView} {checkpoint : Checkpoint}
    {recovers : Bool} {recovered : Recovered} {key : String}
    (hloaded : view.loaded.loadCheckpoint key = some checkpoint)
    (hkey : checkpoint.checkpointKey = key)
    (h : consumeControllerWakes view checkpoint recovers = .ok recovered) :
    recovered.observed.loadCheckpoint key = some recovered.checkpoint := by
  unfold consumeControllerWakes at h
  by_cases hkept : (!recovers || decide (checkpoint.status ≠ .running) ||
      checkpoint.claimToken.isSome) = true
  · rw [if_pos hkept, Except.ok.injEq] at h
    subst h
    exact hloaded
  · rw [if_neg hkept] at h
    simp only [bind_eq_ok, loadForWorker_eq_ok, pure_ok, Except.ok.injEq] at h
    obtain ⟨current, hcurrent, rfl⟩ := h
    rw [hkey] at hcurrent
    exact hcurrent

/-- The native runtime answers `pending` when it finds the lease taken. -/
theorem runAgentRuntimeCycle_answered {envelope : DistributedRunEnvelope}
    {delivery : DistributedDeliveryMetadata} {view : WorkerView} {checkpoint : Checkpoint}
    {answer : WorkerAnswer} {key : String}
    (hloaded : view.loaded.loadCheckpoint key = some checkpoint)
    (hkey : checkpoint.checkpointKey = key)
    (h : runAgentRuntimeCycle envelope delivery view checkpoint = .ok (some answer))
    (hreached : answer.observed.Reachable) (seen : Checkpoint)
    (hseen : answer.observed.loadCheckpoint key = some seen) :
    WorkerAnswered envelope answer.observed seen answer.response := by
  simp only [runAgentRuntimeCycle, bind_eq_ok] at h
  obtain ⟨recovered, hrecovered, h⟩ := h
  have hcurrent := consumeControllerWakes_loaded hloaded hkey hrecovered
  by_cases howns : recovered.owns = true
  · rw [if_pos howns] at h
    cases h
  · rw [if_neg howns] at h
    by_cases hleased : (recovered.checkpoint.leaseExpiresAtMs.any (view.runtimeNowMs < ·)) = true
    · rw [if_pos hleased] at h
      simp only [pure_ok, Except.ok.injEq, Option.some.injEq] at h
      subst h
      obtain rfl : recovered.checkpoint = seen := Option.some.inj (hcurrent.symm.trans hseen)
      refine .pending (going_of_waiting (hreached.valid hseen) (.inr ?_))
      cases hlease : recovered.checkpoint.leaseExpiresAtMs with
      | none => simp [hlease] at hleased
      | some lease => rfl
    · rw [if_neg hleased] at h
      cases h

/-- The worker with the host's executor answers when its claim is not granted. -/
theorem answerUnclaimed_answered {envelope : DistributedRunEnvelope} {view : WorkerView}
    {answer : WorkerAnswer} (h : answerUnclaimed envelope view = .ok answer) (seen : Checkpoint)
    (hseen : answer.observed.loadCheckpoint envelope.checkpointConfig.key = some seen) :
    WorkerAnswered envelope answer.observed seen answer.response := by
  simp only [answerUnclaimed, bind_eq_ok, loadForWorker_eq_ok] at h
  obtain ⟨latest, hlatest, _, _, h⟩ := h
  by_cases hended : latest.terminalResult.isSome = true
  · rw [if_pos hended] at h
    obtain ⟨hobserved, hanswered⟩ := replayEnded_answered envelope h
    rw [hobserved] at hseen ⊢
    exact hanswered seen hseen
  · simp only [if_neg hended, pure_ok, Except.ok.injEq] at h
    subst h
    obtain rfl : latest = seen := Option.some.inj (hlatest.symm.trans hseen)
    exact .pending (by simpa using hended)

omit [Runtime] in
theorem map_some_eq_ok {α : Type} {x : DistributedResult α} {a : α}
    (h : some <$> x = .ok (some a)) : x = .ok a := by
  cases x with
  | ok b =>
      obtain rfl : b = a := Option.some.inj (Except.ok.inj h)
      rfl
  | error error => cases h

theorem runWithExecutor_answered {envelope : DistributedRunEnvelope}
    {delivery : DistributedDeliveryMetadata} {view : WorkerView} {checkpoint : Checkpoint}
    {answer : WorkerAnswer}
    (h : runWithExecutor envelope delivery view checkpoint = .ok (some answer)) :
    answerUnclaimed envelope view = .ok answer := by
  simp only [runWithExecutor, bind_eq_ok] at h
  obtain ⟨recovered, _, h⟩ := h
  by_cases howns : recovered.owns = true
  · simp only [if_pos howns, bind_eq_ok, pure_ok, Except.ok.injEq] at h
    obtain ⟨_, _, _, _, hnone⟩ := h
    cases hnone
  · simp only [if_neg howns, bind_eq_ok] at h
    obtain ⟨lease, _, claim, _, h⟩ := h
    by_cases hclaim : claim.isSome = true
    · rw [if_pos hclaim] at h
      cases h
    · rw [if_neg hclaim] at h
      exact map_some_eq_ok h

/-- Every answer without execution is one about the record it was read from. -/
theorem runCycleWithDelivery_answered {worker : DistributedCycleWorker}
    {envelope : DistributedRunEnvelope} {delivery : DistributedDeliveryMetadata}
    {view : WorkerView} {answer : WorkerAnswer}
    (h : worker.runCycleWithDelivery envelope delivery view = .ok (some answer))
    (hreached : answer.observed.Reachable) (seen : Checkpoint)
    (hseen : answer.observed.loadCheckpoint envelope.checkpointConfig.key = some seen) :
    envelope.validate = .ok () ∧ envelope.recipe.brokersApprovals = false ∧
      WorkerAnswered envelope answer.observed seen answer.response := by
  simp only [DistributedCycleWorker.runCycleWithDelivery, bind_eq_ok, refuse_eq_ok, exists_const,
    loadForWorker_eq_ok] at h
  obtain ⟨_, henvelope, hbroker, _, _, _, _, _, checkpoint, hloaded, _, hidentity, _, _, early,
    hearly, h⟩ := h
  refine ⟨henvelope, hbroker, ?_⟩
  simp only [validateEnvelopeCheckpointIdentity, bind_eq_ok, reported_eq_ok, refuse_eq_ok,
    exists_const, Bool.or_eq_false_iff, bne_eq_false_iff_eq] at hidentity
  obtain ⟨_, hvalid, _, _, _, ⟨hkey, _⟩, _⟩ := hidentity
  cases early with
  | some answered =>
      simp only [pure_ok, Except.ok.injEq, Option.some.injEq] at h
      subst h
      obtain ⟨hobserved, hanswered⟩ := answerEarly_answered hvalid hearly
      rw [hobserved] at hseen ⊢
      obtain rfl : checkpoint = seen := Option.some.inj (hloaded.symm.trans hseen)
      exact hanswered
  | none =>
      simp only [bind_eq_ok] at h
      obtain ⟨_, _, _, _, h⟩ := h
      by_cases hended : checkpoint.terminalResult.isSome = true
      · rw [if_pos hended] at h
        obtain ⟨hobserved, hanswered⟩ := replayEnded_answered envelope (map_some_eq_ok h)
        rw [hobserved] at hseen ⊢
        exact hanswered seen hseen
      · rw [if_neg hended] at h
        by_cases hexecutor : worker.hasExecutor = true
        · rw [if_pos hexecutor] at h
          exact answerUnclaimed_answered (runWithExecutor_answered h) seen hseen
        · rw [if_neg hexecutor] at h
          exact runAgentRuntimeCycle_answered hloaded hkey h hreached seen hseen

omit [Runtime] in
theorem trimMetadataWhitespace_again (value : String) :
    trimMetadataWhitespace (trimMetadataWhitespace value) = trimMetadataWhitespace value := by
  obtain ⟨blank, hshape⟩ : ∃ blank : Char → Bool, ∀ text : String,
      (trimMetadataWhitespace text).toList =
        List.rdropWhile blank (text.toList.dropWhile blank) :=
    ⟨_, fun text => by simp only [trimMetadataWhitespace, String.toList_ofList]; rfl⟩
  apply String.toList_inj.mp
  rw [hshape, hshape,
    dropWhile_of_prefix (List.rdropWhile_prefix _ _) (List.dropWhile_idempotent _ _),
    List.rdropWhile_idempotent]

omit [Runtime] in
theorem dedupNeighbours_sublist {α : Type} [DecidableEq α] (l : List α) :
    (dedupNeighbours l).Sublist l := by
  fun_induction dedupNeighbours l with
  | case1 second rest ih => exact ih.cons _
  | case2 first second rest _ ih => exact ih.cons_cons _
  | case3 short => exact List.Sublist.refl _

omit [Runtime] in
/-- Normal labels can be normalized again. -/
theorem normalizeToolMetadataLabels_again {values labels : List String} {fieldName : String}
    (h : normalizeToolMetadataLabels values fieldName = .ok labels) :
    ∃ again, normalizeToolMetadataLabels labels fieldName = .ok again := by
  simp only [normalizeToolMetadataLabels, unit_guard_bind, checkAll_eq_ok, refuse_eq_ok, pure_ok,
    Except.ok.injEq, decide_eq_false_iff_not, not_lt] at h ⊢
  obtain ⟨hlabels, hcount, rfl⟩ := h
  have hmem : ∀ label ∈ dedupNeighbours ((values.map trimMetadataWhitespace).mergeSort utf16Le),
      label ∈ values.map trimMetadataWhitespace := by
    intro label hlabel
    exact List.mem_mergeSort.mp ((dedupNeighbours_sublist _).subset hlabel)
  have htrimmed : (dedupNeighbours ((values.map trimMetadataWhitespace).mergeSort utf16Le)).map
      trimMetadataWhitespace =
        dedupNeighbours ((values.map trimMetadataWhitespace).mergeSort utf16Le) := by
    conv_rhs => rw [← List.map_id (dedupNeighbours _)]
    refine List.map_congr_left fun label hlabel => ?_
    obtain ⟨value, _, rfl⟩ := List.mem_map.mp (hmem label hlabel)
    exact trimMetadataWhitespace_again value
  rw [htrimmed]
  refine ⟨_, fun label hlabel => hlabels label (hmem label hlabel), ?_, rfl⟩
  calc
    (dedupNeighbours (List.mergeSort _ utf16Le)).length ≤ (List.mergeSort _ utf16Le).length :=
      (dedupNeighbours_sublist _).length_le
    _ = _ := List.length_mergeSort _
    _ ≤ maxToolMetadataLabels := hcount

omit [Runtime] in
theorem MetadataDenials.normalized_again {denials : MetadataDenials} :
    Yields denials.normalized fun normal => ∃ again, normal.normalized = .ok again := by
  intro normal h
  simp only [MetadataDenials.normalized, bind_eq_ok, pure_ok, Except.ok.injEq] at h ⊢
  obtain ⟨tags, htags, dimensions, hdimensions, rfl⟩ := h
  obtain ⟨tags', htags'⟩ := normalizeToolMetadataLabels_again htags
  obtain ⟨dimensions', hdimensions'⟩ := normalizeToolMetadataLabels_again hdimensions
  exact ⟨_, tags', htags', dimensions', hdimensions', rfl⟩

omit [Runtime] in
/-- Whatever the metadata of a task holds, what is read from it was normalized. -/
theorem projectedMetadataDenials_yields {P : MetadataDenials → Prop}
    (h : ∀ raw : MetadataDenials, Yields raw.normalized P) (task : AgentTask) :
    Yields (projectedMetadataDenials task) P := by
  have hend : ∀ sideEffects (value : DistributedResult Bool) tags,
      Yields (do
        let denyTerminalTools ← value
        let deniedCostDimensions ← projectedStringList task "_vv_agent_denied_cost_dimensions"
        MetadataDenials.normalized
          { deniedSideEffects := sideEffects, deniedCapabilityTags := tags, denyTerminalTools,
            deniedCostDimensions }) P := by
    intro sideEffects value tags
    exact .bind fun _ _ => .bind fun _ _ => h _
  unfold projectedMetadataDenials
  cases task.metadata.lookup "_vv_agent_denied_side_effects" with
  | none =>
      refine .bind fun sideEffects _ => .bind fun tags _ => ?_
      cases task.metadata.lookup "_vv_agent_deny_terminal_tools" with
      | none => exact hend sideEffects _ tags
      | some value => cases value <;> exact hend sideEffects _ tags
  | some value =>
      refine .bind fun sideEffects _ => .bind fun tags _ => ?_
      cases task.metadata.lookup "_vv_agent_deny_terminal_tools" with
      | none => exact hend sideEffects _ tags
      | some value => cases value <;> exact hend sideEffects _ tags

omit [Runtime] in
/-- What the metadata of a task projects to is normal. -/
theorem projectedMetadataDenials_normalized (task : AgentTask) :
    Yields (projectedMetadataDenials task) fun denials =>
      ∃ again, denials.normalized = .ok again :=
  projectedMetadataDenials_yields (fun _ => MetadataDenials.normalized_again) task

omit [Runtime] in
theorem isBlank_append {left : String} (right : String) (h : isBlank left = false) :
    isBlank (left ++ right) = false := by
  simp only [isBlank, String.toList_append, List.all_append] at h ⊢
  rw [h, Bool.false_and]

omit [Runtime] in
theorem RuntimeRecipe.validate_setMetadataDenials {recipe : RuntimeRecipe}
    {denials again : MetadataDenials} (h : recipe.validate = .ok ())
    (hnormal : denials.normalized = .ok again) :
    (recipe.setMetadataDenials denials).validate = .ok () := by
  simp only [RuntimeRecipe.validate, unit_guard_bind] at h ⊢
  obtain ⟨hsettings, htexts, htimeout, hcapabilities⟩ := h
  refine ⟨hsettings, htexts, htimeout, ?_⟩
  simp only [DistributedCapabilities.validate, unit_guard_bind] at hcapabilities ⊢
  obtain ⟨htoolset, hpolicy, hrest⟩ := hcapabilities
  refine ⟨htoolset, ?_, hrest⟩
  simp only [DistributedToolPolicy.validate, unit_guard_bind] at hpolicy ⊢
  obtain ⟨happroval, hallowed, hdisallowed, hpredicate, _⟩ := hpolicy
  refine ⟨happroval, hallowed, hdisallowed, hpredicate, ?_⟩
  simp only [RuntimeRecipe.setMetadataDenials, hnormal, ok_bind, pure_ok]

/-- A backend that is set up for the run of an envelope: a valid recipe without brokered
approvals, and the store under the reference of the envelope. -/
structure DistributedBackend.Serves (backend : DistributedBackend)
    (envelope : DistributedRunEnvelope) : Prop where
  recipe : backend.validateNonblockingRecipe = .ok ()
  store : ∃ registered reference, backend.capabilityRegistry = some registered ∧
    envelope.recipe.capabilities.checkpointStoreRef = some reference ∧
    registered.contains reference = true

omit [Runtime] in
theorem DistributedBackend.Serves.admits {backend : DistributedBackend}
    {envelope : DistributedRunEnvelope} (h : backend.Serves envelope)
    {response : CycleDispatchResult} (henvelope : envelope.validate = .ok ())
    (hbroker : envelope.recipe.brokersApprovals = false) (hresponse : response.validate = .ok ()) :
    backend.admitOutcome envelope (.worker response) = .ok () := by
  obtain ⟨registered, reference, hregistry, hreference, hcontains⟩ := h.store
  simp only [DistributedBackend.admitOutcome, h.recipe, henvelope, hbroker, hresponse, hregistry,
    hreference, hcontains, ok_bind, refuse_false, require_some, Bool.not_true]

omit [Runtime] in
theorem WorkerAnswered.response_valid [Runtime] {envelope : DistributedRunEnvelope}
    {store : MemoryStore} {checkpoint : Checkpoint} {response : CycleDispatchResult}
    (h : WorkerAnswered envelope store checkpoint response) : response.validate = .ok () := by
  cases h with
  | pending => rfl
  | committed _ _ _ hwire => exact hwire
  | replayed _ _ _ _ _ _ hwire => exact hwire

/-- A run that is neither over nor waiting for anybody. -/
def Checkpoint.underWay (checkpoint : Checkpoint) : Prop :=
  checkpoint.terminalResult = none ∧ barrierOf checkpoint.status = none ∧
    checkpoint.status ≠ .reconciliationRequired

namespace DistributedBackend

/-- The driver looks at an open run with what the worker said about it. -/
theorem judge_open {backend : DistributedBackend} {store : MemoryStore} (nowMs : Nat)
    {envelope : DistributedRunEnvelope} {response : CycleDispatchResult} {checkpoint : Checkpoint}
    (hadmits : backend.admitOutcome envelope (.worker response) = .ok ())
    (hstored : store.loadCheckpoint envelope.checkpointConfig.key = some checkpoint)
    (hrun : validateCheckpointIdentity envelope checkpoint = .ok ())
    (hgoing : checkpoint.terminalResult = none)
    (hopen : ∀ revision result, response ≠ .terminalReplay revision result) :
    backend.judge store nowMs envelope (.worker response) =
      (judgeOpen envelope checkpoint (some response) nowMs).map (checkpoint, ·) := by
  simp only [judge, hadmits, hstored, hrun, hgoing, ok_bind, require_some,
    DistributedDeliveryOutcome.response]
  cases response with
  | terminalReplay revision result => exact absurd rfl (hopen revision result)
  | pending => rfl
  | committed _ _ => rfl
  | terminalCandidate _ _ => rfl

end DistributedBackend

/-- What a worker says about an open run is `pending`, or `committed` for the cycle the
checkpoint stands at. -/
theorem WorkerAnswered.open_ {envelope : DistributedRunEnvelope} {store : MemoryStore}
    {checkpoint : Checkpoint} {response : CycleDispatchResult}
    (h : WorkerAnswered envelope store checkpoint response)
    (hgoing : checkpoint.terminalResult = none) :
    response = .pending ∨
      response = .committed checkpoint.revision checkpoint.cycleIndex ∧
        envelope.cycleIndex.toNat ≤ checkpoint.cycleIndex ∧ checkpoint.claimToken = none := by
  cases h with
  | pending => exact .inl rfl
  | committed _ hbehind hfree => exact .inr ⟨rfl, hbehind, hfree⟩
  | replayed terminal _ _ hended =>
      rw [hgoing] at hended
      cases hended

/-- The record of a terminal result that carries its key: the worker that adds the key and the
driver that does not read the same result. -/
theorem replayTerminal_agrees {envelope : DistributedRunEnvelope} {store : MemoryStore}
    {checkpoint : Checkpoint} {response : CycleDispatchResult} {terminal : TerminalValue}
    {read : AgentResult} (h : WorkerAnswered envelope store checkpoint response)
    (hvalid : validateCheckpoint checkpoint = .ok ())
    (hended : checkpoint.terminalResult = some terminal) (hread : terminal.read = .ok read)
    (hkeyed : read.checkpointKey.isSome = true) :
    ∃ result, response = .terminalReplay checkpoint.revision result ∧
      hydrateStored store checkpoint read = .ok result ∧
      replayTerminal store checkpoint (some response) terminal =
        .ok (.terminalReplay (.fromCheckpoint checkpoint) checkpoint.revision result) := by
  cases h with
  | pending hgoing =>
      rw [hgoing] at hended
      cases hended
  | committed hgoing =>
      rw [hgoing] at hended
      cases hended
  | replayed other readAgain result hother hreadAgain hresult _ =>
      obtain rfl : terminal = other := Option.some.inj (hended.symm.trans hother)
      obtain rfl : read = readAgain := Except.ok.inj (hread.symm.trans hreadAgain)
      have hchecked := ((validateCheckpoint_eq_ok checkpoint).mp hvalid).2.2.2.2.2.2.2.2.2.2.2.2
      have hkey : read.checkpointKey = some checkpoint.checkpointKey := by
        simp only [validateTerminalResult, hended, hread, withContext, bind_eq_ok, refuse_eq_ok,
          exists_const, Except.mapError] at hchecked
        obtain ⟨_, _, value, hvalue, _, hsame, _⟩ := hchecked
        obtain rfl := Except.ok.inj hvalue
        obtain ⟨key, hkey⟩ := Option.isSome_iff_exists.mp hkeyed
        rw [hkey, Option.any_some, bne_eq_false_iff_eq] at hsame
        rw [hkey, hsame]
      have hsame : ({ read with checkpointKey := some checkpoint.checkpointKey } : AgentResult) =
          read := by
        rw [← hkey]
      rw [hsame] at hresult
      refine ⟨result, rfl, hresult, ?_⟩
      simp only [replayTerminal, hread, hresult, Except.mapError, ok_bind, bne_self_eq_false,
        Bool.or_self, refuse_false, pure_ok]

omit [Runtime] in
/-- A barrier is judged without a look at the response. -/
theorem judgeOpen_barrier {envelope : DistributedRunEnvelope} {checkpoint : Checkpoint}
    {response : Option CycleDispatchResult} {nowMs : Nat} {reason : DistributedWaitReason}
    {conflict : String} (hfree : checkpoint.claimToken = none)
    (hbarrier : barrierOf checkpoint.status = some (reason, conflict)) :
    judgeOpen envelope checkpoint response nowMs =
      .ok (.decided (.wait (.fromCheckpoint checkpoint) reason)) := by
  simp only [judgeOpen, hbarrier, hfree, Option.isSome_none, refuse_false, ok_bind, pure_ok]

/-- Nobody holds a run that waits for somebody else. -/
theorem free_of_barrier {checkpoint : Checkpoint} (hvalid : validateCheckpoint checkpoint = .ok ())
    {reason : DistributedWaitReason} {conflict : String}
    (hbarrier : barrierOf checkpoint.status = some (reason, conflict)) :
    checkpoint.claimToken = none := by
  obtain ⟨_, _, _, _, _, hinteraction, _, _, _, _, _, hlifecycle, _⟩ :=
    (validateCheckpoint_eq_ok checkpoint).mp hvalid
  simp only [validateInteraction, unit_guard_bind] at hinteraction
  simp only [validateLifecycle, unit_guard_bind, refuse_eq_ok] at hlifecycle
  have hwaiting := hinteraction.2.2
  have hdeferred := hlifecycle.2.1
  cases hstatus : checkpoint.status with
  | hostInteraction =>
      simp only [validateWaitingStatus, hstatus, refuse_eq_ok, Bool.or_eq_false_iff] at hwaiting
      simpa using hwaiting.2
  | suspended =>
      simp only [validateWaitingStatus, hstatus, refuse_eq_ok, Bool.or_eq_false_iff] at hwaiting
      simpa using hwaiting.2
  | deferred =>
      simp only [hstatus, decide_true, Bool.true_and, Bool.or_eq_false_iff] at hdeferred
      simpa using hdeferred.2
  | _ => simp [hstatus, barrierOf] at hbarrier

omit [Runtime] in
/-- A worker's answer about a cycle that has been overtaken, where the worker did not say
`committed`. -/
theorem judgeRunning_superseded {envelope : DistributedRunEnvelope} {checkpoint : Checkpoint}
    {nowMs : Nat} (hlate : supersedes checkpoint envelope.cycleIndex.toNat = true) :
    judgeRunning envelope checkpoint (some .pending) nowMs =
      .ok (.decided (.wait (.fromCheckpoint checkpoint) .supersededDelivery)) := by
  simp only [judgeRunning, checkCommitted, hlate, ok_bind, if_true, pure_ok]

/-- The cycle after the last committed one, or the end of a run that has had all its cycles. -/
def nextPlan (envelope : DistributedRunEnvelope) (checkpoint : Checkpoint) (nowMs : Nat) :
    AdvancePlan :=
  if envelope.task.maxCycles.toNat < checkpoint.cycleIndex + 1 then
    .finalize (maxCyclesResult checkpoint)
  else
    .dispatch (checkpoint.cycleIndex + 1)
      (if checkpoint.claimToken.isSome ∨ checkpoint.cycleIndex < envelope.cycleIndex.toNat then
        .recovery else .continue)
      (checkpoint.leaseExpiresAtMs.filter (nowMs < ·))

omit [Runtime] in
/-- A delivery that is neither overtaken nor ahead leads to the next cycle. -/
theorem nextDispatch_current {checkpoint : Checkpoint} {previousCycle : Nat} (nowMs : Nat)
    (hclaim : validateClaim checkpoint = .ok ()) (hsmall : checkpoint.cycleIndex ≤ maxWireInteger)
    (hcurrent : supersedes checkpoint previousCycle = false)
    (hnear : checkpoint.claimToken.isSome = true ∨ previousCycle ≤ checkpoint.cycleIndex + 1) :
    nextDispatch checkpoint previousCycle nowMs =
      .ok (checkpoint.cycleIndex + 1,
        if checkpoint.claimToken.isSome ∨ checkpoint.cycleIndex < previousCycle then .recovery
          else .continue,
        checkpoint.leaseExpiresAtMs.filter (nowMs < ·)) := by
  have hadd : checkedAdd checkpoint.cycleIndex 1 = some (checkpoint.cycleIndex + 1) := by
    have hwire : maxWireInteger + 1 < UInt64.size := by decide
    exact if_pos (by omega)
  unfold nextDispatch
  rcases validateClaim_cases hclaim with ⟨htoken, hcycle, hlease⟩ | ⟨token, lease, htoken, hcycle, hlease, _⟩
  · simp only [supersedes, hcycle, Option.any_none, Bool.or_false, decide_eq_false_iff_not,
      not_lt] at hcurrent
    simp only [htoken, Option.isSome_none, Bool.false_eq_true, false_or, if_false, hlease,
      Option.filter_none] at hnear ⊢
    by_cases hsame : checkpoint.cycleIndex = previousCycle
    · simp only [hsame, if_true, lt_irrefl, if_false] at hadd ⊢
      simp only [hadd, require_some, ok_bind, pure_ok]
    · have hnext : previousCycle = checkpoint.cycleIndex + 1 := by omega
      rw [if_neg hsame, hadd, hnext]
      simp only [if_true, Nat.lt_succ_self, pure_ok]
  · simp only [htoken, Option.isSome_some, if_true, hcycle, require_some, ok_bind, true_or,
      pure_ok]

omit [Runtime] in
/-- An unclaimed run that is more than one cycle behind the delivery. -/
theorem nextDispatch_ahead {checkpoint : Checkpoint} {previousCycle nowMs : Nat}
    (hfree : checkpoint.claimToken = none) (hahead : checkpoint.cycleIndex + 1 < previousCycle) :
    nextDispatch checkpoint previousCycle nowMs =
      .error "distributed delivery is out of order with the checkpoint" := by
  have hnext : checkedAdd checkpoint.cycleIndex 1 ≠ some previousCycle := by
    intro h
    unfold checkedAdd at h
    by_cases hfits : checkpoint.cycleIndex + 1 < UInt64.size
    · rw [if_pos hfits] at h
      have := Option.some.inj h
      omega
    · rw [if_neg hfits] at h
      cases h
  have hother : checkpoint.cycleIndex ≠ previousCycle := by omega
  simp only [nextDispatch, hfree, Option.isSome_none, Bool.false_eq_true, if_false,
    if_neg hother, if_neg hnext]

/-- What the driver makes of an answer about a run that is under way and has not left the
delivery behind. -/
theorem judgeRunning_current {envelope : DistributedRunEnvelope} {store : MemoryStore}
    {checkpoint : Checkpoint} {response : CycleDispatchResult} {nowMs : Nat}
    (h : WorkerAnswered envelope store checkpoint response)
    (hvalid : validateCheckpoint checkpoint = .ok ()) (hgoing : checkpoint.terminalResult = none)
    (hcurrent : supersedes checkpoint envelope.cycleIndex.toNat = false)
    (hnear : checkpoint.claimToken.isSome = true ∨
      envelope.cycleIndex.toNat ≤ checkpoint.cycleIndex + 1) :
    judgeRunning envelope checkpoint (some response) nowMs =
      .ok (nextPlan envelope checkpoint nowMs) := by
  obtain ⟨_, _, hidentity, hclaim, _⟩ := (validateCheckpoint_eq_ok checkpoint).mp hvalid
  simp only [validateIdentity, unit_guard_bind, refuse_eq_ok, Bool.or_eq_false_iff,
    decide_eq_false_iff_not, not_lt] at hidentity
  have hnext := nextDispatch_current nowMs hclaim hidentity.2.2.2.2.2.1 hcurrent hnear
  have hresponse : checkCommitted envelope checkpoint (some response) = .ok () ∧
      checkCommittedRevision checkpoint (some response) = .ok () := by
    rcases h.open_ hgoing with rfl | ⟨rfl, hbehind, _⟩
    · exact ⟨rfl, rfl⟩
    · have hcycle : checkpoint.cycleIndex = envelope.cycleIndex.toNat := by
        simp only [supersedes, Bool.or_eq_false_iff, decide_eq_false_iff_not, not_lt] at hcurrent
        omega
      simp [checkCommitted, checkCommittedRevision, hcycle]
  simp only [judgeRunning, hresponse.1, hresponse.2, hcurrent, hnext, ok_bind, Bool.false_eq_true,
    if_false, nextPlan]
  by_cases hmax : envelope.task.maxCycles.toNat < checkpoint.cycleIndex + 1
  · rw [if_pos hmax, if_pos hmax, pure_ok]
  · rw [if_neg hmax, if_neg hmax, pure_ok]

omit [Runtime] in
/-- A delivery more than one cycle ahead of an unclaimed run is refused. -/
theorem judgeRunning_ahead {envelope : DistributedRunEnvelope} {checkpoint : Checkpoint}
    {nowMs : Nat} (hclaim : validateClaim checkpoint = .ok ())
    (hfree : checkpoint.claimToken = none)
    (hahead : checkpoint.cycleIndex + 1 < envelope.cycleIndex.toNat) :
    judgeRunning envelope checkpoint (some .pending) nowMs =
      .error "distributed delivery is out of order with the checkpoint" := by
  have hcycle : checkpoint.claimedCycle = none := by
    rcases validateClaim_cases hclaim with ⟨_, hcycle, _⟩ | ⟨token, _, htoken, _⟩
    · exact hcycle
    · rw [hfree] at htoken
      cases htoken
  have hcurrent : supersedes checkpoint envelope.cycleIndex.toNat = false := by
    simp only [supersedes, hcycle, Option.any_none, Bool.or_false, decide_eq_false_iff_not]
    omega
  simp only [judgeRunning, checkCommitted, checkCommittedRevision, hcurrent, ok_bind,
    Bool.false_eq_true, if_false, nextDispatch_ahead hfree hahead]
  rfl

omit [Runtime] in
theorem judgeOpen_running {envelope : DistributedRunEnvelope} {checkpoint : Checkpoint}
    {response : CycleDispatchResult} {nowMs : Nat}
    (hresponse : response = .pending ∨ ∃ revision cycle, response = .committed revision cycle)
    (hbarrier : barrierOf checkpoint.status = none)
    (hsettled : checkpoint.status ≠ .reconciliationRequired) :
    judgeOpen envelope checkpoint (some response) nowMs =
      judgeRunning envelope checkpoint (some response) nowMs := by
  rcases hresponse with rfl | ⟨revision, cycle, rfl⟩
  · simp only [judgeOpen, hbarrier, if_neg hsettled]
  · simp only [judgeOpen, hbarrier, if_neg hsettled]

namespace DistributedBackend

/-- A backend that can send out the next cycle of a run: its enqueuer takes what it is given,
the metadata of the task can be projected, and the envelope's name, lease and deadline are in
range. -/
structure Sends (backend : DistributedBackend) (envelope : DistributedRunEnvelope)
    (checkpoint : Checkpoint) (nowMs : Nat) : Prop where
  enqueues : ∃ enqueue, backend.cycleEnqueuer = some enqueue ∧
    ∀ next notBefore, enqueue next notBefore = .ok ()
  projects : ∃ denials, projectedMetadataDenials envelope.task = .ok denials
  named : isBlank backend.cycleName = false
  leased : 0 < backend.leaseDurationMs ∧ backend.leaseDurationMs ≤ maxWireInteger
  inTime : max nowMs (checkpoint.leaseExpiresAtMs.getD 0) + backend.dispatchTimeoutMs ≤
    maxWireInteger

/-- The envelope of a next cycle can be built. -/
theorem envelopeFromCheckpoint_of_sends {backend : DistributedBackend}
    {envelope : DistributedRunEnvelope} {checkpoint : Checkpoint} {nowMs : Nat}
    (h : backend.Sends envelope checkpoint nowMs) (henvelope : envelope.validate = .ok ())
    (hvalid : validateCheckpoint checkpoint = .ok ())
    (hrun : validateCheckpointIdentity envelope checkpoint = .ok ()) (cycle : UInt32)
    (hcycle : cycle ≠ 0) (mode : ClaimMode) :
    ∃ next, backend.envelopeFromCheckpoint envelope checkpoint cycle mode
      (checkpoint.leaseExpiresAtMs.filter (nowMs < ·)) nowMs = .ok next := by
  obtain ⟨denials, hdenials⟩ := h.projects
  obtain ⟨again, hnormal⟩ := projectedMetadataDenials_normalized envelope.task denials hdenials
  have hbefore : max nowMs ((checkpoint.leaseExpiresAtMs.filter (nowMs < ·)).getD 0) +
      backend.dispatchTimeoutMs ≤ maxWireInteger := by
    have hwire := h.inTime
    cases hlease : checkpoint.leaseExpiresAtMs with
    | none => simpa [hlease] using hwire
    | some lease =>
        rw [hlease, Option.getD_some] at hwire
        by_cases hlive : nowMs < lease
        · rw [Option.filter_some_pos (by simpa using hlive), Option.getD_some]
          exact hwire
        · rw [Option.filter_some_neg (by simpa using hlive), Option.getD_none]
          omega
  have hfits : checkedAdd (max nowMs ((checkpoint.leaseExpiresAtMs.filter (nowMs < ·)).getD 0))
      backend.dispatchTimeoutMs =
        some (max nowMs ((checkpoint.leaseExpiresAtMs.filter (nowMs < ·)).getD 0) +
          backend.dispatchTimeoutMs) := by
    have hwire : maxWireInteger < UInt64.size := by decide
    exact if_pos (by omega)
  have htimeout : decide (UInt64.size ≤ backend.dispatchTimeoutMs) = false := by
    have hwire : maxWireInteger < UInt64.size := by decide
    simp only [decide_eq_false_iff_not]
    omega
  simp only [envelopeFromCheckpoint, hdenials, htimeout, hfits, require_some, refuse_false,
    ok_bind, unit_guard_bind, pure_ok]
  refine ⟨_, ?_, rfl⟩
  simp only [validateCheckpointIdentity, refuse_eq_ok, Bool.or_eq_false_iff,
    bne_eq_false_iff_eq] at hrun
  obtain ⟨⟨⟨⟨_, _⟩, hroot⟩, htrace⟩, hdigest⟩ := hrun
  simp only [DistributedRunEnvelope.validate, DistributedRunEnvelope.validateCurrentFields,
    unit_guard_bind, refuse_eq_ok, Bool.or_eq_false_iff, requireText] at henvelope ⊢
  obtain ⟨_, ⟨hrootText, htraceText, _, hdigestText, _, hconfig, hstore, hextensions, _⟩, _, _, _,
    hrecipe, hbudget⟩ := henvelope
  have hattempt : (checkpoint.resumeAttempt == 0) = false ∧
      decide (maxWireInteger < checkpoint.resumeAttempt) = false := by
    have hidentity := ((validateCheckpoint_eq_ok checkpoint).mp hvalid).2.2.1
    simp only [validateIdentity, unit_guard_bind, refuse_eq_ok, Bool.or_eq_false_iff] at hidentity
    exact hidentity.2.2.2.2.1
  have hrunId : isBlank (DistributedRunEnvelope.effectiveRunId (some checkpoint.rootRunId)
      envelope.task) = false := by
    rw [hroot, DistributedRunEnvelope.effectiveRunId,
      Option.filter_some_pos (by rw [hrootText, Bool.not_false])]
    exact hrootText
  have hjob := isBlank_append (toString cycle) (isBlank_append ":cycle:" hrunId)
  refine ⟨by simp, ⟨by rw [hroot]; exact hrootText, by rw [htrace]; exact htraceText, by simp,
    by rw [hdigest]; exact hdigestText, hattempt, hconfig, hstore, hextensions, ?_⟩, ?_, ?_, ?_, ?_,
    hbudget⟩
  · simp only [Option.any_some, decide_eq_false_iff_not, not_lt]
    exact ⟨hbefore, h.leased.2⟩
  · simp only [checkAll_eq_ok, List.mem_cons, List.not_mem_nil, or_false, forall_eq_or_imp,
      forall_eq, refuse_eq_ok]
    exact ⟨hjob, hrunId, h.named, hjob⟩
  · simpa using hcycle
  · simpa using h.leased.1.ne'
  · exact RuntimeRecipe.validate_setMetadataDenials hrecipe hnormal

/-- The next cycle of a run that is under way is sent out, or the run is handed over to be
finalized. -/
theorem carryOut_nextPlan {backend : DistributedBackend} {envelope : DistributedRunEnvelope}
    {store : MemoryStore} {checkpoint : Checkpoint} {nowMs : Nat}
    (h : backend.Sends envelope checkpoint nowMs) (henvelope : envelope.validate = .ok ())
    (hvalid : validateCheckpoint checkpoint = .ok ())
    (hrun : validateCheckpointIdentity envelope checkpoint = .ok ())
    (hreadable : envelope.task.maxCycles.toNat ≤ checkpoint.cycleIndex →
      ∃ result, hydrateStored store checkpoint (maxCyclesResult checkpoint) = .ok result) :
    ∃ decision, (backend.carryOut store envelope checkpoint nowMs
      (nextPlan envelope checkpoint nowMs)).1 = .ok decision := by
  unfold nextPlan
  by_cases hmax : envelope.task.maxCycles.toNat < checkpoint.cycleIndex + 1
  · obtain ⟨result, hresult⟩ := hreadable (by omega)
    simp only [if_pos hmax, carryOut, hresult]
    exact ⟨_, rfl⟩
  · have hsmall : checkpoint.cycleIndex + 1 < UInt32.size := by
      have hlimit := envelope.task.maxCycles.toNat_lt
      have hsize : UInt32.size = 2 ^ 32 := rfl
      omega
    have hpositive : UInt32.ofNat (checkpoint.cycleIndex + 1) ≠ 0 := by
      intro hzero
      have hvalue : (UInt32.ofNat (checkpoint.cycleIndex + 1)).toNat = checkpoint.cycleIndex + 1 :=
        UInt32.toNat_ofNat_of_lt hsmall
      rw [hzero] at hvalue
      cases hvalue
    obtain ⟨enqueue, henqueuer, haccepts⟩ := h.enqueues
    obtain ⟨next, hnext⟩ := envelopeFromCheckpoint_of_sends h henvelope hvalid hrun _ hpositive
      (if checkpoint.claimToken.isSome ∨ checkpoint.cycleIndex < envelope.cycleIndex.toNat then
        .recovery else .continue)
    simp only [if_neg hmax, carryOut, enqueueCycle, decide_eq_false (not_le.mpr hsmall), hnext,
      henqueuer, haccepts, require_some, refuse_false, ok_bind, pure_ok]
    exact ⟨_, rfl⟩

end DistributedBackend

/-- A worker has answered a delivery without executing a cycle, and the driver is told so while
the checkpoint is as the worker saw it. A run that has ended is replayed, a run that waits for
somebody waits for the same reason, whatever cycle the delivery was for; in both cases nothing is
sent out. In a run under way, a delivery that has been overtaken waits as superseded, with
nothing sent out, where a claim is held or the worker said `pending`; any other delivery up to
the next cycle, or under a claim, is decided; one further ahead of an unclaimed run is refused. -/
theorem worker_driver_agree (worker : DistributedCycleWorker) (envelope : DistributedRunEnvelope)
    (delivery : DistributedDeliveryMetadata) (view : WorkerView) (answer : WorkerAnswer)
    (checkpoint : Checkpoint) (backend : DistributedBackend) (nowMs : Nat)
    (hanswer : worker.runCycleWithDelivery envelope delivery view = .ok (some answer))
    (hreached : answer.observed.Reachable)
    (hstored : answer.observed.loadCheckpoint envelope.checkpointConfig.key = some checkpoint)
    (hrun : validateCheckpointIdentity envelope checkpoint = .ok ())
    (hserves : backend.Serves envelope) :
    let advanced := backend.advance answer.observed nowMs envelope (.worker answer.response)
    let handle := DistributedRunHandle.fromCheckpoint checkpoint
    (∀ terminal read, checkpoint.terminalResult = some terminal → terminal.read = .ok read →
        read.checkpointKey.isSome = true →
        ∃ result, answer.response = .terminalReplay checkpoint.revision result ∧
          advanced = (.ok (.terminalReplay handle checkpoint.revision result), [])) ∧
      (∀ reason conflict, checkpoint.terminalResult = none →
        barrierOf checkpoint.status = some (reason, conflict) →
        advanced = (.ok (.wait handle reason), [])) ∧
      (checkpoint.status = .reconciliationRequired →
        advanced = (.ok (.wait handle .reconciliationRequired), [])) ∧
      (checkpoint.underWay →
        supersedes checkpoint envelope.cycleIndex.toNat = true →
        checkpoint.claimToken.isSome = true ∨ answer.response = .pending →
        advanced = (.ok (.wait handle .supersededDelivery), [])) ∧
      (checkpoint.underWay →
        supersedes checkpoint envelope.cycleIndex.toNat = false →
        checkpoint.claimToken.isSome = true ∨
          envelope.cycleIndex.toNat ≤ checkpoint.cycleIndex + 1 →
        backend.Sends envelope checkpoint nowMs →
        (envelope.task.maxCycles.toNat ≤ checkpoint.cycleIndex →
          ∃ result, hydrateStored answer.observed checkpoint (maxCyclesResult checkpoint) =
            .ok result) →
        ∃ decision, advanced.1 = .ok decision) ∧
      (checkpoint.underWay → checkpoint.claimToken = none →
        checkpoint.cycleIndex + 1 < envelope.cycleIndex.toNat →
        advanced = (.error "distributed delivery is out of order with the checkpoint", [])) := by
  intro advanced handle
  obtain ⟨henvelope, hbroker, hanswered⟩ :=
    runCycleWithDelivery_answered hanswer hreached checkpoint hstored
  have hvalid := hreached.valid hstored
  have hadmits := hserves.admits henvelope hbroker hanswered.response_valid
  have hopen : checkpoint.terminalResult = none →
      ∀ revision result, answer.response ≠ .terminalReplay revision result := by
    intro hgoing revision result hresponse
    rcases hanswered.open_ hgoing with h | ⟨h, _⟩
    · rw [h] at hresponse
      cases hresponse
    · rw [h] at hresponse
      cases hresponse
  have hjudge : checkpoint.terminalResult = none →
      backend.judge answer.observed nowMs envelope (.worker answer.response) =
        (judgeOpen envelope checkpoint (some answer.response) nowMs).map (checkpoint, ·) :=
    fun hgoing => DistributedBackend.judge_open nowMs hadmits hstored hrun hgoing (hopen hgoing)
  have hjudged : ∀ plan, checkpoint.terminalResult = none →
      judgeOpen envelope checkpoint (some answer.response) nowMs = .ok plan →
      advanced = backend.carryOut answer.observed envelope checkpoint nowMs plan := by
    intro plan hgoing hplan
    have hjudge := hjudge hgoing
    rw [hplan, Except.map] at hjudge
    simp only [advanced, DistributedBackend.advance, hjudge]
  have hrunning : checkpoint.underWay →
      judgeOpen envelope checkpoint (some answer.response) nowMs =
        judgeRunning envelope checkpoint (some answer.response) nowMs := by
    rintro ⟨hgoing, hbarrier, hsettled⟩
    refine judgeOpen_running ?_ hbarrier hsettled
    rcases hanswered.open_ hgoing with h | ⟨h, _⟩
    · exact .inl h
    · exact .inr ⟨_, _, h⟩
  refine ⟨?_, ?_, ?_, ?_, ?_, ?_⟩
  · intro terminal read hended hread hkeyed
    obtain ⟨result, hresponse, _, hreplay⟩ :=
      replayTerminal_agrees hanswered hvalid hended hread hkeyed
    refine ⟨result, hresponse, ?_⟩
    simp only [advanced, handle, DistributedBackend.advance, DistributedBackend.judge, hadmits,
      hstored, hrun, hended, DistributedDeliveryOutcome.response, hreplay, ok_bind, require_some,
      pure_ok, DistributedBackend.carryOut]
  · intro reason conflict hgoing hbarrier
    exact hjudged _ hgoing (judgeOpen_barrier (free_of_barrier hvalid hbarrier) hbarrier)
  · intro hreconcile
    have hgoing := going_of_waiting hvalid (.inl (by rw [hreconcile]; rfl))
    refine hjudged (.decided (.wait handle .reconciliationRequired)) hgoing ?_
    rcases hanswered.open_ hgoing with h | ⟨h, _⟩
    · simp only [h, judgeOpen, hreconcile, barrierOf, if_true, pure_ok]
      rfl
    · simp only [h, judgeOpen, hreconcile, barrierOf, if_true, pure_ok]
      rfl
  · intro hunder hlate hheld
    have hpending : answer.response = .pending := by
      rcases hanswered.open_ hunder.1 with h | ⟨h, _, hfree⟩
      · exact h
      · rw [hfree, h] at hheld
        rcases hheld with hheld | hheld
        · cases hheld
        · cases hheld
    refine hjudged (.decided (.wait handle .supersededDelivery)) hunder.1 ?_
    rw [hrunning hunder, hpending]
    exact judgeRunning_superseded hlate
  · intro hunder hcurrent hnear hsends hreadable
    rw [hjudged _ hunder.1 ((hrunning hunder).trans
      (judgeRunning_current hanswered hvalid hunder.1 hcurrent hnear))]
    exact DistributedBackend.carryOut_nextPlan hsends henvelope hvalid hrun hreadable
  · intro hunder hfree hahead
    have hpending : answer.response = .pending := by
      rcases hanswered.open_ hunder.1 with h | ⟨_, hbehind, _⟩
      · exact h
      · omega
    have hjudge := hjudge hunder.1
    rw [hrunning hunder, hpending,
      judgeRunning_ahead (validateCheckpoint_claim hvalid) hfree hahead] at hjudge
    simp only [advanced, hpending, DistributedBackend.advance, hjudge, Except.map]

/-- A delivery that the early checks answer. -/
theorem DistributedCycleWorker.runCycleWithDelivery_early {worker : DistributedCycleWorker}
    {envelope : DistributedRunEnvelope} {delivery : DistributedDeliveryMetadata}
    {view : WorkerView} {reference : CapabilityRef} {checkpoint : Checkpoint}
    {answer : WorkerAnswer} (henvelope : envelope.validate = .ok ())
    (hbroker : envelope.recipe.brokersApprovals = false)
    (htime : envelope.ensureNotExpiredAt view.nowMs = .ok ())
    (hreference : envelope.recipe.capabilities.checkpointStoreRef = some reference)
    (hregistered : worker.registeredStores.contains reference = true)
    (hloaded : view.loaded.loadCheckpoint envelope.checkpointConfig.key = some checkpoint)
    (hidentity : validateEnvelopeCheckpointIdentity envelope checkpoint = .ok ())
    (hdefinition : worker.matchesDefinition envelope checkpoint = .ok ())
    (hearly : answerEarly envelope view checkpoint = .ok (some answer)) :
    worker.runCycleWithDelivery envelope delivery view = .ok (some answer) := by
  simp only [runCycleWithDelivery, henvelope, hbroker, htime, hreference, hregistered,
    loadForWorker_eq_ok.mpr hloaded, hidentity, hdefinition, hearly, require_some, refuse_false,
    Bool.not_true, ok_bind, pure_ok]

end

namespace Sample

/-- A worker of the run that has nothing to add to the checks. -/
def worker : DistributedCycleWorker where
  registeredStores := [storeRef]
  hasExecutor := true
  matchesDefinition := fun _ _ => .ok ()
  resolveCapabilities := fun _ _ => .ok ()

/-- A worker that finds the same store at each of its loads. -/
def sameView (store : MemoryStore) (nowMs : Nat) : WorkerView where
  nowMs := nowMs
  runtimeNowMs := nowMs
  loaded := store
  admitted := store
  recovered := store
  ownsRecovery := false
  claiming := store
  claimToken := "worker-b"
  latest := store

theorem envelope_valid : (envelope 1 .continue).validate = .ok () := by
  decide +kernel

theorem backend_serves : backend.Serves (envelope 1 .continue) :=
  ⟨by decide +kernel, [storeRef], storeRef, rfl, rfl, by decide⟩

/-- A second worker meets the live claim of the first. -/
theorem worker_pending :
    @DistributedCycleWorker.runCycleWithDelivery (runtime []) worker (envelope 1 .continue) {}
      (sameView claimedStore 1500) = .ok (some ⟨.pending, claimedStore⟩) := by
  let _ : Runtime := runtime []
  have hidentity : validateEnvelopeCheckpointIdentity (envelope 1 .continue) claimed = .ok () := by
    decide +kernel
  exact DistributedCycleWorker.runCycleWithDelivery_early envelope_valid rfl rfl rfl (by decide)
    claimRun_record hidentity rfl rfl

/-- A suspend command for a run nobody has claimed. -/
def pauseCommand : ControllerCommand where
  schemaVersion := controllerCommandSchema
  commandId := "suspend-2"
  commandDigest := "4f63e6af45c09a22f764da6370ea55d5ddff3e31bc6df9713122d2f727070175"
  handle := handle
  resumeAttempt := 1
  expectedRevision := 0
  command := .suspend

def pauseDocuments : List Known :=
  [{ member := "command_id"
     text := "suspend-2"
     digest :=
       ⟨"4f63e6af45c09a22f764da6370ea55d5ddff3e31bc6df9713122d2f727070175", by decide⟩ },
    { member := "event_id"
      text := "controller-suspend-2-run_state_changed"
      digest :=
        ⟨"be94ae1ba6c48443cf6c3cb827fe91e69194ad57e0c7259ee88aa1a7851c9f1e", by decide⟩ }]

/-- A run that stands behind its second cycle and has been suspended. -/
def pausedRun : List StoreOp :=
  [.create { created with cycleIndex := 2 }, .resolveCommand clock pauseCommand 1500]

def pausedStore : MemoryStore := @run _ _ (@exec (runtime pauseDocuments)) pausedRun {}

theorem pausedStore_checked :
    ((pausedStore.loadCheckpoint "checkpoint").any fun checkpoint =>
      checkpoint.status = .suspended ∧ checkpoint.terminalResult.isNone = true ∧
        checkpoint.claimToken.isNone = true ∧ checkpoint.cycleIndex = 2 ∧
        checkpoint.revision = 1 ∧
        @validateEnvelopeCheckpointIdentity (runtime pauseDocuments) (envelope 1 .continue)
          checkpoint = .ok () ∧
        validateCheckpointIdentity (envelope 1 .continue) checkpoint = .ok ()) = true := by
  decide +kernel

/-- The suspended record, and what a worker says about an envelope of its first cycle. -/
theorem pausedStore_record :
    ∃ checkpoint, pausedStore.loadCheckpoint "checkpoint" = some checkpoint ∧
      checkpoint.status = .suspended ∧ checkpoint.terminalResult = none ∧
      checkpoint.cycleIndex = 2 ∧
      validateCheckpointIdentity (envelope 1 .continue) checkpoint = .ok () ∧
      @DistributedCycleWorker.runCycleWithDelivery (runtime pauseDocuments) worker
        (envelope 1 .continue) {} (sameView pausedStore 2000) =
          .ok (some ⟨.committed 1 2, pausedStore⟩) := by
  let _ : Runtime := runtime pauseDocuments
  obtain ⟨checkpoint, hstored, hchecked⟩ := Option.any_eq_true _ _ |>.mp pausedStore_checked
  obtain ⟨hstatus, hgoing, hfree, hcycle, hrevision, hidentity, hrun⟩ :=
    of_decide_eq_true hchecked
  refine ⟨checkpoint, hstored, hstatus, Option.isNone_iff_eq_none.mp hgoing, hcycle, hrun, ?_⟩
  refine DistributedCycleWorker.runCycleWithDelivery_early envelope_valid rfl rfl rfl (by decide)
    hstored hidentity rfl ?_
  have hwire : (CycleDispatchResult.committed 1 2).checked = .ok (.committed 1 2) := rfl
  have hearlier : (envelope 1 .continue).cycleIndex.toNat ≤ 2 := by decide
  simp [answerEarly, hstatus, hgoing, hfree, hcycle, hrevision, hwire, hearlier, sameView]

end Sample

/-- A second worker meets the live claim of the first, and the driver decides. -/
theorem worker_driver_agree_pending :
    @DistributedCycleWorker.runCycleWithDelivery (Sample.runtime []) Sample.worker
        (Sample.envelope 1 .continue) {} (Sample.sameView Sample.claimedStore 1500) =
          .ok (some ⟨.pending, Sample.claimedStore⟩) ∧
      ∃ decision, (@DistributedBackend.advance (Sample.runtime []) Sample.backend
        Sample.claimedStore 1500 (Sample.envelope 1 .continue) (.worker .pending)).1 =
          .ok decision := by
  let _ : Runtime := Sample.runtime []
  have hreached : Sample.claimedStore.Reachable :=
    ⟨Sample.claimRun, by simp [Sample.claimRun, StoreOp.timesSafe, maxWireInteger], rfl⟩
  obtain ⟨_, _, _, _, hdecides, _⟩ := worker_driver_agree Sample.worker
    (Sample.envelope 1 .continue) {} (Sample.sameView Sample.claimedStore 1500)
    ⟨.pending, Sample.claimedStore⟩ Sample.claimed Sample.backend 1500 Sample.worker_pending
    hreached Sample.claimRun_record (by decide +kernel) Sample.backend_serves
  refine ⟨Sample.worker_pending, hdecides ⟨rfl, rfl, by decide⟩ (by decide) (.inl rfl) ?_ ?_⟩
  · exact
      { enqueues := ⟨_, rfl, fun _ _ => rfl⟩
        projects := ⟨{}, by decide +kernel⟩
        named := by decide
        leased := by decide
        inTime := by decide }
  · intro hmax
    exact absurd hmax (by decide)

/-- An envelope of the first cycle comes late to a run that was suspended after its second:
the wait the driver answers with is that of the suspension. -/
theorem suspended_run_not_superseded :
    ∃ checkpoint answer,
      @MemoryStore.Reachable (Sample.runtime Sample.pauseDocuments) Sample.pausedStore ∧
      Sample.pausedStore.loadCheckpoint "checkpoint" = some checkpoint ∧
      (Sample.envelope 1 .continue).cycleIndex.toNat < checkpoint.cycleIndex ∧
      @DistributedCycleWorker.runCycleWithDelivery (Sample.runtime Sample.pauseDocuments)
        Sample.worker (Sample.envelope 1 .continue) {} (Sample.sameView Sample.pausedStore 2000) =
          .ok (some answer) ∧
      answer.observed = Sample.pausedStore ∧
      (∀ handle, (@DistributedBackend.advance (Sample.runtime Sample.pauseDocuments) Sample.backend
        Sample.pausedStore 2000 (Sample.envelope 1 .continue) (.worker answer.response)).1 ≠
          .ok (.wait handle .supersededDelivery)) := by
  let _ : Runtime := Sample.runtime Sample.pauseDocuments
  obtain ⟨checkpoint, hstored, hstatus, hgoing, hcycle, hrun, hanswer⟩ := Sample.pausedStore_record
  have hreached : Sample.pausedStore.Reachable :=
    ⟨Sample.pausedRun, by simp [Sample.pausedRun, StoreOp.timesSafe, maxWireInteger], rfl⟩
  refine ⟨checkpoint, _, hreached, hstored, by rw [hcycle]; decide, hanswer, rfl, ?_⟩
  intro handle hadvance
  have hadmits : Sample.backend.admitOutcome (Sample.envelope 1 .continue)
      (.worker (.committed 1 2)) = .ok () :=
    Sample.backend_serves.admits Sample.envelope_valid rfl rfl
  have hjudge := DistributedBackend.judge_open 2000 hadmits hstored hrun hgoing
    (by rintro _ _ ⟨⟩)
  have hbarrier : barrierOf checkpoint.status =
      some (.suspended,
        "checkpoint_store_conflict: suspended checkpoint cannot retain an execution claim") := by
    rw [hstatus]
    rfl
  rw [judgeOpen_barrier (free_of_barrier (hreached.valid hstored) hbarrier) hbarrier] at hjudge
  simp only [DistributedBackend.advance, hjudge, Except.map, DistributedBackend.carryOut,
    Except.ok.injEq, DistributedAdvanceDecision.wait.injEq] at hadvance
  exact absurd hadvance.2 (by decide)

end VvAgent
