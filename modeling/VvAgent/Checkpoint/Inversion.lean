import VvAgent.Checkpoint.Commands
import VvAgent.Checkpoint.History

/-!
What a transition that succeeded went through. Each lemma gives the guards that held and
the record that was built, so that later proofs never open a transition again.
-/

namespace VvAgent
open Lib Lib.Outcome

@[simp]
theorem checkedAdd_one_eq_some (value next : Nat) :
    checkedAdd value 1 = some next ↔ value + 1 < UInt64.size ∧ next = value + 1 := by
  unfold checkedAdd
  by_cases hfits : value + 1 < UInt64.size
  · rw [if_pos hfits]
    exact ⟨fun h => ⟨hfits, (Option.some.inj h).symm⟩, fun h => by rw [h.2]⟩
  · rw [if_neg hfits]
    exact ⟨fun h => by simp at h, fun h => absurd h.1 hfits⟩

@[simp]
theorem nextRevision_eq_ok (revision next : Nat) :
    nextRevision revision = .ok next ↔ revision + 1 < UInt64.size ∧ next = revision + 1 := by
  simp [nextRevision]

@[simp]
theorem nextResumeAttempt_eq_ok (attempt next : Nat) :
    nextResumeAttempt attempt = .ok next ↔ attempt + 1 < UInt64.size ∧ next = attempt + 1 := by
  simp [nextResumeAttempt]

/-- A claim is granted only when no lease is running. -/
theorem claimCandidate_eq_true {checkpoint : Checkpoint} {cycleIndex nowMs : Nat}
    {mode : ClaimMode} (h : claimCandidate checkpoint cycleIndex nowMs mode = .ok true) :
    nowMs ≤ maxWireInteger ∧ checkpoint.terminalResult = none ∧
      (checkpoint.status = .running ∨ checkpoint.status = .reconciliationRequired) ∧
      cycleIndex = checkpoint.cycleIndex + 1 ∧
      (checkpoint.status = .reconciliationRequired ∨
        checkpoint.hasAmbiguousOperation = true → mode = .recovery) ∧
      ∀ lease, checkpoint.leaseExpiresAtMs = some lease → lease ≤ nowMs ∧ mode = .recovery := by
  simp only [claimCandidate, unit_guard_bind, refuse_eq_ok, pure_ok, Except.ok.injEq,
    Bool.and_eq_true, Bool.or_eq_true, decide_eq_true_eq, decide_eq_false_iff_not, not_lt,
    Option.isNone_iff_eq_none, Bool.not_eq_true', Bool.or_eq_false_iff] at h
  obtain ⟨_, hnow, ⟨⟨⟨⟨hterminal, _⟩, hstatus⟩, hcycle⟩, hmode⟩, hlease⟩ := h
  refine ⟨hnow, hterminal, hstatus, hcycle.symm, ?_, ?_⟩
  · intro hambiguous
    rcases hmode with hmode | ⟨hstatus', hnone⟩
    · exact hmode
    · rcases hambiguous with h | h
      · exact absurd h hstatus'
      · simp [h] at hnone
  · intro lease hsome
    simpa [hsome] using hlease

/-- The record under a new claim. -/
def claimedBy (checkpoint : Checkpoint) (cycleIndex : Nat) (claimToken : String)
    (leaseExpiresAtMs : Nat) (claimMode : ClaimMode) : Checkpoint :=
  { checkpoint with
    revision := checkpoint.revision + 1
    resumeAttempt := checkpoint.resumeAttempt + if claimMode = .recovery then 1 else 0
    status := .running
    claimToken := some claimToken
    claimedCycle := some cycleIndex
    leaseExpiresAtMs := some leaseExpiresAtMs }

theorem applyClaim_eq_ok {checkpoint claimed : Checkpoint} {cycleIndex : Nat}
    {claimToken : String} {lease : Nat} {mode : ClaimMode}
    (h : applyClaim checkpoint cycleIndex claimToken lease mode = .ok claimed) :
    lease ≤ maxWireInteger ∧ claimed = claimedBy checkpoint cycleIndex claimToken lease mode := by
  unfold applyClaim at h
  rw [unit_guard_bind, refuse_eq_ok, Bool.or_eq_false_iff, decide_eq_false_iff_not, not_lt] at h
  obtain ⟨⟨_, hlease⟩, h⟩ := h
  refine ⟨hlease, ?_⟩
  cases mode with
  | recovery =>
      simp only [bind_eq_ok, nextRevision_eq_ok, nextResumeAttempt_eq_ok, pure_ok,
        Except.ok.injEq] at h
      obtain ⟨_, ⟨_, rfl⟩, _, ⟨_, rfl⟩, rfl⟩ := h
      rfl
  | «continue» =>
      simp only [bind_eq_ok, nextRevision_eq_ok, pure_ok, Except.ok.injEq] at h
      obtain ⟨_, ⟨_, rfl⟩, _, rfl, rfl⟩ := h
      rfl

/-- What a snapshot that extends the stored record has in common with it. -/
structure Extension (current snapshot : Checkpoint) : Prop where
  schemaVersion : current.schemaVersion = snapshot.schemaVersion
  runDefinitionSchema : current.runDefinitionSchema = snapshot.runDefinitionSchema
  checkpointKey : current.checkpointKey = snapshot.checkpointKey
  taskId : current.taskId = snapshot.taskId
  rootRunId : current.rootRunId = snapshot.rootRunId
  traceId : current.traceId = snapshot.traceId
  runDefinitionDigest : current.runDefinitionDigest = snapshot.runDefinitionDigest
  runDefinition : current.runDefinition = snapshot.runDefinition
  resumeAttempt : current.resumeAttempt = snapshot.resumeAttempt
  terminalAcknowledged : current.terminalAcknowledged = snapshot.terminalAcknowledged
  history : current.history = snapshot.history
  modelCalls : current.modelCalls <+: snapshot.modelCalls
  newCalls : ∀ record ∈ snapshot.modelCalls.drop current.modelCalls.length,
    record.cycleIndex.toNat = current.cycleIndex + 1
  cycles :
    (current.cycles.takeWhile fun cycle => cycle.index.toNat ≤ current.cycleIndex) <+:
      snapshot.cycles
  newCycles :
    ∀ cycle ∈ snapshot.cycles.drop
        (current.cycles.takeWhile fun cycle => cycle.index.toNat ≤ current.cycleIndex).length,
      cycle.index.toNat = current.cycleIndex + 1

theorem checkpointDefinitionMatches_iff (current snapshot : Checkpoint) :
    checkpointDefinitionMatches current snapshot = true ↔ Extension current snapshot := by
  simp only [checkpointDefinitionMatches, Bool.and_eq_true, beq_iff_eq, List.isPrefixOf_iff_prefix,
    List.all_eq_true, decide_eq_true_eq]
  constructor
  · rintro ⟨⟨⟨⟨⟨⟨⟨⟨⟨⟨⟨⟨⟨⟨h1, h2⟩, h3⟩, h4⟩, h5⟩, h6⟩, h7⟩, h8⟩, h9⟩, h10⟩, h11⟩, h12⟩, h13⟩, h14⟩, h15⟩
    exact ⟨h1, h2, h3, h4, h5, h6, h7, h8, h9, h10, h11, h12, h13, h14, h15⟩
  · rintro ⟨h1, h2, h3, h4, h5, h6, h7, h8, h9, h10, h11, h12, h13, h14, h15⟩
    exact ⟨⟨⟨⟨⟨⟨⟨⟨⟨⟨⟨⟨⟨⟨h1, h2⟩, h3⟩, h4⟩, h5⟩, h6⟩, h7⟩, h8⟩, h9⟩, h10⟩, h11⟩, h12⟩, h13⟩, h14⟩, h15⟩

/-- The owner's fence, conjunct by conjunct. -/
structure OwnerFence (current snapshot : Checkpoint) (claimToken : String)
    (expectedRevision : Nat) : Prop where
  revision : current.revision = expectedRevision
  snapshotRevision : snapshot.revision = expectedRevision
  token : current.claimToken = some claimToken
  cycle : current.claimedCycle = snapshot.claimedCycle
  key : current.checkpointKey = snapshot.checkpointKey
  open_ : current.terminalResult = none
  extends_ : Extension current snapshot

theorem claimMatches_iff (current snapshot : Checkpoint) (claimToken : String)
    (expectedRevision : Nat) :
    claimMatches current snapshot claimToken expectedRevision = true ↔
      OwnerFence current snapshot claimToken expectedRevision := by
  simp only [claimMatches, Bool.and_eq_true, beq_iff_eq, Option.isNone_iff_eq_none,
    checkpointDefinitionMatches_iff]
  constructor
  · rintro ⟨⟨⟨⟨⟨⟨h1, h2⟩, h3⟩, h4⟩, h5⟩, h6⟩, h7⟩
    exact ⟨h1, h2, h3, h4, h5, h6, h7⟩
  · rintro ⟨h1, h2, h3, h4, h5, h6, h7⟩
    exact ⟨⟨⟨⟨⟨⟨h1, h2⟩, h3⟩, h4⟩, h5⟩, h6⟩, h7⟩

section
variable [Runtime]

/-- A snapshot with what it never overrides. -/
def mergedWith (current snapshot : Checkpoint) (eventOutbox : List EventOutboxEntry) :
    Checkpoint :=
  { snapshot with
    cancelRequested := snapshot.cancelRequested || current.cancelRequested
    eventOutbox
    eventCursor := current.eventCursor }

theorem mergeAuthoritativeFields_eq_ok (current snapshot merged : Checkpoint) :
    mergeAuthoritativeFields current snapshot = .ok merged ↔
      ∃ eventOutbox, appendAllOnce current.eventOutbox snapshot.eventOutbox = .ok eventOutbox ∧
        merged = mergedWith current snapshot eventOutbox := by
  simp only [mergeAuthoritativeFields, bind_eq_ok, pure_ok, Except.ok.injEq, mergedWith]
  exact exists_congr fun _ => and_congr_right fun _ => eq_comm

theorem prepareProgress_eq_some {current snapshot updated : Checkpoint} {claimToken : String}
    {expectedRevision : Nat}
    (h : prepareProgress current snapshot claimToken expectedRevision = .ok (some updated)) :
    OwnerFence current snapshot claimToken expectedRevision ∧
      validateCheckpoint updated = .ok () ∧
      ∃ eventOutbox, appendAllOnce current.eventOutbox snapshot.eventOutbox = .ok eventOutbox ∧
        updated = { mergedWith current snapshot eventOutbox with
          claimToken := current.claimToken
          claimedCycle := current.claimedCycle
          leaseExpiresAtMs := current.leaseExpiresAtMs
          revision := current.revision + 1 } := by
  unfold prepareProgress at h
  split at h
  · rename_i hmatches
    have hfence := (claimMatches_iff _ _ _ _).mp hmatches
    simp only [bind_eq_ok, mergeAuthoritativeFields_eq_ok, nextRevision_eq_ok,
      pure_ok, Except.ok.injEq, Option.some.injEq] at h
    obtain ⟨merged, ⟨outbox, houtbox, rfl⟩, _, ⟨_, rfl⟩, _, hvalid, rfl⟩ := h
    refine ⟨hfence, hvalid, outbox, houtbox, ?_⟩
    simp [mergedWith, hfence.revision]
  · simp at h

theorem prepareSuspend_eq_some {current snapshot updated : Checkpoint} {claimToken : String}
    {expectedRevision : Nat}
    (h : prepareSuspend current snapshot claimToken expectedRevision = .ok (some updated)) :
    OwnerFence current snapshot claimToken expectedRevision ∧
      snapshot.hasAmbiguousOperation = true ∧ validateCheckpoint updated = .ok () ∧
      ∃ eventOutbox, appendAllOnce current.eventOutbox snapshot.eventOutbox = .ok eventOutbox ∧
        updated = { (mergedWith current snapshot eventOutbox).releaseClaim with
          status := .reconciliationRequired
          revision := current.revision + 1 } := by
  unfold prepareSuspend at h
  split at h
  · rename_i hmatches
    rw [Bool.and_eq_true] at hmatches
    have hfence := (claimMatches_iff _ _ _ _).mp hmatches.1
    simp only [bind_eq_ok, mergeAuthoritativeFields_eq_ok, nextRevision_eq_ok,
      pure_ok, Except.ok.injEq, Option.some.injEq] at h
    obtain ⟨merged, ⟨outbox, houtbox, rfl⟩, _, ⟨_, rfl⟩, _, hvalid, rfl⟩ := h
    refine ⟨hfence, hmatches.2, hvalid, outbox, houtbox, ?_⟩
    simp [hfence.revision]
  · simp at h

theorem prepareCommit_eq_some {current snapshot updated : Checkpoint} {claimToken : String}
    {expectedRevision : Nat}
    (h : prepareCommit current snapshot claimToken expectedRevision = .ok (some updated)) :
    OwnerFence current snapshot claimToken expectedRevision ∧
      current.cancelRequested = false ∧ snapshot.cancelRequested = false ∧
      current.claimedCycle = some snapshot.cycleIndex ∧
      snapshot.journals.any blocksCommit = false ∧ validateCheckpoint updated = .ok () ∧
      updated = { snapshot.releaseClaim with
        eventOutbox := snapshot.eventOutbox.filter fun entry => entry.state == "pending"
        modelCallJournal := []
        toolJournal := []
        cancelRequested := false
        revision := current.revision + 1 } := by
  unfold prepareCommit at h
  split at h
  · rename_i hmatches
    have hfence := (claimMatches_iff _ _ _ _).mp hmatches
    simp only [unit_guard_bind, refuse_eq_ok, Bool.or_eq_false_iff] at h
    obtain ⟨⟨hcurrent, hsnapshot⟩, h⟩ := h
    split at h
    · rename_i hcycle
      simp only [bind_eq_ok, refuse_eq_ok, exists_const, nextRevision_eq_ok,
        pure_ok, Except.ok.injEq, Option.some.injEq] at h
      obtain ⟨hblocked, _, _, _, ⟨_, rfl⟩, _, hvalid, rfl⟩ := h
      refine ⟨hfence, hcurrent, hsnapshot, hcycle, hblocked, hvalid, ?_⟩
      simp [hfence.revision]
    · simp at h
  · simp at h

theorem prepareToolReceipt_eq_some {clock : Clock} {current snapshot updated : Checkpoint}
    {target : ToolReceiptTarget} {result : ToolExecutionResult} {claimToken : String}
    {expectedRevision : Nat}
    (h : prepareToolReceipt clock current snapshot target result claimToken expectedRevision =
      .ok (some updated)) :
    current.claimToken = some claimToken ∧ current.claimedCycle = some target.claimedCycle ∧
      current.revision = expectedRevision ∧ current.status = .running ∧
      current.terminalResult = none ∧ Extension current snapshot ∧
      validateCheckpoint updated = .ok () ∧
      ∃ entry closed event eventOutbox, current.toolJournal.find? target.closes = some entry ∧
        (closed.state = .succeeded ∨ closed.state = .failed) ∧
        appendAllOnce (current.eventOutbox ++ [event]) snapshot.eventOutbox = .ok eventOutbox ∧
        updated = { current with
          toolJournal := replaceFirst target.closes closed current.toolJournal
          eventOutbox
          revision := current.revision + 1 } := by
  simp only [prepareToolReceipt, bind_eq_ok, refuse_eq_ok, exists_const, Bool.or_eq_false_iff,
    bne_eq_false_iff_eq] at h
  obtain ⟨_, ⟨⟨⟨htoken, _⟩, hcycle⟩, _⟩, ⟨hrevision, _⟩, h⟩ := h
  split at h
  · simp at h
  rename_i hopen
  simp only [not_or, not_not, ne_eq, Option.not_isSome_iff_eq_none,
    checkpointDefinitionMatches_iff] at hopen
  obtain ⟨hstatus, hterminal, hmatches⟩ := hopen
  split at h
  · simp at h
  rename_i entry hentry
  simp only [bind_eq_ok, nextRevision_eq_ok, pure_ok, Except.ok.injEq, Option.some.injEq] at h
  obtain ⟨_, _, identityKey, _, digest, _, observation, _, _, _, event, _, outbox, houtbox, _,
    ⟨_, rfl⟩, _, hvalid, rfl⟩ := h
  refine ⟨htoken, hcycle, hrevision, hstatus, hterminal, hmatches, hvalid, entry,
    closeWithResult entry identityKey digest observation result, event, outbox, hentry, ?_,
    houtbox, by rw [hrevision]⟩
  simp only [closeWithResult]
  split <;> simp

omit [Runtime] in
theorem insertBefore_sublist {α : Type} (p : α → Bool) (entry : α) (l : List α) :
    l.Sublist (insertBefore p entry l) := by
  induction l with
  | nil => exact List.nil_sublist _
  | cons a rest ih =>
      unfold insertBefore
      split
      · exact List.sublist_cons_self _ _
      · exact ih.cons_cons a

/-- Adding an event changes the outbox only, and keeps what is in it. -/
theorem appendEventOnce_eq_ok {checkpoint updated : Checkpoint} {eventId : String} {event : Json}
    (h : appendEventOnce checkpoint eventId event = .ok updated) :
    ∃ eventOutbox, checkpoint.eventOutbox.Sublist eventOutbox ∧
      updated = { checkpoint with eventOutbox } := by
  simp only [appendEventOnce, bind_eq_ok] at h
  obtain ⟨entry, _, _, _, h⟩ := h
  split at h
  · simp only [pure_ok, Except.ok.injEq] at h
    exact ⟨checkpoint.eventOutbox, List.Sublist.refl _, h.symm⟩
  · simp only [pure_ok, Except.ok.injEq] at h
    exact ⟨_, insertBefore_sublist isTerminalEvent entry _, h.symm⟩

/-- Closing the open tools changes the tool journal, the outbox and the terminal result. -/
theorem closeUnresolvedTools_eq_ok {clock : Clock} {checkpoint updated : Checkpoint}
    {reason : String} (h : closeUnresolvedTools clock checkpoint reason = .ok updated) :
    ∃ toolJournal eventOutbox, closeToolJournal checkpoint.checkpointKey checkpoint.toolJournal =
        .ok toolJournal ∧ checkpoint.eventOutbox.Sublist eventOutbox ∧
      updated = { checkpoint with
        toolJournal, eventOutbox
        terminalResult := checkpoint.terminalResult.map
          (·.observe ((checkpoint.toolJournal.filter (·.isOpen)).map unknownToolObservation)) } := by
  simp only [closeUnresolvedTools, bind_eq_ok, refuse_eq_ok, exists_const] at h
  obtain ⟨_, toolJournal, hjournal, h⟩ := h
  split at h
  · simp only [bind_eq_ok, pure_ok, Except.ok.injEq] at h
    obtain ⟨_, _, _, _, announced, hannounced, rfl⟩ := h
    obtain ⟨eventOutbox, hkept, rfl⟩ := appendEventOnce_eq_ok hannounced
    exact ⟨toolJournal, eventOutbox, hjournal, hkept, rfl⟩
  · simp only [bind_eq_ok, pure_ok, Except.ok.injEq] at h
    obtain ⟨announced, rfl, rfl⟩ := h
    exact ⟨toolJournal, checkpoint.eventOutbox, hjournal, List.Sublist.refl _, rfl⟩

/-- What a closure leaves alone: everything but the cycle index, the journals, the outbox
and the terminal result. -/
theorem closeForReason_eq_ok {clock : Clock} {snapshot closed : Checkpoint}
    {reason : Option String} (h : closeForReason clock snapshot reason = .ok closed) :
    ∃ cycleIndex modelCallJournal toolJournal eventOutbox terminalResult,
      terminalResult.isSome = snapshot.terminalResult.isSome ∧
      snapshot.eventOutbox.Sublist eventOutbox ∧
      closed = { snapshot with
        cycleIndex, modelCallJournal, toolJournal, eventOutbox, terminalResult } := by
  cases reason with
  | none =>
      simp only [closeForReason, Except.ok.injEq] at h
      subst h
      exact ⟨_, _, _, _, snapshot.terminalResult, rfl, List.Sublist.refl _, rfl⟩
  | some reason =>
      simp only [closeForReason, bind_eq_ok, pure_ok, Except.ok.injEq] at h
      obtain ⟨tools, htools, rfl⟩ := h
      obtain ⟨toolJournal, eventOutbox, _, hkept, rfl⟩ := closeUnresolvedTools_eq_ok htools
      exact ⟨_, _, toolJournal, eventOutbox, _, by simp, hkept, rfl⟩

/-- A terminal write keeps everything but the lifecycle of the run: the cycle index, the
journals, the outbox, the claim, the result and the revision. -/
theorem prepareTerminalSnapshot_eq_ok {clock : Clock} {snapshot updated : Checkpoint}
    {expectedRevision : Nat}
    (h : prepareTerminalSnapshot clock snapshot expectedRevision = .ok updated) :
    snapshot.status.isTerminal = true ∧ validateCheckpoint updated = .ok () ∧
      ∃ cycleIndex eventOutbox modelCallJournal toolJournal terminalResult,
        updated = { snapshot.releaseClaim with
          cycleIndex, eventOutbox, modelCallJournal, toolJournal
          terminalResult := some terminalResult
          revision := expectedRevision + 1 } := by
  simp only [prepareTerminalSnapshot, bind_eq_ok, refuse_eq_ok, exists_const,
    nextRevision_eq_ok, pure_ok, Except.ok.injEq, Bool.not_eq_false'] at h
  obtain ⟨hterminal, hstatus, closed, hclosed, _, _, _, ⟨_, rfl⟩, _, hvalid, rfl⟩ := h
  obtain ⟨cycleIndex, _, _, _, terminalResult, hresult, _, rfl⟩ := closeForReason_eq_ok hclosed
  obtain ⟨result, rfl⟩ : ∃ result, terminalResult = some result := by
    rw [← Option.isSome_iff_exists, hresult]
    simpa [Option.isNone_eq_false_iff] using hterminal
  exact ⟨hstatus, hvalid, cycleIndex, _, _, _, result, rfl⟩

theorem prepareFinalize_eq_some {clock : Clock} {current snapshot updated : Checkpoint}
    {expectedRevision : Nat}
    (h : prepareFinalize clock current snapshot expectedRevision = .ok (some updated)) :
    current.revision = expectedRevision ∧ snapshot.revision = expectedRevision ∧
      Extension current snapshot ∧ current.claimToken = none ∧
      current.terminalResult = none ∧
      ∃ merged, mergeAuthoritativeFields current snapshot = .ok merged ∧
        prepareTerminalSnapshot clock merged expectedRevision = .ok updated := by
  unfold prepareFinalize at h
  split at h
  · simp at h
  · rename_i hguard
    simp only [not_or, not_not, ne_eq, Option.not_isSome_iff_eq_none,
      checkpointDefinitionMatches_iff] at hguard
    obtain ⟨hcurrent, hsnapshot, hmatches, htoken, hterminal⟩ := hguard
    simp only [bind_eq_ok, pure_ok, Except.ok.injEq, Option.some.injEq] at h
    obtain ⟨merged, hmerged, terminal, hprepared, rfl⟩ := h
    exact ⟨hcurrent, hsnapshot, hmatches, htoken, hterminal, merged, hmerged, hprepared⟩

theorem prepareFinalizeClaimed_eq_some {clock : Clock} {current snapshot updated : Checkpoint}
    {claimToken : String} {expectedRevision : Nat}
    (h : prepareFinalizeClaimed clock current snapshot claimToken expectedRevision =
      .ok (some updated)) :
    OwnerFence current snapshot claimToken expectedRevision ∧
      ∃ merged, mergeAuthoritativeFields current snapshot = .ok merged ∧
        prepareTerminalSnapshot clock merged expectedRevision = .ok updated := by
  unfold prepareFinalizeClaimed at h
  split at h
  · rename_i hmatches
    simp only [bind_eq_ok, pure_ok, Except.ok.injEq, Option.some.injEq] at h
    obtain ⟨merged, hmerged, terminal, hprepared, rfl⟩ := h
    exact ⟨(claimMatches_iff _ _ _ _).mp hmatches, merged, hmerged, hprepared⟩
  · simp at h

theorem prepareEventDelivery_eq_some {current updated : Checkpoint} {claimToken : Option String}
    {expectedRevision : Nat} {eventId payloadDigest : String} {cursor : EventCursor}
    (h : prepareEventDelivery current claimToken expectedRevision eventId payloadDigest cursor =
      .ok (some updated)) :
    current.revision = expectedRevision ∧ current.claimToken = claimToken ∧
      validateCheckpoint updated = .ok () ∧
      ∃ entry, (current.eventOutbox.filter fun entry => entry.eventId == eventId) = [entry] ∧
        entry.state = "pending" ∧
        updated = { current with
          eventOutbox :=
            replaceFirst (fun entry => entry.eventId == eventId) (entry.delivered cursor)
              current.eventOutbox
          eventCursor := some cursor
          revision := current.revision + 1 } := by
  simp only [prepareEventDelivery, bind_eq_ok, refuse_eq_ok, exists_const] at h
  obtain ⟨_, _, _, _, _, _, h⟩ := h
  split at h
  · simp at h
  rename_i hguard
  simp only [not_or, not_not, ne_eq] at hguard
  split at h
  · rename_i entry hentry
    split at h
    · simp at h
    · rename_i hpending
      simp only [not_or, not_not, ne_eq] at hpending
      simp only [bind_eq_ok, nextRevision_eq_ok, pure_ok, Except.ok.injEq, Option.some.injEq] at h
      obtain ⟨_, ⟨_, rfl⟩, _, hvalid, rfl⟩ := h
      exact ⟨hguard.1, hguard.2, hvalid, entry, hentry, hpending.1, by rw [hguard.1]⟩
  · simp at h

theorem prepareAck_eq_some {current updated : Checkpoint} {expectedRevision : Nat}
    (h : prepareAck current expectedRevision = .ok (some updated)) :
    current.revision = expectedRevision ∧ current.terminalResult.isSome = true ∧
      current.claimToken = none ∧ current.terminalAcknowledged = false ∧
      validateCheckpoint updated = .ok () ∧
      updated = { current with
        terminalAcknowledged := true, revision := current.revision + 1 } := by
  unfold prepareAck at h
  split at h
  · simp at h
  · rename_i hguard
    simp only [not_or, not_not, ne_eq, Bool.not_eq_true, Option.isSome_eq_false_iff,
      Option.isNone_iff_eq_none] at hguard
    obtain ⟨hrevision, hterminal, htoken, hack⟩ := hguard
    simp only [bind_eq_ok, nextRevision_eq_ok, pure_ok, Except.ok.injEq, Option.some.injEq] at h
    obtain ⟨_, ⟨_, rfl⟩, _, hvalid, rfl⟩ := h
    exact ⟨hrevision, Option.isSome_iff_ne_none.mpr hterminal, htoken, hack, hvalid,
      by rw [hrevision]⟩

/-- Handing over one tool changes the tool journal and adds one event. -/
theorem admitBatchEntry_eq_ok {clock : Clock} {snapshot admitted : Checkpoint}
    {batch : DeferredBatchEntry} {handle : DeferredToolHandle}
    (h : admitBatchEntry clock snapshot batch = .ok (admitted, handle)) :
    ∃ toolJournal event,
      admitted = { snapshot with
        toolJournal, eventOutbox := snapshot.eventOutbox ++ [event] } := by
  simp only [admitBatchEntry, bind_eq_ok, refuse_eq_ok, exists_const] at h
  obtain ⟨_, _, journal, _, _, h⟩ := h
  split at h
  · simp at h
  · simp at h
  · simp only [bind_eq_ok, refuse_eq_ok, exists_const, pure_ok, Except.ok.injEq,
      Prod.mk.injEq] at h
    obtain ⟨_, event, _, rfl, _⟩ := h
    exact ⟨_, event, rfl⟩

theorem admitBatchEntries_eq_ok {clock : Clock} (entries : List DeferredBatchEntry)
    {snapshot final : Checkpoint} {handles : List DeferredToolHandle}
    (h : admitBatchEntries clock snapshot entries = .ok (final, handles)) :
    ∃ toolJournal events,
      final = { snapshot with
        toolJournal, eventOutbox := snapshot.eventOutbox ++ events } := by
  induction entries generalizing snapshot handles with
  | nil =>
      simp only [admitBatchEntries, Except.ok.injEq, Prod.mk.injEq] at h
      obtain ⟨rfl, _⟩ := h
      exact ⟨snapshot.toolJournal, [], by simp⟩
  | cons batch rest ih =>
      simp only [admitBatchEntries, bind_eq_ok, pure_ok, Except.ok.injEq, Prod.mk.injEq,
        Prod.exists] at h
      obtain ⟨admitted, handle, hfirst, last, later, hrest, rfl, _⟩ := h
      obtain ⟨_, event, rfl⟩ := admitBatchEntry_eq_ok hfirst
      obtain ⟨toolJournal, events, rfl⟩ := ih hrest
      exact ⟨toolJournal, event :: events, by simp⟩

/-- The checkpoint at the barrier: its claim is released, and only the tool journal and the
outbox have changed. -/
def atBarrier (current : Checkpoint) (toolJournal : List OperationJournalEntry)
    (events : List EventOutboxEntry) : Checkpoint :=
  { current.releaseClaim with
    status := .deferred
    toolJournal
    eventOutbox := current.eventOutbox ++ events
    revision := current.revision + 1 }

theorem admitDeferredBatch_eq_ok {clock : Clock} {current updated : Checkpoint}
    {expectedRevision : Nat} {claimToken : String} {claimedCycle : Nat}
    {entries : List DeferredBatchEntry} {handles : List DeferredToolHandle}
    (h : admitDeferredBatch clock current expectedRevision claimToken claimedCycle entries =
      .ok (updated, handles))
    (hchanged : updated.revision ≠ current.revision) :
    current.revision = expectedRevision ∧ current.claimToken = some claimToken ∧
      current.claimedCycle = some claimedCycle ∧ current.status = .running ∧
      validateCheckpoint updated = .ok () ∧
      ∃ snapshot, admitBatchEntries clock current entries = .ok (snapshot, handles) ∧
        hasCurrentCycleState snapshot.journals claimedCycle [.started] = false ∧
        ∃ toolJournal events,
          snapshot = { current with
            toolJournal, eventOutbox := current.eventOutbox ++ events } ∧
          updated = atBarrier current toolJournal events := by
  unfold admitDeferredBatch at h
  split at h
  · simp only [Except.ok.injEq, Prod.mk.injEq] at h
    exact absurd (by rw [h.1]) hchanged
  rename_i hguard
  simp only [not_or, not_not, ne_eq] at hguard
  obtain ⟨hrevision, htoken, hcycle, hstatus, _⟩ := hguard
  simp only [bind_eq_ok, refuse_eq_ok, exists_const, nextRevision_eq_ok, pure_ok,
    Except.ok.injEq, Prod.mk.injEq, Prod.exists] at h
  obtain ⟨snapshot, _, hadmitted, hcovered, _, ⟨_, rfl⟩, _, hvalid, rfl, rfl⟩ := h
  obtain ⟨toolJournal, events, rfl⟩ := admitBatchEntries_eq_ok entries hadmitted
  refine ⟨hrevision, htoken, hcycle, hstatus, hvalid, _, hadmitted, hcovered, toolJournal,
    events, rfl, ?_⟩
  simp [atBarrier, Checkpoint.releaseClaim, hrevision]

theorem acceptDecisions_eq_ok {clock : Clock} {claimedCycle : Nat}
    (decisions : List AcceptDeferredDecision) {snapshot final : Checkpoint}
    {seen : List (String × Nat × String)}
    (h : acceptDecisions clock claimedCycle snapshot seen decisions = .ok final) :
    ∃ toolJournal events,
      final = { snapshot with
        toolJournal, eventOutbox := snapshot.eventOutbox ++ events } := by
  induction decisions generalizing snapshot seen with
  | nil =>
      simp only [acceptDecisions, Except.ok.injEq] at h
      subst h
      exact ⟨snapshot.toolJournal, [], by simp⟩
  | cons decision rest ih =>
      simp only [acceptDecisions, bind_eq_ok, refuse_eq_ok, exists_const] at h
      obtain ⟨_, _, _, entry, _, _, first, _, second, _, hrest⟩ := h
      obtain ⟨toolJournal, events, rfl⟩ := ih hrest
      exact ⟨toolJournal, first :: second :: events, by simp⟩

theorem acceptDeferredBatch_eq_ok {clock : Clock} {current updated : Checkpoint}
    {expectedRevision : Nat} {claimToken : String} {claimedCycle : Nat}
    {decisions : List AcceptDeferredDecision}
    (h : acceptDeferredBatch clock current expectedRevision claimToken claimedCycle decisions =
      .ok (updated, true)) :
    current.revision = expectedRevision ∧ current.claimToken = some claimToken ∧
      current.claimedCycle = some claimedCycle ∧ validateCheckpoint updated = .ok () ∧
      ∃ snapshot, acceptDecisions clock claimedCycle current [] decisions = .ok snapshot ∧
        hasCurrentCycleState snapshot.journals claimedCycle [.planned, .started, .ambiguous] =
          false ∧
        ∃ toolJournal events,
          snapshot = { current with
            toolJournal, eventOutbox := current.eventOutbox ++ events } ∧
          updated = atBarrier current toolJournal events := by
  unfold acceptDeferredBatch at h
  split at h
  · simp at h
  rename_i hguard
  simp only [not_or, not_not, ne_eq] at hguard
  obtain ⟨hrevision, htoken, hcycle, _⟩ := hguard
  simp only [bind_eq_ok, refuse_eq_ok, exists_const, nextRevision_eq_ok, pure_ok,
    Except.ok.injEq, Prod.mk.injEq, and_true] at h
  obtain ⟨_, snapshot, haccepted, hcovered, _, ⟨_, rfl⟩, _, hvalid, rfl⟩ := h
  obtain ⟨toolJournal, events, rfl⟩ := acceptDecisions_eq_ok decisions haccepted
  refine ⟨hrevision, htoken, hcycle, hvalid, _, haccepted, hcovered, toolJournal, events, rfl, ?_⟩
  simp [atBarrier, Checkpoint.releaseClaim, hrevision]

end

end VvAgent
