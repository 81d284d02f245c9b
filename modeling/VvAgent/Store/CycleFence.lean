import VvAgent.Lib.Counter
import VvAgent.Store.ToolReceipt

/-!
The committed cycle of a record. A commit and a completed question to the host move it on by
one, a finalization may, and every other write leaves it where it is, as long as the snapshots
of suspensions and finalizations bring the right cycle along: these two writes release the
claim before the record is validated, and with it the only field that ties a snapshot to the
cycle of the stored record.
-/

namespace VvAgent
open Lib Lib.Outcome

section
variable [Runtime]

/-- The cycle that a finalization stores: a closure goes back to the one before the claimed
cycle, any other finalization takes the snapshot's own. -/
def terminalCycle (snapshot : Checkpoint) : Nat :=
  if (terminalClosureReason snapshot).isSome then
    (snapshot.claimedCycle.map (· - 1)).getD snapshot.cycleIndex
  else snapshot.cycleIndex

namespace StoreOp

/-- How a write may move the committed cycle of its record. -/
def Moves : StoreOp → Nat → Nat → Prop
  | .commit .., before, after => after = before + 1
  | .produceHostInteraction _ _ context, before, after =>
      after = if context.cycleSnapshot.isSome then before + 1 else before
  | .finalize .., before, after | .finalizeClaimed .., before, after =>
      after = before ∨ after = before + 1
  | _, before, after => after = before

/-- The snapshot of a suspension or of a finalization brings along the cycle of the stored
record, of a finalization also the next one. -/
def PinsCycle (op : StoreOp) (current : Checkpoint) : Prop :=
  match op with
  | .suspend snapshot _ _ => snapshot.cycleIndex = current.cycleIndex
  | .finalize _ snapshot _ | .finalizeClaimed _ snapshot _ _ =>
      terminalCycle snapshot = current.cycleIndex ∨
        terminalCycle snapshot = current.cycleIndex + 1
  | _ => True

/-- The key of that snapshot. -/
def snapshotKey : StoreOp → String
  | .suspend snapshot _ _ | .finalize _ snapshot _ | .finalizeClaimed _ snapshot _ _ =>
      snapshot.checkpointKey
  | _ => ""

/-- An operation meets, under the key of its snapshot, a record of the cycle that the snapshot
brings along. -/
def FencesCycle (op : StoreOp) (store : MemoryStore) : Prop :=
  ∀ current, store.checkpoints[op.snapshotKey]? = some current → op.PinsCycle current

end StoreOp

/-- The cycle of a terminal record. -/
theorem prepareTerminalSnapshot_cycle {clock : Clock} {snapshot updated : Checkpoint}
    {expectedRevision : Nat}
    (h : prepareTerminalSnapshot clock snapshot expectedRevision = .ok updated) :
    updated.cycleIndex = terminalCycle snapshot := by
  simp only [prepareTerminalSnapshot, bind_eq_ok, refuse_eq_ok, exists_const,
    nextRevision_eq_ok, pure_ok, Except.ok.injEq] at h
  obtain ⟨_, _, closed, hclosed, _, _, _, ⟨_, rfl⟩, _, _, rfl⟩ := h
  unfold terminalCycle
  cases hreason : terminalClosureReason snapshot with
  | none =>
      rw [hreason, closeForReason, Except.ok.injEq] at hclosed
      subst hclosed
      rfl
  | some reason =>
      rw [hreason] at hclosed
      simp only [closeForReason, bind_eq_ok, pure_ok, Except.ok.injEq] at hclosed
      obtain ⟨tools, htools, rfl⟩ := hclosed
      obtain ⟨_, _, _, _, rfl⟩ := closeUnresolvedTools_eq_ok htools
      rfl

omit [Runtime] in
theorem terminalCycle_merged [Runtime] (current snapshot : Checkpoint)
    (eventOutbox : List EventOutboxEntry) :
    terminalCycle (mergedWith current snapshot eventOutbox) = terminalCycle snapshot := rfl

/-- A prepared record has the right cycle exactly if the snapshot it was made from has. -/
theorem Made.moves_iff {op : StoreOp} {key : String} {current updated : Checkpoint}
    (hmade : Made op key current updated) (hvalid : ValidBesidesLease current) :
    op.Moves current.cycleIndex updated.cycleIndex ↔ op.PinsCycle current := by
  cases hmade with
  | claim _ h =>
      obtain ⟨_, _, _, rfl⟩ := prepareClaim_eq_some h
      exact iff_of_true rfl trivial
  | renew => exact iff_of_true rfl trivial
  | progress h =>
      obtain ⟨hfence, hupdated, _, _, hbuilt⟩ := prepareProgress_eq_some h
      have hbefore := hvalid.claimedCycle_of_token hfence.token
      have htoken : updated.claimToken = current.claimToken := by rw [hbuilt]
      have hclaimed : updated.claimedCycle = current.claimedCycle := by rw [hbuilt]
      have hafter := (ValidBesidesLease.of_valid hupdated).claimedCycle_of_token
        (htoken.trans hfence.token)
      rw [hclaimed, hbefore, Option.some.injEq] at hafter
      exact iff_of_true (by change _ = _; omega) trivial
  | suspend h =>
      obtain ⟨_, _, _, _, _, rfl⟩ := prepareSuspend_eq_some h
      exact Iff.rfl
  | commit h =>
      obtain ⟨hfence, _, _, hcycle, _, _, rfl⟩ := prepareCommit_eq_some h
      rw [hvalid.claimedCycle_of_token hfence.token, Option.some.injEq] at hcycle
      exact iff_of_true hcycle.symm trivial
  | finalize h =>
      obtain ⟨_, _, _, _, _, merged, hmerged, hterminal⟩ := prepareFinalize_eq_some h
      obtain ⟨_, _, rfl⟩ := (mergeAuthoritativeFields_eq_ok _ _ _).mp hmerged
      rw [prepareTerminalSnapshot_cycle hterminal, terminalCycle_merged]
      exact Iff.rfl
  | finalizeClaimed h =>
      obtain ⟨_, merged, hmerged, hterminal⟩ := prepareFinalizeClaimed_eq_some h
      obtain ⟨_, _, rfl⟩ := (mergeAuthoritativeFields_eq_ok _ _ _).mp hmerged
      rw [prepareTerminalSnapshot_cycle hterminal, terminalCycle_merged]
      exact Iff.rfl
  | toolReceipt h =>
      obtain ⟨_, _, _, _, _, _, _, _, _, _, _, _, _, _, rfl⟩ := prepareToolReceipt_eq_some h
      exact iff_of_true rfl trivial
  | acknowledge h =>
      obtain ⟨_, _, _, _, _, rfl⟩ := prepareAck_eq_some h
      exact iff_of_true rfl trivial
  | delivery h =>
      obtain ⟨_, _, _, _, _, _, rfl⟩ := prepareEventDelivery_eq_some h
      exact iff_of_true rfl trivial
  | admitDeferred h hchanged =>
      obtain ⟨_, _, _, _, _, _, _, _, _, _, _, rfl⟩ := admitDeferredBatch_eq_ok h hchanged
      exact iff_of_true rfl trivial
  | acceptDeferred h =>
      obtain ⟨_, _, _, _, _, _, _, _, _, _, rfl⟩ := acceptDeferredBatch_eq_ok h
      exact iff_of_true rfl trivial
  | resolveDeferred _ _ h =>
      obtain ⟨_, _, _, _, _, _, _, _, _, _, rfl⟩ := resolveEntry_eq_ok h
      exact iff_of_true rfl trivial
  | produce _ _ htoken hcycle h =>
      rename_i request context _ _
      obtain ⟨_, cycle, _, hprepared, rfl⟩ := prepareHostInteraction_eq_ok h
      obtain ⟨_, ⟨rfl, hnone⟩ | ⟨completed, receipt, _, _, hsome, _, _, _, rfl⟩⟩ :=
        prepareHostInteractionCycle_eq_ok hprepared
      · refine iff_of_true ?_ trivial
        change _ = if context.cycleSnapshot.isSome then _ else _
        rw [hnone]
        rfl
      · rw [hvalid.claimedCycle_of_token htoken, Option.some.injEq] at hcycle
        refine iff_of_true ?_ trivial
        change _ = if context.cycleSnapshot.isSome then _ else _
        rw [hsome]
        exact hcycle.symm
  | command hop h hupdated =>
      obtain ⟨_, _, _, _, hcase⟩ := applyControllerCommand_eq_ok h
      rw [hupdated] at hcase
      have hsame : updated.cycleIndex = current.cycleIndex := by
        cases hcase with
        | requested => rfl
        | moved base _ _ _ _ _ hbase _ =>
            rcases hbase with ⟨rfl, _⟩ | rfl
            · rfl
            · rfl
        | ended => rfl
      rcases hop with rfl | rfl
      · exact iff_of_true hsame trivial
      · exact iff_of_true hsame trivial
  | consume _ _ _ _ _ _ h =>
      obtain ⟨_, _, rfl⟩ := prepareConsume_eq_ok h
      exact iff_of_true rfl trivial

/-- A record that an operation rewrites is the one under the key of its snapshot. -/
theorem Made.pins_or_own {op : StoreOp} {key : String} {current updated : Checkpoint}
    (hmade : Made op key current updated) : op.PinsCycle current ∨ key = op.snapshotKey := by
  cases hmade with
  | suspend h => exact .inr rfl
  | finalize h => exact .inr rfl
  | finalizeClaimed h => exact .inr rfl
  | command hop h hupdated =>
      rcases hop with rfl | rfl
      · exact .inl trivial
      · exact .inl trivial
  | _ => exact .inl trivial

theorem Wrote.moves_iff {op : StoreOp} {key : String} {current stored : Checkpoint}
    (hwrote : Wrote op key current stored) (hvalid : ValidBesidesLease current) :
    op.Moves current.cycleIndex stored.cycleIndex ↔ op.PinsCycle current := by
  obtain ⟨updated, _, _, _, _, hmade, _, rfl⟩ := hwrote.frame
  exact hmade.moves_iff hvalid

omit [Runtime] in
theorem StoreOp.Moves.leaves_or_raises {op : StoreOp} {before after : Nat}
    (h : op.Moves before after) : after = before ∨ after = before + 1 := by
  unfold StoreOp.Moves at h
  split at h
  · exact .inr h
  · split at h
    · exact .inr h
    · exact .inl h
  · exact h
  · exact h
  · exact .inl h

/-- Every record of the store that is rewritten is moved on as its write may move it. -/
def StoreOp.Progresses (op : StoreOp) (before after : MemoryStore) : Prop :=
  ∀ (key : String) (current stored : Checkpoint), before.checkpoints[key]? = some current →
    after.checkpoints[key]? = some stored → stored ≠ current →
      op.Moves current.cycleIndex stored.cycleIndex

/-- What one operation of a reached store does to the cycle of a record. -/
theorem exec_moves (ops : List StoreOp) (op : StoreOp) {key : String} {current stored : Checkpoint}
    (hbefore : (run exec ops {}).checkpoints[key]? = some current)
    (hafter : (exec op (run exec ops {})).checkpoints[key]? = some stored) :
    stored = current ∨
      (op.Moves current.cycleIndex stored.cycleIndex ↔ op.PinsCycle current) ∧
        (op.PinsCycle current ∨ key = op.snapshotKey) := by
  have hvalid := (filed_of_stored ops hbefore).valid
  have hstep := exec_record ops op key
  rw [hbefore, hafter] at hstep
  generalize hleft : some current = before at hstep
  generalize hright : some stored = after at hstep
  cases hstep with
  | kept => exact .inl (Option.some.inj (hright.trans hleft.symm))
  | created => cases hleft
  | written current' stored' hwrote =>
      obtain rfl := Option.some.inj hleft
      obtain rfl := Option.some.inj hright
      obtain ⟨_, _, _, _, _, hmade, _, _⟩ := hwrote.frame
      exact .inr ⟨hwrote.moves_iff hvalid, hmade.pins_or_own⟩
  | deleted => cases hright

/-- In a fenced operation, every record it rewrites is moved on as it may be. -/
theorem exec_moves_fenced (ops : List StoreOp) {op : StoreOp} {key : String}
    {current stored : Checkpoint} (hfenced : op.FencesCycle (run exec ops {}))
    (hbefore : (run exec ops {}).checkpoints[key]? = some current)
    (hafter : (exec op (run exec ops {})).checkpoints[key]? = some stored) :
    stored = current ∨ op.Moves current.cycleIndex stored.cycleIndex := by
  rcases exec_moves ops op hbefore hafter with hsame | ⟨hmoves, hpins | rfl⟩
  · exact .inl hsame
  · exact .inr (hmoves.mpr hpins)
  · exact .inr (hmoves.mpr (hfenced current hbefore))

/-- The committed cycle of the record under a key. -/
def cycleOf (key : String) (store : MemoryStore) : Nat :=
  (store.checkpoints[key]?.map (·.cycleIndex)).getD 0

/-- The store has been reached, and there is a record under the key. -/
def ReachedWith (key : String) (store : MemoryStore) : Prop :=
  (∃ ops, store = run exec ops {}) ∧ store.checkpoints[key]?.isSome

theorem reachedWith_exec {key : String} {op : StoreOp} {store : MemoryStore}
    (hkept : op ≠ .delete key) (h : ReachedWith key store) : ReachedWith key (exec op store) := by
  obtain ⟨⟨ops, rfl⟩, hstored⟩ := h
  refine ⟨⟨ops ++ [op], (run_append exec ops [op] {}).symm⟩, ?_⟩
  have hstep := exec_record ops op key
  generalize (run exec ops {}).checkpoints[key]? = before at hstep hstored
  generalize (exec op (run exec ops {})).checkpoints[key]? = after at hstep
  cases hstep with
  | kept => exact hstored
  | created => rfl
  | written => rfl
  | deleted _ hop => exact absurd hop hkept

theorem cycleOf_exec {key : String} {op : StoreOp} {store : MemoryStore}
    (hfenced : op.FencesCycle store) (hkept : op ≠ .delete key) (h : ReachedWith key store) :
    cycleOf key (exec op store) = cycleOf key store ∨
      cycleOf key (exec op store) = cycleOf key store + 1 := by
  obtain ⟨_, hafter⟩ := reachedWith_exec hkept h
  obtain ⟨⟨ops, rfl⟩, hbefore⟩ := h
  obtain ⟨current, hcurrent⟩ := Option.isSome_iff_exists.mp hbefore
  obtain ⟨stored, hstored⟩ := Option.isSome_iff_exists.mp hafter
  unfold cycleOf
  rw [hcurrent, hstored]
  rcases exec_moves_fenced ops hfenced hcurrent hstored with rfl | hmoves
  · exact .inl rfl
  · exact hmoves.leaves_or_raises

/-- An accepted write moves the committed cycle of its record as it may exactly if its snapshot
has the right cycle. In a run whose suspensions and finalizations all bring it along, every
accepted write does, and from any point on the cycle of a record that is not deleted never falls
and passes through every value. -/
theorem cycle_progress_fenced (ops : List StoreOp) :
    (∀ first op rest, ops = first ++ op :: rest →
      ∀ (key : String) (current stored : Checkpoint),
        (run exec first {}).checkpoints[key]? = some current →
        (run exec (first ++ [op]) {}).checkpoints[key]? = some stored → stored ≠ current →
          (op.Moves current.cycleIndex stored.cycleIndex ↔ op.PinsCycle current)) ∧
    (Along exec StoreOp.FencesCycle ops {} →
      (∀ first op rest, ops = first ++ op :: rest →
        op.Progresses (run exec first {}) (run exec (first ++ [op]) {})) ∧
      ∀ first later, ops = first ++ later →
        ∀ key, (run exec first {}).checkpoints[key]?.isSome → (∀ op ∈ later, op ≠ .delete key) →
          cycleOf key (run exec first {}) ≤ cycleOf key (run exec ops {}) ∧
          ∀ cycle, cycleOf key (run exec first {}) ≤ cycle →
            cycle ≤ cycleOf key (run exec ops {}) →
              ∃ middle rest, later = middle ++ rest ∧
                cycleOf key (run exec (first ++ middle) {}) = cycle) := by
  have hstep : ∀ first op rest, ops = first ++ op :: rest →
      ∀ (key : String) (current stored : Checkpoint),
        (run exec first {}).checkpoints[key]? = some current →
        (run exec (first ++ [op]) {}).checkpoints[key]? = some stored → stored ≠ current →
          (op.Moves current.cycleIndex stored.cycleIndex ↔ op.PinsCycle current) := by
    intro first op rest _ key current stored hbefore hafter hchanged
    rw [run_append] at hafter
    rcases exec_moves first op hbefore hafter with hsame | ⟨hmoves, _⟩
    · exact absurd hsame hchanged
    · exact hmoves
  refine ⟨hstep, fun halong => ⟨?_, ?_⟩⟩
  · intro first op rest hsplit key current stored hbefore hafter hchanged
    rw [hsplit, along_append] at halong
    rw [run_append] at hafter
    rcases exec_moves_fenced first halong.2.1 hbefore hafter with hsame | hmoves
    · exact absurd hsame hchanged
    · exact hmoves
  · intro first later hsplit key hstored hkept
    rw [hsplit, along_append] at halong
    have hlater : Along exec (fun op store => StoreOp.FencesCycle op store ∧ op ≠ .delete key)
        later (run exec first {}) :=
      along_and halong.2 (along_of_forall hkept)
    have hreached : ∀ op store, StoreOp.FencesCycle op store ∧ op ≠ .delete key →
        ReachedWith key store → ReachedWith key (exec op store) :=
      fun op store hop => reachedWith_exec hop.2
    have hmoves : ∀ op store, StoreOp.FencesCycle op store ∧ op ≠ .delete key →
        ReachedWith key store → cycleOf key (exec op store) = cycleOf key store ∨
          cycleOf key (exec op store) = cycleOf key store + 1 :=
      fun op store hop => cycleOf_exec hop.1 hop.2
    obtain ⟨hmono, hpasses⟩ := along_counts hreached hmoves hlater ⟨⟨first, rfl⟩, hstored⟩
    rw [← run_append, ← hsplit] at hmono hpasses
    refine ⟨hmono, ?_⟩
    intro cycle hlow hhigh
    obtain ⟨middle, rest, hmiddle, hcycle⟩ := hpasses cycle hlow hhigh
    exact ⟨middle, rest, hmiddle, by rw [run_append, hcycle]⟩

end

namespace Sample

/-- A tool of the first cycle whose outcome is lost, in the cycle that a snapshot names. -/
def lostTool (cycle : Nat) : OperationJournalEntry :=
  { startedTool with state := .ambiguous, cycleIndex := cycle }

/-- The worker of the first claim gives the claim back with a snapshot of a later cycle. -/
def strayRun : List StoreOp :=
  [.create created, .claim "checkpoint" 1 "worker-a" 2000 1000 .continue,
    .suspend { claimed with cycleIndex := 4, toolJournal := [lostTool 5] } "worker-a" 1]

/-- The worker commits the first cycle; a second one takes over and gives its claim back with a
snapshot of its own cycle. -/
def steadyRun : List StoreOp :=
  [.create created, .claim "checkpoint" 1 "worker-a" 2000 1000 .continue,
    .commit { claimed with cycleIndex := 1 } "worker-a" 1,
    .claim "checkpoint" 2 "worker-b" 3000 2000 .continue,
    .suspend
      { claimed with
        cycleIndex := 1
        claimToken := some "worker-b"
        claimedCycle := some 2
        leaseExpiresAtMs := some 3000
        toolJournal := [lostTool 2]
        revision := 3 }
      "worker-b" 3]

end Sample

/-- A run with a commit and a suspension. -/
theorem cycle_progress_steadyRun :
    letI := Sample.runtime []
    (∀ first op rest, Sample.steadyRun = first ++ op :: rest →
      op.Progresses (run exec first {}) (run exec (first ++ [op]) {})) ∧
      cycleOf "checkpoint" (run exec Sample.steadyRun {}) = 1 := by
  let _ : Runtime := Sample.runtime []
  have halong : Along exec StoreOp.FencesCycle Sample.steadyRun {} := by
    refine ⟨fun _ _ => trivial, fun _ _ => trivial, fun _ _ => trivial, fun _ _ => trivial, ?_,
      trivial⟩
    intro current hcurrent
    have hcycle : (run exec (Sample.steadyRun.take 4) {}).checkpoints["checkpoint"]?.map
        (·.cycleIndex) = some 1 := by
      decide +kernel
    have hstored : (run exec (Sample.steadyRun.take 4) {}).checkpoints["checkpoint"]? =
        some current := hcurrent
    rw [hstored, Option.map_some, Option.some.injEq] at hcycle
    exact hcycle.symm
  exact ⟨((cycle_progress_fenced Sample.steadyRun).2 halong).1, by decide +kernel⟩

/-- A suspension that is accepted although its snapshot is four cycles ahead of the record. -/
theorem suspension_skips_cycles :
    letI := Sample.runtime []
    ¬∀ first op rest, Sample.strayRun = first ++ op :: rest →
      op.Progresses (run exec first {}) (run exec (first ++ [op]) {}) := by
  let _ : Runtime := Sample.runtime []
  intro h
  have hbefore : (run exec (Sample.strayRun.take 2) {}).checkpoints["checkpoint"]?.map
      (·.cycleIndex) = some 0 := by
    decide +kernel
  have hafter : (run exec Sample.strayRun {}).checkpoints["checkpoint"]?.map (·.cycleIndex) =
      some 4 := by
    decide +kernel
  obtain ⟨current, hcurrent, hzero⟩ := Option.map_eq_some_iff.mp hbefore
  obtain ⟨stored, hstored, hfour⟩ := Option.map_eq_some_iff.mp hafter
  have hchanged : stored ≠ current := by
    intro hsame
    rw [hsame, hzero] at hfour
    cases hfour
  have hmoves := h (Sample.strayRun.take 2) _ [] rfl "checkpoint" current stored hcurrent hstored
    hchanged
  have hsame : stored.cycleIndex = current.cycleIndex := hmoves
  omega

end VvAgent
