import VvAgent.Store.Fencing

/-!
A cancel request to a live owner leaves the revision alone, so the owner's next write still
passes the fence although it was made from a snapshot without the request. What keeps the
request is that every writer merges it into the snapshot or refuses the write. The request
and the events of the outbox then stay with the checkpoint until it is terminal.
-/

namespace VvAgent
open Lib Lib.Outcome

section
variable [Runtime]

theorem appendEventOutboxOnce_extends {outbox extended : List EventOutboxEntry}
    {candidate : EventOutboxEntry}
    (h : appendEventOutboxOnce outbox candidate = .ok extended) : outbox <+: extended := by
  unfold appendEventOutboxOnce at h
  split at h
  · rw [Except.ok.injEq] at h
    exact ⟨[candidate], h⟩
  · simp only [bind_eq_ok] at h
    obtain ⟨_, _, h⟩ := h
    split at h <;>
      simp only [bind_eq_ok, refuse_eq_ok, exists_const, pure_ok, Except.ok.injEq] at h
    · obtain ⟨_, _, _, rfl⟩ := h
      exact List.prefix_rfl
    · obtain ⟨_, _, _, rfl⟩ := h
      exact List.prefix_rfl

/-- Merging events into an outbox only appends to it. -/
theorem appendAllOnce_extends (candidates : List EventOutboxEntry)
    {outbox extended : List EventOutboxEntry}
    (h : appendAllOnce outbox candidates = .ok extended) : outbox <+: extended := by
  induction candidates generalizing outbox with
  | nil =>
      rw [appendAllOnce, Except.ok.injEq] at h
      exact h ▸ List.prefix_rfl
  | cons candidate rest ih =>
      simp only [appendAllOnce, bind_eq_ok] at h
      obtain ⟨next, hnext, hrest⟩ := h
      exact (appendEventOutboxOnce_extends hnext).trans (ih hrest)

end

/-- The writes that close a cycle: a commit and a question to the host. -/
def StoreOp.closesCycle : StoreOp → Bool
  | .commit _ _ _ | .produceHostInteraction _ _ _ => true
  | _ => false

/-- The entry is still in the outbox, as it was or delivered. -/
def HoldsEvent (entry : EventOutboxEntry) (checkpoint : Checkpoint) : Prop :=
  ∃ kept ∈ checkpoint.eventOutbox, kept = entry ∨ ∃ cursor, kept = entry.delivered cursor

theorem HoldsEvent.ofPrefix {entry : EventOutboxEntry} {before after : Checkpoint}
    (h : HoldsEvent entry before) (hextends : before.eventOutbox <+: after.eventOutbox) :
    HoldsEvent entry after := by
  obtain ⟨kept, hkept, hsame⟩ := h
  exact ⟨kept, hextends.subset hkept, hsame⟩

/-- The delivery of one pending event keeps all of them. -/
theorem HoldsEvent.ofDelivery {entry pending : EventOutboxEntry} {before after : Checkpoint}
    {eventId : String} {cursor : EventCursor} (h : HoldsEvent entry before)
    (hfound : (before.eventOutbox.filter fun entry => entry.eventId == eventId) = [pending])
    (hpending : pending.state = "pending")
    (hafter : after.eventOutbox =
      replaceFirst (fun entry => entry.eventId == eventId) (pending.delivered cursor)
        before.eventOutbox) : HoldsEvent entry after := by
  obtain ⟨kept, hkept, hsame⟩ := h
  have hfind : before.eventOutbox.find? (fun entry => entry.eventId == eventId) =
      some pending := by
    rw [← List.head?_filter, hfound, List.head?_cons]
  obtain ⟨first, last, hsplit, _, _, hreplaced⟩ := replaceFirst_split
    (fun entry : EventOutboxEntry => entry.eventId == eventId) (pending.delivered cursor) pending
    before.eventOutbox hfind
  rw [hreplaced] at hafter
  rw [hsplit, List.mem_append, List.mem_cons] at hkept
  rcases hkept with hfirst | rfl | hlast
  · exact ⟨kept, by rw [hafter]; simp [hfirst], hsame⟩
  · refine ⟨kept.delivered cursor, by rw [hafter]; simp, .inr ⟨cursor, ?_⟩⟩
    rcases hsame with rfl | ⟨earlier, rfl⟩
    · rfl
    · simp [EventOutboxEntry.delivered] at hpending
  · exact ⟨kept, by rw [hafter]; simp [hlast], hsame⟩

section
variable [Runtime]

/-- A write that leaves a cancelled checkpoint open keeps the request and the events, and is
neither a commit nor a question to the host. -/
structure KeepsCancel (op : StoreOp) (current updated : Checkpoint) : Prop where
  requested : updated.cancelRequested = true
  events : ∀ entry, HoldsEvent entry current → HoldsEvent entry updated

theorem Made.keepsCancel {op : StoreOp} {key : String} {current updated : Checkpoint}
    (hmade : Made op key current updated) (hrequested : current.cancelRequested = true)
    (hopen : updated.terminalResult = none) : KeepsCancel op current updated := by
  have happend {events : List EventOutboxEntry}
      (h : updated.eventOutbox = current.eventOutbox ++ events) (entry : EventOutboxEntry)
      (hentry : HoldsEvent entry current) : HoldsEvent entry updated :=
    hentry.ofPrefix ⟨events, h.symm⟩
  cases hmade with
  | claim _ h =>
      obtain ⟨_, _, _, rfl⟩ := prepareClaim_eq_some h
      exact ⟨hrequested, fun _ hentry => hentry⟩
  | renew => exact ⟨hrequested, fun _ hentry => hentry⟩
  | progress h =>
      obtain ⟨_, _, outbox, houtbox, rfl⟩ := prepareProgress_eq_some h
      exact ⟨by simp [mergedWith, hrequested],
        fun _ hentry => hentry.ofPrefix (appendAllOnce_extends _ houtbox)⟩
  | suspend h =>
      obtain ⟨_, _, _, outbox, houtbox, rfl⟩ := prepareSuspend_eq_some h
      exact ⟨by simp [mergedWith, Checkpoint.releaseClaim, hrequested],
        fun _ hentry => hentry.ofPrefix (appendAllOnce_extends _ houtbox)⟩
  | commit h =>
      obtain ⟨_, hnone, _⟩ := prepareCommit_eq_some h
      simp [hrequested] at hnone
  | finalize h =>
      obtain ⟨_, _, _, _, _, _, _, hterminal⟩ := prepareFinalize_eq_some h
      obtain ⟨_, _, _, _, _, _, _, rfl⟩ := prepareTerminalSnapshot_eq_ok hterminal
      simp at hopen
  | finalizeClaimed h =>
      obtain ⟨_, _, _, hterminal⟩ := prepareFinalizeClaimed_eq_some h
      obtain ⟨_, _, _, _, _, _, _, rfl⟩ := prepareTerminalSnapshot_eq_ok hterminal
      simp at hopen
  | toolReceipt h =>
      obtain ⟨_, _, _, _, _, _, _, _, _, event, outbox, _, _, houtbox, rfl⟩ :=
        prepareToolReceipt_eq_some h
      have hextends := (List.prefix_append _ [event]).trans (appendAllOnce_extends _ houtbox)
      exact ⟨hrequested, fun _ hentry => hentry.ofPrefix hextends⟩
  | acknowledge h =>
      obtain ⟨_, hterminal, _, _, _, rfl⟩ := prepareAck_eq_some h
      have hnone : current.terminalResult = none := hopen
      simp [hnone] at hterminal
  | delivery h =>
      obtain ⟨_, _, _, pending, hfound, hpending, rfl⟩ := prepareEventDelivery_eq_some h
      exact ⟨hrequested, fun _ hentry => hentry.ofDelivery hfound hpending rfl⟩
  | admitDeferred h hchanged =>
      obtain ⟨_, _, _, _, _, _, _, _, _, _, _, rfl⟩ := admitDeferredBatch_eq_ok h hchanged
      exact ⟨hrequested, happend rfl⟩
  | acceptDeferred h =>
      obtain ⟨_, _, _, _, _, _, _, _, _, _, rfl⟩ := acceptDeferredBatch_eq_ok h
      exact ⟨hrequested, happend rfl⟩
  | resolveDeferred _ _ h =>
      obtain ⟨_, _, _, _, _, _, _, _, _, _, rfl⟩ := resolveEntry_eq_ok h
      exact ⟨hrequested, happend rfl⟩
  | produce _ _ _ _ h =>
      obtain ⟨_, _, _, hcycle, _⟩ := prepareHostInteraction_eq_ok h
      simp [(prepareHostInteractionCycle_eq_ok hcycle).1] at hrequested
  | command hop h hupdated =>
      obtain ⟨_, _, _, _, hcase⟩ := applyControllerCommand_eq_ok h
      rw [hupdated] at hcase
      cases hcase with
      | requested => exact ⟨rfl, happend rfl⟩
      | moved base _ _ _ _ _ hbase =>
          refine ⟨?_, happend rfl⟩
          rcases hbase with ⟨rfl, _⟩ | rfl <;> exact hrequested
      | ended => simp at hopen
  | consume _ _ _ _ _ _ h =>
      obtain ⟨_, _, rfl⟩ := prepareConsume_eq_ok h
      exact ⟨hrequested, happend rfl⟩

/-- A terminal checkpoint stays terminal. -/
theorem Made.staysTerminal {op : StoreOp} {key : String} {current updated : Checkpoint}
    (hmade : Made op key current updated) (hterminal : current.terminalResult.isSome = true) :
    updated.terminalResult.isSome = true := by
  have hopen (hnone : current.terminalResult = none) : False := by simp [hnone] at hterminal
  cases hmade with
  | claim _ h =>
      obtain ⟨hcandidate, _⟩ := prepareClaim_eq_some h
      exact (hopen (claimCandidate_eq_true hcandidate).2.1).elim
  | renew => exact hterminal
  | progress h => exact (hopen (prepareProgress_eq_some h).1.open_).elim
  | suspend h => exact (hopen (prepareSuspend_eq_some h).1.open_).elim
  | commit h => exact (hopen (prepareCommit_eq_some h).1.open_).elim
  | finalize h => exact (hopen (prepareFinalize_eq_some h).2.2.2.2.1).elim
  | finalizeClaimed h => exact (hopen (prepareFinalizeClaimed_eq_some h).1.open_).elim
  | toolReceipt h => exact (hopen (prepareToolReceipt_eq_some h).2.2.2.2.1).elim
  | acknowledge h =>
      obtain ⟨_, _, _, _, _, rfl⟩ := prepareAck_eq_some h
      exact hterminal
  | delivery h =>
      obtain ⟨_, _, _, _, _, _, rfl⟩ := prepareEventDelivery_eq_some h
      exact hterminal
  | admitDeferred h hchanged =>
      obtain ⟨_, _, _, _, _, _, _, _, _, _, _, rfl⟩ := admitDeferredBatch_eq_ok h hchanged
      exact hterminal
  | acceptDeferred h =>
      obtain ⟨_, _, _, _, _, _, _, _, _, _, rfl⟩ := acceptDeferredBatch_eq_ok h
      exact hterminal
  | resolveDeferred _ _ h =>
      obtain ⟨_, _, _, _, _, _, _, _, _, _, rfl⟩ := resolveEntry_eq_ok h
      exact hterminal
  | produce _ _ _ _ h =>
      obtain ⟨_, cycle, _, hcycle, rfl⟩ := prepareHostInteraction_eq_ok h
      rcases (prepareHostInteractionCycle_eq_ok hcycle).2 with
        ⟨rfl, _⟩ | ⟨_, receipt, _, _, _, _, _, hreceipt, rfl⟩
      · exact hterminal
      · exact (hopen (prepareToolReceipt_eq_some hreceipt).2.2.2.2.1).elim
  | command _ h => exact (hopen (applyControllerCommand_eq_ok h).2.2.1).elim
  | consume _ _ _ _ _ _ h =>
      obtain ⟨_, _, rfl⟩ := prepareConsume_eq_ok h
      exact hterminal

/-- The request is kept until the checkpoint is terminal. -/
def CancelHeld (asked checkpoint : Checkpoint) : Prop :=
  checkpoint.terminalResult.isSome = true ∨
    checkpoint.cancelRequested = true ∧
      ∀ entry ∈ asked.eventOutbox, HoldsEvent entry checkpoint

theorem Wrote.cancelHeld {op : StoreOp} {key : String} {asked current stored : Checkpoint}
    (hwrote : Wrote op key current stored) (hheld : CancelHeld asked current) :
    CancelHeld asked stored := by
  obtain ⟨updated, _, _, _, terminalResult, hmade, hsome, rfl⟩ := hwrote.frame
  rcases hheld with hterminal | ⟨hrequested, hevents⟩
  · exact .inl (hsome.trans (hmade.staysTerminal hterminal))
  · cases hopen : updated.terminalResult with
    | some value => exact .inl (by simp [hsome, hopen])
    | none =>
        have hkeeps := hmade.keepsCancel hrequested hopen
        exact .inr ⟨hkeeps.requested, fun entry hentry =>
          hkeeps.events entry (hevents entry hentry)⟩

theorem exec_cancelHeld {op : StoreOp} {store : MemoryStore} {key : String} {asked : Checkpoint}
    (hkeyed : Keyed store) (hkept : op ≠ .delete key)
    (hheld : ∃ current, store.checkpoints[key]? = some current ∧ CancelHeld asked current) :
    ∃ current, (exec op store).checkpoints[key]? = some current ∧ CancelHeld asked current := by
  obtain ⟨current, hfound, hheld⟩ := hheld
  have hstep := (exec_step op store hkeyed).record key
  rw [hfound] at hstep
  generalize (exec op store).checkpoints[key]? = record at hstep
  cases hstep with
  | kept => exact ⟨current, rfl, hheld⟩
  | written _ stored hwrote => exact ⟨stored, rfl, hwrote.cancelHeld hheld⟩
  | deleted _ hop => exact absurd hop hkept

/-- A cycle is closed only when no cancel request is stored. -/
theorem Made.notCancelled {op : StoreOp} {key : String} {current updated : Checkpoint}
    (hmade : Made op key current updated) (hcloses : op.closesCycle = true) :
    current.cancelRequested = false := by
  cases hmade with
  | commit h => exact (prepareCommit_eq_some h).2.1
  | produce _ _ _ _ h =>
      obtain ⟨_, _, _, hcycle, _⟩ := prepareHostInteraction_eq_ok h
      exact (prepareHostInteractionCycle_eq_ok hcycle).1
  | command hop => rcases hop with rfl | rfl <;> cases hcloses
  | _ => cases hcloses

/-- While the request is held, no write closes a cycle. -/
theorem exec_closesCycle {op : StoreOp} {store : MemoryStore} {key : String}
    {current : Checkpoint} (hkeyed : Keyed store) (hcloses : op.closesCycle = true)
    (hfound : store.checkpoints[key]? = some current)
    (hrequested : current.cancelRequested = true) :
    (exec op store).checkpoints[key]? = some current := by
  have hstep := (exec_step op store hkeyed).record key
  rw [hfound] at hstep
  generalize (exec op store).checkpoints[key]? = record at hstep
  cases hstep with
  | kept => rfl
  | written _ stored hwrote =>
      obtain ⟨_, _, _, _, _, hmade, _⟩ := hwrote.frame
      simp [hmade.notCancelled hcloses] at hrequested
  | deleted _ hop => simp [hop, StoreOp.closesCycle] at hcloses

/-- A commit that is answered with `true` has prepared a record. -/
theorem commitCheckpoint_eq_true {store : MemoryStore} {checkpoint : Checkpoint}
    {token : String} {revision : Nat}
    (h : (store.commitCheckpoint checkpoint token revision).1 = .ok true) :
    ∃ current updated, store.checkpoints[checkpoint.checkpointKey]? = some current ∧
      prepareCommit current checkpoint token revision = .ok (some updated) := by
  obtain ⟨after, h, _⟩ := MemoryStore.atomically_eq_ok h
  split at h
  · simp at h
  rename_i current hfound
  simp only [bind_eq_ok] at h
  obtain ⟨prepared, hprepared, h⟩ := h
  cases prepared with
  | none => simp at h
  | some updated => exact ⟨current, updated, hfound, hprepared⟩

/-- A command call that applies its command: the receipt is new. -/
def AppliesCommand (op : StoreOp) (command : ControllerCommand) (store : MemoryStore) : Prop :=
  store.ledger.commandReceipts[command.commandId]? = none ∧
    (exec op store).ledger.commandReceipts[command.commandId]?.isSome = true

/-- A command that was applied has found its checkpoint and replaced it. -/
theorem AppliesCommand.effect {op : StoreOp} {clock : Clock} {command : ControllerCommand}
    {now : Nat} {store : MemoryStore} (hkeyed : Keyed store)
    (hop : op = .admitCommand clock command now ∨ op = .resolveCommand clock command now)
    (happlied : AppliesCommand op command store) :
    ∃ current lookup effect, store.checkpoints[command.handle.checkpointKey]? = some current ∧
      applyControllerCommand clock lookup current command now = .ok effect ∧
      (exec op store).checkpoints[command.handle.checkpointKey]? = some effect.checkpoint := by
  obtain ⟨hnew, hretained⟩ := happlied
  have hsuccess {receipt : ControllerCommandReceipt} {resolution : ControllerCommandResolution}
      {after : MemoryStore}
      (happly : store.applyControllerCommand clock command now =
        (.ok (receipt, resolution), after)) :
      ∃ current lookup effect, store.checkpoints[command.handle.checkpointKey]? = some current ∧
        applyControllerCommand clock lookup current command now = .ok effect ∧
        after.checkpoints[command.handle.checkpointKey]? = some effect.checkpoint := by
    obtain ⟨current, effect, hfound, heffect, _, _, _, rfl⟩ :=
      MemoryStore.applyControllerCommand_eq_ok happly
    refine ⟨current, _, effect, hfound, heffect, ?_⟩
    rw [Table.get_insert, if_pos (hkeyed _ _ hfound)]
  have hfailure {error : CheckpointError} {after : MemoryStore}
      (happly : store.applyControllerCommand clock command now = (.error error, after)) :
      after.ledger.commandReceipts[command.commandId]? = none := by
    rw [MemoryStore.applyControllerCommand_error happly, hnew]
  rcases hop with rfl | rfl
  · simp only [exec, MemoryStore.admitControllerCommand] at hretained ⊢
    cases hvalid : command.validate with
    | error error => simp [hvalid, hnew] at hretained
    | ok =>
        simp only [hvalid, hnew] at hretained ⊢
        split at hretained
        · rename_i happly
          simp [hfailure happly] at hretained
        · rename_i happly
          obtain ⟨current, lookup, effect, hfound, heffect, hstored⟩ := hsuccess happly
          exact ⟨current, lookup, effect, hfound, heffect, hstored⟩
  · simp only [exec, MemoryStore.resolveControllerCommand] at hretained ⊢
    cases hvalid : command.validate with
    | error error => simp [hvalid, hnew] at hretained
    | ok =>
        simp only [hvalid, hnew] at hretained ⊢
        split at hretained
        · rename_i happly
          simp [hfailure happly] at hretained
        · rename_i happly
          obtain ⟨current, lookup, effect, hfound, heffect, hstored⟩ := hsuccess happly
          exact ⟨current, lookup, effect, hfound, heffect, hstored⟩

/-- A cancel request to a live owner is never lost. A command that is applied while a claim is
live is a cancel command, and it leaves the revision alone. Whatever happens then, also writes from snapshots without the request, the checkpoint keeps
the request and the announcement until it is terminal, and no cycle is closed before. -/
theorem live_cancel_kept (ops : List StoreOp) (key : String) (current : Checkpoint)
    (hcurrent : (run exec ops {}).checkpoints[key]? = some current) (op : StoreOp)
    (clock : Clock) (command : ControllerCommand) (now : Nat)
    (hop : op = .admitCommand clock command now ∨ op = .resolveCommand clock command now)
    (hkey : command.handle.checkpointKey = key) (hlive : current.claimLive now = true)
    (happlied : AppliesCommand op command (run exec ops {})) :
    command.command = .cancel ∧ ∃ asked, (run exec (ops ++ [op]) {}).checkpoints[key]? = some asked ∧
      asked.cancelRequested = true ∧ asked.revision = current.revision ∧
      (current.cancelRequested = false →
        ∃ event, event.eventId = cancelEventId command.commandId ∧ event.state = "pending" ∧
          asked.eventOutbox = current.eventOutbox ++ [event]) ∧
      ∀ later, (∀ op ∈ later, op ≠ .delete key) →
        ∃ final, (run exec (ops ++ [op] ++ later) {}).checkpoints[key]? = some final ∧
          (final.terminalResult = none →
            final.cancelRequested = true ∧
            (∀ entry ∈ asked.eventOutbox, HoldsEvent entry final) ∧
            (∀ write : StoreOp, write.closesCycle = true →
              (exec write (run exec (ops ++ [op] ++ later) {})).checkpoints[key]? =
                some final) ∧
            ∀ checkpoint token revision, checkpoint.checkpointKey = key →
              ((run exec (ops ++ [op] ++ later) {}).commitCheckpoint checkpoint token
                revision).1 ≠ .ok true) := by
  have hkeyed := run_keyed ops
  obtain ⟨found, lookup, effect, hfound, heffect, hstored⟩ := happlied.effect hkeyed hop
  rw [hkey] at hfound hstored
  obtain rfl : current = found := Option.some.inj (hcurrent.symm.trans hfound)
  have hasked : (run exec (ops ++ [op]) {}).checkpoints[key]? = some effect.checkpoint := by
    rw [run_append]
    exact hstored
  obtain ⟨_, _, _, _, hcase⟩ := applyControllerCommand_eq_ok heffect
  generalize effect.checkpoint = asked at hcase hasked
  cases hcase with
  | moved _ _ _ _ _ hidle => simp [hlive] at hidle
  | ended _ _ _ _ _ hidle => simp [hlive] at hidle
  | requested events _ hcancel hevents =>
      refine ⟨hcancel, _, hasked, rfl, rfl, ?_, ?_⟩
      · intro hfresh
        rcases hevents with ⟨hbefore, _⟩ | ⟨_, event, rfl, hid, hstate⟩
        · simp [hfresh] at hbefore
        · exact ⟨event, hid, hstate, rfl⟩
      intro later hlater
      have hheld := run_preserves exec (fun op => op ≠ .delete key)
        (fun store => Keyed store ∧ ∃ current, store.checkpoints[key]? = some current ∧
          CancelHeld _ current)
        (fun op store hop h => ⟨exec_keyed op store h.1, exec_cancelHeld h.1 hop h.2⟩)
        later hlater (run exec (ops ++ [op]) {})
        ⟨run_keyed _, _, hasked, .inr ⟨rfl, fun entry hentry => ⟨entry, hentry, .inl rfl⟩⟩⟩
      rw [← run_append] at hheld
      obtain ⟨hlast, final, hfinal, hheld⟩ := hheld
      refine ⟨final, hfinal, fun hopen => ?_⟩
      rcases hheld with hterminal | ⟨hrequested, hkept⟩
      · simp [hopen] at hterminal
      refine ⟨hrequested, hkept, fun write hcloses => exec_closesCycle hlast hcloses hfinal
        hrequested, ?_⟩
      rintro checkpoint token revision rfl hcommitted
      obtain ⟨other, _, hother, hprepared⟩ := commitCheckpoint_eq_true hcommitted
      obtain rfl : final = other := Option.some.inj (hfinal.symm.trans hother)
      have hnone := (prepareCommit_eq_some hprepared).2.1
      simp [hrequested] at hnone

end

/-- The claim of the sample run is cancelled at revision 1; the owner's write from its
snapshot of that revision is applied, and keeps the request. -/
theorem live_cancel_kept_claimRun :
    letI := Sample.runtime Sample.cancelDocuments
    letI cancel := StoreOp.resolveCommand Sample.clock Sample.cancelCommand 1500
    ∃ final, (run exec (Sample.claimRun ++ [cancel] ++
        [.progress Sample.claimed "worker-a" 1]) {}).checkpoints["checkpoint"]? = some final ∧
      (final.terminalResult = none → final.cancelRequested = true) := by
  let _ : Runtime := Sample.runtime Sample.cancelDocuments
  have hcurrent : (run exec Sample.claimRun {}).checkpoints["checkpoint"]? =
      some Sample.claimed := by decide +kernel
  have happlied : AppliesCommand (.resolveCommand Sample.clock Sample.cancelCommand 1500)
      Sample.cancelCommand (run exec Sample.claimRun {}) :=
    ⟨by decide +kernel, by decide +kernel⟩
  obtain ⟨_, asked, _, _, _, _, hlater⟩ := live_cancel_kept Sample.claimRun "checkpoint"
    Sample.claimed hcurrent _ Sample.clock Sample.cancelCommand 1500 (.inr rfl) rfl (by decide)
    happlied
  obtain ⟨final, hfinal, hkept⟩ := hlater [.progress Sample.claimed "worker-a" 1] (by simp)
  exact ⟨final, hfinal, fun hopen => (hkept hopen).1⟩

end VvAgent
