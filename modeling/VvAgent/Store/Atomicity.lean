import VvAgent.Store.Line
import VvAgent.Store.Rows

/-!
A failed operation leaves the tables as they were. Most operations write only after their last
check. Four write earlier: a command writes the answered question before it checks its
receipt, a recovery checks its answer after the rows, the reaping of wakes hands one wake
after the other back, and the archive opens the row of a checkpoint before it checks the
batch. The first three of these late checks cannot fail in a store that has been reached. The
fourth can fail only for records that were put into the store by `save_checkpoint`, which
takes any valid record; what is left then is an empty archive where there was none.
-/

namespace VvAgent
open Lib Lib.Outcome

/-- An error, or an answer that declines. -/
def isFailure {α : Type} (declines : α → Bool) : CheckpointResult α → Bool
  | .ok answer => declines answer
  | .error _ => true

def CheckpointRenewalOutcome.declines : CheckpointRenewalOutcome → Bool
  | .claimLost _ => true
  | _ => false

def DeferredResolveDecision.declines : DeferredResolveDecision → Bool
  | .notAdmitted _ | .reconciliationRequired => true
  | _ => false

def ControllerCommandResolution.declines : ControllerCommandResolution → Bool
  | .rejected _ => true
  | _ => false

section
variable [Runtime]

/-- Whether a call answers with an error, with `false`, with nothing, or with a rejection. -/
def StoreOp.fails (op : StoreOp) (store : MemoryStore) : Bool :=
  match op with
  | .create checkpoint => isFailure not (store.createCheckpoint checkpoint).1
  | .claim key cycle token lease now mode =>
      isFailure Option.isNone (store.claimCheckpoint key cycle token lease now mode).1
  | .renew key token lease now =>
      isFailure CheckpointRenewalOutcome.declines
        (store.renewCheckpointClaim key token lease now).1
  | .progress checkpoint token revision =>
      isFailure not (store.progressCheckpoint checkpoint token revision).1
  | .suspend checkpoint token revision =>
      isFailure not (store.suspendCheckpoint checkpoint token revision).1
  | .commit checkpoint token revision =>
      isFailure not (store.commitCheckpoint checkpoint token revision).1
  | .finalize clock checkpoint revision =>
      isFailure not (store.finalizeCheckpoint clock checkpoint revision).1
  | .finalizeClaimed clock checkpoint token revision =>
      isFailure not (store.finalizeClaimedCheckpoint clock checkpoint token revision).1
  | .recordToolReceipt clock checkpoint target result token revision =>
      isFailure not (store.recordToolReceipt clock checkpoint target result token revision).1
  | .acknowledge key revision => isFailure not (store.acknowledgeTerminal key revision).1
  | .recordEventDelivery key token revision eventId digest cursor =>
      isFailure not (store.recordEventDelivery key token revision eventId digest cursor).1
  | .admitDeferred clock key revision token cycle entries =>
      isFailure (fun _ => false)
        (store.admitDeferredBatch clock key revision token cycle entries).1
  | .acceptDeferred clock key revision token cycle decisions =>
      isFailure (fun _ => false)
        (store.acceptDeferredBatch clock key revision token cycle decisions).1
  | .resolveDeferred clock handle result =>
      isFailure DeferredResolveDecision.declines (store.resolveDeferred clock handle result).1
  | .produceHostInteraction clock request context =>
      isFailure (fun _ => false) (store.produceHostInteraction clock request context).1
  | .admitCommand clock command now =>
      isFailure (fun _ => false) (store.admitControllerCommand clock command now).1
  | .resolveCommand clock command now =>
      isFailure ControllerCommandResolution.declines
        (store.resolveControllerCommand clock command now).1
  | .consumeResponse clock envelope now =>
      isFailure (fun _ => false)
        (store.claimAndConsumeHostInteractionResponse clock envelope now).1
  | .reapHostInteraction recordId key now =>
      isFailure not (store.reapHostInteractionRecord recordId key now).1
  | .claimNotification notificationId digest token lease now =>
      isFailure Option.isNone
        (store.claimHostInteractionNotification notificationId digest token lease now).1
  | .completeNotification notificationId digest token attempt outcome now error =>
      isFailure Option.isNone
        (store.completeHostInteractionNotification notificationId digest token attempt outcome now
          error).1
  | .reconcileNotification notificationId digest outcome now reason =>
      isFailure Option.isNone
        (store.reconcileHostInteractionNotification notificationId digest outcome now reason).1
  | .claimWake commandId digest token lease now =>
      isFailure Option.isNone
        (store.claimControllerCommandWake commandId digest token lease now).1
  | .completeWake commandId digest token attempt outcome =>
      isFailure Option.isNone
        (store.completeControllerCommandWake commandId digest token attempt outcome).1
  | .reconcileWake commandId digest outcome =>
      isFailure Option.isNone (store.reconcileControllerCommandWake commandId digest outcome).1
  | .reapWakes key now => isFailure (fun _ => false) (store.reapControllerCommandWakes key now).1
  | .delete _ => false

/-- `persist_history` on the table of archives, in the order of the source: the row of the
checkpoint is opened before the batch is checked against it. -/
def persistHistoryInOrder (history : Table ArchivedHistory) (checkpoint : Checkpoint) :
    CheckpointResult Checkpoint × Table ArchivedHistory :=
  let archive := history[checkpoint.checkpointKey]?.getD {}
  if checkpoint.modelCalls.any fun record => archive.callIds.contains record.callId then
    (.error (historyError "model call identity is already archived"), history)
  else
    match normalizeCheckpointHistory checkpoint with
    | .error error => (.error error, history)
    | .ok (normalized, none) => (.ok normalized, history)
    | .ok (normalized, some batch) =>
        let opened := history.insert normalized.checkpointKey archive
        if archive.payloads.length + 1 != batch.sequence then
          (.error (historyError "history cursor does not match archive"), opened)
        else
          match canonicalJsonBytes batch.payload "checkpoint history" with
          | .error error => (.error error, opened)
          | .ok payload =>
              (.ok normalized,
                opened.insert normalized.checkpointKey (archive.append payload batch))

omit [Runtime] in
/-- An operation that writes only when it succeeds, and then only when it does not decline. -/
theorem atomically_failed {α : Type} {store : MemoryStore}
    {outcome : CheckpointResult (α × MemoryStore)} {declines : α → Bool}
    (h : ∀ answer after, outcome = .ok (answer, after) → declines answer = true → after = store)
    (hfails : isFailure declines (store.atomically outcome).1 = true) :
    (store.atomically outcome).2 = store := by
  cases outcome with
  | error error => rfl
  | ok pair => exact h pair.1 pair.2 rfl hfails

namespace MemoryStore

theorem update_failed (store : MemoryStore) (key : String)
    (prepare : Checkpoint → CheckpointResult (Option Checkpoint))
    (hfails : isFailure not (store.update key prepare).1 = true) :
    (store.update key prepare).2 = store := by
  refine atomically_failed (fun answer after h hdeclines => ?_) hfails
  split at h
  · exact (Prod.mk.inj (Except.ok.inj h)).2.symm
  simp only [bind_eq_ok] at h
  obtain ⟨prepared, _, h⟩ := h
  cases prepared with
  | none => exact (Prod.mk.inj (Except.ok.inj h)).2.symm
  | some updated =>
      simp only [bind_eq_ok, pure_ok, Except.ok.injEq, Prod.mk.injEq, Prod.exists] at h
      obtain ⟨_, _, _, rfl, _⟩ := h
      cases hdeclines

theorem createCheckpoint_failed (store : MemoryStore) (checkpoint : Checkpoint)
    (hfails : isFailure not (store.createCheckpoint checkpoint).1 = true) :
    (store.createCheckpoint checkpoint).2 = store := by
  refine atomically_failed (fun answer after h hdeclines => ?_) hfails
  simp only [unit_guard_bind] at h
  obtain ⟨_, h⟩ := h
  split at h
  · exact (Prod.mk.inj (Except.ok.inj h)).2.symm
  · obtain ⟨rfl, _⟩ := Prod.mk.inj (Except.ok.inj h)
    cases hdeclines

theorem claimCheckpoint_failed (store : MemoryStore) (key : String) (cycle : Nat)
    (token : String) (lease now : Nat) (mode : ClaimMode)
    (hfails : isFailure Option.isNone
      (store.claimCheckpoint key cycle token lease now mode).1 = true) :
    (store.claimCheckpoint key cycle token lease now mode).2 = store := by
  refine atomically_failed (fun answer after h hdeclines => ?_) hfails
  simp only [unit_guard_bind] at h
  obtain ⟨_, h⟩ := h
  split at h
  · exact (Prod.mk.inj (Except.ok.inj h)).2.symm
  simp only [bind_eq_ok] at h
  obtain ⟨_, _, prepared, _, h⟩ := h
  cases prepared with
  | none => exact (Prod.mk.inj (Except.ok.inj h)).2.symm
  | some claimed =>
      obtain ⟨rfl, _⟩ := Prod.mk.inj (Except.ok.inj h)
      cases hdeclines

omit [Runtime] in
theorem renewCheckpointClaim_failed (store : MemoryStore) (key token : String) (lease now : Nat)
    (hfails : isFailure CheckpointRenewalOutcome.declines
      (store.renewCheckpointClaim key token lease now).1 = true) :
    (store.renewCheckpointClaim key token lease now).2 = store := by
  refine atomically_failed (fun answer after h hdeclines => ?_) hfails
  simp only [unit_guard_bind] at h
  obtain ⟨_, h⟩ := h
  split at h
  · exact (Prod.mk.inj (Except.ok.inj h)).2.symm
  split at h
  · exact (Prod.mk.inj (Except.ok.inj h)).2.symm
  · obtain ⟨rfl, _⟩ := Prod.mk.inj (Except.ok.inj h)
    split at hdeclines <;> cases hdeclines

theorem recordToolReceipt_failed (store : MemoryStore) (clock : Clock) (checkpoint : Checkpoint)
    (target : ToolReceiptTarget) (result : ToolExecutionResult) (token : String) (revision : Nat)
    (hfails : isFailure not
      (store.recordToolReceipt clock checkpoint target result token revision).1 = true) :
    (store.recordToolReceipt clock checkpoint target result token revision).2 = store := by
  refine atomically_failed (fun answer after h hdeclines => ?_) hfails
  simp only [bind_eq_ok] at h
  obtain ⟨_, _, _, _, _, _, h⟩ := h
  split at h
  · exact (Prod.mk.inj (Except.ok.inj h)).2.symm
  simp only [bind_eq_ok] at h
  obtain ⟨_, _, h⟩ := h
  split at h
  · exact (Prod.mk.inj (Except.ok.inj h)).2.symm
  simp only [bind_eq_ok] at h
  obtain ⟨prepared, _, h⟩ := h
  cases prepared with
  | none => exact (Prod.mk.inj (Except.ok.inj h)).2.symm
  | some updated =>
      simp only [bind_eq_ok, pure_ok, Except.ok.injEq, Prod.mk.injEq, Prod.exists] at h
      obtain ⟨_, _, _, rfl, _⟩ := h
      cases hdeclines

theorem resolveDeferred_failed (store : MemoryStore) (clock : Clock)
    (handle : DeferredToolHandle) (result : ToolExecutionResult)
    (hfails : isFailure DeferredResolveDecision.declines
      (store.resolveDeferred clock handle result).1 = true) :
    (store.resolveDeferred clock handle result).2 = store := by
  refine atomically_failed (fun answer after h hdeclines => ?_) hfails
  simp only [bind_eq_ok] at h
  obtain ⟨_, _, key, _, h⟩ := h
  split at h
  · simp only [bind_eq_ok, refuse_eq_ok, exists_const, pure_ok, Except.ok.injEq,
      Prod.mk.injEq] at h
    obtain ⟨_, _, _, _, _, _, rfl⟩ := h
    rfl
  · simp only [bind_eq_ok] at h
    obtain ⟨checkpoint, _, target, _, h⟩ := h
    cases target with
    | inl decision => exact (Prod.mk.inj (Except.ok.inj h)).2.symm
    | inr entry =>
        simp only [bind_eq_ok, pure_ok, Except.ok.injEq, Prod.mk.injEq, Prod.exists] at h
        obtain ⟨_, _, _, _, _, _, rfl, _⟩ := h
        split at hdeclines <;> cases hdeclines

theorem reapHostInteractionRecord_failed (store : MemoryStore) (recordId key : String)
    (now : Nat)
    (hfails : isFailure not (store.reapHostInteractionRecord recordId key now).1 = true) :
    (store.reapHostInteractionRecord recordId key now).2 = store := by
  refine atomically_failed (fun answer after h hdeclines => ?_) hfails
  split at h
  · split at h
    · exact (Prod.mk.inj (Except.ok.inj h)).2.symm
    · simp only [bind_eq_ok, pure_ok, Except.ok.injEq, Prod.mk.injEq] at h
      obtain ⟨_, _, rfl, _⟩ := h
      cases hdeclines
  · exact (Prod.mk.inj (Except.ok.inj h)).2.symm

theorem claimHostInteractionNotification_failed (store : MemoryStore)
    (notificationId digest token : String) (lease now : Nat)
    (hfails : isFailure Option.isNone
      (store.claimHostInteractionNotification notificationId digest token lease now).1 = true) :
    (store.claimHostInteractionNotification notificationId digest token lease now).2 = store := by
  refine atomically_failed (fun answer after h hdeclines => ?_) hfails
  simp only [unit_guard_bind] at h
  obtain ⟨_, h⟩ := h
  split at h
  · exact (Prod.mk.inj (Except.ok.inj h)).2.symm
  simp only [unit_guard_bind] at h
  obtain ⟨_, h⟩ := h
  split at h
  · exact (Prod.mk.inj (Except.ok.inj h)).2.symm
  · simp only [bind_eq_ok, refuse_eq_ok, exists_const, require_eq_ok, pure_ok, Except.ok.injEq,
      Prod.mk.injEq] at h
    obtain ⟨_, _, _, _, _, rfl, _⟩ := h
    cases hdeclines

theorem completeHostInteractionNotification_failed (store : MemoryStore)
    (notificationId digest token : String) (attempt : Nat) (outcome : String) (now : Nat)
    (error : Option String)
    (hfails : isFailure Option.isNone
      (store.completeHostInteractionNotification notificationId digest token attempt outcome now
        error).1 = true) :
    (store.completeHostInteractionNotification notificationId digest token attempt outcome now
      error).2 = store := by
  refine atomically_failed (fun answer after h hdeclines => ?_) hfails
  simp only [unit_guard_bind] at h
  obtain ⟨_, h⟩ := h
  split at h
  · exact (Prod.mk.inj (Except.ok.inj h)).2.symm
  · simp only [bind_eq_ok, refuse_eq_ok, exists_const, pure_ok, Except.ok.injEq,
      Prod.mk.injEq] at h
    obtain ⟨_, _, _, _, rfl, _⟩ := h
    cases hdeclines

theorem reconcileHostInteractionNotification_failed (store : MemoryStore)
    (notificationId digest outcome : String) (now : Nat) (reason : Option String)
    (hfails : isFailure Option.isNone
      (store.reconcileHostInteractionNotification notificationId digest outcome now reason).1 =
        true) :
    (store.reconcileHostInteractionNotification notificationId digest outcome now reason).2 =
      store := by
  refine atomically_failed (fun answer after h hdeclines => ?_) hfails
  simp only [bind_eq_ok, refuse_eq_ok, exists_const, require_eq_ok] at h
  obtain ⟨target, _, _, h⟩ := h
  split at h
  · exact (Prod.mk.inj (Except.ok.inj h)).2.symm
  simp only [unit_guard_bind] at h
  obtain ⟨_, h⟩ := h
  split at h
  · exact (Prod.mk.inj (Except.ok.inj h)).2.symm
  · simp only [bind_eq_ok, refuse_eq_ok, exists_const, pure_ok, Except.ok.injEq,
      Prod.mk.injEq] at h
    obtain ⟨_, _, _, rfl, _⟩ := h
    cases hdeclines

omit [Runtime] in
theorem claimControllerCommandWake_failed (store : MemoryStore)
    (commandId digest token : String) (lease now : Nat)
    (hfails : isFailure Option.isNone
      (store.claimControllerCommandWake commandId digest token lease now).1 = true) :
    (store.claimControllerCommandWake commandId digest token lease now).2 = store := by
  refine atomically_failed (fun answer after h hdeclines => ?_) hfails
  simp only [unit_guard_bind] at h
  obtain ⟨_, h⟩ := h
  split at h
  · exact (Prod.mk.inj (Except.ok.inj h)).2.symm
  simp only [unit_guard_bind] at h
  obtain ⟨_, _, h⟩ := h
  split at h
  · exact (Prod.mk.inj (Except.ok.inj h)).2.symm
  split at h
  · simp only [unit_guard_bind] at h
    exact (Prod.mk.inj (Except.ok.inj h.2)).2.symm
  · simp only [bind_eq_ok, require_eq_ok, pure_ok, Except.ok.injEq, Prod.mk.injEq] at h
    obtain ⟨_, _, _, _, rfl, _⟩ := h
    cases hdeclines

omit [Runtime] in
theorem completeControllerCommandWake_failed (store : MemoryStore)
    (commandId digest token : String) (attempt : Nat) (outcome : String)
    (hfails : isFailure Option.isNone
      (store.completeControllerCommandWake commandId digest token attempt outcome).1 = true) :
    (store.completeControllerCommandWake commandId digest token attempt outcome).2 = store := by
  refine atomically_failed (fun answer after h hdeclines => ?_) hfails
  simp only [unit_guard_bind] at h
  obtain ⟨_, h⟩ := h
  split at h
  · exact (Prod.mk.inj (Except.ok.inj h)).2.symm
  simp only [unit_guard_bind] at h
  obtain ⟨_, h⟩ := h
  split at h
  · simp only [unit_guard_bind] at h
    exact (Prod.mk.inj (Except.ok.inj h.2)).2.symm
  · simp only [bind_eq_ok, refuse_eq_ok, exists_const, pure_ok, Except.ok.injEq,
      Prod.mk.injEq] at h
    obtain ⟨_, _, _, rfl, _⟩ := h
    cases hdeclines

omit [Runtime] in
theorem reconcileControllerCommandWake_failed (store : MemoryStore)
    (commandId digest outcome : String)
    (hfails : isFailure Option.isNone
      (store.reconcileControllerCommandWake commandId digest outcome).1 = true) :
    (store.reconcileControllerCommandWake commandId digest outcome).2 = store := by
  refine atomically_failed (fun answer after h hdeclines => ?_) hfails
  simp only [unit_guard_bind] at h
  obtain ⟨_, h⟩ := h
  split at h
  · exact (Prod.mk.inj (Except.ok.inj h)).2.symm
  · simp only [bind_eq_ok, refuse_eq_ok, exists_const, pure_ok, Except.ok.injEq,
      Prod.mk.injEq] at h
    obtain ⟨_, _, _, _, rfl, _⟩ := h
    cases hdeclines

/-- A command that is refused has written nothing: its receipt never fails its check. -/
theorem applyControllerCommand_failed (store : MemoryStore) (clock : Clock)
    (command : ControllerCommand) (now : Nat) (hcommand : command.validate = .ok ())
    {error : CheckpointError} {after : MemoryStore}
    (h : store.applyControllerCommand clock command now = (.error error, after)) :
    after = store := by
  rcases store.applyControllerCommand_cases clock command now hcommand with
    ⟨_, herror⟩ | ⟨_, _, _, _, _, hok⟩
  · rw [herror] at h
    exact (Prod.mk.inj h).2.symm
  · rw [hok] at h
    cases (Prod.mk.inj h).1

theorem admitControllerCommand_failed (store : MemoryStore) (clock : Clock)
    (command : ControllerCommand) (now : Nat)
    (hfails : isFailure (fun _ => false) (store.admitControllerCommand clock command now).1 =
      true) :
    (store.admitControllerCommand clock command now).2 = store := by
  unfold admitControllerCommand at hfails ⊢
  split
  · rfl
  rename_i hcommand
  rw [hcommand] at hfails
  split
  · rfl
  rename_i hnew
  rw [hnew] at hfails
  split
  · rename_i herror
    exact store.applyControllerCommand_failed clock command now hcommand herror
  · rename_i hok
    rw [hok] at hfails
    cases hfails

theorem resolveControllerCommand_failed (store : MemoryStore) (clock : Clock)
    (command : ControllerCommand) (now : Nat)
    (hfails : isFailure ControllerCommandResolution.declines
      (store.resolveControllerCommand clock command now).1 = true) :
    (store.resolveControllerCommand clock command now).2 = store := by
  unfold resolveControllerCommand at hfails ⊢
  split
  · rfl
  rename_i hcommand
  rw [hcommand] at hfails
  split
  · rfl
  rename_i hnew
  rw [hnew] at hfails
  rcases store.applyControllerCommand_cases clock command now hcommand with
    ⟨_, herror⟩ | ⟨_, _, _, _, _, hok⟩
  · rw [herror]
  · rw [hok] at hfails
    cases hfails

/-- The answer of a recovery that has been written passes its check. -/
theorem recoveryResult_valid {clock : Clock} {current updated stored : Checkpoint}
    {record : HostInteractionRecord} {response : HostInteractionResponse}
    {envelope : HostInteractionRecoveryEnvelope} {now : Nat} {archive after : ArchivedHistory}
    (hprepared : prepareConsume clock current record response envelope now = .ok updated)
    (hconsumed : (record.consumed updated.revision).validate = .ok ())
    (hpersist : persistHistory archive updated = .ok (stored, after)) :
    (recoveryResult "applied" stored (record.consumed updated.revision)).validate = .ok () := by
  have hvalid := ((validateCheckpoint_eq_ok updated).mp (prepareConsume_eq_ok hprepared).1).2.2.1
  simp only [validateIdentity, unit_guard_bind, refuse_eq_ok, Bool.or_eq_false_iff,
    beq_eq_false_iff_ne, decide_eq_false_iff_not, not_lt] at hvalid
  obtain ⟨_, _, _, _, ⟨hattempt, hattemptMax⟩, _, hrevision⟩ := hvalid
  have hframe : stored.revision = updated.revision ∧
      stored.resumeAttempt = updated.resumeAttempt := by
    rcases (persistHistory_eq_ok hpersist).2 with ⟨_, rfl, _⟩ | ⟨_, _, _, _, _, _, _, rfl, _⟩
    · exact ⟨rfl, rfl⟩
    · exact ⟨rfl, rfl⟩
  have hid : isBlank record.recordId = false := by
    simp only [HostInteractionRecord.validate, unit_guard_bind, refuse_eq_ok,
      Bool.or_eq_false_iff, badIdentity] at hconsumed
    exact hconsumed.2.1.1.1
  simp [HostInteractionRecoveryResult.validate, recoveryResult, HostInteractionRecord.consumed,
    hframe, hid, hattempt, refuse, Nat.not_lt.mpr hrevision, Nat.not_lt.mpr hattemptMax]

theorem consumeResponse_failed (store : MemoryStore) (clock : Clock)
    (envelope : HostInteractionRecoveryEnvelope) (now : Nat)
    (hfails : isFailure (fun _ => false)
      (store.claimAndConsumeHostInteractionResponse clock envelope now).1 = true) :
    (store.claimAndConsumeHostInteractionResponse clock envelope now).2 = store := by
  unfold claimAndConsumeHostInteractionResponse at hfails ⊢
  dsimp only at hfails ⊢
  split
  · rfl
  rename_i current record hfound
  rw [hfound] at hfails
  dsimp only at hfails
  split
  · rename_i hconsumed
    rw [if_pos hconsumed] at hfails
    exact atomically_failed (fun _ _ _ hdeclines => absurd hdeclines (by simp)) hfails
  rename_i hopen
  rw [if_neg hopen] at hfails
  split
  · rfl
  rename_i stored consumed after hconsumed
  rw [hconsumed] at hfails
  simp only [consumeResponse, bind_eq_ok, refuse_eq_ok, exists_const, require_eq_ok, pure_ok,
    Except.ok.injEq, Prod.mk.injEq, Prod.exists] at hconsumed
  obtain ⟨_, _, _, updated, hprepared, _, hvalid, _, _, hpersist, rfl, rfl, _⟩ := hconsumed
  obtain ⟨_, hstored, _⟩ := persist_eq_ok hpersist
  dsimp only at hfails
  rw [recoveryResult_valid hprepared hvalid hstored] at hfails
  cases hfails

end MemoryStore

/-- Every receipt of a command passes its check. -/
def ReceiptsValid (store : MemoryStore) : Prop :=
  ∀ (commandId : String) (receipt : ControllerCommandReceipt)
    (resolution : ControllerCommandResolution),
    store.ledger.commandReceipts[commandId]? = some (receipt, resolution) →
      receipt.validate = .ok ()

omit [Runtime] in
theorem WakeRowStep.receipt_valid {before after : WakeRow} (h : WakeRowStep before after)
    (hbefore : ∀ receipt resolution, before.receipt = some (receipt, resolution) →
      receipt.validate = .ok ())
    (receipt : ControllerCommandReceipt) (resolution : ControllerCommandResolution)
    (hafter : after.receipt = some (receipt, resolution)) : receipt.validate = .ok () := by
  cases h with
  | kept => exact hbefore receipt resolution hafter
  | claimed _ _ _ _ _ hvalid =>
      obtain ⟨rfl, _⟩ := Prod.mk.inj (Option.some.inj hafter)
      exact hvalid
  | released _ _ _ _ _ hvalid =>
      obtain ⟨rfl, _⟩ := Prod.mk.inj (Option.some.inj hafter)
      exact hvalid
  | decided _ _ _ _ _ hvalid =>
      obtain ⟨rfl, _⟩ := Prod.mk.inj (Option.some.inj hafter)
      exact hvalid

/-- Receipts are checked when they are written. -/
theorem exec_receiptsValid (op : StoreOp) {store : MemoryStore} (h : ReceiptsValid store) :
    ReceiptsValid (exec op store) := by
  intro commandId receipt resolution hrow
  cases exec_rows op store with
  | unchanged hafter =>
      rw [hafter] at hrow
      exact h _ _ _ hrow
  | kept _ hledger _ =>
      rw [hledger] at hrow
      exact h _ _ _ hrow
  | resolved _ _ _ _ _ _ hledger _ =>
      rw [hledger] at hrow
      exact h _ _ _ hrow
  | asked _ _ _ _ _ _ _ _ _ _ _ _ _ _ _ hafter =>
      rw [hafter] at hrow
      exact h _ _ _ hrow
  | commanded _ command _ current effect _ _ _ _ _ hvalid hafter =>
      rw [hafter] at hrow
      simp only [MemoryStore.retainReceipt, Table.get_insert] at hrow
      split at hrow
      · obtain ⟨rfl, _⟩ := Prod.mk.inj (Option.some.inj hrow)
        exact hvalid
      · refine h commandId receipt resolution ?_
        cases heq : effect.hostRecord <;> (rw [heq] at hrow; exact hrow)
  | consumed _ _ _ _ _ _ _ _ _ _ _ _ _ _ _ _ _ _ _ hafter =>
      rw [hafter] at hrow
      exact h _ _ _ hrow
  | unclaimed _ _ _ _ _ hafter =>
      rw [hafter] at hrow
      exact h _ _ _ hrow
  | notified _ _ _ _ _ hafter =>
      rw [hafter] at hrow
      exact h _ _ _ hrow
  | woken hrows _ => exact (hrows commandId).receipt_valid (h commandId) receipt resolution hrow
  | deleted key _ hafter =>
      rw [hafter] at hrow
      simp only [MemoryStore.deleteCheckpoint, Table.get_filter, Option.filter_eq_some_iff] at hrow
      exact h _ _ _ hrow.1

/-- A pending wake can be handed out. -/
theorem unclaimedWake_ok {receipt : ControllerCommandReceipt}
    (hvalid : receipt.validate = .ok ()) (haction : receipt.outboxAction = "recovery_dispatch")
    (hpending : receipt.outboxState = "pending") :
    ∃ record, unclaimedWake receipt = .ok record := by
  obtain ⟨outboxId, hid⟩ : ∃ outboxId,
      controllerReceiptOutboxId receipt.commandId receipt.commandDigest = .ok outboxId :=
    ⟨_, rfl⟩
  have hparts := hvalid
  simp only [ControllerCommandReceipt.validate, unit_guard_bind, refuse_eq_ok,
    Bool.or_eq_false_iff, haction, hpending] at hparts
  obtain ⟨_, hcommandId, hdigest, hhandle, ⟨⟨⟨⟨hattempt, hattemptMax⟩, hexpected⟩, hresulting⟩, houtbox⟩,
    _, hstatus, _, hdestination, _⟩ := hparts
  have hdistributed : receipt.outboxDestination = some "distributed_advance" := by
    simpa using hdestination
  have hkey : badIdentity receipt.handle.checkpointKey = false := by
    have hfields := hhandle
    simp only [ControllerHandle.validate, checkAll, unit_guard_bind, refuse_eq_ok] at hfields
    exact hfields.1
  simp [unclaimedWake, ControllerCommandWakeRecord.fromReceiptLifecycle,
    ControllerCommandWakeRecord.validate, ControllerCommandWakeRecord.validateAction, hvalid, hid,
    haction, hdistributed, hpending, hcommandId, hkey, hdigest, hhandle, hattempt, hattemptMax,
    hexpected, hresulting, houtbox, hstatus, refuse]

omit [Runtime] in
/-- A wake that goes back to the dispatcher keeps a good receipt. -/
theorem ControllerCommandReceipt.validate_pending {receipt : ControllerCommandReceipt}
    (h : receipt.validate = .ok ()) (haction : receipt.outboxAction = "recovery_dispatch") :
    { receipt with outboxState := "pending" }.validate = .ok () := by
  simp only [ControllerCommandReceipt.validate, unit_guard_bind, refuse_eq_ok] at h ⊢
  obtain ⟨hschema, hcommandId, hdigest, hhandle, hintegers, _, hstatus, hlong, hdestination, _⟩ := h
  exact ⟨hschema, hcommandId, hdigest, hhandle, hintegers, by decide, hstatus, hlong, hdestination,
    by simp [haction]⟩

namespace MemoryStore

/-- Handing one wake back does not fail, and leaves good receipts. -/
theorem reapWake_ok {store : MemoryStore} (h : ReceiptsValid store) (key commandId : String)
    (now : Nat) :
    (∃ reaped, (store.reapWake key commandId now).1 = .ok reaped) ∧
      ReceiptsValid (store.reapWake key commandId now).2 := by
  unfold reapWake
  split
  · exact ⟨⟨none, rfl⟩, h⟩
  rename_i receipt resolution hrow
  have hvalid := h commandId receipt resolution hrow
  split
  · exact ⟨⟨none, rfl⟩, h⟩
  rename_i hdispatch
  have haction : receipt.outboxAction = "recovery_dispatch" := by
    by_contra hother
    exact hdispatch (.inr hother)
  split
  · rename_i hpending
    obtain ⟨record, hrecord⟩ := unclaimedWake_ok hvalid haction hpending
    exact ⟨⟨some record, by rw [hrecord]; rfl⟩, h⟩
  split
  · exact ⟨⟨none, rfl⟩, h⟩
  have hupdated := receipt.validate_pending hvalid haction
  dsimp only
  rw [hupdated]
  dsimp only
  obtain ⟨record, hrecord⟩ := unclaimedWake_ok hupdated haction rfl
  refine ⟨⟨some record, by rw [hrecord]; rfl⟩, ?_⟩
  intro other found decision hfound
  simp only [putReceipt, Table.get_insert] at hfound
  split at hfound
  · obtain ⟨rfl, _⟩ := Prod.mk.inj (Option.some.inj hfound)
    exact hupdated
  · exact h other found decision hfound

/-- Handing wakes back does not fail half way. -/
theorem reapWakes_ok (commandIds : List String) {store : MemoryStore} (h : ReceiptsValid store)
    (key : String) (now : Nat) :
    ∃ reaped, (store.reapWakes key now commandIds).1 = .ok reaped := by
  induction commandIds generalizing store with
  | nil => exact ⟨[], rfl⟩
  | cons commandId rest ih =>
      obtain ⟨⟨first, hfirst⟩, hafter⟩ := reapWake_ok h key commandId now
      obtain ⟨later, hlater⟩ := ih hafter
      unfold reapWakes
      split
      · rename_i heq
        rw [heq] at hfirst
        cases hfirst
      · rename_i reaped after heq
        rw [heq] at hlater
        dsimp only at hlater ⊢
        rw [hlater]
        exact ⟨_, rfl⟩

end MemoryStore

/-- The archives after a record was offered to the archive of the model. -/
def archivesAfter (store : MemoryStore) (key : String) :
    CheckpointResult (Checkpoint × ArchivedHistory) → ArchivedHistory
  | .ok (stored, archive) => if stored.checkpointKey = key then archive else store.archiveOf key
  | .error _ => store.archiveOf key

/-- In the source the archive gives the answers of the model and leaves its archives; a
failure can only open an empty one. -/
theorem persistHistoryInOrder_spec (store : MemoryStore) (checkpoint : Checkpoint) :
    (persistHistoryInOrder store.history checkpoint).1 =
        (persistHistory (store.archiveOf checkpoint.checkpointKey) checkpoint).map Prod.fst ∧
      ∀ key, (persistHistoryInOrder store.history checkpoint).2[key]?.getD {} =
        archivesAfter store key
          (persistHistory (store.archiveOf checkpoint.checkpointKey) checkpoint) := by
  unfold persistHistory persistHistoryInOrder
  rw [show store.history[checkpoint.checkpointKey]?.getD {} =
    store.archiveOf checkpoint.checkpointKey from rfl]
  dsimp only
  generalize (checkpoint.modelCalls.any fun record =>
    (store.archiveOf checkpoint.checkpointKey).callIds.contains record.callId) = archived
  cases archived with
  | true => exact ⟨rfl, fun key => rfl⟩
  | false =>
      cases hnormalized : normalizeCheckpointHistory checkpoint with
      | error failure => exact ⟨rfl, fun key => rfl⟩
      | ok pair =>
          obtain ⟨normalized, batch⟩ := pair
          have hkey : normalized.checkpointKey = checkpoint.checkpointKey := by
            rcases normalizeCheckpointHistory_eq_ok hnormalized with
              ⟨_, rfl, _⟩ | ⟨_, _, _, _, _, _, rfl, _⟩
            · rfl
            · rfl
          cases batch with
          | none =>
              refine ⟨rfl, fun key => ?_⟩
              change store.archiveOf key = if normalized.checkpointKey = key then _ else _
              split
              · rename_i hsame
                rw [← hsame, hkey]
              · rfl
          | some batch =>
              have hopened : ∀ key, (store.history.insert normalized.checkpointKey
                  (store.archiveOf checkpoint.checkpointKey))[key]?.getD {} =
                  store.archiveOf key := by
                intro key
                rw [Table.get_insert, hkey]
                split
                · rename_i hsame
                  rw [← hsame]
                  rfl
                · rfl
              simp only [refuse, ok_bind, Bool.false_eq_true, if_false]
              cases (store.archiveOf checkpoint.checkpointKey).payloads.length + 1 !=
                batch.sequence with
              | true => exact ⟨rfl, hopened⟩
              | false =>
                  cases canonicalJsonBytes batch.payload "checkpoint history" with
                  | error failure => exact ⟨rfl, hopened⟩
                  | ok payload =>
                      refine ⟨rfl, fun key => ?_⟩
                      change ((store.history.insert _ _).insert _ _)[key]?.getD {} =
                        if normalized.checkpointKey = key then _ else _
                      rw [Table.get_insert, Table.get_insert]
                      split
                      · rfl
                      · rfl

/-- For a record whose frontier is at the end of the archive, whatever fails, fails before its
row is opened. -/
theorem persistHistoryInOrder_untouched {history : Table ArchivedHistory}
    {checkpoint : Checkpoint} {error : CheckpointError}
    (hsequence : (history[checkpoint.checkpointKey]?.getD {}).payloads.length =
      checkpoint.history.sequence)
    (hfails : (persistHistoryInOrder history checkpoint).1 = .error error) :
    (persistHistoryInOrder history checkpoint).2 = history := by
  unfold persistHistoryInOrder at hfails ⊢
  dsimp only at hfails ⊢
  generalize (checkpoint.modelCalls.any fun record =>
    (history[checkpoint.checkpointKey]?.getD {}).callIds.contains record.callId) = archived
    at hfails ⊢
  cases archived with
  | true => rfl
  | false =>
      cases hnormalized : normalizeCheckpointHistory checkpoint with
      | error failure => rfl
      | ok pair =>
          obtain ⟨normalized, batch⟩ := pair
          rw [hnormalized] at hfails
          rcases normalizeCheckpointHistory_eq_ok hnormalized with
            ⟨_, rfl, rfl⟩ | ⟨digest, terminal, _, hdigest, _, _, rfl, rfl⟩
          · rfl
          · have hcanonical : canonicalJsonBytes checkpoint.archivePayload "checkpoint history" =
                .ok checkpoint.archivePayload.canonical :=
              (canonicalJsonBytes_eq_ok _ _ _).mpr
                ⟨((sha256Canonical_eq_ok _ _ _).mp hdigest).1, rfl⟩
            simp [hsequence, hcanonical] at hfails

/-- What a failed call leaves, call by call. -/
theorem exec_failed (op : StoreOp) {store : MemoryStore} (hreceipts : ReceiptsValid store)
    (hfails : op.fails store = true) : exec op store = store := by
  cases op with
  | create checkpoint => exact store.createCheckpoint_failed checkpoint hfails
  | claim key cycle token lease now mode =>
      exact store.claimCheckpoint_failed key cycle token lease now mode hfails
  | renew key token lease now => exact store.renewCheckpointClaim_failed key token lease now hfails
  | progress => exact store.update_failed _ _ hfails
  | suspend => exact store.update_failed _ _ hfails
  | commit => exact store.update_failed _ _ hfails
  | finalize => exact store.update_failed _ _ hfails
  | finalizeClaimed => exact store.update_failed _ _ hfails
  | recordToolReceipt clock checkpoint target result token revision =>
      exact store.recordToolReceipt_failed clock checkpoint target result token revision hfails
  | acknowledge => exact store.update_failed _ _ hfails
  | recordEventDelivery => exact store.update_failed _ _ hfails
  | admitDeferred | acceptDeferred | produceHostInteraction =>
      exact atomically_failed (fun _ _ _ hdeclines => absurd hdeclines (by simp)) hfails
  | resolveDeferred clock handle result =>
      exact store.resolveDeferred_failed clock handle result hfails
  | admitCommand clock command now =>
      exact store.admitControllerCommand_failed clock command now hfails
  | resolveCommand clock command now =>
      exact store.resolveControllerCommand_failed clock command now hfails
  | consumeResponse clock envelope now =>
      exact store.consumeResponse_failed clock envelope now hfails
  | reapHostInteraction recordId key now =>
      exact store.reapHostInteractionRecord_failed recordId key now hfails
  | claimNotification notificationId digest token lease now =>
      exact store.claimHostInteractionNotification_failed notificationId digest token lease now
        hfails
  | completeNotification notificationId digest token attempt outcome now error =>
      exact store.completeHostInteractionNotification_failed notificationId digest token attempt
        outcome now error hfails
  | reconcileNotification notificationId digest outcome now reason =>
      exact store.reconcileHostInteractionNotification_failed notificationId digest outcome now
        reason hfails
  | claimWake commandId digest token lease now =>
      exact store.claimControllerCommandWake_failed commandId digest token lease now hfails
  | completeWake commandId digest token attempt outcome =>
      exact store.completeControllerCommandWake_failed commandId digest token attempt outcome
        hfails
  | reconcileWake commandId digest outcome =>
      exact store.reconcileControllerCommandWake_failed commandId digest outcome hfails
  | reapWakes key now =>
      obtain ⟨reaped, hreaped⟩ :=
        MemoryStore.reapWakes_ok (store.wakeCandidates key now) hreceipts key now
      simp [StoreOp.fails, MemoryStore.reapControllerCommandWakes, hreaped, isFailure] at hfails
  | delete => cases hfails

/-- `save_checkpoint`: a valid record is put into the store, whatever is there. -/
def MemoryStore.saveCheckpoint (store : MemoryStore) (checkpoint : Checkpoint) :
    StoreResult Unit :=
  match validateCheckpoint checkpoint with
  | .error error => (.error error, store)
  | .ok () =>
      match persistHistoryInOrder store.history checkpoint with
      | (.error error, history) => (.error error, { store with history })
      | (.ok stored, history) =>
          (.ok (), { store with
            checkpoints := store.checkpoints.insert stored.checkpointKey stored
            history })

/-- A call of the store type: an operation of the trait, or a record that is put in. -/
inductive StoreCall where
  | operation (op : StoreOp)
  | save (checkpoint : Checkpoint)

def execCall (call : StoreCall) (store : MemoryStore) : MemoryStore :=
  match call with
  | .operation op => exec op store
  | .save checkpoint => (store.saveCheckpoint checkpoint).2

def StoreCall.fails (call : StoreCall) (store : MemoryStore) : Bool :=
  match call with
  | .operation op => op.fails store
  | .save checkpoint => isFailure (fun _ => false) (store.saveCheckpoint checkpoint).1

/-- The same rows in all tables; an absent archive is an empty one. -/
structure SameRows (before after : MemoryStore) : Prop where
  checkpoints : after.checkpoints = before.checkpoints
  archives : ∀ key, after.archiveOf key = before.archiveOf key
  deferredReceipts : after.deferredReceipts = before.deferredReceipts
  ledger : after.ledger = before.ledger

omit [Runtime] in
theorem SameRows.of_eq {before after : MemoryStore} (h : after = before) :
    SameRows before after where
  checkpoints := by rw [h]
  archives _ := by rw [h]
  deferredReceipts := by rw [h]
  ledger := by rw [h]

/-- A record that is not taken leaves the rows as they were. -/
theorem saveCheckpoint_failed {store : MemoryStore} {checkpoint : Checkpoint}
    (hfails : isFailure (fun _ => false) (store.saveCheckpoint checkpoint).1 = true) :
    SameRows store (store.saveCheckpoint checkpoint).2 := by
  obtain ⟨hanswer, harchives⟩ := persistHistoryInOrder_spec store checkpoint
  unfold MemoryStore.saveCheckpoint at hfails ⊢
  split
  · exact .of_eq rfl
  rename_i hvalid
  rw [hvalid] at hfails
  split
  · rename_i error history hpersist
    rw [hpersist] at hanswer harchives
    refine ⟨rfl, fun key => ?_, rfl, rfl⟩
    cases hmodel : persistHistory (store.archiveOf checkpoint.checkpointKey) checkpoint with
    | error _ =>
        rw [hmodel] at harchives
        exact harchives key
    | ok _ =>
        rw [hmodel] at hanswer
        cases hanswer
  · rename_i hpersist
    rw [hpersist] at hfails
    cases hfails

theorem saveCheckpoint_ledger (store : MemoryStore) (checkpoint : Checkpoint) :
    (store.saveCheckpoint checkpoint).2.ledger = store.ledger := by
  unfold MemoryStore.saveCheckpoint
  split
  · rfl
  · split
    · rfl
    · rfl

/-- A receipt in a store that has been reached by any calls passes its check. -/
theorem runCalls_receiptsValid (calls : List StoreCall) :
    ReceiptsValid (run execCall calls {}) := by
  refine run_preserves execCall (fun _ => True) ReceiptsValid ?_ calls (fun _ _ => trivial) {}
    (fun _ _ _ hrow => by simp at hrow)
  intro call store _ h
  cases call with
  | operation op => exact exec_receiptsValid op h
  | save checkpoint =>
      intro commandId receipt resolution hrow
      rw [execCall, saveCheckpoint_ledger] at hrow
      exact h commandId receipt resolution hrow

/-- In every store that has been reached, a call that fails or declines leaves the rows of all
tables as they were. What the calls do to the archives is what the source does, where the row
is opened before the batch is checked. And in a store that was reached by the operations of
the trait alone, nothing at all is written by a call that fails, not even an empty archive. -/
theorem failure_atomic (calls : List StoreCall) (call : StoreCall) :
    (call.fails (run execCall calls {}) = true →
      SameRows (run execCall calls {}) (execCall call (run execCall calls {}))) ∧
    (∀ checkpoint : Checkpoint,
      (persistHistoryInOrder (run execCall calls {}).history checkpoint).1 =
          (persistHistory ((run execCall calls {}).archiveOf checkpoint.checkpointKey)
            checkpoint).map Prod.fst ∧
        ∀ key, (persistHistoryInOrder (run execCall calls {}).history checkpoint).2[key]?.getD {} =
          archivesAfter (run execCall calls {}) key
            (persistHistory ((run execCall calls {}).archiveOf checkpoint.checkpointKey)
              checkpoint)) ∧
    ∀ (ops : List StoreOp) (op : StoreOp),
      (op.fails (run exec ops {}) = true → exec op (run exec ops {}) = run exec ops {}) ∧
        ∀ (key : String) (current updated : Checkpoint) (error : CheckpointError),
          (run exec ops {}).checkpoints[key]? = some current → Made op key current updated →
          (persistHistoryInOrder (run exec ops {}).history updated).1 = .error error →
          (persistHistoryInOrder (run exec ops {}).history updated).2 =
            (run exec ops {}).history := by
  refine ⟨fun hfails => ?_, persistHistoryInOrder_spec _, fun ops op => ⟨fun hfails => ?_, ?_⟩⟩
  · cases call with
    | operation op => exact .of_eq (exec_failed op (runCalls_receiptsValid calls) hfails)
    | save checkpoint => exact saveCheckpoint_failed hfails
  · have hreceipts : ReceiptsValid (run exec ops {}) :=
      run_preserves exec (fun _ => True) ReceiptsValid
        (fun op store _ h => exec_receiptsValid op h) ops (fun _ _ => trivial) {}
        (fun _ _ _ hrow => by simp at hrow)
    exact exec_failed op hreceipts hfails
  · intro key current updated error hfound hmade
    apply persistHistoryInOrder_untouched
    have hkey : updated.checkpointKey = key :=
      hmade.checkpointKey.trans (run_keyed ops key current hfound)
    have hsound := run_line_sound ops key
    rw [hkey, hmade.carries.history]
    unfold MemoryStore.line at hsound
    rw [hfound] at hsound
    cases hsound with
    | present _ _ hfiled => exact hfiled.sequence

end

end VvAgent
