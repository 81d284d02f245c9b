import VvAgent.Store.Ops

/-!
One step of the store. Every operation leaves the tables of records and archives alone, or
creates, replaces or deletes one record; a replaced record was made from the stored one by
the operation, and most are archived on the way.
-/

namespace VvAgent
open Lib Lib.Outcome

/-- Records are filed under their own keys. -/
def Keyed (store : MemoryStore) : Prop :=
  ∀ (key : String) (checkpoint : Checkpoint), store.checkpoints[key]? = some checkpoint →
    checkpoint.checkpointKey = key

theorem keyed_empty : Keyed {} := by
  intro key checkpoint hfound
  simp at hfound

/-- Tables that differ in the ledger only. -/
def MemoryStore.LedgerOnly (before after : MemoryStore) : Prop :=
  after.checkpoints = before.checkpoints ∧ after.history = before.history ∧
    after.deferredReceipts = before.deferredReceipts

theorem MemoryStore.LedgerOnly.refl (store : MemoryStore) : LedgerOnly store store := ⟨rfl, rfl, rfl⟩

theorem MemoryStore.LedgerOnly.trans {first second third : MemoryStore} (h : LedgerOnly first second)
    (h' : LedgerOnly second third) : LedgerOnly first third :=
  ⟨h'.1.trans h.1, h'.2.1.trans h.2.1, h'.2.2.trans h.2.2⟩

/-- An atomic operation that succeeds has computed its answer and its tables. -/
theorem MemoryStore.atomically_eq_ok {α : Type} {store : MemoryStore}
    {outcome : CheckpointResult (α × MemoryStore)} {answer : α}
    (h : (store.atomically outcome).1 = .ok answer) :
    ∃ after, outcome = .ok (answer, after) ∧ (store.atomically outcome).2 = after := by
  cases outcome with
  | ok pair =>
      simp only [MemoryStore.atomically, Except.ok.injEq] at h
      exact ⟨pair.2, by rw [← h], rfl⟩
  | error error => simp [MemoryStore.atomically] at h

theorem MemoryStore.atomically_ledgerOnly {α : Type} {store : MemoryStore}
    {outcome : CheckpointResult (α × MemoryStore)}
    (h : Yields outcome fun pair => LedgerOnly store pair.2) :
    LedgerOnly store (store.atomically outcome).2 := by
  cases outcome with
  | ok pair => exact h pair rfl
  | error error => exact .refl store

section
variable [Runtime]

/-- A command that was applied: its fence, and what it made of the record. -/
theorem applyControllerCommand_eq_ok {clock : Clock} {lookup : HostRecordLookup}
    {current : Checkpoint} {command : ControllerCommand} {nowMs : Nat} {effect : CommandEffect}
    (h : applyControllerCommand clock lookup current command nowMs = .ok effect) :
    current.resumeAttempt = command.resumeAttempt ∧
      current.revision = command.expectedRevision ∧ current.terminalResult = none ∧
      validateCheckpoint effect.checkpoint = .ok () ∧
      CommandCase current command nowMs effect.checkpoint := by
  simp only [applyControllerCommand, guardCommandFence, guardCommandTerminal, guardCommandClaim,
    bind_eq_ok, refuse_eq_ok, exists_const, Bool.or_eq_false_iff, Bool.and_eq_false_iff,
    bne_eq_false_iff_eq, Option.isSome_eq_false_iff, Option.isNone_iff_eq_none] at h
  obtain ⟨⟨_, hattempt, hrevision⟩, ⟨hterminal, _⟩, hclaim, _, _, _, _, h⟩ := h
  have hcancel (hlive : current.claimLive nowMs = true) : command.command = .cancel := by
    rcases hclaim with hidle | hcancel
    · simp [hlive] at hidle
    · exact hcancel
  obtain ⟨hvalid, hcase⟩ := transformByCommand_eq_ok hcancel h
  exact ⟨hattempt, hrevision, hterminal, hvalid, hcase⟩

/-- What one operation does to the tables of records and archives. -/
inductive TableStep (op : StoreOp) (before after : MemoryStore) : Prop
  | kept (hcheckpoints : after.checkpoints = before.checkpoints)
      (hhistory : after.history = before.history)
  | created (checkpoint : Checkpoint) (hop : op = .create checkpoint)
      (hnew : before.checkpoints[checkpoint.checkpointKey]? = none)
      (hvalid : validateCheckpointCreation checkpoint = .ok ())
      (hcheckpoints :
        after.checkpoints = before.checkpoints.insert checkpoint.checkpointKey checkpoint)
      (hhistory : after.history = before.history)
  | replaced (key : String) (current updated : Checkpoint)
      (hfound : before.checkpoints[key]? = some current)
      (hmade : Made op key current updated) (hplain : op.writesPlain = true)
      (hcheckpoints : after.checkpoints = before.checkpoints.insert key updated)
      (hhistory : after.history = before.history)
  | archived (key : String) (current updated stored : Checkpoint) (archive : ArchivedHistory)
      (hfound : before.checkpoints[key]? = some current)
      (hmade : Made op key current updated)
      (hpersist : persistHistory (before.archiveOf updated.checkpointKey) updated =
        .ok (stored, archive))
      (hcheckpoints : after.checkpoints = before.checkpoints.insert key stored)
      (hhistory : after.history = before.history.insert stored.checkpointKey archive)
  | deleted (key : String) (hop : op = .delete key)
      (hcheckpoints : after.checkpoints = before.checkpoints.erase key)
      (hhistory : after.history = before.history.erase key)

theorem MemoryStore.persist_eq_ok {store after : MemoryStore} {key : String} {updated stored : Checkpoint}
    (h : store.persist key updated = .ok (stored, after)) :
    ∃ archive,
      persistHistory (store.archiveOf updated.checkpointKey) updated = .ok (stored, archive) ∧
      after = store.write key stored archive := by
  simp only [MemoryStore.persist, bind_eq_ok, pure_ok, Except.ok.injEq, Prod.mk.injEq, Prod.exists] at h
  obtain ⟨_, archive, hpersist, rfl, rfl⟩ := h
  exact ⟨archive, hpersist, rfl⟩

/-- A persisted record is an archived step, whatever happens to the other tables. -/
theorem TableStep.ofPersist {op : StoreOp} {before after written : MemoryStore} {key : String}
    {current updated stored : Checkpoint} (hfound : before.checkpoints[key]? = some current)
    (hmade : Made op key current updated)
    (hpersist : before.persist key updated = .ok (stored, written))
    (hcheckpoints : after.checkpoints = written.checkpoints)
    (hhistory : after.history = written.history) : TableStep op before after := by
  obtain ⟨archive, hstored, rfl⟩ := MemoryStore.persist_eq_ok hpersist
  exact .archived key current updated stored archive hfound hmade hstored hcheckpoints hhistory

/-- A step is about the records and the archives only. -/
theorem TableStep.congr {op : StoreOp} {before after other : MemoryStore}
    (h : TableStep op before after) (hcheckpoints : other.checkpoints = after.checkpoints)
    (hhistory : other.history = after.history) : TableStep op before other := by
  cases h with
  | kept hc hh => exact .kept (hcheckpoints.trans hc) (hhistory.trans hh)
  | created checkpoint hop hnew hvalid hc hh =>
      exact .created checkpoint hop hnew hvalid (hcheckpoints.trans hc) (hhistory.trans hh)
  | replaced key current updated hfound hmade hplain hc hh =>
      exact .replaced key current updated hfound hmade hplain (hcheckpoints.trans hc)
        (hhistory.trans hh)
  | archived key current updated stored archive hfound hmade hpersist hc hh =>
      exact .archived key current updated stored archive hfound hmade hpersist
        (hcheckpoints.trans hc) (hhistory.trans hh)
  | deleted key hop hc hh =>
      exact .deleted key hop (hcheckpoints.trans hc) (hhistory.trans hh)

namespace MemoryStore

/-- An atomic operation is judged by the tables it computed when it succeeds. -/
theorem atomically_step {α : Type} {op : StoreOp} {store : MemoryStore}
    {outcome : CheckpointResult (α × MemoryStore)}
    (hsuccess : ∀ answer after, outcome = .ok (answer, after) → TableStep op store after) :
    TableStep op store (store.atomically outcome).2 := by
  cases outcome with
  | ok pair => exact hsuccess pair.1 pair.2 rfl
  | error error => exact .kept rfl rfl

theorem update_step (op : StoreOp) (store : MemoryStore) (key : String)
    (prepare : Checkpoint → CheckpointResult (Option Checkpoint))
    (hmade : ∀ current updated, prepare current = .ok (some updated) →
      Made op key current updated) :
    TableStep op store (store.update key prepare).2 := by
  refine atomically_step fun answer after h => ?_
  split at h
  · simp only [Except.ok.injEq, Prod.mk.injEq] at h
    exact .kept (by rw [← h.2]) (by rw [← h.2])
  rename_i current hfound
  simp only [bind_eq_ok] at h
  obtain ⟨prepared, hprepared, h⟩ := h
  cases prepared with
  | none =>
      simp only [pure_ok, Except.ok.injEq, Prod.mk.injEq] at h
      exact .kept (by rw [← h.2]) (by rw [← h.2])
  | some updated =>
      simp only [bind_eq_ok, pure_ok, Except.ok.injEq, Prod.mk.injEq, Prod.exists] at h
      obtain ⟨stored, written, hpersist, _, rfl⟩ := h
      exact .ofPersist hfound (hmade current updated hprepared) hpersist rfl rfl

theorem createCheckpoint_step (store : MemoryStore) (checkpoint : Checkpoint) :
    TableStep (.create checkpoint) store (store.createCheckpoint checkpoint).2 := by
  refine atomically_step fun answer after h => ?_
  simp only [bind_eq_ok] at h
  obtain ⟨_, hvalid, h⟩ := h
  split at h
  · simp only [pure_ok, Except.ok.injEq, Prod.mk.injEq] at h
    exact .kept (by rw [← h.2]) (by rw [← h.2])
  · rename_i habsent
    simp only [pure_ok, Except.ok.injEq, Prod.mk.injEq] at h
    obtain ⟨_, rfl⟩ := h
    have hnew : store.checkpoints[checkpoint.checkpointKey]? = none :=
      (Table.contains_eq_false _ _).mp (Bool.eq_false_iff.mpr habsent)
    exact .created checkpoint rfl hnew hvalid rfl rfl

theorem claimCheckpoint_step (store : MemoryStore) (key : String) (cycle : Nat) (token : String)
    (lease now : Nat) (mode : ClaimMode) :
    TableStep (.claim key cycle token lease now mode) store
      (store.claimCheckpoint key cycle token lease now mode).2 := by
  refine atomically_step fun answer after h => ?_
  simp only [guardLease, bind_eq_ok, refuse_eq_ok, exists_const, Bool.or_eq_false_iff,
    decide_eq_false_iff_not, not_le] at h
  obtain ⟨⟨_, hlease⟩, h⟩ := h
  split at h
  · simp only [pure_ok, Except.ok.injEq, Prod.mk.injEq] at h
    exact .kept (by rw [← h.2]) (by rw [← h.2])
  rename_i current hfound
  simp only [bind_eq_ok, refuse_eq_ok, exists_const] at h
  obtain ⟨_, prepared, hprepared, h⟩ := h
  cases prepared with
  | none =>
      simp only [pure_ok, Except.ok.injEq, Prod.mk.injEq] at h
      exact .kept (by rw [← h.2]) (by rw [← h.2])
  | some claimed =>
      simp only [pure_ok, Except.ok.injEq, Prod.mk.injEq] at h
      obtain ⟨_, rfl⟩ := h
      exact .replaced key current claimed hfound (.claim hlease hprepared) rfl rfl rfl

theorem renewCheckpointClaim_step (store : MemoryStore) (key token : String) (lease now : Nat) :
    TableStep (.renew key token lease now) store
      (store.renewCheckpointClaim key token lease now).2 := by
  refine atomically_step fun answer after h => ?_
  simp only [guardLease, bind_eq_ok, refuse_eq_ok, exists_const, Bool.or_eq_false_iff,
    decide_eq_false_iff_not, not_le] at h
  obtain ⟨⟨_, hlease⟩, h⟩ := h
  split at h
  · simp only [pure_ok, Except.ok.injEq, Prod.mk.injEq] at h
    exact .kept (by rw [← h.2]) (by rw [← h.2])
  rename_i current hfound
  split at h
  · simp only [pure_ok, Except.ok.injEq, Prod.mk.injEq] at h
    exact .kept (by rw [← h.2]) (by rw [← h.2])
  rename_i hguard
  simp only [not_or, not_not, ne_eq] at hguard
  obtain ⟨htoken, hexpiry⟩ := hguard
  simp only [pure_ok, Except.ok.injEq, Prod.mk.injEq] at h
  obtain ⟨_, rfl⟩ := h
  have hlive : ∃ expiry, current.leaseExpiresAtMs = some expiry ∧ now < expiry := by
    cases hstored : current.leaseExpiresAtMs with
    | none => simp [hstored] at hexpiry
    | some expiry => exact ⟨expiry, rfl, by simpa [hstored] using hexpiry⟩
  exact .replaced key current _ hfound (.renew hlease htoken hlive) rfl rfl rfl

theorem recordToolReceipt_step (store : MemoryStore) (clock : Clock) (checkpoint : Checkpoint)
    (target : ToolReceiptTarget) (result : ToolExecutionResult) (token : String)
    (revision : Nat) :
    TableStep (.recordToolReceipt clock checkpoint target result token revision) store
      (store.recordToolReceipt clock checkpoint target result token revision).2 := by
  refine atomically_step fun answer after h => ?_
  simp only [bind_eq_ok] at h
  obtain ⟨_, _, identityKey, _, digest, _, h⟩ := h
  split at h
  · simp only [pure_ok, Except.ok.injEq, Prod.mk.injEq] at h
    exact .kept (by rw [← h.2]) (by rw [← h.2])
  rename_i current hfound
  simp only [bind_eq_ok] at h
  obtain ⟨replayed, _, h⟩ := h
  split at h
  · simp only [pure_ok, Except.ok.injEq, Prod.mk.injEq] at h
    exact .kept (by rw [← h.2]) (by rw [← h.2])
  simp only [bind_eq_ok] at h
  obtain ⟨prepared, hprepared, h⟩ := h
  cases prepared with
  | none =>
      simp only [pure_ok, Except.ok.injEq, Prod.mk.injEq] at h
      exact .kept (by rw [← h.2]) (by rw [← h.2])
  | some updated =>
      simp only [bind_eq_ok, pure_ok, Except.ok.injEq, Prod.mk.injEq, Prod.exists] at h
      obtain ⟨stored, written, hpersist, _, rfl⟩ := h
      exact .ofPersist hfound (.toolReceipt hprepared) hpersist rfl rfl

theorem admitDeferredBatch_step (store : MemoryStore) (clock : Clock) (key : String)
    (revision : Nat) (token : String) (cycle : Nat) (entries : List DeferredBatchEntry) :
    TableStep (.admitDeferred clock key revision token cycle entries) store
      (store.admitDeferredBatch clock key revision token cycle entries).2 := by
  refine atomically_step fun answer after h => ?_
  simp only [bind_eq_ok, require_eq_ok, refuse_eq_ok, exists_const, pure_ok, Except.ok.injEq,
    Prod.mk.injEq, Prod.exists, beq_eq_false_iff_ne] at h
  obtain ⟨current, hfound, updated, handles, hadmitted, hchanged, stored, written, hpersist, _,
    rfl⟩ := h
  exact .ofPersist hfound (.admitDeferred hadmitted hchanged) hpersist rfl rfl

theorem acceptDeferredBatch_step (store : MemoryStore) (clock : Clock) (key : String)
    (revision : Nat) (token : String) (cycle : Nat) (decisions : List AcceptDeferredDecision) :
    TableStep (.acceptDeferred clock key revision token cycle decisions) store
      (store.acceptDeferredBatch clock key revision token cycle decisions).2 := by
  refine atomically_step fun answer after h => ?_
  simp only [bind_eq_ok, require_eq_ok] at h
  obtain ⟨current, hfound, h⟩ := h
  split at h
  · simp only [pure_ok, Except.ok.injEq, Prod.mk.injEq] at h
    exact .kept (by rw [← h.2]) (by rw [← h.2])
  simp only [bind_eq_ok, refuse_eq_ok, exists_const, pure_ok, Except.ok.injEq, Prod.mk.injEq,
    Prod.exists, Bool.not_eq_false'] at h
  obtain ⟨updated, _, haccepted, rfl, stored, written, hpersist, _, rfl⟩ := h
  exact .ofPersist hfound (.acceptDeferred haccepted) hpersist rfl rfl

theorem resolveDeferred_step (store : MemoryStore) (hkeyed : Keyed store) (clock : Clock)
    (handle : DeferredToolHandle) (result : ToolExecutionResult) :
    TableStep (.resolveDeferred clock handle result) store
      (store.resolveDeferred clock handle result).2 := by
  refine atomically_step fun answer after h => ?_
  simp only [bind_eq_ok] at h
  obtain ⟨_, hdefinitive, key, _, h⟩ := h
  split at h
  · simp only [bind_eq_ok, refuse_eq_ok, exists_const, pure_ok, Except.ok.injEq,
      Prod.mk.injEq] at h
    obtain ⟨_, _, _, _, _, _, rfl⟩ := h
    exact .kept rfl rfl
  simp only [bind_eq_ok, require_eq_ok] at h
  obtain ⟨current, hfound, target, htarget, h⟩ := h
  cases target with
  | inl answer =>
      simp only [pure_ok, Except.ok.injEq, Prod.mk.injEq] at h
      exact .kept (by rw [← h.2]) (by rw [← h.2])
  | inr entry =>
      simp only [bind_eq_ok, pure_ok, Except.ok.injEq, Prod.mk.injEq, Prod.exists] at h
      obtain ⟨updated, receipt, hresolved, stored, written, hpersist, _, rfl⟩ := h
      obtain ⟨_, _, _, _, _, _, _, _, _, _, hupdated⟩ := resolveEntry_eq_ok hresolved
      have hkey : updated.checkpointKey = handle.checkpointKey := by
        rw [hupdated]
        exact hkeyed handle.checkpointKey current hfound
      rw [hkey] at hpersist
      exact .ofPersist hfound (.resolveDeferred hdefinitive htarget hresolved) hpersist rfl rfl

theorem produceHostInteraction_step (store : MemoryStore) (clock : Clock)
    (request : HostInteractionRequest) (context : HostInteractionAdmissionContext) :
    TableStep (.produceHostInteraction clock request context) store
      (store.produceHostInteraction clock request context).2 := by
  refine atomically_step fun answer after h => ?_
  simp only [bind_eq_ok] at h
  obtain ⟨_, _, _, _, h⟩ := h
  split at h
  · simp only [bind_eq_ok, refuse_eq_ok, exists_const, require_eq_ok, pure_ok, Except.ok.injEq,
      Prod.mk.injEq] at h
    obtain ⟨_, _, _, _, _, _, _, _, rfl⟩ := h
    exact .kept rfl rfl
  simp only [bind_eq_ok, require_eq_ok, admitHostInteraction, refuse_eq_ok, exists_const,
    Bool.or_eq_false_iff, bne_eq_false_iff_eq] at h
  obtain ⟨current, hfound, ⟨⟨⟨⟨⟨⟨hstatus, hrevision⟩, htoken⟩, hcycle⟩, hlogical⟩, _⟩, _⟩, h⟩ := h
  split at h
  · simp only [bind_eq_ok, refuse_eq_ok, exists_const, pure_ok, Except.ok.injEq,
      Prod.mk.injEq] at h
    obtain ⟨_, _, _, _, rfl⟩ := h
    exact .kept rfl rfl
  · simp only [bind_eq_ok, pure_ok, Except.ok.injEq, Prod.mk.injEq, Prod.exists] at h
    obtain ⟨_, _, _, _, updated, hprepared, _, _, stored, written, hpersist, _, rfl⟩ := h
    rw [← hlogical] at hcycle
    exact .ofPersist hfound (.produce hstatus hrevision htoken hcycle hprepared) hpersist rfl rfl

theorem putAnswer_checkpoints (store : MemoryStore) (key : String)
    (record : Option HostInteractionRecord) :
    (store.putAnswer key record).checkpoints = store.checkpoints := by
  cases record <;> rfl

theorem putAnswer_history (store : MemoryStore) (key : String)
    (record : Option HostInteractionRecord) :
    (store.putAnswer key record).history = store.history := by
  cases record <;> rfl

theorem putAnswer_receipts (store : MemoryStore) (key : String)
    (record : Option HostInteractionRecord) :
    (store.putAnswer key record).ledger.commandReceipts = store.ledger.commandReceipts := by
  cases record <;> rfl

/-- A command that the store has applied. -/
theorem applyControllerCommand_eq_ok {store after : MemoryStore} {clock : Clock}
    {command : ControllerCommand} {now : Nat} {receipt : ControllerCommandReceipt}
    {resolution : ControllerCommandResolution}
    (h : store.applyControllerCommand clock command now = (.ok (receipt, resolution), after)) :
    ∃ current effect, store.checkpoints[command.handle.checkpointKey]? = some current ∧
      VvAgent.applyControllerCommand clock (store.hostRecordLookup current.checkpointKey)
        current command now = .ok effect ∧
      receipt = commandReceipt command effect ∧ resolution = .applied receipt effect.wake ∧
      receipt.validate = .ok () ∧
      after = { store.putAnswer current.checkpointKey effect.hostRecord with
        checkpoints := store.checkpoints.insert current.checkpointKey effect.checkpoint } := by
  unfold applyControllerCommand at h
  split at h
  · simp at h
  rename_i current hfound
  split at h
  · simp at h
  rename_i effect heffect
  dsimp only at h
  split at h
  · simp at h
  · rename_i hvalid
    simp only [Prod.mk.injEq, Except.ok.injEq] at h
    obtain ⟨⟨rfl, rfl⟩, rfl⟩ := h
    refine ⟨current, effect, hfound, heffect, rfl, rfl, hvalid, ?_⟩
    rw [putAnswer_checkpoints]

/-- A command that fails retains no receipt. -/
theorem applyControllerCommand_error {store after : MemoryStore} {clock : Clock}
    {command : ControllerCommand} {now : Nat} {error : CheckpointError}
    (h : store.applyControllerCommand clock command now = (.error error, after)) :
    after.ledger.commandReceipts = store.ledger.commandReceipts := by
  unfold applyControllerCommand at h
  split at h
  · rw [(Prod.mk.inj h).2]
  split at h
  · rw [(Prod.mk.inj h).2]
  dsimp only at h
  split at h
  · rw [← (Prod.mk.inj h).2, putAnswer_receipts]
  · simp at h

/-- Applying a command: the receipt is written by the caller, and the record under the key
of the command's handle. -/
theorem applyControllerCommand_step {op : StoreOp} (store : MemoryStore) (hkeyed : Keyed store)
    (clock : Clock) (command : ControllerCommand) (now : Nat)
    (hop : op = .admitCommand clock command now ∨ op = .resolveCommand clock command now) :
    TableStep op store (store.applyControllerCommand clock command now).2 := by
  unfold applyControllerCommand
  split
  · exact .kept rfl rfl
  rename_i current hfound
  split
  · exact .kept rfl rfl
  rename_i effect heffect
  have hcheckpoints := store.putAnswer_checkpoints current.checkpointKey effect.hostRecord
  have hhistory := store.putAnswer_history current.checkpointKey effect.hostRecord
  dsimp only
  split
  · exact .kept hcheckpoints hhistory
  · have hkey : current.checkpointKey = command.handle.checkpointKey := hkeyed _ _ hfound
    have hplain : op.writesPlain = true := by
      rcases hop with rfl | rfl
      · rfl
      · rfl
    refine .replaced _ current effect.checkpoint hfound (.command hop heffect rfl) hplain ?_
      hhistory
    rw [hkey] at hcheckpoints ⊢
    rw [hcheckpoints]

theorem admitControllerCommand_step (store : MemoryStore) (hkeyed : Keyed store) (clock : Clock)
    (command : ControllerCommand) (now : Nat) :
    TableStep (.admitCommand clock command now) store
      (store.admitControllerCommand clock command now).2 := by
  have happly := store.applyControllerCommand_step hkeyed clock command now (.inl rfl)
  unfold admitControllerCommand
  split
  · exact .kept rfl rfl
  split
  · exact .kept rfl rfl
  split
  · rename_i herror
    simpa [herror] using happly
  · rename_i hok
    simp only [hok] at happly
    exact happly.congr rfl rfl

theorem resolveControllerCommand_step (store : MemoryStore) (hkeyed : Keyed store)
    (clock : Clock) (command : ControllerCommand) (now : Nat) :
    TableStep (.resolveCommand clock command now) store
      (store.resolveControllerCommand clock command now).2 := by
  have happly := store.applyControllerCommand_step hkeyed clock command now (.inr rfl)
  unfold resolveControllerCommand
  split
  · exact .kept rfl rfl
  split
  · exact .kept rfl rfl
  split
  · rename_i herror
    simpa [herror] using happly
  · rename_i hok
    simp only [hok] at happly
    exact happly.congr rfl rfl

theorem consumeResponse_step (store : MemoryStore) (clock : Clock)
    (envelope : HostInteractionRecoveryEnvelope) (now : Nat) :
    TableStep (.consumeResponse clock envelope now) store
      (store.claimAndConsumeHostInteractionResponse clock envelope now).2 := by
  unfold claimAndConsumeHostInteractionResponse
  dsimp only
  split
  · exact .kept rfl rfl
  rename_i current record hfoundBoth
  simp only [bind_eq_ok, require_eq_ok, pure_ok, Except.ok.injEq, Prod.mk.injEq] at hfoundBoth
  obtain ⟨_, _, stored, hfound, row, _, hcurrent, hrow⟩ := hfoundBoth
  subst hcurrent hrow
  split
  · refine atomically_step fun answer after h => ?_
    simp only [bind_eq_ok, refuse_eq_ok, exists_const, pure_ok, Except.ok.injEq,
      Prod.mk.injEq] at h
    obtain ⟨_, _, _, _, rfl⟩ := h
    exact .kept rfl rfl
  split
  · exact .kept rfl rfl
  rename_i stored consumed after hconsumed
  simp only [consumeResponse, bind_eq_ok, refuse_eq_ok, exists_const, require_eq_ok, pure_ok,
    Except.ok.injEq, Prod.mk.injEq, Prod.exists, Bool.or_eq_false_iff, Bool.not_eq_false',
    bne_eq_false_iff_eq, Option.isSome_eq_false_iff, Option.isNone_iff_eq_none] at hconsumed
  obtain ⟨⟨⟨⟨⟨⟨⟨hidentity, hrevision⟩, hattempt⟩, hstatus⟩, htoken⟩, hambiguous⟩, _⟩, response, _,
    updated, hprepared, _, _, stored', written, hpersist, rfl, _, rfl⟩ := hconsumed
  have hrecord : row.recordId = envelope.recordId := by
    simp only [recoveryIdentityMatches, Bool.and_eq_true, beq_iff_eq] at hidentity
    obtain ⟨⟨⟨⟨⟨⟨⟨⟨_, hrecord⟩, _⟩, _⟩, _⟩, _⟩, _⟩, _⟩, _⟩ := hidentity
    exact hrecord
  exact .ofPersist hfound
    (.consume hrevision hattempt hstatus htoken hambiguous hrecord hprepared) hpersist rfl rfl

theorem reapHostInteractionRecord_ledgerOnly (store : MemoryStore) (recordId key : String)
    (now : Nat) : LedgerOnly store (store.reapHostInteractionRecord recordId key now).2 := by
  refine atomically_ledgerOnly ?_
  split
  · split
    · exact .ok (.refl store)
    · exact .bind fun _ _ => .pure ⟨rfl, rfl, rfl⟩
  · exact .ok (.refl store)

theorem claimHostInteractionNotification_ledgerOnly (store : MemoryStore)
    (notificationId digest token : String) (lease now : Nat) :
    LedgerOnly store
      (store.claimHostInteractionNotification notificationId digest token lease now).2 := by
  refine atomically_ledgerOnly (.bind fun _ _ => ?_)
  split
  · exact .pure (.refl store)
  refine .bind fun _ _ => ?_
  split
  · exact .pure (.refl store)
  · exact .bind fun _ _ => .bind fun _ _ => .bind fun _ _ => .pure ⟨rfl, rfl, rfl⟩

theorem completeHostInteractionNotification_ledgerOnly (store : MemoryStore)
    (notificationId digest token : String) (attempt : Nat) (outcome : String) (now : Nat)
    (error : Option String) :
    LedgerOnly store
      (store.completeHostInteractionNotification notificationId digest token attempt outcome now
        error).2 := by
  refine atomically_ledgerOnly (.bind fun _ _ => ?_)
  split
  · exact .pure (.refl store)
  · exact .bind fun _ _ => .bind fun _ _ => .bind fun _ _ => .pure ⟨rfl, rfl, rfl⟩

theorem reconcileHostInteractionNotification_ledgerOnly (store : MemoryStore)
    (notificationId digest outcome : String) (now : Nat) (reason : Option String) :
    LedgerOnly store
      (store.reconcileHostInteractionNotification notificationId digest outcome now reason).2 := by
  refine atomically_ledgerOnly (.bind fun _ _ => .bind fun _ _ => ?_)
  split
  · exact .pure (.refl store)
  refine .bind fun _ _ => ?_
  split
  · exact .pure (.refl store)
  · exact .bind fun _ _ => .bind fun _ _ => .pure ⟨rfl, rfl, rfl⟩

omit [Runtime] in
theorem claimControllerCommandWake_ledgerOnly (store : MemoryStore)
    (commandId digest token : String) (lease now : Nat) :
    LedgerOnly store (store.claimControllerCommandWake commandId digest token lease now).2 := by
  refine atomically_ledgerOnly (.bind fun _ _ => ?_)
  split
  · exact .pure (.refl store)
  refine .bind fun _ _ => .bind fun _ _ => ?_
  split
  · exact .pure (.refl store)
  dsimp only
  split
  · exact .bind fun _ _ => .pure (.refl store)
  · exact .bind fun _ _ => .bind fun _ _ => .pure ⟨rfl, rfl, rfl⟩

omit [Runtime] in
theorem completeControllerCommandWake_ledgerOnly (store : MemoryStore)
    (commandId digest token : String) (attempt : Nat) (outcome : String) :
    LedgerOnly store
      (store.completeControllerCommandWake commandId digest token attempt outcome).2 := by
  refine atomically_ledgerOnly (.bind fun _ _ => ?_)
  split
  · exact .pure (.refl store)
  refine .bind fun _ _ => ?_
  split
  · exact .bind fun _ _ => .pure (.refl store)
  · exact .bind fun _ _ => .bind fun _ _ => .pure ⟨rfl, rfl, rfl⟩

omit [Runtime] in
theorem reconcileControllerCommandWake_ledgerOnly (store : MemoryStore)
    (commandId digest outcome : String) :
    LedgerOnly store (store.reconcileControllerCommandWake commandId digest outcome).2 := by
  refine atomically_ledgerOnly (.bind fun _ _ => ?_)
  split
  · exact .pure (.refl store)
  · exact .bind fun _ _ => .bind fun _ _ => .bind fun _ _ => .pure ⟨rfl, rfl, rfl⟩

theorem reapWake_ledgerOnly (store : MemoryStore) (key commandId : String) (now : Nat) :
    LedgerOnly store (store.reapWake key commandId now).2 := by
  unfold reapWake
  split
  · exact .refl store
  dsimp only
  repeat' split
  all_goals exact ⟨rfl, rfl, rfl⟩

theorem reapWakes_ledgerOnly (store : MemoryStore) (key : String) (now : Nat)
    (commandIds : List String) : LedgerOnly store (store.reapWakes key now commandIds).2 := by
  induction commandIds generalizing store with
  | nil => exact .refl store
  | cons commandId rest ih =>
      have hone := store.reapWake_ledgerOnly key commandId now
      unfold reapWakes
      split
      · rename_i herror
        simpa [herror] using hone
      · rename_i after hok
        simp only [hok] at hone
        exact hone.trans (ih after)

/-- An operation on the ledger is no step of the records. -/
theorem LedgerOnly.step {op : StoreOp} {before after : MemoryStore}
    (h : LedgerOnly before after) : TableStep op before after := .kept h.1 h.2.1

end MemoryStore

/-- What any operation does to the tables of records and archives. -/
theorem exec_step (op : StoreOp) (store : MemoryStore) (hkeyed : Keyed store) :
    TableStep op store (exec op store) := by
  cases op with
  | create checkpoint => exact store.createCheckpoint_step checkpoint
  | claim key cycle token lease now mode =>
      exact store.claimCheckpoint_step key cycle token lease now mode
  | renew key token lease now => exact store.renewCheckpointClaim_step key token lease now
  | progress checkpoint token revision =>
      exact store.update_step _ _ _ fun _ _ h => .progress h
  | suspend checkpoint token revision =>
      exact store.update_step _ _ _ fun _ _ h => .suspend h
  | commit checkpoint token revision =>
      exact store.update_step _ _ _ fun _ _ h => .commit h
  | finalize clock checkpoint revision =>
      exact store.update_step _ _ _ fun _ _ h => .finalize h
  | finalizeClaimed clock checkpoint token revision =>
      exact store.update_step _ _ _ fun _ _ h => .finalizeClaimed h
  | recordToolReceipt clock checkpoint target result token revision =>
      exact store.recordToolReceipt_step clock checkpoint target result token revision
  | acknowledge key revision => exact store.update_step _ _ _ fun _ _ h => .acknowledge h
  | recordEventDelivery key token revision eventId digest cursor =>
      exact store.update_step _ _ _ fun _ _ h => .delivery h
  | admitDeferred clock key revision token cycle entries =>
      exact store.admitDeferredBatch_step clock key revision token cycle entries
  | acceptDeferred clock key revision token cycle decisions =>
      exact store.acceptDeferredBatch_step clock key revision token cycle decisions
  | resolveDeferred clock handle result =>
      exact store.resolveDeferred_step hkeyed clock handle result
  | produceHostInteraction clock request context =>
      exact store.produceHostInteraction_step clock request context
  | admitCommand clock command now =>
      exact store.admitControllerCommand_step hkeyed clock command now
  | resolveCommand clock command now =>
      exact store.resolveControllerCommand_step hkeyed clock command now
  | consumeResponse clock envelope now => exact store.consumeResponse_step clock envelope now
  | delete key => exact .deleted key rfl rfl rfl
  | reapWakes key now => exact (store.reapWakes_ledgerOnly key now _).step
  | reapHostInteraction recordId key now =>
      exact (store.reapHostInteractionRecord_ledgerOnly recordId key now).step
  | claimNotification notificationId digest token lease now =>
      exact (store.claimHostInteractionNotification_ledgerOnly notificationId digest token lease
        now).step
  | completeNotification notificationId digest token attempt outcome now error =>
      exact (store.completeHostInteractionNotification_ledgerOnly notificationId digest token
        attempt outcome now error).step
  | reconcileNotification notificationId digest outcome now reason =>
      exact (store.reconcileHostInteractionNotification_ledgerOnly notificationId digest outcome
        now reason).step
  | claimWake commandId digest token lease now =>
      exact (store.claimControllerCommandWake_ledgerOnly commandId digest token lease now).step
  | completeWake commandId digest token attempt outcome =>
      exact (store.completeControllerCommandWake_ledgerOnly commandId digest token attempt
        outcome).step
  | reconcileWake commandId digest outcome =>
      exact (store.reconcileControllerCommandWake_ledgerOnly commandId digest outcome).step

end

end VvAgent
