import VvAgent.Store.Invariant

/-!
What one operation does to the rows beside the records: deferred receipts, host
interactions, notifications, commands with their receipts, and wake leases. The records of
the step are given along with the rows, since a question, a command and a recovery write
both. Everything that is proved about rows over whole runs is proved from `RowStep`.
-/

namespace VvAgent
open Lib Lib.Outcome

/-- The receipt of a command with the lease of its wake. -/
structure WakeRow where
  receipt : Option (ControllerCommandReceipt × ControllerCommandResolution)
  lease : Option WakeLease

def MemoryStore.wakeRow (store : MemoryStore) (commandId : String) : WakeRow where
  receipt := store.ledger.commandReceipts[commandId]?
  lease := store.ledger.wakeLeases[commandId]?

/-- What happens to one wake: it is claimed, given up by its owner or the reaper, or an
operator decides about it. -/
inductive WakeRowStep : WakeRow → WakeRow → Prop
  | kept (row : WakeRow) : WakeRowStep row row
  | claimed (receipt : ControllerCommandReceipt) (resolution : ControllerCommandResolution)
      (before : Option WakeLease) (lease : WakeLease) (outboxAttempt : Nat)
      (hvalid : { receipt with outboxState := "claimed", outboxAttempt }.validate = .ok ()) :
      WakeRowStep ⟨some (receipt, resolution), before⟩
        ⟨some ({ receipt with outboxState := "claimed", outboxAttempt },
          resolution.withReceipt { receipt with outboxState := "claimed", outboxAttempt }),
          some lease⟩
  | released (receipt : ControllerCommandReceipt) (resolution : ControllerCommandResolution)
      (before : Option WakeLease) (outboxState : String)
      (hclaimed : receipt.outboxState = "claimed")
      (hvalid : { receipt with outboxState }.validate = .ok ()) :
      WakeRowStep ⟨some (receipt, resolution), before⟩
        ⟨some ({ receipt with outboxState },
          resolution.withReceipt { receipt with outboxState }), none⟩
  | decided (receipt : ControllerCommandReceipt) (resolution : ControllerCommandResolution)
      (lease : Option WakeLease) (outboxState : String)
      (hambiguous : receipt.outboxState = "ambiguous")
      (hvalid : { receipt with outboxState }.validate = .ok ()) :
      WakeRowStep ⟨some (receipt, resolution), lease⟩
        ⟨some ({ receipt with outboxState },
          resolution.withReceipt { receipt with outboxState }), lease⟩

/-- Notifications of one question. -/
def SameQuestion (row updated : HostInteractionNotificationRecord) : Prop :=
  updated.notificationId = row.notificationId ∧ updated.checkpointKey = row.checkpointKey ∧
    updated.recordId = row.recordId ∧ updated.payloadDigest = row.payloadDigest

section
variable [Runtime]

/-- The rows of a host interaction that has been put to the host. -/
def MemoryStore.putQuestion (store : MemoryStore) (checkpointKey : String)
    (request : HostInteractionRequest) (notification : HostInteractionNotificationRecord) :
    MemoryStore :=
  (store.putHostRecord (recordIdFor checkpointKey request)
      (.active checkpointKey (recordIdFor checkpointKey request) request)).putNotification
    (notificationIdFor (recordIdFor checkpointKey request)) notification

/-- Operations that write host interactions or receipts of commands with the record. -/
def StoreOp.writesRows : StoreOp → Bool
  | .produceHostInteraction .. | .admitCommand .. | .resolveCommand .. | .consumeResponse .. => true
  | _ => false

/-- What one operation does to the rows. -/
inductive RowStep (op : StoreOp) (before after : MemoryStore) : Prop
  | unchanged (hafter : after = before)
  | kept (hplain : op.writesRows = false) (hledger : after.ledger = before.ledger)
      (hreceipts : after.deferredReceipts = before.deferredReceipts)
  | resolved (key : String) (receipt : DeferredReceipt) (hplain : op.writesRows = false)
      (hstored : before.checkpoints[receipt.handle.checkpointKey]?.isSome = true)
      (hnew : before.deferredReceipts[key]? = none)
      (hkey : receipt.handle.handleKey = .ok key)
      (hledger : after.ledger = before.ledger)
      (hreceipts : after.deferredReceipts = before.deferredReceipts.insert key receipt)
  | asked (clock : Clock) (request : HostInteractionRequest)
      (context : HostInteractionAdmissionContext) (current updated stored : Checkpoint)
      (archive : ArchivedHistory) (notification : HostInteractionNotificationRecord)
      (hop : op = .produceHostInteraction clock request context)
      (hfound : before.checkpoints[context.checkpointKey]? = some current)
      (hmade : Made op context.checkpointKey current updated)
      (hnew : before.ledger.hostInteractions[recordIdFor context.checkpointKey request]? = none)
      (hrecord : (HostInteractionRecord.active context.checkpointKey
        (recordIdFor context.checkpointKey request) request).validate = .ok ())
      (hnotification : notificationFor context.checkpointKey
        (recordIdFor context.checkpointKey request) request = .ok notification)
      (hpersist : persistHistory (before.archiveOf updated.checkpointKey) updated =
        .ok (stored, archive))
      (hafter : after = (before.write context.checkpointKey stored archive).putQuestion
        context.checkpointKey request notification)
  | commanded (clock : Clock) (command : ControllerCommand) (now : Nat) (current : Checkpoint)
      (effect : CommandEffect)
      (hop : op = .admitCommand clock command now ∨ op = .resolveCommand clock command now)
      (hcommand : command.validate = .ok ())
      (hnew : before.ledger.commandReceipts[command.commandId]? = none)
      (hfound : before.checkpoints[command.handle.checkpointKey]? = some current)
      (heffect : applyControllerCommand clock (before.hostRecordLookup current.checkpointKey)
        current command now = .ok effect)
      (hvalid : (commandReceipt command effect).validate = .ok ())
      (hafter : after =
        { before.putAnswer current.checkpointKey effect.hostRecord with
          checkpoints :=
            before.checkpoints.insert current.checkpointKey effect.checkpoint }.retainReceipt
          command (commandReceipt command effect)
          (.applied (commandReceipt command effect) effect.wake))
  | consumed (clock : Clock) (envelope : HostInteractionRecoveryEnvelope) (now : Nat)
      (current updated stored : Checkpoint) (archive : ArchivedHistory)
      (record : HostInteractionRecord) (response : HostInteractionResponse)
      (hop : op = .consumeResponse clock envelope now)
      (hfound : before.checkpoints[envelope.checkpointKey]? = some current)
      (hrecord : before.ledger.hostInteractions[envelope.recordId]? = some record)
      (hidentity : recoveryIdentityMatches current record envelope = true)
      (hpending : record.state = "resolved_pending")
      (hresponse : record.response = some response)
      (hmade : Made op envelope.checkpointKey current updated)
      (hprepared : prepareConsume clock current record response envelope now = .ok updated)
      (hvalid : (record.consumed updated.revision).validate = .ok ())
      (hpersist : persistHistory (before.archiveOf updated.checkpointKey) updated =
        .ok (stored, archive))
      (hafter : after = (before.write envelope.checkpointKey stored archive).putHostRecord
        record.recordId (record.consumed updated.revision))
  | unclaimed (recordId : String) (record updated : HostInteractionRecord)
      (hrecord : before.ledger.hostInteractions[recordId]? = some record)
      (hclaimed : record.state = "resolved_claimed")
      (hafter : after = before.putHostRecord recordId updated)
  | notified (notificationId : String) (row updated : HostInteractionNotificationRecord)
      (hrow : before.ledger.notifications[notificationId]? = some row)
      (hsame : SameQuestion row updated)
      (hafter : after = before.putNotification notificationId updated)
  | woken (hrows : ∀ commandId, WakeRowStep (before.wakeRow commandId) (after.wakeRow commandId))
      (hframe : ∃ commandReceipts wakeLeases, after = { before with
        ledger := { before.ledger with commandReceipts, wakeLeases } })
  | deleted (key : String) (hop : op = .delete key) (hafter : after = before.deleteCheckpoint key)

/-- Failure leaves all rows, success is looked at. -/
theorem atomically_rows {α : Type} {op : StoreOp} {store : MemoryStore}
    {outcome : CheckpointResult (α × MemoryStore)}
    (h : ∀ answer after, outcome = .ok (answer, after) → RowStep op store after) :
    RowStep op store (store.atomically outcome).2 := by
  cases outcome with
  | ok pair => exact h pair.1 pair.2 rfl
  | error error => exact .unchanged rfl

theorem RowStep.same {op : StoreOp} {store after : MemoryStore} (h : store = after) :
    RowStep op store after := .unchanged h.symm

/-- A record that is persisted leaves the rows alone. -/
theorem persist_rows {op : StoreOp} {store after : MemoryStore} {key : String}
    {updated stored : Checkpoint} (hplain : op.writesRows = false)
    (h : store.persist key updated = .ok (stored, after)) : RowStep op store after := by
  obtain ⟨archive, _, rfl⟩ := MemoryStore.persist_eq_ok h
  exact .kept hplain rfl rfl

namespace MemoryStore

theorem update_rows {op : StoreOp} (hplain : op.writesRows = false) (store : MemoryStore)
    (key : String) (prepare : Checkpoint → CheckpointResult (Option Checkpoint)) :
    RowStep op store (store.update key prepare).2 := by
  refine atomically_rows fun answer after h => ?_
  split at h
  · exact .same (Prod.mk.inj (Except.ok.inj h)).2
  simp only [bind_eq_ok] at h
  obtain ⟨prepared, _, h⟩ := h
  cases prepared with
  | none => exact .same (Prod.mk.inj (Except.ok.inj h)).2
  | some updated =>
      simp only [bind_eq_ok, pure_ok, Except.ok.injEq, Prod.mk.injEq, Prod.exists] at h
      obtain ⟨stored, written, hpersist, _, rfl⟩ := h
      exact persist_rows hplain hpersist

theorem createCheckpoint_rows (store : MemoryStore) (checkpoint : Checkpoint) :
    RowStep (.create checkpoint) store (store.createCheckpoint checkpoint).2 := by
  refine atomically_rows fun answer after h => ?_
  simp only [unit_guard_bind] at h
  obtain ⟨_, h⟩ := h
  split at h
  · exact .same (Prod.mk.inj (Except.ok.inj h)).2
  · obtain ⟨_, rfl⟩ := Prod.mk.inj (Except.ok.inj h)
    exact .kept rfl rfl rfl

theorem claimCheckpoint_rows (store : MemoryStore) (key : String) (cycle : Nat) (token : String)
    (lease now : Nat) (mode : ClaimMode) :
    RowStep (.claim key cycle token lease now mode) store
      (store.claimCheckpoint key cycle token lease now mode).2 := by
  refine atomically_rows fun answer after h => ?_
  simp only [unit_guard_bind] at h
  obtain ⟨_, h⟩ := h
  split at h
  · exact .same (Prod.mk.inj (Except.ok.inj h)).2
  simp only [bind_eq_ok] at h
  obtain ⟨_, _, prepared, _, h⟩ := h
  cases prepared with
  | none => exact .same (Prod.mk.inj (Except.ok.inj h)).2
  | some claimed =>
      obtain ⟨_, rfl⟩ := Prod.mk.inj (Except.ok.inj h)
      exact .kept rfl rfl rfl

omit [Runtime] in
theorem renewCheckpointClaim_same (store : MemoryStore) (key token : String) (lease now : Nat) :
    (store.renewCheckpointClaim key token lease now).2.ledger = store.ledger ∧
      (store.renewCheckpointClaim key token lease now).2.deferredReceipts =
        store.deferredReceipts := by
  unfold renewCheckpointClaim atomically
  split
  · rename_i h
    simp only [unit_guard_bind] at h
    obtain ⟨_, h⟩ := h
    split at h
    · obtain ⟨_, rfl⟩ := Prod.mk.inj (Except.ok.inj h)
      exact ⟨rfl, rfl⟩
    split at h
    · obtain ⟨_, rfl⟩ := Prod.mk.inj (Except.ok.inj h)
      exact ⟨rfl, rfl⟩
    · obtain ⟨_, rfl⟩ := Prod.mk.inj (Except.ok.inj h)
      exact ⟨rfl, rfl⟩
  · exact ⟨rfl, rfl⟩

theorem recordToolReceipt_rows (store : MemoryStore) (clock : Clock) (checkpoint : Checkpoint)
    (target : ToolReceiptTarget) (result : ToolExecutionResult) (token : String)
    (revision : Nat) :
    RowStep (.recordToolReceipt clock checkpoint target result token revision) store
      (store.recordToolReceipt clock checkpoint target result token revision).2 := by
  refine atomically_rows fun answer after h => ?_
  simp only [bind_eq_ok] at h
  obtain ⟨_, _, _, _, _, _, h⟩ := h
  split at h
  · exact .same (Prod.mk.inj (Except.ok.inj h)).2
  simp only [bind_eq_ok] at h
  obtain ⟨replayed, _, h⟩ := h
  split at h
  · exact .same (Prod.mk.inj (Except.ok.inj h)).2
  simp only [bind_eq_ok] at h
  obtain ⟨prepared, _, h⟩ := h
  cases prepared with
  | none => exact .same (Prod.mk.inj (Except.ok.inj h)).2
  | some updated =>
      simp only [bind_eq_ok, pure_ok, Except.ok.injEq, Prod.mk.injEq, Prod.exists] at h
      obtain ⟨stored, written, hpersist, _, rfl⟩ := h
      exact persist_rows rfl hpersist

theorem admitDeferredBatch_rows (store : MemoryStore) (clock : Clock) (key : String)
    (revision : Nat) (token : String) (cycle : Nat) (entries : List DeferredBatchEntry) :
    RowStep (.admitDeferred clock key revision token cycle entries) store
      (store.admitDeferredBatch clock key revision token cycle entries).2 := by
  refine atomically_rows fun answer after h => ?_
  simp only [bind_eq_ok, refuse_eq_ok, exists_const, pure_ok, Except.ok.injEq, Prod.mk.injEq,
    Prod.exists] at h
  obtain ⟨_, _, _, _, _, _, stored, written, hpersist, _, rfl⟩ := h
  exact persist_rows rfl hpersist

theorem acceptDeferredBatch_rows (store : MemoryStore) (clock : Clock) (key : String)
    (revision : Nat) (token : String) (cycle : Nat) (decisions : List AcceptDeferredDecision) :
    RowStep (.acceptDeferred clock key revision token cycle decisions) store
      (store.acceptDeferredBatch clock key revision token cycle decisions).2 := by
  refine atomically_rows fun answer after h => ?_
  simp only [bind_eq_ok] at h
  obtain ⟨_, _, h⟩ := h
  split at h
  · exact .same (Prod.mk.inj (Except.ok.inj h)).2
  simp only [bind_eq_ok, refuse_eq_ok, exists_const, pure_ok, Except.ok.injEq, Prod.mk.injEq,
    Prod.exists] at h
  obtain ⟨_, _, _, _, stored, written, hpersist, _, rfl⟩ := h
  exact persist_rows rfl hpersist

/-- The receipt of a resolution names the handle it was made for. -/
theorem receipt_handle {handle : DeferredToolHandle} {result : ToolExecutionResult}
    {eventId digest : String} {receipt : DeferredReceipt}
    (h : DeferredReceipt.new handle result eventId digest = .ok receipt) :
    receipt.handle = handle := by
  simp only [DeferredReceipt.new, bind_eq_ok, pure_ok, Except.ok.injEq] at h
  obtain ⟨_, _, _, _, _, _, _, _, _, _, rfl⟩ := h
  rfl

theorem resolveDeferred_rows (store : MemoryStore) (clock : Clock) (handle : DeferredToolHandle)
    (result : ToolExecutionResult) :
    RowStep (.resolveDeferred clock handle result) store
      (store.resolveDeferred clock handle result).2 := by
  refine atomically_rows fun answer after h => ?_
  simp only [bind_eq_ok] at h
  obtain ⟨_, _, key, hkey, h⟩ := h
  split at h
  · simp only [bind_eq_ok, refuse_eq_ok, exists_const, pure_ok, Except.ok.injEq,
      Prod.mk.injEq] at h
    obtain ⟨_, _, _, _, _, _, rfl⟩ := h
    exact .same rfl
  rename_i hnew
  simp only [bind_eq_ok, require_eq_ok] at h
  obtain ⟨current, hfound, target, _, h⟩ := h
  cases target with
  | inl answer => exact .same (Prod.mk.inj (Except.ok.inj h)).2
  | inr entry =>
      simp only [bind_eq_ok, pure_ok, Except.ok.injEq, Prod.mk.injEq, Prod.exists] at h
      obtain ⟨updated, receipt, hresolved, stored, written, hpersist, _, rfl⟩ := h
      obtain ⟨_, _, _, _, _, _, _, _, _, hreceipt, _⟩ := resolveEntry_eq_ok hresolved
      obtain ⟨archive, _, rfl⟩ := persist_eq_ok hpersist
      have hhandle := receipt_handle hreceipt
      exact .resolved key receipt rfl (by rw [hhandle, hfound]; rfl) hnew (by rw [hhandle, hkey]) rfl rfl

theorem produceHostInteraction_rows (store : MemoryStore) (clock : Clock)
    (request : HostInteractionRequest) (context : HostInteractionAdmissionContext) :
    RowStep (.produceHostInteraction clock request context) store
      (store.produceHostInteraction clock request context).2 := by
  refine atomically_rows fun answer after h => ?_
  simp only [bind_eq_ok] at h
  obtain ⟨_, _, _, _, h⟩ := h
  split at h
  · simp only [bind_eq_ok, refuse_eq_ok, exists_const, require_eq_ok, pure_ok, Except.ok.injEq,
      Prod.mk.injEq] at h
    obtain ⟨_, _, _, _, _, _, _, _, rfl⟩ := h
    exact .same rfl
  simp only [bind_eq_ok, require_eq_ok, admitHostInteraction, refuse_eq_ok, exists_const,
    Bool.or_eq_false_iff, bne_eq_false_iff_eq] at h
  obtain ⟨current, hfound, ⟨⟨⟨⟨⟨⟨hstatus, hrevision⟩, htoken⟩, hcycle⟩, hlogical⟩, _⟩, _⟩, h⟩ := h
  split at h
  · simp only [bind_eq_ok, refuse_eq_ok, exists_const, pure_ok, Except.ok.injEq,
      Prod.mk.injEq] at h
    obtain ⟨_, _, _, _, rfl⟩ := h
    exact .same rfl
  · rename_i hnew
    simp only [bind_eq_ok, pure_ok, Except.ok.injEq, Prod.mk.injEq, Prod.exists] at h
    obtain ⟨notification, hnotification, _, hrecord, updated, hprepared, _, _, stored, written,
      hpersist, _, rfl⟩ := h
    obtain ⟨archive, hstored, rfl⟩ := persist_eq_ok hpersist
    rw [← hlogical] at hcycle
    exact .asked clock request context current updated stored archive notification rfl hfound
      (.produce hstatus hrevision htoken hcycle hprepared) hnew hrecord hnotification hstored rfl

end MemoryStore

omit [Runtime] in
theorem resumeFrom_wake {lookup : HostRecordLookup} {current updated resumed : Checkpoint}
    {origin : SuspendedOrigin} {wake : ControllerCommandWake}
    (h : resumeFrom lookup current updated origin = .ok (resumed, wake)) :
    wake = .none ∨ ∃ cycle, wake = .recovery cycle := by
  unfold resumeFrom at h
  split at h
  · split at h
    · exact .inr ⟨_, (Prod.mk.inj (Except.ok.inj h)).2.symm⟩
    · exact .inl (Prod.mk.inj (Except.ok.inj h)).2.symm
  · exact .inr ⟨_, (Prod.mk.inj (Except.ok.inj h)).2.symm⟩
  · simp only [bind_eq_ok] at h
    obtain ⟨_, _, _, _, h⟩ := h
    split at h
    · exact .inr ⟨_, (Prod.mk.inj (Except.ok.inj h)).2.symm⟩
    · exact .inl (Prod.mk.inj (Except.ok.inj h)).2.symm
  · cases h

theorem terminateWith_wake {clock : Clock} {current updated : Checkpoint}
    {commandId reason : String} {result : AgentResult} {ending : RunEventPayload}
    {effect : CommandEffect}
    (h : terminateWith clock current updated commandId reason result ending = .ok effect) :
    effect.wake = .none := by
  simp only [terminateWith, bind_eq_ok, pure_ok, Except.ok.injEq] at h
  obtain ⟨_, _, _, _, _, _, _, _, rfl⟩ := h
  rfl

/-- A command asks for no wake, or for a recovery. -/
theorem transformByCommand_wake {clock : Clock} {lookup : HostRecordLookup} {missing : String}
    {current : Checkpoint} {command : ControllerCommand} {nowMs : Nat} {effect : CommandEffect}
    (h : transformByCommand clock lookup missing current command nowMs = .ok effect) :
    effect.wake = .none ∨ ∃ cycle, effect.wake = .recovery cycle := by
  simp only [transformByCommand, bind_eq_ok] at h
  obtain ⟨updated, _, h⟩ := h
  split at h
  · simp only [applyHostResponse, bind_eq_ok, refuse_eq_ok, exists_const, require_eq_ok] at h
    obtain ⟨_, _, _, _, _, _, _, _, _, _, _, _, h⟩ := h
    split at h
    · simp only [bind_eq_ok, pure_ok, Except.ok.injEq] at h
      obtain ⟨_, _, rfl⟩ := h
      exact .inr ⟨_, rfl⟩
    · simp only [bind_eq_ok, pure_ok, Except.ok.injEq] at h
      obtain ⟨_, _, rfl⟩ := h
      exact .inl rfl
  · simp only [applySuspend, bind_eq_ok, pure_ok, Except.ok.injEq] at h
    obtain ⟨_, _, _, _, _, _, rfl⟩ := h
    exact .inl rfl
  · simp only [applyResume, bind_eq_ok, refuse_eq_ok, exists_const, require_eq_ok, pure_ok,
      Except.ok.injEq, Prod.exists] at h
    obtain ⟨_, origin, _, resumed, wake, hresumed, _, _, _, _, rfl⟩ := h
    exact resumeFrom_wake hresumed
  · unfold applyCancel at h
    split at h
    · split at h
      · simp only [bind_eq_ok, pure_ok, Except.ok.injEq] at h
        obtain ⟨_, _, _, _, rfl⟩ := h
        exact .inl rfl
      · simp only [bind_eq_ok, pure_ok, Except.ok.injEq] at h
        obtain ⟨_, _, _, _, rfl⟩ := h
        exact .inl rfl
    · exact .inl (terminateWith_wake h)
  · simp only [applyAbort, unit_guard_bind] at h
    exact .inl (terminateWith_wake h.2)

omit [Runtime] in
/-- The outbox fields of a receipt go together for either wake. -/
theorem wakeFields_ok {wake : ControllerCommandWake}
    (h : wake = .none ∨ ∃ cycle, wake = .recovery cycle) :
    (!(["pending", "claimed", "delivered", "ambiguous"].contains
        (if wake.action == "recovery_dispatch" then "pending" else "delivered"))) = false ∧
      (wake.destination.any fun value =>
        controllerCommandMaxUtf8Bytes < value.utf8ByteSize) = false ∧
      (!((wake.action == "none" && wake.destination.isNone) ||
        (wake.action == "recovery_dispatch" &&
          wake.destination == some "distributed_advance"))) = false ∧
      (wake.action == "none" &&
        (if wake.action == "recovery_dispatch" then "pending" else "delivered") !=
          "delivered") = false := by
  rcases h with rfl | ⟨cycle, rfl⟩
  · exact ⟨by decide, by decide, by decide, by decide⟩
  · have hfields : (ControllerCommandWake.recovery cycle).action = "recovery_dispatch" ∧
        (ControllerCommandWake.recovery cycle).destination = some "distributed_advance" :=
      ⟨rfl, rfl⟩
    rw [hfields.1, hfields.2]
    exact ⟨by decide, by decide, by decide, by decide⟩

/-- The receipt of an applied command is well formed: what it repeats of the command and of
the record has been checked before. -/
theorem commandReceipt_valid {clock : Clock} {lookup : HostRecordLookup} {current : Checkpoint}
    {command : ControllerCommand} {nowMs : Nat} {effect : CommandEffect}
    (hcommand : command.validate = .ok ())
    (h : applyControllerCommand clock lookup current command nowMs = .ok effect) :
    (commandReceipt command effect).validate = .ok () := by
  have hvalid := (applyControllerCommand_eq_ok h).2.2.2.1
  rw [validateCheckpoint_eq_ok] at hvalid
  have hidentity := hvalid.2.2.1
  simp only [validateIdentity, unit_guard_bind, refuse_eq_ok, Bool.or_eq_false_iff,
    decide_eq_false_iff_not] at hidentity
  have hrevision := hidentity.2.2.2.2.2.2
  simp only [ControllerCommand.validate, unit_guard_bind, refuse_eq_ok] at hcommand
  obtain ⟨_, hid, hhandle, hfence, hrest⟩ := hcommand
  have hdigest : isSha256 command.commandDigest = true := by
    split at hrest
    · simp only [bind_eq_ok, refuse_eq_ok, exists_const] at hrest
      obtain ⟨_, _, _, _, _, hdigest, _⟩ := hrest
      simpa using hdigest
    · simp only [unit_guard_bind, refuse_eq_ok] at hrest
      simpa using hrest.1
  have hwake : effect.wake = .none ∨ ∃ cycle, effect.wake = .recovery cycle := by
    simp only [applyControllerCommand, unit_guard_bind] at h
    exact transformByCommand_wake h.2.2.2.2.2
  have hstatus : badIdentity effect.checkpoint.status.asStr = false := by
    cases effect.checkpoint.status <;> decide
  have hfields := wakeFields_ok hwake
  have hintegers : (command.resumeAttempt == 0 || maxWireInteger < command.resumeAttempt ||
      maxWireInteger < command.expectedRevision ||
      maxWireInteger < effect.checkpoint.revision || maxWireInteger < 0) = false := by
    rw [hfence]
    simp [hrevision]
  simp only [ControllerCommandReceipt.validate, commandReceipt, unit_guard_bind, refuse_eq_ok]
  exact ⟨bne_self_eq_false _, hid, by rw [hdigest]; rfl, hhandle, hintegers, hfields.1, hstatus,
    hfields.2⟩

namespace MemoryStore

/-- The in-memory store applies a command in one piece, or not at all. -/
theorem applyControllerCommand_cases (store : MemoryStore) (clock : Clock)
    (command : ControllerCommand) (now : Nat) (hcommand : command.validate = .ok ()) :
    (∃ error, store.applyControllerCommand clock command now = (.error error, store)) ∨
      ∃ current effect, store.checkpoints[command.handle.checkpointKey]? = some current ∧
        VvAgent.applyControllerCommand clock (store.hostRecordLookup current.checkpointKey)
          current command now = .ok effect ∧
        (commandReceipt command effect).validate = .ok () ∧
        store.applyControllerCommand clock command now =
          (.ok (commandReceipt command effect,
              .applied (commandReceipt command effect) effect.wake),
            { store.putAnswer current.checkpointKey effect.hostRecord with
              checkpoints :=
                store.checkpoints.insert current.checkpointKey effect.checkpoint }) := by
  unfold applyControllerCommand
  split
  · exact .inl ⟨_, rfl⟩
  rename_i current hfound
  split
  · exact .inl ⟨_, rfl⟩
  rename_i effect heffect
  have hvalid := commandReceipt_valid hcommand heffect
  refine .inr ⟨current, effect, hfound, heffect, hvalid, ?_⟩
  dsimp only
  rw [hvalid]
  dsimp only
  rw [putAnswer_checkpoints]

theorem admitControllerCommand_rows (store : MemoryStore) (clock : Clock)
    (command : ControllerCommand) (now : Nat) :
    RowStep (.admitCommand clock command now) store
      (store.admitControllerCommand clock command now).2 := by
  unfold admitControllerCommand
  split
  · exact .same rfl
  rename_i hcommand
  split
  · exact .same rfl
  rename_i hnew
  rcases store.applyControllerCommand_cases clock command now hcommand with
    ⟨error, herror⟩ | ⟨current, effect, hfound, heffect, hvalid, hok⟩
  · rw [herror]
    exact .same rfl
  · rw [hok]
    exact .commanded clock command now current effect (.inl rfl) hcommand hnew hfound heffect
      hvalid rfl

theorem resolveControllerCommand_rows (store : MemoryStore) (clock : Clock)
    (command : ControllerCommand) (now : Nat) :
    RowStep (.resolveCommand clock command now) store
      (store.resolveControllerCommand clock command now).2 := by
  unfold resolveControllerCommand
  split
  · exact .same rfl
  rename_i hcommand
  split
  · exact .same rfl
  rename_i hnew
  rcases store.applyControllerCommand_cases clock command now hcommand with
    ⟨error, herror⟩ | ⟨current, effect, hfound, heffect, hvalid, hok⟩
  · rw [herror]
    exact .same rfl
  · rw [hok]
    exact .commanded clock command now current effect (.inr rfl) hcommand hnew hfound heffect
      hvalid rfl

theorem consumeResponse_rows (store : MemoryStore) (clock : Clock)
    (envelope : HostInteractionRecoveryEnvelope) (now : Nat) :
    RowStep (.consumeResponse clock envelope now) store
      (store.claimAndConsumeHostInteractionResponse clock envelope now).2 := by
  unfold claimAndConsumeHostInteractionResponse
  dsimp only
  split
  · exact .same rfl
  rename_i current record hfoundBoth
  simp only [bind_eq_ok, require_eq_ok, pure_ok, Except.ok.injEq, Prod.mk.injEq] at hfoundBoth
  obtain ⟨_, _, stored, hfound, row, hrow, rfl, rfl⟩ := hfoundBoth
  split
  · refine atomically_rows fun answer after h => ?_
    simp only [bind_eq_ok, refuse_eq_ok, exists_const, pure_ok, Except.ok.injEq,
      Prod.mk.injEq] at h
    obtain ⟨_, _, _, _, rfl⟩ := h
    exact .same rfl
  split
  · exact .same rfl
  rename_i stored' consumed after hconsumed
  simp only [consumeResponse, bind_eq_ok, refuse_eq_ok, exists_const, require_eq_ok, pure_ok,
    Except.ok.injEq, Prod.mk.injEq, Prod.exists, Bool.or_eq_false_iff, Bool.not_eq_false',
    bne_eq_false_iff_eq, Option.isSome_eq_false_iff, Option.isNone_iff_eq_none] at hconsumed
  obtain ⟨⟨⟨⟨⟨⟨⟨hidentity, hrevision⟩, hattempt⟩, hstatus⟩, htoken⟩, hambiguous⟩, hpending⟩, response,
    hresponse, updated, hprepared, _, hvalid, _, written, hpersist, rfl, _, rfl⟩ := hconsumed
  obtain ⟨archive, hstored, rfl⟩ := persist_eq_ok hpersist
  have hrecord : row.recordId = envelope.recordId := by
    simp only [recoveryIdentityMatches, Bool.and_eq_true, beq_iff_eq] at hidentity
    obtain ⟨⟨⟨⟨⟨⟨⟨⟨_, hrecord⟩, _⟩, _⟩, _⟩, _⟩, _⟩, _⟩, _⟩ := hidentity
    exact hrecord
  exact .consumed clock envelope now stored updated _ archive row response rfl hfound hrow
    hidentity hpending hresponse
    (.consume hrevision hattempt hstatus htoken hambiguous hrecord hprepared) hprepared hvalid
    hstored rfl

theorem reapHostInteractionRecord_rows (store : MemoryStore) (recordId key : String)
    (now : Nat) :
    RowStep (.reapHostInteraction recordId key now) store
      (store.reapHostInteractionRecord recordId key now).2 := by
  refine atomically_rows fun answer after h => ?_
  split at h
  · rename_i record checkpoint hrecord _
    split at h
    · exact .same (Prod.mk.inj (Except.ok.inj h)).2
    rename_i hguard
    simp only [not_or, not_not, ne_eq] at hguard
    simp only [bind_eq_ok, pure_ok, Except.ok.injEq, Prod.mk.injEq] at h
    obtain ⟨_, _, _, rfl⟩ := h
    exact .unclaimed recordId record _ hrecord hguard.2.1 rfl
  · exact .same (Prod.mk.inj (Except.ok.inj h)).2

theorem claimHostInteractionNotification_rows (store : MemoryStore)
    (notificationId digest token : String) (lease now : Nat) :
    RowStep (.claimNotification notificationId digest token lease now) store
      (store.claimHostInteractionNotification notificationId digest token lease now).2 := by
  refine atomically_rows fun answer after h => ?_
  simp only [unit_guard_bind] at h
  obtain ⟨_, h⟩ := h
  split at h
  · exact .same (Prod.mk.inj (Except.ok.inj h)).2
  rename_i row hrow
  simp only [unit_guard_bind] at h
  obtain ⟨_, h⟩ := h
  split at h
  · exact .same (Prod.mk.inj (Except.ok.inj h)).2
  simp only [bind_eq_ok, pure_ok, Except.ok.injEq, Prod.mk.injEq] at h
  obtain ⟨_, _, attempt, _, _, _, _, rfl⟩ := h
  refine .notified notificationId row _ hrow ?_ rfl
  exact ⟨rfl, rfl, rfl, rfl⟩

theorem completeHostInteractionNotification_rows (store : MemoryStore)
    (notificationId digest token : String) (attempt : Nat) (outcome : String) (now : Nat)
    (error : Option String) :
    RowStep (.completeNotification notificationId digest token attempt outcome now error) store
      (store.completeHostInteractionNotification notificationId digest token attempt outcome now
        error).2 := by
  refine atomically_rows fun answer after h => ?_
  simp only [unit_guard_bind] at h
  obtain ⟨_, h⟩ := h
  split at h
  · exact .same (Prod.mk.inj (Except.ok.inj h)).2
  rename_i row hrow
  simp only [bind_eq_ok, pure_ok, Except.ok.injEq, Prod.mk.injEq] at h
  obtain ⟨_, _, _, _, _, _, _, rfl⟩ := h
  refine .notified notificationId row _ hrow ?_ rfl
  exact ⟨rfl, rfl, rfl, rfl⟩

theorem reconcileHostInteractionNotification_rows (store : MemoryStore)
    (notificationId digest outcome : String) (now : Nat) (reason : Option String) :
    RowStep (.reconcileNotification notificationId digest outcome now reason) store
      (store.reconcileHostInteractionNotification notificationId digest outcome now reason).2 := by
  refine atomically_rows fun answer after h => ?_
  simp only [bind_eq_ok] at h
  obtain ⟨target, _, _, _, h⟩ := h
  split at h
  · exact .same (Prod.mk.inj (Except.ok.inj h)).2
  rename_i row hrow
  simp only [unit_guard_bind] at h
  obtain ⟨_, h⟩ := h
  split at h
  · exact .same (Prod.mk.inj (Except.ok.inj h)).2
  simp only [bind_eq_ok, pure_ok, Except.ok.injEq, Prod.mk.injEq] at h
  obtain ⟨_, _, _, _, _, rfl⟩ := h
  refine .notified notificationId row _ hrow ?_ rfl
  exact ⟨rfl, rfl, rfl, rfl⟩

omit [Runtime] in
/-- A receipt is rewritten under one command; the other wakes stay. -/
theorem putReceipt_wakeRow (store : MemoryStore) (commandId other : String)
    (receipt : ControllerCommandReceipt) (resolution : ControllerCommandResolution)
    (lease : Option WakeLease) :
    (store.putReceipt commandId receipt resolution lease).wakeRow other =
      if commandId = other then ⟨some (receipt, resolution.withReceipt receipt), lease⟩
      else store.wakeRow other := by
  by_cases hsame : commandId = other
  · subst hsame
    cases lease <;>
      simp only [wakeRow, putReceipt, Table.get_insert, Table.get_erase, if_true]
  · cases lease <;>
      simp only [wakeRow, putReceipt, Table.get_insert, Table.get_erase, if_neg hsame]

theorem putReceipt_rows {op : StoreOp} {store : MemoryStore} {commandId : String}
    {receipt updated : ControllerCommandReceipt} {resolution : ControllerCommandResolution}
    {lease : Option WakeLease}
    (hrow : store.ledger.commandReceipts[commandId]? = some (receipt, resolution))
    (hstep : WakeRowStep ⟨some (receipt, resolution), store.ledger.wakeLeases[commandId]?⟩
      ⟨some (updated, resolution.withReceipt updated), lease⟩) :
    RowStep op store (store.putReceipt commandId updated resolution lease) := by
  refine .woken (fun other => ?_) ⟨_, _, rfl⟩
  rw [putReceipt_wakeRow]
  split
  · rename_i hsame
    subst hsame
    rw [wakeRow, hrow]
    exact hstep
  · exact .kept _

theorem claimControllerCommandWake_rows (store : MemoryStore)
    (commandId digest token : String) (lease now : Nat) :
    RowStep (.claimWake commandId digest token lease now) store
      (store.claimControllerCommandWake commandId digest token lease now).2 := by
  refine atomically_rows fun answer after h => ?_
  simp only [unit_guard_bind] at h
  obtain ⟨_, h⟩ := h
  split at h
  · exact .same (Prod.mk.inj (Except.ok.inj h)).2
  rename_i receipt resolution hrow
  simp only [unit_guard_bind] at h
  obtain ⟨_, _, h⟩ := h
  split at h
  · exact .same (Prod.mk.inj (Except.ok.inj h)).2
  split at h
  · simp only [unit_guard_bind] at h
    exact .same (Prod.mk.inj (Except.ok.inj h.2)).2
  · simp only [bind_eq_ok, pure_ok, Except.ok.injEq, Prod.mk.injEq] at h
    obtain ⟨attempt, _, _, hvalid, _, rfl⟩ := h
    exact putReceipt_rows hrow (.claimed receipt resolution _ _ attempt hvalid)

theorem completeControllerCommandWake_rows (store : MemoryStore)
    (commandId digest token : String) (attempt : Nat) (outcome : String) :
    RowStep (.completeWake commandId digest token attempt outcome) store
      (store.completeControllerCommandWake commandId digest token attempt outcome).2 := by
  refine atomically_rows fun answer after h => ?_
  simp only [unit_guard_bind] at h
  obtain ⟨_, h⟩ := h
  split at h
  · exact .same (Prod.mk.inj (Except.ok.inj h)).2
  rename_i receipt resolution hrow
  simp only [unit_guard_bind] at h
  obtain ⟨_, h⟩ := h
  split at h
  · simp only [unit_guard_bind] at h
    exact .same (Prod.mk.inj (Except.ok.inj h.2)).2
  · simp only [bind_eq_ok, refuse_eq_ok, exists_const, pure_ok, Except.ok.injEq, Prod.mk.injEq,
      Bool.or_eq_false_iff, bne_eq_false_iff_eq] at h
    obtain ⟨⟨⟨hclaimed, _⟩, _⟩, _, hvalid, _, rfl⟩ := h
    exact putReceipt_rows hrow (.released receipt resolution _ outcome hclaimed hvalid)

theorem reconcileControllerCommandWake_rows (store : MemoryStore)
    (commandId digest outcome : String) :
    RowStep (.reconcileWake commandId digest outcome) store
      (store.reconcileControllerCommandWake commandId digest outcome).2 := by
  refine atomically_rows fun answer after h => ?_
  simp only [unit_guard_bind] at h
  obtain ⟨_, h⟩ := h
  split at h
  · exact .same (Prod.mk.inj (Except.ok.inj h)).2
  rename_i receipt resolution hrow
  simp only [bind_eq_ok, refuse_eq_ok, exists_const, pure_ok, Except.ok.injEq, Prod.mk.injEq,
    bne_eq_false_iff_eq] at h
  obtain ⟨_, hambiguous, _, hvalid, _, rfl⟩ := h
  exact putReceipt_rows hrow (.decided receipt resolution _ outcome hambiguous hvalid)

/-- What the reaper does to one wake. -/
def ReapStep (before after : WakeRow) : Prop :=
  after = before ∨ ∃ receipt resolution lease, before = ⟨some (receipt, resolution), lease⟩ ∧
    receipt.outboxState = "claimed" ∧ { receipt with outboxState := "pending" }.validate = .ok () ∧
    after = ⟨some ({ receipt with outboxState := "pending" },
      resolution.withReceipt { receipt with outboxState := "pending" }), none⟩

omit [Runtime] in
theorem ReapStep.trans {first second third : WakeRow} (h : ReapStep first second)
    (h' : ReapStep second third) : ReapStep first third := by
  rcases h with rfl | ⟨receipt, resolution, lease, hfirst, hclaimed, hvalid, rfl⟩
  · exact h'
  · rcases h' with rfl | ⟨receipt', _, _, hsecond, hclaimed', _⟩
    · exact .inr ⟨receipt, resolution, lease, hfirst, hclaimed, hvalid, rfl⟩
    · -- A wake that was handed back is pending, and not handed back again.
      obtain ⟨hreceipt, _⟩ := Prod.mk.inj (Option.some.inj (WakeRow.mk.inj hsecond).1)
      rw [← hreceipt] at hclaimed'
      exact absurd (show ("pending" : String) = "claimed" from hclaimed') (by decide)

theorem reapWake_reaps (store : MemoryStore) (key commandId : String) (now : Nat) :
    (∀ other, ReapStep (store.wakeRow other) ((store.reapWake key commandId now).2.wakeRow other)) ∧
      ∃ commandReceipts wakeLeases, (store.reapWake key commandId now).2 = { store with
        ledger := { store.ledger with commandReceipts, wakeLeases } } := by
  have hsame : (∀ other, ReapStep (store.wakeRow other) (store.wakeRow other)) ∧
      ∃ commandReceipts wakeLeases, store = { store with
        ledger := { store.ledger with commandReceipts, wakeLeases } } :=
    ⟨fun _ => .inl rfl, _, _, rfl⟩
  unfold reapWake
  split
  · exact hsame
  rename_i receipt resolution hrow
  split
  · exact hsame
  split
  · exact hsame
  split
  · exact hsame
  rename_i hguard
  simp only [not_or, not_not, ne_eq] at hguard
  dsimp only
  split
  · exact hsame
  rename_i hvalid
  refine ⟨fun other => ?_, _, _, rfl⟩
  rw [putReceipt_wakeRow]
  split
  · rename_i hid
    subst hid
    exact .inr ⟨receipt, resolution, _, congrArg (WakeRow.mk · _) hrow, hguard.1, hvalid, rfl⟩
  · exact .inl rfl

theorem reapWakes_reaps (store : MemoryStore) (key : String) (now : Nat)
    (commandIds : List String) :
    (∀ other, ReapStep (store.wakeRow other)
        ((store.reapWakes key now commandIds).2.wakeRow other)) ∧
      ∃ commandReceipts wakeLeases, (store.reapWakes key now commandIds).2 = { store with
        ledger := { store.ledger with commandReceipts, wakeLeases } } := by
  induction commandIds generalizing store with
  | nil => exact ⟨fun _ => .inl rfl, _, _, rfl⟩
  | cons commandId rest ih =>
      obtain ⟨hone, receipts, leases, hafter⟩ := store.reapWake_reaps key commandId now
      unfold reapWakes
      split
      · rename_i herror
        rw [herror] at hone hafter
        exact ⟨hone, receipts, leases, hafter⟩
      · rename_i after hok
        rw [hok] at hone hafter
        obtain ⟨hrest, receipts', leases', hfinal⟩ := ih after
        refine ⟨fun other => (hone other).trans (hrest other), receipts', leases', ?_⟩
        dsimp only at hafter ⊢
        rw [hfinal, hafter]

theorem reapControllerCommandWakes_rows (store : MemoryStore) (key : String) (now : Nat) :
    RowStep (.reapWakes key now) store (store.reapControllerCommandWakes key now).2 := by
  obtain ⟨hrows, hframe⟩ := store.reapWakes_reaps key now (store.wakeCandidates key now)
  refine .woken (fun commandId => ?_) hframe
  rcases hrows commandId with hkept | ⟨receipt, resolution, lease, hbefore, hclaimed, hvalid, hafter⟩
  · rw [reapControllerCommandWakes, hkept]
    exact .kept _
  · rw [reapControllerCommandWakes, hbefore, hafter]
    exact .released receipt resolution lease "pending" hclaimed hvalid

end MemoryStore

/-- What any operation does to the rows. -/
theorem exec_rows (op : StoreOp) (store : MemoryStore) : RowStep op store (exec op store) := by
  cases op with
  | create checkpoint => exact store.createCheckpoint_rows checkpoint
  | claim key cycle token lease now mode =>
      exact store.claimCheckpoint_rows key cycle token lease now mode
  | renew key token lease now =>
      obtain ⟨hledger, hreceipts⟩ := store.renewCheckpointClaim_same key token lease now
      exact .kept rfl hledger hreceipts
  | progress checkpoint token revision => exact store.update_rows rfl _ _
  | suspend checkpoint token revision => exact store.update_rows rfl _ _
  | commit checkpoint token revision => exact store.update_rows rfl _ _
  | finalize clock checkpoint revision => exact store.update_rows rfl _ _
  | finalizeClaimed clock checkpoint token revision => exact store.update_rows rfl _ _
  | recordToolReceipt clock checkpoint target result token revision =>
      exact store.recordToolReceipt_rows clock checkpoint target result token revision
  | acknowledge key revision => exact store.update_rows rfl _ _
  | recordEventDelivery key token revision eventId digest cursor => exact store.update_rows rfl _ _
  | admitDeferred clock key revision token cycle entries =>
      exact store.admitDeferredBatch_rows clock key revision token cycle entries
  | acceptDeferred clock key revision token cycle decisions =>
      exact store.acceptDeferredBatch_rows clock key revision token cycle decisions
  | resolveDeferred clock handle result => exact store.resolveDeferred_rows clock handle result
  | produceHostInteraction clock request context =>
      exact store.produceHostInteraction_rows clock request context
  | admitCommand clock command now => exact store.admitControllerCommand_rows clock command now
  | resolveCommand clock command now =>
      exact store.resolveControllerCommand_rows clock command now
  | consumeResponse clock envelope now => exact store.consumeResponse_rows clock envelope now
  | reapHostInteraction recordId key now =>
      exact store.reapHostInteractionRecord_rows recordId key now
  | claimNotification notificationId digest token lease now =>
      exact store.claimHostInteractionNotification_rows notificationId digest token lease now
  | completeNotification notificationId digest token attempt outcome now error =>
      exact store.completeHostInteractionNotification_rows notificationId digest token attempt
        outcome now error
  | reconcileNotification notificationId digest outcome now reason =>
      exact store.reconcileHostInteractionNotification_rows notificationId digest outcome now
        reason
  | claimWake commandId digest token lease now =>
      exact store.claimControllerCommandWake_rows commandId digest token lease now
  | completeWake commandId digest token attempt outcome =>
      exact store.completeControllerCommandWake_rows commandId digest token attempt outcome
  | reconcileWake commandId digest outcome =>
      exact store.reconcileControllerCommandWake_rows commandId digest outcome
  | reapWakes key now => exact store.reapControllerCommandWakes_rows key now
  | delete key => exact .deleted key rfl rfl

end

end VvAgent
