import VvAgent.Store.Rows

/-!
No row without its checkpoint. The store keeps eight tables that only `delete_checkpoint`
cleans; every other operation adds a row to a checkpoint it has found, or rewrites a row.
A question to the host has one notification, under an id that is a digest of the record's
id, so distinct records are taken to have distinct notification ids.
-/

namespace VvAgent
open Lib Lib.Outcome

section
variable [Runtime]

/-- The record id of the question an operation puts to the host. -/
def StoreOp.asks : StoreOp → Option String
  | .produceHostInteraction _ request context => some (recordIdFor context.checkpointKey request)
  | _ => none

/-- The checkpoint of a key is stored. -/
def MemoryStore.Houses (store : MemoryStore) (key : String) : Prop :=
  store.checkpoints[key]?.isSome = true

/-- Every row refers to a checkpoint, and the rows of one matter to each other. -/
structure NoOrphans (asked : String → Prop) (store : MemoryStore) : Prop where
  archives : ∀ (key : String) (archive : ArchivedHistory),
    store.history[key]? = some archive → store.Houses key
  deferred : ∀ (id : String) (receipt : DeferredReceipt),
    store.deferredReceipts[id]? = some receipt → store.Houses receipt.handle.checkpointKey
  records : ∀ (id : String) (record : HostInteractionRecord),
    store.ledger.hostInteractions[id]? = some record →
      store.Houses record.checkpointKey ∧ record.recordId = id ∧ asked id ∧
        record.state ≠ "resolved_claimed"
  notifications : ∀ (id : String) (row : HostInteractionNotificationRecord),
    store.ledger.notifications[id]? = some row → store.Houses row.checkpointKey
  commands : ∀ (id : String) (command : ControllerCommand),
    store.ledger.commands[id]? = some command → store.Houses command.handle.checkpointKey
  receipts : ∀ (id : String) (receipt : ControllerCommandReceipt)
    (resolution : ControllerCommandResolution),
    store.ledger.commandReceipts[id]? = some (receipt, resolution) →
      store.Houses receipt.handle.checkpointKey
  leases : ∀ (id : String) (lease : WakeLease), store.ledger.wakeLeases[id]? = some lease →
    ∃ (receipt : ControllerCommandReceipt) (resolution : ControllerCommandResolution),
      store.ledger.commandReceipts[id]? = some (receipt, resolution) ∧
        receipt.outboxState = "claimed"
  announced : ∀ (id : String) (record : HostInteractionRecord),
    store.ledger.hostInteractions[id]? = some record →
      ∃ row : HostInteractionNotificationRecord,
        store.ledger.notifications[notificationIdFor id]? = some row ∧ row.recordId = id ∧
          row.checkpointKey = record.checkpointKey
  questions : ∀ (id : String) (row : HostInteractionNotificationRecord),
    store.ledger.notifications[id]? = some row →
      id = notificationIdFor row.recordId ∧
        ∃ record : HostInteractionRecord,
          store.ledger.hostInteractions[row.recordId]? = some record ∧
            record.checkpointKey = row.checkpointKey

/-- A checkpoint stays until it is deleted. -/
theorem TableStep.houses {op : StoreOp} {before after : MemoryStore}
    (h : TableStep op before after) {key : String} (hkept : op ≠ .delete key)
    (hstored : before.Houses key) : after.Houses key := by
  unfold MemoryStore.Houses at hstored ⊢
  cases h with
  | kept hcheckpoints _ => rw [hcheckpoints, hstored]
  | created checkpoint _ _ _ hcheckpoints _ =>
      rw [hcheckpoints, Table.get_insert]
      split
      · rfl
      · exact hstored
  | replaced written _ _ _ _ _ hcheckpoints _ =>
      rw [hcheckpoints, Table.get_insert]
      split
      · rfl
      · exact hstored
  | archived written _ _ _ _ _ _ _ hcheckpoints _ =>
      rw [hcheckpoints, Table.get_insert]
      split
      · rfl
      · exact hstored
  | deleted erased hop hcheckpoints _ =>
      rw [hcheckpoints, Table.get_erase]
      split
      · rename_i hsame
        exact absurd (hsame ▸ hop) hkept
      · exact hstored

/-- An archive is written with its record. -/
theorem TableStep.archives {op : StoreOp} {before after : MemoryStore}
    (h : TableStep op before after) (hkeyed : Keyed before)
    (hbefore : ∀ key archive, before.history[key]? = some archive → before.Houses key)
    (key : String) (archive : ArchivedHistory) (hrow : after.history[key]? = some archive) :
    after.Houses key := by
  unfold MemoryStore.Houses at hbefore ⊢
  cases h with
  | kept hcheckpoints hhistory =>
      rw [hcheckpoints]
      rw [hhistory] at hrow
      exact hbefore key archive hrow
  | created checkpoint _ _ _ hcheckpoints hhistory =>
      rw [hhistory] at hrow
      rw [hcheckpoints, Table.get_insert]
      split
      · rfl
      · exact hbefore key archive hrow
  | replaced written _ _ _ _ _ hcheckpoints hhistory =>
      rw [hhistory] at hrow
      rw [hcheckpoints, Table.get_insert]
      split
      · rfl
      · exact hbefore key archive hrow
  | archived written current updated stored newArchive hfound hmade hpersist hcheckpoints hhistory =>
      have hstored : stored.checkpointKey = written :=
        (Wrote.archived updated _ _ hmade hpersist).checkpointKey.trans
          (hkeyed written current hfound)
      rw [hhistory, hstored, Table.get_insert] at hrow
      rw [hcheckpoints, Table.get_insert]
      split
      · rfl
      · rename_i hother
        rw [if_neg hother] at hrow
        exact hbefore key archive hrow
  | deleted erased _ hcheckpoints hhistory =>
      rw [hhistory, Table.get_erase] at hrow
      rw [hcheckpoints, Table.get_erase]
      split
      · rename_i hsame
        rw [if_pos hsame] at hrow
        cases hrow
      · rename_i hother
        rw [if_neg hother] at hrow
        exact hbefore key archive hrow

/-- The notification of a question names it. -/
theorem notificationFor_names {key recordId : String} {request : HostInteractionRequest}
    {notification : HostInteractionNotificationRecord}
    (h : notificationFor key recordId request = .ok notification) :
    notification.recordId = recordId ∧ notification.checkpointKey = key := by
  simp only [notificationFor, bind_eq_ok, pure_ok, Except.ok.injEq] at h
  obtain ⟨_, _, _, _, _, _, rfl⟩ := h
  exact ⟨rfl, rfl⟩

/-- What a response command does to the record of its question. -/
theorem applyControllerCommand_hostRecord {clock : Clock} {lookup : HostRecordLookup}
    {current : Checkpoint} {command : ControllerCommand} {now : Nat} {effect : CommandEffect}
    (h : applyControllerCommand clock lookup current command now = .ok effect) :
    effect.hostRecord = none ∨
      ∃ answer request record response,
        command.command = .hostInteractionResponse answer ∧
        answerableInteraction current = some request ∧ lookup request = .ok (some record) ∧
        record.state = "active" ∧ record.request = request ∧
        HostInteractionResponse.new answer command.commandId = .ok response ∧
        (record.answered response command.commandId (current.revision + 1)).validate = .ok () ∧
        effect.hostRecord =
          some (record.answered response command.commandId (current.revision + 1)) := by
  simp only [applyControllerCommand, unit_guard_bind] at h
  obtain ⟨_, _, _, _, _, h⟩ := h
  simp only [transformByCommand, bind_eq_ok] at h
  obtain ⟨updated, _, h⟩ := h
  split at h
  · rename_i answer hcommand
    simp only [applyHostResponse, bind_eq_ok, refuse_eq_ok, exists_const, require_eq_ok,
      Bool.or_eq_false_iff, bne_eq_false_iff_eq] at h
    obtain ⟨request, hrequest, _, found, hfound, record, rfl, ⟨hactive, hsame⟩, response, hresponse,
      _, hvalid, h⟩ := h
    refine .inr ⟨answer, request, record, response, hcommand, hrequest, hfound, hactive, hsame,
      hresponse, hvalid, ?_⟩
    split at h
    · simp only [bind_eq_ok, pure_ok, Except.ok.injEq] at h
      obtain ⟨_, _, rfl⟩ := h
      rfl
    · simp only [bind_eq_ok, pure_ok, Except.ok.injEq] at h
      obtain ⟨_, _, rfl⟩ := h
      rfl
  · simp only [applySuspend, bind_eq_ok, pure_ok, Except.ok.injEq] at h
    obtain ⟨_, _, _, _, _, _, rfl⟩ := h
    exact .inl rfl
  · simp only [applyResume, bind_eq_ok, refuse_eq_ok, exists_const, require_eq_ok, pure_ok,
      Except.ok.injEq, Prod.exists] at h
    obtain ⟨_, _, _, _, _, _, _, _, _, _, rfl⟩ := h
    exact .inl rfl
  · unfold applyCancel at h
    split at h
    · split at h
      · simp only [bind_eq_ok, pure_ok, Except.ok.injEq] at h
        obtain ⟨_, _, _, _, rfl⟩ := h
        exact .inl rfl
      · simp only [bind_eq_ok, pure_ok, Except.ok.injEq] at h
        obtain ⟨_, _, _, _, rfl⟩ := h
        exact .inl rfl
    · exact .inl (terminateWith_eq_ok h).2.1
  · simp only [applyAbort, unit_guard_bind] at h
    exact .inl (terminateWith_eq_ok h.2).2.1

/-- A valid checkpoint is created where there is none. -/
theorem createCheckpoint_absent {store : MemoryStore} {checkpoint : Checkpoint}
    (hvalid : validateCheckpointCreation checkpoint = .ok ())
    (habsent : store.checkpoints[checkpoint.checkpointKey]? = none) :
    store.createCheckpoint checkpoint = (.ok true, (store.createCheckpoint checkpoint).2) := by
  have hcontains := (Table.contains_eq_false _ _).mpr habsent
  simp [MemoryStore.createCheckpoint, hvalid, hcontains, MemoryStore.atomically]

/-- A checkpoint is created where there is none. -/
theorem createCheckpoint_created {store after : MemoryStore} {checkpoint : Checkpoint}
    (h : store.createCheckpoint checkpoint = (.ok true, after)) :
    store.checkpoints[checkpoint.checkpointKey]? = none ∧
      after = { store with
        checkpoints := store.checkpoints.insert checkpoint.checkpointKey checkpoint } := by
  obtain ⟨written, hwritten, hafter⟩ := MemoryStore.atomically_eq_ok (congrArg Prod.fst h)
  have hsecond : (store.createCheckpoint checkpoint).2 = after := congrArg Prod.snd h
  simp only [unit_guard_bind] at hwritten
  obtain ⟨_, hwritten⟩ := hwritten
  split at hwritten
  · exact absurd (Prod.mk.inj (Except.ok.inj hwritten)).1 (by simp)
  · rename_i habsent
    obtain ⟨_, rfl⟩ := Prod.mk.inj (Except.ok.inj hwritten)
    refine ⟨(Table.contains_eq_false _ _).mp (Bool.not_eq_true _ ▸ habsent), ?_⟩
    rw [← hsecond]
    exact hafter

namespace NoOrphans

theorem empty (asked : String → Prop) : NoOrphans asked {} := by
  constructor <;> (intro id; simp)

variable {asked : String → Prop} {store : MemoryStore}

/-- Writing records and archives leaves the rows where they are. -/
theorem transport {after : MemoryStore} (h : NoOrphans asked store)
    (hhouse : ∀ key, store.Houses key → after.Houses key)
    (harchives : ∀ (key : String) (archive : ArchivedHistory),
      after.history[key]? = some archive → after.Houses key)
    (hledger : after.ledger = store.ledger)
    (hreceipts : after.deferredReceipts = store.deferredReceipts) : NoOrphans asked after where
  archives := harchives
  deferred id receipt hrow := hhouse _ (h.deferred id receipt (hreceipts ▸ hrow))
  records id record hrow := by
    obtain ⟨hhoused, hrest⟩ := h.records id record (hledger ▸ hrow)
    exact ⟨hhouse _ hhoused, hrest⟩
  notifications id row hrow := hhouse _ (h.notifications id row (hledger ▸ hrow))
  commands id command hrow := hhouse _ (h.commands id command (hledger ▸ hrow))
  receipts id receipt resolution hrow :=
    hhouse _ (h.receipts id receipt resolution (hledger ▸ hrow))
  leases := by
    rw [hledger]
    exact h.leases
  announced := by
    rw [hledger]
    exact h.announced
  questions := by
    rw [hledger]
    exact h.questions

theorem putDeferred (h : NoOrphans asked store) (key : String) (receipt : DeferredReceipt)
    (hhouse : store.Houses receipt.handle.checkpointKey) :
    NoOrphans asked { store with
      deferredReceipts := store.deferredReceipts.insert key receipt } :=
  { h with
    deferred := by
      intro id row hrow
      dsimp only at hrow
      rw [Table.get_insert] at hrow
      split at hrow
      · obtain rfl := Option.some.inj hrow
        exact hhouse
      · exact h.deferred id row hrow }

/-- A new question with its notification. -/
theorem putQuestion (h : NoOrphans asked store) (key : String) (request : HostInteractionRequest)
    (notification : HostInteractionNotificationRecord) (hhouse : store.Houses key)
    (hnew : store.ledger.hostInteractions[recordIdFor key request]? = none)
    (hasked : asked (recordIdFor key request))
    (hdistinct : ∀ id id', asked id → asked id' →
      notificationIdFor id = notificationIdFor id' → id = id')
    (hrecord : notification.recordId = recordIdFor key request)
    (hkey : notification.checkpointKey = key) :
    NoOrphans asked (store.putQuestion key request notification) := by
  have hfree : ∀ row, store.ledger.notifications[
      notificationIdFor (recordIdFor key request)]? = some row → False := by
    intro row hrow
    obtain ⟨hid, record, hfound, _⟩ := h.questions _ row hrow
    have hsame := hdistinct _ _ hasked (h.records _ record hfound).2.2.1 hid
    rw [← hsame, hnew] at hfound
    cases hfound
  refine { h with
    records := ?_, notifications := ?_, announced := ?_, questions := ?_ }
  · intro id record hrow
    simp only [MemoryStore.putQuestion, MemoryStore.putHostRecord, MemoryStore.putNotification,
      Table.get_insert] at hrow
    split at hrow
    · rename_i hid
      obtain rfl := Option.some.inj hrow
      exact ⟨hhouse, hid, hid ▸ hasked,
        show ("active" : String) ≠ "resolved_claimed" by decide⟩
    · exact h.records id record hrow
  · intro id row hrow
    simp only [MemoryStore.putQuestion, MemoryStore.putHostRecord, MemoryStore.putNotification,
      Table.get_insert] at hrow
    split at hrow
    · obtain rfl := Option.some.inj hrow
      rw [hkey]
      exact hhouse
    · exact h.notifications id row hrow
  · intro id record hrow
    simp only [MemoryStore.putQuestion, MemoryStore.putHostRecord, MemoryStore.putNotification,
      Table.get_insert] at hrow ⊢
    split at hrow
    · rename_i hid
      obtain rfl := Option.some.inj hrow
      subst hid
      exact ⟨notification, by rw [if_pos rfl], hrecord, hkey⟩
    · obtain ⟨row, hfound, hrest⟩ := h.announced id record hrow
      refine ⟨row, ?_, hrest⟩
      rw [if_neg, hfound]
      intro hsame
      rw [← hsame] at hfound
      exact hfree row hfound
  · intro id row hrow
    simp only [MemoryStore.putQuestion, MemoryStore.putHostRecord, MemoryStore.putNotification,
      Table.get_insert] at hrow ⊢
    split at hrow
    · rename_i hid
      obtain rfl := Option.some.inj hrow
      refine ⟨by rw [hrecord, hid], _, by rw [hrecord, if_pos rfl], ?_⟩
      exact hkey.symm
    · obtain ⟨hid, record, hfound, hsame⟩ := h.questions id row hrow
      refine ⟨hid, record, ?_, hsame⟩
      rw [if_neg, hfound]
      intro hsameId
      rw [← hsameId, hnew] at hfound
      cases hfound

/-- The record of a question is rewritten. -/
theorem putHostRecord (h : NoOrphans asked store) {id : String}
    {record updated : HostInteractionRecord}
    (hrecord : store.ledger.hostInteractions[id]? = some record)
    (hkey : updated.checkpointKey = record.checkpointKey)
    (hid : updated.recordId = record.recordId) (hstate : updated.state ≠ "resolved_claimed") :
    NoOrphans asked (store.putHostRecord id updated) := by
  obtain ⟨hhouse, hrecordId, hasked, _⟩ := h.records id record hrecord
  refine { h with records := ?_, announced := ?_, questions := ?_ }
  · intro other row hrow
    simp only [MemoryStore.putHostRecord, Table.get_insert] at hrow
    split at hrow
    · rename_i hsame
      obtain rfl := Option.some.inj hrow
      rw [hkey, hid, hrecordId, ← hsame]
      exact ⟨hhouse, rfl, hasked, hstate⟩
    · exact h.records other row hrow
  · intro other row hrow
    simp only [MemoryStore.putHostRecord, Table.get_insert] at hrow ⊢
    split at hrow
    · rename_i hsame
      obtain rfl := Option.some.inj hrow
      rw [hkey, ← hsame]
      exact h.announced id record hrecord
    · exact h.announced other row hrow
  · intro other row hrow
    obtain ⟨hother, found, hfound, hsame⟩ := h.questions other row hrow
    refine ⟨hother, ?_⟩
    simp only [MemoryStore.putHostRecord, Table.get_insert]
    split
    · rename_i hsameId
      rw [← hsameId, hrecord] at hfound
      obtain rfl := Option.some.inj hfound
      exact ⟨updated, rfl, hkey.trans hsame⟩
    · exact ⟨found, hfound, hsame⟩

/-- The notification of a question is rewritten. -/
theorem putNotification (h : NoOrphans asked store) {id : String}
    {row updated : HostInteractionNotificationRecord}
    (hrow : store.ledger.notifications[id]? = some row) (hsame : SameQuestion row updated) :
    NoOrphans asked (store.putNotification id updated) := by
  obtain ⟨_, hkey, hrecordId, _⟩ := hsame
  obtain ⟨hid, hquestion⟩ := h.questions id row hrow
  refine { h with notifications := ?_, announced := ?_, questions := ?_ }
  · intro other found hfound
    simp only [MemoryStore.putNotification, Table.get_insert] at hfound
    split at hfound
    · obtain rfl := Option.some.inj hfound
      rw [hkey]
      exact h.notifications id row hrow
    · exact h.notifications other found hfound
  · intro other record hrecord
    obtain ⟨found, hfound, hrest⟩ := h.announced other record hrecord
    simp only [MemoryStore.putNotification, Table.get_insert]
    split
    · rename_i hsameId
      rw [← hsameId, hrow] at hfound
      obtain rfl := Option.some.inj hfound
      exact ⟨updated, rfl, hrecordId.trans hrest.1, hkey.trans hrest.2⟩
    · exact ⟨found, hfound, hrest⟩
  · intro other found hfound
    simp only [MemoryStore.putNotification, Table.get_insert] at hfound
    split at hfound
    · rename_i hsameId
      obtain rfl := Option.some.inj hfound
      rw [hrecordId, hkey, ← hsameId]
      exact ⟨hid, hquestion⟩
    · exact h.questions other found hfound

/-- A command that was applied leaves its receipt. -/
theorem retainReceipt (h : NoOrphans asked store) {command : ControllerCommand}
    {receipt : ControllerCommandReceipt} (resolution : ControllerCommandResolution)
    (hhouse : store.Houses command.handle.checkpointKey)
    (hhandle : receipt.handle = command.handle)
    (hnew : store.ledger.commandReceipts[command.commandId]? = none) :
    NoOrphans asked (store.retainReceipt command receipt resolution) := by
  refine { h with commands := ?_, receipts := ?_, leases := ?_ }
  · intro id found hfound
    simp only [MemoryStore.retainReceipt, Table.get_insert] at hfound
    split at hfound
    · obtain rfl := Option.some.inj hfound
      exact hhouse
    · exact h.commands id found hfound
  · intro id found decision hfound
    simp only [MemoryStore.retainReceipt, Table.get_insert] at hfound
    split at hfound
    · obtain ⟨rfl, rfl⟩ := Prod.mk.inj (Option.some.inj hfound)
      rw [hhandle]
      exact hhouse
    · exact h.receipts id found decision hfound
  · intro id lease hlease
    obtain ⟨found, decision, hfound, hclaimed⟩ := h.leases id lease hlease
    refine ⟨found, decision, ?_, hclaimed⟩
    simp only [MemoryStore.retainReceipt, Table.get_insert]
    rw [if_neg, hfound]
    intro hsame
    rw [← hsame, hnew] at hfound
    cases hfound

omit [Runtime] in
/-- A step of one wake keeps its receipt and drops a lease that nothing claims. -/
theorem wakeRow {before after : WakeRow} (h : WakeRowStep before after)
    (hbefore : ∀ lease, before.lease = some lease →
      ∃ receipt resolution, before.receipt = some (receipt, resolution) ∧
        receipt.outboxState = "claimed") :
    (∀ lease, after.lease = some lease →
      ∃ receipt resolution, after.receipt = some (receipt, resolution) ∧
        receipt.outboxState = "claimed") ∧
    ∀ receipt resolution, after.receipt = some (receipt, resolution) →
      ∃ earlier decision, before.receipt = some (earlier, decision) ∧
        earlier.handle = receipt.handle := by
  cases h with
  | kept row => exact ⟨hbefore, fun receipt resolution hrow => ⟨receipt, resolution, hrow, rfl⟩⟩
  | claimed receipt resolution _ lease attempt _ =>
      refine ⟨fun _ _ => ⟨_, _, rfl, rfl⟩, fun found decision hfound => ?_⟩
      obtain ⟨rfl, _⟩ := Prod.mk.inj (Option.some.inj hfound)
      exact ⟨receipt, resolution, rfl, rfl⟩
  | released receipt resolution _ outboxState _ _ =>
      refine ⟨fun lease hlease => absurd hlease (by simp), fun found decision hfound => ?_⟩
      obtain ⟨rfl, _⟩ := Prod.mk.inj (Option.some.inj hfound)
      exact ⟨receipt, resolution, rfl, rfl⟩
  | decided receipt resolution lease outboxState hambiguous _ =>
      refine ⟨fun held hheld => ?_, fun found decision hfound => ?_⟩
      · obtain ⟨claimed, _, hrow, hclaimed⟩ := hbefore held hheld
        obtain ⟨rfl, _⟩ := Prod.mk.inj (Option.some.inj hrow)
        rw [hambiguous] at hclaimed
        exact absurd hclaimed (by decide)
      · obtain ⟨rfl, _⟩ := Prod.mk.inj (Option.some.inj hfound)
        exact ⟨receipt, resolution, rfl, rfl⟩

/-- Wakes are claimed, given up or decided about. -/
theorem woken (h : NoOrphans asked store)
    (commandReceipts : Table (ControllerCommandReceipt × ControllerCommandResolution))
    (wakeLeases : Table WakeLease)
    (hrows : ∀ commandId, WakeRowStep (store.wakeRow commandId)
      ⟨commandReceipts[commandId]?, wakeLeases[commandId]?⟩) :
    NoOrphans asked { store with
      ledger := { store.ledger with commandReceipts, wakeLeases } } := by
  refine { h with receipts := ?_, leases := ?_ }
  · intro id receipt resolution hrow
    obtain ⟨earlier, decision, hearlier, hhandle⟩ :=
      (wakeRow (hrows id) (h.leases id)).2 receipt resolution hrow
    rw [← hhandle]
    exact h.receipts id earlier decision hearlier
  · intro id
    exact (wakeRow (hrows id) (h.leases id)).1

/-- Deletion takes every row of its checkpoint along. -/
theorem delete (h : NoOrphans asked store) (key : String) :
    NoOrphans asked (store.deleteCheckpoint key) := by
  have hhouse : ∀ other, store.Houses other → (other != key) = true →
      (store.deleteCheckpoint key).Houses other := by
    intro other hstored hother
    unfold MemoryStore.Houses MemoryStore.deleteCheckpoint
    rw [Table.get_erase, if_neg (fun hsame => by simp [hsame] at hother)]
    exact hstored
  constructor
  case archives =>
    intro other archive hrow
    simp only [MemoryStore.deleteCheckpoint, Table.get_erase] at hrow
    split at hrow
    · cases hrow
    · rename_i hother
      exact hhouse other (h.archives other archive hrow) (by simpa using Ne.symm hother)
  case deferred =>
    intro id receipt hrow
    simp only [MemoryStore.deleteCheckpoint, Table.get_filter, Option.filter_eq_some_iff] at hrow
    exact hhouse _ (h.deferred id receipt hrow.1) hrow.2
  case records =>
    intro id record hrow
    simp only [MemoryStore.deleteCheckpoint, Table.get_filter, Option.filter_eq_some_iff] at hrow
    obtain ⟨hhoused, hrest⟩ := h.records id record hrow.1
    exact ⟨hhouse _ hhoused hrow.2, hrest⟩
  case notifications =>
    intro id row hrow
    simp only [MemoryStore.deleteCheckpoint, Table.get_filter, Option.filter_eq_some_iff] at hrow
    exact hhouse _ (h.notifications id row hrow.1) hrow.2
  case commands =>
    intro id command hrow
    simp only [MemoryStore.deleteCheckpoint, Table.get_filter, Option.filter_eq_some_iff] at hrow
    exact hhouse _ (h.commands id command hrow.1) hrow.2
  case receipts =>
    intro id receipt resolution hrow
    simp only [MemoryStore.deleteCheckpoint, Table.get_filter, Option.filter_eq_some_iff] at hrow
    exact hhouse _ (h.receipts id receipt resolution hrow.1) hrow.2
  case leases =>
    intro id lease hrow
    simp only [MemoryStore.deleteCheckpoint, Table.get_filter, Option.filter_eq_some_iff,
      Std.ExtTreeMap.contains_eq_isSome_getElem?] at hrow ⊢
    obtain ⟨receipt, resolution, hfound, hclaimed⟩ := h.leases id lease hrow.1
    obtain ⟨kept, hkept⟩ := Option.isSome_iff_exists.mp hrow.2
    rw [Option.filter_eq_some_iff, hfound] at hkept
    exact ⟨receipt, resolution, ⟨hfound, by simpa [← Option.some.inj hkept.1] using hkept.2⟩,
      hclaimed⟩
  case announced =>
    intro id record hrow
    simp only [MemoryStore.deleteCheckpoint, Table.get_filter, Option.filter_eq_some_iff] at hrow ⊢
    obtain ⟨row, hfound, hid, hkey⟩ := h.announced id record hrow.1
    exact ⟨row, ⟨hfound, by rw [hkey]; exact hrow.2⟩, hid, hkey⟩
  case questions =>
    intro id row hrow
    simp only [MemoryStore.deleteCheckpoint, Table.get_filter, Option.filter_eq_some_iff] at hrow ⊢
    obtain ⟨hid, record, hfound, hkey⟩ := h.questions id row hrow.1
    exact ⟨hid, record, ⟨hfound, by rw [hkey]; exact hrow.2⟩, hkey⟩

/-- The answer of a command, and a checkpoint that stays stored. -/
theorem putAnswer (h : NoOrphans asked store) {clock : Clock} {current : Checkpoint}
    {command : ControllerCommand} {now : Nat} {effect : CommandEffect}
    (heffect : applyControllerCommand clock (store.hostRecordLookup current.checkpointKey) current
      command now = .ok effect) :
    NoOrphans asked (store.putAnswer current.checkpointKey effect.hostRecord) := by
  rcases applyControllerCommand_hostRecord heffect with hnone | ⟨answer, request, record, response,
    _, _, hlookup, _, hrequest, _, _, hrecord⟩
  · rw [hnone]
    exact h
  · rw [hrecord]
    have hfound := Except.ok.inj hlookup
    rw [← hrequest] at hfound
    exact h.putHostRecord hfound rfl rfl
      (show ("resolved_pending" : String) ≠ "resolved_claimed" by decide)

end NoOrphans

/-- One operation leaves no orphan behind. -/
theorem exec_noOrphans {asked : String → Prop} {store : MemoryStore} (op : StoreOp)
    (hkeyed : Keyed store) (hasked : ∀ id, op.asks = some id → asked id)
    (hdistinct : ∀ id id', asked id → asked id' →
      notificationIdFor id = notificationIdFor id' → id = id')
    (h : NoOrphans asked store) : NoOrphans asked (exec op store) := by
  have htables := exec_step op store hkeyed
  by_cases hdelete : ∃ key, op = .delete key
  · obtain ⟨key, rfl⟩ := hdelete
    exact h.delete key
  have hhouse : ∀ key, store.Houses key → (exec op store).Houses key := fun key =>
    htables.houses fun hop => hdelete ⟨key, hop⟩
  have harchives := htables.archives hkeyed h.archives
  cases exec_rows op store with
  | unchanged hafter =>
      rw [hafter]
      exact h
  | kept _ hledger hreceipts => exact h.transport hhouse harchives hledger hreceipts
  | resolved key receipt _ hstored _ _ hledger hreceipts =>
      have hmoved : NoOrphans asked
          { exec op store with deferredReceipts := store.deferredReceipts } :=
        h.transport hhouse harchives hledger rfl
      have hput := hmoved.putDeferred key receipt (hhouse _ hstored)
      dsimp only at hput
      rw [← hreceipts] at hput
      exact hput
  | asked clock request context current updated stored archive notification hop hfound _ hnew _
      hnotification _ hafter =>
      have hwritten : NoOrphans asked (store.write context.checkpointKey stored archive) := by
        rw [hafter] at hhouse harchives
        exact h.transport hhouse harchives rfl rfl
      rw [hafter]
      obtain ⟨hrecordId, hkey⟩ := notificationFor_names hnotification
      refine hwritten.putQuestion _ request notification ?_ hnew (hasked _ (by rw [hop]; rfl))
        hdistinct hrecordId hkey
      simp [MemoryStore.Houses, MemoryStore.write]
  | commanded clock command now current effect _ _ hnew hfound heffect _ hafter =>
      have hput := h.putAnswer heffect
      rw [hafter] at hhouse harchives ⊢
      have hwritten : NoOrphans asked
          { store.putAnswer current.checkpointKey effect.hostRecord with
            checkpoints :=
              store.checkpoints.insert current.checkpointKey effect.checkpoint } :=
        hput.transport
          (fun key hkey => hhouse key (by
            rwa [MemoryStore.Houses, MemoryStore.putAnswer_checkpoints] at hkey))
          harchives rfl rfl
      refine hwritten.retainReceipt _ ?_ rfl ?_
      · exact hhouse _ (by rw [MemoryStore.Houses, hfound]; rfl)
      · cases heq : effect.hostRecord <;> exact hnew
  | consumed clock envelope now current updated stored archive record response _ _ hrecord
      _ _ _ _ _ _ _ hafter =>
      have hwritten : NoOrphans asked (store.write envelope.checkpointKey stored archive) := by
        rw [hafter] at hhouse harchives
        exact h.transport hhouse harchives rfl rfl
      have hid := (h.records _ record hrecord).2.1
      rw [hafter, hid]
      exact hwritten.putHostRecord hrecord rfl rfl
        (show ("consumed" : String) ≠ "resolved_claimed" by decide)
  | unclaimed recordId record updated hrecord hclaimed _ =>
      exact absurd hclaimed (h.records _ record hrecord).2.2.2
  | notified notificationId row updated hrow hsame hafter =>
      rw [hafter]
      exact h.putNotification hrow hsame
  | woken hrows hframe =>
      obtain ⟨commandReceipts, wakeLeases, hafter⟩ := hframe
      rw [hafter] at hrows ⊢
      exact h.woken commandReceipts wakeLeases hrows
  | deleted key hop _ => exact absurd ⟨key, hop⟩ hdelete

/-- Nothing of a checkpoint is in the tables beside its record. -/
structure MemoryStore.Untouched (store : MemoryStore) (key : String) : Prop where
  archive : store.archiveOf key = {}
  deferred : ∀ (id : String) (receipt : DeferredReceipt),
    store.deferredReceipts[id]? = some receipt → receipt.handle.checkpointKey ≠ key
  records : ∀ (id : String) (record : HostInteractionRecord),
    store.ledger.hostInteractions[id]? = some record → record.checkpointKey ≠ key
  notifications : ∀ (id : String) (row : HostInteractionNotificationRecord),
    store.ledger.notifications[id]? = some row → row.checkpointKey ≠ key
  commands : ∀ (id : String) (command : ControllerCommand),
    store.ledger.commands[id]? = some command → command.handle.checkpointKey ≠ key
  receipts : ∀ (id : String) (receipt : ControllerCommandReceipt)
    (resolution : ControllerCommandResolution),
    store.ledger.commandReceipts[id]? = some (receipt, resolution) →
      receipt.handle.checkpointKey ≠ key

/-- A checkpoint that is created starts with nothing. -/
theorem NoOrphans.created {asked : String → Prop} {store after : MemoryStore}
    {checkpoint : Checkpoint} (h : NoOrphans asked store)
    (hcreated : store.createCheckpoint checkpoint = (.ok true, after)) :
    after.Untouched checkpoint.checkpointKey := by
  obtain ⟨habsent, hafter⟩ := createCheckpoint_created hcreated
  have hfree : ¬ store.Houses checkpoint.checkpointKey := by
    unfold MemoryStore.Houses
    rw [habsent]
    simp
  subst hafter
  constructor
  case archive =>
    show store.history[checkpoint.checkpointKey]?.getD {} = {}
    cases hrow : store.history[checkpoint.checkpointKey]? with
    | none => rfl
    | some archive => exact absurd (h.archives _ archive hrow) hfree
  case deferred => exact fun id row hrow hkey => hfree (hkey ▸ h.deferred id row hrow)
  case records => exact fun id row hrow hkey => hfree (hkey ▸ (h.records id row hrow).1)
  case notifications => exact fun id row hrow hkey => hfree (hkey ▸ h.notifications id row hrow)
  case commands => exact fun id row hrow hkey => hfree (hkey ▸ h.commands id row hrow)
  case receipts =>
    exact fun id row decision hrow hkey => hfree (hkey ▸ h.receipts id row decision hrow)

/-- The record ids of the questions put in a run. -/
def AskedIn (ops : List StoreOp) (id : String) : Prop := ∃ op ∈ ops, op.asks = some id

/-- Whatever is created, deleted and created again: no row outlives its checkpoint, questions
and notifications come in pairs, and no lease outlives its claim. The notification ids of the
questions are digests and taken to differ. -/
theorem no_orphan_rows (ops : List StoreOp)
    (hdistinct : ∀ id id', AskedIn ops id → AskedIn ops id' →
      notificationIdFor id = notificationIdFor id' → id = id') :
    NoOrphans (AskedIn ops) (run exec ops {}) ∧
      ∀ checkpoint after, (run exec ops {}).createCheckpoint checkpoint = (.ok true, after) →
        after.Untouched checkpoint.checkpointKey := by
  have hrun : Keyed (run exec ops {}) ∧ NoOrphans (AskedIn ops) (run exec ops {}) := by
    refine run_preserves exec (· ∈ ops)
      (fun store => Keyed store ∧ NoOrphans (AskedIn ops) store) ?_ ops (fun _ hop => hop) {} ?_
    · intro op store hop ⟨hkeyed, hrows⟩
      exact ⟨exec_keyed op store hkeyed,
        exec_noOrphans op hkeyed (fun id hid => ⟨op, hop, hid⟩) hdistinct hrows⟩
    · exact ⟨keyed_empty, NoOrphans.empty _⟩
  exact ⟨hrun.2, fun checkpoint after hcreated => hrun.2.created hcreated⟩

end

/-- A run that asks the host a question. -/
def Sample.askedRun : List StoreOp :=
  [.create created, .claim "checkpoint" 1 "worker-a" 2000 1000 .continue,
    .produceHostInteraction clock question asking]

/-- A question is put, deleted with its checkpoint, and the key is used again. -/
theorem no_orphan_rows_asked :
    letI := Sample.runtime Sample.questionDocuments
    NoOrphans (AskedIn (Sample.askedRun ++ [.delete "checkpoint"]))
        (run exec (Sample.askedRun ++ [.delete "checkpoint"]) {}) ∧
      ((run exec (Sample.askedRun ++ [.delete "checkpoint"]) {}).createCheckpoint
        Sample.created).2.Untouched "checkpoint" := by
  let _ : Runtime := Sample.runtime Sample.questionDocuments
  have hasks : ∀ id, AskedIn (Sample.askedRun ++ [.delete "checkpoint"]) id →
      id = recordIdFor "checkpoint" Sample.question := by
    rintro id ⟨op, hop, hid⟩
    simp only [Sample.askedRun, List.cons_append, List.nil_append, List.mem_cons,
      List.not_mem_nil, or_false] at hop
    rcases hop with rfl | rfl | rfl | rfl
    · cases hid
    · cases hid
    · exact (Option.some.inj hid).symm
    · cases hid
  obtain ⟨hrows, hfresh⟩ := no_orphan_rows (Sample.askedRun ++ [.delete "checkpoint"])
    fun id id' hid hid' _ => (hasks id hid).trans (hasks id' hid').symm
  have hvalid : validateCheckpointCreation Sample.created = .ok () := by decide +kernel
  rw [run_append, run_cons, run_nil] at hrows hfresh ⊢
  generalize run exec Sample.askedRun {} = store at hrows hfresh ⊢
  refine ⟨hrows, hfresh Sample.created _ ?_⟩
  exact createCheckpoint_absent hvalid ((Table.get_erase _ _ _).trans (if_pos rfl))

end VvAgent
