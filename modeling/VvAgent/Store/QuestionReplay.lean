import VvAgent.Store.Ledger
import VvAgent.Store.Questions

/-!
A question that is put again. Admission releases the claim, so a worker that has not heard the
answer of the store repeats its call, and the store recognizes the question by its record. The
rows of the question outlive everything but the deletion of the checkpoint; the tool result in
its cycle does not, since the archive takes the cycle out of the record.
-/

namespace VvAgent
open Lib Lib.Outcome

section
variable [Runtime]

/-- The record has the result of the tool call that asked, in a complete cycle. -/
def HostInteractionRequest.HeldIn (request : HostInteractionRequest) (result : ToolExecutionResult)
    (checkpoint : Checkpoint) : Prop :=
  ∃ cycle : CycleRecord,
    checkpoint.cycles.find? (fun cycle => cycle.index.toNat == request.logicalCycle) =
      some cycle ∧
    cycle.toolCalls.map (·.id) = cycle.toolResults.map (·.toolCallId) ∧
    cycle.toolResults.find? (fun result => result.toolCallId == request.toolCallId) = some result

theorem hostToolResult_eq_ok {checkpoint : Checkpoint} {request : HostInteractionRequest}
    {result : ToolExecutionResult} :
    hostToolResult checkpoint request = .ok result ↔
      request.HeldIn result checkpoint ∧
        (ToolCallOutcome.hostInteraction result request).validate = .ok () := by
  simp only [hostToolResult, bind_eq_ok, require_eq_ok, refuse_eq_ok, exists_const,
    bne_eq_false_iff_eq, pure_ok, Except.ok.injEq, HostInteractionRequest.HeldIn]
  constructor
  · rintro ⟨cycle, hcycle, hcomplete, found, hfound, _, hvalid, rfl⟩
    exact ⟨⟨cycle, hcycle, hcomplete, hfound⟩, hvalid⟩
  · rintro ⟨⟨cycle, hcycle, hcomplete, hfound⟩, hvalid⟩
    exact ⟨cycle, hcycle, hcomplete, result, hfound, (), hvalid, rfl⟩

/-- The record that is stored under the key of the context has the result that the snapshot of
the context has, if the context has one. -/
def HostInteractionAdmissionContext.HeldIn (context : HostInteractionAdmissionContext)
    (request : HostInteractionRequest) (store : MemoryStore) : Prop :=
  ∀ snapshot, context.cycleSnapshot = some snapshot →
    ∃ checkpoint result, store.checkpoints[context.checkpointKey]? = some checkpoint ∧
      request.HeldIn result snapshot ∧ request.HeldIn result checkpoint

/-- The receipt check of a replay, where the snapshot has passed it before. -/
theorem validateHostToolReceiptReplay_eq_ok {store : MemoryStore} {current : Checkpoint}
    {request : HostInteractionRequest} {context : HostInteractionAdmissionContext}
    (hfound : store.checkpoints[context.checkpointKey]? = some current)
    (hlater : context.expectedRevision < current.revision)
    (hsnapshot : ∀ snapshot, context.cycleSnapshot = some snapshot →
      ∃ result, hostToolResult snapshot request = .ok result) :
    validateHostToolReceiptReplay current request context = .ok () ↔
      context.HeldIn request store := by
  have hrevision : ¬ current.revision ≤ context.expectedRevision := by omega
  simp only [validateHostToolReceiptReplay, HostInteractionAdmissionContext.HeldIn]
  cases hcontext : context.cycleSnapshot with
  | none => simp [hrevision, refuse]
  | some snapshot =>
      obtain ⟨offered, hoffered⟩ := hsnapshot snapshot hcontext
      obtain ⟨hheld, hvalid⟩ := hostToolResult_eq_ok.mp hoffered
      simp only [refuse_eq_ok, bind_eq_ok, decide_eq_false_iff_not, hrevision,
        not_false_eq_true, true_and, hoffered, Except.ok.injEq, bne_eq_false_iff_eq,
        exists_eq_left', Option.some.injEq, forall_eq', hfound]
      constructor
      · rintro ⟨_, stored, hstored, rfl⟩
        exact ⟨current, stored, rfl, hheld, (hostToolResult_eq_ok.mp hstored).1⟩
      · rintro ⟨checkpoint, result, rfl, hheld', hstored⟩
        have hsame : result = offered := by
          obtain ⟨cycle, hcycle, _, hresult⟩ := hheld
          obtain ⟨other, hother, _, hresult'⟩ := hheld'
          obtain rfl := Option.some.inj (hcycle.symm.trans hother)
          exact Option.some.inj (hresult'.symm.trans hresult)
        subst hsame
        exact ⟨(), result, hostToolResult_eq_ok.mpr ⟨hstored, hvalid⟩, rfl⟩

/-! ### The rows of a question -/

/-- Records of one question. -/
def SameInteraction (record updated : HostInteractionRecord) : Prop :=
  updated.checkpointKey = record.checkpointKey ∧ updated.interactionId = record.interactionId ∧
    updated.request = record.request

/-- A record is put to the host, rewritten as a record of the same question, or deleted with its
checkpoint. -/
structure RecordRows (op : StoreOp) (before after : MemoryStore) : Prop where
  origin : ∀ (id : String) (record : HostInteractionRecord),
    after.ledger.hostInteractions[id]? = some record →
      (∃ old, before.ledger.hostInteractions[id]? = some old ∧ SameInteraction old record) ∨
        before.ledger.hostInteractions[id]? = none ∧
        ∃ clock request context, op = .produceHostInteraction clock request context ∧
          id = recordIdFor context.checkpointKey request ∧
          record = .active context.checkpointKey id request
  stays : ∀ (id : String) (old : HostInteractionRecord),
    before.ledger.hostInteractions[id]? = some old → op ≠ .delete old.checkpointKey →
      ∃ record, after.ledger.hostInteractions[id]? = some record ∧ SameInteraction old record

namespace RecordRows
variable {op : StoreOp} {before after : MemoryStore}


theorem same (h : after.ledger.hostInteractions = before.ledger.hostInteractions) :
    RecordRows op before after where
  origin _ record hrow := .inl ⟨record, h ▸ hrow, rfl, rfl, rfl⟩
  stays _ old hrow _ := ⟨old, h ▸ hrow, rfl, rfl, rfl⟩

theorem rewritten {written : String} {old : HostInteractionRecord}
    (record : HostInteractionRecord)
    (hrow : before.ledger.hostInteractions[written]? = some old) (hsame : SameInteraction old record)
    (h : after.ledger.hostInteractions = before.ledger.hostInteractions.insert written record) :
    RecordRows op before after := by
  constructor
  · intro other found hfound
    rw [h, Table.get_insert] at hfound
    split at hfound
    · rename_i hid
      subst hid
      obtain rfl := Option.some.inj hfound
      exact .inl ⟨old, hrow, hsame⟩
    · exact .inl ⟨found, hfound, rfl, rfl, rfl⟩
  · intro other found hfound _
    rw [h, Table.get_insert]
    split
    · rename_i hid
      subst hid
      obtain rfl := Option.some.inj (hrow.symm.trans hfound)
      exact ⟨record, rfl, hsame⟩
    · exact ⟨found, hfound, rfl, rfl, rfl⟩

end RecordRows

theorem RowStep.recordRows {op : StoreOp} {before after : MemoryStore}
    (h : RowStep op before after) (hquestions : Questions before) : RecordRows op before after := by
  cases h with
  | unchanged hafter => exact .same (by rw [hafter])
  | kept _ hledger _ => exact .same (by rw [hledger])
  | resolved _ _ _ _ _ _ hledger _ => exact .same (by rw [hledger])
  | asked clock request context current updated stored archive notification hop _ _ hnew _ _ _
      hafter =>
      have hrows : after.ledger.hostInteractions =
          before.ledger.hostInteractions.insert (recordIdFor context.checkpointKey request)
            (.active context.checkpointKey (recordIdFor context.checkpointKey request) request) := by
        rw [hafter]
        rfl
      constructor
      · intro id record hrecord
        rw [hrows, Table.get_insert] at hrecord
        split at hrecord
        · rename_i hid
          subst hid
          exact .inr ⟨hnew, clock, request, context, hop, rfl, (Option.some.inj hrecord).symm⟩
        · exact .inl ⟨record, hrecord, rfl, rfl, rfl⟩
      · intro id old hold _
        rw [hrows, Table.get_insert, if_neg]
        · exact ⟨old, hold, rfl, rfl, rfl⟩
        · rintro rfl
          cases hnew.symm.trans hold
  | commanded clock command now current effect _ _ _ _ heffect _ hafter =>
      rcases applyControllerCommand_hostRecord heffect with
        hnone | ⟨_, request, record, response, _, _, hlookup, _, hsame, _, _, hsome⟩
      · apply RecordRows.same
        rw [hafter, hnone]
        rfl
      · have hrow : before.ledger.hostInteractions[recordIdFor current.checkpointKey request]? =
            some record := Except.ok.inj hlookup
        refine .rewritten (record.answered response command.commandId (current.revision + 1)) hrow
          ⟨rfl, rfl, rfl⟩ ?_
        rw [hafter, hsome, ← hsame]
        rfl
  | consumed clock envelope now current updated stored archive record response _ _ hrecord _ _ _
      _ _ _ _ hafter =>
      refine .rewritten (record.consumed updated.revision) hrecord ⟨rfl, rfl, rfl⟩ ?_
      rw [hafter, ← (hquestions.identity _ record hrecord).1]
      rfl
  | unclaimed recordId record updated hrecord hclaimed _ =>
      rcases hquestions.states _ record hrecord with hstate | hstate | hstate <;>
        exact absurd (hstate.symm.trans hclaimed) (by decide)
  | notified _ _ _ _ _ hafter => exact .same (by rw [hafter]; rfl)
  | woken _ hframe =>
      obtain ⟨_, _, hafter⟩ := hframe
      exact .same (by rw [hafter])
  | deleted key hop hafter =>
      constructor
      · intro id record hrecord
        rw [hafter] at hrecord
        simp only [MemoryStore.deleteCheckpoint, Table.get_filter,
          Option.filter_eq_some_iff] at hrecord
        exact .inl ⟨record, hrecord.1, rfl, rfl, rfl⟩
      · intro id old hold hkept
        rw [hafter]
        simp only [MemoryStore.deleteCheckpoint, Table.get_filter, Option.filter_eq_some_iff]
        refine ⟨old, ⟨hold, ?_⟩, rfl, rfl, rfl⟩
        simp only [bne_iff_ne, ne_eq]
        rintro rfl
        exact hkept hop

/-- The notification under an id stays the one of its question, unless another question has the
same notification id or its checkpoint is deleted. -/
theorem RowStep.notification {op : StoreOp} {before after : MemoryStore}
    (h : RowStep op before after) {id : String} {row : HostInteractionNotificationRecord}
    (hrow : before.ledger.notifications[id]? = some row)
    (hfresh : ∀ asked, op.asks = some asked →
      before.ledger.hostInteractions[asked]? = none → notificationIdFor asked ≠ id)
    (hkept : op ≠ .delete row.checkpointKey) :
    ∃ updated, after.ledger.notifications[id]? = some updated ∧ SameQuestion row updated := by
  have hsame : after.ledger.notifications = before.ledger.notifications →
      ∃ updated, after.ledger.notifications[id]? = some updated ∧ SameQuestion row updated :=
    fun heq => ⟨row, heq ▸ hrow, rfl, rfl, rfl, rfl⟩
  cases h with
  | unchanged hafter => exact hsame (by rw [hafter])
  | kept _ hledger _ => exact hsame (by rw [hledger])
  | resolved _ _ _ _ _ _ hledger _ => exact hsame (by rw [hledger])
  | asked clock request context _ _ _ _ notification hop _ _ hnew _ _ _ hafter =>
      have hother := hfresh (recordIdFor context.checkpointKey request) (by rw [hop]; rfl) hnew
      refine ⟨row, ?_, rfl, rfl, rfl, rfl⟩
      rw [hafter]
      simp only [MemoryStore.putQuestion, MemoryStore.putNotification, MemoryStore.putHostRecord,
        MemoryStore.write, Table.get_insert]
      rw [if_neg hother, hrow]
  | commanded _ command _ current effect _ _ _ _ _ _ hafter =>
      apply hsame
      rw [hafter]
      cases heq : effect.hostRecord <;> rfl
  | consumed _ _ _ _ _ _ _ _ _ _ _ _ _ _ _ _ _ _ _ hafter =>
      apply hsame
      rw [hafter]
      rfl
  | unclaimed _ _ _ _ _ hafter =>
      apply hsame
      rw [hafter]
      rfl
  | notified written old updated hold hquestion hafter =>
      rw [hafter]
      simp only [MemoryStore.putNotification, Table.get_insert]
      split
      · rename_i hid
        subst hid
        obtain rfl := Option.some.inj (hold.symm.trans hrow)
        exact ⟨updated, rfl, hquestion⟩
      · exact ⟨row, hrow, rfl, rfl, rfl, rfl⟩
  | woken _ hframe =>
      obtain ⟨_, _, hafter⟩ := hframe
      exact hsame (by rw [hafter])
  | deleted key hop hafter =>
      rw [hafter]
      simp only [MemoryStore.deleteCheckpoint, Table.get_filter, Option.filter_eq_some_iff]
      refine ⟨row, ⟨hrow, ?_⟩, rfl, rfl, rfl, rfl⟩
      simp only [bne_iff_ne, ne_eq]
      rintro rfl
      exact hkept hop

/-! ### The first call -/

/-- A question that is found by its identity writes nothing. -/
theorem produceHostInteraction_found {store : MemoryStore} (clock : Clock)
    {request : HostInteractionRequest} {context : HostInteractionAdmissionContext}
    {found : String × HostInteractionRecord}
    (hfound : store.findInteraction context.checkpointKey request.interactionId = some found) :
    (store.produceHostInteraction clock request context).2 = store := by
  unfold MemoryStore.produceHostInteraction MemoryStore.atomically
  split
  · rename_i answer after hproduced
    simp only [hfound, bind_eq_ok, refuse_eq_ok, exists_const, pure_ok, Except.ok.injEq,
      Prod.mk.injEq] at hproduced
    obtain ⟨_, _, _, _, _, _, _, _, _, _, _, _, rfl⟩ := hproduced
    rfl
  · rfl

omit [Runtime] in
/-- The outcome of a question names its record and its notification. -/
theorem hostInteractionOutcome_names {request : HostInteractionRequest} {revision : Nat}
    {status recordId : String} {notification : HostInteractionNotificationRecord}
    {outcome : HostInteractionOutcome}
    (h : hostInteractionOutcome request revision status recordId notification = .ok outcome) :
    outcome.status = status ∧ outcome.recordId = recordId ∧
      outcome.notificationId = notification.notificationId := by
  simp only [hostInteractionOutcome, unit_guard_bind, pure_ok, Except.ok.injEq] at h
  obtain ⟨_, rfl⟩ := h
  exact ⟨rfl, rfl, rfl⟩

omit [Runtime] in
/-- An outcome that has been reported can be reported again, at any revision of the record. -/
theorem hostInteractionOutcome_again {request : HostInteractionRequest} {revision later : Nat}
    {status recordId : String} {notification row : HostInteractionNotificationRecord}
    {outcome : HostInteractionOutcome}
    (h : hostInteractionOutcome request revision status recordId notification = .ok outcome)
    (hid : row.notificationId = notification.notificationId)
    (hdigest : row.payloadDigest = notification.payloadDigest) (hlater : later ≤ maxWireInteger) :
    hostInteractionOutcome request later "replayed" recordId row =
      .ok { outcome with checkpointRevision := later, status := "replayed" } := by
  have hrange : ¬ maxWireInteger < later := by omega
  simp only [hostInteractionOutcome, HostInteractionOutcome.validate, bind_eq_ok, refuse_eq_ok,
    exists_const, pure_ok, Except.ok.injEq, Bool.or_eq_false_iff] at h
  obtain ⟨⟨hschema, ⟨hcycle, _⟩, ⟨⟨⟨_, hstate⟩, haction⟩, hplace⟩, hidentity, _, hfields, hsha⟩,
    rfl⟩ := h
  simp only [hostInteractionOutcome, HostInteractionOutcome.validate, bind_eq_ok, refuse_eq_ok,
    exists_const, pure_ok, Bool.or_eq_false_iff, hid, hdigest, and_true]
  refine ⟨hschema, ⟨hcycle, by simpa using hlater⟩, ⟨⟨⟨rfl, hstate⟩, haction⟩, hplace⟩, hidentity, (),
    hfields, hsha⟩

/-- What an admission has checked and written. -/
theorem produceHostInteraction_admitted {store : MemoryStore} {clock : Clock}
    {request : HostInteractionRequest} {context : HostInteractionAdmissionContext}
    {outcome : HostInteractionOutcome}
    (h : (store.produceHostInteraction clock request context).1 = .ok outcome)
    (hstatus : outcome.status = "admitted") :
    request.validate = .ok () ∧ context.validate = .ok () ∧
      store.findInteraction context.checkpointKey request.interactionId = none ∧
      ∃ current updated stored archive notification,
        current.revision = context.expectedRevision ∧
        prepareHostInteraction clock current request context
          (recordIdFor context.checkpointKey request) = .ok updated ∧
        hostInteractionOutcome request updated.revision "admitted"
          (recordIdFor context.checkpointKey request) notification = .ok outcome ∧
        notification.notificationId =
          notificationIdFor (recordIdFor context.checkpointKey request) ∧
        notification.checkpointKey = context.checkpointKey ∧
        persistHistory (store.archiveOf updated.checkpointKey) updated = .ok (stored, archive) ∧
        (store.produceHostInteraction clock request context).2 =
          (store.write context.checkpointKey stored archive).putQuestion context.checkpointKey
            request notification := by
  obtain ⟨after, hproduced, hafter⟩ := MemoryStore.atomically_eq_ok h
  rw [show (store.produceHostInteraction clock request context).2 = after from hafter]
  clear h hafter
  simp only [unit_guard_bind] at hproduced
  obtain ⟨hrequest, hcontext, hproduced⟩ := hproduced
  have hreplayed : ∀ revision recordId,
      store.replayedOutcome request revision recordId ≠ .ok outcome := by
    intro revision recordId houtcome
    simp only [MemoryStore.replayedOutcome, bind_eq_ok] at houtcome
    obtain ⟨_, _, houtcome⟩ := houtcome
    have hwas := (hostInteractionOutcome_names houtcome).1
    rw [hstatus] at hwas
    exact absurd hwas (by decide)
  split at hproduced
  · simp only [bind_eq_ok, refuse_eq_ok, exists_const, require_eq_ok, pure_ok, Except.ok.injEq,
      Prod.mk.injEq] at hproduced
    obtain ⟨_, checkpoint, _, _, _, found, hfound, rfl, _⟩ := hproduced
    exact absurd hfound (hreplayed _ _)
  rename_i hfree
  refine ⟨hrequest, hcontext, hfree, ?_⟩
  simp only [bind_eq_ok, require_eq_ok, MemoryStore.admitHostInteraction, refuse_eq_ok,
    exists_const, Bool.or_eq_false_iff, bne_eq_false_iff_eq] at hproduced
  obtain ⟨current, _, ⟨⟨⟨⟨⟨⟨_, hrevision⟩, _⟩, _⟩, _⟩, _⟩, _⟩, hproduced⟩ := hproduced
  split at hproduced
  · simp only [bind_eq_ok, refuse_eq_ok, exists_const, pure_ok, Except.ok.injEq,
      Prod.mk.injEq] at hproduced
    obtain ⟨_, found, hfound, rfl, _⟩ := hproduced
    exact absurd hfound (hreplayed _ _)
  · simp only [bind_eq_ok, pure_ok, Except.ok.injEq, Prod.mk.injEq, Prod.exists] at hproduced
    obtain ⟨notification, hnotification, _, _, updated, hprepared, found, hfound, stored, written,
      hpersist, rfl, rfl⟩ := hproduced
    obtain ⟨archive, hstored, rfl⟩ := MemoryStore.persist_eq_ok hpersist
    refine ⟨current, updated, stored, archive, notification, hrevision, hprepared, hfound, ?_,
      (notificationFor_names hnotification).2, hstored, rfl⟩
    simp only [notificationFor, bind_eq_ok, pure_ok, Except.ok.injEq] at hnotification
    obtain ⟨_, _, _, _, _, _, rfl⟩ := hnotification
    rfl

/-- The snapshot of an admission has the result of the asking tool. -/
theorem prepareHostInteraction_snapshot {clock : Clock} {current updated snapshot : Checkpoint}
    {request : HostInteractionRequest} {context : HostInteractionAdmissionContext}
    {recordId : String}
    (h : prepareHostInteraction clock current request context recordId = .ok updated)
    (hsnapshot : context.cycleSnapshot = some snapshot) :
    ∃ result, hostToolResult snapshot request = .ok result := by
  obtain ⟨_, cycle, _, hcycle, _⟩ := prepareHostInteraction_eq_ok h
  simp only [prepareHostInteractionCycle, hsnapshot, bind_eq_ok] at hcycle
  obtain ⟨_, _, _, _, result, hresult, _⟩ := hcycle
  exact ⟨result, hresult⟩

/-! ### The rows of the question from then on -/

/-- The store knows the question: its record is the only one of the checkpoint with its
interaction id, its notification is there, and the record of the checkpoint is past `revision`. -/
structure Knows (key : String) (request : HostInteractionRequest)
    (notification : HostInteractionNotificationRecord) (revision : Nat) (store : MemoryStore) :
    Prop where
  record : ∃ record, store.ledger.hostInteractions[recordIdFor key request]? = some record ∧
    SameInteraction (.active key (recordIdFor key request) request) record
  sole : ∀ (id : String) (record : HostInteractionRecord),
    store.ledger.hostInteractions[id]? = some record → record.checkpointKey = key →
    record.interactionId = request.interactionId → id = recordIdFor key request
  announced : ∃ row, store.ledger.notifications[notificationIdFor (recordIdFor key request)]? =
    some row ∧ SameQuestion notification row
  reached : ∃ current, store.checkpoints[key]? = some current ∧ revision + 1 ≤ current.revision

/-- The record that a question with a known identity finds. -/
theorem Knows.find {key : String} {request : HostInteractionRequest}
    {notification : HostInteractionNotificationRecord} {revision : Nat} {store : MemoryStore}
    (h : Knows key request notification revision store) :
    ∃ record, store.findInteraction key request.interactionId =
        some (recordIdFor key request, record) ∧
      SameInteraction (.active key (recordIdFor key request) request) record := by
  obtain ⟨record, hrecord, hsame⟩ := h.record
  cases hfound : store.findInteraction key request.interactionId with
  | none =>
      have hmissed := List.find?_eq_none.mp hfound _ ((Table.mem_toList _ _ _).mpr hrecord)
      simp [hsame.1, hsame.2.1, HostInteractionRecord.active] at hmissed
  | some row =>
      obtain ⟨id, found⟩ := row
      have hrow := (Table.mem_toList _ _ _).mp (List.mem_of_find?_eq_some hfound)
      have hmatches := List.find?_some hfound
      simp only [Bool.and_eq_true, beq_iff_eq] at hmatches
      obtain rfl := h.sole id found hrow hmatches.1 hmatches.2
      obtain rfl := Option.some.inj (hrow.symm.trans hrecord)
      exact ⟨found, rfl, hsame⟩

/-- An operation that does not delete the checkpoint leaves the question known. -/
theorem Knows.step {key : String} {request : HostInteractionRequest}
    {notification : HostInteractionNotificationRecord} {revision : Nat} {store : MemoryStore}
    (h : Knows key request notification revision store) (hkeyed : Keyed store)
    (hquestions : Questions store) (hkey : notification.checkpointKey = key) (op : StoreOp)
    (hkept : op ≠ .delete key)
    (hdistinct : ∀ asked, op.asks = some asked →
      notificationIdFor asked = notificationIdFor (recordIdFor key request) →
      asked = recordIdFor key request) :
    Knows key request notification revision (exec op store) := by
  have hrows := exec_rows op store
  have hrecords := hrows.recordRows hquestions
  obtain ⟨record, hrecord, hsame⟩ := h.record
  obtain ⟨row, hrow, hquestion⟩ := h.announced
  have hrowKey : row.checkpointKey = key := hquestion.2.1.trans hkey
  constructor
  case record =>
    have hrecordKey : record.checkpointKey = key := hsame.1
    obtain ⟨later, hlater, hstill⟩ := hrecords.stays _ record hrecord (hrecordKey ▸ hkept)
    exact ⟨later, hlater, hstill.1.trans hsame.1, hstill.2.1.trans hsame.2.1,
      hstill.2.2.trans hsame.2.2⟩
  case sole =>
    intro id later hlater hlaterKey hlaterId
    rcases hrecords.origin id later hlater with
      ⟨old, hold, hstill⟩ | ⟨hnew, clock, other, context, rfl, rfl, rfl⟩
    · exact h.sole id old hold (hstill.1.symm.trans hlaterKey) (hstill.2.1.symm.trans hlaterId)
    · -- The same interaction has been found, and nothing has been written.
      have hcontext : context.checkpointKey = key := hlaterKey
      have hother : other.interactionId = request.interactionId := hlaterId
      obtain ⟨found, hfound, _⟩ := h.find
      have hunchanged : exec (.produceHostInteraction clock other context) store = store := by
        apply produceHostInteraction_found clock
        rw [hcontext, hother, hfound]
      rw [hunchanged, hnew] at hlater
      cases hlater
  case announced =>
    obtain ⟨later, hlater, hstill⟩ := hrows.notification hrow (fun asked hasked hnew heq => by
      rw [hdistinct asked hasked heq, hrecord] at hnew
      cases hnew) (hrowKey ▸ hkept)
    exact ⟨later, hlater, hstill.1.trans hquestion.1, hstill.2.1.trans hquestion.2.1,
      hstill.2.2.1.trans hquestion.2.2.1, hstill.2.2.2.trans hquestion.2.2.2⟩
  case reached => exact exec_revision hkeyed hkept h.reached

/-- The store knows a question as soon as it has admitted it. -/
theorem Knows.admitted {store : MemoryStore} {clock : Clock}
    {request : HostInteractionRequest} {context : HostInteractionAdmissionContext}
    {current updated stored : Checkpoint} {archive : ArchivedHistory}
    (notification : HostInteractionNotificationRecord)
    (hfree : store.findInteraction context.checkpointKey request.interactionId = none)
    (hrevision : current.revision = context.expectedRevision)
    (hprepared : prepareHostInteraction clock current request context
      (recordIdFor context.checkpointKey request) = .ok updated)
    (hpersist : persistHistory (store.archiveOf updated.checkpointKey) updated =
      .ok (stored, archive)) :
    Knows context.checkpointKey request notification context.expectedRevision
      ((store.write context.checkpointKey stored archive).putQuestion context.checkpointKey
        request notification) := by
  constructor
  case record =>
    refine ⟨.active context.checkpointKey (recordIdFor context.checkpointKey request) request, ?_,
      rfl, rfl, rfl⟩
    simp [MemoryStore.putQuestion, MemoryStore.putNotification, MemoryStore.putHostRecord]
  case sole =>
    intro id record hrecord hkey hid
    simp only [MemoryStore.putQuestion, MemoryStore.putNotification, MemoryStore.putHostRecord,
      MemoryStore.write, Table.get_insert] at hrecord
    split at hrecord
    · rename_i hsame
      exact hsame.symm
    · have hmissed := List.find?_eq_none.mp hfree _ ((Table.mem_toList _ _ _).mpr hrecord)
      simp [hkey, hid] at hmissed
  case announced =>
    refine ⟨notification, ?_, rfl, rfl, rfl, rfl⟩
    simp [MemoryStore.putQuestion, MemoryStore.putNotification]
  case reached =>
    refine ⟨stored, by simp [MemoryStore.putQuestion, MemoryStore.putNotification,
      MemoryStore.putHostRecord, MemoryStore.write], ?_⟩
    obtain ⟨_, _, _, _, hupdated⟩ := prepareHostInteraction_eq_ok hprepared
    have hraised : updated.revision = current.revision + 1 := by rw [hupdated]
    rcases (persistHistory_eq_ok hpersist).2 with
      ⟨_, rfl, _⟩ | ⟨digest, terminal, _, _, _, _, _, rfl, _⟩
    · omega
    · have hkept : (updated.trimmed digest terminal).revision = updated.revision := rfl
      omega

/-! ### Every later call -/

/-- The answer to a question that is put again, with nothing written. -/
def RepliesAgain (store : MemoryStore) (request : HostInteractionRequest)
    (context : HostInteractionAdmissionContext) (outcome : HostInteractionOutcome) : Prop :=
  ∀ clock, ∃ again, store.produceHostInteraction clock request context = (.ok again, store) ∧
    again.status = "replayed" ∧ again.recordId = outcome.recordId ∧
    again.notificationId = outcome.notificationId

/-- The answer to another question under the same interaction id, with nothing written. -/
def RefusesOthers (store : MemoryStore) (request : HostInteractionRequest)
    (checkpointKey : String) : Prop :=
  ∀ (clock : Clock) (other : HostInteractionRequest) (context : HostInteractionAdmissionContext),
    other.interactionId = request.interactionId → other ≠ request →
    context.checkpointKey = checkpointKey →
    (store.produceHostInteraction clock other context).2 = store ∧
      (other.validate = .ok () → context.validate = .ok () → ∃ message,
        (store.produceHostInteraction clock other context).1 =
          .error ⟨"host_interaction_conflict", message⟩)

theorem Knows.refusesOthers {key : String} {request : HostInteractionRequest}
    {notification : HostInteractionNotificationRecord} {revision : Nat} {store : MemoryStore}
    (h : Knows key request notification revision store) : RefusesOthers store request key := by
  intro clock other context hid hother hkey
  obtain ⟨record, hfound, hsame⟩ := h.find
  rw [← hid, ← hkey] at hfound
  refine ⟨produceHostInteraction_found clock hfound, fun hvalid hcontext => ?_⟩
  have hdifferent : (record.request != other) = true := by
    rw [bne_iff_ne, hsame.2.2]
    exact Ne.symm hother
  refine ⟨"interaction identity is already bound to a different request", ?_⟩
  simp only [MemoryStore.produceHostInteraction, hvalid, hcontext, ok_bind, hfound, hdifferent,
    refuse, MemoryStore.atomically]
  rfl

/-- A known question is answered again exactly if its tool result is still in the record. -/
theorem Knows.repliesAgain {request : HostInteractionRequest}
    {context : HostInteractionAdmissionContext} {outcome : HostInteractionOutcome}
    {notification : HostInteractionNotificationRecord} {admitted : Nat} {store : MemoryStore}
    (h : Knows context.checkpointKey request notification context.expectedRevision store)
    (hvalid : request.validate = .ok ()) (hcontext : context.validate = .ok ())
    (houtcome : hostInteractionOutcome request admitted "admitted"
      (recordIdFor context.checkpointKey request) notification = .ok outcome)
    (hsnapshot : ∀ snapshot, context.cycleSnapshot = some snapshot →
      ∃ result, hostToolResult snapshot request = .ok result)
    (hrange : ∀ current, store.checkpoints[context.checkpointKey]? = some current →
      current.revision ≤ maxWireInteger) :
    RepliesAgain store request context outcome ↔ context.HeldIn request store := by
  obtain ⟨record, hfound, hrecordKey, _, hrecordRequest⟩ := h.find
  obtain ⟨row, hrow, hnotification, _, _, hdigest⟩ := h.announced
  obtain ⟨current, hcurrent, hlater⟩ := h.reached
  have hreplay := validateHostToolReceiptReplay_eq_ok hcurrent hlater hsnapshot
  have hagain := hostInteractionOutcome_again houtcome hnotification hdigest (hrange current hcurrent)
  have hkey : record.checkpointKey = context.checkpointKey := hrecordKey
  have hrequest : (record.request != request) = false := bne_eq_false_iff_eq.mpr hrecordRequest
  constructor
  · intro hreplies
    obtain ⟨again, hproduced, _⟩ := hreplies fun _ => .posInt 0
    obtain ⟨after, hwritten, _⟩ := MemoryStore.atomically_eq_ok (congrArg Prod.fst hproduced)
    simp only [hfound, bind_eq_ok, require_eq_ok, hkey, hcurrent] at hwritten
    obtain ⟨_, _, _, _, _, _, checkpoint, hcheckpoint, _, hreceipt, _⟩ := hwritten
    obtain rfl := Option.some.inj hcheckpoint
    exact hreplay.mp hreceipt
  · intro hheld clock
    refine ⟨{ outcome with checkpointRevision := current.revision, status := "replayed" }, ?_, rfl,
      rfl, rfl⟩
    simp only [MemoryStore.produceHostInteraction, hvalid, hcontext, ok_bind, hfound, hrequest,
      hkey, hcurrent, hreplay.mpr hheld, MemoryStore.replayedOutcome, hrow, require_some, hagain,
      refuse, MemoryStore.atomically]
    rfl

/-- A reached record is within the range of wire integers. -/
theorem run_revision_range (ops : List StoreOp) {key : String} {current : Checkpoint}
    (hcurrent : (run exec ops {}).checkpoints[key]? = some current) :
    current.revision ≤ maxWireInteger := by
  have hsound := run_line_sound ops key
  simp only [MemoryStore.line, hcurrent] at hsound
  cases hsound with
  | present _ _ hfiled =>
      obtain ⟨lease, hvalid⟩ := hfiled.valid
      rw [validateCheckpoint_eq_ok] at hvalid
      have hidentity := hvalid.2.2.1
      simp only [validateIdentity, unit_guard_bind, refuse_eq_ok, Bool.or_eq_false_iff,
        decide_eq_false_iff_not, not_lt] at hidentity
      exact hidentity.2.2.2.2.2.2

/-- A question that has been admitted, in whatever state its checkpoint is later, short of
deletion: the call is answered again exactly if its result has not left the record, and another
question with its interaction id is always refused. -/
theorem question_replayed (ops later : List StoreOp) (clock : Clock)
    (request : HostInteractionRequest) (context : HostInteractionAdmissionContext)
    (outcome : HostInteractionOutcome)
    (hadmitted : ((run exec ops {}).produceHostInteraction clock request context).1 = .ok outcome)
    (hstatus : outcome.status = "admitted")
    (hkept : ∀ op ∈ later, op ≠ .delete context.checkpointKey)
    (hdistinct : ∀ id, AskedIn later id →
      notificationIdFor id = notificationIdFor (recordIdFor context.checkpointKey request) →
      id = recordIdFor context.checkpointKey request) :
    let store := run exec (ops ++ .produceHostInteraction clock request context :: later) {}
    RefusesOthers store request context.checkpointKey ∧
      (RepliesAgain store request context outcome ↔ context.HeldIn request store) := by
  intro store
  obtain ⟨hvalid, hcontext, hfree, current, updated, stored, archive, notification, hrevision,
    hprepared, houtcome, _, hkey, hpersist, hafter⟩ := produceHostInteraction_admitted hadmitted hstatus
  have hasked := Knows.admitted notification hfree hrevision hprepared hpersist
  rw [← hafter] at hasked
  have hstore : store = run exec later
      ((run exec ops {}).produceHostInteraction clock request context).2 := run_append ..
  have hknows : Knows context.checkpointKey request notification context.expectedRevision store := by
    rw [hstore]
    refine (run_preserves exec (· ∈ later)
      (fun store => (Keyed store ∧ Questions store) ∧
        Knows context.checkpointKey request notification context.expectedRevision store) ?_ later
      (fun _ hop => hop) _ ⟨⟨?_, ?_⟩, hasked⟩).2
    · intro op before hop ⟨⟨hkeyed, hquestions⟩, h⟩
      refine ⟨⟨exec_keyed op before hkeyed, exec_questions op hkeyed hquestions⟩, ?_⟩
      exact h.step hkeyed hquestions hkey op (hkept op hop) fun id hid => hdistinct id ⟨op, hop, hid⟩
    · exact exec_keyed (.produceHostInteraction clock request context) _ (run_keyed ops)
    · exact exec_questions (.produceHostInteraction clock request context) (run_keyed ops)
        (run_questions ops)
  refine ⟨hknows.refusesOthers, hknows.repliesAgain hvalid hcontext houtcome ?_ ?_⟩
  · exact fun snapshot hsnapshot => prepareHostInteraction_snapshot hprepared hsnapshot
  · exact fun current hcurrent => run_revision_range _ hcurrent

end

namespace Sample

/-- The outcome of the question that is put without a snapshot. -/
def askedOutcome : HostInteractionOutcome where
  schemaVersion := hostInteractionOutcomeSchema
  interactionId := "question-1"
  logicalCycle := 1
  checkpointRevision := 2
  status := "admitted"
  outboxState := "pending"
  recordId := questionId
  notificationId := "723078e489e7fc911d853d75e5dcc31ccd4c550798ac7aa62ed91436d2e5b76d"
  notificationPayloadDigest := "9699be1b080ca56a5684ecf5b240f8f481624130195c706288277ca6e9e15654"
  notificationOutboxAction := "host_interaction_notification"
  notificationOutboxDestination := "host_interaction_observer"

/-- The tool that asks. -/
def askingTool : OperationJournalEntry where
  kind := .tool
  operationId := "ask-1"
  cycleIndex := 1
  attempt := 1
  state := .started
  requestDigest := otherDigest.1
  toolCallId := some "call-1"
  toolName := some "ask_user"
  arguments := some []
  idempotencySupport := some .unsupported

/-- The cycle of the question, with the result of the tool that asks. -/
def askingCycle : CycleRecord where
  index := 1
  assistantMessage := "asking"
  toolCalls := [{ id := "call-1", name := "ask_user", arguments := [], extraContent := none }]
  toolResults := [{ toolCallId := "call-1", content := "waiting", status := .success }]
  memoryCompacted := false

/-- The tool is started under the first claim. -/
def toolRun : List StoreOp :=
  [.create created, .claim "checkpoint" 1 "worker-a" 2000 1000 .continue,
    .progress { claimed with toolJournal := [askingTool] } "worker-a" 1]

/-- The question is put with the snapshot of its completed cycle. -/
def askingWithCycle : HostInteractionAdmissionContext :=
  { asking with
    expectedRevision := 2
    cycleSnapshot := some
      { claimed with revision := 2, toolJournal := [askingTool], cycles := [askingCycle] } }

/-- The answer to it. -/
def lateAnswer : ControllerCommand :=
  { answerCommand with
    expectedRevision := 3
    commandDigest := "b15fa1dba3a9fc5d5026b8f10b258be2993044e0e3c063d1f70befae0546dd34" }

/-- The digests of the receipt of the asking tool, of the late answer, and of the first batch of
the archive. -/
def replayDocuments : List Known :=
  [{ member := "schema_version"
     text := controllerCommandSchema
     digest :=
       ⟨"b15fa1dba3a9fc5d5026b8f10b258be2993044e0e3c063d1f70befae0546dd34", by decide⟩ },
    { member := "event_id"
      text := "host-interaction-response-consumed-" ++ questionId
      digest :=
        ⟨"85ca82f3d62acb7dd3fbf5aab0e6143bf2ed4e34200bb686314727d2d9dbdfb8", by decide⟩ },
    { member := "schema_version"
      text := historySchema
      digest :=
        ⟨"d81c6fe582d3cde259145a5b0769a9ab44ea39caaa7b2c644e38f23c51805ef6", by decide⟩ }] ++
  questionDocuments ++
  [{ member := "event_id"
     text := "evt_receipt_0cd4582a42a43b1f9b2397c5b0a84b4802b8445cb3409ccf8490b13d963def04"
     digest :=
       ⟨"422131fcb02d75da1839dde76c48115a5ff53dfdf9b006d99f29ad937dd1198d", by decide⟩ },
    { member := "content"
      text := "waiting"
      digest :=
        ⟨"ea0271e03178422eb70e152466551d319ff5d3aaeb0f16aeae6ea672bd94921b", by decide⟩ },
    { member := "operation_id"
      text := "ask-1"
      digest :=
        ⟨"0cd4582a42a43b1f9b2397c5b0a84b4802b8445cb3409ccf8490b13d963def04", by decide⟩ }]

/-- The host answers, and a worker takes the answer to the second cycle. -/
def answerAndRecovery : List StoreOp :=
  [.admitCommand clock lateAnswer 1500,
    .consumeResponse clock { recovery with expectedRevision := 4 } 1600]

/-- The end of the second cycle. -/
def afterAnswer [Runtime] : Checkpoint :=
  let answered := ((run exec (toolRun ++
    .produceHostInteraction clock question askingWithCycle :: answerAndRecovery) {}).loadCheckpoint
      "checkpoint").getD created
  { answered with cycleIndex := 2, cycles := [askingCycle, quiet 2] }

/-- The second cycle is committed. -/
def answerToNextCycle [Runtime] : List StoreOp :=
  answerAndRecovery ++ [.commit afterAnswer (recoveryToken questionId 1) 5]

end Sample

theorem question_replayed_answered :
    letI := Sample.runtime Sample.questionDocuments
    let store := run exec ([.create Sample.created,
      .claim "checkpoint" 1 "worker-a" 2000 1000 .continue] ++
      .produceHostInteraction Sample.clock Sample.question Sample.asking ::
        [.admitCommand Sample.clock Sample.answerCommand 1500]) {}
    RefusesOthers store Sample.question "checkpoint" ∧
      (RepliesAgain store Sample.question Sample.asking Sample.askedOutcome ↔
        Sample.asking.HeldIn Sample.question store) := by
  let _ : Runtime := Sample.runtime Sample.questionDocuments
  refine question_replayed [.create Sample.created,
      .claim "checkpoint" 1 "worker-a" 2000 1000 .continue]
    [.admitCommand Sample.clock Sample.answerCommand 1500] Sample.clock Sample.question
    Sample.asking Sample.askedOutcome (by decide +kernel) rfl ?_ ?_
  · intro op hop
    rw [List.mem_singleton.mp hop]
    exact StoreOp.noConfusion
  · rintro id ⟨op, hop, hid⟩
    rw [List.mem_singleton.mp hop] at hid
    cases hid

/-- The question has been answered and the next cycle committed. The repeated call is refused. -/
theorem question_forgotten :
    letI := Sample.runtime Sample.replayDocuments
    let store := run exec (Sample.toolRun ++
      .produceHostInteraction Sample.clock Sample.question Sample.askingWithCycle ::
        Sample.answerToNextCycle) {}
    ((run exec Sample.toolRun {}).produceHostInteraction Sample.clock Sample.question
        Sample.askingWithCycle).1 = .ok { Sample.askedOutcome with checkpointRevision := 3 } ∧
      (∀ op ∈ Sample.answerToNextCycle, op ≠ .delete "checkpoint") ∧
      (store.produceHostInteraction Sample.clock Sample.question Sample.askingWithCycle).1 =
        .error ⟨"host_interaction_conflict", "host interaction cycle is missing"⟩ ∧
      ¬ RepliesAgain store Sample.question Sample.askingWithCycle
        { Sample.askedOutcome with checkpointRevision := 3 } := by
  let _ : Runtime := Sample.runtime Sample.replayDocuments
  -- Both runs are computed at once: they share their front.
  have hruns :
      ((run exec Sample.toolRun {}).produceHostInteraction Sample.clock Sample.question
          Sample.askingWithCycle).1 = .ok { Sample.askedOutcome with checkpointRevision := 3 } ∧
        ((run exec (Sample.toolRun ++
          .produceHostInteraction Sample.clock Sample.question Sample.askingWithCycle ::
            Sample.answerToNextCycle) {}).produceHostInteraction Sample.clock Sample.question
              Sample.askingWithCycle).1 =
          .error ⟨"host_interaction_conflict", "host interaction cycle is missing"⟩ := by
    decide +kernel
  obtain ⟨hasked, hrefused⟩ := hruns
  refine ⟨hasked, ?_, hrefused, ?_⟩
  · intro op hop
    simp only [Sample.answerToNextCycle, Sample.answerAndRecovery, List.cons_append, List.nil_append,
      List.mem_cons, List.not_mem_nil, or_false] at hop
    rcases hop with rfl | rfl | rfl <;> exact StoreOp.noConfusion
  · intro hreplies
    obtain ⟨again, hproduced, _⟩ := hreplies Sample.clock
    rw [hproduced] at hrefused
    cases hrefused

end VvAgent
