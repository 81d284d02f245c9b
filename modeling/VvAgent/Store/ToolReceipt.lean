import VvAgent.Checkpoint.Completion
import VvAgent.Store.Outbox

/-!
`record_tool_receipt`: the owner of a claim writes down how one of its tool calls ended. The
call is retained under an identity key, so the same receipt again is a replay, whatever has
become of the claim, and another result for the same operation is refused. The main theorem
says for which results, operations and records the first call goes through.
-/

namespace VvAgent
open Lib Lib.Outcome MemoryStore

section
variable [Runtime]

/-- The events that merging adds come from the snapshot. -/
theorem appendAllOnce_adds (candidates : List EventOutboxEntry)
    {outbox extended : List EventOutboxEntry}
    (h : appendAllOnce outbox candidates = .ok extended) :
    ∃ staged, extended = outbox ++ staged ∧ ∀ event ∈ staged, event ∈ candidates := by
  induction candidates generalizing outbox with
  | nil =>
      rw [appendAllOnce, Except.ok.injEq] at h
      exact ⟨[], by rw [List.append_nil, h], fun event hevent => hevent⟩
  | cons candidate rest ih =>
      simp only [appendAllOnce, bind_eq_ok] at h
      obtain ⟨next, hnext, hrest⟩ := h
      obtain ⟨staged, hstaged, hmem⟩ := ih hrest
      rcases appendEventOutboxOnce_eq_ok hnext with ⟨_, rfl⟩ | ⟨_, _, _, rfl⟩
      · refine ⟨candidate :: staged, by rw [hstaged, List.append_assoc]; rfl, ?_⟩
        intro event hevent
        rcases List.mem_cons.mp hevent with rfl | hlater
        · exact List.mem_cons_self
        · exact List.mem_cons_of_mem _ (hmem event hlater)
      · exact ⟨staged, hstaged, fun event hevent => List.mem_cons_of_mem _ (hmem event hevent)⟩

/-- A record with nothing to archive is written as it is. -/
theorem persistHistory_nothing {archive : ArchivedHistory} {checkpoint : Checkpoint}
    (hfresh : ∀ record ∈ checkpoint.modelCalls, record.callId ∉ archive.callIds)
    (hnothing : checkpoint.archivesNothing = true) :
    persistHistory archive checkpoint = .ok (checkpoint, archive) := by
  have hunarchived : (checkpoint.modelCalls.any fun record =>
      archive.callIds.contains record.callId) = false := by
    simpa using hfresh
  rw [persistHistory, hunarchived, refuse_false, ok_bind, normalizeCheckpointHistory_eq,
    if_pos hnothing]
  rfl

omit [Runtime] in
theorem Json.validateIJson_error {value : Json} {fieldName : String} {error : CheckpointError}
    (h : value.validateIJson fieldName = .error error) :
    error.code = "checkpoint_definition_not_i_json" := by
  have hall := Json.validateIJson.mutual_induct
    (fun name value => ∀ error, value.validateIJson name = .error error →
      error.code = "checkpoint_definition_not_i_json")
    (fun name members => ∀ error, Json.validateMembers name members = .error error →
      error.code = "checkpoint_definition_not_i_json")
    (fun name index items => ∀ error, Json.validateItems name index items = .error error →
      error.code = "checkpoint_definition_not_i_json")
  refine (hall ?_ ?_ ?_ ?_ ?_ ?_ ?_ ?_ ?_ ?_).1 fieldName value error h
  · intro name error h
    simp [Json.validateIJson] at h
  · intro name value error h
    simp [Json.validateIJson] at h
  · intro name value error h
    simp [Json.validateIJson] at h
  · intro name number error h
    cases number <;>
      simp only [Json.validateIJson, JsonNumber.validate, refuse_eq_error, reduceCtorEq] at h <;>
      rw [h.2]
  · intro name items ih error h
    exact ih error (by simpa only [Json.validateIJson] using h)
  · intro name members ih error h
    exact ih error (by simpa only [Json.validateIJson] using h)
  · intro name index error h
    simp [Json.validateItems] at h
  · intro name index item rest hitem hrest error h
    rw [Json.validateItems, bind_eq_error] at h
    rcases h with h | ⟨_, _, h⟩
    · exact hitem error h
    · exact hrest error h
  · intro name error h
    simp [Json.validateMembers] at h
  · intro name key item rest hitem hrest error h
    rw [Json.validateMembers, bind_eq_error] at h
    rcases h with h | ⟨_, _, h⟩
    · exact hitem error h
    · exact hrest error h

namespace ReceiptCall

/-- The call on a store. -/
def run (call : ReceiptCall) (store : MemoryStore) : StoreResult Bool :=
  store.recordToolReceipt call.clock call.snapshot call.target call.result call.claimToken
    call.expectedRevision

/-- A call about the same operation of the same checkpoint, whoever makes it and whatever it
says about the claim and the revision. -/
structure Again (again call : ReceiptCall) : Prop where
  checkpointKey : again.snapshot.checkpointKey = call.snapshot.checkpointKey
  operationId : again.target.operationId = call.target.operationId
  attempt : again.target.attempt = call.target.attempt
  toolCallId : again.target.toolCallId = call.target.toolCallId
  requestDigest : again.target.requestDigest = call.target.requestDigest

/-- No receipt of the operation is in the journal yet. -/
def Unreceipted (call : ReceiptCall) (current : Checkpoint) : Prop :=
  ∀ entry ∈ current.toolJournal, entry.identityKey ≠ some call.identityKey

/-- `stored` is `current` with the receipt of `entry`: this one entry is closed with the result,
one event says so, and what else is new was staged by the caller. -/
structure Closes (call : ReceiptCall) (current : Checkpoint) (entry : OperationJournalEntry)
    (stored : Checkpoint) : Prop where
  journal : ∃ before after closed,
    current.toolJournal = before ++ entry :: after ∧
      stored.toolJournal = before ++ closed :: after ∧
      closed.state = (if call.result.status = .success then .succeeded else .failed) ∧
      closed.result = some call.result.toDict ∧
      (∃ digest, toolResultDigest call.result = .ok digest ∧ closed.resultDigest = some digest) ∧
      closed = { entry with
        identityKey := closed.identityKey
        resultDigest := closed.resultDigest
        deferredHandle := closed.deferredHandle
        resumeObservation := closed.resumeObservation
        state := closed.state
        result := closed.result
        error := closed.error }
  outbox : ∃ event staged,
    stored.eventOutbox = current.eventOutbox ++ event :: staged ∧
      eventType event.event = some "tool_call_completed" ∧
      event.event.get? "tool_call_id" = some (.str call.target.toolCallId) ∧
      event.event.get? "operation_id" = some (.str call.target.operationId) ∧
      ∀ other ∈ staged, other ∈ call.snapshot.eventOutbox
  rest : stored = { current with
    toolJournal := stored.toolJournal
    eventOutbox := stored.eventOutbox
    revision := current.revision + 1 }

/-- The call classifies its operation for good: it writes the receipt and nothing else, the same
call again answers that it is written, and a call with the result `other` is refused. -/
def Classifies (call : ReceiptCall) (store : MemoryStore) (current : Checkpoint)
    (entry : OperationJournalEntry) (other : ToolExecutionResult) : Prop :=
  ∃ after stored, call.run store = (.ok true, after) ∧ call.Closes current entry stored ∧
    after.checkpoints = store.checkpoints.insert call.snapshot.checkpointKey stored ∧
    (∀ key, after.archiveOf key = store.archiveOf key) ∧
    after.deferredReceipts = store.deferredReceipts ∧ after.ledger = store.ledger ∧
    (∀ again : ReceiptCall, again.Again call → again.result = call.result →
      again.run after = (.ok true, after)) ∧
    ∀ again : ReceiptCall, again.Again call → again.result = other →
      ∃ message, again.run after = (.error ⟨"tool_receipt_conflict", message⟩, after)

end ReceiptCall

section
variable {call : ReceiptCall} {store after : MemoryStore} {current stored : Checkpoint}
  {entry : OperationJournalEntry}

/-- A call whose result has a digest, on a record that the store has. -/
structure ReceiptCall.Reads (call : ReceiptCall) (store : MemoryStore) (current : Checkpoint) :
    Prop where
  definitive : validateDefinitiveResult call.result = .ok ()
  json : call.result.toDict.isIJson = true
  attempt : call.target.attempt ≤ maxWireInteger
  stored : store.checkpoints[call.snapshot.checkpointKey]? = some current

/-- The key and the digest of such a call. -/
theorem ReceiptCall.Reads.known (h : call.Reads store current) :
    toolReceiptIdentityKey call.snapshot.checkpointKey call.target.operationId
        call.target.attempt call.target.toolCallId call.target.requestDigest =
        .ok call.identityKey ∧
      toolResultDigest call.result = .ok call.resultDigest :=
  ⟨(toolReceiptIdentityKey_eq_ok _ _ _ _ _ _).mpr ⟨h.attempt, rfl⟩,
    (toolResultDigest_eq_ok (validateDefinitiveResult_eq_ok h.definitive).1 _).mpr ⟨h.json, rfl⟩⟩

theorem ReceiptCall.Reads.replayed (h : call.Reads store current)
    (hreplay : receiptReplay current call.identityKey call.resultDigest = .ok true) :
    call.run store = (.ok true, store) := by
  rw [ReceiptCall.run, recordToolReceipt, h.definitive, ok_bind, h.known.1, ok_bind, h.known.2,
    ok_bind, h.stored]
  simp only [hreplay, ok_bind, if_true]
  rfl

theorem ReceiptCall.Reads.refused (h : call.Reads store current) {error : CheckpointError}
    (hreplay : receiptReplay current call.identityKey call.resultDigest = .error error) :
    call.run store = (.error error, store) := by
  rw [ReceiptCall.run, recordToolReceipt, h.definitive, ok_bind, h.known.1, ok_bind, h.known.2,
    ok_bind, h.stored]
  simp only [hreplay, error_bind]
  rfl

theorem ReceiptCall.Reads.recorded (h : call.Reads store current) {updated : Checkpoint}
    (hreplay : receiptReplay current call.identityKey call.resultDigest = .ok false)
    (hprepared : prepareToolReceipt call.clock current call.snapshot call.target call.result
      call.claimToken call.expectedRevision = .ok (some updated))
    (hpersist : store.persist call.snapshot.checkpointKey updated = .ok (stored, after)) :
    call.run store = (.ok true, after) := by
  rw [ReceiptCall.run, recordToolReceipt, h.definitive, ok_bind, h.known.1, ok_bind, h.known.2,
    ok_bind, h.stored]
  simp only [hreplay, hprepared, hpersist, ok_bind]
  rfl

/-- A call that is answered with `true` found its receipt or has written it. -/
theorem ReceiptCall.run_true (h : call.run store = (.ok true, after))
    (hstored : store.checkpoints[call.snapshot.checkpointKey]? = some current) :
    call.Reads store current ∧
      (receiptReplay current call.identityKey call.resultDigest = .ok true ∧ after = store ∨
        receiptReplay current call.identityKey call.resultDigest = .ok false ∧
          ∃ updated, prepareToolReceipt call.clock current call.snapshot call.target call.result
            call.claimToken call.expectedRevision = .ok (some updated)) := by
  have hwritten := congrArg Prod.snd h
  obtain ⟨written, hanswer, hsame⟩ := MemoryStore.atomically_eq_ok (congrArg Prod.fst h)
  obtain rfl : written = after := hsame.symm.trans hwritten
  simp only [hstored, bind_eq_ok] at hanswer
  obtain ⟨_, hdefinitive, key, hkey, digest, hdigest, replayed, hreplay, hanswer⟩ := hanswer
  obtain ⟨hattempt, rfl⟩ := (toolReceiptIdentityKey_eq_ok _ _ _ _ _ _).mp hkey
  obtain ⟨hjson, rfl⟩ :=
    (toolResultDigest_eq_ok (validateDefinitiveResult_eq_ok hdefinitive).1 _).mp hdigest
  refine ⟨⟨hdefinitive, hjson, hattempt, hstored⟩, ?_⟩
  split at hanswer
  · rename_i htrue
    subst htrue
    exact .inl ⟨hreplay, (Prod.mk.inj (Except.ok.inj hanswer)).2.symm⟩
  · rename_i hfalse
    obtain rfl : replayed = false := by simpa using hfalse
    refine .inr ⟨hreplay, ?_⟩
    simp only [bind_eq_ok] at hanswer
    obtain ⟨prepared, hprepared, hanswer⟩ := hanswer
    cases prepared with
    | none => simp at hanswer
    | some updated => exact ⟨updated, hprepared⟩

/-- A journal without a receipt of the operation makes the call a new one. -/
theorem receiptReplay_new (hnew : call.Unreceipted current) (digest : String) :
    receiptReplay current call.identityKey digest = .ok false := by
  have hnone : current.toolJournal.find? (fun entry =>
      entry.identityKey == some call.identityKey) = none := by
    rw [List.find?_eq_none]
    intro entry hentry
    simpa using hnew entry hentry
  rw [receiptReplay, hnone]

/-- A journal with a receipt of the operation never makes the call a new one. -/
theorem receiptReplay_old (hold : ¬call.Unreceipted current) (digest : String) :
    receiptReplay current call.identityKey digest ≠ .ok false := by
  intro h
  unfold receiptReplay at h
  split at h
  · rename_i hnone
    apply hold
    intro entry hentry
    simpa using List.find?_eq_none.mp hnone entry hentry
  · simp [bind_eq_ok] at h

/-- The journal with the closed entry holds its receipt. -/
theorem receiptReplay_closed (hnew : call.Unreceipted current)
    (hfound : current.toolJournal.find? call.target.closes = some entry)
    (eventOutbox : List EventOutboxEntry) (digest : String) :
    receiptReplay (closedRecord current call.target (call.closedEntry entry) eventOutbox)
        call.identityKey digest =
      (refuse (call.resultDigest != digest)
        ⟨"tool_receipt_conflict", "tool receipt conflicts with the retained identity"⟩ >>=
        fun _ => .ok true) := by
  obtain ⟨before, after, hsplit, _, _, hreplaced⟩ :=
    replaceFirst_split call.target.closes (call.closedEntry entry) entry current.toolJournal hfound
  have hbefore : before.find? (fun entry => entry.identityKey == some call.identityKey) = none := by
    rw [List.find?_eq_none]
    intro other hother
    have hmem : other ∈ current.toolJournal := by
      rw [hsplit]
      exact List.mem_append_left _ hother
    simpa using hnew other hmem
  have hkey : ((call.closedEntry entry).identityKey == some call.identityKey) = true :=
    beq_self_eq_true _
  have hreceipt : (closedRecord current call.target (call.closedEntry entry)
      eventOutbox).toolJournal.find? (fun entry =>
        entry.identityKey == some call.identityKey) = some (call.closedEntry entry) := by
    rw [closedRecord, hreplaced, List.find?_append, hbefore, Option.none_or, List.find?_cons, hkey]
  rw [receiptReplay, hreceipt]
  rfl

/-- The record with the closed entry is the receipt. -/
theorem closedRecord_closes (howned : call.Owned current entry)
    (hjson : call.result.toDict.isIJson = true) {eventOutbox : List EventOutboxEntry}
    (hstaged : appendAllOnce (call.announced current entry) call.snapshot.eventOutbox =
      .ok eventOutbox) :
    call.Closes current entry
      (closedRecord current call.target (call.closedEntry entry) eventOutbox) := by
  obtain ⟨staged, houtbox, hmem⟩ := appendAllOnce_adds _ hstaged
  obtain ⟨_, hoperation, _, hcall, _, _⟩ := howned.closes
  constructor
  case journal =>
    obtain ⟨before, after, hsplit, _, _, hreplaced⟩ := replaceFirst_split call.target.closes
      (call.closedEntry entry) entry current.toolJournal howned.entry
    have hdigest := (toolResultDigest_eq_ok
      (validateDefinitiveResult_eq_ok howned.definitive).1 call.resultDigest).mpr ⟨hjson, rfl⟩
    exact ⟨before, after, call.closedEntry entry, hsplit, hreplaced, rfl, rfl,
      ⟨call.resultDigest, hdigest, rfl⟩, rfl⟩
  case outbox =>
    refine ⟨completionEntry call.clock current entry call.result call.identityKey, staged, ?_, rfl,
      ?_, ?_, hmem⟩
    · rw [closedRecord, houtbox, ReceiptCall.announced, List.append_assoc]
      rfl
    · rw [← howned.toolCall]
      rfl
    · rw [← hoperation]
      rfl
  case rest => rfl

/-- A retry finds the receipt in the record with the closed entry. -/
theorem ReceiptCall.Again.reads {again : ReceiptCall} (hagain : again.Again call)
    (hreads : call.Reads store current)
    (hstored : after.checkpoints[call.snapshot.checkpointKey]? = some stored)
    (hdefinitive : validateDefinitiveResult again.result = .ok ())
    (hjson : again.result.toDict.isIJson = true) :
    again.Reads after stored ∧ again.identityKey = call.identityKey := by
  refine ⟨⟨hdefinitive, hjson, hagain.attempt ▸ hreads.attempt, hagain.checkpointKey ▸ hstored⟩, ?_⟩
  rw [ReceiptCall.identityKey, ReceiptCall.identityKey, hagain.checkpointKey, hagain.operationId,
    hagain.attempt, hagain.toolCallId, hagain.requestDigest]

end

/-- A record of a store that has been reached belongs to its archive. -/
theorem filed_of_stored (ops : List StoreOp) {key : String} {current : Checkpoint}
    (hstored : (run exec ops {}).checkpoints[key]? = some current) :
    Filed current ((run exec ops {}).archiveOf key) := by
  have hsound := run_line_sound ops key
  unfold MemoryStore.line at hsound
  rw [hstored] at hsound
  cases hsound with
  | present _ _ h => exact h

/-- A receipt is not the record it was added to. -/
theorem ReceiptCall.Closes.not_same {call : ReceiptCall} {store : MemoryStore}
    {current stored : Checkpoint} {entry : OperationJournalEntry} {key : String}
    (h : call.Closes current entry stored) (hstored : store.checkpoints[key]? = some current)
    (hsame : store.checkpoints = store.checkpoints.insert key stored) : False := by
  rw [hsame, Table.get_insert, if_pos rfl] at hstored
  obtain rfl := Option.some.inj hstored
  have hrevision := congrArg Checkpoint.revision h.rest
  simp at hrevision

/-- A conflict is reported only for a result that has a digest. -/
theorem isIJson_of_conflict (call : ReceiptCall) {store : MemoryStore} {message : String}
    (hdefinitive : validateDefinitiveResult call.result = .ok ())
    (hattempt : call.target.attempt ≤ maxWireInteger)
    (h : call.run store = (.error ⟨"tool_receipt_conflict", message⟩, store)) :
    call.result.toDict.isIJson = true := by
  by_contra hbad
  have hkey := (toolReceiptIdentityKey_eq_ok call.snapshot.checkpointKey call.target.operationId
    call.target.attempt call.target.toolCallId call.target.requestDigest call.identityKey).mpr
    ⟨hattempt, rfl⟩
  have hvalid := (validateDefinitiveResult_eq_ok hdefinitive).1
  cases hjson : call.result.toDict.validateIJson "tool execution result" with
  | ok _ => exact hbad ((Json.validateIJson_eq_ok _ _).mp hjson)
  | error error =>
      have hdigest : toolResultDigest call.result = .error error := by
        rw [toolResultDigest, hvalid, sha256Canonical, canonicalJsonBytes, hjson]
        rfl
      have hrun : call.run store = (.error error, store) := by
        rw [ReceiptCall.run, recordToolReceipt, hdefinitive, ok_bind, hkey, ok_bind, hdigest,
          error_bind]
        rfl
      have hcode := Json.validateIJson_error hjson
      rw [hrun] at h
      rw [Except.error.inj (congrArg Prod.fst h)] at hcode
      simp at hcode

/-- The record with the closed entry has nothing to archive. -/
theorem persist_receipt (ops : List StoreOp) {call : ReceiptCall} {current updated : Checkpoint}
    {entry : OperationJournalEntry} {outbox : List EventOutboxEntry}
    (hstored : (run exec ops {}).checkpoints[call.snapshot.checkpointKey]? = some current)
    (howned : call.Owned current entry)
    (hupdated : closedRecord current call.target (call.closedEntry entry) outbox = updated) :
    (run exec ops {}).persist call.snapshot.checkpointKey updated =
      .ok (updated, (run exec ops {}).write call.snapshot.checkpointKey updated
        ((run exec ops {}).archiveOf call.snapshot.checkpointKey)) := by
  have hfiled := filed_of_stored ops hstored
  have hkey : updated.checkpointKey = call.snapshot.checkpointKey := by
    rw [← hupdated]
    exact (run_keyed ops _ current hstored : current.checkpointKey = _)
  obtain ⟨lease, hvalid⟩ := hfiled.valid
  have hopen := (howned.passes hvalid).2.1
  have hnothing : updated.archivesNothing = true := by
    rw [← hupdated]
    exact hfiled.settled hopen
  have hfresh : ∀ record ∈ updated.modelCalls,
      record.callId ∉ ((run exec ops {}).archiveOf call.snapshot.checkpointKey).callIds := by
    rw [← hupdated]
    exact hfiled.fresh
  rw [MemoryStore.persist, hkey, persistHistory_nothing hfresh hnothing]
  rfl

/-- `record_tool_receipt` classifies the owner's open operation, and refuses the different result
`other`, exactly when the operation has no receipt yet, the record can take this one, and the
other result has a digest as well. -/
theorem tool_receipt_classifies (ops : List StoreOp) (call : ReceiptCall) (current : Checkpoint)
    (entry : OperationJournalEntry) (other : ToolExecutionResult)
    (hstored : (run exec ops {}).checkpoints[call.snapshot.checkpointKey]? = some current)
    (howned : call.Owned current entry)
    (hother : validateDefinitiveResult other = .ok ())
    (hdiffers : other.toDict.canonical ≠ call.result.toDict.canonical)
    (hcollision : Platform.sha256 other.toDict.canonical =
        Platform.sha256 call.result.toDict.canonical →
      other.toDict.canonical = call.result.toDict.canonical) :
    call.Classifies (run exec ops {}) current entry other ↔
      call.Unreceipted current ∧ call.Recordable current entry ∧ other.toDict.isIJson = true := by
  have hfiled := filed_of_stored ops hstored
  obtain ⟨lease, hvalid⟩ := hfiled.valid
  constructor
  · rintro ⟨after, stored, hrun, hcloses, hcheckpoints, _, _, _, _, hconflict⟩
    obtain ⟨hreads, ⟨_, hsame⟩ | ⟨hreplay, updated, hprepared⟩⟩ := call.run_true hrun hstored
    · exact (hcloses.not_same hstored (hsame ▸ hcheckpoints)).elim
    · have hnew : call.Unreceipted current := by
        by_contra hold
        exact receiptReplay_old hold _ hreplay
      refine ⟨hnew, ((prepareToolReceipt_iff updated hvalid howned).mp hprepared).1, ?_⟩
      obtain ⟨message, hrefused⟩ := hconflict { call with result := other }
        ⟨rfl, rfl, rfl, rfl, rfl⟩ rfl
      exact isIJson_of_conflict { call with result := other } hother hreads.attempt hrefused
  · rintro ⟨hnew, hrecordable, hotherJson⟩
    obtain ⟨outbox, houtbox, _⟩ := hrecordable.staged
    have hprepared := (prepareToolReceipt_iff _ hvalid howned).mpr
      ⟨hrecordable, outbox, houtbox, rfl⟩
    have hclosed := closedRecord_closes howned hrecordable.json houtbox
    generalize hupdated : closedRecord current call.target (call.closedEntry entry) outbox =
      updated at hprepared hclosed
    have hkey : updated.checkpointKey = call.snapshot.checkpointKey := by
      rw [← hupdated]
      exact (run_keyed ops _ current hstored : current.checkpointKey = _)
    have hpersist := persist_receipt ops hstored howned hupdated
    have hattempt := (howned.passes hvalid).2.2.2.2.2.2
    have hreads : call.Reads (run exec ops {}) current :=
      ⟨howned.definitive, hrecordable.json, ((toolReceiptIdentityKey_eq_ok _ _ _ _ _ _).mp
        hattempt).1, hstored⟩
    have hrun := hreads.recorded (receiptReplay_new hnew _) hprepared hpersist
    have hafter : ((run exec ops {}).write call.snapshot.checkpointKey updated
        ((run exec ops {}).archiveOf call.snapshot.checkpointKey)).checkpoints[
        call.snapshot.checkpointKey]? = some updated := by
      rw [MemoryStore.write, Table.get_insert, if_pos rfl]
    refine ⟨_, updated, hrun, hclosed, rfl, ?_, rfl, rfl, ?_, ?_⟩
    · intro key
      rw [archiveOf, MemoryStore.write, Table.get_insert, hkey]
      split
      · rename_i hsame
        rw [hsame]
        rfl
      · rfl
    · intro again hagain hresult
      obtain ⟨hagainReads, hagainKey⟩ := hagain.reads hreads hafter (hresult ▸ howned.definitive)
        (hresult ▸ hrecordable.json)
      apply hagainReads.replayed
      rw [hagainKey, ← hupdated, receiptReplay_closed hnew howned.entry, ReceiptCall.resultDigest,
        ReceiptCall.resultDigest, hresult, bne_self_eq_false, refuse_false, ok_bind]
    · intro again hagain hresult
      obtain ⟨hagainReads, hagainKey⟩ := hagain.reads hreads hafter (hresult ▸ hother)
        (hresult ▸ hotherJson)
      have hdigest : (call.resultDigest != again.resultDigest) = true := by
        simp only [ReceiptCall.resultDigest, hresult, bne_iff_ne]
        exact fun hsame => hdiffers (hcollision hsame.symm)
      refine ⟨"tool receipt conflicts with the retained identity", hagainReads.refused ?_⟩
      rw [hagainKey, ← hupdated, receiptReplay_closed hnew howned.entry, hdigest, refuse_true,
        error_bind]

end

namespace Sample

/-- A tool call of the first cycle that is under way. -/
def startedTool : OperationJournalEntry where
  kind := .tool
  operationId := "write-1"
  cycleIndex := 1
  attempt := 1
  state := .started
  requestDigest := otherDigest.1
  toolCallId := some "call-1"
  toolName := some "write_file"
  arguments := some []
  idempotencySupport := some .unsupported

/-- The run with the tool call. -/
def writing : Checkpoint :=
  { claimed with toolJournal := [startedTool], revision := 2 }

/-- The worker of the first claim starts the tool. -/
def writingRun : List StoreOp :=
  [.create created, .claim "checkpoint" 1 "worker-a" 2000 1000 .continue,
    .progress { claimed with toolJournal := [startedTool] } "worker-a" 1]

/-- The worker says how the tool ended. -/
def writeReceipt (result : ToolExecutionResult) : ReceiptCall where
  clock := clock
  snapshot := writing
  target :=
    { operationId := "write-1"
      attempt := 1
      toolCallId := "call-1"
      requestDigest := otherDigest.1
      claimedCycle := 1 }
  result := result
  claimToken := "worker-a"
  expectedRevision := 2

/-- The tool has done its work. -/
def writeDone : ToolExecutionResult :=
  { toolCallId := "call-1", content := "done", status := .success }

/-- The tool has failed, with something to say about it. -/
def writeFailed : ToolExecutionResult :=
  { toolCallId := "call-1", content := "failed", status := .error }

/-- The tool has failed and printed a space. -/
def writeBlank : ToolExecutionResult :=
  { toolCallId := "call-1", content := " ", status := .error }

/-- The digests of the receipt, of its event and of the results. -/
def writeDocuments : List Known :=
  [{ member := "event_id"
     text := "evt_receipt_8d6ff4a835b75ce0c114a6c596f467edbf4ba9678b44f4dc68116addc6f55d55"
     digest :=
       ⟨"bd22628bbfd54cb6b6f2db1955dbff451646418ab319ac4d8937feb1c7a856b4", by decide⟩ },
    { member := "content"
      text := "done"
      digest :=
        ⟨"56abe61c171eba84b5e1b5d4a41083324b87984f873bce20e7b358fd0b1a4e34", by decide⟩ },
    { member := "content"
      text := "failed"
      digest :=
        ⟨"1449a55efda75f407a2c4be178c7cc5971f871eaadb0feebefce3473de276c94", by decide⟩ },
    { member := "operation_id"
      text := "write-1"
      digest :=
        ⟨"8d6ff4a835b75ce0c114a6c596f467edbf4ba9678b44f4dc68116addc6f55d55", by decide⟩ }]

theorem writing_stored :
    letI := runtime writeDocuments
    (run exec writingRun {}).checkpoints["checkpoint"]? = some writing := by
  decide +kernel

theorem writing_matches : checkpointDefinitionMatches writing writing = true := by
  decide +kernel

/-- Every definitive result of the tool is classified by its owner. -/
theorem writeReceipt_owned (result : ToolExecutionResult) (hcall : result.toolCallId = "call-1")
    (hdefinitive : validateDefinitiveResult result = .ok ()) :
    letI := runtime writeDocuments
    (writeReceipt result).Owned writing startedTool := by
  let _ : Runtime := runtime writeDocuments
  have hfound : writing.toolJournal.find? (writeReceipt writeDone).target.closes =
      some startedTool := by decide
  exact ⟨rfl, rfl, rfl, rfl, rfl, rfl, writing_matches, hfound, hcall, hdefinitive⟩

/-- The end of the tool can be recorded. -/
theorem writeDone_recordable :
    letI := runtime writeDocuments
    (writeReceipt writeDone).Recordable writing startedTool := by
  let _ : Runtime := runtime writeDocuments
  refine ⟨rfl, by decide +kernel, ?_, ?_, ⟨by decide, by decide, by decide +kernel⟩, by decide, by decide, ?_⟩
  · intro h
    cases h
  · intro h
    cases h
  · refine ⟨(writeReceipt writeDone).announced writing startedTool, rfl, ?_, ?_⟩
    · decide +kernel
    · decide +kernel

end Sample

/-- The end of a tool call is classified, and its failure then refused. -/
theorem tool_receipt_classifies_done :
    letI := Sample.runtime Sample.writeDocuments
    (Sample.writeReceipt Sample.writeDone).Classifies (run exec Sample.writingRun {}) Sample.writing
      Sample.startedTool Sample.writeFailed := by
  let _ : Runtime := Sample.runtime Sample.writeDocuments
  have howned := Sample.writeReceipt_owned Sample.writeDone rfl (by decide)
  refine (tool_receipt_classifies Sample.writingRun (Sample.writeReceipt Sample.writeDone)
    Sample.writing Sample.startedTool Sample.writeFailed Sample.writing_stored howned (by decide)
    (by decide +kernel) ?_).mpr ⟨?_, Sample.writeDone_recordable, by decide +kernel⟩
  · intro hsame
    exact absurd hsame (by decide +kernel)
  · intro entry hentry
    rw [List.mem_singleton.mp hentry]
    intro hkey
    cases hkey

/-- The receipt of a tool that failed with a blank text is definitive, and is never written: the
projected error has a blank message. -/
theorem blank_failure_unrecorded :
    letI := Sample.runtime Sample.writeDocuments
    (run exec Sample.writingRun {}).checkpoints["checkpoint"]? = some Sample.writing ∧
      (Sample.writeReceipt Sample.writeBlank).Owned Sample.writing Sample.startedTool ∧
      ¬(Sample.writeReceipt Sample.writeBlank).Classifies (run exec Sample.writingRun {})
        Sample.writing Sample.startedTool Sample.writeFailed := by
  let _ : Runtime := Sample.runtime Sample.writeDocuments
  have howned := Sample.writeReceipt_owned Sample.writeBlank rfl (by decide)
  refine ⟨Sample.writing_stored, howned, ?_⟩
  rintro ⟨after, stored, hrun, hcloses, hcheckpoints, _⟩
  obtain ⟨_, ⟨_, hsame⟩ | ⟨_, updated, hprepared⟩⟩ := ReceiptCall.run_true hrun Sample.writing_stored
  · exact hcloses.not_same Sample.writing_stored (hsame ▸ hcheckpoints)
  · obtain ⟨lease, hvalid⟩ := (filed_of_stored Sample.writingRun Sample.writing_stored).valid
    have hrecordable := ((prepareToolReceipt_iff updated hvalid howned).mp hprepared).1
    exact absurd (hrecordable.projects rfl) (by decide)

end VvAgent
