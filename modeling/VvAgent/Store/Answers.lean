import VvAgent.Store.Questions

/-!
The answers to the host's questions. One operation can put a question, answer it or push its
answer; over a whole run every answer is pushed once, and between the answer and the push
the checkpoint stays without an owner.
-/

namespace VvAgent
open Lib Lib.Outcome

section
variable [Runtime]

/-- What one operation does to a question: it is put, answered by a response command, and
consumed by a recovery, which pushes the text of the answer. -/
inductive HostMove (op : StoreOp) (id : String) (before after : MemoryStore) : Prop
  | absent (hbefore : before.ledger.hostInteractions[id]? = none)
      (hafter : after.ledger.hostInteractions[id]? = none)
  | asked (record : HostInteractionRecord) (hop : op.asks = some id)
      (hbefore : before.ledger.hostInteractions[id]? = none)
      (hafter : after.ledger.hostInteractions[id]? = some record)
      (hstate : record.state = "active")
  | kept (record : HostInteractionRecord)
      (hbefore : before.ledger.hostInteractions[id]? = some record)
      (hafter : after.ledger.hostInteractions[id]? = some record)
  | answered (record updated : HostInteractionRecord) (clock : Clock)
      (command : ControllerCommand) (now : Nat) (answer : HostResponseCommand)
      (response : HostInteractionResponse)
      (hop : op = .admitCommand clock command now ∨ op = .resolveCommand clock command now)
      (hcommand : command.command = .hostInteractionResponse answer)
      (hbefore : before.ledger.hostInteractions[id]? = some record)
      (hafter : after.ledger.hostInteractions[id]? = some updated)
      (hactive : record.state = "active") (hpending : updated.state = "resolved_pending")
      (hquestion : updated.checkpointKey = record.checkpointKey ∧ updated.request = record.request)
      (hresponse : updated.response = some response ∧
        response.response.content = answer.response.content)
  | consumed (record updated : HostInteractionRecord) (response : HostInteractionResponse)
      (clock : Clock) (envelope : HostInteractionRecoveryEnvelope) (now : Nat)
      (current stored : Checkpoint)
      (hop : op = .consumeResponse clock envelope now) (hid : envelope.recordId = id)
      (hbefore : before.ledger.hostInteractions[id]? = some record)
      (hafter : after.ledger.hostInteractions[id]? = some updated)
      (hpending : record.state = "resolved_pending") (hconsumed : updated.state = "consumed")
      (hquestion : updated.checkpointKey = record.checkpointKey ∧ updated.request = record.request)
      (hresponse : record.response = some response ∧ updated.response = some response)
      (hcurrent : before.checkpoints[record.checkpointKey]? = some current)
      (hstored : after.checkpoints[record.checkpointKey]? = some stored)
      (hpushed : stored.messages =
        current.messages ++ [Message.user response.response.content])

/-- The archive takes no messages. -/
theorem persistHistory_messages {archive after : ArchivedHistory} {updated stored : Checkpoint}
    (h : persistHistory archive updated = .ok (stored, after)) :
    stored.messages = updated.messages := by
  rcases (persistHistory_eq_ok h).2 with ⟨_, rfl, _⟩ | ⟨_, _, _, _, _, _, _, rfl, _⟩
  · rfl
  · rfl

/-- A question that an operation does not touch. -/
theorem HostMove.same {op : StoreOp} {id : String} {before after : MemoryStore}
    (h : after.ledger.hostInteractions[id]? = before.ledger.hostInteractions[id]?) :
    HostMove op id before after := by
  cases hbefore : before.ledger.hostInteractions[id]? with
  | none => exact .absent hbefore (h.trans hbefore)
  | some record => exact .kept record hbefore (h.trans hbefore)

theorem HostInteractionResponse.new_content {answer : HostResponseCommand} {commandId : String}
    {response : HostInteractionResponse}
    (h : HostInteractionResponse.new answer commandId = .ok response) :
    response.response.content = answer.response.content := by
  simp only [HostInteractionResponse.new, bind_eq_ok, pure_ok, Except.ok.injEq] at h
  obtain ⟨_, _, _, _, _, _, _, _, rfl⟩ := h
  rfl

/-- Every operation but deletion moves every question forward. -/
theorem exec_hostMove (op : StoreOp) {store : MemoryStore} (h : Questions store)
    (hdelete : ∀ key, op ≠ .delete key) (id : String) :
    HostMove op id store (exec op store) := by
  cases exec_rows op store with
  | unchanged hafter => exact .same (by rw [hafter])
  | kept _ hledger _ => exact .same (by rw [hledger])
  | resolved _ _ _ _ _ _ hledger _ => exact .same (by rw [hledger])
  | asked clock request context current updated stored archive notification hop _ _ hnew _ _ _
      hafter =>
      rw [hafter]
      by_cases hid : recordIdFor context.checkpointKey request = id
      · subst hid
        refine .asked (.active context.checkpointKey (recordIdFor context.checkpointKey request)
          request) (by rw [hop]; rfl) hnew ?_ rfl
        simp [MemoryStore.putQuestion, MemoryStore.putHostRecord, MemoryStore.putNotification]
      · refine .same ?_
        simp only [MemoryStore.putQuestion, MemoryStore.putHostRecord,
          MemoryStore.putNotification, MemoryStore.write, Table.get_insert]
        rw [if_neg hid]
  | commanded clock command now current effect hop _ _ _ heffect _ hafter =>
      have hrows : (exec op store).ledger.hostInteractions =
          (store.putAnswer current.checkpointKey effect.hostRecord).ledger.hostInteractions := by
        rw [hafter]
        rfl
      rcases applyControllerCommand_hostRecord heffect with hnone | ⟨answer, request, record,
        response, hcommand, _, hlookup, hactive, hsame, hnew, _, hanswered⟩
      · exact .same (by rw [hrows, hnone]; rfl)
      · rw [hanswered] at hrows
        by_cases hid : recordIdFor current.checkpointKey request = id
        · subst hid
          refine .answered record
            (record.answered response command.commandId (current.revision + 1)) clock command now
            answer response hop hcommand (Except.ok.inj hlookup) ?_ hactive rfl ⟨rfl, rfl⟩
            ⟨rfl, HostInteractionResponse.new_content hnew⟩
          rw [hrows, ← hsame]
          simp [MemoryStore.putAnswer, MemoryStore.putHostRecord,
            HostInteractionRecord.answered]
        · refine .same ?_
          rw [← hsame] at hid
          rw [hrows]
          exact (Table.get_insert _ _ _ _).trans (if_neg hid)
  | consumed clock envelope now current updated stored archive record response hop hfound hrecord
      hidentity hpending hresponse _ hprepared _ hpersist hafter =>
      have hrecordId := (h.identity _ record hrecord).1
      have hkey : record.checkpointKey = envelope.checkpointKey := by
        simp only [recoveryIdentityMatches, Bool.and_eq_true, beq_iff_eq] at hidentity
        exact hidentity.1.1.1.1.1.1.2
      rw [hafter, hrecordId]
      by_cases hid : envelope.recordId = id
      · subst hid
        refine .consumed record _ response clock envelope now current stored hop rfl hrecord
          ((Table.get_insert _ _ _ _).trans (if_pos rfl)) hpending rfl ⟨rfl, rfl⟩
          ⟨hresponse, hresponse⟩ (by rw [hkey, hfound]) ?_ ?_
        · rw [hkey]
          exact (Table.get_insert _ _ _ _).trans (if_pos rfl)
        · rw [persistHistory_messages hpersist]
          obtain ⟨_, _, hupdated⟩ := prepareConsume_eq_ok hprepared
          rw [hupdated]
      · exact .same ((Table.get_insert _ _ _ _).trans (if_neg hid))
  | unclaimed recordId record updated hrecord hclaimed _ =>
      rcases h.states _ record hrecord with hstate | hstate | hstate <;>
        exact absurd (hstate.symm.trans hclaimed) (by decide)
  | notified _ _ _ _ _ hafter => exact .same (by rw [hafter]; rfl)
  | woken _ hframe =>
      obtain ⟨_, _, hafter⟩ := hframe
      exact .same (by rw [hafter])
  | deleted key hop _ => exact absurd hop (hdelete key)

/-- The record of the question is consumed. -/
def MemoryStore.hasConsumed (store : MemoryStore) (id : String) : Bool :=
  store.ledger.hostInteractions[id]?.any fun record => record.state == "consumed"

omit [Runtime] in
theorem MemoryStore.hasConsumed_iff (store : MemoryStore) (id : String) :
    store.hasConsumed id = true ↔ ∃ record : HostInteractionRecord,
      store.ledger.hostInteractions[id]? = some record ∧ record.state = "consumed" := by
  unfold MemoryStore.hasConsumed
  cases store.ledger.hostInteractions[id]? with
  | none => simp
  | some record => simp

/-- The question whose answer an operation pushes. -/
def pushedBy (op : StoreOp) (store : MemoryStore) : List String :=
  match op with
  | .consumeResponse _ envelope _ =>
      if (exec op store).hasConsumed envelope.recordId && !store.hasConsumed envelope.recordId then
        [envelope.recordId]
      else []
  | _ => []

/-- The questions whose answers a run pushes, one entry for each push. -/
def pushedIn : List StoreOp → MemoryStore → List String
  | [], _ => []
  | op :: rest, store => pushedBy op store ++ pushedIn rest (exec op store)

/-- A push consumes its question. -/
theorem pushedBy_new (op : StoreOp) (store : MemoryStore) :
    (pushedBy op store).Nodup ∧ ∀ id ∈ pushedBy op store,
      (exec op store).hasConsumed id = true ∧ store.hasConsumed id = false := by
  unfold pushedBy
  split
  · split
    · rename_i hconsumed
      refine ⟨by simp, fun id hmem => ?_⟩
      obtain rfl := List.mem_singleton.mp hmem
      simpa using hconsumed
    · exact ⟨List.nodup_nil, fun id hmem => absurd hmem List.not_mem_nil⟩
  · exact ⟨List.nodup_nil, fun id hmem => absurd hmem List.not_mem_nil⟩

/-- A consumed question stays consumed, and a question becomes consumed when its answer is
pushed. -/
theorem exec_hasConsumed (op : StoreOp) {store : MemoryStore} (h : Questions store)
    (hdelete : ∀ key, op ≠ .delete key) (id : String) :
    (exec op store).hasConsumed id = true ↔
      store.hasConsumed id = true ∨ id ∈ pushedBy op store := by
  constructor
  · intro hafter
    by_cases hconsumed : store.hasConsumed id = true
    · exact .inl hconsumed
    refine .inr ?_
    obtain ⟨record, hrecord, hstate⟩ := (MemoryStore.hasConsumed_iff _ _).mp hafter
    cases exec_hostMove op h hdelete id with
    | absent _ hnone =>
        rw [hnone] at hrecord
        cases hrecord
    | asked row _ _ hrow hactive =>
        obtain rfl := Option.some.inj (hrow.symm.trans hrecord)
        exact absurd (hactive.symm.trans hstate) (by decide)
    | kept row hbefore hrow =>
        obtain rfl := Option.some.inj (hrow.symm.trans hrecord)
        exact absurd ((MemoryStore.hasConsumed_iff _ _).mpr ⟨row, hbefore, hstate⟩) hconsumed
    | answered _ row _ _ _ _ _ _ _ _ hrow _ hpending =>
        obtain rfl := Option.some.inj (hrow.symm.trans hrecord)
        exact absurd (hpending.symm.trans hstate) (by decide)
    | consumed _ _ _ clock envelope now _ _ hop hid =>
        subst hop
        subst hid
        simp [pushedBy, hafter, hconsumed]
  · rintro (hconsumed | hmem)
    · obtain ⟨record, hrecord, hstate⟩ := (MemoryStore.hasConsumed_iff _ _).mp hconsumed
      rw [MemoryStore.hasConsumed_iff]
      cases exec_hostMove op h hdelete id with
      | absent hnone => simp [hnone] at hrecord
      | asked _ _ hnone => simp [hnone] at hrecord
      | kept row hbefore hrow =>
          obtain rfl := Option.some.inj (hbefore.symm.trans hrecord)
          exact ⟨row, hrow, hstate⟩
      | answered row _ _ _ _ _ _ _ _ hbefore _ hactive =>
          obtain rfl := Option.some.inj (hbefore.symm.trans hrecord)
          exact absurd (hactive.symm.trans hstate) (by decide)
      | consumed row updated _ _ _ _ _ _ _ _ hbefore hrow _ hconsumed =>
          exact ⟨updated, hrow, hconsumed⟩
    · exact (pushedBy_new op store).2 id hmem |>.1

/-- Over a run without deletions, the pushed questions are the ones it consumes, each once. -/
theorem pushedIn_spec (ops : List StoreOp) {store : MemoryStore} (hkeyed : Keyed store)
    (h : Questions store) (hdelete : ∀ op ∈ ops, ∀ key, op ≠ .delete key) :
    (pushedIn ops store).Nodup ∧
      (∀ id, (run exec ops store).hasConsumed id = true ↔
        store.hasConsumed id = true ∨ id ∈ pushedIn ops store) ∧
      ∀ id ∈ pushedIn ops store, store.hasConsumed id = false := by
  induction ops generalizing store with
  | nil => simp [pushedIn]
  | cons op rest ih =>
      have hstep := exec_hasConsumed op h (hdelete op (by simp))
      obtain ⟨hnodup, hnew⟩ := pushedBy_new op store
      obtain ⟨hrestNodup, hrest, hrestNew⟩ := ih (exec_keyed op store hkeyed)
        (exec_questions op hkeyed h) fun later hlater => hdelete later (by simp [hlater])
      refine ⟨?_, fun id => ?_, fun id hmem => ?_⟩
      · refine List.nodup_append.mpr ⟨hnodup, hrestNodup, ?_⟩
        rintro id hmem other hother rfl
        have hconsumed := (hstep id).mpr (.inr hmem)
        simp [hrestNew id hother] at hconsumed
      · rw [run_cons, hrest, hstep, pushedIn, List.mem_append, or_assoc]
      · rcases List.mem_append.mp hmem with hfirst | hlater
        · exact (hnew id hfirst).2
        · by_contra hconsumed
          have hafter := (hstep id).mpr (.inl (by simpa using hconsumed))
          simp [hrestNew id hlater] at hafter

/-- Messages come from the callers' snapshots, and from recoveries. -/
theorem Made.messages {op : StoreOp} {key : String} {current updated : Checkpoint}
    (hmade : Made op key current updated) (hbrings : op.bringsMessages = false)
    (hrecovery : ∀ clock envelope now, op ≠ .consumeResponse clock envelope now) :
    updated.messages = current.messages := by
  cases hmade with
  | claim _ h =>
      obtain ⟨_, _, _, rfl⟩ := prepareClaim_eq_some h
      rfl
  | renew => rfl
  | progress => cases hbrings
  | suspend => cases hbrings
  | commit => cases hbrings
  | finalize => cases hbrings
  | finalizeClaimed => cases hbrings
  | toolReceipt h =>
      obtain ⟨_, _, _, _, _, _, _, _, _, _, _, _, _, _, rfl⟩ := prepareToolReceipt_eq_some h
      rfl
  | acknowledge h =>
      obtain ⟨_, _, _, _, _, rfl⟩ := prepareAck_eq_some h
      rfl
  | delivery h =>
      obtain ⟨_, _, _, _, _, _, rfl⟩ := prepareEventDelivery_eq_some h
      rfl
  | admitDeferred h hchanged =>
      obtain ⟨_, _, _, _, _, _, _, _, _, _, _, rfl⟩ := admitDeferredBatch_eq_ok h hchanged
      rfl
  | acceptDeferred h =>
      obtain ⟨_, _, _, _, _, _, _, _, _, _, rfl⟩ := acceptDeferredBatch_eq_ok h
      rfl
  | resolveDeferred _ _ h =>
      obtain ⟨_, _, _, _, _, _, _, _, _, _, rfl⟩ := resolveEntry_eq_ok h
      rfl
  | produce _ _ _ _ h =>
      obtain ⟨_, cycle, _, hcycle, rfl⟩ := prepareHostInteraction_eq_ok h
      rcases (prepareHostInteractionCycle_eq_ok hcycle).2 with
        ⟨rfl, _⟩ | ⟨_, _, _, _, hsnapshot, _⟩
      · rfl
      · simp [StoreOp.bringsMessages, hsnapshot] at hbrings
  | command _ h hupdated =>
      have hcase := (applyControllerCommand_eq_ok h).2.2.2.2
      rw [hupdated] at hcase
      cases hcase with
      | requested => rfl
      | moved base _ _ _ _ _ hbase _ =>
          rcases hbase with ⟨rfl, _⟩ | rfl
          · rfl
          · rfl
      | ended => rfl
  | consume => exact absurd rfl (hrecovery _ _ _)

/-- An operation that pushes no answer and brings no messages leaves the messages alone. -/
theorem exec_messages (op : StoreOp) {store : MemoryStore} (hkeyed : Keyed store)
    (hbrings : op.bringsMessages = false) (hpushed : pushedBy op store = []) {key : String}
    {current stored : Checkpoint} (hcurrent : store.checkpoints[key]? = some current)
    (hstored : (exec op store).checkpoints[key]? = some stored) :
    stored.messages = current.messages := by
  have hstep := (exec_step op store hkeyed).record key
  rw [hcurrent, hstored] at hstep
  cases hstep with
  | kept => rfl
  | written _ _ hwrote =>
      by_cases hrecovery : ∃ clock envelope now, op = .consumeResponse clock envelope now
      · obtain ⟨clock, envelope, now, rfl⟩ := hrecovery
        cases exec_rows (.consumeResponse clock envelope now) store with
        | unchanged hafter =>
            rw [hafter, hcurrent] at hstored
            rw [Option.some.inj hstored]
        | kept hplain => cases hplain
        | resolved _ _ hplain => cases hplain
        | asked _ _ _ _ _ _ _ _ hop => cases hop
        | commanded _ _ _ _ _ hop => rcases hop with h | h <;> cases h
        | consumed _ envelope' _ _ _ _ _ record _ hop _ hrecord hidentity hpending _ _ _ _ _
            hafter =>
            obtain ⟨_, rfl, _⟩ := StoreOp.consumeResponse.inj hop
            -- The record turns consumed, so its answer is pushed.
            have hbefore : store.hasConsumed envelope.recordId = false := by
              simp [MemoryStore.hasConsumed, hrecord, hpending]
            have hid : record.recordId = envelope.recordId := by
              simp only [recoveryIdentityMatches, Bool.and_eq_true, beq_iff_eq] at hidentity
              exact hidentity.1.1.1.1.1.1.1.2
            have hdone : (exec (.consumeResponse clock envelope now) store).hasConsumed
                envelope.recordId = true := by
              rw [hafter, hid]
              exact (MemoryStore.hasConsumed_iff _ _).mpr
                ⟨_, (Table.get_insert _ _ _ _).trans (if_pos rfl), rfl⟩
            simp [pushedBy, hdone, hbefore] at hpushed
        | unclaimed _ _ _ _ _ hafter =>
            rw [hafter] at hstored
            rw [Option.some.inj (hcurrent.symm.trans hstored)]
        | notified _ _ _ _ _ hafter =>
            rw [hafter] at hstored
            rw [Option.some.inj (hcurrent.symm.trans hstored)]
        | woken _ hframe =>
            obtain ⟨_, _, hafter⟩ := hframe
            rw [hafter] at hstored
            rw [Option.some.inj (hcurrent.symm.trans hstored)]
        | deleted _ hop => cases hop
      · obtain ⟨updated, _, _, _, _, hmade, _, rfl⟩ := hwrote.frame
        exact hmade.messages hbrings fun clock envelope now hop =>
          hrecovery ⟨clock, envelope, now, hop⟩

/-- While a response waits, nobody holds its checkpoint: it can neither be claimed nor can a
cycle of it be committed. -/
theorem Questions.between {store : MemoryStore} (h : Questions store) {id : String}
    {record : HostInteractionRecord} (hrecord : store.ledger.hostInteractions[id]? = some record)
    (hpending : record.state = "resolved_pending") :
    (∃ current : Checkpoint, store.checkpoints[record.checkpointKey]? = some current ∧
      current.claimToken = none) ∧
    (∀ cycle token lease now mode claimed,
      (store.claimCheckpoint record.checkpointKey cycle token lease now mode).1 ≠
        .ok (some claimed)) ∧
    ∀ (checkpoint : Checkpoint) (token : String) (revision : Nat),
      checkpoint.checkpointKey = record.checkpointKey →
        (store.commitCheckpoint checkpoint token revision).1 ≠ .ok true := by
  obtain ⟨current, hcurrent, hidle, _⟩ := h.waits id record hrecord (by rw [hpending]; decide)
  refine ⟨⟨current, hcurrent, hidle⟩, fun cycle token lease now mode =>
    (claimCheckpoint_refused hrecord hpending cycle token lease now mode).1, ?_⟩
  intro checkpoint token revision hkey hcommitted
  obtain ⟨found, _, hfound, hprepared⟩ := commitCheckpoint_eq_true hcommitted
  rw [hkey, hcurrent] at hfound
  obtain rfl := Option.some.inj hfound
  have htoken := (prepareCommit_eq_some hprepared).1.token
  rw [hidle] at htoken
  cases htoken

/-- In every reachable store, under every operation: a question moves from active to resolved
to consumed; its answer is pushed into the messages when it is consumed, once in the run,
and no operation of the store pushes anything else; and between the answer and its
consumption the checkpoint is neither claimed nor committed. -/
theorem host_response_exactly_once (ops : List StoreOp) :
    (∀ op, (∀ key, op ≠ .delete key) →
      (∀ id, HostMove op id (run exec ops {}) (exec op (run exec ops {}))) ∧
      ∀ (key : String) (current stored : Checkpoint), op.bringsMessages = false → pushedBy op (run exec ops {}) = [] →
        (run exec ops {}).checkpoints[key]? = some current →
        (exec op (run exec ops {})).checkpoints[key]? = some stored →
        stored.messages = current.messages) ∧
    ((∀ op ∈ ops, ∀ key, op ≠ .delete key) →
      (pushedIn ops {}).Nodup ∧
        ∀ id, id ∈ pushedIn ops {} ↔ (run exec ops {}).hasConsumed id = true) ∧
    ∀ (id : String) (record : HostInteractionRecord),
      (run exec ops {}).ledger.hostInteractions[id]? = some record →
      record.state = "resolved_pending" →
      (∃ current : Checkpoint, (run exec ops {}).checkpoints[record.checkpointKey]? = some current ∧
        current.claimToken = none) ∧
      (∀ cycle token lease now mode claimed,
        ((run exec ops {}).claimCheckpoint record.checkpointKey cycle token lease now mode).1 ≠
          .ok (some claimed)) ∧
      ∀ (checkpoint : Checkpoint) (token : String) (revision : Nat),
        checkpoint.checkpointKey = record.checkpointKey →
          ((run exec ops {}).commitCheckpoint checkpoint token revision).1 ≠ .ok true := by
  have hquestions := run_questions ops
  have hkeyed := run_keyed ops
  refine ⟨fun op hdelete => ⟨exec_hostMove op hquestions hdelete, ?_⟩, fun hdelete => ?_, ?_⟩
  · intro key current stored hbrings hpushed hcurrent hstored
    exact exec_messages op hkeyed hbrings hpushed hcurrent hstored
  · obtain ⟨hnodup, hconsumed, _⟩ := pushedIn_spec ops keyed_empty Questions.empty hdelete
    refine ⟨hnodup, fun id => ?_⟩
    rw [hconsumed id]
    simp [MemoryStore.hasConsumed]
  · intro id record hrecord hpending
    exact hquestions.between hrecord hpending

end

end VvAgent
