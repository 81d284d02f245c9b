import VvAgent.Store.Cancellation
import VvAgent.Store.Orphans

/-!
A question to the host is answered once. Its record is active until a response arrives,
then the response waits, and the recovery that takes the claim of the checkpoint puts the
text of the response into the messages and consumes the record. While a response waits
nobody holds the checkpoint, so no cycle can be committed in between. The argument needs no
assumption about digests: a record is found under its own id, and a checkpoint that somebody
holds has no question open.
-/

namespace VvAgent
open Lib Lib.Outcome

/-- Operations that give the checkpoint an owner. -/
def StoreOp.claims : StoreOp → Bool
  | .claim .. | .consumeResponse .. => true
  | _ => false

/-- Operations that apply a controller command. -/
def StoreOp.isCommand : StoreOp → Bool
  | .admitCommand .. | .resolveCommand .. => true
  | _ => false

/-- The messages that an operation takes from its caller. -/
def StoreOp.bringsMessages : StoreOp → Bool
  | .progress .. | .suspend .. | .commit .. | .finalize .. | .finalizeClaimed .. => true
  | .produceHostInteraction _ _ context => context.cycleSnapshot.isSome
  | _ => false

/-- Only a waiting checkpoint has a question that can be answered. -/
theorem answerableInteraction_none {checkpoint : Checkpoint}
    (hwaiting : checkpoint.status ≠ .hostInteraction) (hsuspended : checkpoint.status ≠ .suspended) :
    answerableInteraction checkpoint = none := by
  unfold answerableInteraction
  split
  · rename_i hstatus _
    exact absurd hstatus hwaiting
  · rename_i hstatus _
    exact absurd hstatus hsuspended
  · rfl

/-- What can be answered depends on what the checkpoint waits for. -/
theorem answerableInteraction_congr {checkpoint other : Checkpoint}
    (hstatus : other.status = checkpoint.status)
    (hactive : other.activeHostInteraction = checkpoint.activeHostInteraction)
    (horigin : other.suspendedOrigin = checkpoint.suspendedOrigin) :
    answerableInteraction other = answerableInteraction checkpoint := by
  unfold answerableInteraction
  rw [hstatus, hactive, horigin]

/-- What an operation on a checkpoint without an owner leaves: no owner, and the same open
question, unless the run has ended. -/
def StaysIdle (current updated : Checkpoint) : Prop :=
  updated.claimToken = none ∧
    (updated.terminalResult.isSome = true ∨
      answerableInteraction updated = answerableInteraction current)

section
variable [Runtime]

theorem validateCheckpoint_waiting {checkpoint : Checkpoint}
    (h : validateCheckpoint checkpoint = .ok ()) : validateWaitingStatus checkpoint = .ok () := by
  have hinteraction := ((validateCheckpoint_eq_ok checkpoint).mp h).2.2.2.2.2.1
  simp only [validateInteraction, unit_guard_bind] at hinteraction
  exact hinteraction.2.2

omit [Runtime] in
/-- A checkpoint that waits for nothing has no question. -/
theorem validateWaitingStatus_open {checkpoint : Checkpoint}
    (h : validateWaitingStatus checkpoint = .ok ())
    (hwaiting : checkpoint.status ≠ .hostInteraction) :
    checkpoint.activeHostInteraction = none := by
  unfold validateWaitingStatus at h
  split at h
  · rename_i hstatus
    exact absurd hstatus hwaiting
  · simp only [refuse_eq_ok, Bool.or_eq_false_iff] at h
    exact Option.isSome_eq_false_iff.mp h.1.1 |> Option.isNone_iff_eq_none.mp
  · simp only [refuse_eq_ok, Bool.or_eq_false_iff] at h
    exact Option.isSome_eq_false_iff.mp h.1 |> Option.isNone_iff_eq_none.mp

/-- The resolution of a deferred call leaves the open question alone. -/
theorem resolveEntry_idle {clock : Clock} {current updated : Checkpoint}
    {handle : DeferredToolHandle} {entry : OperationJournalEntry} {result : ToolExecutionResult}
    {receipt : DeferredReceipt} (hidle : current.claimToken = none)
    (h : resolveEntry clock current handle entry result = .ok (updated, receipt)) :
    StaysIdle current updated := by
  obtain ⟨hvalid, _, _, _, toolJournal, _, _, _, _, _, hupdated⟩ := resolveEntry_eq_ok h
  have hstatus : updated.status = resolvedStatus current.status toolJournal := by rw [hupdated]
  refine ⟨by rw [hupdated]; exact hidle, .inr ?_⟩
  by_cases hsuspended : current.status = .suspended
  · refine answerableInteraction_congr ?_ (by rw [hupdated]) (by rw [hupdated])
    rw [hstatus, resolvedStatus, if_pos hsuspended, hsuspended]
  · have hmoved : updated.status = .running ∨ updated.status = .deferred := by
      rw [hstatus, resolvedStatus, if_neg hsuspended]
      split
      · exact .inl rfl
      · exact .inr rfl
    have hwaiting : updated.status ≠ .hostInteraction := by
      rcases hmoved with h | h <;> simp [h]
    have hactive : current.activeHostInteraction = none := by
      have hnone := validateWaitingStatus_open (validateCheckpoint_waiting hvalid) hwaiting
      rwa [hupdated] at hnone
    rw [answerableInteraction_none hwaiting (by rcases hmoved with h | h <;> simp [h])]
    unfold answerableInteraction
    rw [hactive]
    split
    · rename_i hsome
      cases hsome
    · rename_i hstatus' _
      exact absurd hstatus' hsuspended
    · rfl

/-- Without an owner, only the controller can change what a checkpoint waits for. -/
theorem Made.staysIdle {op : StoreOp} {key : String} {current updated : Checkpoint}
    (hmade : Made op key current updated) (hidle : current.claimToken = none)
    (hclaims : op.claims = false) (hcommand : op.isCommand = false) :
    StaysIdle current updated := by
  have howned {token : String} (htoken : current.claimToken = some token) : False := by
    rw [hidle] at htoken
    cases htoken
  cases hmade with
  | claim => cases hclaims
  | renew _ htoken _ => exact (howned htoken).elim
  | progress h => exact (howned (prepareProgress_eq_some h).1.token).elim
  | suspend h => exact (howned (prepareSuspend_eq_some h).1.token).elim
  | commit h => exact (howned (prepareCommit_eq_some h).1.token).elim
  | finalize h =>
      obtain ⟨_, _, _, _, _, _, _, hterminal⟩ := prepareFinalize_eq_some h
      obtain ⟨_, _, _, _, _, _, _, rfl⟩ := prepareTerminalSnapshot_eq_ok hterminal
      exact ⟨rfl, .inl rfl⟩
  | finalizeClaimed h => exact (howned (prepareFinalizeClaimed_eq_some h).1.token).elim
  | toolReceipt h => exact (howned (prepareToolReceipt_eq_some h).1).elim
  | acknowledge h =>
      obtain ⟨_, _, _, _, _, rfl⟩ := prepareAck_eq_some h
      exact ⟨hidle, .inr rfl⟩
  | delivery h =>
      obtain ⟨_, _, _, _, _, _, rfl⟩ := prepareEventDelivery_eq_some h
      exact ⟨hidle, .inr rfl⟩
  | admitDeferred h hchanged =>
      exact (howned (admitDeferredBatch_eq_ok h hchanged).2.1).elim
  | acceptDeferred h => exact (howned (acceptDeferredBatch_eq_ok h).2.1).elim
  | resolveDeferred _ _ h => exact resolveEntry_idle hidle h
  | produce _ _ htoken _ _ => exact (howned htoken).elim
  | command hop => rcases hop with rfl | rfl <;> cases hcommand
  | consume => cases hclaims

/-- What a command leaves of the open question of a checkpoint without an owner: the
question itself, or nothing once its response has arrived. -/
def CommandLeaves (lookup : HostRecordLookup) (current : Checkpoint) (effect : CommandEffect) :
    Prop :=
  effect.checkpoint.claimToken = none ∧
    (effect.checkpoint.terminalResult.isSome = true ∨
      answerableInteraction effect.checkpoint = answerableInteraction current ∨
      answerableInteraction effect.checkpoint = none ∧
        (effect.hostRecord.isSome = true ∨ ∃ request record,
          answerableInteraction current = some request ∧ lookup request = .ok (some record) ∧
            record.state = "resolved_pending"))

theorem applyHostResponse_idle {lookup : HostRecordLookup} {missing : String}
    {current : Checkpoint} {command : ControllerCommand} {answer : HostResponseCommand}
    {effect : CommandEffect} (hidle : current.claimToken = none)
    (h : applyHostResponse lookup missing current current command answer = .ok effect) :
    CommandLeaves lookup current effect := by
  simp only [applyHostResponse, bind_eq_ok, refuse_eq_ok, exists_const, require_eq_ok] at h
  obtain ⟨request, hrequest, _, _, _, record, _, _, response, _, _, _, h⟩ := h
  split at h
  · simp only [bind_eq_ok, pure_ok, Except.ok.injEq] at h
    obtain ⟨_, _, rfl⟩ := h
    exact ⟨hidle, .inr (.inr ⟨answerableInteraction_none (by simp) (by simp), .inl rfl⟩)⟩
  · simp only [bind_eq_ok, pure_ok, Except.ok.injEq] at h
    obtain ⟨_, _, rfl⟩ := h
    exact ⟨hidle, .inr (.inl (by rw [hrequest]; rfl))⟩

theorem applySuspend_idle {clock : Clock} {lookup : HostRecordLookup} {current : Checkpoint}
    {command : ControllerCommand} {effect : CommandEffect} (hidle : current.claimToken = none)
    (h : applySuspend clock current current command = .ok effect) :
    CommandLeaves lookup current effect := by
  simp only [applySuspend, bind_eq_ok, pure_ok, Except.ok.injEq] at h
  obtain ⟨origin, horigin, suspended, hsuspended, _, _, rfl⟩ := h
  obtain ⟨event, rfl⟩ := appendControlEvent_eq_ok hsuspended
  refine ⟨hidle, .inr (.inl ?_)⟩
  unfold suspensionOrigin at horigin
  split at horigin
  · rename_i hstatus
    obtain rfl := Except.ok.inj horigin
    exact (answerableInteraction_none (by simp [hstatus]) (by simp [hstatus])).symm
  · rename_i hstatus
    obtain rfl := Except.ok.inj horigin
    exact (answerableInteraction_none (by simp [hstatus]) (by simp [hstatus])).symm
  · rename_i hstatus
    simp only [bind_eq_ok, require_eq_ok, pure_ok, Except.ok.injEq] at horigin
    obtain ⟨request, hactive, rfl⟩ := horigin
    unfold answerableInteraction
    rw [hstatus, hactive]
    rfl
  · cases horigin

theorem applyResume_idle {clock : Clock} {lookup : HostRecordLookup} {current : Checkpoint}
    {command : ControllerCommand} {effect : CommandEffect} (hidle : current.claimToken = none)
    (h : applyResume clock lookup current current command = .ok effect) :
    CommandLeaves lookup current effect := by
  simp only [applyResume, bind_eq_ok, refuse_eq_ok, exists_const, require_eq_ok, pure_ok,
    Except.ok.injEq, Prod.exists, bne_eq_false_iff_eq] at h
  obtain ⟨hstatus, origin, horigin, resumed, wake, hresumed, appended, hevent, _, _, rfl⟩ := h
  obtain ⟨event, rfl⟩ := appendControlEvent_eq_ok hevent
  have hopen (hhost : origin.status ≠ "host_interaction") :
      answerableInteraction current = none := by
    unfold answerableInteraction
    rw [hstatus, horigin]
    simp [hhost]
  unfold resumeFrom at hresumed
  split at hresumed
  · rename_i hdeferred
    have hnone := hopen (by rw [hdeferred]; decide)
    split at hresumed <;> obtain ⟨rfl, _⟩ := Prod.mk.inj (Except.ok.inj hresumed) <;>
      exact ⟨hidle, .inr (.inl (by
        rw [hnone]
        exact answerableInteraction_none (by simp) (by simp)))⟩
  · rename_i hrunning
    have hnone := hopen (by rw [hrunning]; decide)
    obtain ⟨rfl, _⟩ := Prod.mk.inj (Except.ok.inj hresumed)
    exact ⟨hidle, .inr (.inl (by
      rw [hnone]
      exact answerableInteraction_none (by simp) (by simp)))⟩
  · rename_i hhost
    simp only [bind_eq_ok, require_eq_ok] at hresumed
    obtain ⟨request, hrequest, record, hrecord, hresumed⟩ := hresumed
    have hanswerable : answerableInteraction current = some request := by
      unfold answerableInteraction
      rw [hstatus, horigin]
      simp [hhost, hrequest]
    split at hresumed
    · rename_i hpending
      obtain ⟨rfl, _⟩ := Prod.mk.inj (Except.ok.inj hresumed)
      obtain ⟨found, rfl, hstate⟩ : ∃ found, record = some found ∧
          found.state = "resolved_pending" := by
        cases record with
        | none => cases hpending
        | some found => exact ⟨found, rfl, by simpa using hpending⟩
      exact ⟨hidle, .inr (.inr ⟨answerableInteraction_none (by simp) (by simp), .inr
        ⟨request, found, hanswerable, hrecord, hstate⟩⟩)⟩
    · obtain ⟨rfl, _⟩ := Prod.mk.inj (Except.ok.inj hresumed)
      exact ⟨hidle, .inr (.inl hanswerable.symm)⟩
  · cases hresumed

theorem applyControllerCommand_idle {clock : Clock} {lookup : HostRecordLookup}
    {current : Checkpoint} {command : ControllerCommand} {now : Nat} {effect : CommandEffect}
    (hidle : current.claimToken = none)
    (h : applyControllerCommand clock lookup current command now = .ok effect) :
    CommandLeaves lookup current effect := by
  have hexpired (nowMs : Nat) : current.claimExpired nowMs = false := by
    simp [Checkpoint.claimExpired, hidle]
  simp only [applyControllerCommand, unit_guard_bind] at h
  obtain ⟨_, _, _, _, _, h⟩ := h
  simp only [transformByCommand, bind_eq_ok] at h
  obtain ⟨updated, hreleased, h⟩ := h
  obtain rfl : updated = current := by
    rcases releaseExpiredClaim_eq_ok hreleased with ⟨h, _⟩ | ⟨h, _⟩ | ⟨_, hsame⟩
    · simp [hexpired] at h
    · simp [hexpired] at h
    · exact hsame
  split at h
  · exact applyHostResponse_idle hidle h
  · exact applySuspend_idle hidle h
  · exact applyResume_idle hidle h
  · unfold applyCancel at h
    rw [if_neg (by simp [Checkpoint.claimLive, hidle])] at h
    obtain ⟨_, _, _, _, _, heffect⟩ := terminateWith_eq_ok h
    exact ⟨by rw [heffect]; rfl, .inl (by rw [heffect]; rfl)⟩
  · simp only [applyAbort, unit_guard_bind] at h
    obtain ⟨_, _, _, _, _, heffect⟩ := terminateWith_eq_ok h.2
    exact ⟨by rw [heffect]; rfl, .inl (by rw [heffect]; rfl)⟩

/-- The checkpoint of a question that has not been consumed: nobody holds it, and it waits for
the answer, unless the run has ended or the answer has arrived. -/
def Waits (record : HostInteractionRecord) (checkpoint : Checkpoint) : Prop :=
  checkpoint.claimToken = none ∧
    (checkpoint.terminalResult.isSome = true ∨
      answerableInteraction checkpoint = some record.request ∨
      record.state = "resolved_pending" ∧ answerableInteraction checkpoint = none)

/-- Questions under their own ids, with their checkpoints, and at most one of a checkpoint
that has not been consumed. -/
structure Questions (store : MemoryStore) : Prop where
  identity : ∀ (id : String) (record : HostInteractionRecord),
    store.ledger.hostInteractions[id]? = some record →
      record.recordId = id ∧ id = recordIdFor record.checkpointKey record.request
  states : ∀ (id : String) (record : HostInteractionRecord),
    store.ledger.hostInteractions[id]? = some record →
      record.state = "active" ∨ record.state = "resolved_pending" ∨ record.state = "consumed"
  waits : ∀ (id : String) (record : HostInteractionRecord),
    store.ledger.hostInteractions[id]? = some record → record.state ≠ "consumed" →
      ∃ checkpoint, store.checkpoints[record.checkpointKey]? = some checkpoint ∧
        Waits record checkpoint
  single : ∀ (id other : String) (record another : HostInteractionRecord),
    store.ledger.hostInteractions[id]? = some record →
    store.ledger.hostInteractions[other]? = some another →
    record.state ≠ "consumed" → another.state ≠ "consumed" →
    record.checkpointKey = another.checkpointKey → id = other

theorem Questions.empty : Questions {} := by
  constructor
  · intro id record hrow
    simp at hrow
  · intro id record hrow
    simp at hrow
  · intro id record hrow
    simp at hrow
  · intro id other record another hrow
    simp at hrow

/-- What the archive takes from a record does not matter to a question. -/
theorem Waits.archived {record : HostInteractionRecord} {op : StoreOp} {key : String}
    {current stored : Checkpoint} (h : Wrote op key current stored)
    (hmade : ∀ updated, Made op key current updated → Waits record updated) :
    Waits record stored := by
  obtain ⟨updated, cycles, modelCalls, history, terminalResult, hupdated, hterminal, rfl⟩ := h.frame
  obtain ⟨htoken, hopen⟩ := hmade updated hupdated
  exact ⟨htoken, hopen.imp (fun h => hterminal.trans h) id⟩

omit [Runtime] in
theorem Waits.idle {record : HostInteractionRecord} {current updated : Checkpoint}
    (h : Waits record current) (hidle : StaysIdle current updated)
    (hterminal : current.terminalResult.isSome = true → updated.terminalResult.isSome = true) :
    Waits record updated := by
  refine ⟨hidle.1, ?_⟩
  rcases hidle.2 with hended | hsame
  · exact .inl hended
  · rcases h.2 with hended | hopen
    · exact .inl (hterminal hended)
    · rw [hsame]
      exact .inr hopen

/-- A waiting response keeps everybody from claiming its checkpoint. -/
theorem claimCheckpoint_refused {store : MemoryStore} {id : String}
    {record : HostInteractionRecord} (hrecord : store.ledger.hostInteractions[id]? = some record)
    (hpending : record.state = "resolved_pending") (cycle : Nat) (token : String)
    (lease now : Nat) (mode : ClaimMode) :
    (∀ claimed, (store.claimCheckpoint record.checkpointKey cycle token lease now mode).1 ≠
      .ok (some claimed)) ∧
    (store.claimCheckpoint record.checkpointKey cycle token lease now mode).2 = store := by
  have hblocked : store.hasUnconsumedResponse record.checkpointKey = true := by
    refine List.any_eq_true.mpr ⟨(id, record), (Table.mem_toList _ _ _).mpr hrecord, ?_⟩
    simp [hpending]
  unfold MemoryStore.claimCheckpoint
  cases MemoryStore.guardLease token lease now MemoryStore.claimError with
  | error error => simp [MemoryStore.atomically]
  | ok _ =>
      cases store.checkpoints[record.checkpointKey]? with
      | none => simp [MemoryStore.atomically]
      | some current => simp [MemoryStore.atomically, hblocked, refuse]

/-- The claims that are not recoveries. -/
theorem Made.claim_of_plain {op : StoreOp} {key : String} {current updated : Checkpoint}
    (hmade : Made op key current updated) (hclaims : op.claims = true)
    (hplain : op.writesRows = false) :
    ∃ cycle token lease now mode, op = .claim key cycle token lease now mode := by
  cases hmade with
  | claim => exact ⟨_, _, _, _, _, rfl⟩
  | consume => cases hplain
  | command hop => rcases hop with rfl | rfl <;> cases hclaims
  | _ => cases hclaims

/-- A question is put by the owner. -/
theorem Made.produced {clock : Clock} {request : HostInteractionRequest}
    {context : HostInteractionAdmissionContext} {key : String} {current updated : Checkpoint}
    (hmade : Made (.produceHostInteraction clock request context) key current updated) :
    current.claimToken = some context.claimToken ∧
      prepareHostInteraction clock current request context
        (recordIdFor context.checkpointKey request) = .ok updated := by
  cases hmade with
  | produce _ _ htoken _ hprepared => exact ⟨htoken, hprepared⟩
  | command hop => rcases hop with h | h <;> cases h

/-- A write that leaves the rows of questions alone. -/
theorem Wrote.waits {op : StoreOp} {key : String} {current stored : Checkpoint}
    {record : HostInteractionRecord} (h : Wrote op key current stored)
    (hplain : op.writesRows = false) (hwaits : Waits record current)
    (hclaims : op.claims = true → record.state ≠ "resolved_pending") : Waits record stored := by
  refine Waits.archived h fun updated hmade => ?_
  by_cases hclaim : op.claims = true
  · cases hmade with
    | claim _ hprepared =>
        -- A claim needs a checkpoint that waits for nothing.
        obtain ⟨hcandidate, _⟩ := prepareClaim_eq_some hprepared
        obtain ⟨_, hopen, hstatus, _⟩ := claimCandidate_eq_true hcandidate
        have hnone : answerableInteraction current = none := answerableInteraction_none
          (by rcases hstatus with h | h <;> simp [h]) (by rcases hstatus with h | h <;> simp [h])
        rcases hwaits.2 with hended | hasked | ⟨hpending, _⟩
        · simp [hopen] at hended
        · rw [hnone] at hasked
          cases hasked
        · exact absurd hpending (hclaims hclaim)
    | consume => cases hplain
    | command hop => rcases hop with rfl | rfl <;> cases hclaim
    | _ => cases hclaim
  · have hcommand : op.isCommand = false := by
      cases op <;> first | rfl | cases hplain
    exact hwaits.idle (hmade.staysIdle hwaits.1 (by simpa using hclaim) hcommand)
      hmade.staysTerminal

namespace Questions

variable {store after : MemoryStore}

/-- The rows stay, and every open question finds its checkpoint waiting. -/
theorem keeps (h : Questions store)
    (hrows : after.ledger.hostInteractions = store.ledger.hostInteractions)
    (hwaits : ∀ (id : String) (record : HostInteractionRecord) (current : Checkpoint),
      store.ledger.hostInteractions[id]? = some record → record.state ≠ "consumed" →
      store.checkpoints[record.checkpointKey]? = some current → Waits record current →
      ∃ stored, after.checkpoints[record.checkpointKey]? = some stored ∧ Waits record stored) :
    Questions after where
  identity := by
    rw [hrows]
    exact h.identity
  states := by
    rw [hrows]
    exact h.states
  waits := by
    rw [hrows]
    intro id record hrecord hopen
    obtain ⟨current, hfound, hwaiting⟩ := h.waits id record hrecord hopen
    exact hwaits id record current hrecord hopen hfound hwaiting
  single := by
    rw [hrows]
    exact h.single

/-- Writing a record that is no answer leaves the questions alone. -/
theorem plain (h : Questions store) (hkeyed : Keyed store) {op : StoreOp}
    (hplain : op.writesRows = false) (hdelete : ∀ key, op ≠ .delete key)
    (hrows : (exec op store).ledger.hostInteractions = store.ledger.hostInteractions) :
    Questions (exec op store) := by
  refine h.keeps hrows fun id record current hrecord hopen hfound hwaits => ?_
  have hstep := (exec_step op store hkeyed).record record.checkpointKey
  rw [hfound] at hstep
  generalize hafter : (exec op store).checkpoints[record.checkpointKey]? = result at hstep
  cases hstep with
  | kept => exact ⟨current, rfl, hwaits⟩
  | written _ stored hwrote =>
      by_cases hclaimed : op.claims = true ∧ record.state = "resolved_pending"
      · obtain ⟨hclaims, hpending⟩ := hclaimed
        obtain ⟨cycle, token, lease, now, mode, rfl⟩ : ∃ cycle token lease now mode,
            op = .claim record.checkpointKey cycle token lease now mode := by
          obtain ⟨_, _, _, _, _, hmade, _⟩ := hwrote.frame
          exact hmade.claim_of_plain hclaims hplain
        have hsame := (claimCheckpoint_refused hrecord hpending cycle token lease now mode).2
        change (exec (.claim record.checkpointKey cycle token lease now mode) store) = store
          at hsame
        rw [hsame, hfound] at hafter
        obtain rfl := Option.some.inj hafter
        exact ⟨current, rfl, hwaits⟩
      · exact ⟨stored, rfl, hwrote.waits hplain hwaits fun hclaims hpending =>
          hclaimed ⟨hclaims, hpending⟩⟩
  | deleted _ hop => exact absurd hop (hdelete _)

/-- A new question. -/
theorem asked (h : Questions store) {clock : Clock} {request : HostInteractionRequest}
    {context : HostInteractionAdmissionContext} {current updated stored : Checkpoint}
    {archive : ArchivedHistory} {notification : HostInteractionNotificationRecord}
    (hfound : store.checkpoints[context.checkpointKey]? = some current)
    (hmade : Made (.produceHostInteraction clock request context) context.checkpointKey current
      updated)
    (hpersist : persistHistory (store.archiveOf updated.checkpointKey) updated =
      .ok (stored, archive)) :
    Questions ((store.write context.checkpointKey stored archive).putQuestion
      context.checkpointKey request notification) := by
  have htoken : current.claimToken = some context.claimToken := hmade.produced.1
  have hfree : ∀ (id : String) (record : HostInteractionRecord),
      store.ledger.hostInteractions[id]? = some record → record.state ≠ "consumed" →
      record.checkpointKey ≠ context.checkpointKey := by
    intro id record hrecord hopen hkey
    obtain ⟨checkpoint, hcheckpoint, hidle, _⟩ := h.waits id record hrecord hopen
    rw [hkey, hfound] at hcheckpoint
    obtain rfl := Option.some.inj hcheckpoint
    rw [htoken] at hidle
    cases hidle
  have hwaiting : ∀ updated', Made (.produceHostInteraction clock request context)
      context.checkpointKey current updated' →
      Waits (.active context.checkpointKey (recordIdFor context.checkpointKey request) request)
        updated' := by
    intro updated' hmade'
    obtain ⟨_, cycle, event, _, rfl⟩ := prepareHostInteraction_eq_ok hmade'.produced.2
    exact ⟨rfl, .inr (.inl rfl)⟩
  have hstored := Waits.archived (.archived updated _ _ hmade hpersist) hwaiting
  have hrow : ∀ (id : String) (record : HostInteractionRecord),
      ((store.write context.checkpointKey stored archive).putQuestion context.checkpointKey
        request notification).ledger.hostInteractions[id]? = some record →
      id = recordIdFor context.checkpointKey request ∧
          record = .active context.checkpointKey (recordIdFor context.checkpointKey request)
            request ∨
        store.ledger.hostInteractions[id]? = some record := by
    intro id record hrecord
    simp only [MemoryStore.putQuestion, MemoryStore.putHostRecord, MemoryStore.putNotification,
      MemoryStore.write, Table.get_insert] at hrecord
    split at hrecord
    · rename_i hid
      exact .inl ⟨hid.symm, (Option.some.inj hrecord).symm⟩
    · exact .inr hrecord
  constructor
  · intro id record hrecord
    rcases hrow id record hrecord with ⟨rfl, rfl⟩ | hbefore
    · exact ⟨rfl, rfl⟩
    · exact h.identity id record hbefore
  · intro id record hrecord
    rcases hrow id record hrecord with ⟨rfl, rfl⟩ | hbefore
    · exact .inl rfl
    · exact h.states id record hbefore
  · intro id record hrecord hopen
    simp only [MemoryStore.putQuestion, MemoryStore.putHostRecord, MemoryStore.putNotification,
      MemoryStore.write, Table.get_insert]
    rcases hrow id record hrecord with ⟨rfl, rfl⟩ | hbefore
    · exact ⟨stored, if_pos rfl, hstored⟩
    · rw [if_neg (hfree id record hbefore hopen).symm]
      exact h.waits id record hbefore hopen
  · intro id other record another hrecord hother hopen hopen' hkey
    rcases hrow id record hrecord with ⟨rfl, rfl⟩ | hbefore <;>
      rcases hrow other another hother with ⟨rfl, rfl⟩ | hbefore'
    · rfl
    · exact absurd hkey.symm (hfree other another hbefore' hopen')
    · exact absurd hkey (hfree id record hbefore hopen)
    · exact h.single id other record another hbefore hbefore' hopen hopen' hkey

/-- The records and the checkpoint after a command. -/
theorem commanded (h : Questions store) (hkeyed : Keyed store) {clock : Clock}
    {command : ControllerCommand} {now : Nat} {key : String} {current : Checkpoint}
    {effect : CommandEffect} (hfound : store.checkpoints[key]? = some current)
    (heffect : applyControllerCommand clock (store.hostRecordLookup current.checkpointKey) current
      command now = .ok effect)
    (hrows : after.ledger.hostInteractions =
      (store.putAnswer current.checkpointKey effect.hostRecord).ledger.hostInteractions)
    (hcheckpoints : after.checkpoints =
      store.checkpoints.insert current.checkpointKey effect.checkpoint) :
    Questions after := by
  obtain rfl : current.checkpointKey = key := hkeyed key current hfound
  have hopen := (applyControllerCommand_eq_ok heffect).2.2.1
  -- The question of this checkpoint, when the command is no answer to it.
  have hothers : ∀ (id : String) (record : HostInteractionRecord),
      store.ledger.hostInteractions[id]? = some record → record.state ≠ "consumed" →
      record.checkpointKey = current.checkpointKey →
      (effect.hostRecord.isSome = true → answerableInteraction current ≠ some record.request) →
      Waits record effect.checkpoint := by
    intro id record hrecord hunconsumed hkey hanswer
    obtain ⟨checkpoint, hcheckpoint, hwaits⟩ := h.waits id record hrecord hunconsumed
    rw [hkey, hfound] at hcheckpoint
    obtain rfl := Option.some.inj hcheckpoint
    obtain ⟨htoken, hleaves⟩ := applyControllerCommand_idle hwaits.1 heffect
    refine ⟨htoken, ?_⟩
    rcases hleaves with hended | hsame | ⟨hnone, hwhy⟩
    · exact .inl hended
    · rcases hwaits.2 with hended | hwaits
      · simp [hopen] at hended
      · rw [hsame]
        exact .inr hwaits
    · refine .inr (.inr ⟨?_, hnone⟩)
      rcases hwaits.2 with hended | hasked | ⟨hpending, _⟩
      · simp [hopen] at hended
      · rcases hwhy with hanswered | ⟨request, found, hrequest, hlookup, hpending⟩
        · exact absurd hasked (hanswer hanswered)
        · obtain rfl := Option.some.inj (hasked.symm.trans hrequest)
          have hid := (h.identity id record hrecord).2
          have hsame := Except.ok.inj hlookup
          rw [← hkey, ← hid, hrecord] at hsame
          exact Option.some.inj hsame ▸ hpending
      · exact hpending
  rcases applyControllerCommand_hostRecord heffect with hnone | ⟨answer, request, record, response,
    _, hrequest, hlookup, hactive, hsame, _, _, hanswered⟩
  · refine h.keeps (by rw [hrows, hnone]; rfl) fun id record checkpoint hrecord hunconsumed
      hcheckpoint hwaits => ?_
    rw [hcheckpoints, Table.get_insert]
    split
    · rename_i hkey
      exact ⟨effect.checkpoint, rfl, hothers id record hrecord hunconsumed hkey.symm
        (by simp [hnone])⟩
    · exact ⟨checkpoint, hcheckpoint, hwaits⟩
  · have hrecord := Except.ok.inj hlookup
    have hid := (h.identity _ record hrecord).2
    obtain ⟨checkpoint, hcheckpoint, hwaits⟩ := h.waits _ record hrecord (by
      rw [hactive]
      decide)
    have hrow : ∀ (id : String) (row : HostInteractionRecord),
        after.ledger.hostInteractions[id]? = some row →
        id = recordIdFor current.checkpointKey request ∧
            row = record.answered response command.commandId (current.revision + 1) ∨
          id ≠ recordIdFor current.checkpointKey request ∧
            store.ledger.hostInteractions[id]? = some row := by
      intro id row hrow
      rw [hrows, hanswered] at hrow
      simp only [MemoryStore.putAnswer, MemoryStore.putHostRecord, Table.get_insert] at hrow
      change (if recordIdFor current.checkpointKey record.request = id then _ else _) = _ at hrow
      rw [hsame] at hrow
      split at hrow
      · rename_i hsameId
        exact .inl ⟨hsameId.symm, (Option.some.inj hrow).symm⟩
      · rename_i hother
        exact .inr ⟨Ne.symm hother, hrow⟩
    have hunconsumed : record.state ≠ "consumed" := by
      rw [hactive]
      decide
    constructor
    · intro id row hafter
      rcases hrow id row hafter with ⟨rfl, rfl⟩ | ⟨_, hbefore⟩
      · exact h.identity _ record hrecord
      · exact h.identity id row hbefore
    · intro id row hafter
      rcases hrow id row hafter with ⟨rfl, rfl⟩ | ⟨_, hbefore⟩
      · exact .inr (.inl rfl)
      · exact h.states id row hbefore
    · intro id row hafter hrowOpen
      rw [hcheckpoints, Table.get_insert]
      rcases hrow id row hafter with ⟨rfl, rfl⟩ | ⟨hother, hbefore⟩
      · split
        · rename_i hkey
          change current.checkpointKey = record.checkpointKey at hkey
          rw [← hkey, hfound] at hcheckpoint
          obtain rfl := Option.some.inj hcheckpoint
          obtain ⟨htoken, hleaves⟩ := applyControllerCommand_idle hwaits.1 heffect
          refine ⟨effect.checkpoint, rfl, htoken, ?_⟩
          rcases hleaves with hended | hstays | ⟨hnone, _⟩
          · exact .inl hended
          · refine .inr (.inl ?_)
            rw [hstays, hrequest]
            exact congrArg some hsame.symm
          · exact .inr (.inr ⟨rfl, hnone⟩)
        · refine ⟨checkpoint, hcheckpoint, hwaits.1, ?_⟩
          rcases hwaits.2 with hended | hasked | ⟨hpending, _⟩
          · exact .inl hended
          · exact .inr (.inl hasked)
          · rw [hactive] at hpending
            exact absurd hpending (by decide)
      · split
        · rename_i hkey
          refine ⟨effect.checkpoint, rfl, hothers id row hbefore hrowOpen hkey.symm ?_⟩
          intro _ hasked
          apply hother
          rw [(h.identity id row hbefore).2, ← hkey,
            Option.some.inj (hasked.symm.trans hrequest)]
        · exact h.waits id row hbefore hrowOpen
    · intro id other row another hafter hafter' hrowOpen hotherOpen hkey
      rcases hrow id row hafter with ⟨rfl, rfl⟩ | ⟨_, hbefore⟩ <;>
        rcases hrow other another hafter' with ⟨rfl, rfl⟩ | ⟨_, hbefore'⟩
      · rfl
      · exact h.single _ _ record another hrecord hbefore' hunconsumed hotherOpen hkey
      · exact h.single _ _ row record hbefore hrecord hrowOpen hunconsumed hkey
      · exact h.single _ _ row another hbefore hbefore' hrowOpen hotherOpen hkey

/-- A consumed record no longer waits for anything. -/
theorem consumed (h : Questions store) {key id : String} {stored : Checkpoint}
    {archive : ArchivedHistory} {record : HostInteractionRecord} {revision : Nat}
    (hrecord : store.ledger.hostInteractions[id]? = some record)
    (hpending : record.state = "resolved_pending") (hkey : record.checkpointKey = key) :
    Questions ((store.write key stored archive).putHostRecord record.recordId
      (record.consumed revision)) := by
  obtain ⟨hrecordId, hid⟩ := h.identity id record hrecord
  have hrow : ∀ (other : String) (row : HostInteractionRecord),
      ((store.write key stored archive).putHostRecord record.recordId
        (record.consumed revision)).ledger.hostInteractions[other]? = some row →
      other = id ∧ row = record.consumed revision ∨
        other ≠ id ∧ store.ledger.hostInteractions[other]? = some row := by
    intro other row hrow
    simp only [MemoryStore.putHostRecord, MemoryStore.write, Table.get_insert, hrecordId] at hrow
    split at hrow
    · rename_i hsame
      exact .inl ⟨hsame.symm, (Option.some.inj hrow).symm⟩
    · rename_i hother
      exact .inr ⟨Ne.symm hother, hrow⟩
  constructor
  · intro other row hafter
    rcases hrow other row hafter with ⟨rfl, rfl⟩ | ⟨_, hbefore⟩
    · exact ⟨hrecordId, hid⟩
    · exact h.identity other row hbefore
  · intro other row hafter
    rcases hrow other row hafter with ⟨rfl, rfl⟩ | ⟨_, hbefore⟩
    · exact .inr (.inr rfl)
    · exact h.states other row hbefore
  · intro other row hafter hopen
    rcases hrow other row hafter with ⟨rfl, rfl⟩ | ⟨hother, hbefore⟩
    · exact absurd rfl hopen
    · have hdistinct : key ≠ row.checkpointKey := by
        intro hsame
        exact hother (h.single other id row record hbefore hrecord hopen
          (by rw [hpending]; decide) (hsame.symm.trans hkey.symm))
      simp only [MemoryStore.putHostRecord, MemoryStore.write, Table.get_insert]
      rw [if_neg hdistinct]
      exact h.waits other row hbefore hopen
  · intro first second row another hafter hafter' hopen hopen' hsame
    rcases hrow first row hafter with ⟨rfl, rfl⟩ | ⟨_, hbefore⟩
    · exact absurd rfl hopen
    · rcases hrow second another hafter' with ⟨rfl, rfl⟩ | ⟨_, hbefore'⟩
      · exact absurd rfl hopen'
      · exact h.single first second row another hbefore hbefore' hopen hopen' hsame

/-- A deleted checkpoint takes its questions along. -/
theorem deleted (h : Questions store) (key : String) : Questions (store.deleteCheckpoint key) := by
  have hrow : ∀ (id : String) (record : HostInteractionRecord),
      (store.deleteCheckpoint key).ledger.hostInteractions[id]? = some record →
      store.ledger.hostInteractions[id]? = some record ∧ record.checkpointKey ≠ key := by
    intro id record hrow
    simp only [MemoryStore.deleteCheckpoint, Table.get_filter, Option.filter_eq_some_iff] at hrow
    exact ⟨hrow.1, by simpa using hrow.2⟩
  constructor
  · exact fun id record hrecord => h.identity id record (hrow id record hrecord).1
  · exact fun id record hrecord => h.states id record (hrow id record hrecord).1
  · intro id record hrecord hopen
    obtain ⟨hbefore, hother⟩ := hrow id record hrecord
    obtain ⟨checkpoint, hcheckpoint, hwaits⟩ := h.waits id record hbefore hopen
    refine ⟨checkpoint, ?_, hwaits⟩
    simp only [MemoryStore.deleteCheckpoint, Table.get_erase]
    rw [if_neg (Ne.symm hother), hcheckpoint]
  · intro id other record another hrecord hanother
    exact h.single id other record another (hrow id record hrecord).1 (hrow other another hanother).1

end Questions

/-- One operation keeps the questions in order. -/
theorem exec_questions (op : StoreOp) {store : MemoryStore} (hkeyed : Keyed store)
    (h : Questions store) : Questions (exec op store) := by
  by_cases hdelete : ∃ key, op = .delete key
  · obtain ⟨key, rfl⟩ := hdelete
    exact h.deleted key
  have hkept : ∀ key, op ≠ .delete key := fun key hop => hdelete ⟨key, hop⟩
  cases exec_rows op store with
  | unchanged hafter =>
      rw [hafter]
      exact h
  | kept hplain hledger _ => exact h.plain hkeyed hplain hkept (by rw [hledger])
  | resolved _ _ hplain _ _ _ hledger _ => exact h.plain hkeyed hplain hkept (by rw [hledger])
  | asked clock request context current updated stored archive notification hop hfound hmade _ _ _
      hpersist hafter =>
      rw [hop] at hmade
      rw [hafter]
      exact h.asked hfound hmade hpersist
  | commanded clock command now current effect _ _ _ hfound heffect _ hafter =>
      rw [hafter]
      exact h.commanded hkeyed hfound heffect rfl rfl
  | consumed clock envelope now current updated stored archive record response _ _ hrecord
      hidentity hpending _ _ _ _ _ hafter =>
      rw [hafter]
      simp only [recoveryIdentityMatches, Bool.and_eq_true, beq_iff_eq] at hidentity
      exact h.consumed hrecord hpending hidentity.1.1.1.1.1.1.2
  | unclaimed recordId record updated hrecord hclaimed _ =>
      rcases h.states _ record hrecord with hstate | hstate | hstate <;>
        exact absurd (hstate.symm.trans hclaimed) (by decide)
  | notified _ _ _ _ _ hafter =>
      rw [hafter]
      exact h.keeps rfl fun id record current _ _ hfound hwaits => ⟨current, hfound, hwaits⟩
  | woken _ hframe =>
      obtain ⟨_, _, hafter⟩ := hframe
      rw [hafter]
      exact h.keeps rfl fun id record current _ _ hfound hwaits => ⟨current, hfound, hwaits⟩
  | deleted key hop _ => exact absurd hop (hkept key)

theorem run_questions (ops : List StoreOp) : Questions (run exec ops {}) :=
  (run_preserves exec (fun _ => True) (fun store => Keyed store ∧ Questions store)
    (fun op store _ ⟨hkeyed, h⟩ => ⟨exec_keyed op store hkeyed, exec_questions op hkeyed h⟩) ops
    (fun _ _ => trivial) {} ⟨keyed_empty, Questions.empty⟩).2

end

end VvAgent
