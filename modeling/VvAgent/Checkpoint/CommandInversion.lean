import VvAgent.Checkpoint.Inversion

/-!
What a deferred resolution, a host interaction, a recovery and a controller command went
through when they succeeded.
-/

namespace VvAgent
open Lib Lib.Outcome

/-- A resolution that reaches the journal finds a deferred entry under the handle, and no
claim. -/
theorem deferredTarget_eq_inr {checkpoint : Checkpoint} {handle : DeferredToolHandle}
    {result : ToolExecutionResult} {entry : OperationJournalEntry}
    (h : deferredTarget checkpoint handle result = .ok (.inr entry)) :
    checkpoint.toolJournal.find? handle.names = some entry ∧ checkpoint.claimToken = none ∧
      entry.state = .deferred ∧ entry.deferredHandle = some handle ∧
      entry.toolCallId = some result.toolCallId := by
  simp only [deferredTarget, bind_eq_ok, require_eq_ok] at h
  obtain ⟨found, hfound, h⟩ := h
  split at h
  · simp at h
  split at h
  · simp at h
  simp only [bind_eq_ok, refuse_eq_ok, exists_const, pure_ok, Except.ok.injEq, Sum.inr.injEq,
    Option.isSome_eq_false_iff, Option.isNone_iff_eq_none, Bool.or_eq_false_iff,
    bne_eq_false_iff_eq] at h
  obtain ⟨htoken, ⟨hstate, hhandle⟩, hcall, rfl⟩ := h
  exact ⟨hfound, htoken, hstate, hhandle, hcall⟩

section
variable [Runtime]

theorem prepareClaim_eq_some {current claimed : Checkpoint} {cycleIndex : Nat}
    {claimToken : String} {lease nowMs : Nat} {mode : ClaimMode}
    (h : prepareClaim current cycleIndex claimToken lease nowMs mode = .ok (some claimed)) :
    claimCandidate current cycleIndex nowMs mode = .ok true ∧ lease ≤ maxWireInteger ∧
      validateCheckpoint claimed = .ok () ∧
      claimed = claimedBy current cycleIndex claimToken lease mode := by
  simp only [prepareClaim, bind_eq_ok] at h
  obtain ⟨granted, hgranted, h⟩ := h
  split at h
  · rename_i htrue
    simp only [bind_eq_ok, pure_ok, Except.ok.injEq, Option.some.injEq] at h
    obtain ⟨claimed', hclaimed, _, hvalid, rfl⟩ := h
    obtain ⟨hlease, hbuilt⟩ := applyClaim_eq_ok hclaimed
    exact ⟨by rw [hgranted, htrue], hlease, hvalid, hbuilt⟩
  · simp at h

/-- The status after a resolution. -/
def resolvedStatus (before : CheckpointStatus) (toolJournal : List OperationJournalEntry) :
    CheckpointStatus :=
  if before = .suspended then .suspended
  else if (toolJournal.filter fun entry => entry.state = .deferred).isEmpty then .running
  else .deferred

theorem resolveEntry_eq_ok {clock : Clock} {checkpoint updated : Checkpoint}
    {handle : DeferredToolHandle} {entry : OperationJournalEntry}
    {result : ToolExecutionResult} {receipt : DeferredReceipt}
    (h : resolveEntry clock checkpoint handle entry result = .ok (updated, receipt)) :
    validateCheckpoint updated = .ok () ∧
      ∃ event identityKey digest toolJournal,
        receiptEvent clock checkpoint entry result = .ok event ∧
        toolReceiptIdentityKey checkpoint.checkpointKey entry.operationId entry.attempt
          (entry.toolCallId.getD "") entry.requestDigest = .ok identityKey ∧
        toolResultDigest result = .ok digest ∧
        toolJournal = replaceFirst handle.names (resolvedEntry entry identityKey digest result)
          checkpoint.toolJournal ∧
        DeferredReceipt.new handle result event.eventId event.payloadDigest = .ok receipt ∧
        updated = { checkpoint with
          toolJournal
          eventOutbox := checkpoint.eventOutbox ++ [event]
          status := resolvedStatus checkpoint.status toolJournal
          revision := checkpoint.revision + 1 } := by
  simp only [resolveEntry, bind_eq_ok, nextRevision_eq_ok, pure_ok, Except.ok.injEq,
    Prod.mk.injEq] at h
  obtain ⟨event, hevent, identityKey, hidentity, digest, hdigest, _, ⟨_, rfl⟩, _, hvalid, _,
    hreceipt, rfl, rfl⟩ := h
  exact ⟨hvalid, event, identityKey, digest, _, hevent, hidentity, hdigest, rfl, hreceipt, rfl⟩

/-- The owner's side of a question to the host: the checkpoint is not cancelled, and the
stored record is kept or replaced by the completed cycle. -/
theorem prepareHostInteractionCycle_eq_ok {clock : Clock} {current updated : Checkpoint}
    {request : HostInteractionRequest} {context : HostInteractionAdmissionContext}
    (h : prepareHostInteractionCycle clock current request context = .ok updated) :
    current.cancelRequested = false ∧
      (updated = current ∧ context.cycleSnapshot = none ∨
        ∃ completed receipt target result,
          context.cycleSnapshot = some completed ∧
          Extension current completed ∧
          completed.cycles.getLast?.map (·.index.toNat) = some request.logicalCycle ∧
          prepareToolReceipt clock current current target result context.claimToken
            context.expectedRevision = .ok (some receipt) ∧
          updated = { receipt with
            messages := completed.messages
            cycles := completed.cycles
            sharedState := completed.sharedState
            extensionState := completed.extensionState
            budgetUsage := completed.budgetUsage
            cycleIndex := request.logicalCycle
            modelCallJournal := []
            toolJournal := [] }) := by
  simp only [prepareHostInteractionCycle, bind_eq_ok, refuse_eq_ok, exists_const] at h
  obtain ⟨hcancel, h⟩ := h
  refine ⟨hcancel, ?_⟩
  split at h
  · rename_i hnone
    simp only [bind_eq_ok, refuse_eq_ok, exists_const, pure_ok, Except.ok.injEq] at h
    exact .inl ⟨h.2.symm, hnone⟩
  · rename_i completed hsome
    simp only [bind_eq_ok, refuse_eq_ok, exists_const, require_eq_ok, pure_ok,
      Except.ok.injEq, Bool.or_eq_false_iff, Bool.not_eq_false', bne_eq_false_iff_eq,
      checkpointDefinitionMatches_iff] at h
    obtain ⟨⟨⟨⟨hmatches, _⟩, _⟩, hlast⟩, result, _, entry, _, receipt, hreceipt, stored, rfl, _,
      rfl⟩ := h
    exact .inr ⟨completed, stored, _, result, hsome, hmatches, hlast, hreceipt, rfl⟩

theorem prepareHostInteraction_eq_ok {clock : Clock} {current updated : Checkpoint}
    {request : HostInteractionRequest} {context : HostInteractionAdmissionContext}
    {recordId : String}
    (h : prepareHostInteraction clock current request context recordId = .ok updated) :
    validateCheckpoint updated = .ok () ∧
      ∃ cycle event, prepareHostInteractionCycle clock current request context = .ok cycle ∧
        updated = { cycle.releaseClaim with
          status := .hostInteraction
          activeHostInteraction := some request
          revision := current.revision + 1
          eventOutbox := cycle.eventOutbox ++ [event] } := by
  simp only [prepareHostInteraction, bind_eq_ok, refuse_eq_ok, exists_const, nextRevision_eq_ok,
    pure_ok, Except.ok.injEq] at h
  obtain ⟨_, _, _, cycle, hcycle, _, ⟨_, rfl⟩, event, _, _, hvalid, rfl⟩ := h
  exact ⟨hvalid, cycle, event, hcycle, rfl⟩

/-- The claim token a recovery installs. -/
def recoveryToken (recordId : String) (resumeAttempt : Nat) : String :=
  "host-recovery:" ++ recordId ++ ":" ++ toString (resumeAttempt + 1)

theorem prepareConsume_eq_ok {clock : Clock} {current updated : Checkpoint}
    {record : HostInteractionRecord} {response : HostInteractionResponse}
    {envelope : HostInteractionRecoveryEnvelope} {nowMs : Nat}
    (h : prepareConsume clock current record response envelope nowMs = .ok updated) :
    validateCheckpoint updated = .ok () ∧
      ∃ event,
        updated = { current with
          messages := current.messages ++ [Message.user response.response.content]
          resumeAttempt := envelope.resumeAttempt + 1
          revision := envelope.expectedRevision + 1
          claimToken := some (recoveryToken record.recordId envelope.resumeAttempt)
          claimedCycle := some (current.cycleIndex + 1)
          leaseExpiresAtMs := some (min (nowMs + recoveryLeaseMs) (UInt64.size - 1))
          eventOutbox := current.eventOutbox ++ [event] } := by
  simp only [prepareConsume, bind_eq_ok, require_eq_ok, refuse_eq_ok, exists_const,
    nextRevision_eq_ok, checkedAdd_one_eq_some, pure_ok, Except.ok.injEq] at h
  obtain ⟨_, ⟨_, rfl⟩, _, _, _, ⟨_, rfl⟩, _, ⟨_, rfl⟩, _, _, _, event, _, _, hvalid, rfl⟩ := h
  exact ⟨hvalid, event, rfl⟩

theorem appendControlEvent_eq_ok {clock : Clock} {checkpoint updated : Checkpoint}
    {commandId : String} {payload : RunEventPayload} {result : Option AgentResult}
    (h : appendControlEvent clock checkpoint commandId payload result = .ok updated) :
    ∃ event, updated = { checkpoint with eventOutbox := checkpoint.eventOutbox ++ [event] } := by
  simp only [appendControlEvent, bind_eq_ok, pure_ok, Except.ok.injEq] at h
  obtain ⟨_, _, event, _, rfl⟩ := h
  exact ⟨event, rfl⟩

theorem pending_eq_ok {eventId : String} {event : Json} {entry : EventOutboxEntry}
    (h : EventOutboxEntry.pending eventId event = .ok entry) :
    entry.validate = .ok () ∧ entry.eventId = eventId ∧ entry.event = event ∧
      entry.state = "pending" ∧ entry.cursor = none := by
  simp only [EventOutboxEntry.pending, bind_eq_ok, pure_ok, Except.ok.injEq] at h
  obtain ⟨_, _, _, hvalid, rfl⟩ := h
  exact ⟨hvalid, rfl, rfl, rfl, rfl⟩

theorem appendCancelRequestedEvent_eq_ok {clock : Clock} {checkpoint updated : Checkpoint}
    {commandId : String}
    (h : appendCancelRequestedEvent clock checkpoint commandId = .ok updated) :
    ∃ event, event.eventId = cancelEventId commandId ∧ event.state = "pending" ∧
      updated = { checkpoint with eventOutbox := checkpoint.eventOutbox ++ [event] } := by
  simp only [appendCancelRequestedEvent, bind_eq_ok, pure_ok, Except.ok.injEq] at h
  obtain ⟨_, _, event, hpending, rfl⟩ := h
  obtain ⟨_, hid, _, hstate, _⟩ := pending_eq_ok hpending
  exact ⟨event, hid, hstate, rfl⟩

end

/-- What a command that was applied has made of a checkpoint. -/
inductive CommandCase (current : Checkpoint) (command : ControllerCommand) (nowMs : Nat) :
    Checkpoint → Prop
  /-- A live owner is asked to cancel; a second request leaves the outbox as it is. -/
  | requested (events : List EventOutboxEntry) (hlive : current.claimLive nowMs = true)
      (hcommand : command.command = .cancel)
      (hevents : current.cancelRequested = true ∧ events = [] ∨
        current.cancelRequested = false ∧
          ∃ event, events = [event] ∧ event.eventId = cancelEventId command.commandId ∧
            event.state = "pending") :
      CommandCase current command nowMs
        { current with
          cancelRequested := true
          eventOutbox := current.eventOutbox ++ events }
  /-- A response, a suspension or a resumption: the status moves, and events are added. -/
  | moved (base : Checkpoint) (status : CheckpointStatus)
      (activeHostInteraction : Option HostInteractionRequest)
      (suspendedOrigin : Option SuspendedOrigin) (events : List EventOutboxEntry)
      (hlive : current.claimLive nowMs = false)
      (hbase : base = current ∧ (current.status = .hostInteraction ∨
        current.status = .suspended ∨ current.claimToken = none) ∨ base = current.releaseClaim)
      (hstatus : status ≠ .failed) :
      CommandCase current command nowMs
        { base with
          status, activeHostInteraction, suspendedOrigin
          eventOutbox := current.eventOutbox ++ events
          revision := current.revision + 1 }
  /-- The run is ended. -/
  | ended (resumeAttempt : Nat) (cancelRequested : Bool)
      (toolJournal : List OperationJournalEntry) (eventOutbox : List EventOutboxEntry)
      (result : AgentResult) (hlive : current.claimLive nowMs = false)
      (hevents : current.eventOutbox.Sublist eventOutbox)
      (hcycles : result.cycles = current.cycles)
      (husage : result.tokenUsage = summarizeTaskTokenUsage current.modelCalls) :
      CommandCase current command nowMs
        { current.releaseClaim with
          resumeAttempt, cancelRequested, toolJournal, eventOutbox
          status := .failed
          activeHostInteraction := none
          suspendedOrigin := none
          modelCallJournal := []
          terminalResult := some (.decoded result)
          revision := current.revision + 1 }

theorem resumeFrom_eq_ok {lookup : HostRecordLookup} {current updated resumed : Checkpoint}
    {origin : SuspendedOrigin} {wake : ControllerCommandWake}
    (h : resumeFrom lookup current updated origin = .ok (resumed, wake)) :
    ∃ status activeHostInteraction, status ≠ .failed ∧
      resumed = { updated with
        status, activeHostInteraction, suspendedOrigin := none } := by
  unfold resumeFrom at h
  split at h
  · split at h <;> simp only [Except.ok.injEq, Prod.mk.injEq] at h
    · exact ⟨.running, updated.activeHostInteraction, by simp, h.1.symm⟩
    · exact ⟨.deferred, updated.activeHostInteraction, by simp, h.1.symm⟩
  · simp only [Except.ok.injEq, Prod.mk.injEq] at h
    exact ⟨.running, updated.activeHostInteraction, by simp, h.1.symm⟩
  · simp only [bind_eq_ok, require_eq_ok] at h
    obtain ⟨request, _, record, _, h⟩ := h
    split at h <;> simp only [pure_ok, Except.ok.injEq, Prod.mk.injEq] at h
    · exact ⟨.running, updated.activeHostInteraction, by simp, h.1.symm⟩
    · exact ⟨.hostInteraction, some request, by simp, h.1.symm⟩
  · simp at h

theorem releaseExpiredClaim_eq_ok {current updated : Checkpoint}
    {command : ControllerCommandVariant} {nowMs : Nat}
    (h : releaseExpiredClaim current command nowMs = .ok updated) :
    current.claimExpired nowMs = true ∧ command = .cancel ∧
        updated = { current.releaseClaim with
          resumeAttempt := current.resumeAttempt + 1, cancelRequested := true } ∨
      current.claimExpired nowMs = true ∧ command = .suspend ∧ updated = current.releaseClaim ∨
      (current.claimExpired nowMs = true → command ≠ .cancel ∧ command ≠ .suspend) ∧
        updated = current := by
  unfold releaseExpiredClaim at h
  split at h
  · rename_i hcancel
    simp only [Bool.and_eq_true, beq_iff_eq] at hcancel
    simp only [bind_eq_ok, nextResumeAttempt_eq_ok, pure_ok, Except.ok.injEq] at h
    obtain ⟨_, ⟨_, rfl⟩, rfl⟩ := h
    exact .inl ⟨hcancel.1, hcancel.2, rfl⟩
  · rename_i hcancel
    split at h
    · rename_i hsuspend
      simp only [Bool.and_eq_true, beq_iff_eq] at hsuspend
      simp only [Except.ok.injEq] at h
      exact .inr (.inl ⟨hsuspend.1, hsuspend.2, h.symm⟩)
    · rename_i hsuspend
      simp only [Bool.and_eq_true, beq_iff_eq, not_and] at hcancel hsuspend
      simp only [Except.ok.injEq] at h
      exact .inr (.inr ⟨fun hexpired => ⟨hcancel hexpired, hsuspend hexpired⟩, h.symm⟩)

/-- Without a live claim, a claim that has not expired is no claim. -/
theorem claimToken_of_not_live {current : Checkpoint} {nowMs : Nat}
    (hlive : current.claimLive nowMs = false) (hexpired : current.claimExpired nowMs = false) :
    current.claimToken = none := by
  simpa [Checkpoint.claimLive, hexpired] using hlive

section
variable [Runtime]

theorem terminateWith_eq_ok {clock : Clock} {current updated : Checkpoint}
    {commandId reason : String} {result : AgentResult} {ending : RunEventPayload}
    {effect : CommandEffect}
    (h : terminateWith clock current updated commandId reason result ending = .ok effect) :
    validateCheckpoint effect.checkpoint = .ok () ∧ effect.hostRecord = none ∧
      ∃ toolJournal eventOutbox, updated.eventOutbox.Sublist eventOutbox ∧
        effect.checkpoint = { updated.releaseClaim with
          toolJournal, eventOutbox
          status := .failed
          activeHostInteraction := none
          suspendedOrigin := none
          modelCallJournal := []
          terminalResult := some ((TerminalValue.decoded result).observe
            ((updated.toolJournal.filter (·.isOpen)).map unknownToolObservation))
          revision := current.revision + 1 } := by
  simp only [terminateWith, bind_eq_ok, pure_ok, Except.ok.injEq] at h
  obtain ⟨closed, hclosed, changed, hchanged, ended, hended, _, hvalid, rfl⟩ := h
  obtain ⟨toolJournal, eventOutbox, _, hkept, rfl⟩ := closeUnresolvedTools_eq_ok hclosed
  obtain ⟨first, rfl⟩ := appendControlEvent_eq_ok hchanged
  obtain ⟨second, rfl⟩ := appendControlEvent_eq_ok hended
  refine ⟨hvalid, rfl, toolJournal, _, ?_, rfl⟩
  exact (hkept.trans (List.sublist_append_left _ [first])).trans
    (List.sublist_append_left _ [second])

theorem applyHostResponse_eq_ok {lookup : HostRecordLookup} {missing : String}
    {current updated : Checkpoint} {command : ControllerCommand} {answer : HostResponseCommand}
    {effect : CommandEffect}
    (h : applyHostResponse lookup missing current updated command answer = .ok effect) :
    validateCheckpoint effect.checkpoint = .ok () ∧
      (current.status = .hostInteraction ∨ current.status = .suspended) ∧
      ∃ status suspendedOrigin, status ≠ .failed ∧
        effect.checkpoint = { updated with
          status, suspendedOrigin
          activeHostInteraction := none
          revision := current.revision + 1 } := by
  simp only [applyHostResponse, bind_eq_ok, refuse_eq_ok, exists_const, require_eq_ok] at h
  obtain ⟨request, hrequest, _, _, _, record, _, _, response, _, _, _, h⟩ := h
  have hstatus : current.status = .hostInteraction ∨ current.status = .suspended := by
    unfold answerableInteraction at hrequest
    split at hrequest
    · exact .inl (by assumption)
    · exact .inr (by assumption)
    · simp at hrequest
  split at h
  · simp only [bind_eq_ok, pure_ok, Except.ok.injEq] at h
    obtain ⟨_, hvalid, rfl⟩ := h
    exact ⟨hvalid, hstatus, .running, updated.suspendedOrigin, by simp, rfl⟩
  · simp only [bind_eq_ok, pure_ok, Except.ok.injEq] at h
    obtain ⟨_, hvalid, rfl⟩ := h
    exact ⟨hvalid, hstatus, .suspended, _, by simp, rfl⟩

theorem applySuspend_eq_ok {clock : Clock} {current updated : Checkpoint}
    {command : ControllerCommand} {effect : CommandEffect}
    (h : applySuspend clock current updated command = .ok effect) :
    validateCheckpoint effect.checkpoint = .ok () ∧
      ∃ origin event,
        effect.checkpoint = { updated with
          status := .suspended
          activeHostInteraction := none
          suspendedOrigin := some origin
          eventOutbox := updated.eventOutbox ++ [event]
          revision := current.revision + 1 } := by
  simp only [applySuspend, bind_eq_ok, pure_ok, Except.ok.injEq] at h
  obtain ⟨origin, _, suspended, hsuspended, _, hvalid, rfl⟩ := h
  obtain ⟨event, rfl⟩ := appendControlEvent_eq_ok hsuspended
  exact ⟨hvalid, origin, event, rfl⟩

theorem applyResume_eq_ok {clock : Clock} {lookup : HostRecordLookup}
    {current updated : Checkpoint} {command : ControllerCommand} {effect : CommandEffect}
    (h : applyResume clock lookup current updated command = .ok effect) :
    validateCheckpoint effect.checkpoint = .ok () ∧ current.status = .suspended ∧
      ∃ status activeHostInteraction event, status ≠ .failed ∧
        effect.checkpoint = { updated with
          status, activeHostInteraction
          suspendedOrigin := none
          eventOutbox := updated.eventOutbox ++ [event]
          revision := current.revision + 1 } := by
  simp only [applyResume, bind_eq_ok, refuse_eq_ok, exists_const, require_eq_ok, pure_ok,
    Except.ok.injEq, Prod.exists, bne_eq_false_iff_eq] at h
  obtain ⟨hstatus, origin, _, resumed, wake, hresumed, appended, hevent, _, hvalid, rfl⟩ := h
  obtain ⟨status, activeHostInteraction, hfailed, rfl⟩ := resumeFrom_eq_ok hresumed
  obtain ⟨event, rfl⟩ := appendControlEvent_eq_ok hevent
  exact ⟨hvalid, hstatus, status, activeHostInteraction, event, hfailed, rfl⟩

theorem applyCancel_eq_ok {clock : Clock} {current updated : Checkpoint}
    {command : ControllerCommand} {nowMs : Nat} {effect : CommandEffect}
    (hcommand : command.command = .cancel)
    (hupdated : releaseExpiredClaim current command.command nowMs = .ok updated)
    (h : applyCancel clock current updated command nowMs = .ok effect) :
    validateCheckpoint effect.checkpoint = .ok () ∧
      CommandCase current command nowMs effect.checkpoint := by
  have hreleased := releaseExpiredClaim_eq_ok hupdated
  unfold applyCancel at h
  split at h
  · rename_i hlive
    have hbase : updated = current := by
      rcases hreleased with ⟨hexpired, _⟩ | ⟨hexpired, _⟩ | ⟨_, hsame⟩
      · simp [Checkpoint.claimLive, hexpired] at hlive
      · simp [Checkpoint.claimLive, hexpired] at hlive
      · exact hsame
    subst hbase
    split at h
    · rename_i hrequested
      simp only [ok_bind, bind_eq_ok, pure_ok, Except.ok.injEq] at h
      obtain ⟨_, hvalid, rfl⟩ := h
      refine ⟨hvalid, ?_⟩
      have hcase : CommandCase updated command nowMs _ :=
        .requested [] hlive hcommand (.inl ⟨hrequested, rfl⟩)
      rw [List.append_nil] at hcase
      convert hcase using 1
      rw [← hrequested]
    · rename_i hrequested
      simp only [bind_eq_ok, pure_ok, Except.ok.injEq] at h
      obtain ⟨appended, hevent, _, hvalid, rfl⟩ := h
      obtain ⟨event, hid, hstate, rfl⟩ := appendCancelRequestedEvent_eq_ok hevent
      exact ⟨hvalid, .requested [event] hlive hcommand
        (.inr ⟨by simpa using hrequested, event, rfl, hid, hstate⟩)⟩
  · rename_i hlive
    obtain ⟨hvalid, _, toolJournal, eventOutbox, hkept, heffect⟩ := terminateWith_eq_ok h
    refine ⟨hvalid, ?_⟩
    rw [heffect]
    have hidle : current.claimLive nowMs = false := by simpa using hlive
    rcases hreleased with ⟨_, _, rfl⟩ | ⟨_, hsuspend, _⟩ | ⟨_, rfl⟩
    · exact .ended (current.resumeAttempt + 1) true toolJournal eventOutbox _ hidle hkept rfl rfl
    · simp [hcommand] at hsuspend
    · exact .ended updated.resumeAttempt updated.cancelRequested toolJournal eventOutbox _ hidle
        hkept rfl rfl

/-- After the guards, a command does one of three things. -/
theorem transformByCommand_eq_ok {clock : Clock} {lookup : HostRecordLookup} {missing : String}
    {current : Checkpoint} {command : ControllerCommand} {nowMs : Nat} {effect : CommandEffect}
    (hclaim : current.claimLive nowMs = true → command.command = .cancel)
    (h : transformByCommand clock lookup missing current command nowMs = .ok effect) :
    validateCheckpoint effect.checkpoint = .ok () ∧
      CommandCase current command nowMs effect.checkpoint := by
  simp only [transformByCommand, bind_eq_ok] at h
  obtain ⟨updated, hupdated, h⟩ := h
  have hidle (hcommand : command.command ≠ .cancel) : current.claimLive nowMs = false := by
    by_contra hlive
    exact hcommand (hclaim (by simpa using hlive))
  have hkept (hcancel : command.command ≠ .cancel) (hsuspend : command.command ≠ .suspend) :
      updated = current := by
    rcases releaseExpiredClaim_eq_ok hupdated with ⟨_, h, _⟩ | ⟨_, h, _⟩ | ⟨_, hsame⟩
    · exact absurd h hcancel
    · exact absurd h hsuspend
    · exact hsame
  split at h
  · rename_i answer hcommand
    obtain ⟨hvalid, hstatus, status, suspendedOrigin, hfailed, heffect⟩ :=
      applyHostResponse_eq_ok h
    have hbase := hkept (by simp [hcommand]) (by simp [hcommand])
    refine ⟨hvalid, ?_⟩
    rw [heffect, hbase]
    have hcase : CommandCase current command nowMs _ :=
      .moved current status none suspendedOrigin [] (hidle (by simp [hcommand]))
        (.inl ⟨rfl, hstatus.imp id .inl⟩) hfailed
    rwa [List.append_nil] at hcase
  · rename_i hcommand
    obtain ⟨hvalid, origin, event, heffect⟩ := applySuspend_eq_ok h
    have hlive := hidle (by simp [hcommand])
    refine ⟨hvalid, ?_⟩
    rw [heffect]
    rcases releaseExpiredClaim_eq_ok hupdated with ⟨_, h, _⟩ | ⟨_, _, rfl⟩ | ⟨hkept, rfl⟩
    · simp [hcommand] at h
    · exact .moved current.releaseClaim .suspended none (some origin) [event] hlive (.inr rfl)
        (by simp)
    · have hexpired : updated.claimExpired nowMs = false := by
        by_contra hexpired
        exact (hkept (by simpa using hexpired)).2 hcommand
      exact .moved updated .suspended none (some origin) [event] hlive
        (.inl ⟨rfl, .inr (.inr (claimToken_of_not_live hlive hexpired))⟩) (by simp)
  · rename_i hcommand
    obtain ⟨hvalid, hstatus, status, activeHostInteraction, event, hfailed, heffect⟩ :=
      applyResume_eq_ok h
    have hbase := hkept (by simp [hcommand]) (by simp [hcommand])
    refine ⟨hvalid, ?_⟩
    rw [heffect, hbase]
    exact .moved current status activeHostInteraction none [event]
      (hidle (by simp [hcommand])) (.inl ⟨rfl, .inr (.inl hstatus)⟩) hfailed
  · rename_i hcommand
    exact applyCancel_eq_ok hcommand hupdated h
  · rename_i hcommand
    simp only [applyAbort, bind_eq_ok, refuse_eq_ok, exists_const] at h
    obtain ⟨hvalid, _, toolJournal, eventOutbox, hevents, heffect⟩ := terminateWith_eq_ok h.2
    have hbase := hkept (by simp [hcommand]) (by simp [hcommand])
    refine ⟨hvalid, ?_⟩
    rw [hbase] at hevents
    rw [heffect, hbase]
    exact .ended current.resumeAttempt current.cancelRequested toolJournal eventOutbox _
      (hidle (by simp [hcommand])) hevents rfl rfl

end

end VvAgent
