import VvAgent.Checkpoint.Observations
import VvAgent.Resume.BudgetEvidence
import VvAgent.Store.ToolReceipt

/-!
Closing a run whose tools have not all answered. A cancel or abort command and a claimed
finalization under a closure error all go through `close_unresolved_tools`: every open tool
entry is failed and gets an observation, the aborted cycle gets an event ahead of the events
that end the run, and the observations go into the terminal result. The main theorem says
what the stored record then reports, operation by operation.
-/

namespace VvAgent
open Lib Lib.Outcome

section
variable [Runtime]

/-! The observations of a terminal value. -/

namespace TerminalValue

/-- The observations a terminal result lists. -/
def observations (value : TerminalValue) : List Json :=
  (value.value.get? "resume_observations" >>= Json.asArray?).getD []

end TerminalValue

/-- The reader of terminal results gives back nothing but the value it was given: it accepts
a value only when the result it reads is written as that value. -/
def FaithfulReader : Prop :=
  ∀ value result, Runtime.recognizeResult value = some result → result.toDict = value

omit [Runtime] in
theorem observationKey_toValue (observation : ResumeObservation) :
    observationKey observation.toValue = some observation.key := by
  obtain ⟨operationId, kind, cycleIndex, state, risk, support⟩ := observation
  cases kind <;> rfl

omit [Runtime] in
theorem resumeObservation_toValue_injective :
    Function.Injective ResumeObservation.toValue := by
  intro first second hsame
  have hread := congrArg ResumeObservation.fromValue hsame
  rw [first.fromValue_toValue, second.fromValue_toValue] at hread
  exact Option.some.inj hread

theorem observations_decoded (result : AgentResult) :
    (TerminalValue.decoded result).observations =
      result.resumeObservations.map ResumeObservation.toValue := by
  have hget : result.toDict.get? "resume_observations" =
      some (.arr (result.resumeObservations.map ResumeObservation.toValue)) := by
    simp [AgentResult.toDict, Json.get?]
  change ((result.toDict.get? "resume_observations") >>= Json.asArray?).getD [] = _
  rw [hget]
  rfl

theorem hasObservations_iff (value : TerminalValue) :
    value.hasObservations = true ↔ value.observations ≠ [] := by
  cases value with
  | decoded result =>
      rw [observations_decoded]
      cases hlist : result.resumeObservations with
      | nil => simp [TerminalValue.hasObservations, hlist]
      | cons first rest => simp [TerminalValue.hasObservations, hlist]
  | foreign value =>
      change Option.any _ (value.get? "resume_observations" >>= Json.asArray?) = true ↔
        (value.get? "resume_observations" >>= Json.asArray?).getD [] ≠ []
      cases value.get? "resume_observations" >>= Json.asArray? with
      | none => simp
      | some items => cases items <;> simp

/-- Writing observations into a result merges them with those it lists. -/
theorem observe_observations (hfaithful : FaithfulReader) (closures : List ResumeObservation)
    {value : TerminalValue} (hobject : value.value.isObject = true) :
    (value.observe closures).observations =
      mergeObservations observationKey value.observations
        (closures.map ResumeObservation.toValue) := by
  have hkeys : (fun observation : ResumeObservation => observationKey observation.toValue) =
      fun observation => some observation.key := by
    funext observation
    exact observationKey_toValue observation
  have hedited (members : JsonObject) (items : List Json) :
      ((Json.obj (insertMember "resume_observations" (.arr items) members)).get?
        "resume_observations" >>= Json.asArray?).getD [] = items := by
    change (List.lookup "resume_observations" (insertMember _ _ members) >>=
      Json.asArray?).getD [] = items
    rw [lookup_insertMember, if_pos rfl]
    rfl
  cases value with
  | decoded before =>
      rw [TerminalValue.observe, observations_decoded, observations_decoded,
        mergeObservations_map, hkeys]
  | foreign value =>
      cases value with
      | obj members =>
          rw [TerminalValue.observe]
          split
          · rename_i read hread
            change ((read.toDict.get? "resume_observations") >>= Json.asArray?).getD [] = _
            rw [hfaithful _ _ hread, hedited]
            rfl
          · exact hedited members _
      | _ => cases hobject

omit [Runtime] in
theorem observe_of_not_object [Runtime] (closures : List ResumeObservation)
    {value : TerminalValue} (hobject : value.value.isObject = false) :
    value.observe closures = value := by
  cases value with
  | decoded result => cases hobject
  | foreign value =>
      cases value with
      | obj members => cases hobject
      | _ => rfl

omit [Runtime] in
theorem insertMember_insertMember (key : String) (value : Json) (members : JsonObject) :
    insertMember key value (insertMember key value members) = insertMember key value members := by
  induction members with
  | nil => simp [insertMember]
  | cons head rest ih =>
      obtain ⟨name, item⟩ := head
      by_cases hlt : key < name
      · simp [insertMember, hlt]
      · by_cases heq : key = name
        · subst heq
          simp [insertMember]
        · simp [insertMember, hlt, heq, ih]

/-- Writing nothing into a result whose observations were merged leaves it alone. -/
theorem observe_again (hfaithful : FaithfulReader) (closures : List ResumeObservation)
    (value : TerminalValue) : (value.observe closures).observe [] = value.observe closures := by
  cases value with
  | decoded before =>
      simp only [TerminalValue.observe, mergeObservations_again]
  | foreign value =>
      cases value with
      | obj members =>
          have hobject : (TerminalValue.foreign (.obj members)).value.isObject = true := rfl
          have hmerged := observe_observations hfaithful closures hobject
          rw [TerminalValue.observe] at hmerged ⊢
          split at hmerged
          · rename_i read hread
            rw [observations_decoded] at hmerged
            have hkeys : (fun observation : ResumeObservation =>
                observationKey observation.toValue) = fun observation => some observation.key := by
              funext observation
              exact observationKey_toValue observation
            have hsame : (mergeObservations (fun observation : ResumeObservation =>
                some observation.key) read.resumeObservations []).map ResumeObservation.toValue =
                read.resumeObservations.map ResumeObservation.toValue := by
              rw [← hkeys, ← mergeObservations_map observationKey, hmerged]
              exact mergeObservations_again observationKey _ _
            have hread' := resumeObservation_toValue_injective.list_map hsame
            rw [TerminalValue.observe, hread']
          · rename_i hforeign
            rw [Option.bind_eq_bind] at hforeign
            rw [TerminalValue.observe]
            simp only [lookup_insertMember, if_pos, Option.bind_eq_bind, Option.bind_some,
              Json.asArray?, Option.getD_some, List.map_nil, mergeObservations_again,
              insertMember_insertMember]
            rw [hforeign]
      | _ => rfl

/-! The journal. -/

theorem closeUnresolvedTool_closed {checkpointKey : String} {entry closed : OperationJournalEntry}
    (h : closeUnresolvedTool checkpointKey entry = .ok closed) : closed.isOpen = false := by
  simp only [closeUnresolvedTool, bind_eq_ok, pure_ok, Except.ok.injEq] at h
  obtain ⟨identityKey, _, _, _, rfl⟩ := h
  rfl

/-- Nothing stays open in a journal that was closed. -/
theorem closeToolJournal_closed {checkpointKey : String}
    {journal closed : List OperationJournalEntry}
    (h : closeToolJournal checkpointKey journal = .ok closed) :
    ∀ entry ∈ closed, entry.isOpen = false := by
  induction journal generalizing closed with
  | nil =>
      rw [closeToolJournal, Except.ok.injEq] at h
      subst h
      intro entry hentry
      cases hentry
  | cons entry rest ih =>
      rw [closeToolJournal] at h
      intro other hother
      split at h
      · simp only [bind_eq_ok, pure_ok, Except.ok.injEq] at h
        obtain ⟨first, hfirst, later, hlater, rfl⟩ := h
        rcases List.mem_cons.mp hother with rfl | hother
        · exact closeUnresolvedTool_closed hfirst
        · exact ih hlater other hother
      · rename_i hopen
        simp only [ok_bind, bind_eq_ok, pure_ok, Except.ok.injEq] at h
        obtain ⟨later, hlater, rfl⟩ := h
        rcases List.mem_cons.mp hother with rfl | hother
        · exact (Bool.not_eq_true _).mp hopen
        · exact ih hlater other hother

theorem closeToolJournal_of_closed (checkpointKey : String)
    {journal : List OperationJournalEntry} (h : ∀ entry ∈ journal, entry.isOpen = false) :
    closeToolJournal checkpointKey journal = .ok journal := by
  induction journal with
  | nil => rfl
  | cons entry rest ih =>
      have hfirst := h entry List.mem_cons_self
      have hrest := ih fun other hother => h other (List.mem_cons_of_mem _ hother)
      rw [closeToolJournal, hfirst, hrest]
      rfl

omit [Runtime] in
theorem filter_isOpen_of_closed {journal : List OperationJournalEntry}
    (h : ∀ entry ∈ journal, entry.isOpen = false) :
    (journal.filter fun entry => entry.isOpen) = [] := by
  rw [List.filter_eq_nil_iff]
  intro entry hentry hopen
  rw [h entry hentry] at hopen
  cases hopen

/-! The event of the aborted cycle. -/

omit [Runtime] in
theorem find?_insertBefore {α : Type} {p q : α → Bool} {entry : α} (l : List α)
    (hnone : l.find? q = none) (hentry : q entry = true) :
    (insertBefore p entry l).find? q = some entry := by
  induction l with
  | nil => rw [insertBefore, List.find?_cons, hentry]
  | cons a rest ih =>
      rw [List.find?_cons] at hnone
      split at hnone
      · cases hnone
      · rename_i hhead
        rw [insertBefore]
        split
        · rw [List.find?_cons, hentry]
        · rw [List.find?_cons, hhead]
          exact ih hnone

/-- The id of that event. -/
def cycleAbortedId (reason : String) : String := "evt_cycle_aborted_" ++ reason

/-- Its members, in key order. -/
def cycleAbortedMembers (checkpoint : Checkpoint) (cycle : UInt32) (logicalCycle : Nat)
    (reason : String) (createdAt : Json) : JsonObject :=
  [("agent_name", .str checkpoint.taskId), ("created_at", createdAt),
    ("cycle_index", .nat cycle.toNat), ("event_id", .str (cycleAbortedId reason)),
    ("logical_cycle", .nat logicalCycle), ("reason", .str reason),
    ("run_id", .str checkpoint.rootRunId), ("trace_id", .str checkpoint.traceId),
    ("type", .str "cycle_aborted"), ("version", .str "v5")]

omit [Runtime] in
theorem cycleAbortedId_text (reason : String) : isBlank (cycleAbortedId reason) = false := by
  unfold cycleAbortedId
  simp [isBlank, isWhitespace]

omit [Runtime] in
theorem cycleAborted_event (clock : Clock) (checkpoint : Checkpoint) (cycle : UInt32)
    (logicalCycle : Nat) (reason : String) :
    ∃ event, checkpointEvent clock checkpoint (some cycle) (cycleAbortedId reason)
        (.cycleAborted logicalCycle reason) = .ok event ∧
      event.toValue = .obj (cycleAbortedMembers checkpoint cycle logicalCycle reason
        (.num (clock (cycleAbortedId reason)))) := by
  refine ⟨{ RunEvent.new (clock (cycleAbortedId reason)) checkpoint.rootRunId checkpoint.traceId
      checkpoint.taskId (some cycle) (.cycleAborted logicalCycle reason) with
    eventId := cycleAbortedId reason }, ?_, rfl⟩
  rw [checkpointEvent, RunEvent.withEventId, cycleAbortedId_text]
  rfl

omit [Runtime] in
/-- Of the moment at which it was created, the reader asks only that it is one. -/
theorem acceptsEvent_cycleAborted [Platform] {checkpoint : Checkpoint} {cycle : UInt32}
    {logicalCycle : Nat} {reason : String} {before createdAt : Json}
    (h : acceptsEvent (.obj (cycleAbortedMembers checkpoint cycle logicalCycle reason before)) =
      true)
    (htime : isTimestamp createdAt = true) :
    acceptsEvent (.obj (cycleAbortedMembers checkpoint cycle logicalCycle reason createdAt)) =
      true := by
  have hsplit (time : Json) :
      acceptsEvent (.obj (cycleAbortedMembers checkpoint cycle logicalCycle reason time)) =
        (((isText (.str (cycleAbortedId reason)) && (isText (.str checkpoint.rootRunId) &&
            (isText (.str checkpoint.traceId) && (isTimestamp time && true)))) &&
          (isU32 (.nat cycle.toNat) && (true && true))) &&
        ((isU64 (.nat logicalCycle) &&
          (oneOf ["cancelled", "operator_abort", "lease_lost"] (.str reason) && true)) && true) &&
        cycleAbortedCheck (cycleAbortedMembers checkpoint cycle logicalCycle reason time)
          (Json.readU32 (.nat cycle.toNat))) := rfl
  have hcheck (time : Json) :
      cycleAbortedCheck (cycleAbortedMembers checkpoint cycle logicalCycle reason time)
          (Json.readU32 (.nat cycle.toNat)) =
        (Json.readU32 (.nat cycle.toNat)).any fun cycle =>
          decide (logicalCycle = cycle.toNat + 1) := rfl
  rw [hsplit, hcheck] at h ⊢
  rw [htime]
  simp only [Bool.and_eq_true] at h ⊢
  tauto

omit [Runtime] in
theorem cycleAborted_isIJson {checkpoint : Checkpoint} {cycle : UInt32} {logicalCycle : Nat}
    {reason : String} {before createdAt : Json}
    (h : (Json.obj (cycleAbortedMembers checkpoint cycle logicalCycle reason before)).isIJson =
      true)
    (hsafe : createdAt.isIJson = true) :
    (Json.obj (cycleAbortedMembers checkpoint cycle logicalCycle reason createdAt)).isIJson =
      true := by
  have hsplit (time : Json) :
      (Json.obj (cycleAbortedMembers checkpoint cycle logicalCycle reason time)).isIJson =
        (true && (time.isIJson && ((Json.nat cycle.toNat).isIJson && (true &&
          ((Json.nat logicalCycle).isIJson && (true && (true && (true && (true && (true &&
            true)))))))))) := rfl
  rw [hsplit] at h ⊢
  rw [hsafe]
  simp only [Bool.and_eq_true] at h ⊢
  tauto

theorem pending_built {eventId : String} {event : Json} (entry : EventOutboxEntry) :
    EventOutboxEntry.pending eventId event = .ok entry ↔
      ∃ digest, eventPayloadDigest event = .ok digest ∧
        entry = ⟨eventId, digest, "pending", event, none⟩ ∧ entry.validate = .ok () := by
  simp only [EventOutboxEntry.pending, bind_eq_ok, pure_ok, Except.ok.injEq]
  constructor
  · rintro ⟨digest, hdigest, _, hvalid, rfl⟩
    exact ⟨digest, hdigest, rfl, hvalid⟩
  · rintro ⟨digest, hdigest, rfl, hvalid⟩
    exact ⟨digest, hdigest, (), hvalid, rfl⟩

theorem verifyPayload_eq_ok (entry : EventOutboxEntry) :
    entry.verifyPayload = .ok () ↔
      entry.validate = .ok () ∧ eventPayloadDigest entry.event = .ok entry.payloadDigest := by
  rw [EventOutboxEntry.verifyPayload, unit_guard_bind]
  simp only [bind_eq_ok, refuse_eq_ok, bne_eq_false_iff_eq]
  constructor
  · rintro ⟨hvalid, digest, hdigest, rfl⟩
    exact ⟨hvalid, hdigest⟩
  · rintro ⟨hvalid, hdigest⟩
    exact ⟨hvalid, _, hdigest, rfl⟩

/-- The outbox holds, under the id of the event, the event itself as of some moment, in an
entry whose digest is its own. -/
structure Announced (outbox : List EventOutboxEntry) (checkpoint : Checkpoint) (cycle : UInt32)
    (logicalCycle : Nat) (reason : String) (kept : EventOutboxEntry) (createdAt : Json) :
    Prop where
  found : outbox.find? (fun entry => entry.eventId == cycleAbortedId reason) = some kept
  event : kept.event =
    .obj (cycleAbortedMembers checkpoint cycle logicalCycle reason createdAt)
  verified : kept.verifyPayload = .ok ()
  pending : EventOutboxEntry.pending (cycleAbortedId reason) kept.event =
    .ok ⟨cycleAbortedId reason, kept.payloadDigest, "pending", kept.event, none⟩

theorem Announced.eventType {outbox : List EventOutboxEntry} {checkpoint : Checkpoint}
    {cycle : UInt32} {logicalCycle : Nat} {reason : String} {kept : EventOutboxEntry}
    {createdAt : Json} (h : Announced outbox checkpoint cycle logicalCycle reason kept createdAt) :
    VvAgent.eventType kept.event = some "cycle_aborted" := by
  rw [h.event]
  rfl

theorem Announced.eventId {outbox : List EventOutboxEntry} {checkpoint : Checkpoint}
    {cycle : UInt32} {logicalCycle : Nat} {reason : String} {kept : EventOutboxEntry}
    {createdAt : Json} (h : Announced outbox checkpoint cycle logicalCycle reason kept createdAt) :
    kept.eventId = cycleAbortedId reason := by
  simpa using List.find?_some h.found

/-- The event as of one moment, under the moment of another. -/
theorem redate_cycleAborted {checkpoint : Checkpoint} {cycle : UInt32} {logicalCycle : Nat}
    {reason digest : String} {before createdAt : Json} (redated : EventOutboxEntry) :
    redate ⟨cycleAbortedId reason, digest, "pending",
        .obj (cycleAbortedMembers checkpoint cycle logicalCycle reason before), none⟩ createdAt =
      .ok redated ↔
    EventOutboxEntry.pending (cycleAbortedId reason)
      (.obj (cycleAbortedMembers checkpoint cycle logicalCycle reason createdAt)) =
      .ok redated := by
  have hevent : insertMember "created_at" createdAt
      (cycleAbortedMembers checkpoint cycle logicalCycle reason before) =
      cycleAbortedMembers checkpoint cycle logicalCycle reason createdAt := rfl
  simp only [redate, EventOutboxEntry.pending, Json.asObject?, require_some, ok_bind, hevent]

/-- An announced event offered again, as of another moment, is in the outbox already. -/
theorem Announced.again {outbox : List EventOutboxEntry} {checkpoint : Checkpoint}
    {cycle : UInt32} {logicalCycle : Nat} {reason : String} {kept : EventOutboxEntry}
    {createdAt : Json} (h : Announced outbox checkpoint cycle logicalCycle reason kept createdAt)
    (moment : JsonNumber) (hmoment : moment.isMoment = true) :
    ∃ entry, EventOutboxEntry.pending (cycleAbortedId reason)
        (.obj (cycleAbortedMembers checkpoint cycle logicalCycle reason (.num moment))) =
          .ok entry ∧
      appendEventOutboxOnce outbox entry = .ok outbox := by
  rw [JsonNumber.isMoment, Bool.and_eq_true] at hmoment
  have hpending := h.pending
  rw [h.event, pending_event_iff _ (cycleAbortedId_text reason) rfl] at hpending
  obtain ⟨hsafe, haccepts, _⟩ := hpending
  refine ⟨_, (pending_event_iff _ (cycleAbortedId_text reason) rfl).mpr
    ⟨cycleAborted_isIJson hsafe hmoment.2, acceptsEvent_cycleAborted haccepts hmoment.1, rfl⟩, ?_⟩
  have hcreated : kept.event.get? "created_at" = some createdAt := by
    rw [h.event]
    rfl
  have hredated := h.pending
  rw [h.event, ← redate_cycleAborted] at hredated
  unfold appendEventOutboxOnce
  simp only [h.found, h.verified, ok_bind, hcreated]
  rw [hredated, ok_bind]
  simp only [h.event, bne_self_eq_false, Bool.or_self, refuse_false]
  rfl

/-- An event that was taken into the outbox is announced there. A new one stands ahead of the
events that end the run; one that was there before stays where it was. -/
theorem appendEventOnce_announces {record updated checkpoint : Checkpoint} {cycle : UInt32}
    {logicalCycle : Nat} {reason : String} {createdAt : Json}
    (h : appendEventOnce record (cycleAbortedId reason)
      (.obj (cycleAbortedMembers checkpoint cycle logicalCycle reason createdAt)) =
        .ok updated) :
    ∃ kept createdAt', Announced updated.eventOutbox checkpoint cycle logicalCycle reason kept
        createdAt' ∧
      (kept ∈ record.eventOutbox ∧ updated = record ∨
        (∀ entry ∈ record.eventOutbox, entry.eventId ≠ cycleAbortedId reason) ∧
        updated = { record with
          eventOutbox := insertBefore isTerminalEvent kept record.eventOutbox }) := by
  simp only [appendEventOnce, bind_eq_ok] at h
  obtain ⟨candidate, hpending, extended, hextended, h⟩ := h
  obtain ⟨digest, hdigest, rfl, hvalid⟩ := (pending_built candidate).mp hpending
  unfold appendEventOutboxOnce at hextended
  split at hextended
  · rename_i hnone
    obtain rfl := Except.ok.inj hextended
    rw [if_neg (by rw [List.length_append, List.length_singleton]; omega), pure_ok,
      Except.ok.injEq] at h
    have hfresh : ∀ entry ∈ record.eventOutbox, entry.eventId ≠ cycleAbortedId reason := by
      intro entry hentry hsame
      exact absurd (beq_iff_eq.mpr hsame) (List.find?_eq_none.mp hnone entry hentry)
    refine ⟨_, createdAt, ⟨?_, rfl, (verifyPayload_eq_ok _).mpr ⟨hvalid, hdigest⟩, hpending⟩,
      .inr ⟨hfresh, h.symm⟩⟩
    rw [← h]
    exact find?_insertBefore _ hnone (beq_self_eq_true _)
  · rename_i kept hfound
    simp only [unit_guard_bind] at hextended
    obtain ⟨hverified, hextended⟩ := hextended
    have hmem := List.mem_of_find?_eq_some hfound
    split at hextended
    · rename_i created hcreated
      simp only [bind_eq_ok, refuse_eq_ok, exists_const, pure_ok, Except.ok.injEq,
        Bool.or_eq_false_iff, bne_eq_false_iff_eq] at hextended
      obtain ⟨redated, hredated, ⟨hsame, hsameDigest⟩, rfl⟩ := hextended
      rw [if_pos rfl, pure_ok, Except.ok.injEq] at h
      subst h
      rw [redate_cycleAborted] at hredated
      obtain ⟨digest', _, hbuilt, _⟩ := (pending_built redated).mp hredated
      have hkept : kept.event =
          .obj (cycleAbortedMembers checkpoint cycle logicalCycle reason created) := by
        rw [hsame, hbuilt]
      refine ⟨kept, created, ⟨hfound, hkept, hverified, ?_⟩, .inl ⟨hmem, rfl⟩⟩
      rw [hkept, hredated, hsameDigest, hbuilt]
    · simp only [ok_bind, bind_eq_ok, refuse_eq_ok, exists_const, pure_ok, Except.ok.injEq,
        Bool.or_eq_false_iff, bne_eq_false_iff_eq] at hextended
      obtain ⟨⟨hsame, hsameDigest⟩, rfl⟩ := hextended
      rw [if_pos rfl, pure_ok, Except.ok.injEq] at h
      subst h
      refine ⟨kept, createdAt, ⟨hfound, hsame, hverified, ?_⟩, .inl ⟨hmem, rfl⟩⟩
      rw [hsame, hsameDigest]
      exact hpending

/-! Closing. -/

namespace Checkpoint

/-- The cycle that is under way. -/
def logicalCycle (checkpoint : Checkpoint) : Nat :=
  checkpoint.claimedCycle.getD (checkpoint.cycleIndex + 1)

/-- The tool calls that have no definitive receipt. -/
def openTools (checkpoint : Checkpoint) : List OperationJournalEntry :=
  checkpoint.toolJournal.filter (·.isOpen)

/-- Whether a closure has something to tell: a tool to close, or an observation that the
result already carries. -/
def hasClosureEvidence (checkpoint : Checkpoint) : Bool :=
  !checkpoint.openTools.isEmpty || checkpoint.terminalResult.any (·.hasObservations)

end Checkpoint

/-- What closing the open tools makes of a record. -/
theorem closeUnresolvedTools_spec {clock : Clock} {checkpoint closed : Checkpoint}
    {reason : String} (h : closeUnresolvedTools clock checkpoint reason = .ok closed) :
    (checkpoint.logicalCycle == 0 || decide (maxWireInteger < checkpoint.logicalCycle)) = false ∧
    ∃ toolJournal eventOutbox,
      closeToolJournal checkpoint.checkpointKey checkpoint.toolJournal = .ok toolJournal ∧
      closed = { checkpoint with
        toolJournal, eventOutbox
        terminalResult := checkpoint.terminalResult.map
          (·.observe (checkpoint.openTools.map unknownToolObservation)) } ∧
      (checkpoint.hasClosureEvidence = false → eventOutbox = checkpoint.eventOutbox) ∧
      (checkpoint.hasClosureEvidence = true → ∃ cycle kept createdAt,
        eventCycle (checkpoint.logicalCycle - 1) "cycle event cycle is too large" = .ok cycle ∧
        Announced eventOutbox checkpoint cycle checkpoint.logicalCycle reason kept createdAt ∧
        (kept ∈ checkpoint.eventOutbox ∧ eventOutbox = checkpoint.eventOutbox ∨
          (∀ entry ∈ checkpoint.eventOutbox, entry.eventId ≠ cycleAbortedId reason) ∧
          eventOutbox = insertBefore isTerminalEvent kept checkpoint.eventOutbox)) := by
  simp only [closeUnresolvedTools, bind_eq_ok, refuse_eq_ok, exists_const] at h
  obtain ⟨hcycle, toolJournal, hjournal, h⟩ := h
  refine ⟨hcycle, ?_⟩
  split at h
  · rename_i hevidence
    simp only [bind_eq_ok, pure_ok, Except.ok.injEq] at h
    obtain ⟨cycle, heventCycle, event, hevent, announced, hannounced, rfl⟩ := h
    obtain ⟨event', hevent', hvalue⟩ := cycleAborted_event clock { checkpoint with toolJournal }
      cycle checkpoint.logicalCycle reason
    obtain rfl : event' = event := Except.ok.inj (hevent'.symm.trans hevent)
    have happended : appendEventOnce { checkpoint with toolJournal } (cycleAbortedId reason)
        (.obj (cycleAbortedMembers checkpoint cycle checkpoint.logicalCycle reason
          (.num (clock (cycleAbortedId reason))))) = .ok announced := by
      rw [← hannounced, hvalue]
      rfl
    obtain ⟨kept, createdAt, hkept, hwhere⟩ := appendEventOnce_announces happended
    refine ⟨toolJournal, announced.eventOutbox, hjournal, ?_, ?_, ?_⟩
    · rcases hwhere with ⟨_, rfl⟩ | ⟨_, rfl⟩ <;> rfl
    · intro hnone
      rw [Checkpoint.hasClosureEvidence, Checkpoint.openTools, hevidence] at hnone
      cases hnone
    · intro _
      refine ⟨cycle, kept, createdAt, heventCycle, hkept, ?_⟩
      rcases hwhere with ⟨hmem, rfl⟩ | ⟨hfresh, rfl⟩
      · exact .inl ⟨hmem, rfl⟩
      · exact .inr ⟨hfresh, rfl⟩
  · rename_i hevidence
    simp only [ok_bind, pure_ok, Except.ok.injEq] at h
    subst h
    refine ⟨toolJournal, checkpoint.eventOutbox, hjournal, rfl, fun _ => rfl, ?_⟩
    intro hsome
    exact absurd hsome hevidence

theorem closed_hasClosureEvidence (hfaithful : FaithfulReader) {clock : Clock}
    {checkpoint closed : Checkpoint} {reason : String}
    (h : closeUnresolvedTools clock checkpoint reason = .ok closed)
    (hclosed : closed.hasClosureEvidence = true) : checkpoint.hasClosureEvidence = true := by
  obtain ⟨_, toolJournal, eventOutbox, hjournal, rfl, _, _⟩ := closeUnresolvedTools_spec h
  have hnone : (toolJournal.filter fun entry => entry.isOpen) = [] :=
    filter_isOpen_of_closed (closeToolJournal_closed hjournal)
  simp only [Checkpoint.hasClosureEvidence, Checkpoint.openTools, hnone, List.isEmpty_nil,
    Bool.not_true, Bool.false_or, Option.any_map] at hclosed
  cases hresult : checkpoint.terminalResult with
  | none =>
      rw [hresult] at hclosed
      cases hclosed
  | some value =>
      rw [hresult] at hclosed
      change (value.observe (checkpoint.openTools.map unknownToolObservation)).hasObservations =
        true at hclosed
      rw [hasObservations_iff] at hclosed
      by_contra hquiet
      simp only [Checkpoint.hasClosureEvidence, hresult, Option.any_some, Bool.or_eq_true,
        Bool.not_eq_true', List.isEmpty_eq_false_iff, hasObservations_iff, not_or, not_not,
        ne_eq] at hquiet
      obtain ⟨hopen, hempty⟩ := hquiet
      cases hobject : value.value.isObject with
      | true =>
          rw [observe_observations hfaithful _ hobject, hopen, hempty] at hclosed
          exact hclosed (by simp [mergeObservations, dedupBy])
      | false =>
          rw [observe_of_not_object _ hobject] at hclosed
          exact hclosed hempty

/-- Closing a record a second time changes nothing, whenever it is done. -/
theorem closeUnresolvedTools_again (hfaithful : FaithfulReader) {clock : Clock}
    {checkpoint closed : Checkpoint} {reason : String}
    (h : closeUnresolvedTools clock checkpoint reason = .ok closed) (again : Clock)
    (hmoment : (again (cycleAbortedId reason)).isMoment = true) :
    closeUnresolvedTools again closed reason = .ok closed := by
  have hevidence := closed_hasClosureEvidence hfaithful h
  obtain ⟨hcycle, toolJournal, eventOutbox, hjournal, rfl, _, hannounced⟩ :=
    closeUnresolvedTools_spec h
  have hclosed := closeToolJournal_closed hjournal
  have hnone : (toolJournal.filter fun entry => entry.isOpen) = [] :=
    filter_isOpen_of_closed hclosed
  have hresult : (checkpoint.terminalResult.map
      (·.observe (checkpoint.openTools.map unknownToolObservation))).map (·.observe []) =
      checkpoint.terminalResult.map
        (·.observe (checkpoint.openTools.map unknownToolObservation)) := by
    rw [Option.map_map]
    congr 1
    funext value
    exact observe_again hfaithful _ value
  unfold closeUnresolvedTools
  change (refuse (checkpoint.logicalCycle == 0 ||
    decide (maxWireInteger < checkpoint.logicalCycle)) _ >>= _) = _
  rw [hcycle, refuse_false, ok_bind]
  dsimp only
  rw [closeToolJournal_of_closed _ hclosed, ok_bind, hnone]
  split
  · rename_i hshown
    obtain ⟨cycle, kept, createdAt, heventCycle, hkept, _⟩ := hannounced (hevidence (by
      simpa only [Checkpoint.hasClosureEvidence, Checkpoint.openTools, hnone] using hshown))
    obtain ⟨entry, hpending, happended⟩ := hkept.again _ hmoment
    obtain ⟨event, hevent, hvalue⟩ := cycleAborted_event again
      { checkpoint with
        toolJournal, eventOutbox
        terminalResult := checkpoint.terminalResult.map
          (·.observe (checkpoint.openTools.map unknownToolObservation)) }
      cycle checkpoint.logicalCycle reason
    have honce (record : Checkpoint) (houtbox : record.eventOutbox = eventOutbox) :
        appendEventOnce record (cycleAbortedId reason) event.toValue = .ok record := by
      have hoffered : EventOutboxEntry.pending (cycleAbortedId reason) event.toValue =
          .ok entry := by
        rw [hvalue]
        exact hpending
      rw [appendEventOnce, hoffered, ok_bind, houtbox, happended, ok_bind, if_pos rfl]
      rfl
    have hnext : eventCycle (checkpoint.claimedCycle.getD (checkpoint.cycleIndex + 1) - 1)
        "cycle event cycle is too large" = .ok cycle := heventCycle
    unfold cycleAbortedId Checkpoint.logicalCycle at hevent
    unfold cycleAbortedId at honce
    rw [hnext, ok_bind, hevent, ok_bind, honce _ rfl, ok_bind, List.map_nil, hresult]
    rfl
  · rw [ok_bind, List.map_nil, hresult]
    rfl

/-! What a closure reports. -/

/-- Strictly sorted by operation, so no operation is reported twice. -/
def SortedByOperation (observations : List Json) : Prop :=
  ∃ keys : List (String × Nat × Nat),
    observations.map observationKey = keys.map some ∧ keys.Pairwise keyLt

/-- What the stored record tells about the operations of `before` whose outcome is unknown, when
the terminal result came with the observations `given`. -/
structure Reports (before : Checkpoint) (given : List Json) (reason : String)
    (updated : Checkpoint) : Prop where
  observations : ∃ value, updated.terminalResult = some value ∧
    SortedByOperation value.observations ∧
    ∀ operation,
      (value.observations.find? fun observation => observationKey observation = some operation) =
        (before.openTools.map (ResumeObservation.toValue ∘ unknownToolObservation) ++
          given).find? fun observation => observationKey observation = some operation
  aborted : before.openTools ≠ [] ∨ given ≠ [] → ∃ front entry back,
    updated.eventOutbox = front ++ entry :: back ∧ entry.eventId = cycleAbortedId reason ∧
      eventType entry.event = some "cycle_aborted" ∧
      (∀ other ∈ front ++ back, other.eventId ≠ cycleAbortedId reason) ∧
      (entry ∈ before.eventOutbox ∨ ∀ other ∈ front, isTerminalEvent other = false)
  quiet : ∀ entry ∈ updated.eventOutbox, eventType entry.event = some "cycle_aborted" →
    entry ∈ before.eventOutbox ∨
      entry.eventId = cycleAbortedId reason ∧ (before.openTools ≠ [] ∨ given ≠ [])

/-- The writes that end a run whose tools may still be open: the record before, the observations
that the terminal result brings along, the reason, and the record that is stored. A finalization
closes the caller's snapshot after the stored events were merged into it. -/
inductive TerminalClosure (clock : Clock) :
    Checkpoint → List Json → String → Checkpoint → Prop
  | cancel (lookup : HostRecordLookup) (missing : String) (current : Checkpoint)
      (command : ControllerCommand) (nowMs : Nat) (effect : CommandEffect)
      (hcommand : command.command = .cancel) (hlive : current.claimLive nowMs = false)
      (h : transformByCommand clock lookup missing current command nowMs = .ok effect) :
      TerminalClosure clock current [] "cancelled" effect.checkpoint
  | abort (lookup : HostRecordLookup) (missing : String) (current : Checkpoint)
      (command : ControllerCommand) (nowMs : Nat) (effect : CommandEffect)
      (hcommand : command.command = .abort)
      (h : transformByCommand clock lookup missing current command nowMs = .ok effect) :
      TerminalClosure clock current
        (((current.journals.find? fun entry => entry.state == .ambiguous).map fun entry =>
          (abortObservation entry).toValue).toList)
        "operator_abort" effect.checkpoint
  | finalizeClaimed (current snapshot merged updated : Checkpoint) (claimToken reason : String)
      (expectedRevision : Nat) (value : TerminalValue)
      (hmerged : mergeAuthoritativeFields current snapshot = .ok merged)
      (hvalue : merged.terminalResult = some value)
      (hreason : terminalClosureReason merged = some reason)
      (h : prepareFinalizeClaimed clock current snapshot claimToken expectedRevision =
        .ok (some updated)) :
      TerminalClosure clock merged value.observations reason updated

omit [Runtime] in
theorem observationsOrdered_pairwise {observations : List ResumeObservation}
    (h : AgentResult.observationsOrdered observations = true) :
    (observations.map ResumeObservation.key).Pairwise keyLt := by
  induction observations with
  | nil => exact .nil
  | cons first rest ih =>
      cases rest with
      | nil => exact List.pairwise_singleton _ _
      | cons second later =>
          rw [AgentResult.observationsOrdered, Bool.and_eq_true, Bool.and_eq_true,
            Bool.not_eq_true'] at h
          obtain ⟨⟨_, hbefore⟩, hrest⟩ := h
          have hlater := ih hrest
          rw [List.map_cons, List.pairwise_cons]
          refine ⟨?_, hlater⟩
          intro key hkey
          rw [List.map_cons, List.pairwise_cons] at hlater
          rw [List.map_cons, List.mem_cons] at hkey
          rcases hkey with rfl | hkey
          · exact hbefore
          · exact keyLt_trans hbefore (hlater.1 key hkey)

/-- The terminal result of a valid record is read, and lists its observations in order. -/
theorem sortedByOperation_of_valid {checkpoint : Checkpoint} {value : TerminalValue}
    (hvalid : validateCheckpoint checkpoint = .ok ())
    (hvalue : checkpoint.terminalResult = some value) :
    ∃ result, value = .decoded result ∧ SortedByOperation value.observations := by
  rw [validateCheckpoint_eq_ok] at hvalid
  have hterminal : validateTerminalResult checkpoint = .ok () := by tauto
  simp only [validateTerminalResult, hvalue, bind_eq_ok] at hterminal
  obtain ⟨_, _, result, hread, _⟩ := hterminal
  cases value with
  | foreign json => cases hread
  | decoded read =>
      refine ⟨read, rfl, read.resumeObservations.map ResumeObservation.key, ?_, ?_⟩
      · rw [observations_decoded, List.map_map, List.map_map]
        apply List.map_congr_left
        intro observation _
        exact observationKey_toValue observation
      · apply observationsOrdered_pairwise
        have hformed : read.wellFormed = true := by
          by_contra hbad
          rw [TerminalValue.read, if_neg hbad] at hread
          cases hread
        simp only [AgentResult.wellFormed, Bool.and_eq_true] at hformed
        tauto

omit [Runtime] in
theorem insertBefore_split {α : Type} (p : α → Bool) (entry : α) (l : List α) :
    ∃ front back, l = front ++ back ∧ insertBefore p entry l = front ++ entry :: back ∧
      ∀ other ∈ front, p other = false := by
  induction l with
  | nil => exact ⟨[], [], rfl, rfl, fun other hother => absurd hother List.not_mem_nil⟩
  | cons a rest ih =>
      rw [insertBefore]
      split
      · exact ⟨[], a :: rest, rfl, rfl, fun other hother => absurd hother List.not_mem_nil⟩
      · rename_i hhead
        obtain ⟨front, back, hrest, hinserted, hfront⟩ := ih
        refine ⟨a :: front, back, by rw [hrest, List.cons_append], by rw [hinserted]; rfl, ?_⟩
        intro other hother
        rcases List.mem_cons.mp hother with rfl | hother
        · exact (Bool.not_eq_true _).mp hhead
        · exact hfront other hother

/-- The outbox of a record that was closed: the event of the aborted cycle, if there is
something to tell, and no other event that was not there before. -/
theorem closed_outbox {clock : Clock} {record closed : Checkpoint} {reason : String}
    (h : closeUnresolvedTools clock record reason = .ok closed) :
    (record.hasClosureEvidence = true → ∃ front entry back,
      closed.eventOutbox = front ++ entry :: back ∧ entry.eventId = cycleAbortedId reason ∧
        eventType entry.event = some "cycle_aborted" ∧
        (entry ∈ record.eventOutbox ∨ ∀ other ∈ front, isTerminalEvent other = false)) ∧
      ∀ entry ∈ closed.eventOutbox, entry ∈ record.eventOutbox ∨
        entry.eventId = cycleAbortedId reason ∧ record.hasClosureEvidence = true := by
  obtain ⟨_, toolJournal, eventOutbox, _, rfl, hquiet, hannounced⟩ := closeUnresolvedTools_spec h
  constructor
  · intro hevidence
    obtain ⟨cycle, kept, createdAt, _, hkept, hwhere⟩ := hannounced hevidence
    have hid := hkept.eventId
    rcases hwhere with ⟨hmem, hsame⟩ | ⟨hfresh, hinserted⟩
    · obtain ⟨front, back, hsplit⟩ := List.append_of_mem hmem
      exact ⟨front, kept, back, hsame.trans hsplit, hid, hkept.eventType, .inl hmem⟩
    · obtain ⟨front, back, _, hsplit, hfront⟩ :=
        insertBefore_split isTerminalEvent kept record.eventOutbox
      exact ⟨front, kept, back, hinserted.trans hsplit, hid, hkept.eventType, .inr hfront⟩
  · intro entry hentry
    cases hevidence : record.hasClosureEvidence with
    | false =>
        rw [hquiet hevidence] at hentry
        exact .inl hentry
    | true =>
        obtain ⟨cycle, kept, createdAt, _, hkept, hwhere⟩ := hannounced hevidence
        have hid := hkept.eventId
        rcases hwhere with ⟨_, hsame⟩ | ⟨_, hinserted⟩
        · rw [hsame] at hentry
          exact .inl hentry
        · rw [hinserted, (insertBefore_perm isTerminalEvent kept _).mem_iff, List.mem_cons]
            at hentry
          rcases hentry with rfl | hentry
          · exact .inr ⟨hid, rfl⟩
          · exact .inl hentry

/-- A valid record that keeps the result and the events of a closure reports it. -/
theorem reports_of_closed (hfaithful : FaithfulReader) {clock : Clock}
    {before record closed updated : Checkpoint} {reason : String} {value : TerminalValue}
    {keep : EventOutboxEntry → Bool} {extra : List EventOutboxEntry}
    (h : closeUnresolvedTools clock record reason = .ok closed)
    (hjournal : record.toolJournal = before.toolJournal)
    (hbefore : record.eventOutbox = before.eventOutbox)
    (hvalue : record.terminalResult = some value)
    (hvalid : validateCheckpoint updated = .ok ())
    (hresult : updated.terminalResult = closed.terminalResult)
    (houtbox : updated.eventOutbox = closed.eventOutbox.filter keep ++ extra)
    (hkeep : ∀ entry, eventType entry.event = some "cycle_aborted" → keep entry = true)
    (hextra : ∀ entry ∈ extra, eventType entry.event ≠ some "cycle_aborted") :
    Reports before value.observations reason updated := by
  obtain ⟨hthere, hnew⟩ := closed_outbox h
  have hopen : before.openTools = record.openTools := by
    rw [Checkpoint.openTools, Checkpoint.openTools, hjournal]
  have hevidence : before.openTools ≠ [] ∨ value.observations ≠ [] ↔
      record.hasClosureEvidence = true := by
    rw [Checkpoint.hasClosureEvidence, hvalue, Option.any_some, Bool.or_eq_true,
      Bool.not_eq_true', List.isEmpty_eq_false_iff, hasObservations_iff, hopen]
  have hnodup : (updated.eventOutbox.map (·.eventId)).Nodup := by
    rw [validateCheckpoint_eq_ok] at hvalid
    exact (validateOutbox_eq_ok _ hvalid.2.2.2.2.2.2.2.2.1).1
  refine ⟨?_, ?_, ?_⟩
  · obtain ⟨_, _, _, _, hclosed, _, _⟩ := closeUnresolvedTools_spec h
    have hfinal : updated.terminalResult =
        some (value.observe (record.openTools.map unknownToolObservation)) := by
      rw [hresult, hclosed, hvalue]
      rfl
    obtain ⟨result, hdecoded, hsorted⟩ := sortedByOperation_of_valid hvalid hfinal
    refine ⟨_, hfinal, hsorted, ?_⟩
    have hobject : value.value.isObject = true := by
      by_contra hbad
      rw [Bool.not_eq_true] at hbad
      rw [observe_of_not_object _ hbad] at hdecoded
      rw [hdecoded] at hbad
      cases hbad
    intro operation
    rw [observe_observations hfaithful _ hobject, find?_mergeObservations, hopen, List.map_map]
  · intro hsome
    obtain ⟨front, entry, back, hsplit, hid, htype, hwhere⟩ := hthere (hevidence.mp hsome)
    have hkept : updated.eventOutbox =
        front.filter keep ++ entry :: (back.filter keep ++ extra) := by
      rw [houtbox, hsplit, List.filter_append, List.filter_cons_of_pos (hkeep entry htype),
        List.append_assoc, List.cons_append]
    refine ⟨_, entry, _, hkept, hid, htype, ?_, ?_⟩
    · intro other hother hsame
      rw [hkept, List.map_append, List.map_cons, List.nodup_middle, List.nodup_cons] at hnodup
      apply hnodup.1
      rw [hid, ← hsame, ← List.map_append]
      exact List.mem_map_of_mem hother
    · rw [← hbefore]
      rcases hwhere with hmem | hfront
      · exact .inl hmem
      · exact .inr fun other hother => hfront other (List.mem_filter.mp hother).1
  · intro entry hentry htype
    rw [houtbox, List.mem_append] at hentry
    rcases hentry with hentry | hentry
    · rw [← hbefore, hevidence]
      exact hnew entry (List.mem_filter.mp hentry).1
    · exact absurd htype (hextra entry hentry)

/-! The events of the controller. -/

/-- Extra members that leave the type of an event alone. -/
def KeepsType (members : JsonObject) : Prop := ∀ member ∈ members, member.1 ≠ "type"

omit [Runtime] in
theorem KeepsType.insertMember {members : JsonObject} (h : KeepsType members) {key : String}
    (hkey : key ≠ "type") (value : Json) : KeepsType (insertMember key value members) := by
  intro member hmember
  rcases mem_insertMember key value members member hmember with rfl | hold
  · exact hkey
  · exact h member hold

omit [Runtime] in
theorem KeepsType.insertMembers {fields : List (String × Option Json)} {members : JsonObject}
    (h : KeepsType members) (hfields : ∀ field ∈ fields, field.1 ≠ "type") :
    KeepsType (insertMembers members fields) := by
  induction fields generalizing members with
  | nil => exact h
  | cons field rest ih =>
      obtain ⟨key, value⟩ := field
      have hrest : ∀ field ∈ rest, field.1 ≠ "type" :=
        fun field hfield => hfields field (List.mem_cons_of_mem _ hfield)
      cases value with
      | none => exact ih h hrest
      | some item => exact ih (h.insertMember (hfields (key, some item) List.mem_cons_self) item) hrest

omit [Runtime] in
theorem KeepsType.orInsert {members : JsonObject} (h : KeepsType members) {key : String}
    (hkey : key ≠ "type") (value : Json) : KeepsType (RunEvent.orInsert key value members) := by
  unfold RunEvent.orInsert
  split
  · exact h
  · exact h.insertMember hkey value

omit [Runtime] in
theorem keepsType_withResult {event : RunEvent} (h : KeepsType event.extraFields)
    (result : AgentResult) : KeepsType (event.withResult result).extraFields := by
  have hcompleted : KeepsType (event.withCompletionDetails result.completionReason
      result.completionToolName result.partialOutput).extraFields := by
    apply h.insertMembers
    simp
  have hbudgeted : KeepsType ((event.withCompletionDetails result.completionReason
      result.completionToolName result.partialOutput).withBudgetDetails result.budgetUsage
      result.budgetExhaustion).extraFields := by
    unfold RunEvent.withBudgetDetails
    apply KeepsType.insertMembers
    · cases result.budgetUsage with
      | none => exact hcompleted
      | some usage =>
          have husage := hcompleted.insertMember (by decide : "budget_usage" ≠ "type") usage
          have htool := husage.orInsert (by decide : "completion_tool_name" ≠ "type") .null
          have hwithout {members : JsonObject} (h : KeepsType members) :
              KeepsType (RunEvent.orInsert "partial_output" .null members) :=
            h.orInsert (by decide) .null
          have hstatus {members : JsonObject} (h : KeepsType members) :
              KeepsType (RunEvent.orInsert "status" (.str "failed") members) :=
            h.orInsert (by decide) _
          dsimp only
          split <;> split
          · exact hstatus (hwithout husage)
          · exact hstatus (hwithout htool)
          · exact hwithout husage
          · exact hwithout htool
    · simp
  unfold RunEvent.withResult
  dsimp only
  split
  · exact hbudgeted
  · exact hbudgeted

omit [Runtime] in
theorem eventType_of_payload {event : RunEvent} (hextra : KeepsType event.extraFields)
    {name : String} {fields : List (String × Option Json)}
    (hfields : event.payload.fields = ("type", some (.str name)) :: fields)
    (hother : ∀ field ∈ fields, field.1 ≠ "type") : eventType event.toValue = some name := by
  have hlookup : event.toValue.get? "type" = some (.str name) := by
    unfold RunEvent.toValue
    dsimp only
    change List.lookup "type" (VvAgent.insertMembers (VvAgent.insertMembers
      (VvAgent.insertMembers [] event.payload.fields) _) _) = _
    rw [lookup_insertMembers_other _ _ (by simp), lookup_insertMembers_other, hfields,
      lookup_insertMembers_first _ _ _ _ hother]
    intro field hfield
    obtain ⟨member, hmember, rfl⟩ := List.mem_map.mp hfield
    exact hextra member hmember
  rw [eventType, hlookup]
  rfl

/-- The controller's events about a run that ends are not about a cycle. -/
theorem appendControlEvent_type {clock : Clock} {checkpoint updated : Checkpoint}
    {commandId : String} {payload : RunEventPayload} {result : Option AgentResult} {name : String}
    {fields : List (String × Option Json)}
    (h : appendControlEvent clock checkpoint commandId payload result = .ok updated)
    (hconstructed : KeepsType payload.constructedFields)
    (hfields : payload.fields = ("type", some (.str name)) :: fields)
    (hother : ∀ field ∈ fields, field.1 ≠ "type") :
    ∃ event, updated = { checkpoint with eventOutbox := checkpoint.eventOutbox ++ [event] } ∧
      eventType event.event = some name := by
  simp only [appendControlEvent, bind_eq_ok, withCode_eq_ok, RunEvent.withEventId, refuse_eq_ok,
    exists_const, pure_ok, Except.ok.injEq] at h
  obtain ⟨event, ⟨_, hevent⟩, entry, hpending, rfl⟩ := h
  obtain ⟨_, _, hvalue, _, _⟩ := pending_eq_ok hpending
  refine ⟨entry, rfl, ?_⟩
  rw [hvalue]
  have hdraft (draft : RunEvent) (hextra : KeepsType draft.extraFields)
      (hpayload : draft.payload = payload) (hsame : event = { draft with eventId := event.eventId }) :
      eventType event.toValue = some name := by
    rw [hsame]
    refine @eventType_of_payload { draft with eventId := event.eventId } hextra name fields ?_
      hother
    change draft.payload.fields = _
    rw [hpayload, hfields]
  subst hevent
  cases result with
  | none => exact hdraft (RunEvent.new _ _ _ _ _ payload) hconstructed rfl rfl
  | some result =>
      refine hdraft (RunEvent.withResult _ result) (keepsType_withResult ?_ result) ?_ rfl
      · exact hconstructed
      · unfold RunEvent.withResult
        dsimp only
        split <;> rfl

/-- A command that ends the run reports what it closes. -/
theorem terminateWith_reports (hfaithful : FaithfulReader) {clock : Clock}
    {current updated : Checkpoint} {commandId reason : String} {result : AgentResult}
    {ending : RunEventPayload} {effect : CommandEffect} {name : String}
    {fields : List (String × Option Json)}
    (h : terminateWith clock current updated commandId reason result ending = .ok effect)
    (hjournal : updated.toolJournal = current.toolJournal)
    (houtbox : updated.eventOutbox = current.eventOutbox)
    (hconstructed : KeepsType ending.constructedFields)
    (hfields : ending.fields = ("type", some (.str name)) :: fields)
    (hother : ∀ field ∈ fields, field.1 ≠ "type") (hname : name ≠ "cycle_aborted") :
    Reports current (result.resumeObservations.map ResumeObservation.toValue) reason
      effect.checkpoint := by
  simp only [terminateWith, bind_eq_ok, pure_ok, Except.ok.injEq] at h
  obtain ⟨closed, hclosed, changed, hchanged, ended, hended, _, hvalid, rfl⟩ := h
  obtain ⟨first, rfl, hfirst⟩ := appendControlEvent_type hchanged
    (fun member hmember => absurd hmember List.not_mem_nil) rfl (by simp)
  obtain ⟨second, rfl, hsecond⟩ := appendControlEvent_type hended hconstructed hfields hother
  rw [← observations_decoded]
  have hall (entry : EventOutboxEntry) : eventType entry.event = some "cycle_aborted" →
      (fun _ : EventOutboxEntry => true) entry = true := fun _ => rfl
  have hsplit : closed.eventOutbox ++ [first] ++ [second] =
      closed.eventOutbox.filter (fun _ => true) ++ [first, second] := by
    rw [List.filter_true, List.append_assoc]
    rfl
  refine reports_of_closed hfaithful hclosed hjournal houtbox rfl hvalid rfl hsplit hall ?_
  intro entry hentry
  rw [List.mem_cons, List.mem_singleton] at hentry
  rcases hentry with rfl | rfl
  · rw [hfirst]
    decide
  · rw [hsecond]
    exact fun hsame => hname (Option.some.inj hsame)

/-- A claimed finalization under a closure error reports what it closes. -/
theorem prepareTerminalSnapshot_reports (hfaithful : FaithfulReader) {clock : Clock}
    {merged updated : Checkpoint} {expectedRevision : Nat} {reason : String}
    {value : TerminalValue}
    (h : prepareTerminalSnapshot clock merged expectedRevision = .ok updated)
    (hvalue : merged.terminalResult = some value)
    (hreason : terminalClosureReason merged = some reason) :
    Reports merged value.observations reason updated := by
  simp only [prepareTerminalSnapshot, hreason, closeForReason, bind_eq_ok, refuse_eq_ok,
    exists_const, nextRevision_eq_ok, pure_ok, Except.ok.injEq, Option.isNone_some,
    Bool.false_eq_true, if_false] at h
  obtain ⟨_, _, _, ⟨closed, hclosed, rfl⟩, _, _, _, ⟨_, rfl⟩, _, hvalid, rfl⟩ := h
  refine reports_of_closed hfaithful hclosed rfl rfl hvalue hvalid rfl
    (List.append_nil _).symm ?_ ?_
  · intro entry htype
    rw [retainedAtTerminal, htype]
    simp
  · intro entry hentry
    cases hentry

/-- Whatever ends a run reports, under each operation, the tool call that it closed, else what the
result already said about the operation; the aborted cycle has its one event, ahead of the events
that end the run, if there is something to tell; and closing a second time changes nothing. -/
theorem terminal_closure_reports (hfaithful : FaithfulReader) (clock : Clock) :
    (∀ before given reason updated, TerminalClosure clock before given reason updated →
      Reports before given reason updated) ∧
    ∀ record closed reason, closeUnresolvedTools clock record reason = .ok closed →
      ∀ again : Clock, (again (cycleAbortedId reason)).isMoment = true →
        closeUnresolvedTools again closed reason = .ok closed := by
  constructor
  · intro before given reason updated hclosure
    cases hclosure with
    | cancel lookup missing _ command nowMs effect hcommand hlive h =>
        simp only [transformByCommand, hcommand, bind_eq_ok] at h
        obtain ⟨released, hreleased, h⟩ := h
        rw [applyCancel, hlive, if_neg Bool.false_ne_true] at h
        have hkept : released.toolJournal = before.toolJournal ∧
            released.eventOutbox = before.eventOutbox := by
          rcases releaseExpiredClaim_eq_ok hreleased with ⟨_, _, rfl⟩ | ⟨_, _, rfl⟩ | ⟨_, rfl⟩
          · exact ⟨rfl, rfl⟩
          · exact ⟨rfl, rfl⟩
          · exact ⟨rfl, rfl⟩
        exact terminateWith_reports hfaithful h hkept.1 hkept.2
          (by simp [KeepsType, RunEventPayload.constructedFields]) rfl (by simp) (by decide)
    | abort lookup missing _ command nowMs effect hcommand h =>
        simp only [transformByCommand, hcommand, bind_eq_ok] at h
        obtain ⟨released, hreleased, h⟩ := h
        simp only [applyAbort, bind_eq_ok, refuse_eq_ok, exists_const] at h
        obtain ⟨_, h⟩ := h
        have hkept : released.toolJournal = before.toolJournal ∧
            released.eventOutbox = before.eventOutbox := by
          rcases releaseExpiredClaim_eq_ok hreleased with ⟨_, _, rfl⟩ | ⟨_, _, rfl⟩ | ⟨_, rfl⟩
          · exact ⟨rfl, rfl⟩
          · exact ⟨rfl, rfl⟩
          · exact ⟨rfl, rfl⟩
        have hreports := terminateWith_reports hfaithful h hkept.1 hkept.2
          (by simp [KeepsType, RunEventPayload.constructedFields]) rfl (by simp) (by decide)
        have hgiven : (abortResult before).resumeObservations.map ResumeObservation.toValue =
            (((before.journals.find? fun entry => entry.state == .ambiguous).map fun entry =>
              (abortObservation entry).toValue).toList) := by
          rw [abortResult]
          dsimp only
          cases before.journals.find? fun entry => entry.state == .ambiguous with
          | none => rfl
          | some entry => rfl
        rw [hgiven] at hreports
        exact hreports
    | finalizeClaimed current snapshot _ _ claimToken _ expectedRevision value hmerged hvalue hreason h =>
        obtain ⟨_, merged', hmerged', hprepared⟩ := prepareFinalizeClaimed_eq_some h
        obtain rfl := Except.ok.inj (hmerged.symm.trans hmerged')
        exact prepareTerminalSnapshot_reports hfaithful hprepared hvalue hreason
  · intro record closed reason h again hmoment
    exact closeUnresolvedTools_again hfaithful h again hmoment

end

namespace Sample

/-- A cancel command for the second revision of the run. -/
def closureCancel : ControllerCommand where
  schemaVersion := controllerCommandSchema
  commandId := "cancel-2"
  commandDigest := "1819f3a5b9617b9da7b78915a7d23a933b909ba62bc4ea02952ebc69a972b180"
  handle := handle
  resumeAttempt := 1
  expectedRevision := 2
  command := .cancel

theorem writeDigest_isSha256 :
    isSha256 "8d6ff4a835b75ce0c114a6c596f467edbf4ba9678b44f4dc68116addc6f55d55" = true := by
  decide

/-- The digests of the command, of its events and of the closed tool call. -/
def closureDocuments : List Known :=
  [{ member := "command_id"
     text := "cancel-2"
     digest :=
       ⟨"1819f3a5b9617b9da7b78915a7d23a933b909ba62bc4ea02952ebc69a972b180", by decide⟩ },
    { member := "event_id"
      text := "evt_cycle_aborted_cancelled"
      digest :=
        ⟨"902680ca4fe0e3b811a29cf18fd83ea48abee0e3ff65c6cfd6121eb3f87f7e57", by decide⟩ },
    { member := "event_id"
      text := "controller-cancel-2-run_state_changed"
      digest :=
        ⟨"11da3db418cff582eeb83379c2756f4692c2a2feb3471c4fcf6ce4e2a6a6f1e2", by decide⟩ },
    { member := "event_id"
      text := "controller-cancel-2-run_cancelled"
      digest :=
        ⟨"bcf26e09db821c9c7f8b1fd7563062072f994406ae5377dcbf605eb8e5fc9869", by decide⟩ },
    { member := "event_id"
      text := "evt_model_call_a_started"
      digest :=
        ⟨"6b5289675c0af8f181f944d8060a73dc8ef12f687b071eef660770d6253acafb", by decide⟩ },
    { member := "operation_id"
      text := "write-1"
      digest :=
        ⟨"8d6ff4a835b75ce0c114a6c596f467edbf4ba9678b44f4dc68116addc6f55d55",
          writeDigest_isSha256⟩ }]

/-- The call of the model that the first claim has started. -/
def startedModel : OperationJournalEntry where
  kind := .model
  operationId := "model-1"
  cycleIndex := 1
  attempt := 1
  state := .started
  requestDigest := otherDigest.1
  modelOperation := some .agentCycle
  backend := some "test"
  model := some "test-model"
  callId := some "call-a"

/-- Its event. -/
def startedModelEvent : EventOutboxEntry where
  eventId := "evt_model_call_a_started"
  payloadDigest := "6b5289675c0af8f181f944d8060a73dc8ef12f687b071eef660770d6253acafb"
  state := "pending"
  event :=
    .obj
      [("agent_name", .str "task"), ("attempt", .nat 1), ("backend", .str "test"),
        ("call_id", .str "call-a"), ("created_at", .num (.float (3400000001 / 2))),
        ("cycle_index", .nat 1), ("event_id", .str "evt_model_call_a_started"),
        ("model", .str "test-model"), ("operation", .str "agent_cycle"),
        ("operation_id", .str "model-1"), ("run_id", .str "run"), ("trace_id", .str "trace"),
        ("type", .str "model_call_started"), ("version", .str "v5")]
  cursor := none

/-- The run while the model is called. -/
def calling : Checkpoint :=
  { claimed with
    modelCallJournal := [startedModel], eventOutbox := [startedModelEvent], revision := 2 }

/-- The cancel command, after the lease of the first claim has run out. -/
def cancelled (current : Checkpoint) : CheckpointResult CommandEffect :=
  letI := runtime closureDocuments
  transformByCommand clock (fun _ => .ok none) "host interaction record is missing" current
    closureCancel 3000

end Sample

/-- A cancelled run with a tool call under way. -/
theorem terminal_closure_reports_cancel :
    letI := Sample.runtime Sample.closureDocuments
    ∃ effect, Sample.cancelled Sample.writing = .ok effect ∧
      Reports Sample.writing [] "cancelled" effect.checkpoint := by
  let _ : Runtime := Sample.runtime Sample.closureDocuments
  have hfaithful : FaithfulReader := by
    intro value result hread
    cases hread
  have happlied : (Sample.cancelled Sample.writing).isOk = true := by decide +kernel
  cases heffect : Sample.cancelled Sample.writing with
  | error error =>
      rw [heffect] at happlied
      cases happlied
  | ok effect =>
      refine ⟨effect, rfl, ?_⟩
      apply (terminal_closure_reports hfaithful Sample.clock).1
      exact .cancel _ _ Sample.writing Sample.closureCancel 3000 effect rfl (by decide) heffect

/-- A cancelled run whose call of the model had no answer yet: the stored result says nothing
about the call, and no event tells of an aborted cycle. -/
theorem started_model_call_unreported :
    letI := Sample.runtime Sample.closureDocuments
    validateCheckpoint Sample.calling = .ok () ∧
      ∃ effect value, TerminalClosure Sample.clock Sample.calling [] "cancelled"
          effect.checkpoint ∧
        Sample.cancelled Sample.calling = .ok effect ∧
        Sample.startedModel ∈ Sample.calling.modelCallJournal ∧
        effect.checkpoint.terminalResult = some value ∧ value.observations = [] ∧
        ∀ entry ∈ effect.checkpoint.eventOutbox,
          eventType entry.event ≠ some "cycle_aborted" := by
  let _ : Runtime := Sample.runtime Sample.closureDocuments
  have hsummary : (Sample.cancelled Sample.calling).toOption.any (fun effect =>
      (effect.checkpoint.terminalResult.any fun value => value.observations.isEmpty) &&
        effect.checkpoint.eventOutbox.all fun entry =>
          eventType entry.event != some "cycle_aborted") = true := by
    decide +kernel
  refine ⟨by decide +kernel, ?_⟩
  cases heffect : Sample.cancelled Sample.calling with
  | error error =>
      rw [heffect] at hsummary
      cases hsummary
  | ok effect =>
      rw [heffect] at hsummary
      simp only [Except.toOption, Option.any_some, Bool.and_eq_true, List.all_eq_true,
        bne_iff_ne] at hsummary
      obtain ⟨hresult, hevents⟩ := hsummary
      obtain ⟨value, hvalue, hempty⟩ := (Option.any_eq_true _ _).mp hresult
      refine ⟨effect, value, ?_, rfl, List.mem_singleton_self _, hvalue,
        List.isEmpty_iff.mp hempty, hevents⟩
      exact .cancel _ _ Sample.calling Sample.closureCancel 3000 effect rfl (by decide) heffect

end VvAgent
