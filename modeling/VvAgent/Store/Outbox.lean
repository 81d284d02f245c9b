import VvAgent.Store.Cancellation
import VvAgent.Store.Line

/-!
The event outbox through the writes of the claim's owner and of the controller. Most
writers append to the stored outbox or merge the snapshot's into it; a commit takes the
snapshot's outbox and cursor as they are, and a question to the host leaves the outbox of
the completed snapshot aside. The main theorem says on which snapshots these two keep what
the others always keep.
-/

namespace VvAgent
open Lib Lib.Outcome

/-- The entry of an outbox under an event id, with the payload it was stored with, and not
yet delivered. -/
def HasPending (outbox : List EventOutboxEntry) (entry : EventOutboxEntry) : Prop :=
  ∃ kept ∈ outbox, kept.state = "pending" ∧ kept.eventId = entry.eventId ∧
    kept.payloadDigest = entry.payloadDigest

/-- The event of `entry` again, at its own or at the stored time of creation. -/
def EventOutboxEntry.Repeats (entry kept : EventOutboxEntry) : Prop :=
  entry.eventId = kept.eventId ∧
    (entry.event = kept.event ∨
      ∃ createdAt members, entry.event = .obj members ∧
        kept.event = .obj (insertMember "created_at" createdAt members))

/-- A staged event is in the outbox and waits for its delivery. -/
def Awaits (outbox : List EventOutboxEntry) (entry : EventOutboxEntry) : Prop :=
  ∃ kept ∈ outbox, kept.state = "pending" ∧ entry.Repeats kept

/-- A staged entry that is new: pending, the first of its id, and not stored yet. -/
structure StagedNew (staged stored : List EventOutboxEntry) (entry : EventOutboxEntry) :
    Prop where
  first : staged.find? (fun other => other.eventId == entry.eventId) = some entry
  pending : entry.state = "pending"
  fresh : ∀ known ∈ stored, known.eventId ≠ entry.eventId

/-- What a write has to keep of the outbox. The cursor belongs to the event store; a write
that delivers nothing leaves it where it is. -/
structure OutboxKept (staged : List EventOutboxEntry) (before after : Checkpoint) : Prop where
  pending : ∀ entry ∈ before.eventOutbox, entry.state = "pending" →
    HasPending after.eventOutbox entry
  staged : ∀ entry, StagedNew staged before.eventOutbox entry → Awaits after.eventOutbox entry
  delivered : ∀ entry ∈ before.eventOutbox, entry.state = "delivered" →
    ∀ later ∈ after.eventOutbox, later.eventId = entry.eventId → later.state ≠ "pending"
  distinct : (after.eventOutbox.map (·.eventId)).Nodup
  cursor : after.eventCursor = before.eventCursor

namespace StoreOp

/-- The outbox of the snapshot a write is called with. -/
def staged : StoreOp → List EventOutboxEntry
  | .progress checkpoint _ _ | .suspend checkpoint _ _ | .commit checkpoint _ _
  | .finalize _ checkpoint _ | .finalizeClaimed _ checkpoint _ _
  | .recordToolReceipt _ checkpoint _ _ _ _ => checkpoint.eventOutbox
  | .produceHostInteraction _ _ context => (context.cycleSnapshot.map (·.eventOutbox)).getD []
  | _ => []

/-- The delivery of an event, the one write that moves the cursor. -/
def delivers : StoreOp → Bool
  | .recordEventDelivery .. => true
  | _ => false

end StoreOp

section
variable [Runtime]

theorem validateOutbox_eq_ok {seen : List String} (outbox : List EventOutboxEntry)
    (h : validateOutbox seen outbox = .ok ()) :
    (outbox.map (·.eventId)).Nodup ∧ ∀ entry ∈ outbox, entry.eventId ∉ seen := by
  induction outbox generalizing seen with
  | nil => exact ⟨List.nodup_nil, fun entry hmem => absurd hmem List.not_mem_nil⟩
  | cons entry rest ih =>
      simp only [validateOutbox, unit_guard_bind, refuse_eq_ok] at h
      obtain ⟨_, hfresh, hrest⟩ := h
      obtain ⟨hnodup, hnew⟩ := ih hrest
      have hunseen : entry.eventId ∉ seen := by simpa using hfresh
      constructor
      · rw [List.map_cons, List.nodup_cons]
        refine ⟨?_, hnodup⟩
        rintro hmem
        obtain ⟨other, hother, hsame⟩ := List.mem_map.mp hmem
        exact hnew other hother (by simp [hsame])
      · intro other hmem
        rcases List.mem_cons.mp hmem with rfl | hmem
        · exact hunseen
        · exact fun hseen => hnew other hmem (List.mem_cons_of_mem _ hseen)

/-- The event ids of a valid record are distinct. -/
theorem ValidBesidesLease.eventIds_nodup {checkpoint : Checkpoint}
    (h : ValidBesidesLease checkpoint) : (checkpoint.eventOutbox.map (·.eventId)).Nodup := by
  obtain ⟨lease, hvalid⟩ := h
  rw [validateCheckpoint_eq_ok] at hvalid
  exact (validateOutbox_eq_ok _ hvalid.2.2.2.2.2.2.2.2.1).1

/-- An event that is offered to an outbox is appended, or the outbox holds it already. -/
theorem appendEventOutboxOnce_eq_ok {outbox extended : List EventOutboxEntry}
    {candidate : EventOutboxEntry}
    (h : appendEventOutboxOnce outbox candidate = .ok extended) :
    outbox.find? (fun entry => entry.eventId == candidate.eventId) = none ∧
        extended = outbox ++ [candidate] ∨
      ∃ kept, outbox.find? (fun entry => entry.eventId == candidate.eventId) = some kept ∧
        candidate.Repeats kept ∧ extended = outbox := by
  unfold appendEventOutboxOnce at h
  split at h
  · rename_i hnone
    exact .inl ⟨hnone, (Except.ok.inj h).symm⟩
  · rename_i kept hkept
    have hid : kept.eventId = candidate.eventId := by
      simpa using List.find?_some hkept
    refine .inr ⟨kept, hkept, ?_⟩
    simp only [unit_guard_bind] at h
    obtain ⟨_, h⟩ := h
    split at h
    · rename_i createdAt _
      simp only [redate, bind_eq_ok, require_eq_ok, refuse_eq_ok, exists_const, pure_ok,
        Except.ok.injEq, Bool.or_eq_false_iff, bne_eq_false_iff_eq] at h
      obtain ⟨_, ⟨members, hmembers, _, _, _, _, rfl⟩, ⟨hevent, _⟩, rfl⟩ := h
      have hobject : candidate.event = .obj members := Json.asObject?_eq_some hmembers
      exact ⟨⟨hid.symm, .inr ⟨createdAt, members, hobject, hevent⟩⟩, rfl⟩
    · simp only [bind_eq_ok, Except.ok.injEq, exists_eq_left', refuse_eq_ok, exists_const,
        pure_ok, Bool.or_eq_false_iff, bne_eq_false_iff_eq] at h
      exact ⟨⟨hid.symm, .inl h.1.1.symm⟩, h.2.symm⟩

/-- Merging keeps distinct ids distinct. -/
theorem appendEventOutboxOnce_nodup {outbox extended : List EventOutboxEntry}
    {candidate : EventOutboxEntry}
    (h : appendEventOutboxOnce outbox candidate = .ok extended)
    (hnodup : (outbox.map (·.eventId)).Nodup) : (extended.map (·.eventId)).Nodup := by
  rcases appendEventOutboxOnce_eq_ok h with ⟨hnone, rfl⟩ | ⟨_, _, _, rfl⟩
  · rw [List.map_append, List.nodup_append]
    refine ⟨hnodup, by simp, ?_⟩
    rintro id hmem _ hlast rfl
    obtain ⟨entry, hentry, rfl⟩ := List.mem_map.mp hmem
    have hsame : entry.eventId = candidate.eventId := by simpa using hlast
    have hother := List.find?_eq_none.mp hnone entry hentry
    simp [hsame] at hother
  · exact hnodup

theorem appendAllOnce_nodup (candidates : List EventOutboxEntry)
    {outbox extended : List EventOutboxEntry}
    (h : appendAllOnce outbox candidates = .ok extended)
    (hnodup : (outbox.map (·.eventId)).Nodup) : (extended.map (·.eventId)).Nodup := by
  induction candidates generalizing outbox with
  | nil =>
      rw [appendAllOnce, Except.ok.injEq] at h
      exact h ▸ hnodup
  | cons candidate rest ih =>
      simp only [appendAllOnce, bind_eq_ok] at h
      obtain ⟨next, hnext, hrest⟩ := h
      exact ih hrest (appendEventOutboxOnce_nodup hnext hnodup)

/-- What is merged is found afterwards: under an id the outbox knew, as a repetition of the
known entry; else the first entry of its id as it is. -/
theorem appendAllOnce_repeats (candidates : List EventOutboxEntry)
    {outbox extended : List EventOutboxEntry}
    (h : appendAllOnce outbox candidates = .ok extended) {entry kept : EventOutboxEntry}
    (hmem : entry ∈ candidates)
    (hkept : outbox.find? (fun other => other.eventId == entry.eventId) = some kept) :
    entry.Repeats kept := by
  induction candidates generalizing outbox with
  | nil => exact absurd hmem List.not_mem_nil
  | cons candidate rest ih =>
      simp only [appendAllOnce, bind_eq_ok] at h
      obtain ⟨next, hnext, hrest⟩ := h
      have hlater : next.find? (fun other => other.eventId == entry.eventId) = some kept := by
        obtain ⟨added, rfl⟩ := appendEventOutboxOnce_extends hnext
        rw [List.find?_append, hkept, Option.some_or]
      rcases List.mem_cons.mp hmem with rfl | hmem
      · rcases appendEventOutboxOnce_eq_ok hnext with ⟨hnone, _⟩ | ⟨other, hother, hrepeats, _⟩
        · simp [hkept] at hnone
        · obtain rfl : kept = other := Option.some.inj (hkept.symm.trans hother)
          exact hrepeats
      · exact ih hrest hmem hlater

theorem appendAllOnce_appends (candidates : List EventOutboxEntry)
    {outbox extended : List EventOutboxEntry}
    (h : appendAllOnce outbox candidates = .ok extended) {entry : EventOutboxEntry}
    (hfirst : candidates.find? (fun other => other.eventId == entry.eventId) = some entry)
    (hfresh : ∀ known ∈ outbox, known.eventId ≠ entry.eventId) : entry ∈ extended := by
  induction candidates generalizing outbox with
  | nil => simp at hfirst
  | cons candidate rest ih =>
      simp only [appendAllOnce, bind_eq_ok] at h
      obtain ⟨next, hnext, hrest⟩ := h
      rw [List.find?_cons] at hfirst
      by_cases hsame : candidate.eventId = entry.eventId
      · simp only [hsame, beq_self_eq_true, Option.some.injEq] at hfirst
        subst hfirst
        rcases appendEventOutboxOnce_eq_ok hnext with ⟨_, rfl⟩ | ⟨kept, hkept, _, _⟩
        · exact (appendAllOnce_extends rest hrest).subset (by simp)
        · have hid : kept.eventId = candidate.eventId := by simpa using List.find?_some hkept
          exact absurd hid (hfresh kept (List.mem_of_find?_eq_some hkept))
      · have hother : (candidate.eventId == entry.eventId) = false := by simpa using hsame
        rw [hother] at hfirst
        refine ih hrest hfirst ?_
        rcases appendEventOutboxOnce_eq_ok hnext with ⟨_, rfl⟩ | ⟨_, _, _, rfl⟩
        · intro known hknown
          rcases List.mem_append.mp hknown with hknown | hknown
          · exact hfresh known hknown
          · rw [List.mem_singleton.mp hknown]
            exact hsame
        · exact hfresh

/-- Merging an outbox into itself changes nothing. -/
theorem appendAllOnce_known (candidates : List EventOutboxEntry)
    {outbox extended : List EventOutboxEntry}
    (h : appendAllOnce outbox candidates = .ok extended)
    (hknown : ∀ entry ∈ candidates, entry ∈ outbox) : extended = outbox := by
  induction candidates with
  | nil =>
      rw [appendAllOnce, Except.ok.injEq] at h
      exact h.symm
  | cons candidate rest ih =>
      simp only [appendAllOnce, bind_eq_ok] at h
      obtain ⟨next, hnext, hrest⟩ := h
      rcases appendEventOutboxOnce_eq_ok hnext with ⟨hnone, _⟩ | ⟨_, _, _, rfl⟩
      · have hself := List.find?_eq_none.mp hnone candidate (hknown candidate (by simp))
        simp at hself
      · exact ih hrest fun entry hmem => hknown entry (List.mem_cons_of_mem _ hmem)

/-- The receipt of a tool call goes through its own event, made from the stored entry. -/
theorem prepareToolReceipt_event {clock : Clock} {current checkpoint updated : Checkpoint}
    {target : ToolReceiptTarget} {result : ToolExecutionResult} {claimToken : String}
    {expectedRevision : Nat}
    (h : prepareToolReceipt clock current checkpoint target result claimToken expectedRevision =
      .ok (some updated)) :
    ∃ entry event, current.toolJournal.find? target.closes = some entry ∧
      receiptEvent clock current entry result = .ok event ∧
      appendAllOnce (current.eventOutbox ++ [event]) checkpoint.eventOutbox =
        .ok updated.eventOutbox ∧ updated.eventCursor = current.eventCursor := by
  simp only [prepareToolReceipt, unit_guard_bind] at h
  obtain ⟨_, _, _, h⟩ := h
  split at h
  · simp at h
  split at h
  · simp at h
  rename_i entry hentry
  simp only [bind_eq_ok, pure_ok, Except.ok.injEq, Option.some.injEq] at h
  obtain ⟨_, _, identityKey, _, digest, _, observation, _, _, _, event, hevent, outbox, houtbox, _,
    _, _, _, rfl⟩ := h
  exact ⟨entry, event, hentry, hevent, houtbox, rfl⟩

theorem receiptEvent_pending {clock : Clock} {checkpoint : Checkpoint}
    {journal : OperationJournalEntry} {result : ToolExecutionResult} {event : EventOutboxEntry}
    (h : receiptEvent clock checkpoint journal result = .ok event) : event.state = "pending" := by
  simp only [receiptEvent, outboxOf, bind_eq_ok] at h
  obtain ⟨_, _, _, _, _, _, _, _, hpending⟩ := h
  exact (pending_eq_ok hpending).2.2.2.1

/-- The events that the admission of a host interaction writes itself. -/
def hostAdmissionEvents (clock : Clock) (current : Checkpoint)
    (request : HostInteractionRequest) (context : HostInteractionAdmissionContext) :
    CheckpointResult (List EventOutboxEntry) := do
  let event ← hostEvent clock current (UInt32.ofNat (request.logicalCycle - 1))
    ("host-interaction-requested-" ++ recordIdFor context.checkpointKey request)
    (.hostInteractionRequested current.checkpointKey current.resumeAttempt request)
  let requested ← EventOutboxEntry.pending event.eventId event.toValue
  match context.cycleSnapshot with
  | none => return [requested]
  | some completed => do
      let result ← hostToolResult completed request
      let entry ← require (current.toolJournal.find? request.concerns)
        (hostConflict "host interaction tool operation is missing")
      let target : ToolReceiptTarget :=
        { operationId := entry.operationId
          attempt := entry.attempt
          toolCallId := request.toolCallId
          requestDigest := entry.requestDigest
          claimedCycle := context.claimedCycle }
      let journal ← require (current.toolJournal.find? target.closes)
        (hostConflict "host interaction tool receipt was not admitted")
      let receipt ← receiptEvent clock current journal result
      return [receipt, requested]

/-- A question to the host appends its own events and nothing else. -/
theorem prepareHostInteraction_outbox {clock : Clock} {current updated : Checkpoint}
    {request : HostInteractionRequest} {context : HostInteractionAdmissionContext}
    (h : prepareHostInteraction clock current request context
      (recordIdFor context.checkpointKey request) = .ok updated) :
    ∃ events, hostAdmissionEvents clock current request context = .ok events ∧
      updated.eventOutbox = current.eventOutbox ++ events ∧
      updated.eventCursor = current.eventCursor := by
  simp only [prepareHostInteraction, bind_eq_ok, refuse_eq_ok, exists_const, pure_ok,
    Except.ok.injEq] at h
  obtain ⟨_, event, hevent, cycle, hcycle, _, _, requested, hrequested, _, _, rfl⟩ := h
  simp only [prepareHostInteractionCycle, bind_eq_ok, refuse_eq_ok, exists_const] at hcycle
  obtain ⟨_, hcycle⟩ := hcycle
  unfold hostAdmissionEvents
  simp only [hevent, hrequested, ok_bind]
  cases hsnapshot : context.cycleSnapshot with
  | none =>
      simp only [hsnapshot, bind_eq_ok, refuse_eq_ok, exists_const, pure_ok,
        Except.ok.injEq] at hcycle
      obtain ⟨_, rfl⟩ := hcycle
      exact ⟨[requested], rfl, rfl, rfl⟩
  | some completed =>
      simp only [hsnapshot, bind_eq_ok, refuse_eq_ok, exists_const, require_eq_ok, pure_ok,
        Except.ok.injEq] at hcycle
      obtain ⟨_, result, hresult, entry, hentry, _, hreceipt, stored, rfl, _, rfl⟩ := hcycle
      obtain ⟨journal, receipt, hjournal, hreceipt, houtbox, hcursor⟩ :=
        prepareToolReceipt_event hreceipt
      have hself : stored.eventOutbox = current.eventOutbox ++ [receipt] :=
        appendAllOnce_known _ houtbox fun entry hmem => List.mem_append_left _ hmem
      refine ⟨[receipt, requested], ?_, ?_, hcursor⟩
      · simp only [hresult, hentry, hjournal, hreceipt, require_some, ok_bind, pure_ok]
      · change stored.eventOutbox ++ [requested] = current.eventOutbox ++ [receipt, requested]
        rw [hself, List.append_assoc]
        rfl

/-- The condition on a write's snapshot. Only the two writes that do not merge have one. -/
def OutboxCarried (op : StoreOp) (current : Checkpoint) : Prop :=
  match op with
  | .commit snapshot _ _ =>
      (∀ entry ∈ current.eventOutbox, entry.state = "pending" →
        HasPending snapshot.eventOutbox entry) ∧
      (∀ entry ∈ current.eventOutbox, entry.state = "delivered" →
        ∀ later ∈ snapshot.eventOutbox, later.eventId = entry.eventId →
          later.state ≠ "pending") ∧
      snapshot.eventCursor = current.eventCursor
  | .produceHostInteraction clock request context =>
      ∀ events, hostAdmissionEvents clock current request context = .ok events →
        ∀ entry, StagedNew op.staged current.eventOutbox entry → Awaits events entry
  | _ => True

omit [Runtime] in
/-- A writer that adds to the stored outbox, and drops delivered entries at most. -/
theorem OutboxKept.ofGrowth {staged outbox : List EventOutboxEntry} {before after : Checkpoint}
    (keep : EventOutboxEntry → Bool) (hgrowth : before.eventOutbox.Sublist outbox)
    (hafter : after.eventOutbox = outbox.filter keep)
    (hkeep : ∀ entry, entry.state = "pending" → keep entry = true)
    (hnodup : (outbox.map (·.eventId)).Nodup)
    (hstaged : ∀ entry, StagedNew staged before.eventOutbox entry → Awaits outbox entry)
    (hcursor : after.eventCursor = before.eventCursor) : OutboxKept staged before after where
  pending entry hmem hpending := by
    refine ⟨entry, ?_, hpending, rfl, rfl⟩
    rw [hafter, List.mem_filter]
    exact ⟨hgrowth.subset hmem, hkeep entry hpending⟩
  staged entry hnew := by
    obtain ⟨kept, hmem, hpending, hrepeats⟩ := hstaged entry hnew
    refine ⟨kept, ?_, hpending, hrepeats⟩
    rw [hafter, List.mem_filter]
    exact ⟨hmem, hkeep kept hpending⟩
  delivered entry hmem hdelivered later hlater hsame := by
    rw [hafter, List.mem_filter] at hlater
    obtain rfl : later = entry :=
      List.inj_on_of_nodup_map hnodup hlater.1 (hgrowth.subset hmem) hsame
    simp [hdelivered]
  distinct := by
    rw [hafter]
    exact hnodup.sublist (List.filter_sublist.map _)
  cursor := hcursor

omit [Runtime] in
/-- A writer that only appends events of the store's own. -/
theorem OutboxKept.ofSublist {op : StoreOp} {before after : Checkpoint} (hnone : op.staged = [])
    (hgrowth : before.eventOutbox.Sublist after.eventOutbox)
    (hnodup : (after.eventOutbox.map (·.eventId)).Nodup)
    (hcursor : after.eventCursor = before.eventCursor) : OutboxKept op.staged before after := by
  refine .ofGrowth (fun _ => true) hgrowth (List.filter_true _).symm (fun _ _ => rfl) hnodup ?_
    hcursor
  intro entry hnew
  have hfirst := hnew.first
  rw [hnone] at hfirst
  cases hfirst

/-- A writer that merges the snapshot's outbox into the stored one. -/
theorem OutboxKept.ofMerge {staged merged : List EventOutboxEntry} {before after : Checkpoint}
    (hmerged : appendAllOnce before.eventOutbox staged = .ok merged)
    (keep : EventOutboxEntry → Bool) {outbox : List EventOutboxEntry}
    (hgrowth : merged.Sublist outbox) (hafter : after.eventOutbox = outbox.filter keep)
    (hkeep : ∀ entry, entry.state = "pending" → keep entry = true)
    (hnodup : (outbox.map (·.eventId)).Nodup)
    (hcursor : after.eventCursor = before.eventCursor) : OutboxKept staged before after := by
  have hstored := (appendAllOnce_extends _ hmerged).sublist
  refine .ofGrowth keep (hstored.trans hgrowth) hafter hkeep hnodup ?_ hcursor
  intro entry hnew
  have hadded := appendAllOnce_appends _ hmerged hnew.first hnew.fresh
  exact ⟨entry, hgrowth.subset hadded, hnew.pending, rfl, .inl rfl⟩

omit [Runtime] in
theorem insertBefore_perm {α : Type} (p : α → Bool) (entry : α) (l : List α) :
    (insertBefore p entry l).Perm (entry :: l) := by
  induction l with
  | nil => exact .refl _
  | cons a rest ih =>
      unfold insertBefore
      split
      · exact .refl _
      · exact (ih.cons a).trans (.swap entry a rest)

theorem appendEventOnce_nodup {checkpoint updated : Checkpoint} {eventId : String} {event : Json}
    (h : appendEventOnce checkpoint eventId event = .ok updated)
    (hnodup : (checkpoint.eventOutbox.map (·.eventId)).Nodup) :
    (updated.eventOutbox.map (·.eventId)).Nodup := by
  simp only [appendEventOnce, bind_eq_ok] at h
  obtain ⟨entry, _, extended, hextended, h⟩ := h
  split at h
  · obtain rfl := Except.ok.inj h
    exact hnodup
  · rename_i hlength
    obtain rfl := Except.ok.inj h
    have hadded : extended = checkpoint.eventOutbox ++ [entry] := by
      rcases appendEventOutboxOnce_eq_ok hextended with ⟨_, h⟩ | ⟨_, _, _, rfl⟩
      · exact h
      · exact absurd rfl hlength
    have hperm : (insertBefore isTerminalEvent entry checkpoint.eventOutbox).Perm extended := by
      rw [hadded]
      exact (insertBefore_perm _ _ _).trans (List.perm_append_singleton _ _).symm
    exact ((hperm.map _).nodup_iff).mpr (appendEventOutboxOnce_nodup hextended hnodup)

theorem closeUnresolvedTools_outbox {clock : Clock} {checkpoint updated : Checkpoint}
    {reason : String} (h : closeUnresolvedTools clock checkpoint reason = .ok updated)
    (hnodup : (checkpoint.eventOutbox.map (·.eventId)).Nodup) :
    checkpoint.eventOutbox.Sublist updated.eventOutbox ∧
      (updated.eventOutbox.map (·.eventId)).Nodup ∧
      updated.eventCursor = checkpoint.eventCursor := by
  obtain ⟨_, _, _, hkept, hbuilt⟩ := closeUnresolvedTools_eq_ok h
  refine ⟨hbuilt ▸ hkept, ?_, by rw [hbuilt]⟩
  simp only [closeUnresolvedTools, bind_eq_ok, refuse_eq_ok, exists_const] at h
  obtain ⟨_, toolJournal, _, h⟩ := h
  split at h
  · simp only [bind_eq_ok, pure_ok, Except.ok.injEq] at h
    obtain ⟨_, _, _, _, announced, hannounced, rfl⟩ := h
    exact (appendEventOnce_nodup hannounced hnodup :)
  · simp only [bind_eq_ok, pure_ok, Except.ok.injEq] at h
    obtain ⟨announced, rfl, rfl⟩ := h
    exact hnodup

/-- A terminal write closes what is open, and then drops delivered events at most. -/
theorem prepareTerminalSnapshot_outbox {clock : Clock} {snapshot updated : Checkpoint}
    {expectedRevision : Nat}
    (h : prepareTerminalSnapshot clock snapshot expectedRevision = .ok updated)
    (hnodup : (snapshot.eventOutbox.map (·.eventId)).Nodup) :
    ∃ outbox, snapshot.eventOutbox.Sublist outbox ∧ (outbox.map (·.eventId)).Nodup ∧
      updated.eventOutbox = outbox.filter retainedAtTerminal ∧
      updated.eventCursor = snapshot.eventCursor := by
  simp only [prepareTerminalSnapshot, bind_eq_ok, refuse_eq_ok, exists_const, pure_ok,
    Except.ok.injEq] at h
  obtain ⟨_, _, closed, hclosed, _, _, _, _, _, _, rfl⟩ := h
  refine ⟨closed.eventOutbox, ?_⟩
  cases hreason : terminalClosureReason snapshot with
  | none =>
      rw [hreason, closeForReason, Except.ok.injEq] at hclosed
      subst hclosed
      exact ⟨.refl _, hnodup, rfl, rfl⟩
  | some reason =>
      simp only [hreason, closeForReason, bind_eq_ok, pure_ok, Except.ok.injEq] at hclosed
      obtain ⟨tools, htools, rfl⟩ := hclosed
      obtain ⟨hkept, hdistinct, hcursor⟩ := closeUnresolvedTools_outbox htools hnodup
      exact ⟨hkept, hdistinct, rfl, hcursor⟩

/-- A terminal write of a merged snapshot. -/
theorem OutboxKept.ofTerminal {clock : Clock} {current snapshot merged updated : Checkpoint}
    {expectedRevision : Nat} (hnodup : (current.eventOutbox.map (·.eventId)).Nodup)
    (hmerged : mergeAuthoritativeFields current snapshot = .ok merged)
    (hterminal : prepareTerminalSnapshot clock merged expectedRevision = .ok updated) :
    OutboxKept snapshot.eventOutbox current updated := by
  obtain ⟨outbox, houtbox, rfl⟩ := (mergeAuthoritativeFields_eq_ok _ _ _).mp hmerged
  obtain ⟨closed, hgrowth, hdistinct, hafter, hcursor⟩ := prepareTerminalSnapshot_outbox hterminal
    (appendAllOnce_nodup _ houtbox hnodup)
  refine .ofMerge houtbox retainedAtTerminal hgrowth hafter ?_ hdistinct hcursor
  intro entry hpending
  simp [retainedAtTerminal, hpending]

omit [Runtime] in
/-- A commit takes the snapshot's pending entries. -/
theorem OutboxKept.commit_iff {current snapshot updated : Checkpoint}
    (houtbox : updated.eventOutbox =
      snapshot.eventOutbox.filter fun entry => entry.state == "pending")
    (hnodup : (updated.eventOutbox.map (·.eventId)).Nodup)
    (hcursor : updated.eventCursor = snapshot.eventCursor) :
    OutboxKept snapshot.eventOutbox current updated ↔
      (∀ entry ∈ current.eventOutbox, entry.state = "pending" →
        HasPending snapshot.eventOutbox entry) ∧
      (∀ entry ∈ current.eventOutbox, entry.state = "delivered" →
        ∀ later ∈ snapshot.eventOutbox, later.eventId = entry.eventId →
          later.state ≠ "pending") ∧
      snapshot.eventCursor = current.eventCursor := by
  have hmem (entry : EventOutboxEntry) : entry ∈ updated.eventOutbox ↔
      entry ∈ snapshot.eventOutbox ∧ entry.state = "pending" := by
    rw [houtbox, List.mem_filter, beq_iff_eq]
  constructor
  · intro h
    refine ⟨?_, ?_, hcursor.symm.trans h.cursor⟩
    · intro entry hentry hpending
      obtain ⟨kept, hkept, hstate, hsame⟩ := h.pending entry hentry hpending
      exact ⟨kept, ((hmem kept).mp hkept).1, hstate, hsame⟩
    · intro entry hentry hdelivered later hlater hsame hpending
      exact h.delivered entry hentry hdelivered later ((hmem later).mpr ⟨hlater, hpending⟩) hsame
        hpending
  · rintro ⟨hpending, hdelivered, hsameCursor⟩
    refine ⟨?_, ?_, ?_, hnodup, hcursor.trans hsameCursor⟩
    · intro entry hentry hstate
      obtain ⟨kept, hkept, hkeptState, hsame⟩ := hpending entry hentry hstate
      exact ⟨kept, (hmem kept).mpr ⟨hkept, hkeptState⟩, hkeptState, hsame⟩
    · intro entry hnew
      have hstaged := List.mem_of_find?_eq_some hnew.first
      exact ⟨entry, (hmem entry).mpr ⟨hstaged, hnew.pending⟩, hnew.pending, rfl, .inl rfl⟩
    · intro entry hentry hstate later hlater hsame
      exact hdelivered entry hentry hstate later ((hmem later).mp hlater).1 hsame

/-- One write: the outbox is kept exactly on the snapshots that carry it. -/
theorem Made.outboxKept_iff {op : StoreOp} {key : String} {current updated : Checkpoint}
    (hmade : Made op key current updated) (hop : op.delivers = false)
    (hcurrent : ValidBesidesLease current) :
    OutboxKept op.staged current updated ↔ OutboxCarried op current := by
  have hnodup := hcurrent.eventIds_nodup
  have hdistinct := (hmade.validBesidesLease hcurrent).eventIds_nodup
  cases hmade with
  | claim _ h =>
      obtain ⟨_, _, _, rfl⟩ := prepareClaim_eq_some h
      exact iff_of_true (.ofSublist rfl (.refl _) hnodup rfl) trivial
  | renew => exact iff_of_true (.ofSublist rfl (.refl _) hnodup rfl) trivial
  | acknowledge h =>
      obtain ⟨_, _, _, _, _, rfl⟩ := prepareAck_eq_some h
      exact iff_of_true (.ofSublist rfl (.refl _) hnodup rfl) trivial
  | delivery => cases hop
  | progress h =>
      obtain ⟨_, _, _, houtbox, rfl⟩ := prepareProgress_eq_some h
      exact iff_of_true (.ofMerge houtbox (fun _ => true) (.refl _) (List.filter_true _).symm
        (fun _ _ => rfl) hdistinct rfl) trivial
  | suspend h =>
      obtain ⟨_, _, _, _, houtbox, rfl⟩ := prepareSuspend_eq_some h
      exact iff_of_true (.ofMerge houtbox (fun _ => true) (.refl _) (List.filter_true _).symm
        (fun _ _ => rfl) hdistinct rfl) trivial
  | commit h =>
      obtain ⟨_, _, _, _, _, _, rfl⟩ := prepareCommit_eq_some h
      exact OutboxKept.commit_iff rfl hdistinct rfl
  | finalize h =>
      obtain ⟨_, _, _, _, _, merged, hmerged, hterminal⟩ := prepareFinalize_eq_some h
      exact iff_of_true (.ofTerminal hnodup hmerged hterminal) trivial
  | finalizeClaimed h =>
      obtain ⟨_, merged, hmerged, hterminal⟩ := prepareFinalizeClaimed_eq_some h
      exact iff_of_true (.ofTerminal hnodup hmerged hterminal) trivial
  | toolReceipt h =>
      obtain ⟨entry, event, _, hevent, houtbox, hcursor⟩ := prepareToolReceipt_event h
      refine iff_of_true ?_ trivial
      have hgrowth := appendAllOnce_extends _ houtbox
      have hstored := (List.prefix_append _ _).trans hgrowth
      refine .ofGrowth (fun _ => true) hstored.sublist (List.filter_true _).symm (fun _ _ => rfl)
        hdistinct ?_ hcursor
      intro staged hnew
      by_cases hsame : event.eventId = staged.eventId
      · have hfind : (current.eventOutbox ++ [event]).find?
            (fun other => other.eventId == staged.eventId) = some event := by
          rw [List.find?_append, List.find?_eq_none.mpr (by simpa using hnew.fresh)]
          simp [hsame]
        have hrepeats := appendAllOnce_repeats _ houtbox
          (List.mem_of_find?_eq_some hnew.first) hfind
        exact ⟨event, hgrowth.subset (by simp), receiptEvent_pending hevent, hrepeats⟩
      · have hadded := appendAllOnce_appends _ houtbox hnew.first (by
          intro known hknown
          rcases List.mem_append.mp hknown with hknown | hknown
          · exact hnew.fresh known hknown
          · rw [List.mem_singleton.mp hknown]
            exact hsame)
        exact ⟨staged, hadded, hnew.pending, rfl, .inl rfl⟩
  | admitDeferred h hchanged =>
      obtain ⟨_, _, _, _, _, _, _, _, _, _, _, rfl⟩ := admitDeferredBatch_eq_ok h hchanged
      exact iff_of_true (.ofSublist rfl (List.sublist_append_left _ _) hdistinct rfl) trivial
  | acceptDeferred h =>
      obtain ⟨_, _, _, _, _, _, _, _, _, _, rfl⟩ := acceptDeferredBatch_eq_ok h
      exact iff_of_true (.ofSublist rfl (List.sublist_append_left _ _) hdistinct rfl) trivial
  | resolveDeferred _ _ h =>
      obtain ⟨_, _, _, _, _, _, _, _, _, _, rfl⟩ := resolveEntry_eq_ok h
      exact iff_of_true (.ofSublist rfl (List.sublist_append_left _ _) hdistinct rfl) trivial
  | command hcommand h hupdated =>
      refine iff_of_true ?_ (by rcases hcommand with rfl | rfl <;> trivial)
      have hnone : op.staged = [] := by rcases hcommand with rfl | rfl <;> rfl
      obtain ⟨_, _, _, _, hcase⟩ := applyControllerCommand_eq_ok h
      rw [hupdated] at hcase
      cases hcase with
      | requested events =>
          exact .ofSublist hnone (List.sublist_append_left _ _) hdistinct rfl
      | moved base _ _ _ events _ hbase =>
          refine .ofSublist hnone (List.sublist_append_left _ _) hdistinct ?_
          rcases hbase with ⟨rfl, _⟩ | rfl <;> rfl
      | ended _ _ _ _ _ _ hevents => exact .ofSublist hnone hevents hdistinct rfl
  | consume _ _ _ _ _ _ h =>
      obtain ⟨_, _, rfl⟩ := prepareConsume_eq_ok h
      exact iff_of_true (.ofSublist rfl (List.sublist_append_left _ _) hdistinct rfl) trivial
  | produce _ _ _ _ h =>
      obtain ⟨events, hevents, houtbox, hcursor⟩ := prepareHostInteraction_outbox h
      constructor
      · intro hkept others hothers entry hnew
        obtain rfl : events = others := Except.ok.inj (hevents.symm.trans hothers)
        obtain ⟨kept, hmem, hpending, hrepeats⟩ := hkept.staged entry hnew
        rw [houtbox] at hmem
        rcases List.mem_append.mp hmem with hmem | hmem
        · exact absurd hrepeats.1.symm (hnew.fresh kept hmem)
        · exact ⟨kept, hmem, hpending, hrepeats⟩
      · intro hcarried
        refine .ofGrowth (fun _ => true) ?_ (List.filter_true _).symm
          (fun _ _ => rfl) hdistinct ?_ hcursor
        · rw [houtbox]
          exact List.sublist_append_left _ _
        · intro entry hnew
          obtain ⟨kept, hmem, hpending, hrepeats⟩ := hcarried events hevents entry hnew
          refine ⟨kept, ?_, hpending, hrepeats⟩
          rw [houtbox]
          exact List.mem_append_right _ hmem

/-- The outbox through one write on a reached store: exactly the snapshots that carry the
stored outbox, or stage nothing besides it, lose no event. -/
theorem outbox_kept_iff (ops : List StoreOp) (op : StoreOp) (hop : op.delivers = false)
    (key : String) (current stored : Checkpoint)
    (hcurrent : (run exec ops {}).checkpoints[key]? = some current)
    (hstored : (run exec (ops ++ [op]) {}).checkpoints[key]? = some stored)
    (haccepted : stored ≠ current) :
    OutboxKept op.staged current stored ↔ OutboxCarried op current := by
  have hsound := run_line_sound ops key
  have hstep := exec_record ops op key
  have hafter : (exec op (run exec ops {})).checkpoints[key]? = some stored := by
    rw [run_append] at hstored
    exact hstored
  rw [hcurrent, hafter] at hstep
  cases hstep with
  | kept => exact absurd rfl haccepted
  | written _ _ hwrote =>
      have hvalid : ValidBesidesLease current := by
        unfold MemoryStore.line at hsound
        rw [hcurrent] at hsound
        cases hsound with
        | present _ _ hfiled => exact hfiled.valid
      obtain ⟨updated, cycles, modelCalls, history, terminalResult, hmade, _, rfl⟩ := hwrote.frame
      rw [← hmade.outboxKept_iff hop hvalid]
      exact ⟨fun h => ⟨h.pending, h.staged, h.delivered, h.distinct, h.cursor⟩,
        fun h => ⟨h.pending, h.staged, h.delivered, h.distinct, h.cursor⟩⟩

end

namespace Sample

/-- An event that the owner of the first claim stages. -/
def note : EventOutboxEntry where
  eventId := "evt_cycle_note"
  payloadDigest := "71622415753311cc7a6ac1dcfe6c773858cc1142828a24ac637d623931bf19be"
  state := "pending"
  event :=
    { RunEvent.new (clock "evt_cycle_note") "run" "trace" "vv-agent" (some 1)
        (.runStateChanged "running") with eventId := "evt_cycle_note" }.toValue
  cursor := none

def noteDocuments : List Known :=
  [{ member := "event_id"
     text := "evt_cycle_note"
     digest :=
       ⟨"71622415753311cc7a6ac1dcfe6c773858cc1142828a24ac637d623931bf19be", by decide⟩ }]

/-- A run whose owner has stored the event in the middle of the first cycle. -/
def notedRun : List StoreOp :=
  [.create created, .claim "checkpoint" 1 "worker-a" 2000 1000 .continue,
    .progress { claimed with eventOutbox := [note] } "worker-a" 1]

/-- The record of that run. -/
def noted : Checkpoint := { claimed with eventOutbox := [note], revision := 2 }

/-- The commit of the cycle, from a snapshot with the given outbox. -/
def commitNoted (eventOutbox : List EventOutboxEntry) : StoreOp :=
  .commit { noted with cycleIndex := 1, eventOutbox } "worker-a" 2

/-- The record after that commit. -/
def committedNoted (eventOutbox : List EventOutboxEntry) : Checkpoint :=
  { noted.releaseClaim with cycleIndex := 1, eventOutbox, revision := 3 }

end Sample

/-- A commit whose snapshot carries the stored event. -/
theorem outbox_kept_iff_noted :
    OutboxKept [Sample.note] Sample.noted (Sample.committedNoted [Sample.note]) := by
  let _ : Runtime := Sample.runtime Sample.noteDocuments
  refine (outbox_kept_iff Sample.notedRun (Sample.commitNoted [Sample.note]) rfl "checkpoint"
    Sample.noted (Sample.committedNoted [Sample.note]) (by decide +kernel) (by decide +kernel)
    (by decide +kernel)).mpr ⟨?_, ?_, rfl⟩
  · intro entry hmem _
    obtain rfl := List.mem_singleton.mp hmem
    exact ⟨Sample.note, List.mem_singleton_self _, rfl, rfl, rfl⟩
  · intro entry hmem hdelivered
    obtain rfl := List.mem_singleton.mp hmem
    exact absurd hdelivered (by decide)

/-- A commit from a snapshot without the stored event is accepted, and the event is gone. -/
theorem outbox_event_lost :
    letI := Sample.runtime Sample.noteDocuments
    (run exec Sample.notedRun {}).checkpoints["checkpoint"]? = some Sample.noted ∧
      (run exec (Sample.notedRun ++ [Sample.commitNoted []]) {}).checkpoints["checkpoint"]? =
        some (Sample.committedNoted []) ∧
      ¬OutboxKept [] Sample.noted (Sample.committedNoted []) := by
  refine ⟨by decide +kernel, by decide +kernel, ?_⟩
  intro hkept
  obtain ⟨kept, hmem, _⟩ := hkept.pending Sample.note (List.mem_singleton_self _) rfl
  exact absurd hmem List.not_mem_nil

end VvAgent
