import VvAgent.Json
import VvAgent.Lib.Run
import VvAgent.Lib.Table

/-!
The approval broker. Requests are registered, resolved, cancelled and discarded under one lock;
a waiter looks at its request under the same lock each time it is woken, until it has a
decision or its time is over. Every operation that takes the lock is one step.
-/

namespace VvAgent
open Lib Lib.Outcome

inductive ApprovalDecision where
  | approved
  | approvedForSession
  | denied (reason : String)
  | timedOut (reason : String)
  | needsApproval
  | detailed (decision : ApprovalDecision) (reason : Option String) (metadata : JsonObject)
  deriving DecidableEq

namespace ApprovalDecision

def action : ApprovalDecision → String
  | .approved => "allow"
  | .approvedForSession => "allow_session"
  | .denied _ => "deny"
  | .timedOut _ => "timeout"
  | .needsApproval => "needs_approval"
  | .detailed decision _ _ => decision.action

end ApprovalDecision

/-- A request, by what the broker reads of it. -/
structure ApprovalRequest where
  requestId : String
  toolName : String
  deriving DecidableEq

structure PendingApproval where
  request : ApprovalRequest
  decision : Option ApprovalDecision

/-- An undecided request is given a decision; a decided one keeps its own. -/
def PendingApproval.closeWith (decision : ApprovalDecision) (entry : PendingApproval) :
    PendingApproval :=
  { entry with decision := entry.decision.or (some decision) }

structure ApprovalBroker where
  pending : Table PendingApproval := ∅
  sessionAllowedTools : List String := []
  cancelDecision : Option ApprovalDecision := none

structure ApprovalError where
  message : String
  deriving DecidableEq

namespace ApprovalBroker

def timeoutDecision : ApprovalDecision := .timedOut "Approval request timed out."

/-- The decision that a new request has at once: the cancellation's, or the session's. -/
def decisionAtRegistration (broker : ApprovalBroker) (toolName : String) :
    Option ApprovalDecision :=
  broker.cancelDecision.or
    (if broker.sessionAllowedTools.contains toolName then some .approvedForSession else none)

def register (broker : ApprovalBroker) (request : ApprovalRequest) : ApprovalBroker :=
  let decision := broker.decisionAtRegistration request.toolName
  { broker with pending := broker.pending.insert request.requestId ⟨request, decision⟩ }

/-- The request of an id, as long as it is undecided. -/
def pendingRequest (broker : ApprovalBroker) (requestId : String) : Option ApprovalRequest :=
  (broker.pending[requestId]?.filter fun entry => entry.decision.isNone).map (·.request)

def resolve (broker : ApprovalBroker) (requestId : String) (decision : ApprovalDecision) :
    Except ApprovalError ApprovalBroker := do
  let request ← require (broker.pendingRequest requestId)
    ⟨"unknown approval request: " ++ requestId⟩
  let effective := broker.cancelDecision.getD decision
  return { broker with
    sessionAllowedTools :=
      if effective.action = "allow_session" then broker.sessionAllowedTools ++ [request.toolName]
      else broker.sessionAllowedTools
    pending := broker.pending.insert requestId ⟨request, some effective⟩ }

def discard (broker : ApprovalBroker) (requestId : String) : Bool × ApprovalBroker :=
  ((broker.pending[requestId]?).isSome,
    { broker with pending := broker.pending.erase requestId })

/-- The ids of the undecided requests. -/
def undecided (broker : ApprovalBroker) : List String :=
  (broker.pending.toList.filter fun entry => entry.2.decision.isNone).map (·.1)

def cancelPending (broker : ApprovalBroker) (reason : String) : Nat × ApprovalBroker :=
  (broker.undecided.length,
    { broker with
      cancelDecision := some (.denied reason)
      pending := broker.pending.map fun _ entry =>
        PendingApproval.closeWith (.denied reason) entry })

def resetCancelled (broker : ApprovalBroker) : ApprovalBroker :=
  { broker with cancelDecision := none }

/-- One pass of `wait_blocking` with the lock: what it returns, if it does not wait on. The
time that has passed is given, and whether the wait before the pass ended for want of time. -/
def waitPass (broker : ApprovalBroker) (requestId : String) (timeout : Option Nat)
    (elapsed : Nat) (timedOut : Bool) : Option ApprovalDecision × ApprovalBroker :=
  let removed := { broker with pending := broker.pending.erase requestId }
  match broker.pending[requestId]? >>= PendingApproval.decision with
  | some decision => (some decision, removed)
  | none =>
      if timeout.any fun limit => timedOut || limit ≤ elapsed then
        (some timeoutDecision, removed)
      else (none, broker)

end ApprovalBroker

/-! ### Runs of a broker -/

inductive WaitState where
  | waiting (timeout : Option Nat)
  | returned (decision : ApprovalDecision)

/-- The broker, the waiter of each request, and what has happened so far. -/
structure BrokerRun where
  broker : ApprovalBroker := {}
  waiters : Table WaitState := ∅
  /-- The requests that were registered. -/
  registered : List ApprovalRequest := []
  /-- The decisions that requests were given, at registration, by a resolution or by a
  cancellation. -/
  decided : List (String × ApprovalDecision) := []
  /-- The requests that were removed by a call of `discard`. -/
  discarded : List String := []
  /-- The requests that were resolved for the session while nothing was cancelled. -/
  granted : List ApprovalRequest := []

inductive BrokerEvent where
  | register (request : ApprovalRequest)
  | resolve (requestId : String) (decision : ApprovalDecision)
  | cancelPending (reason : String)
  | discard (requestId : String)
  | resetCancelled
  | startWait (requestId : String) (timeout : Option Nat)
  | pass (requestId : String) (elapsed : Nat) (timedOut : Bool)

namespace BrokerRun

def afterResolve (state : BrokerRun) (requestId : String) (decision : ApprovalDecision) :
    BrokerRun :=
  match state.broker.pendingRequest requestId, state.broker.resolve requestId decision with
  | some request, .ok broker =>
      let effective := state.broker.cancelDecision.getD decision
      { state with
        broker
        decided := state.decided ++ [(requestId, effective)]
        granted :=
          if effective.action = "allow_session" ∧ state.broker.cancelDecision = none then
            state.granted ++ [request]
          else state.granted }
  | _, _ => state

def afterPass (state : BrokerRun) (requestId : String) (elapsed : Nat) (timedOut : Bool) :
    BrokerRun :=
  match state.waiters[requestId]? with
  | some (.waiting timeout) =>
      match state.broker.waitPass requestId timeout elapsed timedOut with
      | (some decision, broker) =>
          { state with broker, waiters := state.waiters.insert requestId (.returned decision) }
      | (none, _) => state
  | _ => state

def step (event : BrokerEvent) (state : BrokerRun) : BrokerRun :=
  match event with
  | .register request =>
      { state with
        broker := state.broker.register request
        registered := state.registered ++ [request]
        decided := state.decided ++
          ((state.broker.decisionAtRegistration request.toolName).toList.map
            (request.requestId, ·)) }
  | .resolve requestId decision => state.afterResolve requestId decision
  | .cancelPending reason =>
      { state with
        broker := (state.broker.cancelPending reason).2
        decided := state.decided ++ state.broker.undecided.map (·, .denied reason) }
  | .discard requestId =>
      let (removed, broker) := state.broker.discard requestId
      { state with
        broker
        discarded := if removed then state.discarded ++ [requestId] else state.discarded }
  | .resetCancelled => { state with broker := state.broker.resetCancelled }
  | .startWait requestId timeout =>
      match state.waiters[requestId]? with
      | some _ => state
      | none => { state with waiters := state.waiters.insert requestId (.waiting timeout) }
  | .pass requestId elapsed timedOut => state.afterPass requestId elapsed timedOut

/-! ### What holds in every run with distinct requests -/

/-- The ids of registered requests differ. -/
def Fresh (event : BrokerEvent) (state : BrokerRun) : Prop :=
  ∀ request, event = .register request →
    ∀ other ∈ state.registered, other.requestId ≠ request.requestId

/-- A request has at most one decision, which is the one its entry has; while the broker is
cancelled no request is undecided; and a tool is allowed for the session only by a request that
was resolved so. -/
structure Consistent (state : BrokerRun) : Prop where
  once : (state.decided.map (·.1)).Nodup
  decidedRegistered : ∀ id decision, (id, decision) ∈ state.decided →
    ∃ request ∈ state.registered, request.requestId = id
  entry : ∀ (id : String) (entry : PendingApproval), state.broker.pending[id]? = some entry →
    entry.request ∈ state.registered ∧ entry.request.requestId = id ∧
      ∀ decision, entry.decision = some decision ↔ (id, decision) ∈ state.decided
  closed : state.broker.cancelDecision.isSome = true →
    ∀ (id : String) (entry : PendingApproval), state.broker.pending[id]? = some entry →
      entry.decision.isSome = true
  cancelled : ∀ decision, state.broker.cancelDecision = some decision → ∃ reason,
    decision = .denied reason
  session : ∀ tool ∈ state.broker.sessionAllowedTools, ∃ request ∈ state.granted,
    request.toolName = tool

theorem pendingRequest_eq_some {broker : ApprovalBroker} {id : String}
    {request : ApprovalRequest} :
    broker.pendingRequest id = some request ↔
      ∃ entry, broker.pending[id]? = some entry ∧ entry.decision = none ∧
        entry.request = request := by
  simp [ApprovalBroker.pendingRequest, Option.map_eq_some_iff, Option.filter_eq_some_iff, and_assoc]

theorem mem_undecided {broker : ApprovalBroker} {id : String} :
    id ∈ broker.undecided ↔
      ∃ entry, broker.pending[id]? = some entry ∧ entry.decision = none := by
  simp [ApprovalBroker.undecided]

theorem nodup_undecided (broker : ApprovalBroker) : broker.undecided.Nodup :=
  (Table.nodup_keys broker.pending).sublist (List.filter_sublist.map _)

/-- An undecided request has no decision in the history. -/
theorem Consistent.undecided {state : BrokerRun} (h : state.Consistent) {id : String}
    {entry : PendingApproval} (hentry : state.broker.pending[id]? = some entry)
    (hnone : entry.decision = none) : ∀ decision, (id, decision) ∉ state.decided := by
  intro decision hdecided
  have hsome := ((h.entry id entry hentry).2.2 decision).mpr hdecided
  rw [hnone] at hsome
  cases hsome

theorem nodup_append_decided {decided : List (String × ApprovalDecision)} (ids : List String)
    (decision : ApprovalDecision) (hdecided : (decided.map (·.1)).Nodup) (hids : ids.Nodup)
    (hnew : ∀ id ∈ ids, ∀ other, (id, other) ∉ decided) :
    ((decided ++ ids.map (·, decision)).map (·.1)).Nodup := by
  have hmap : (ids.map (·, decision)).map (·.1) = ids := by simp [Function.comp_def]
  rw [List.map_append, hmap]
  refine List.nodup_append.mpr ⟨hdecided, hids, ?_⟩
  intro first hfirst second hsecond
  obtain ⟨⟨id, other⟩, hmem, rfl⟩ := List.mem_map.mp hfirst
  rintro rfl
  exact hnew id hsecond other hmem

theorem Consistent.register {state : BrokerRun} (h : state.Consistent) (request : ApprovalRequest)
    (hfresh : Fresh (.register request) state) :
    (step (.register request) state).Consistent := by
  have hnew : ∀ decision, (request.requestId, decision) ∉ state.decided := by
    intro decision hdecided
    obtain ⟨other, hother, hid⟩ := h.decidedRegistered _ _ hdecided
    exact hfresh request rfl other hother hid
  have hget := Table.get_insert state.broker.pending request.requestId
  constructor
  · cases hdecision : state.broker.decisionAtRegistration request.toolName with
    | none => simpa [step, hdecision] using h.once
    | some decision =>
        have hnodup := nodup_append_decided [request.requestId] decision h.once
          (List.nodup_singleton _) (by simpa using hnew)
        simpa [step, hdecision] using hnodup
  · intro id decision hdecided
    rcases List.mem_append.mp hdecided with hold | hadded
    · obtain ⟨other, hother, hid⟩ := h.decidedRegistered id decision hold
      exact ⟨other, List.mem_append_left _ hother, hid⟩
    · obtain ⟨_, _, heq⟩ := List.mem_map.mp hadded
      exact ⟨request, by simp [step], congrArg Prod.fst heq⟩
  · intro id entry hentry
    change (state.broker.pending.insert _ _)[id]? = some entry at hentry
    rw [hget] at hentry
    split_ifs at hentry with hid
    · subst hid
      obtain rfl := Option.some.inj hentry
      refine ⟨by simp [step], rfl, fun decision => ?_⟩
      simp [step, hnew, eq_comm]
    · obtain ⟨hregistered, hname, hdecision⟩ := h.entry id entry hentry
      refine ⟨List.mem_append_left _ hregistered, hname, fun decision => ?_⟩
      rw [hdecision]
      simp [step, hid]
  · intro hcancelled id entry hentry
    change (state.broker.pending.insert _ _)[id]? = some entry at hentry
    rw [hget] at hentry
    split_ifs at hentry with hid
    · obtain rfl := Option.some.inj hentry
      have hcancel : state.broker.cancelDecision.isSome = true := hcancelled
      obtain ⟨decision, hdecision⟩ := Option.isSome_iff_exists.mp hcancel
      simp [ApprovalBroker.decisionAtRegistration, hdecision]
    · exact h.closed hcancelled id entry hentry
  · exact h.cancelled
  · exact h.session

theorem Consistent.resolve {state : BrokerRun} (h : state.Consistent) (id : String)
    (decision : ApprovalDecision) : (step (.resolve id decision) state).Consistent := by
  change (state.afterResolve id decision).Consistent
  unfold afterResolve
  cases hrequest : state.broker.pendingRequest id with
  | none => exact h
  | some request =>
      obtain ⟨entry, hentry, hnone, rfl⟩ := pendingRequest_eq_some.mp hrequest
      have hopen : state.broker.cancelDecision = none := by
        by_contra hcancelled
        have hsome := h.closed (Option.isSome_iff_ne_none.mpr hcancelled) id entry hentry
        simp [hnone] at hsome
      have hnew := h.undecided hentry hnone
      obtain ⟨hregistered, hname, _⟩ := h.entry id entry hentry
      have hget := Table.get_insert state.broker.pending id
      simp only [ApprovalBroker.resolve, hrequest, require_some, ok_bind, pure_ok, hopen,
        Option.getD_none, and_true]
      constructor
      · have hnodup := nodup_append_decided [id] decision h.once
          (List.nodup_singleton _) (by simpa using hnew)
        simpa using hnodup
      · intro other given hdecided
        rcases List.mem_append.mp hdecided with hold | hadded
        · exact h.decidedRegistered other given hold
        · obtain ⟨rfl, rfl⟩ := Prod.mk.inj (List.mem_singleton.mp hadded)
          exact ⟨entry.request, hregistered, hname⟩
      · intro other found hfound
        rw [hget] at hfound
        split_ifs at hfound with hid
        · subst hid
          obtain rfl := Option.some.inj hfound
          refine ⟨hregistered, hname, fun given => ?_⟩
          simp [hnew, eq_comm]
        · obtain ⟨hthere, hsame, hdecision⟩ := h.entry other found hfound
          refine ⟨hthere, hsame, fun given => ?_⟩
          rw [hdecision]
          simp [Ne.symm hid]
      · intro hcancelled
        simp at hcancelled
      · intro given hgiven
        simp at hgiven
      · intro tool htool
        dsimp only at htool ⊢
        split_ifs at htool ⊢ with hsession
        · rcases List.mem_append.mp htool with hold | hadded
          · obtain ⟨other, hother, hsame⟩ := h.session tool hold
            exact ⟨other, List.mem_append_left _ hother, hsame⟩
          · exact ⟨entry.request, by simp, (List.mem_singleton.mp hadded).symm⟩
        · exact h.session tool htool

theorem get_cancelPending (broker : ApprovalBroker) (reason : String) (id : String) :
    (broker.cancelPending reason).2.pending[id]? =
      broker.pending[id]?.map (PendingApproval.closeWith (.denied reason)) := by
  change (broker.pending.map _)[id]? = _
  rw [Std.ExtTreeMap.getElem?_map]

theorem Consistent.cancelPending {state : BrokerRun} (h : state.Consistent) (reason : String) :
    (step (.cancelPending reason) state).Consistent := by
  have hnew : ∀ id ∈ state.broker.undecided, ∀ other, (id, other) ∉ state.decided := by
    intro id hid
    obtain ⟨entry, hentry, hnone⟩ := mem_undecided.mp hid
    exact h.undecided hentry hnone
  have hpending : ∀ {id : String} {entry : PendingApproval},
      (step (.cancelPending reason) state).broker.pending[id]? = some entry →
        ∃ before : PendingApproval, state.broker.pending[id]? = some before ∧
          entry = PendingApproval.closeWith (.denied reason) before := by
    intro id entry hentry
    change (state.broker.cancelPending reason).2.pending[id]? = some entry at hentry
    rw [get_cancelPending, Option.map_eq_some_iff] at hentry
    obtain ⟨before, hbefore, rfl⟩ := hentry
    exact ⟨before, hbefore, rfl⟩
  constructor
  · exact nodup_append_decided _ (.denied reason) h.once (nodup_undecided _) hnew
  · intro id decision hdecided
    rcases List.mem_append.mp hdecided with hold | hadded
    · exact h.decidedRegistered id decision hold
    · obtain ⟨other, hother, heq⟩ := List.mem_map.mp hadded
      obtain ⟨entry, hentry, _⟩ := mem_undecided.mp hother
      obtain ⟨hregistered, hname, _⟩ := h.entry other entry hentry
      exact ⟨entry.request, hregistered, hname.trans (congrArg Prod.fst heq)⟩
  · intro id entry hentry
    obtain ⟨before, hbefore, rfl⟩ := hpending hentry
    obtain ⟨hregistered, hname, hdecision⟩ := h.entry id before hbefore
    refine ⟨hregistered, hname, fun decision => ?_⟩
    change before.decision.or _ = some decision ↔
      (id, decision) ∈ state.decided ++ state.broker.undecided.map (·, .denied reason)
    have hclosed : id ∈ state.broker.undecided ↔ before.decision = none := by
      rw [mem_undecided]
      constructor
      · rintro ⟨other, hother, hnone⟩
        rwa [← Option.some.inj (hother.symm.trans hbefore)]
      · exact fun hnone => ⟨before, hbefore, hnone⟩
    cases hgiven : before.decision with
    | none =>
        have hold : (id, decision) ∉ state.decided := h.undecided hbefore hgiven decision
        simp [hold, hclosed.mpr hgiven, eq_comm]
    | some given =>
        have hkept : id ∉ state.broker.undecided := fun hid => by
          rw [hclosed.mp hid] at hgiven
          cases hgiven
        have hgiven' := hdecision decision
        rw [hgiven] at hgiven'
        simpa [hkept] using hgiven'
  · intro _ id entry hentry
    obtain ⟨before, _, rfl⟩ := hpending hentry
    cases hgiven : before.decision <;> simp [PendingApproval.closeWith, hgiven]
  · intro decision hdecision
    exact ⟨reason, (Option.some.inj hdecision).symm⟩
  · exact h.session

/-- Requests may be taken away, and a cancellation may end. -/
theorem Consistent.fewer {state after : BrokerRun} (h : state.Consistent)
    (hpending : ∀ (id : String) (entry : PendingApproval),
      after.broker.pending[id]? = some entry → state.broker.pending[id]? = some entry)
    (hregistered : after.registered = state.registered) (hdecided : after.decided = state.decided)
    (hgranted : after.granted = state.granted)
    (hsession : after.broker.sessionAllowedTools = state.broker.sessionAllowedTools)
    (hcancel : ∀ decision, after.broker.cancelDecision = some decision →
      state.broker.cancelDecision = some decision) : after.Consistent := by
  constructor
  · rw [hdecided]
    exact h.once
  · rw [hdecided, hregistered]
    exact h.decidedRegistered
  · intro id entry hentry
    rw [hdecided, hregistered]
    exact h.entry id entry (hpending id entry hentry)
  · intro hcancelled id entry hentry
    obtain ⟨decision, hdecision⟩ := Option.isSome_iff_exists.mp hcancelled
    exact h.closed (by rw [hcancel decision hdecision]; rfl) id entry (hpending id entry hentry)
  · intro decision hdecision
    exact h.cancelled decision (hcancel decision hdecision)
  · rw [hsession, hgranted]
    exact h.session

theorem get_erase_some {pending : Table PendingApproval} {erased id : String}
    {entry : PendingApproval} (h : (pending.erase erased)[id]? = some entry) :
    pending[id]? = some entry := by
  rw [Table.get_erase] at h
  split_ifs at h
  exact h

/-- What a pass does: it returns the decision of the request, or the timeout's for want of one,
and takes the request away; or it waits on. -/
theorem waitPass_cases (broker : ApprovalBroker) (id : String) (timeout : Option Nat)
    (elapsed : Nat) (timedOut : Bool) :
    (∃ entry decision, broker.pending[id]? = some entry ∧ entry.decision = some decision ∧
        broker.waitPass id timeout elapsed timedOut =
          (some decision, { broker with pending := broker.pending.erase id })) ∨
      ((∀ entry, broker.pending[id]? = some entry → entry.decision = none) ∧
        ((timeout.isSome = true ∧ broker.waitPass id timeout elapsed timedOut =
            (some ApprovalBroker.timeoutDecision,
              { broker with pending := broker.pending.erase id })) ∨
          broker.waitPass id timeout elapsed timedOut = (none, broker))) := by
  unfold ApprovalBroker.waitPass
  cases hentry : broker.pending[id]? with
  | none =>
      refine .inr ⟨by simp, ?_⟩
      cases timeout with
      | none => exact .inr rfl
      | some limit =>
          cases hover : (timedOut || decide (limit ≤ elapsed)) <;> simp [hover]
  | some entry =>
      cases hdecision : entry.decision with
      | some decision => exact .inl ⟨entry, decision, rfl, hdecision, by simp [hdecision]⟩
      | none =>
          refine .inr ⟨by simpa using hdecision, ?_⟩
          cases timeout with
          | none => exact .inr (by simp [hdecision])
          | some limit =>
              cases hover : (timedOut || decide (limit ≤ elapsed)) <;> simp [hdecision, hover]

theorem Consistent.pass {state : BrokerRun} (h : state.Consistent) (id : String) (elapsed : Nat)
    (timedOut : Bool) : (step (.pass id elapsed timedOut) state).Consistent := by
  change (state.afterPass id elapsed timedOut).Consistent
  unfold afterPass
  split
  · next timeout _ =>
      rcases waitPass_cases state.broker id timeout elapsed timedOut with
        ⟨entry, decision, _, _, hpass⟩ | ⟨_, ⟨_, hpass⟩ | hpass⟩
      · rw [hpass]
        exact h.fewer (fun _ _ => get_erase_some) rfl rfl rfl rfl fun _ hsame => hsame
      · rw [hpass]
        exact h.fewer (fun _ _ => get_erase_some) rfl rfl rfl rfl fun _ hsame => hsame
      · rw [hpass]
        exact h
  · exact h

/-- Every step keeps the history and the entries consistent. -/
theorem Consistent.step {state : BrokerRun} (h : state.Consistent) (event : BrokerEvent)
    (hfresh : Fresh event state) : (step event state).Consistent := by
  cases event with
  | register request => exact h.register request hfresh
  | resolve id decision => exact h.resolve id decision
  | cancelPending reason => exact h.cancelPending reason
  | discard id => exact h.fewer (fun _ _ => get_erase_some) rfl rfl rfl rfl fun _ hsame => hsame
  | resetCancelled =>
      refine h.fewer (fun _ _ hsame => hsame) rfl rfl rfl rfl ?_
      intro decision hdecision
      cases hdecision
  | startWait id timeout =>
      simp only [BrokerRun.step]
      split
      · exact h
      · exact h.fewer (fun _ _ hsame => hsame) rfl rfl rfl rfl fun _ hsame => hsame
  | pass id elapsed timedOut => exact h.pass id elapsed timedOut

/-! ### Waiters -/

/-- The condition under which waiters get what they wait for: a request that is discarded while
it is waited for, or waited for after it was discarded, has no decision, and the wait is not
without a timeout. -/
def WaitsBounded (event : BrokerEvent) (state : BrokerRun) : Prop :=
  match event with
  | .discard id => ∀ (entry : PendingApproval) (timeout : Option Nat),
      state.broker.pending[id]? = some entry → state.waiters[id]? = some (.waiting timeout) →
        entry.decision = none ∧ timeout.isSome = true
  | .startWait id timeout => id ∈ state.discarded →
      (∀ decision, (id, decision) ∉ state.decided) ∧ timeout.isSome = true
  | _ => True

/-- A request that was decided is there until its waiter has returned or it is discarded. -/
structure WaitersServed (state : BrokerRun) : Prop where
  gone : ∀ id ∈ state.discarded, state.broker.pending[id]? = none
  known : ∀ id ∈ state.discarded, ∃ request ∈ state.registered, request.requestId = id
  kept : ∀ id decision, (id, decision) ∈ state.decided → (state.broker.pending[id]?).isSome = true ∨
    id ∈ state.discarded ∨ ∃ returned, state.waiters[id]? = some (.returned returned)
  discardedWait : ∀ id ∈ state.discarded, ∀ timeout,
    state.waiters[id]? = some (.waiting timeout) →
      (∀ decision, (id, decision) ∉ state.decided) ∧ timeout.isSome = true

/-- A request that is waited for has its entry if it was decided. -/
theorem WaitersServed.entry {state : BrokerRun} (h : state.WaitersServed)
    {id : String} {timeout : Option Nat} (hwait : state.waiters[id]? = some (.waiting timeout))
    {decision : ApprovalDecision} (hdecided : (id, decision) ∈ state.decided) :
    ∃ entry, state.broker.pending[id]? = some entry := by
  rcases h.kept id decision hdecided with hthere | hdiscarded | ⟨returned, hreturned⟩
  · exact Option.isSome_iff_exists.mp hthere
  · exact absurd hdecided ((h.discardedWait id hdiscarded timeout hwait).1 decision)
  · rw [hwait] at hreturned
    cases hreturned

theorem WaitersServed.register {state : BrokerRun} (h : state.WaitersServed)
    (request : ApprovalRequest) (hfresh : Fresh (.register request) state) :
    (step (.register request) state).WaitersServed := by
  have hother : ∀ id ∈ state.discarded, request.requestId ≠ id := by
    rintro id hid rfl
    obtain ⟨other, hmem, hname⟩ := h.known _ hid
    exact hfresh request rfl other hmem hname
  have hget := Table.get_insert state.broker.pending request.requestId
  constructor
  · intro id hid
    change (state.broker.pending.insert _ _)[id]? = none
    rw [hget, if_neg (hother id hid)]
    exact h.gone id hid
  · intro id hid
    obtain ⟨other, hmem, hname⟩ := h.known id hid
    exact ⟨other, List.mem_append_left _ hmem, hname⟩
  · intro id decision hdecided
    change ((state.broker.pending.insert _ _)[id]?).isSome = true ∨ _
    rw [hget]
    split_ifs with hid
    · exact .inl rfl
    · rcases List.mem_append.mp hdecided with hold | hadded
      · exact h.kept id decision hold
      · obtain ⟨_, _, heq⟩ := List.mem_map.mp hadded
        exact absurd (congrArg Prod.fst heq) hid
  · intro id hid timeout hwait
    obtain ⟨hnone, hbounded⟩ := h.discardedWait id hid timeout hwait
    refine ⟨fun decision hdecided => ?_, hbounded⟩
    rcases List.mem_append.mp hdecided with hold | hadded
    · exact hnone decision hold
    · obtain ⟨_, _, heq⟩ := List.mem_map.mp hadded
      exact hother id hid (congrArg Prod.fst heq)

/-- Requests that are there may be given a decision. -/
theorem WaitersServed.decide {state after : BrokerRun} (h : state.WaitersServed)
    (hpending : ∀ id : String, (after.broker.pending[id]?).isSome =
      (state.broker.pending[id]?).isSome)
    (hdecided : ∀ id decision, (id, decision) ∈ after.decided → (id, decision) ∈ state.decided ∨
      (state.broker.pending[id]?).isSome = true)
    (hregistered : after.registered = state.registered)
    (hdiscarded : after.discarded = state.discarded) (hwaiters : after.waiters = state.waiters) :
    after.WaitersServed := by
  constructor
  · intro id hid
    rw [hdiscarded] at hid
    have hgone := h.gone id hid
    rw [← Option.isNone_iff_eq_none, ← Option.isSome_eq_false_iff] at hgone ⊢
    rw [hpending, hgone]
  · rw [hdiscarded, hregistered]
    exact h.known
  · intro id decision hnow
    rw [hpending, hdiscarded, hwaiters]
    rcases hdecided id decision hnow with hold | hthere
    · exact h.kept id decision hold
    · exact .inl hthere
  · intro id hid timeout hwait
    rw [hdiscarded] at hid
    rw [hwaiters] at hwait
    obtain ⟨hnone, hbounded⟩ := h.discardedWait id hid timeout hwait
    refine ⟨fun decision hnow => ?_, hbounded⟩
    rcases hdecided id decision hnow with hold | hthere
    · exact hnone decision hold
    · simp [h.gone id hid] at hthere

theorem WaitersServed.resolve {state : BrokerRun} (h : state.WaitersServed) (id : String)
    (decision : ApprovalDecision) : (step (.resolve id decision) state).WaitersServed := by
  change (state.afterResolve id decision).WaitersServed
  unfold afterResolve
  cases hrequest : state.broker.pendingRequest id with
  | none => exact h
  | some request =>
      obtain ⟨entry, hentry, _, _⟩ := pendingRequest_eq_some.mp hrequest
      simp only [ApprovalBroker.resolve, hrequest, require_some, ok_bind, pure_ok]
      refine h.decide ?_ ?_ rfl rfl rfl
      · intro other
        dsimp only
        rw [Table.get_insert]
        split_ifs with hid
        · rw [← hid, hentry]
          rfl
        · rfl
      · intro other given hnow
        rcases List.mem_append.mp hnow with hold | hadded
        · exact .inl hold
        · obtain ⟨rfl, rfl⟩ := Prod.mk.inj (List.mem_singleton.mp hadded)
          exact .inr (by rw [hentry]; rfl)

theorem WaitersServed.cancelPending {state : BrokerRun} (h : state.WaitersServed)
    (reason : String) : (BrokerRun.step (.cancelPending reason) state).WaitersServed := by
  refine h.decide ?_ ?_ rfl rfl rfl
  · intro id
    change ((state.broker.cancelPending reason).2.pending[id]?).isSome = _
    rw [get_cancelPending, Option.isSome_map]
  · intro id decision hnow
    rcases List.mem_append.mp hnow with hold | hadded
    · exact .inl hold
    · obtain ⟨other, hother, heq⟩ := List.mem_map.mp hadded
      obtain ⟨entry, hentry, _⟩ := mem_undecided.mp hother
      obtain rfl : other = id := congrArg Prod.fst heq
      exact .inr (by rw [hentry]; rfl)

theorem WaitersServed.discard {state : BrokerRun} (hstate : state.Consistent)
    (h : state.WaitersServed) (id : String) (hbounded : WaitsBounded (.discard id) state) :
    (BrokerRun.step (.discard id) state).WaitersServed := by
  have hdiscarded : ∀ other, other ∈ (BrokerRun.step (.discard id) state).discarded ↔
      other ∈ state.discarded ∨ (other = id ∧ (state.broker.pending[id]?).isSome = true) := by
    intro other
    change other ∈ (if (state.broker.pending[id]?).isSome = true then state.discarded ++ [id]
      else state.discarded) ↔ _
    split_ifs with hthere
    · simp [hthere]
    · simp [hthere]
  have hpending : ∀ other : String, (BrokerRun.step (.discard id) state).broker.pending[other]? =
      if id = other then none else state.broker.pending[other]? :=
    fun other => Table.get_erase state.broker.pending id other
  constructor
  · intro other hother
    rw [hpending]
    split_ifs with hid
    · rfl
    · rcases (hdiscarded other).mp hother with hold | ⟨rfl, _⟩
      · exact h.gone other hold
      · exact absurd rfl hid
  · intro other hother
    rcases (hdiscarded other).mp hother with hold | ⟨rfl, hthere⟩
    · exact h.known other hold
    · obtain ⟨entry, hentry⟩ := Option.isSome_iff_exists.mp hthere
      exact ⟨entry.request, (hstate.entry other entry hentry).1, (hstate.entry other entry hentry).2.1⟩
  · intro other decision hdecided
    rw [hpending, hdiscarded]
    rcases h.kept other decision hdecided with hthere | hold | hreturned
    · split_ifs with hid
      · subst hid
        exact .inr (.inl (.inr ⟨rfl, hthere⟩))
      · exact .inl hthere
    · exact .inr (.inl (.inl hold))
    · exact .inr (.inr hreturned)
  · intro other hother timeout hwait
    rcases (hdiscarded other).mp hother with hold | ⟨rfl, hthere⟩
    · exact h.discardedWait other hold timeout hwait
    · obtain ⟨entry, hentry⟩ := Option.isSome_iff_exists.mp hthere
      obtain ⟨hnone, hsome⟩ := hbounded entry timeout hentry hwait
      exact ⟨hstate.undecided hentry hnone, hsome⟩

theorem WaitersServed.startWait {state : BrokerRun} (h : state.WaitersServed) (id : String)
    (timeout : Option Nat) (hbounded : WaitsBounded (.startWait id timeout) state) :
    (BrokerRun.step (.startWait id timeout) state).WaitersServed := by
  simp only [BrokerRun.step]
  cases hwaiter : state.waiters[id]? with
  | some _ => exact h
  | none =>
      have hget := Table.get_insert state.waiters id
      refine ⟨h.gone, h.known, ?_, ?_⟩
      · intro other decision hdecided
        dsimp only
        rw [hget]
        rcases h.kept other decision hdecided with hthere | hold | ⟨returned, hreturned⟩
        · exact .inl hthere
        · exact .inr (.inl hold)
        · refine .inr (.inr ⟨returned, ?_⟩)
          split_ifs with hid
          · rw [← hid, hwaiter] at hreturned
            cases hreturned
          · exact hreturned
      · intro other hother given hwait
        dsimp only at hwait
        rw [hget] at hwait
        split_ifs at hwait with hid
        · subst hid
          obtain rfl : timeout = given := by
            have hsame := Option.some.inj hwait
            injection hsame
          exact hbounded hother
        · exact h.discardedWait other hother given hwait

/-- A waiter that returns takes its request away. -/
theorem WaitersServed.return {state : BrokerRun} (h : state.WaitersServed) (id : String)
    (returned : ApprovalDecision) :
    WaitersServed { state with
      broker := { state.broker with pending := state.broker.pending.erase id }
      waiters := state.waiters.insert id (.returned returned) } := by
  have hget := Table.get_insert state.waiters id
  have herase := Table.get_erase state.broker.pending id
  refine ⟨?_, h.known, ?_, ?_⟩
  · intro other hother
    dsimp only
    rw [herase]
    split_ifs
    · rfl
    · exact h.gone other hother
  · intro other decision hdecided
    dsimp only
    rw [herase, hget]
    split_ifs with hid
    · exact .inr (.inr ⟨returned, rfl⟩)
    · exact h.kept other decision hdecided
  · intro other hother timeout hwait
    dsimp only at hwait
    rw [hget] at hwait
    split_ifs at hwait
    · cases Option.some.inj hwait
    · exact h.discardedWait other hother timeout hwait

theorem WaitersServed.pass {state : BrokerRun} (h : state.WaitersServed) (id : String)
    (elapsed : Nat) (timedOut : Bool) :
    (BrokerRun.step (.pass id elapsed timedOut) state).WaitersServed := by
  change (state.afterPass id elapsed timedOut).WaitersServed
  unfold afterPass
  split
  · next timeout _ =>
      rcases waitPass_cases state.broker id timeout elapsed timedOut with
        ⟨entry, decision, _, _, hpass⟩ | ⟨_, ⟨_, hpass⟩ | hpass⟩
      · rw [hpass]
        exact h.return id decision
      · rw [hpass]
        exact h.return id ApprovalBroker.timeoutDecision
      · rw [hpass]
        exact h
  · exact h

theorem WaitersServed.step {state : BrokerRun} (hstate : state.Consistent) (h : state.WaitersServed)
    (event : BrokerEvent) (hfresh : Fresh event state) (hbounded : WaitsBounded event state) :
    (BrokerRun.step event state).WaitersServed := by
  cases event with
  | register request => exact h.register request hfresh
  | resolve id decision => exact h.resolve id decision
  | cancelPending reason => exact h.cancelPending reason
  | discard id => exact h.discard hstate id hbounded
  | resetCancelled => exact h.decide (fun _ => rfl) (fun _ _ => .inl) rfl rfl rfl
  | startWait id timeout => exact h.startWait id timeout hbounded
  | pass id elapsed timedOut => exact h.pass id elapsed timedOut

/-! ### What a broker guarantees -/

/-- A waiter gets the decision of its request, or the timeout's for want of one, and takes the
request away; it returns at once when there is a decision, and in bounded time when its request
was discarded. -/
structure Served (state : BrokerRun) (id : String) (timeout : Option Nat) : Prop where
  decision : ∀ elapsed timedOut returned,
    (state.broker.waitPass id timeout elapsed timedOut).1 = some returned →
      ((id, returned) ∈ state.decided ∨
        (returned = ApprovalBroker.timeoutDecision ∧ timeout.isSome = true ∧
          ∀ given, (id, given) ∉ state.decided)) ∧
      (step (.pass id elapsed timedOut) state).waiters[id]? = some (.returned returned) ∧
      (step (.pass id elapsed timedOut) state).broker.pending[id]? = none
  ready : ∀ given, (id, given) ∈ state.decided → ∀ elapsed timedOut,
    (state.broker.waitPass id timeout elapsed timedOut).1 = some given
  discarded : id ∈ state.discarded → ∃ bound, ∀ elapsed timedOut, bound ≤ elapsed →
    ((state.broker.waitPass id timeout elapsed timedOut).1).isSome = true

/-- What a pass of a waiting waiter leaves, when it returns. -/
theorem step_pass_returned {state : BrokerRun} {id : String} {timeout : Option Nat}
    {elapsed : Nat} {timedOut : Bool} {returned : ApprovalDecision}
    (hwait : state.waiters[id]? = some (.waiting timeout))
    (hpass : state.broker.waitPass id timeout elapsed timedOut =
      (some returned, { state.broker with pending := state.broker.pending.erase id })) :
    (BrokerRun.step (.pass id elapsed timedOut) state).waiters[id]? = some (.returned returned) ∧
      (BrokerRun.step (.pass id elapsed timedOut) state).broker.pending[id]? = none := by
  have hstep : BrokerRun.step (.pass id elapsed timedOut) state =
      { state with
        broker := { state.broker with pending := state.broker.pending.erase id }
        waiters := state.waiters.insert id (.returned returned) } := by
    change state.afterPass id elapsed timedOut = _
    simp only [afterPass, hwait, hpass]
  rw [hstep]
  dsimp only
  rw [Table.get_insert, Table.get_erase]
  simp

theorem WaitersServed.served {state : BrokerRun} (hstate : state.Consistent)
    (h : state.WaitersServed) {id : String} {timeout : Option Nat}
    (hwait : state.waiters[id]? = some (.waiting timeout)) : state.Served id timeout := by
  constructor
  · intro elapsed timedOut returned hreturned
    rcases waitPass_cases state.broker id timeout elapsed timedOut with
      ⟨entry, decision, hentry, hdecision, hpass⟩ | ⟨hnone, ⟨hbounded, hpass⟩ | hpass⟩
    · rw [hpass] at hreturned
      obtain rfl := Option.some.inj hreturned
      have hdecided := ((hstate.entry id entry hentry).2.2 decision).mp hdecision
      exact ⟨.inl hdecided, step_pass_returned hwait hpass⟩
    · rw [hpass] at hreturned
      obtain rfl := Option.some.inj hreturned
      refine ⟨.inr ⟨rfl, hbounded, ?_⟩, step_pass_returned hwait hpass⟩
      intro given hgiven
      obtain ⟨entry, hentry⟩ := h.entry hwait hgiven
      exact hstate.undecided hentry (hnone entry hentry) given hgiven
    · rw [hpass] at hreturned
      cases hreturned
  · intro given hgiven elapsed timedOut
    obtain ⟨entry, hentry⟩ := h.entry hwait hgiven
    have hdecision := ((hstate.entry id entry hentry).2.2 given).mpr hgiven
    simp [ApprovalBroker.waitPass, hentry, hdecision]
  · intro hdiscarded
    obtain ⟨_, hbounded⟩ := h.discardedWait id hdiscarded timeout hwait
    obtain ⟨limit, rfl⟩ := Option.isSome_iff_exists.mp hbounded
    refine ⟨limit, fun elapsed timedOut helapsed => ?_⟩
    simp [ApprovalBroker.waitPass, h.gone id hdiscarded, helapsed]

/-- The request is gone for good and the waiter waits for it without a timeout. -/
structure WaitsForNothing (state : BrokerRun) (id : String) : Prop where
  gone : state.broker.pending[id]? = none
  waits : state.waiters[id]? = some (.waiting none)
  known : ∃ request ∈ state.registered, request.requestId = id

/-- Another waiter may return. -/
theorem WaitsForNothing.returned {state : BrokerRun} {id other : String}
    (h : state.WaitsForNothing id) (hother : other ≠ id) (decision : ApprovalDecision) :
    WaitsForNothing { state with
      broker := { state.broker with pending := state.broker.pending.erase other }
      waiters := state.waiters.insert other (.returned decision) } id := by
  refine ⟨?_, ?_, h.known⟩
  · dsimp only
    rw [Table.get_erase, h.gone, ite_self]
  · dsimp only
    rw [Table.get_insert, if_neg hother]
    exact h.waits

/-- A waiter without a timeout does not return when its request is gone. -/
theorem WaitsForNothing.step {state : BrokerRun} {id : String} (h : state.WaitsForNothing id)
    (event : BrokerEvent) (hfresh : Fresh event state) :
    (BrokerRun.step event state).WaitsForNothing id := by
  obtain ⟨request, hrequest, hname⟩ := h.known
  have hinsert := Table.get_insert state.waiters
  cases event with
  | register other =>
      have hother : other.requestId ≠ id := fun hsame =>
        hfresh other rfl request hrequest (hname.trans hsame.symm)
      refine ⟨?_, h.waits, ⟨request, List.mem_append_left _ hrequest, hname⟩⟩
      change (state.broker.pending.insert _ _)[id]? = none
      rw [Table.get_insert, if_neg hother]
      exact h.gone
  | resolve other decision =>
      change (state.afterResolve other decision).WaitsForNothing id
      unfold afterResolve
      cases hpending : state.broker.pendingRequest other with
      | none => exact h
      | some found =>
          obtain ⟨entry, hentry, _, _⟩ := pendingRequest_eq_some.mp hpending
          have hother : other ≠ id := by
            rintro rfl
            rw [h.gone] at hentry
            cases hentry
          simp only [ApprovalBroker.resolve, hpending, require_some, ok_bind, pure_ok]
          refine ⟨?_, h.waits, h.known⟩
          dsimp only
          rw [Table.get_insert, if_neg hother]
          exact h.gone
  | cancelPending reason =>
      refine ⟨?_, h.waits, h.known⟩
      change (state.broker.cancelPending reason).2.pending[id]? = none
      rw [get_cancelPending, h.gone, Option.map_none]
  | discard other =>
      refine ⟨?_, h.waits, h.known⟩
      change (state.broker.pending.erase other)[id]? = none
      rw [Table.get_erase, h.gone, ite_self]
  | resetCancelled => exact ⟨h.gone, h.waits, h.known⟩
  | startWait other timeout =>
      simp only [BrokerRun.step]
      cases hwaiter : state.waiters[other]? with
      | some _ => exact h
      | none =>
          have hother : other ≠ id := by
            rintro rfl
            rw [h.waits] at hwaiter
            cases hwaiter
          refine ⟨h.gone, ?_, h.known⟩
          dsimp only
          rw [hinsert, if_neg hother]
          exact h.waits
  | pass other elapsed timedOut =>
      change (state.afterPass other elapsed timedOut).WaitsForNothing id
      unfold afterPass
      split
      · next timeout hwaiter =>
          rcases waitPass_cases state.broker other timeout elapsed timedOut with
            ⟨entry, decision, hentry, _, hpass⟩ | ⟨_, ⟨hbounded, hpass⟩ | hpass⟩
          · have hother : other ≠ id := by
              rintro rfl
              rw [h.gone] at hentry
              cases hentry
            rw [hpass]
            exact h.returned hother decision
          · have hother : other ≠ id := by
              rintro rfl
              rw [h.waits] at hwaiter
              cases hwaiter
              cases hbounded
            rw [hpass]
            exact h.returned hother ApprovalBroker.timeoutDecision
          · rw [hpass]
            exact h
      · exact h

end BrokerRun

end VvAgent
