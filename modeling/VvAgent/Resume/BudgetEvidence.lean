import VvAgent.Resume.ModelTerminal
import VvAgent.Members
import VvAgent.Sample

/-!
The budget observation behind every model terminal. The controller of the budget reports a
snapshot only if it differs from the last one and nothing once the budget is exhausted; the
validator of the store wants an observation behind every terminal. The two agree as long as
every closed call shows in the budget.
-/

namespace VvAgent
open Lib Lib.Outcome

/-! Fields of written events. -/

/-- A field that only the payload writes. -/
theorem RunEvent.toValue_get (event : RunEvent) (hextra : event.extraFields = []) (key : String)
    (hcommon : key ∉ ["version", "event_id", "run_id", "trace_id", "session_id",
      "parent_event_id", "parent_run_id", "created_at", "cycle_index", "agent_name",
      "metadata"]) :
    event.toValue.get? key = (insertMembers [] event.payload.fields).lookup key := by
  unfold RunEvent.toValue
  dsimp only
  rw [hextra]
  change (insertMembers (insertMembers [] event.payload.fields) _).lookup key = _
  apply lookup_insertMembers_other
  intro field hmem heq
  apply hcommon
  rw [← heq]
  simp only [List.mem_cons, List.not_mem_nil, or_false] at hmem
  rcases hmem with rfl | rfl | rfl | rfl | rfl | rfl | rfl | rfl | rfl | rfl | rfl <;> simp

namespace RunEventPayload

/-- The payload of the terminal event of a model call. -/
def endsModelCall : RunEventPayload → Bool
  | .modelCallCompleted .. | .modelCallFailed .. => true
  | _ => false

/-- The payload of a budget observation at the end of a model call. -/
def observesModelCall : RunEventPayload → Bool
  | .budgetSnapshot boundary _ | .budgetExhausted boundary _ _ => boundary = .modelCallComplete
  | _ => false

end RunEventPayload

/-- The event of a closed model call, as the validator looks for it. -/
def isModelTerminalEvent (event : Json) : Bool :=
  eventType event = some "model_call_completed" || eventType event = some "model_call_failed"

theorem eventType_of_first {event : RunEvent} (hextra : event.extraFields = []) {name : String}
    {fields : List (String × Option Json)}
    (hfields : event.payload.fields = ("type", some (.str name)) :: fields)
    (hother : ∀ field ∈ fields, field.1 ≠ "type") : eventType event.toValue = some name := by
  unfold eventType
  rw [event.toValue_get hextra "type" (by decide), hfields,
    lookup_insertMembers_first _ _ _ _ hother]
  rfl

/-- The terminal event of a model call is read as one, and not as a budget observation. -/
theorem toValue_endsModelCall {event : RunEvent} (hextra : event.extraFields = [])
    (hpayload : event.payload.endsModelCall = true) :
    isModelTerminalEvent event.toValue = true ∧ isModelBudgetEvent event.toValue = false := by
  have htype : eventType event.toValue = some "model_call_completed" ∨
      eventType event.toValue = some "model_call_failed" := by
    cases hkind : event.payload with
    | modelCallCompleted callId operationId attempt operation backend model usage =>
        refine .inl (eventType_of_first hextra (by rw [hkind]; rfl) ?_)
        simp [RunEventPayload.modelCallFields]
    | modelCallFailed callId operationId attempt operation backend model outcome usage errorCode =>
        refine .inr (eventType_of_first hextra (by rw [hkind]; rfl) ?_)
        simp [RunEventPayload.modelCallFields]
    | _ =>
        rw [hkind] at hpayload
        cases hpayload
  unfold isModelTerminalEvent isModelBudgetEvent
  rcases htype with htype | htype <;> simp [htype]

/-- A budget observation is read as one, and not as a terminal event. -/
theorem toValue_observesModelCall {event : RunEvent} (hextra : event.extraFields = [])
    (hpayload : event.payload.observesModelCall = true) :
    isModelBudgetEvent event.toValue = true ∧ isModelTerminalEvent event.toValue = false := by
  have hboundary := event.toValue_get hextra "enforcement_boundary" (by decide)
  have htype : (eventType event.toValue = some "budget_snapshot" ∨
      eventType event.toValue = some "budget_exhausted") ∧
      event.toValue.get? "enforcement_boundary" = some (.str "model_call_complete") := by
    cases hkind : event.payload with
    | budgetSnapshot boundary usage =>
        rw [hkind] at hpayload hboundary
        have heq : boundary = .modelCallComplete := of_decide_eq_true hpayload
        subst heq
        refine ⟨.inl (eventType_of_first hextra (by rw [hkind]; rfl) (by simp)),
          hboundary.trans ?_⟩
        exact lookup_insertMembers_first _ _ _ _ (by simp)
    | budgetExhausted boundary usage exhaustion =>
        rw [hkind] at hpayload hboundary
        have heq : boundary = .modelCallComplete := of_decide_eq_true hpayload
        subst heq
        refine ⟨.inr (eventType_of_first hextra (by rw [hkind]; rfl) (by simp)),
          hboundary.trans ?_⟩
        exact lookup_insertMembers_first _ _ _ _ (by simp)
    | _ =>
        rw [hkind] at hpayload
        cases hpayload
  unfold isModelTerminalEvent isModelBudgetEvent
  obtain ⟨htype | htype, hat⟩ := htype <;> rw [htype, hat] <;> decide

/-! The outbox. -/

section Outbox
variable [Platform]

/-- An event whose id is not taken is put at the end of the outbox. -/
theorem queueEvent_fresh {outbox extended : List EventOutboxEntry} {event : RunEvent}
    (hfresh : ∀ entry ∈ outbox, entry.eventId ≠ event.eventId)
    (h : queueEvent outbox event = .ok extended) :
    ∃ entry, extended = outbox ++ [entry] ∧ entry.event = event.toValue ∧
      entry.eventId = event.eventId := by
  simp only [queueEvent, bind_eq_ok] at h
  obtain ⟨candidate, hpending, happend⟩ := h
  simp only [EventOutboxEntry.pending, bind_eq_ok, pure_ok, Except.ok.injEq] at hpending
  obtain ⟨digest, _, _, _, rfl⟩ := hpending
  have hnone : outbox.find? (fun entry => entry.eventId == event.eventId) = none := by
    rw [List.find?_eq_none]
    intro entry hmem
    simpa using hfresh entry hmem
  unfold appendEventOutboxOnce at happend
  rw [hnone] at happend
  cases happend
  exact ⟨_, rfl, rfl, rfl⟩

end Outbox

/-- Every terminal event in an outbox is followed by one budget observation. -/
def Observed (outbox : List EventOutboxEntry) : Prop :=
  ∀ (index : Nat) (entry : EventOutboxEntry), outbox[index]? = some entry →
    isModelTerminalEvent entry.event = true →
      (∃ next, outbox[index + 1]? = some next ∧ isModelBudgetEvent next.event = true) ∧
        ∀ later, outbox[index + 2]? = some later → isModelBudgetEvent later.event = false

/-- An outbox stays observed when an event is queued that neither ends a model call nor
observes one. -/
theorem Observed.append_other {outbox : List EventOutboxEntry} (h : Observed outbox)
    {other : EventOutboxEntry} (hterminal : isModelTerminalEvent other.event = false)
    (hbudget : isModelBudgetEvent other.event = false) : Observed (outbox ++ [other]) := by
  intro index entry hentry hends
  have hinside : index < outbox.length := by
    by_contra houtside
    rw [List.getElem?_append_right (by omega)] at hentry
    obtain rfl := List.mem_singleton.mp (List.mem_of_getElem? hentry)
    rw [hterminal] at hends
    cases hends
  rw [List.getElem?_append_left hinside] at hentry
  obtain ⟨⟨next, hnext, hnextBudget⟩, hlater⟩ := h index entry hentry hends
  have hnextInside : index + 1 < outbox.length := (List.getElem?_eq_some_iff.mp hnext).1
  refine ⟨⟨next, by rw [List.getElem?_append_left hnextInside, hnext], hnextBudget⟩, ?_⟩
  intro later hfound
  by_cases hlast : index + 2 < outbox.length
  · rw [List.getElem?_append_left hlast] at hfound
    exact hlater later hfound
  · rw [List.getElem?_append_right (by omega)] at hfound
    obtain rfl := List.mem_singleton.mp (List.mem_of_getElem? hfound)
    exact hbudget

/-- A terminal event is queued with its observation. -/
theorem Observed.append_pair {outbox : List EventOutboxEntry} (h : Observed outbox)
    {terminal budget : EventOutboxEntry}
    (hterminal : isModelBudgetEvent terminal.event = false)
    (hbudget : isModelBudgetEvent budget.event = true)
    (hother : isModelTerminalEvent budget.event = false) :
    Observed (outbox ++ [terminal, budget]) := by
  intro index entry hentry hends
  by_cases hinside : index < outbox.length
  · rw [List.getElem?_append_left hinside] at hentry
    obtain ⟨⟨next, hnext, hnextBudget⟩, hlater⟩ := h index entry hentry hends
    have hnextInside : index + 1 < outbox.length := (List.getElem?_eq_some_iff.mp hnext).1
    refine ⟨⟨next, by rw [List.getElem?_append_left hnextInside, hnext], hnextBudget⟩, ?_⟩
    intro later hfound
    by_cases hlast : index + 2 < outbox.length
    · rw [List.getElem?_append_left hlast] at hfound
      exact hlater later hfound
    · have hfirst : index + 2 - outbox.length = 0 := by omega
      rw [List.getElem?_append_right (by omega), hfirst] at hfound
      cases hfound
      exact hterminal
  · rw [List.getElem?_append_right (by omega)] at hentry
    have hplace : index = outbox.length := by
      by_contra hne
      obtain ⟨offset, hoffset⟩ : ∃ offset, index - outbox.length = offset + 1 :=
        ⟨index - outbox.length - 1, by omega⟩
      rw [hoffset, List.getElem?_cons_succ] at hentry
      have hlast : entry = budget := by simpa using List.mem_of_getElem? hentry
      rw [hlast, hother] at hends
      cases hends
    subst hplace
    constructor
    · refine ⟨budget, ?_, hbudget⟩
      rw [List.getElem?_append_right (by omega)]
      simp
    · intro later hfound
      rw [List.getElem?_append_right (by omega)] at hfound
      simp at hfound

/-- Events that are replaced one by one by the same events. -/
theorem Observed.map {outbox : List EventOutboxEntry} (h : Observed outbox)
    {after : List EventOutboxEntry}
    (hsame : after.map EventOutboxEntry.event = outbox.map EventOutboxEntry.event) :
    Observed after := by
  have hat : ∀ (index : Nat) (entry : EventOutboxEntry), after[index]? = some entry →
      ∃ earlier, outbox[index]? = some earlier ∧ earlier.event = entry.event := by
    intro index entry hentry
    have hevent := congrArg (·[index]?) hsame
    simp only [List.getElem?_map, hentry, Option.map_some] at hevent
    obtain ⟨earlier, hearlier, heq⟩ := Option.map_eq_some_iff.mp hevent.symm
    exact ⟨earlier, hearlier, heq⟩
  intro index entry hentry hends
  obtain ⟨earlier, hearlier, heq⟩ := hat index entry hentry
  obtain ⟨⟨next, hnext, hbudget⟩, hlater⟩ := h index earlier hearlier (heq ▸ hends)
  constructor
  · have hevent := congrArg (·[index + 1]?) hsame
    simp only [List.getElem?_map, hnext, Option.map_some] at hevent
    obtain ⟨found, hfound, hfoundEq⟩ := Option.map_eq_some_iff.mp hevent
    exact ⟨found, hfound, hfoundEq ▸ hbudget⟩
  · intro later hfound
    obtain ⟨before, hbefore, hbeforeEq⟩ := hat (index + 2) later hfound
    exact hbeforeEq ▸ hlater before hbefore

/-- What the validator asks of a checkpoint with budget limits. -/
theorem validateTerminalBudgetEventOrder_eq_ok {checkpoint : Checkpoint}
    (hlimits : (checkpoint.runDefinition.get? "budget_limits").any (· != .null) = true)
    (index : Nat) :
    validateTerminalBudgetEventOrder checkpoint index = .ok () ↔
      (∃ next, checkpoint.eventOutbox[index + 1]? = some next ∧
        isModelBudgetEvent next.event = true) ∧
      ∀ later, checkpoint.eventOutbox[index + 2]? = some later →
        isModelBudgetEvent later.event = false := by
  unfold validateTerminalBudgetEventOrder
  simp only [unit_guard_bind, refuse_eq_ok, hlimits]
  cases checkpoint.eventOutbox[index + 1]? with
  | none => simp
  | some next =>
      cases hbudget : isModelBudgetEvent next.event with
      | false => simp [hbudget]
      | true => cases checkpoint.eventOutbox[index + 2]? <;> simp [hbudget]

/-! What the controller of the budget reports at the end of a model call. -/

namespace BudgetEvaluator

/-- An exhaustion names the boundary at which it was found. -/
theorem strictUnavailable_boundary {evaluator : BudgetEvaluator}
    {boundary : BudgetEnforcementBoundary} {exhaustion : BudgetExhaustion}
    (h : evaluator.strictUnavailable boundary = some exhaustion) :
    exhaustion.enforcementBoundary = boundary := by
  unfold strictUnavailable at h
  split at h
  · cases h
  · obtain ⟨dimension, _, hfound⟩ := List.exists_of_findSome?_eq_some h
    simp only [Option.bind_eq_bind, Option.bind_eq_some_iff] at hfound
    obtain ⟨_, _, ⟨limit, unit, currency⟩, _, hexhaustion⟩ := hfound
    cases hexhaustion
    rfl

theorem checkLimits_boundary {evaluator : BudgetEvaluator} {beyond : Nat → Nat → Bool}
    {reason : BudgetExhaustionReason} {boundary : BudgetEnforcementBoundary}
    {dimensions : List BudgetDimension} {exhaustion : BudgetExhaustion}
    (h : evaluator.checkLimits beyond reason boundary dimensions = some exhaustion) :
    exhaustion.enforcementBoundary = boundary := by
  obtain ⟨dimension, _, hfound⟩ := List.exists_of_findSome?_eq_some h
  split at hfound
  · cases hfound
  · simp only [Option.bind_eq_bind, Option.bind_eq_some_iff] at hfound
    obtain ⟨⟨limit, unit, currency⟩, _, observed, _, hexhaustion⟩ := hfound
    dsimp only at hexhaustion
    split at hexhaustion
    · cases hexhaustion
      rfl
    · cases hexhaustion

/-- The exhaustion of a model call that has just ended. -/
def callExhaustion (evaluator : BudgetEvaluator) : Option BudgetExhaustion :=
  evaluator.strictUnavailable .modelCallComplete <|>
    evaluator.checkExceededLimits .modelCallComplete modelCall

theorem callExhaustion_boundary {evaluator : BudgetEvaluator} {exhaustion : BudgetExhaustion}
    (h : evaluator.callExhaustion = some exhaustion) :
    exhaustion.enforcementBoundary = .modelCallComplete := by
  unfold callExhaustion at h
  rw [Option.orElse_eq_orElse, Option.orElse_eq_or, Option.or_eq_some_iff] at h
  rcases h with h | ⟨_, h⟩
  · exact strictUnavailable_boundary h
  · exact checkLimits_boundary h

end BudgetEvaluator

namespace RunBudgetController

/-- Between two boundaries the last report shows the budget as it is. -/
structure Settled (controller : RunBudgetController) : Prop where
  measured : controller.evaluator.Measured
  reported : controller.exhaustion = none → controller.lastEmittedSnapshot = none ∨
    controller.lastEmittedSnapshot = some controller.evaluator.snapshot

theorem Settled.observe {controller : RunBudgetController} (h : controller.Settled)
    (boundary : BudgetBoundary) (observation : Observation) :
    (controller.observe boundary observation).2.Settled := by
  have hmeasured := h.measured.ask boundary.call observation
  unfold RunBudgetController.observe observeUpdate
  cases hkept : controller.exhaustion with
  | some earlier => exact h
  | none =>
      dsimp only
      cases hfound : (controller.evaluator.ask boundary.call observation).1.filter
          fun _ => !boundary.suppresses with
      | some found => exact ⟨hmeasured, fun hnone => by cases hnone⟩
      | none =>
          dsimp only
          split
          · exact ⟨hmeasured, fun _ => .inr rfl⟩
          · rename_i hsame
            simp only [not_or, not_not] at hsame
            exact ⟨hmeasured, fun _ => .inr hsame.2⟩

/-- The end of a call shows in the budget: nothing has been exhausted before, and this is the
first report, or the call changes the budget, or a limit is found to be exceeded. -/
def Reports (controller : RunBudgetController) (usage : TokenUsage) (cancelled : Bool)
    (observation : Observation) : Prop :=
  controller.exhaustion = none ∧
    (controller.lastEmittedSnapshot = none ∨
      controller.evaluator.CallChanges usage observation ∨
      (cancelled = false ∧ controller.evaluator.callExhaustion.isSome = true))

/-- What the controller reports at the end of a call. -/
theorem observe_modelCallComplete {controller : RunBudgetController}
    (hnone : controller.exhaustion = none) (usage : TokenUsage) (cancelled : Bool)
    (observation : Observation) :
    let after := (controller.evaluator.modelCallComplete usage observation).2
    let update := (controller.observe (.modelCallComplete usage cancelled) observation).1
    (∃ exhaustion, cancelled = false ∧ after.callExhaustion = some exhaustion ∧
      update = ⟨some exhaustion, some after.snapshot⟩) ∨
    ((cancelled = false → after.callExhaustion = none) ∧
      controller.lastEmittedSnapshot ≠ some after.snapshot ∧
      update = ⟨none, some after.snapshot⟩) ∨
    ((cancelled = false → after.callExhaustion = none) ∧
      controller.lastEmittedSnapshot = some after.snapshot ∧ update = ⟨none, none⟩) := by
  intro after update
  have hanswer : (controller.evaluator.ask (.modelCallComplete usage) observation) =
      (after.callExhaustion, after) := rfl
  have hupdate : update = (controller.observeUpdate false cancelled fun evaluator =>
      evaluator.ask (.modelCallComplete usage) observation).1 := rfl
  unfold observeUpdate at hupdate
  rw [hnone] at hupdate
  dsimp only at hupdate
  rw [hanswer] at hupdate
  dsimp only at hupdate
  cases hfound : after.callExhaustion.filter fun _ => !cancelled with
  | some exhaustion =>
      rw [hfound] at hupdate
      obtain ⟨hexhausted, hallowed⟩ := Option.filter_eq_some_iff.mp hfound
      exact .inl ⟨exhaustion, by simpa using hallowed, hexhausted, hupdate⟩
  | none =>
      rw [hfound] at hupdate
      have hsilent : cancelled = false → after.callExhaustion = none := by
        rintro rfl
        cases hafter : after.callExhaustion with
        | none => rfl
        | some exhaustion =>
            rw [hafter] at hfound
            cases hfound
      by_cases hsame : controller.lastEmittedSnapshot = some after.snapshot
      · rw [if_neg (by simp [hsame])] at hupdate
        exact .inr (.inr ⟨hsilent, hsame, hupdate⟩)
      · rw [if_pos (.inr hsame)] at hupdate
        exact .inr (.inl ⟨hsilent, hsame, hupdate⟩)

/-- The controller reports the end of a call exactly if it shows in the budget. -/
theorem Settled.reports_iff {controller : RunBudgetController} (h : controller.Settled)
    (usage : TokenUsage) (cancelled : Bool) (observation : Observation) :
    (controller.observe (.modelCallComplete usage cancelled) observation).1.snapshot.isSome =
        true ↔ controller.Reports usage cancelled observation := by
  cases hkept : controller.exhaustion with
  | some earlier =>
      rw [observe_exhausted hkept]
      simp [Reports, hkept]
  | none =>
      have hfixed : ¬ controller.evaluator.CallChanges usage observation →
          (controller.evaluator.modelCallComplete usage observation).2 = controller.evaluator :=
        BudgetEvaluator.modelCallComplete_fixed h.measured
      rcases observe_modelCallComplete hkept usage cancelled observation with
        ⟨exhaustion, hallowed, hfound, hupdate⟩ | ⟨_, hdiffers, hupdate⟩ |
          ⟨hsilent, hsame, hupdate⟩ <;> rw [hupdate]
      · refine iff_of_true rfl ⟨hkept, ?_⟩
        by_cases hchange : controller.evaluator.CallChanges usage observation
        · exact .inr (.inl hchange)
        · rw [hfixed hchange] at hfound
          exact .inr (.inr ⟨hallowed, by rw [hfound]; rfl⟩)
      · refine iff_of_true rfl ⟨hkept, ?_⟩
        rcases h.reported hkept with hfirst | hlast
        · exact .inl hfirst
        · refine .inr (.inl ?_)
          by_contra hsame
          rw [hfixed hsame] at hdiffers
          exact hdiffers hlast
      · refine iff_of_false (by simp) ?_
        have hlast : controller.lastEmittedSnapshot = some controller.evaluator.snapshot := by
          rcases h.reported hkept with hfirst | hlast
          · rw [hfirst] at hsame
            cases hsame
          · exact hlast
        have hstill : ¬ controller.evaluator.CallChanges usage observation := by
          intro hchange
          rw [hlast] at hsame
          exact BudgetEvaluator.modelCallComplete_changes h.measured hchange
            (Option.some.inj hsame).symm
        rintro ⟨_, hfirst | hchange | ⟨hallowed, hover⟩⟩
        · rw [hfirst] at hlast
          cases hlast
        · exact hstill hchange
        · have hnot := hsilent hallowed
          rw [hfixed hstill] at hnot
          rw [hnot] at hover
          cases hover

/-- A report at the end of a call is about that end. -/
theorem observe_modelCallComplete_boundary {controller : RunBudgetController} {usage : TokenUsage}
    {cancelled : Bool} {observation : Observation} {budgetUsage : BudgetUsageSnapshot}
    {exhaustion : BudgetExhaustion}
    (hreported : (controller.observe (.modelCallComplete usage cancelled)
      observation).1.snapshot = some budgetUsage)
    (hexhausted : (controller.observe (.modelCallComplete usage cancelled)
      observation).1.exhaustion = some exhaustion) :
    exhaustion.enforcementBoundary = .modelCallComplete := by
  cases hkept : controller.exhaustion with
  | some earlier =>
      rw [observe_exhausted hkept] at hreported
      cases hreported
  | none =>
      rcases observe_modelCallComplete hkept usage cancelled observation with
        ⟨found, _, hfound, hupdate⟩ | ⟨_, _, hupdate⟩ | ⟨_, _, hupdate⟩ <;>
        rw [hupdate] at hexhausted <;> cases hexhausted
      exact BudgetEvaluator.callExhaustion_boundary hfound

end RunBudgetController

/-! Runs. -/

/-- How a model call ends. -/
inductive ModelCallEnding where
  | completed (usage : TokenUsage)
  | failed (errorCode : String) (ambiguous : Bool) (usage : TokenUsage)

namespace ModelCallEnding

def usage : ModelCallEnding → TokenUsage
  | .completed usage => usage
  | .failed _ _ usage => usage

/-- The terminal of a call that ends. -/
def terminal (ending : ModelCallEnding) (coordinator : ModelCallCoordinator)
    (identity : ModelCallIdentity) (update : BudgetUpdate) (stamp budgetStamp : EventStamp) :
    ModelCallTerminal :=
  match ending with
  | .completed usage => coordinator.completedTerminal identity usage update stamp budgetStamp
  | .failed errorCode ambiguous usage =>
      coordinator.failedTerminal identity errorCode ambiguous usage update stamp budgetStamp

end ModelCallEnding

/-- The budget of a run and the checkpoint that its operations are recorded in. -/
structure AccountedRun where
  controller : RunBudgetController
  checkpoint : Checkpoint

/-- An event that neither ends a model call nor observes one. -/
abbrev OtherEvent :=
  { entry : EventOutboxEntry //
    isModelTerminalEvent entry.event = false ∧ isModelBudgetEvent entry.event = false }

/-- What happens in a run between two writes. -/
inductive AccountingStep where
  | boundary (boundary : BudgetBoundary) (observation : Observation)
  | journal (entries : List OperationJournalEntry)
  | closeModelCall (identity : ModelCallIdentity) (ending : ModelCallEnding) (cancelled : Bool)
      (observation : Observation) (stamp budgetStamp : EventStamp)
  | queueEvent (event : OtherEvent)
  | deliverEvent (index : Nat) (cursor : EventCursor)

namespace AccountedRun

section
variable [Platform]

def exec (coordinator : ModelCallCoordinator) (step : AccountingStep) (state : AccountedRun) :
    AccountedRun :=
  match step with
  | .boundary boundary observation =>
      { state with controller := (state.controller.observe boundary observation).2 }
  | .journal entries =>
      { state with checkpoint := { state.checkpoint with modelCallJournal := entries } }
  | .closeModelCall identity ending cancelled observation stamp budgetStamp =>
      let (update, controller) :=
        state.controller.observe (.modelCallComplete ending.usage cancelled) observation
      let terminal := ending.terminal coordinator identity update stamp budgetStamp
      match commitModelTerminal state.checkpoint identity.operationId terminal with
      | .ok staged => ⟨controller, staged⟩
      | .error _ => { state with controller }
  | .queueEvent event =>
      { state with
        checkpoint := { state.checkpoint with
          eventOutbox := state.checkpoint.eventOutbox ++ [event.1] } }
  | .deliverEvent index cursor =>
      { state with
        checkpoint := { state.checkpoint with
          eventOutbox := state.checkpoint.eventOutbox.modify index (·.delivered cursor) } }

/-- Every call that ends shows in the budget. The ids of its two events are new: one is a
digest of the attempt that ends, the other is random. -/
def Reported (step : AccountingStep) (state : AccountedRun) : Prop :=
  match step with
  | .closeModelCall _ ending cancelled observation stamp budgetStamp =>
      state.controller.Reports ending.usage cancelled observation ∧
        (∀ entry ∈ state.checkpoint.eventOutbox,
          entry.eventId ≠ stamp.eventId ∧ entry.eventId ≠ budgetStamp.eventId) ∧
        stamp.eventId ≠ budgetStamp.eventId
  | _ => True

end

/-- Every model terminal in the outbox passes the validator. -/
def Evidenced (state : AccountedRun) : Prop :=
  ∀ (index : Nat) (entry : EventOutboxEntry),
    state.checkpoint.eventOutbox[index]? = some entry →
      isModelTerminalEvent entry.event = true →
        validateTerminalBudgetEventOrder state.checkpoint index = .ok ()

theorem not_evidenced_of_refused {state : AccountedRun} (index : Nat)
    (h : state.checkpoint.eventOutbox[index]?.map (fun entry =>
      (isModelTerminalEvent entry.event,
        (validateTerminalBudgetEventOrder state.checkpoint index).isOk)) = some (true, false)) :
    ¬ state.Evidenced := by
  intro hevidenced
  obtain ⟨entry, hentry, hpair⟩ := Option.map_eq_some_iff.mp h
  obtain ⟨hends, hrefused⟩ := Prod.mk.inj hpair
  rw [hevidenced index entry hentry hends] at hrefused
  cases hrefused

/-- Budget limits are configured. -/
def Limited (state : AccountedRun) : Prop :=
  (state.checkpoint.runDefinition.get? "budget_limits").any (· != .null) = true

theorem evidenced_iff {state : AccountedRun} (h : state.Limited) :
    state.Evidenced ↔ Observed state.checkpoint.eventOutbox := by
  constructor
  · intro hevidenced index entry hentry hends
    exact (validateTerminalBudgetEventOrder_eq_ok h index).mp (hevidenced index entry hentry hends)
  · intro hobserved index entry hentry hends
    exact (validateTerminalBudgetEventOrder_eq_ok h index).mpr (hobserved index entry hentry hends)

/-- What every step of a run with reported calls keeps. -/
structure Kept (state : AccountedRun) : Prop where
  settled : state.controller.Settled
  limited : state.Limited
  observed : Observed state.checkpoint.eventOutbox

section
variable [Platform]

omit [Platform] in
theorem terminal_event (ending : ModelCallEnding) (coordinator : ModelCallCoordinator)
    (identity : ModelCallIdentity) (update : BudgetUpdate) (stamp budgetStamp : EventStamp) :
    let terminal := ending.terminal coordinator identity update stamp budgetStamp
    terminal.event.extraFields = [] ∧ terminal.event.payload.endsModelCall = true ∧
      terminal.event.eventId = stamp.eventId ∧
      terminal.budget = coordinator.observeBudget identity update budgetStamp := by
  cases ending with
  | completed usage => exact ⟨rfl, rfl, rfl, rfl⟩
  | failed errorCode ambiguous usage => exact ⟨rfl, rfl, rfl, rfl⟩

omit [Platform] in
/-- The budget event of a reported call. -/
theorem budget_event {controller : RunBudgetController} {usage : TokenUsage} {cancelled : Bool}
    {observation : Observation} {budgetUsage : BudgetUsageSnapshot}
    (hreported : (controller.observe (.modelCallComplete usage cancelled)
      observation).1.snapshot = some budgetUsage)
    (coordinator : ModelCallCoordinator) (identity : ModelCallIdentity) (stamp : EventStamp) :
    ∃ event, (coordinator.observeBudget identity (controller.observe
        (.modelCallComplete usage cancelled) observation).1 stamp).event = some event ∧
      event.extraFields = [] ∧ event.payload.observesModelCall = true ∧
      event.eventId = stamp.eventId := by
  unfold ModelCallCoordinator.observeBudget
  dsimp only
  rw [hreported]
  refine ⟨_, rfl, ?_⟩
  cases hexhausted : (controller.observe (.modelCallComplete usage cancelled)
      observation).1.exhaustion with
  | none => exact ⟨rfl, rfl, rfl⟩
  | some exhaustion =>
      have hboundary :=
        RunBudgetController.observe_modelCallComplete_boundary hreported hexhausted
      exact ⟨rfl, by simp [ModelCallCoordinator.event, RunEvent.new,
        RunEventPayload.observesModelCall, hboundary], rfl⟩

/-- A terminal that is staged with its observation. -/
theorem commitModelTerminal_outbox {checkpoint staged : Checkpoint} {operationId : String}
    {terminal : ModelCallTerminal} {budgetEvent : RunEvent}
    (hevent : terminal.budget.event = some budgetEvent)
    (hfresh : ∀ entry ∈ checkpoint.eventOutbox,
      entry.eventId ≠ terminal.event.eventId ∧ entry.eventId ≠ budgetEvent.eventId)
    (hapart : terminal.event.eventId ≠ budgetEvent.eventId)
    (h : commitModelTerminal checkpoint operationId terminal = .ok staged) :
    staged.runDefinition = checkpoint.runDefinition ∧
      ∃ first second, staged.eventOutbox = checkpoint.eventOutbox ++ [first, second] ∧
        first.event = terminal.event.toValue ∧ second.event = budgetEvent.toValue := by
  simp only [commitModelTerminal, bind_eq_ok, hevent, pure_ok, Except.ok.injEq] at h
  obtain ⟨entry, _, _, _, _, _, closed, hclosed, observed, hobserved, rfl⟩ := h
  obtain ⟨first, rfl, hfirst, hfirstId⟩ :=
    queueEvent_fresh (fun entry hmem => (hfresh entry hmem).1) hclosed
  have hlater : ∀ entry ∈ checkpoint.eventOutbox ++ [first],
      entry.eventId ≠ budgetEvent.eventId := by
    intro entry hmem
    rcases List.mem_append.mp hmem with hold | hnew
    · exact (hfresh entry hold).2
    · obtain rfl := List.mem_singleton.mp hnew
      exact hfirstId ▸ hapart
  obtain ⟨second, rfl, hsecond, _⟩ := queueEvent_fresh hlater hobserved
  exact ⟨rfl, first, second, by simp, hfirst, hsecond⟩

theorem Kept.exec {state : AccountedRun} (h : state.Kept) (coordinator : ModelCallCoordinator)
    (step : AccountingStep) (hreported : Reported step state) :
    (exec coordinator step state).Kept := by
  cases step with
  | boundary boundary observation =>
      exact ⟨h.settled.observe boundary observation, h.limited, h.observed⟩
  | journal entries => exact ⟨h.settled, h.limited, h.observed⟩
  | queueEvent event =>
      exact ⟨h.settled, h.limited, h.observed.append_other event.2.1 event.2.2⟩
  | deliverEvent index cursor =>
      refine ⟨h.settled, h.limited, h.observed.map ?_⟩
      dsimp only [AccountedRun.exec]
      apply List.ext_getElem?
      intro place
      simp only [List.getElem?_map, List.getElem?_modify]
      cases state.checkpoint.eventOutbox[place]? with
      | none => rfl
      | some entry => split <;> rfl
  | closeModelCall identity ending cancelled observation stamp budgetStamp =>
      obtain ⟨hreports, hfresh, hapart⟩ := hreported
      have hsettled := h.settled.observe (.modelCallComplete ending.usage cancelled) observation
      obtain ⟨budgetUsage, husage⟩ := Option.isSome_iff_exists.mp
        ((h.settled.reports_iff ending.usage cancelled observation).mpr hreports)
      obtain ⟨budgetEvent, hbudget, hextra, hobserves, hid⟩ :=
        budget_event husage coordinator identity budgetStamp
      dsimp only [AccountedRun.exec]
      generalize hseen : state.controller.observe (.modelCallComplete ending.usage cancelled)
        observation = seen at hbudget hsettled
      obtain ⟨update, controller⟩ := seen
      obtain ⟨hplain, hends, hterminalId, hbudgetOf⟩ :=
        terminal_event ending coordinator identity update stamp budgetStamp
      dsimp only
      cases hcommit : commitModelTerminal state.checkpoint identity.operationId
          (ending.terminal coordinator identity update stamp budgetStamp) with
      | error _ => exact ⟨hsettled, h.limited, h.observed⟩
      | ok staged =>
          obtain ⟨hdefinition, first, second, houtbox, hfirst, hsecond⟩ :=
            commitModelTerminal_outbox (by rw [hbudgetOf]; exact hbudget)
              (by rw [hterminalId, hid]; exact hfresh) (by rw [hterminalId, hid]; exact hapart)
              hcommit
          refine ⟨hsettled, ?_, ?_⟩
          · change (staged.runDefinition.get? "budget_limits").any _ = true
            rw [hdefinition]
            exact h.limited
          · change Observed staged.eventOutbox
            rw [houtbox]
            obtain ⟨_, hnotBudget⟩ := toValue_endsModelCall hplain hends
            obtain ⟨hisBudget, hnotTerminal⟩ := toValue_observesModelCall hextra hobserves
            exact h.observed.append_pair (hfirst ▸ hnotBudget) (hsecond ▸ hisBudget)
              (hsecond ▸ hnotTerminal)

end

end AccountedRun

open AccountedRun in
/-- In every run whose closed model calls all show in the budget, every model terminal is
followed at once by exactly one budget observation. -/
theorem model_terminals_observed [Platform] (coordinator : ModelCallCoordinator)
    (limits : RunBudgetLimits) (metered : Bool) (initialUsage : Option BudgetUsageSnapshot)
    (nowNs : Nat) (evaluator : BudgetEvaluator)
    (hstart : BudgetEvaluator.withClock limits metered initialUsage nowNs = .ok evaluator)
    (checkpoint : Checkpoint) (hlimited : Limited ⟨.new evaluator, checkpoint⟩)
    (hbefore : Evidenced ⟨.new evaluator, checkpoint⟩) (steps : List AccountingStep)
    (hreported : Along (exec coordinator) Reported steps ⟨.new evaluator, checkpoint⟩) :
    ∀ first rest, steps = first ++ rest →
      Evidenced (run (exec coordinator) first ⟨.new evaluator, checkpoint⟩) := by
  intro first rest hsteps
  obtain ⟨hvalidLimits, hhasLimits, hvalid, rfl⟩ :=
    (BudgetEvaluator.withClock_eq_ok _ _ _ _ _).mp hstart
  have hkept : Kept ⟨.new (.start limits metered (initialUsage.getD {}) nowNs), checkpoint⟩ :=
    ⟨⟨BudgetEvaluator.start_measured hvalidLimits hhasLimits hvalid metered nowNs,
      fun _ => .inl rfl⟩, hlimited, (evidenced_iff hlimited).mp hbefore⟩
  have hreached := along_preserves (fun step state hallowed hholds =>
    Kept.exec hholds coordinator step hallowed) hreported hkept first rest hsteps
  exact (evidenced_iff hreached.limited).mpr hreached.observed

namespace Sample

/-- The run with a budget of one token. -/
def budgeted : Checkpoint :=
  { created with
    runDefinition := .obj
      (insertMember "budget_limits"
        (.obj
          [("max_host_cost", .null), ("max_tool_calls", .null),
            ("max_tool_calls_by_name", .obj []), ("max_total_tokens", .nat 1),
            ("max_uncached_input_tokens", .null), ("max_wall_time_ms", .null),
            ("unavailable_metric_policy", .str "continue_and_mark")])
        (definition.asObject?.getD []))
    runDefinitionDigest := "f9067d5b0284d85e66938357f76c0b10462909a6bd642fc728c261c9f6c4a868" }

def coordinator : ModelCallCoordinator :=
  { runId := "run", traceId := "trace", agentName := "checkpoint-agent" }

/-- A model call of the first cycle. -/
def modelCall (operationId : String) (operation : ModelCallOperation) : ModelCallIdentity where
  callId := operationId ++ ":attempt:1"
  operationId := operationId
  attempt := 1
  operation := operation
  cycleIndex := 1
  backend := "test"
  model := "test-model"

def memoryCall : ModelCallIdentity := modelCall "op_model_cycle_1_session_memory" .sessionMemory

def mainCall : ModelCallIdentity := modelCall "op_model_cycle_1_main" .agentCycle

/-- The journal entry of a call that the provider has refused. -/
def refusedEntry (identity : ModelCallIdentity) : OperationJournalEntry where
  kind := .model
  operationId := identity.operationId
  cycleIndex := 1
  attempt := 1
  state := .failed
  requestDigest := otherDigest.1
  error := some ⟨"model_request_failed", "model request failed with a definitive outcome", false⟩
  modelOperation := some identity.operation
  backend := some identity.backend
  model := some identity.model
  callId := some identity.callId

/-- The call is refused, without a usage, while the clock shows its first millisecond. -/
def refusal (identity : ModelCallIdentity) (eventId budgetEventId : String) : AccountingStep :=
  .closeModelCall identity (.failed "model_request_failed" false {}) false still
    ⟨eventId, .float (3400000001 / 2)⟩ ⟨budgetEventId, .float (3400000001 / 2)⟩

/-- Two calls are refused, one right after the other. -/
def refusedCalls : List AccountingStep :=
  [.boundary .runStart still,
    .journal [refusedEntry memoryCall],
    refusal memoryCall "evt_2c72bac612252f34056850904e3e5444" "4f8f7d0c3c0a4dbe9f2f5d8f1f0c2a11",
    .journal [refusedEntry memoryCall, refusedEntry mainCall],
    refusal mainCall "evt_8e36adab53afb8b98cf03da6bb6097a8" "a3c1be0f6a5247f48f0e7a9d5a1b6c22"]

theorem budgeted_limited :
    AccountedRun.Limited ⟨.new tokenEvaluator, budgeted⟩ := by
  change (budgeted.runDefinition.get? "budget_limits").any (· != .null) = true
  decide +kernel

/-- The digests of the three events. -/
def refusalDocuments : List Known :=
  [{ member := "event_id"
     text := "evt_2c72bac612252f34056850904e3e5444"
     digest :=
       ⟨"b168e2f3c3f93a3efad339bb6360401d88e48f3c8a0a7cb8968b5c4cbf3c062d", by decide⟩ },
    { member := "event_id"
      text := "4f8f7d0c3c0a4dbe9f2f5d8f1f0c2a11"
      digest :=
        ⟨"a5337d9fd28c877f5442cee3251e274c39528e7a66b8b14aa99a071222d88a1b", by decide⟩ },
    { member := "event_id"
      text := "evt_8e36adab53afb8b98cf03da6bb6097a8"
      digest :=
        ⟨"7bd800b1988dc8544d54bb5398013a6ef6cf2740b6530995249ff4ed3fe3ca2a", by decide⟩ }]

end Sample

open AccountedRun in
/-- Two calls are refused within one millisecond. The second refusal changes nothing in the
budget, so nothing is reported behind its terminal event. -/
theorem second_refusal_unobserved :
    letI := Sample.runtime Sample.refusalDocuments
    BudgetEvaluator.withClock Sample.tokenLimits false none 0 = .ok Sample.tokenEvaluator ∧
      Limited ⟨.new Sample.tokenEvaluator, Sample.budgeted⟩ ∧
      ¬ Evidenced (run (exec Sample.coordinator) Sample.refusedCalls
        ⟨.new Sample.tokenEvaluator, Sample.budgeted⟩) := by
  refine ⟨Sample.tokenEvaluator_starts, Sample.budgeted_limited, ?_⟩
  exact not_evidenced_of_refused 2 (by decide +kernel)

open AccountedRun in
/-- One refused call. -/
theorem model_terminals_observed_refusal :
    letI := Sample.runtime Sample.refusalDocuments
    Evidenced (run (exec Sample.coordinator) (Sample.refusedCalls.take 3)
      ⟨.new Sample.tokenEvaluator, Sample.budgeted⟩) := by
  let _ : Runtime := Sample.runtime Sample.refusalDocuments
  refine model_terminals_observed Sample.coordinator Sample.tokenLimits false none 0
    Sample.tokenEvaluator Sample.tokenEvaluator_starts Sample.budgeted Sample.budgeted_limited
    (fun index entry hentry => ?_) (Sample.refusedCalls.take 3) ?_ _ [] (List.append_nil _).symm
  · cases hentry
  · refine ⟨trivial, trivial, ⟨⟨rfl, .inr (.inl (.inl (.inl rfl)))⟩, ?_, by decide⟩, trivial⟩
    intro entry hmem
    cases hmem

end VvAgent
