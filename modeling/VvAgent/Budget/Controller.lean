import VvAgent.Budget.Laws

/-!
The budget controller of a run. It asks the evaluator at every boundary, keeps the first
exhaustion that is not suppressed and answers with it ever after, and reports a snapshot
when it differs from the last one it has reported.
-/

namespace VvAgent
open Lib Lib.Outcome

structure RunBudgetController where
  evaluator : BudgetEvaluator
  exhaustion : Option BudgetExhaustion := none
  lastEmittedSnapshot : Option BudgetUsageSnapshot := none

/-- What a boundary reports: the exhaustion of the run, and a snapshot to emit. -/
structure BudgetUpdate where
  exhaustion : Option BudgetExhaustion
  snapshot : Option BudgetUsageSnapshot

namespace RunBudgetController

def new (evaluator : BudgetEvaluator) : RunBudgetController := { evaluator }

def observeUpdate (controller : RunBudgetController) (forceSnapshot suppressExhaustion : Bool)
    (operation : BudgetEvaluator → BudgetEvaluator.Answer) : BudgetUpdate × RunBudgetController :=
  match controller.exhaustion with
  | some exhaustion => (⟨some exhaustion, none⟩, controller)
  | none =>
      let (found, evaluator) := operation controller.evaluator
      let snapshot := evaluator.snapshot
      match found.filter fun _ => !suppressExhaustion with
      | some exhaustion =>
          (⟨some exhaustion, some snapshot⟩,
            { evaluator, exhaustion := some exhaustion, lastEmittedSnapshot := some snapshot })
      | none =>
          if forceSnapshot ∨ controller.lastEmittedSnapshot ≠ some snapshot then
            (⟨none, some snapshot⟩,
              { controller with evaluator, lastEmittedSnapshot := some snapshot })
          else (⟨none, none⟩, { controller with evaluator })

end RunBudgetController

/-- A boundary of a run. Three of them can be told not to report what they find. -/
inductive BudgetBoundary where
  | runStart
  | cycleStart
  | modelCallStart
  | modelCallComplete (usage : TokenUsage) (suppressExhaustion : Bool)
  | preflightTools (toolNames : List String)
  | toolBatchComplete (operationFailed suppressExhaustion : Bool)
  | terminal (suppressExhaustion : Bool)

namespace BudgetBoundary

/-- The call of the evaluator at a boundary. -/
def call : BudgetBoundary → BudgetCall
  | .runStart => .runStart
  | .cycleStart => .cycleStart
  | .modelCallStart => .modelCallStart
  | .modelCallComplete usage _ => .modelCallComplete usage
  | .preflightTools toolNames => .preflightTools toolNames
  | .toolBatchComplete operationFailed _ => .toolBatchComplete operationFailed
  | .terminal _ => .terminal

/-- Only the start of a run reports a snapshot that has been reported before. -/
def forcesSnapshot : BudgetBoundary → Bool
  | .runStart => true
  | _ => false

def suppresses : BudgetBoundary → Bool
  | .modelCallComplete _ suppressExhaustion => suppressExhaustion
  | .toolBatchComplete operationFailed suppressExhaustion => operationFailed || suppressExhaustion
  | .terminal suppressExhaustion => suppressExhaustion
  | _ => false

end BudgetBoundary

namespace RunBudgetController

def observe (controller : RunBudgetController) (boundary : BudgetBoundary)
    (observation : Observation) : BudgetUpdate × RunBudgetController :=
  controller.observeUpdate boundary.forcesSnapshot boundary.suppresses fun evaluator =>
    evaluator.ask boundary.call observation

/-- The controller after a boundary. -/
def exec (boundary : BudgetBoundary × Observation) (controller : RunBudgetController) :
    RunBudgetController :=
  (controller.observe boundary.1 boundary.2).2

theorem observe_exhausted {controller : RunBudgetController} {exhaustion : BudgetExhaustion}
    (h : controller.exhaustion = some exhaustion) (boundary : BudgetBoundary)
    (observation : Observation) :
    controller.observe boundary observation = (⟨some exhaustion, none⟩, controller) := by
  simp [observe, observeUpdate, h]

/-- A reported exhaustion is kept. -/
theorem observe_reports {controller : RunBudgetController} {boundary : BudgetBoundary}
    {observation : Observation} {exhaustion : BudgetExhaustion}
    (h : (controller.observe boundary observation).1.exhaustion = some exhaustion) :
    (controller.observe boundary observation).2.exhaustion = some exhaustion := by
  unfold observe observeUpdate at h ⊢
  cases hkept : controller.exhaustion with
  | some earlier =>
      simp only [hkept] at h ⊢
      exact hkept.symm ▸ h
  | none =>
      simp only [hkept] at h ⊢
      cases hfound : (controller.evaluator.ask boundary.call observation).1.filter
          fun _ => !boundary.suppresses with
      | some found =>
          simp only [hfound] at h ⊢
          exact h
      | none =>
          simp only [hfound] at h
          split at h
          · cases h
          · cases h

theorem run_exhausted {controller : RunBudgetController} {exhaustion : BudgetExhaustion}
    (h : controller.exhaustion = some exhaustion)
    (boundaries : List (BudgetBoundary × Observation)) :
    (run exec boundaries controller).exhaustion = some exhaustion := by
  refine run_preserves exec (fun _ => True) (fun later => later.exhaustion = some exhaustion) ?_
    boundaries (fun _ _ => trivial) controller h
  intro boundary later _ hlater
  unfold exec
  rw [observe_exhausted hlater]
  exact hlater

end RunBudgetController

open BudgetEvaluator in
/-- Whatever is asked of a budget, in whatever order: admission does not overrun the limits of
tool calls, a refused batch counts nothing, the calls under names account for all calls
until a counter saturates, nothing that is measured decreases, what could not be measured
keeps its first reason, and the first exhaustion is final. -/
theorem budget_limits_not_overrun (limits : RunBudgetLimits) (metered : Bool)
    (initialUsage : Option BudgetUsageSnapshot) (nowNs : Nat) (evaluator : BudgetEvaluator)
    (hstart : withClock limits metered initialUsage nowNs = .ok evaluator)
    (calls : List (BudgetCall × Observation)) :
    let reached := run BudgetEvaluator.exec calls evaluator
    (∀ limit, limits.maxToolCalls = some limit →
      reached.toolCalls ≤ max evaluator.toolCalls limit) ∧
    (∀ (name : String) (limit : Nat), limits.maxToolCallsByName[name]? = some limit →
      nameCount reached.toolCallsByName name ≤
        max (nameCount evaluator.toolCallsByName name) limit) ∧
    (∀ toolNames observation exhaustion,
      (reached.preflightTools toolNames observation).1 = some exhaustion →
        (reached.preflightTools toolNames observation).2.counters = reached.counters) ∧
    (reached.Unsaturated →
      (reached.toolCalls : Int) - namedTotal reached.toolCallsByName =
        evaluator.toolCalls - namedTotal evaluator.toolCallsByName) ∧
    (∀ later : List (BudgetCall × Observation),
      let last := run BudgetEvaluator.exec later reached
      reached.elapsedMs ≤ last.elapsedMs ∧ reached.cycles ≤ last.cycles ∧
        (∀ total, last.totalTokens = some total →
          ∃ earlier, reached.totalTokens = some earlier ∧ earlier ≤ total) ∧
        ∀ dimension observation, reached.unavailable dimension = some observation →
          last.unavailable dimension = some observation) ∧
    ∀ (boundaries later : List (BudgetBoundary × Observation)) (boundary next : BudgetBoundary)
      (observation observation' : Observation) (exhaustion : BudgetExhaustion),
      let controller := run RunBudgetController.exec boundaries (.new evaluator)
      (controller.observe boundary observation).1.exhaustion = some exhaustion →
        ((run RunBudgetController.exec later
          (controller.observe boundary observation).2).observe next observation').1.exhaustion =
            some exhaustion := by
  obtain ⟨_, _, hvalid, rfl⟩ := (withClock_eq_ok _ _ _ _ _).mp hstart
  have hrange := start_inRange hvalid limits metered nowNs
  obtain ⟨hreached, hgrown⟩ := run_grows calls hrange
  refine ⟨hgrown.toolLimit, hgrown.namedLimit, ?_, ?_, ?_, ?_⟩
  · exact fun toolNames observation exhaustion hexhausted =>
      preflightTools_exhausted _ toolNames observation exhaustion hexhausted
  · intro hfree
    have hbalance := hgrown.balance hfree
    omega
  · intro later
    obtain ⟨_, hlater⟩ := run_grows later hreached
    exact ⟨hlater.elapsedMs, hlater.cycles, hlater.totalTokens, hlater.unavailable⟩
  · intro boundaries later boundary next observation observation' exhaustion controller hreports
    have hkept := RunBudgetController.observe_reports hreports
    rw [RunBudgetController.observe_exhausted (RunBudgetController.run_exhausted hkept later)]

namespace Sample

/-- A budget of one token and of any number of tool calls. -/
def tokenLimits : RunBudgetLimits := { maxTotalTokens := some 1 }

def tokenEvaluator : BudgetEvaluator := .start tokenLimits false {} 0

/-- A boundary at which the clock stands still and no meter answers. -/
def still : Observation := ⟨0, .ok none⟩

/-- As many calls of `search` as a counter can hold, and one of `read`. -/
def saturatingCalls : List (BudgetCall × Observation) :=
  List.replicate maxCount (.preflightTools ["search"], still) ++ [(.preflightTools ["read"], still)]

theorem tokenEvaluator_starts :
    BudgetEvaluator.withClock tokenLimits false none 0 = .ok tokenEvaluator :=
  (BudgetEvaluator.withClock_eq_ok _ _ _ _ _).mpr
    ⟨by decide +kernel, rfl, (BudgetUsageSnapshot.validate_eq_ok _).mp (by decide +kernel), rfl⟩

/-- The evaluator after `searches` calls of `search`, as far as counting goes. -/
structure Searched (searches : Nat) (evaluator : BudgetEvaluator) : Prop where
  limits : evaluator.limits = tokenLimits
  unavailable : evaluator.unavailable = fun _ => none
  base : evaluator.baseElapsedMs = 0
  toolCalls : evaluator.toolCalls = searches
  search : BudgetEvaluator.nameCount evaluator.toolCallsByName "search" = searches
  read : BudgetEvaluator.nameCount evaluator.toolCallsByName "read" = 0
  total : BudgetEvaluator.namedTotal evaluator.toolCallsByName = searches

open BudgetEvaluator in
/-- Without a limit of tool calls, every batch is reserved. -/
theorem Searched.reserves {searches : Nat} {evaluator : BudgetEvaluator}
    (h : Searched searches evaluator) (toolNames : List String) :
    exec (.preflightTools toolNames, still) evaluator = evaluator.reserve toolNames := by
  have hobserved : evaluator.observeBoundary still = evaluator := by
    have hcost : evaluator.limits.maxHostCost = none := by
      rw [h.limits]
      rfl
    have hzero : evaluator.baseElapsedMs + (0 - evaluator.startedNs) / 1000000 = 0 := by
      simp [h.base]
    have helapsed : evaluator.observeElapsed 0 = evaluator := by
      unfold observeElapsed
      rw [show evaluator.unavailable .wallTime = none by rw [h.unavailable]]
      dsimp only
      rw [hzero, if_neg (Nat.not_lt_zero _), Nat.max_zero]
    simp [observeBoundary, still, helapsed, observeHostCost, hcost]
  have hambient : evaluator.strictUnavailable .toolBatchPreflight = none ∧
      evaluator.checkAdmissionLimits .toolBatchPreflight ambient = none ∧
      evaluator.batchExhaustion toolNames = none := by
    refine ⟨?_, ?_, ?_⟩
    · simp [strictUnavailable, h.limits, tokenLimits]
    · simp [checkAdmissionLimits, checkLimits, dimensionPrecedence, ambient, limitDescriptor,
        h.limits, tokenLimits]
    · simp [batchExhaustion, h.limits, tokenLimits]
  simp [exec, ask, preflightTools, hobserved, hambient]

open BudgetEvaluator in
/-- One call more under one name. -/
theorem reserve_one (evaluator : BudgetEvaluator) (name : String) :
    (evaluator.reserve [name]).toolCalls = addCount evaluator.toolCalls 1 ∧
      (evaluator.reserve [name]).toolCallsByName = evaluator.toolCallsByName.insert name
        (addCount (nameCount evaluator.toolCallsByName name) 1) := by
  have hbatch : (batchByName [name]).toList = [(name, 1)] :=
    List.perm_singleton.mp (Table.toList_insert_perm {} name 1)
  constructor
  · rfl
  · simp [reserve, hbatch]

open BudgetEvaluator in
theorem Searched.next {searches : Nat} {evaluator : BudgetEvaluator}
    (h : Searched searches evaluator) (hfree : searches < maxCount) :
    Searched (searches + 1) (exec (.preflightTools ["search"], still) evaluator) := by
  obtain ⟨hcalls, hnames⟩ := reserve_one evaluator "search"
  have hone : addCount searches 1 = searches + 1 := by
    unfold addCount
    omega
  rw [h.toolCalls, hone] at hcalls
  rw [h.search, hone] at hnames
  have htotal := namedTotal_insert evaluator.toolCallsByName "search" (searches + 1)
  rw [h.reserves]
  refine ⟨h.limits, h.unavailable, h.base, hcalls, ?_, ?_, ?_⟩
  · rw [hnames, nameCount_insert, if_pos rfl]
  · rw [hnames, nameCount_insert, if_neg (by decide)]
    exact h.read
  · rw [hnames]
    rw [h.search, h.total] at htotal
    omega

open BudgetEvaluator in
theorem searched_run (searches : Nat) (hfree : searches ≤ maxCount) :
    Searched searches (run exec (List.replicate searches (.preflightTools ["search"], still))
      tokenEvaluator) := by
  induction searches with
  | zero =>
      exact ⟨rfl, rfl, rfl, rfl, rfl, rfl, rfl⟩
  | succ searches ih =>
      rw [List.replicate_succ', run_append]
      exact (ih (by omega)).next (by omega)

end Sample

open BudgetEvaluator in
/-- After as many calls as a counter can hold, the counters part. -/
theorem named_balance_saturates :
    let reached := run BudgetEvaluator.exec Sample.saturatingCalls Sample.tokenEvaluator
    (reached.toolCalls : Int) - namedTotal reached.toolCallsByName ≠
      Sample.tokenEvaluator.toolCalls - namedTotal Sample.tokenEvaluator.toolCallsByName := by
  have hfull := Sample.searched_run maxCount le_rfl
  obtain ⟨hcalls, hnames⟩ := Sample.reserve_one
    (run BudgetEvaluator.exec
      (List.replicate maxCount (.preflightTools ["search"], Sample.still)) Sample.tokenEvaluator)
    "read"
  have htotal := namedTotal_insert
    (run BudgetEvaluator.exec (List.replicate maxCount (.preflightTools ["search"], Sample.still))
      Sample.tokenEvaluator).toolCallsByName "read" 1
  rw [Sample.saturatingCalls, run_append, run_cons, run_nil, hfull.reserves]
  dsimp only
  rw [hcalls, hnames, hfull.toolCalls, hfull.read]
  rw [hfull.read, hfull.total] at htotal
  have hcapped : addCount maxCount 1 = maxCount := by decide
  have hone : addCount 0 1 = 1 := by decide
  rw [hcapped, hone]
  have hempty : namedTotal Sample.tokenEvaluator.toolCallsByName = 0 := rfl
  have hnone : Sample.tokenEvaluator.toolCalls = 0 := rfl
  rw [hempty, hnone]
  omega

/-- A budget of one token that is asked for a batch of two calls. -/
theorem budget_limits_not_overrun_batch :
    let reached := run BudgetEvaluator.exec [(.preflightTools ["search", "read"], Sample.still)]
      Sample.tokenEvaluator
    ∀ toolNames observation exhaustion,
      (reached.preflightTools toolNames observation).1 = some exhaustion →
        (reached.preflightTools toolNames observation).2.counters = reached.counters :=
  (budget_limits_not_overrun Sample.tokenLimits false none 0 Sample.tokenEvaluator
    Sample.tokenEvaluator_starts
    [(.preflightTools ["search", "read"], Sample.still)]).2.2.1

end VvAgent
