import VvAgent.Lib.Table
import VvAgent.Types.Usage

/-!
Run budgets: what a run may use, what it has used, and the evaluator that is asked at every
boundary of a run. The evaluator reads a monotonic clock and, if there is one, the host's
cost meter; it counts tokens, tool calls and cycles, and it remembers for every dimension
the first reason for which it could not be measured. Counters are 64-bit and saturate.
-/

namespace VvAgent
open Lib Lib.Outcome

inductive UnavailableMetricPolicy where
  | continueAndMark
  | stop
  deriving DecidableEq

inductive BudgetDimension where
  | totalTokens
  | uncachedInputTokens
  | toolCalls
  | toolCallsByName
  | wallTime
  | hostCost
  deriving DecidableEq

inductive BudgetEnforcementBoundary where
  | runStart
  | cycleStart
  | modelCallComplete
  | toolBatchPreflight
  | toolBatchComplete
  | terminal
  deriving DecidableEq

inductive BudgetExhaustionReason where
  | limitReached
  | limitExceeded
  | metricUnavailable
  deriving DecidableEq

inductive BudgetUnavailableReason where
  | accountingMissing
  | usageMissing
  | meterMissing
  | meterUnavailable
  | meterError
  | unitMismatch
  | currencyMismatch
  | nonMonotonic
  | integerOverflow
  deriving DecidableEq

structure HostCost where
  unit : String
  currency : Option String
  amountMicrounits : Nat
  deriving DecidableEq

structure BudgetUnavailableDimension where
  dimension : BudgetDimension
  reason : BudgetUnavailableReason
  expectedUnit : Option String
  observedUnit : Option String
  expectedCurrency : Option String
  observedCurrency : Option String
  deriving DecidableEq

structure RunBudgetLimits where
  maxTotalTokens : Option Nat := none
  maxUncachedInputTokens : Option Nat := none
  maxToolCalls : Option Nat := none
  maxToolCallsByName : Table Nat := {}
  maxWallTimeMs : Option Nat := none
  maxHostCost : Option HostCost := none
  unavailableMetricPolicy : UnavailableMetricPolicy := .continueAndMark

structure BudgetUsageSnapshot where
  cycles : Nat := 0
  totalTokens : Option Nat := some 0
  uncachedInputTokens : Option Nat := some 0
  toolCalls : Nat := 0
  toolCallsByName : Table Nat := {}
  elapsedMs : Nat := 0
  hostCost : Option HostCost := none
  unavailableDimensions : List BudgetUnavailableDimension := []
  deriving DecidableEq

structure BudgetExhaustion where
  dimension : BudgetDimension
  toolName : Option String := none
  reason : BudgetExhaustionReason
  limit : Nat
  observed : Option Nat := none
  attemptedIncrement : Option Nat := none
  overshoot : Option Nat := none
  unit : String
  currency : Option String := none
  enforcementBoundary : BudgetEnforcementBoundary
  unavailableReason : Option BudgetUnavailableReason := none
  deriving DecidableEq

/-! The checks of budget values. Their errors are texts. -/

abbrev BudgetResult (α : Type) := Except String α

def validateWireInteger (value : Nat) (field : String) : BudgetResult Unit :=
  refuse (maxWireInteger < value) (field ++ " must be between 0 and 9007199254740991")

def validateNonEmpty (value field : String) : BudgetResult Unit :=
  refuse (isBlank value) (field ++ " must be a non-empty string")

/-- A check of an optional value. -/
def checkOption {α : Type} (check : α → BudgetResult Unit) : Option α → BudgetResult Unit
  | none => .ok ()
  | some value => check value

def HostCost.validate (cost : HostCost) : BudgetResult Unit := do
  validateNonEmpty cost.unit "host cost unit"
  checkOption (validateNonEmpty · "host cost currency") cost.currency
  validateWireInteger cost.amountMicrounits "host cost amount_microunits"

def BudgetUnavailableDimension.validate (observation : BudgetUnavailableDimension) :
    BudgetResult Unit :=
  checkAll (fun field : String × Option String => checkOption (validateNonEmpty · field.1) field.2)
    [("expected_unit", observation.expectedUnit), ("observed_unit", observation.observedUnit),
      ("expected_currency", observation.expectedCurrency),
      ("observed_currency", observation.observedCurrency)]

namespace RunBudgetLimits

def hasLimits (limits : RunBudgetLimits) : Bool :=
  limits.maxTotalTokens.isSome || limits.maxUncachedInputTokens.isSome ||
    limits.maxToolCalls.isSome || !limits.maxToolCallsByName.isEmpty ||
    limits.maxWallTimeMs.isSome || limits.maxHostCost.isSome

def validate (limits : RunBudgetLimits) : BudgetResult Unit := do
  checkAll (fun field : String × Option Nat => checkOption (validateWireInteger · field.1) field.2)
    [("max_total_tokens", limits.maxTotalTokens),
      ("max_uncached_input_tokens", limits.maxUncachedInputTokens),
      ("max_tool_calls", limits.maxToolCalls), ("max_wall_time_ms", limits.maxWallTimeMs)]
  checkAll
    (fun entry : String × Nat => do
      validateNonEmpty entry.1 "named tool budget key"
      validateWireInteger entry.2 ("max_tool_calls_by_name[" ++ entry.1.quote ++ "]"))
    limits.maxToolCallsByName.toList
  checkOption HostCost.validate limits.maxHostCost

end RunBudgetLimits

namespace BudgetUsageSnapshot

def validate (usage : BudgetUsageSnapshot) : BudgetResult Unit := do
  validateWireInteger usage.cycles "budget usage cycles"
  checkOption (validateWireInteger · "budget usage total_tokens") usage.totalTokens
  checkOption (validateWireInteger · "budget usage uncached_input_tokens")
    usage.uncachedInputTokens
  validateWireInteger usage.toolCalls "budget usage tool_calls"
  validateWireInteger usage.elapsedMs "budget usage elapsed_ms"
  checkAll
    (fun entry : String × Nat => do
      validateNonEmpty entry.1 "budget usage tool name"
      validateWireInteger entry.2 ("budget usage tool_calls_by_name[" ++ entry.1.quote ++ "]"))
    usage.toolCallsByName.toList
  checkOption HostCost.validate usage.hostCost
  refuse (!(usage.unavailableDimensions.map (·.dimension)).Nodup)
    "budget unavailable dimensions must be unique"
  checkAll BudgetUnavailableDimension.validate usage.unavailableDimensions

/-- What `validate` asks of a snapshot. -/
structure Valid (usage : BudgetUsageSnapshot) : Prop where
  cycles : usage.cycles ≤ maxWireInteger
  totalTokens : ∀ total, usage.totalTokens = some total → total ≤ maxWireInteger
  uncachedInputTokens : ∀ total, usage.uncachedInputTokens = some total → total ≤ maxWireInteger
  toolCalls : usage.toolCalls ≤ maxWireInteger
  elapsedMs : usage.elapsedMs ≤ maxWireInteger
  named : ∀ name count, usage.toolCallsByName[name]? = some count →
    isBlank name = false ∧ count ≤ maxWireInteger
  hostCost : ∀ cost, usage.hostCost = some cost → cost.validate = .ok ()
  unique : (usage.unavailableDimensions.map (·.dimension)).Nodup
  unavailable : ∀ observation ∈ usage.unavailableDimensions, observation.validate = .ok ()

end BudgetUsageSnapshot

@[simp]
theorem validateWireInteger_eq_ok (value : Nat) (field : String) (u : Unit) :
    validateWireInteger value field = .ok u ↔ value ≤ maxWireInteger := by
  simp [validateWireInteger]

@[simp]
theorem validateNonEmpty_eq_ok (value field : String) (u : Unit) :
    validateNonEmpty value field = .ok u ↔ isBlank value = false := by
  simp [validateNonEmpty]

@[simp]
theorem checkOption_eq_ok {α : Type} (check : α → BudgetResult Unit) (value : Option α) :
    checkOption check value = .ok () ↔ ∀ a, value = some a → check a = .ok () := by
  cases value <;> simp [checkOption]

theorem BudgetUsageSnapshot.validate_eq_ok (usage : BudgetUsageSnapshot) :
    usage.validate = .ok () ↔ usage.Valid := by
  simp only [validate, unit_guard_bind, checkOption_eq_ok, checkAll_eq_ok, refuse_eq_ok,
    validateWireInteger_eq_ok, validateNonEmpty_eq_ok, Bool.not_eq_false', decide_eq_true_eq,
    Prod.forall, Table.mem_toList]
  constructor
  · rintro ⟨hcycles, htotal, huncached, hcalls, helapsed, hnamed, hcost, hunique, hdimensions⟩
    exact ⟨hcycles, htotal, huncached, hcalls, helapsed, hnamed, hcost, hunique, hdimensions⟩
  · rintro ⟨hcycles, htotal, huncached, hcalls, helapsed, hnamed, hcost, hunique, hdimensions⟩
    exact ⟨hcycles, htotal, huncached, hcalls, helapsed, hnamed, hcost, hunique, hdimensions⟩

/-- The order in which the dimensions are looked at. -/
def dimensionPrecedence : List BudgetDimension :=
  [.wallTime, .totalTokens, .uncachedInputTokens, .hostCost, .toolCalls, .toolCallsByName]

/-- What the environment answers at a boundary: the clock, in nanoseconds, and the meter. -/
structure Observation where
  nowNs : Nat
  reading : Except String (Option HostCost)

/-- The evaluator of a run. Its clock and its meter answer through `Observation`; `metered`
says whether there is a meter. -/
structure BudgetEvaluator where
  limits : RunBudgetLimits
  metered : Bool
  startedNs : Nat
  cycles : Nat
  totalTokens : Option Nat
  uncachedInputTokens : Option Nat
  toolCalls : Nat
  toolCallsByName : Table Nat
  baseElapsedMs : Nat
  elapsedMs : Nat
  hostCost : Option HostCost
  unavailable : BudgetDimension → Option BudgetUnavailableDimension

/-- The largest `u64`. -/
def maxCount : Nat := UInt64.size - 1

/-- `saturating_add` on counters. -/
def addCount (value increment : Nat) : Nat := min (value + increment) maxCount

namespace BudgetEvaluator

/-- The evaluator of a run that has used `usage` when its clock shows `nowNs`. -/
def start (limits : RunBudgetLimits) (metered : Bool) (usage : BudgetUsageSnapshot)
    (nowNs : Nat) : BudgetEvaluator where
  limits := limits
  metered := metered
  startedNs := nowNs
  cycles := usage.cycles
  totalTokens := usage.totalTokens
  uncachedInputTokens := usage.uncachedInputTokens
  toolCalls := usage.toolCalls
  toolCallsByName := usage.toolCallsByName
  baseElapsedMs := usage.elapsedMs
  elapsedMs := usage.elapsedMs
  hostCost := usage.hostCost
  -- The dimensions of a valid snapshot are unique.
  unavailable dimension := usage.unavailableDimensions.find? (·.dimension == dimension)

def withClock (limits : RunBudgetLimits) (metered : Bool)
    (initialUsage : Option BudgetUsageSnapshot) (nowNs : Nat) : BudgetResult BudgetEvaluator := do
  limits.validate
  refuse (!limits.hasLimits) "BudgetEvaluator requires at least one configured limit"
  let usage := initialUsage.getD {}
  usage.validate
  return start limits metered usage nowNs

theorem withClock_eq_ok (limits : RunBudgetLimits) (metered : Bool)
    (initialUsage : Option BudgetUsageSnapshot) (nowNs : Nat) (evaluator : BudgetEvaluator) :
    withClock limits metered initialUsage nowNs = .ok evaluator ↔
      limits.validate = .ok () ∧ limits.hasLimits = true ∧ (initialUsage.getD {}).Valid ∧
        start limits metered (initialUsage.getD {}) nowNs = evaluator := by
  simp only [withClock, unit_guard_bind, refuse_eq_ok, Bool.not_eq_false',
    BudgetUsageSnapshot.validate_eq_ok, pure_ok, Except.ok.injEq]

def snapshot (evaluator : BudgetEvaluator) : BudgetUsageSnapshot where
  cycles := evaluator.cycles
  totalTokens := evaluator.totalTokens
  uncachedInputTokens := evaluator.uncachedInputTokens
  toolCalls := evaluator.toolCalls
  toolCallsByName := evaluator.toolCallsByName
  elapsedMs := evaluator.elapsedMs
  hostCost := evaluator.hostCost
  unavailableDimensions := dimensionPrecedence.filterMap evaluator.unavailable

/-! Observations. -/

/-- The first reason for which a dimension is unavailable stays. -/
def latchUnavailable (evaluator : BudgetEvaluator) (observation : BudgetUnavailableDimension) :
    BudgetEvaluator :=
  match evaluator.unavailable observation.dimension with
  | some _ => evaluator
  | none =>
      { evaluator with
        unavailable := Function.update evaluator.unavailable observation.dimension
          (some observation) }

/-- A dimension without a reading, measured in `unit`. -/
def unread (dimension : BudgetDimension) (reason : BudgetUnavailableReason) (unit : String) :
    BudgetUnavailableDimension where
  dimension := dimension
  reason := reason
  expectedUnit := some unit
  observedUnit := none
  expectedCurrency := none
  observedCurrency := none

def latchHostUnavailable (evaluator : BudgetEvaluator) (limit : HostCost)
    (reason : BudgetUnavailableReason) (reading : Option HostCost) : BudgetEvaluator :=
  evaluator.latchUnavailable {
    dimension := .hostCost
    reason
    expectedUnit := some limit.unit
    observedUnit := reading.map (·.unit)
    expectedCurrency := limit.currency
    observedCurrency := reading.bind (·.currency) }

def observeElapsed (evaluator : BudgetEvaluator) (nowNs : Nat) : BudgetEvaluator :=
  match evaluator.unavailable .wallTime with
  | some _ => evaluator
  | none =>
      let elapsedMs := evaluator.baseElapsedMs + (nowNs - evaluator.startedNs) / 1000000
      if maxWireInteger < elapsedMs then
        evaluator.latchUnavailable (unread .wallTime .integerOverflow "milliseconds")
      else { evaluator with elapsedMs := max evaluator.elapsedMs elapsedMs }

/-- What a meter reading makes of the host cost. -/
def observeReading (evaluator : BudgetEvaluator) (limit reading : HostCost) : BudgetEvaluator :=
  if reading.validate ≠ .ok () then evaluator.latchHostUnavailable limit .meterError none
  else if reading.unit ≠ limit.unit then
    evaluator.latchHostUnavailable limit .unitMismatch (some reading)
  else if reading.currency ≠ limit.currency then
    evaluator.latchHostUnavailable limit .currencyMismatch (some reading)
  else if evaluator.hostCost.any (reading.amountMicrounits < ·.amountMicrounits) then
    { evaluator with hostCost := none }.latchHostUnavailable limit .nonMonotonic (some reading)
  else { evaluator with hostCost := some reading }

def observeHostCost (evaluator : BudgetEvaluator) (reading : Except String (Option HostCost)) :
    BudgetEvaluator :=
  match evaluator.limits.maxHostCost with
  | none => evaluator
  | some limit =>
      match evaluator.unavailable .hostCost with
      | some _ => evaluator
      | none =>
          if !evaluator.metered then evaluator.latchHostUnavailable limit .meterMissing none
          else
            match reading with
            | .error _ => evaluator.latchHostUnavailable limit .meterError none
            | .ok none => evaluator.latchHostUnavailable limit .meterUnavailable none
            | .ok (some reading) => evaluator.observeReading limit reading

def observeBoundary (evaluator : BudgetEvaluator) (observation : Observation) : BudgetEvaluator :=
  (evaluator.observeElapsed observation.nowNs).observeHostCost observation.reading

/-- The sum of a token counter, if it is JSON-safe. -/
def safeAdd (current increment : Nat) : Option Nat :=
  (checkedAdd current increment).filter (· ≤ maxWireInteger)

def observeTotalTokens (evaluator : BudgetEvaluator) (usage : TokenUsage) : BudgetEvaluator :=
  let reported := usage.usageSource = .providerReported ∨ usage.usageSource = .estimated
  match usage.totalTokens with
  | some increment =>
      if reported then
        match evaluator.totalTokens with
        | none => evaluator
        | some current =>
            match safeAdd current increment with
            | some total => { evaluator with totalTokens := some total }
            | none =>
                { evaluator with totalTokens := none }.latchUnavailable
                  (unread .totalTokens .integerOverflow "tokens")
      else
        { evaluator with totalTokens := none }.latchUnavailable
          (unread .totalTokens .usageMissing "tokens")
  | none =>
      { evaluator with totalTokens := none }.latchUnavailable
        (unread .totalTokens .usageMissing "tokens")

def observeUncachedTokens (evaluator : BudgetEvaluator) (usage : TokenUsage) : BudgetEvaluator :=
  let uncached :=
    if usage.cacheUsage.status = .providerReported then usage.cacheUsage.uncachedInputTokens
    else none
  match uncached with
  | some increment =>
      match evaluator.uncachedInputTokens with
      | none => evaluator
      | some current =>
          match safeAdd current increment with
          | some total => { evaluator with uncachedInputTokens := some total }
          | none =>
              { evaluator with uncachedInputTokens := none }.latchUnavailable
                (unread .uncachedInputTokens .integerOverflow "tokens")
  | none =>
      { evaluator with uncachedInputTokens := none }.latchUnavailable
        (unread .uncachedInputTokens .usageMissing "tokens")

def observeTokenUsage (evaluator : BudgetEvaluator) (usage : TokenUsage) : BudgetEvaluator :=
  (evaluator.observeTotalTokens usage).observeUncachedTokens usage

/-! Limits. -/

def limitDescriptor (evaluator : BudgetEvaluator) :
    BudgetDimension → Option (Nat × String × Option String)
  | .totalTokens => evaluator.limits.maxTotalTokens.map fun limit => (limit, "tokens", none)
  | .uncachedInputTokens =>
      evaluator.limits.maxUncachedInputTokens.map fun limit => (limit, "tokens", none)
  | .toolCalls => evaluator.limits.maxToolCalls.map fun limit => (limit, "calls", none)
  | .wallTime => evaluator.limits.maxWallTimeMs.map fun limit => (limit, "milliseconds", none)
  | .hostCost =>
      evaluator.limits.maxHostCost.map fun cost => (cost.amountMicrounits, cost.unit, cost.currency)
  | .toolCallsByName => none

def observedValue (evaluator : BudgetEvaluator) : BudgetDimension → Option Nat
  | .totalTokens => evaluator.totalTokens
  | .uncachedInputTokens => evaluator.uncachedInputTokens
  | .toolCalls => some evaluator.toolCalls
  | .wallTime => some evaluator.elapsedMs
  | .hostCost => evaluator.hostCost.map (·.amountMicrounits)
  | .toolCallsByName => none

def strictUnavailable (evaluator : BudgetEvaluator) (boundary : BudgetEnforcementBoundary) :
    Option BudgetExhaustion :=
  if evaluator.limits.unavailableMetricPolicy ≠ .stop then none
  else
    dimensionPrecedence.findSome? fun dimension => do
      let unavailable ← evaluator.unavailable dimension
      let (limit, unit, currency) ← evaluator.limitDescriptor dimension
      return {
        dimension, limit, unit, currency
        reason := .metricUnavailable
        enforcementBoundary := boundary
        unavailableReason := some unavailable.reason }

/-- The first of the dimensions whose value is at its limit, or beyond it. -/
def checkLimits (evaluator : BudgetEvaluator) (beyond : Nat → Nat → Bool)
    (reason : BudgetExhaustionReason) (boundary : BudgetEnforcementBoundary)
    (dimensions : List BudgetDimension) : Option BudgetExhaustion :=
  dimensionPrecedence.findSome? fun dimension =>
    if !dimensions.contains dimension || (evaluator.unavailable dimension).isSome then none
    else do
      let (limit, unit, currency) ← evaluator.limitDescriptor dimension
      let observed ← evaluator.observedValue dimension
      if beyond observed limit then
        return {
          dimension, reason, limit, unit, currency
          observed := some observed
          overshoot := some (observed - limit)
          enforcementBoundary := boundary }
      else none

def checkAdmissionLimits (evaluator : BudgetEvaluator) (boundary : BudgetEnforcementBoundary)
    (dimensions : List BudgetDimension) : Option BudgetExhaustion :=
  evaluator.checkLimits (fun observed limit => limit ≤ observed) .limitReached boundary dimensions

def checkExceededLimits (evaluator : BudgetEvaluator) (boundary : BudgetEnforcementBoundary)
    (dimensions : List BudgetDimension) : Option BudgetExhaustion :=
  evaluator.checkLimits (fun observed limit => limit < observed) .limitExceeded boundary dimensions

/-! The boundaries. Each of them answers with the exhaustion it finds. -/

abbrev Answer := Option BudgetExhaustion × BudgetEvaluator

/-- The dimensions that time and the host decide. -/
def ambient : List BudgetDimension := [.wallTime, .hostCost]

/-- The dimensions that a model call moves, and the ambient ones. -/
def modelCall : List BudgetDimension := [.wallTime, .totalTokens, .uncachedInputTokens, .hostCost]

def runStart (evaluator : BudgetEvaluator) (observation : Observation) : Answer :=
  let observed := evaluator.observeBoundary observation
  (observed.strictUnavailable .runStart <|> observed.checkAdmissionLimits .runStart ambient,
    observed)

def modelCallStart (evaluator : BudgetEvaluator) (observation : Observation) : Answer :=
  let observed := evaluator.observeBoundary observation
  (observed.strictUnavailable .cycleStart <|> observed.checkAdmissionLimits .cycleStart modelCall,
    observed)

def cycleStart (evaluator : BudgetEvaluator) (observation : Observation) : Answer :=
  match evaluator.modelCallStart observation with
  | (none, observed) => (none, { observed with cycles := addCount observed.cycles 1 })
  | exhausted => exhausted

def modelCallComplete (evaluator : BudgetEvaluator) (usage : TokenUsage)
    (observation : Observation) : Answer :=
  let observed := (evaluator.observeTokenUsage usage).observeBoundary observation
  (observed.strictUnavailable .modelCallComplete <|>
      observed.checkExceededLimits .modelCallComplete modelCall,
    observed)

def countPreflightExhaustion (dimension : BudgetDimension) (toolName : Option String)
    (limit observed attemptedIncrement : Nat) : BudgetExhaustion where
  dimension := dimension
  toolName := toolName
  reason := .limitReached
  limit := limit
  observed := some observed
  attemptedIncrement := some attemptedIncrement
  overshoot := some (addCount observed attemptedIncrement - limit)
  unit := "calls"
  enforcementBoundary := .toolBatchPreflight

/-- The calls of a batch, counted under their names. -/
def batchByName (toolNames : List String) : Table Nat :=
  toolNames.foldl (fun batch name => batch.insert name (batch[name]?.getD 0 + 1)) {}

def nameCount (counts : Table Nat) (name : String) : Nat := counts[name]?.getD 0

/-- The count limit that a batch does not respect. -/
def batchExhaustion (evaluator : BudgetEvaluator) (toolNames : List String) :
    Option BudgetExhaustion :=
  let increment := min toolNames.length maxCount
  let batch := batchByName toolNames
  let total := do
    let limit ← evaluator.limits.maxToolCalls
    if limit < addCount evaluator.toolCalls increment then
      return countPreflightExhaustion .toolCalls none limit evaluator.toolCalls increment
    else none
  let named := evaluator.limits.maxToolCallsByName.toList.findSome? fun (name, limit) =>
    let increment := nameCount batch name
    let observed := nameCount evaluator.toolCallsByName name
    if increment ≠ 0 ∧ limit < addCount observed increment then
      some (countPreflightExhaustion .toolCallsByName (some name) limit observed increment)
    else none
  total <|> named

/-- Reserve a batch. -/
def reserve (evaluator : BudgetEvaluator) (toolNames : List String) : BudgetEvaluator :=
  { evaluator with
    toolCalls := addCount evaluator.toolCalls (min toolNames.length maxCount)
    toolCallsByName := (batchByName toolNames).toList.foldl
      (fun counts entry => counts.insert entry.1 (addCount (nameCount counts entry.1) entry.2))
      evaluator.toolCallsByName }

def preflightTools (evaluator : BudgetEvaluator) (toolNames : List String)
    (observation : Observation) : Answer :=
  let observed := evaluator.observeBoundary observation
  match observed.strictUnavailable .toolBatchPreflight <|>
      observed.checkAdmissionLimits .toolBatchPreflight ambient <|>
      observed.batchExhaustion toolNames with
  | some exhaustion => (some exhaustion, observed)
  | none => (none, observed.reserve toolNames)

def toolBatchComplete (evaluator : BudgetEvaluator) (operationFailed : Bool)
    (observation : Observation) : Answer :=
  let observed := evaluator.observeBoundary observation
  if operationFailed then (none, observed)
  else
    (observed.strictUnavailable .toolBatchComplete <|>
        observed.checkExceededLimits .toolBatchComplete ambient,
      observed)

def terminal (evaluator : BudgetEvaluator) (observation : Observation) : Answer :=
  let observed := evaluator.observeBoundary observation
  (observed.strictUnavailable .terminal <|>
      observed.checkExceededLimits .terminal dimensionPrecedence,
    observed)

end BudgetEvaluator

/-- A call of the evaluator. -/
inductive BudgetCall where
  | runStart
  | cycleStart
  | modelCallStart
  | modelCallComplete (usage : TokenUsage)
  | preflightTools (toolNames : List String)
  | toolBatchComplete (operationFailed : Bool)
  | terminal

/-- The answer of the evaluator to a call. -/
def BudgetEvaluator.ask (evaluator : BudgetEvaluator) (call : BudgetCall)
    (observation : Observation) : Answer :=
  match call with
  | .runStart => evaluator.runStart observation
  | .cycleStart => evaluator.cycleStart observation
  | .modelCallStart => evaluator.modelCallStart observation
  | .modelCallComplete usage => evaluator.modelCallComplete usage observation
  | .preflightTools toolNames => evaluator.preflightTools toolNames observation
  | .toolBatchComplete operationFailed => evaluator.toolBatchComplete operationFailed observation
  | .terminal => evaluator.terminal observation

/-- The evaluator after a call. -/
def BudgetEvaluator.exec (call : BudgetCall × Observation) (evaluator : BudgetEvaluator) :
    BudgetEvaluator :=
  (evaluator.ask call.1 call.2).2

end VvAgent
