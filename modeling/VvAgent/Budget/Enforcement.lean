import VvAgent.Budget.Resume

/-!
Whether a limit is enforced at the boundaries that check it. Under the stopping policy a
boundary answers with the first limited dimension that cannot be measured, and compares every
other one with its limit; a dimension that has no value and is not marked as unavailable is
passed over. The host cost is read or marked at every boundary and the wall time always has a
value, so this concerns the two token counters, and they only lose their value together with a
mark. What decides is the snapshot the run starts from.
-/

namespace VvAgent
open Lib Lib.Outcome

/-- The measured dimensions that a boundary checks. A failed batch is not checked. -/
def BudgetCall.checks : BudgetCall → List BudgetDimension
  | .runStart | .preflightTools _ => BudgetEvaluator.ambient
  | .toolBatchComplete operationFailed => if operationFailed then [] else BudgetEvaluator.ambient
  | .cycleStart | .modelCallStart | .modelCallComplete _ | .terminal => BudgetEvaluator.modelCall

/-- The comparison of a boundary: an admission stops at the limit, a completed operation only
beyond it. -/
def BudgetCall.beyond : BudgetCall → Nat → Nat → Bool
  | .runStart | .cycleStart | .modelCallStart | .preflightTools _ =>
      fun observed limit => limit ≤ observed
  | .modelCallComplete _ | .toolBatchComplete _ | .terminal =>
      fun observed limit => limit < observed

/-- The limit of a dimension; the limits of named tools are not among them. -/
def RunBudgetLimits.limitOf (limits : RunBudgetLimits) : BudgetDimension → Option Nat
  | .totalTokens => limits.maxTotalTokens
  | .uncachedInputTokens => limits.maxUncachedInputTokens
  | .toolCalls => limits.maxToolCalls
  | .wallTime => limits.maxWallTimeMs
  | .hostCost => limits.maxHostCost.map (·.amountMicrounits)
  | .toolCallsByName => none

namespace BudgetEvaluator

theorem limitOf_eq_some_iff (evaluator : BudgetEvaluator) (dimension : BudgetDimension)
    (limit : Nat) :
    evaluator.limits.limitOf dimension = some limit ↔
      ∃ unit currency, evaluator.limitDescriptor dimension = some (limit, unit, currency) := by
  cases dimension <;> simp [RunBudgetLimits.limitOf, limitDescriptor]

/-- An answer that names a limited dimension which cannot be measured. -/
def ReportsUnavailable (observed : BudgetEvaluator) (answer : Option BudgetExhaustion) : Prop :=
  ∃ exhaustion, answer = some exhaustion ∧ exhaustion.reason = .metricUnavailable ∧
    (observed.limits.limitOf exhaustion.dimension).isSome = true ∧
    (observed.unavailable exhaustion.dimension).isSome = true

/-- A dimension that has a value, which an answer without exhaustion has found within the
limit. -/
def Compared (observed : BudgetEvaluator) (beyond : Nat → Nat → Bool)
    (answer : Option BudgetExhaustion) (dimension : BudgetDimension) (limit : Nat) : Prop :=
  ∃ value, observed.observedValue dimension = some value ∧
    (answer = none → beyond value limit = false)

/-- A call enforces the limits it checks. -/
def Enforces (call : BudgetCall × Observation) (evaluator : BudgetEvaluator) : Prop :=
  ∀ dimension ∈ call.1.checks, ∀ limit, evaluator.limits.limitOf dimension = some limit →
    (exec call evaluator).Compared call.1.beyond (evaluator.ask call.1 call.2).1 dimension limit ∨
      (exec call evaluator).ReportsUnavailable (evaluator.ask call.1 call.2).1

/-! The checks. -/

theorem mem_dimensionPrecedence (dimension : BudgetDimension) : dimension ∈ dimensionPrecedence := by
  cases dimension <;> decide

/-- Under the stopping policy nothing is reported only when every limited dimension can be
measured. -/
theorem strictUnavailable_none {evaluator : BudgetEvaluator}
    (hpolicy : evaluator.limits.unavailableMetricPolicy = .stop)
    {boundary : BudgetEnforcementBoundary} (h : evaluator.strictUnavailable boundary = none)
    {dimension : BudgetDimension} {limit : Nat}
    (hlimit : evaluator.limits.limitOf dimension = some limit) :
    evaluator.unavailable dimension = none := by
  rw [strictUnavailable, if_neg (by simp [hpolicy]), List.findSome?_eq_none_iff] at h
  have hnone := h dimension (mem_dimensionPrecedence dimension)
  obtain ⟨unit, currency, hdescriptor⟩ := (limitOf_eq_some_iff _ _ _).mp hlimit
  cases hunavailable : evaluator.unavailable dimension with
  | none => rfl
  | some observation => simp [hunavailable, hdescriptor] at hnone

/-- What is reported is a limited dimension that cannot be measured. -/
theorem strictUnavailable_some {evaluator : BudgetEvaluator}
    {boundary : BudgetEnforcementBoundary} {exhaustion : BudgetExhaustion}
    (h : evaluator.strictUnavailable boundary = some exhaustion) :
    exhaustion.reason = .metricUnavailable ∧
      (evaluator.limits.limitOf exhaustion.dimension).isSome = true ∧
      (evaluator.unavailable exhaustion.dimension).isSome = true := by
  unfold strictUnavailable at h
  split at h
  · cases h
  · obtain ⟨dimension, _, hfound⟩ := List.exists_of_findSome?_eq_some h
    simp only [Option.bind_eq_bind, Option.bind_eq_some_iff, Option.pure_def,
      Option.some.injEq] at hfound
    obtain ⟨observation, hunavailable, ⟨limit, unit, currency⟩, hdescriptor, rfl⟩ := hfound
    refine ⟨rfl, ?_, ?_⟩
    · simp [(limitOf_eq_some_iff evaluator dimension limit).mpr ⟨unit, currency, hdescriptor⟩]
    · simp [hunavailable]

/-- A check finds nothing only when every value it looks at is within its limit. -/
theorem checkLimits_none {evaluator : BudgetEvaluator} {beyond : Nat → Nat → Bool}
    {reason : BudgetExhaustionReason} {boundary : BudgetEnforcementBoundary}
    {dimensions : List BudgetDimension}
    (h : evaluator.checkLimits beyond reason boundary dimensions = none)
    {dimension : BudgetDimension} (hmem : dimension ∈ dimensions)
    (havailable : evaluator.unavailable dimension = none) {limit value : Nat}
    (hlimit : evaluator.limits.limitOf dimension = some limit)
    (hvalue : evaluator.observedValue dimension = some value) : beyond value limit = false := by
  rw [checkLimits, List.findSome?_eq_none_iff] at h
  have hnone := h dimension (mem_dimensionPrecedence dimension)
  obtain ⟨unit, currency, hdescriptor⟩ := (limitOf_eq_some_iff _ _ _).mp hlimit
  simpa [hmem, havailable, hdescriptor, hvalue] using hnone

theorem checkLimits_reason {evaluator : BudgetEvaluator} {beyond : Nat → Nat → Bool}
    {reason : BudgetExhaustionReason} {boundary : BudgetEnforcementBoundary}
    {dimensions : List BudgetDimension} {exhaustion : BudgetExhaustion}
    (h : evaluator.checkLimits beyond reason boundary dimensions = some exhaustion) :
    exhaustion.reason = reason := by
  obtain ⟨dimension, _, hfound⟩ := List.exists_of_findSome?_eq_some h
  split at hfound
  · cases hfound
  · simp only [Option.bind_eq_bind, Option.bind_eq_some_iff] at hfound
    obtain ⟨_, _, value, _, hfound⟩ := hfound
    split at hfound
    · cases hfound
      rfl
    · cases hfound

theorem ambient_subset : ∀ dimension ∈ ambient, dimension ∈ modelCall := by decide

theorem checks_subset (call : BudgetCall) : ∀ dimension ∈ call.checks, dimension ∈ modelCall := by
  intro dimension hmem
  cases call with
  | runStart => exact ambient_subset dimension hmem
  | preflightTools _ => exact ambient_subset dimension hmem
  | cycleStart => exact hmem
  | modelCallStart => exact hmem
  | modelCallComplete _ => exact hmem
  | terminal => exact hmem
  | toolBatchComplete operationFailed =>
      cases operationFailed with
      | false => exact ambient_subset dimension hmem
      | true => cases hmem

/-! What a boundary sees. -/

/-- The evaluator when a boundary checks it: the tokens of a completed call are counted, then
the clock and the meter are read. -/
def seen (evaluator : BudgetEvaluator) (call : BudgetCall) (observation : Observation) :
    BudgetEvaluator :=
  match call with
  | .modelCallComplete usage => (evaluator.observeTokenUsage usage).observeBoundary observation
  | _ => evaluator.observeBoundary observation

/-- The parts of an evaluator that limits are checked against. -/
structure SameMeasures (before after : BudgetEvaluator) : Prop where
  limits : after.limits = before.limits
  metered : after.metered = before.metered
  unavailable : after.unavailable = before.unavailable
  totalTokens : after.totalTokens = before.totalTokens
  uncachedInputTokens : after.uncachedInputTokens = before.uncachedInputTokens
  elapsedMs : after.elapsedMs = before.elapsedMs
  hostCost : after.hostCost = before.hostCost

theorem SameMeasures.refl (evaluator : BudgetEvaluator) : SameMeasures evaluator evaluator :=
  ⟨rfl, rfl, rfl, rfl, rfl, rfl, rfl⟩

theorem SameMeasures.observedValue {before after : BudgetEvaluator} (h : SameMeasures before after)
    {dimension : BudgetDimension} (hmem : dimension ∈ modelCall) :
    after.observedValue dimension = before.observedValue dimension := by
  obtain ⟨_, _, _, htotal, huncached, helapsed, hcost⟩ := h
  cases dimension with
  | totalTokens => exact htotal
  | uncachedInputTokens => exact huncached
  | wallTime => exact congrArg some helapsed
  | hostCost => exact congrArg (Option.map _) hcost
  | toolCalls => simp [modelCall] at hmem
  | toolCallsByName => simp [modelCall] at hmem

/-- A call leaves the measures as it has seen them. -/
theorem exec_sameMeasures (call : BudgetCall × Observation) (evaluator : BudgetEvaluator) :
    SameMeasures (evaluator.seen call.1 call.2) (exec call evaluator) := by
  obtain ⟨call, observation⟩ := call
  cases call with
  | runStart => exact .refl _
  | modelCallStart => exact .refl _
  | modelCallComplete usage => exact .refl _
  | terminal => exact .refl _
  | cycleStart =>
      dsimp only [exec, ask, cycleStart, modelCallStart]
      split
      · rename_i observed hasked
        obtain ⟨_, rfl⟩ := Prod.mk.inj hasked
        exact ⟨rfl, rfl, rfl, rfl, rfl, rfl, rfl⟩
      · exact .refl _
  | toolBatchComplete operationFailed =>
      dsimp only [exec, ask, toolBatchComplete]
      split
      · exact .refl _
      · exact .refl _
  | preflightTools toolNames =>
      dsimp only [exec, ask, preflightTools]
      split
      · exact .refl _
      · exact ⟨rfl, rfl, rfl, rfl, rfl, rfl, rfl⟩

theorem batchExhaustion_reason {evaluator : BudgetEvaluator} {toolNames : List String}
    {exhaustion : BudgetExhaustion} (h : evaluator.batchExhaustion toolNames = some exhaustion) :
    exhaustion.reason = .limitReached := by
  rw [batchExhaustion, Option.orElse_eq_orElse, Option.orElse_eq_or, Option.or_eq_some_iff] at h
  rcases h with htotal | ⟨_, hnamed⟩
  · simp only [Option.bind_eq_bind, Option.bind_eq_some_iff] at htotal
    obtain ⟨limit, _, hfound⟩ := htotal
    split at hfound
    · cases hfound
      rfl
    · cases hfound
  · obtain ⟨⟨name, limit⟩, _, hfound⟩ := List.exists_of_findSome?_eq_some hnamed
    simp only [Option.ite_none_right_eq_some, Option.some.injEq] at hfound
    obtain ⟨_, rfl⟩ := hfound
    rfl

/-- The answer of a boundary that checks something: first what cannot be measured, then the
limits, then what else the call asks. -/
theorem ask_answer (evaluator : BudgetEvaluator) {call : BudgetCall} (observation : Observation)
    (hchecks : call.checks ≠ []) :
    ∃ boundary reason dimensions rest,
      (evaluator.ask call observation).1 =
        ((evaluator.seen call observation).strictUnavailable boundary <|>
          (evaluator.seen call observation).checkLimits call.beyond reason boundary dimensions <|>
          rest) ∧
      (∀ dimension ∈ call.checks, dimension ∈ dimensions) ∧ reason ≠ .metricUnavailable ∧
      ∀ exhaustion, rest = some exhaustion → exhaustion.reason ≠ .metricUnavailable := by
  have hnone : ∀ exhaustion : BudgetExhaustion, none = some exhaustion →
      exhaustion.reason ≠ .metricUnavailable := by
    intro exhaustion h
    cases h
  have hsubset : ∀ dimension ∈ modelCall, dimension ∈ dimensionPrecedence := by decide
  cases call with
  | runStart =>
      refine ⟨.runStart, .limitReached, ambient, none, ?_, fun _ hmem => hmem, by decide, hnone⟩
      simp [ask, runStart, seen, checkAdmissionLimits, BudgetCall.beyond]
  | modelCallStart =>
      refine ⟨.cycleStart, .limitReached, modelCall, none, ?_, fun _ hmem => hmem, by decide, hnone⟩
      simp [ask, modelCallStart, seen, checkAdmissionLimits, BudgetCall.beyond]
  | cycleStart =>
      refine ⟨.cycleStart, .limitReached, modelCall, none, ?_, fun _ hmem => hmem, by decide, hnone⟩
      simp only [ask, cycleStart, modelCallStart, seen, checkAdmissionLimits, BudgetCall.beyond]
      split
      · rename_i observed hasked
        simpa using (Prod.mk.inj hasked).1.symm
      · simp
  | modelCallComplete usage =>
      refine ⟨.modelCallComplete, .limitExceeded, modelCall, none, ?_, fun _ hmem => hmem,
        by decide, hnone⟩
      simp [ask, modelCallComplete, seen, checkExceededLimits, BudgetCall.beyond]
  | terminal =>
      refine ⟨.terminal, .limitExceeded, dimensionPrecedence, none, ?_, hsubset, by decide, hnone⟩
      simp [ask, terminal, seen, checkExceededLimits, BudgetCall.beyond]
  | toolBatchComplete operationFailed =>
      have hrun : operationFailed = false := by
        cases operationFailed with
        | false => rfl
        | true => exact absurd rfl hchecks
      subst hrun
      refine ⟨.toolBatchComplete, .limitExceeded, ambient, none, ?_, fun _ hmem => hmem,
        by decide, hnone⟩
      simp [ask, toolBatchComplete, seen, checkExceededLimits, BudgetCall.beyond]
  | preflightTools toolNames =>
      refine ⟨.toolBatchPreflight, .limitReached, ambient,
        (evaluator.observeBoundary observation).batchExhaustion toolNames, ?_, fun _ hmem => hmem,
        by decide, ?_⟩
      · simp only [ask, preflightTools, seen, checkAdmissionLimits, BudgetCall.beyond]
        split
        · rename_i exhaustion hfound
          exact hfound.symm
        · rename_i hfound
          exact hfound.symm
      · intro exhaustion hfound
        rw [batchExhaustion_reason hfound]
        decide

/-- Under the stopping policy a boundary enforces its limits when every limited dimension it
checks has a value or is marked, or when some limited dimension is marked. -/
theorem enforces_of_measured {evaluator : BudgetEvaluator}
    (hpolicy : evaluator.limits.unavailableMetricPolicy = .stop) (call : BudgetCall × Observation)
    (hlimits : (evaluator.seen call.1 call.2).limits = evaluator.limits)
    (hmeasured : (∃ dimension,
        (evaluator.limits.limitOf dimension).isSome = true ∧
          ((evaluator.seen call.1 call.2).unavailable dimension).isSome = true) ∨
      ∀ dimension ∈ call.1.checks, (evaluator.limits.limitOf dimension).isSome = true →
        ((evaluator.seen call.1 call.2).observedValue dimension).isSome = true) :
    Enforces call evaluator := by
  intro dimension hmem limit hlimit
  have hchecks : call.1.checks ≠ [] := List.ne_nil_of_mem hmem
  obtain ⟨boundary, reason, dimensions, rest, hanswer, hsubset, _⟩ :=
    ask_answer evaluator call.2 hchecks
  have hsame := exec_sameMeasures call evaluator
  have hpolicy' : (evaluator.seen call.1 call.2).limits.unavailableMetricPolicy = .stop := by
    rw [hlimits]
    exact hpolicy
  have hmodel := checks_subset call.1 dimension hmem
  cases hstrict : (evaluator.seen call.1 call.2).strictUnavailable boundary with
  | some exhaustion =>
      right
      obtain ⟨hreason, hlimited, hunavailable⟩ := strictUnavailable_some hstrict
      refine ⟨exhaustion, ?_, hreason, ?_, ?_⟩
      · rw [hanswer, hstrict]
        rfl
      · rw [hsame.limits]
        exact hlimited
      · rw [hsame.unavailable]
        exact hunavailable
  | none =>
      left
      have havailable {other : BudgetDimension} {bound : Nat}
          (hother : evaluator.limits.limitOf other = some bound) :
          (evaluator.seen call.1 call.2).unavailable other = none := by
        apply strictUnavailable_none hpolicy' hstrict
        rw [hlimits]
        exact hother
      have hvalue : ((evaluator.seen call.1 call.2).observedValue dimension).isSome = true := by
        rcases hmeasured with ⟨other, hother, hmarked⟩ | hall
        · obtain ⟨bound, hbound⟩ := Option.isSome_iff_exists.mp hother
          rw [havailable hbound] at hmarked
          cases hmarked
        · apply hall dimension hmem
          rw [hlimit]
          rfl
      obtain ⟨value, hvalue⟩ := Option.isSome_iff_exists.mp hvalue
      refine ⟨value, by rw [hsame.observedValue hmodel, hvalue], ?_⟩
      intro hnothing
      rw [hanswer, hstrict] at hnothing
      simp only [Option.orElse_eq_orElse, Option.orElse_eq_or, Option.none_or,
        Option.or_eq_none_iff] at hnothing
      apply checkLimits_none hnothing.1 (hsubset dimension hmem) (havailable hlimit) ?_ hvalue
      rw [hlimits]
      exact hlimit

/-! The token counters. -/

/-- Every limited token counter has a value or is marked. -/
structure Accounted (evaluator : BudgetEvaluator) : Prop where
  totalTokens : evaluator.limits.maxTotalTokens.isSome = true →
    evaluator.totalTokens.isSome = true ∨ (evaluator.unavailable .totalTokens).isSome = true
  uncachedInputTokens : evaluator.limits.maxUncachedInputTokens.isSome = true →
    evaluator.uncachedInputTokens.isSome = true ∨
      (evaluator.unavailable .uncachedInputTokens).isSome = true

/-- The parts that reading the clock and the meter leaves alone. -/
def tokens (evaluator : BudgetEvaluator) : Bool × Option Nat × Option Nat :=
  (evaluator.metered, evaluator.totalTokens, evaluator.uncachedInputTokens)

theorem tokens_latchUnavailable (evaluator : BudgetEvaluator)
    (observation : BudgetUnavailableDimension) :
    (evaluator.latchUnavailable observation).tokens = evaluator.tokens := by
  unfold latchUnavailable
  split
  · rfl
  · rfl

theorem tokens_observeBoundary (evaluator : BudgetEvaluator) (observation : Observation) :
    (evaluator.observeBoundary observation).tokens = evaluator.tokens := by
  have helapsed : (evaluator.observeElapsed observation.nowNs).tokens = evaluator.tokens := by
    unfold observeElapsed
    split
    · rfl
    · dsimp only
      split
      · exact tokens_latchUnavailable _ _
      · rfl
  rw [← helapsed, observeBoundary, observeHostCost]
  generalize evaluator.observeElapsed observation.nowNs = timed
  cases timed.limits.maxHostCost with
  | none => rfl
  | some limit =>
      cases timed.unavailable .hostCost with
      | some _ => rfl
      | none =>
          dsimp only
          split
          · exact tokens_latchUnavailable _ _
          · split
            · exact tokens_latchUnavailable _ _
            · exact tokens_latchUnavailable _ _
            · unfold observeReading
              split
              · exact tokens_latchUnavailable _ _
              split
              · exact tokens_latchUnavailable _ _
              split
              · exact tokens_latchUnavailable _ _
              split
              · exact tokens_latchUnavailable _ _
              · rfl

theorem latchUnavailable_marks (evaluator : BudgetEvaluator)
    (observation : BudgetUnavailableDimension) :
    ((evaluator.latchUnavailable observation).unavailable observation.dimension).isSome = true := by
  unfold latchUnavailable
  cases hmarked : evaluator.unavailable observation.dimension with
  | some earlier => rw [hmarked]; rfl
  | none =>
      dsimp only
      rw [Function.update_self]
      rfl

/-- A mark stays. -/
theorem Grows.marked {before after : BudgetEvaluator} (h : Grows before after)
    {dimension : BudgetDimension} (hmarked : (before.unavailable dimension).isSome = true) :
    (after.unavailable dimension).isSome = true := by
  obtain ⟨observation, hobservation⟩ := Option.isSome_iff_exists.mp hmarked
  rw [h.unavailable dimension observation hobservation]
  rfl

/-- What keeps the token counters or marks them keeps them accounted for. -/
theorem Accounted.grow {before after : BudgetEvaluator} (h : before.Accounted)
    (hgrows : Grows before after)
    (htotal : after.totalTokens.isSome = before.totalTokens.isSome ∨
      (after.unavailable .totalTokens).isSome = true)
    (huncached : after.uncachedInputTokens.isSome = before.uncachedInputTokens.isSome ∨
      (after.unavailable .uncachedInputTokens).isSome = true) : after.Accounted := by
  constructor
  · rw [hgrows.limits]
    intro hlimited
    rcases htotal with hsame | hmarked
    · rw [hsame]
      exact (h.totalTokens hlimited).imp_right hgrows.marked
    · exact .inr hmarked
  · rw [hgrows.limits]
    intro hlimited
    rcases huncached with hsame | hmarked
    · rw [hsame]
      exact (h.uncachedInputTokens hlimited).imp_right hgrows.marked
    · exact .inr hmarked

theorem Accounted.observeTotalTokens {evaluator : BudgetEvaluator} (h : evaluator.Accounted)
    (usage : TokenUsage) : (evaluator.observeTotalTokens usage).Accounted := by
  apply h.grow (Grows.observeTotalTokens evaluator usage)
  · unfold BudgetEvaluator.observeTotalTokens
    dsimp only
    split
    · split
      · split
        · exact .inl rfl
        · rename_i hcurrent
          split
          · rw [hcurrent]
            exact .inl rfl
          · exact .inr (latchUnavailable_marks _ _)
      · exact .inr (latchUnavailable_marks _ _)
    · exact .inr (latchUnavailable_marks _ _)
  · have hother (observation : BudgetUnavailableDimension) :
        ({ evaluator with totalTokens := none }.latchUnavailable
          observation).uncachedInputTokens.isSome = evaluator.uncachedInputTokens.isSome :=
      congrArg (·.2.2.isSome) (tokens_latchUnavailable { evaluator with totalTokens := none } _)
    unfold BudgetEvaluator.observeTotalTokens
    dsimp only
    split
    · split
      · split
        · exact .inl rfl
        · split
          · exact .inl rfl
          · exact .inl (hother _)
      · exact .inl (hother _)
    · exact .inl (hother _)

theorem Accounted.observeUncachedTokens {evaluator : BudgetEvaluator} (h : evaluator.Accounted)
    (usage : TokenUsage) : (evaluator.observeUncachedTokens usage).Accounted := by
  apply h.grow (Grows.observeUncachedTokens evaluator usage)
  · have hother (observation : BudgetUnavailableDimension) :
        ({ evaluator with uncachedInputTokens := none }.latchUnavailable
          observation).totalTokens.isSome = evaluator.totalTokens.isSome :=
      congrArg (·.2.1.isSome)
        (tokens_latchUnavailable { evaluator with uncachedInputTokens := none } _)
    unfold BudgetEvaluator.observeUncachedTokens
    dsimp only
    split
    · split
      · exact .inl rfl
      · split
        · exact .inl rfl
        · exact .inl (hother _)
    · exact .inl (hother _)
  · unfold BudgetEvaluator.observeUncachedTokens
    dsimp only
    split
    · split
      · exact .inl rfl
      · rename_i hcurrent
        split
        · rw [hcurrent]
          exact .inl rfl
        · exact .inr (latchUnavailable_marks _ _)
    · exact .inr (latchUnavailable_marks _ _)

theorem Grows.seen (evaluator : BudgetEvaluator) (call : BudgetCall) (observation : Observation) :
    Grows evaluator (evaluator.seen call observation) := by
  cases call with
  | modelCallComplete usage =>
      exact ((Grows.observeTotalTokens evaluator usage).trans (.observeUncachedTokens _ usage)).trans
        (.observeBoundary _ observation)
  | _ => exact .observeBoundary evaluator observation

theorem Accounted.observeBoundary {evaluator : BudgetEvaluator} (h : evaluator.Accounted)
    (observation : Observation) : (evaluator.observeBoundary observation).Accounted := by
  have htokens := tokens_observeBoundary evaluator observation
  simp only [tokens, Prod.mk.injEq] at htokens
  apply h.grow (Grows.observeBoundary evaluator observation)
  · exact .inl (by rw [htokens.2.1])
  · exact .inl (by rw [htokens.2.2])

theorem Accounted.seen {evaluator : BudgetEvaluator} (h : evaluator.Accounted) (call : BudgetCall)
    (observation : Observation) : (evaluator.seen call observation).Accounted := by
  cases call with
  | modelCallComplete usage =>
      exact ((h.observeTotalTokens usage).observeUncachedTokens usage).observeBoundary observation
  | _ => exact h.observeBoundary observation

/-! The host cost. -/

/-- Reading the meter gives a cost or marks the dimension, and marks it when there is no
meter. -/
theorem hostCost_measured (evaluator : BudgetEvaluator)
    (reading : Except String (Option HostCost))
    (hlimited : evaluator.limits.maxHostCost.isSome = true) :
    ((evaluator.observeHostCost reading).unavailable .hostCost).isSome = true ∨
      (evaluator.observeHostCost reading).metered = true ∧
        (evaluator.observeHostCost reading).hostCost.isSome = true := by
  obtain ⟨limit, hlimit⟩ := Option.isSome_iff_exists.mp hlimited
  simp only [observeHostCost, hlimit]
  cases hmarked : evaluator.unavailable .hostCost with
  | some observation => exact .inl (by rw [hmarked]; rfl)
  | none =>
      dsimp only
      split
      · exact .inl (latchUnavailable_marks _ _)
      · rename_i hmetered
        have hmeter : evaluator.metered = true := by simpa using hmetered
        split
        · exact .inl (latchUnavailable_marks _ _)
        · exact .inl (latchUnavailable_marks _ _)
        · unfold observeReading
          split
          · exact .inl (latchUnavailable_marks _ _)
          split
          · exact .inl (latchUnavailable_marks _ _)
          split
          · exact .inl (latchUnavailable_marks _ _)
          split
          · exact .inl (latchUnavailable_marks _ _)
          · exact .inr ⟨hmeter, rfl⟩

/-! Runs. -/

/-- What makes the boundaries enforce their limits: a limited dimension is marked already, the
host cost is limited without a meter, or both token counters are accounted for. -/
def Prepared (evaluator : BudgetEvaluator) : Prop :=
  (∃ dimension, (evaluator.limits.limitOf dimension).isSome = true ∧
      (evaluator.unavailable dimension).isSome = true) ∨
    (evaluator.limits.maxHostCost.isSome = true ∧ evaluator.metered = false) ∨
    evaluator.Accounted

theorem metered_seen (evaluator : BudgetEvaluator) (call : BudgetCall)
    (observation : Observation) : (evaluator.seen call observation).metered = evaluator.metered := by
  cases call with
  | modelCallComplete usage =>
      have htotal : (evaluator.observeTotalTokens usage).metered = evaluator.metered := by
        have hdrop := fun reason => congrArg Prod.fst (tokens_latchUnavailable
          { evaluator with totalTokens := none } (unread .totalTokens reason "tokens"))
        unfold observeTotalTokens
        dsimp only
        split
        · split
          · split
            · rfl
            · split
              · rfl
              · exact hdrop _
          · exact hdrop _
        · exact hdrop _
      have huncached (counted : BudgetEvaluator) :
          (counted.observeUncachedTokens usage).metered = counted.metered := by
        have hdrop := fun reason => congrArg Prod.fst (tokens_latchUnavailable
          { counted with uncachedInputTokens := none }
            (unread .uncachedInputTokens reason "tokens"))
        unfold observeUncachedTokens
        dsimp only
        split
        · split
          · rfl
          · split
            · rfl
            · exact hdrop _
        · exact hdrop _
      have hseen := congrArg Prod.fst
        (tokens_observeBoundary (evaluator.observeTokenUsage usage) observation)
      exact hseen.trans ((huncached _).trans htotal)
  | _ => exact congrArg Prod.fst (tokens_observeBoundary evaluator observation)

theorem hostCost_seen (evaluator : BudgetEvaluator) (call : BudgetCall)
    (observation : Observation) (hlimited : evaluator.limits.maxHostCost.isSome = true) :
    ((evaluator.seen call observation).unavailable .hostCost).isSome = true ∨
      evaluator.metered = true ∧ (evaluator.seen call observation).hostCost.isSome = true := by
  rw [← metered_seen evaluator call observation]
  cases call with
  | modelCallComplete usage =>
      apply hostCost_measured
      have hgrows := ((Grows.observeTotalTokens evaluator usage).trans
        (.observeUncachedTokens _ usage)).trans (.observeElapsed _ observation.nowNs)
      change ((evaluator.observeTokenUsage usage).observeElapsed
        observation.nowNs).limits.maxHostCost.isSome = true
      rw [observeTokenUsage, hgrows.limits]
      exact hlimited
  | _ =>
      apply hostCost_measured
      rw [(Grows.observeElapsed evaluator observation.nowNs).limits]
      exact hlimited

theorem Prepared.seen {evaluator : BudgetEvaluator} (h : evaluator.Prepared) (call : BudgetCall)
    (observation : Observation) : (evaluator.seen call observation).Prepared := by
  have hgrows := Grows.seen evaluator call observation
  unfold Prepared
  rw [hgrows.limits, metered_seen]
  rcases h with ⟨dimension, hlimited, hmarked⟩ | hunmetered | haccounted
  · exact .inl ⟨dimension, hlimited, hgrows.marked hmarked⟩
  · exact .inr (.inl hunmetered)
  · exact .inr (.inr (haccounted.seen call observation))

theorem Prepared.exec {evaluator : BudgetEvaluator} (h : evaluator.Prepared)
    (call : BudgetCall × Observation) : (exec call evaluator).Prepared := by
  have hseen := h.seen call.1 call.2
  obtain ⟨hlimits, hmetered, hunavailable, htotal, huncached, _, _⟩ :=
    exec_sameMeasures call evaluator
  unfold Prepared at hseen ⊢
  rw [hlimits, hmetered, hunavailable]
  refine hseen.imp_right (Or.imp_right fun haccounted => ⟨?_, ?_⟩)
  · rw [hlimits, htotal, hunavailable]
    exact haccounted.totalTokens
  · rw [hlimits, huncached, hunavailable]
    exact haccounted.uncachedInputTokens

/-- A prepared evaluator enforces the limits of every boundary. -/
theorem Prepared.enforces {evaluator : BudgetEvaluator} (h : evaluator.Prepared)
    (hpolicy : evaluator.limits.unavailableMetricPolicy = .stop)
    (call : BudgetCall × Observation) : Enforces call evaluator := by
  have hgrows := Grows.seen evaluator call.1 call.2
  apply enforces_of_measured hpolicy call hgrows.limits
  by_contra hnone
  rw [not_or] at hnone
  obtain ⟨hunmarked, hvalues⟩ := hnone
  apply hvalues
  have havailable {dimension : BudgetDimension}
      (hlimited : (evaluator.limits.limitOf dimension).isSome = true) :
      ¬((evaluator.seen call.1 call.2).unavailable dimension).isSome = true :=
    fun hmarked => hunmarked ⟨dimension, hlimited, hmarked⟩
  have hcost {cost : HostCost} (hlimit : evaluator.limits.maxHostCost = some cost) :
      evaluator.metered = true ∧ (evaluator.seen call.1 call.2).hostCost.isSome = true := by
    have hlimited : (evaluator.limits.limitOf .hostCost).isSome = true := by
      simp [RunBudgetLimits.limitOf, hlimit]
    rcases hostCost_seen evaluator call.1 call.2 (by rw [hlimit]; rfl) with hmarked | hread
    · exact absurd hmarked (havailable hlimited)
    · exact hread
  have haccounted : (evaluator.seen call.1 call.2).Accounted := by
    rcases h with ⟨dimension, hlimited, hmarked⟩ | ⟨hlimited, hunmetered⟩ | haccounted
    · exact absurd (hgrows.marked hmarked) (havailable hlimited)
    · obtain ⟨cost, hlimit⟩ := Option.isSome_iff_exists.mp hlimited
      rw [(hcost hlimit).1] at hunmetered
      cases hunmetered
    · exact haccounted.seen call.1 call.2
  intro dimension hmem hlimited
  have hmodel := checks_subset call.1 dimension hmem
  cases dimension with
  | wallTime => rfl
  | totalTokens =>
      apply (haccounted.totalTokens ?_).resolve_right (havailable hlimited)
      rw [hgrows.limits]
      exact hlimited
  | uncachedInputTokens =>
      apply (haccounted.uncachedInputTokens ?_).resolve_right (havailable hlimited)
      rw [hgrows.limits]
      exact hlimited
  | hostCost =>
      rw [RunBudgetLimits.limitOf, Option.isSome_map] at hlimited
      obtain ⟨cost, hlimit⟩ := Option.isSome_iff_exists.mp hlimited
      simpa [observedValue] using (hcost hlimit).2
  | toolCalls => simp [modelCall] at hmodel
  | toolCallsByName => simp [modelCall] at hmodel

/-- Nothing is reported when every limited dimension can be measured. -/
theorem strictUnavailable_of_available {evaluator : BudgetEvaluator}
    (h : ∀ dimension, (evaluator.limits.limitOf dimension).isSome = true →
      evaluator.unavailable dimension = none) (boundary : BudgetEnforcementBoundary) :
    evaluator.strictUnavailable boundary = none := by
  cases hstrict : evaluator.strictUnavailable boundary with
  | none => rfl
  | some exhaustion =>
      obtain ⟨_, hlimited, hmarked⟩ := strictUnavailable_some hstrict
      rw [h _ hlimited] at hmarked
      cases hmarked

/-- The answers of an environment in which nothing happens: no time has passed, and the meter
shows the cost of before. -/
def quiet (evaluator : BudgetEvaluator) : Observation where
  nowNs := evaluator.startedNs
  reading := .ok (evaluator.limits.maxHostCost.map fun limit =>
    { limit with amountMicrounits := (evaluator.hostCost.map (·.amountMicrounits)).getD 0 })

/-- A quiet boundary marks nothing, unless a meter is missing. -/
theorem unavailable_quiet {evaluator : BudgetEvaluator} (h : evaluator.Measured)
    (hmetered : evaluator.limits.maxHostCost.isSome = true → evaluator.metered = true) :
    (evaluator.observeBoundary evaluator.quiet).unavailable = evaluator.unavailable := by
  have helapsed : (evaluator.observeElapsed evaluator.startedNs).unavailable =
        evaluator.unavailable ∧
      (evaluator.observeElapsed evaluator.startedNs).hostCost = evaluator.hostCost ∧
      (evaluator.observeElapsed evaluator.startedNs).limits = evaluator.limits ∧
      (evaluator.observeElapsed evaluator.startedNs).metered = evaluator.metered := by
    unfold observeElapsed
    cases evaluator.unavailable .wallTime with
    | some _ => exact ⟨rfl, rfl, rfl, rfl⟩
    | none =>
        have hbase : ¬maxWireInteger < evaluator.baseElapsedMs +
            (evaluator.startedNs - evaluator.startedNs) / 1000000 := by
          have hle := h.base
          have hmax := h.elapsedMs
          rw [Nat.sub_self, Nat.zero_div]
          omega
        dsimp only
        rw [if_neg hbase]
        exact ⟨rfl, rfl, rfl, rfl⟩
  obtain ⟨hunavailable, hcost, hlimits, hmeter⟩ := helapsed
  rw [← hunavailable, observeBoundary, observeHostCost, quiet]
  dsimp only
  rw [hlimits, hunavailable, hmeter]
  cases hlimit : evaluator.limits.maxHostCost with
  | none => exact hunavailable
  | some limit =>
      cases hmarked : evaluator.unavailable .hostCost with
      | some _ => exact hunavailable
      | none =>
          obtain ⟨hunit, hcurrency, _⟩ := (hostCost_validate_eq_ok limit).mp (h.maxHostCost hlimit)
          have hamount : (evaluator.hostCost.map (·.amountMicrounits)).getD 0 ≤ maxWireInteger := by
            cases hbefore : evaluator.hostCost with
            | none => exact Nat.zero_le _
            | some cost => exact ((hostCost_validate_eq_ok cost).mp (h.hostCost cost hbefore)).2.2
          have hvalid : HostCost.validate { limit with
              amountMicrounits := (evaluator.hostCost.map (·.amountMicrounits)).getD 0 } =
              .ok () :=
            (hostCost_validate_eq_ok _).mpr ⟨hunit, hcurrency, hamount⟩
          have hmonotone : (evaluator.hostCost.any fun cost =>
              decide ((evaluator.hostCost.map (·.amountMicrounits)).getD 0 <
                cost.amountMicrounits)) = false := by
            cases evaluator.hostCost with
            | none => rfl
            | some cost => simp
          rw [hmetered (by rw [hlimit]; rfl)]
          simp only [Bool.not_true, Bool.false_eq_true, if_false, Option.map_some, observeReading,
            hvalid, ne_eq, not_true_eq_false, hcost, hmonotone]
          exact hunavailable

/-- An evaluator that is not prepared passes over a limit at the end of a quiet run. -/
theorem prepared_of_enforces {evaluator : BudgetEvaluator} (h : evaluator.Measured)
    (henforces : Enforces (.terminal, evaluator.quiet) evaluator) : evaluator.Prepared := by
  by_contra hunprepared
  simp only [Prepared, not_or] at hunprepared
  obtain ⟨hunmarked, hmetered, hunaccounted⟩ := hunprepared
  have hmeter : evaluator.limits.maxHostCost.isSome = true → evaluator.metered = true := by
    intro hlimited
    by_contra hmissing
    exact hmetered ⟨hlimited, by simpa using hmissing⟩
  have hunavailable := unavailable_quiet h hmeter
  have hgrows := Grows.observeBoundary evaluator evaluator.quiet
  have htokens := tokens_observeBoundary evaluator evaluator.quiet
  simp only [tokens, Prod.mk.injEq] at htokens
  have hstrict : (evaluator.observeBoundary evaluator.quiet).strictUnavailable .terminal = none := by
    apply strictUnavailable_of_available
    intro dimension hlimited
    rw [hgrows.limits] at hlimited
    rw [hunavailable]
    exact Option.not_isSome_iff_eq_none.mp fun hmarked => hunmarked ⟨dimension, hlimited, hmarked⟩
  -- A limited counter without a value is neither compared nor reported.
  have hpassed (dimension : BudgetDimension) (hmem : dimension ∈ modelCall)
      (hlimited : (evaluator.limits.limitOf dimension).isSome = true)
      (hvalue : (evaluator.observeBoundary evaluator.quiet).observedValue dimension = none) :
      False := by
    obtain ⟨limit, hlimit⟩ := Option.isSome_iff_exists.mp hlimited
    rcases henforces dimension hmem limit hlimit with ⟨value, hfound, _⟩ | ⟨exhaustion, hfound, hreason, _⟩
    · have hsame : (evaluator.observeBoundary evaluator.quiet).observedValue dimension =
          some value := hfound
      rw [hvalue] at hsame
      cases hsame
    · have hanswer : ((evaluator.observeBoundary evaluator.quiet).strictUnavailable .terminal <|>
          (evaluator.observeBoundary evaluator.quiet).checkExceededLimits .terminal
            dimensionPrecedence) = some exhaustion := hfound
      rw [hstrict, Option.orElse_eq_orElse, Option.orElse_eq_or, Option.none_or] at hanswer
      have hexceeded := checkLimits_reason hanswer
      rw [hreason] at hexceeded
      cases hexceeded
  apply hunaccounted
  constructor
  · intro hlimited
    left
    by_contra hnone
    apply hpassed .totalTokens (by decide) hlimited
    change (evaluator.observeBoundary evaluator.quiet).totalTokens = none
    rw [htokens.2.1]
    exact Option.not_isSome_iff_eq_none.mp hnone
  · intro hlimited
    left
    by_contra hnone
    apply hpassed .uncachedInputTokens (by decide) hlimited
    change (evaluator.observeBoundary evaluator.quiet).uncachedInputTokens = none
    rw [htokens.2.2]
    exact Option.not_isSome_iff_eq_none.mp hnone

end BudgetEvaluator

/-- What a snapshot has to say so that a run from it enforces its limits: one of its unavailable
dimensions is limited, the host cost is limited without a meter, or each limited token counter
has a value or is listed as unavailable. -/
def BudgetUsageSnapshot.Accounts (usage : BudgetUsageSnapshot) (limits : RunBudgetLimits)
    (metered : Bool) : Prop :=
  let listed (dimension : BudgetDimension) :=
    dimension ∈ usage.unavailableDimensions.map (·.dimension)
  (∃ dimension, (limits.limitOf dimension).isSome = true ∧ listed dimension) ∨
    (limits.maxHostCost.isSome = true ∧ metered = false) ∨
    (limits.maxTotalTokens.isSome = true → usage.totalTokens.isSome = true ∨ listed .totalTokens) ∧
      (limits.maxUncachedInputTokens.isSome = true →
        usage.uncachedInputTokens.isSome = true ∨ listed .uncachedInputTokens)

namespace BudgetEvaluator

theorem prepared_start_iff (limits : RunBudgetLimits) (metered : Bool)
    (usage : BudgetUsageSnapshot) (nowNs : Nat) :
    (start limits metered usage nowNs).Prepared ↔ usage.Accounts limits metered := by
  have hlisted (dimension : BudgetDimension) :
      ((start limits metered usage nowNs).unavailable dimension).isSome = true ↔
        dimension ∈ usage.unavailableDimensions.map (·.dimension) := by
    simp [start, List.find?_isSome]
  simp only [Prepared, BudgetUsageSnapshot.Accounts, hlisted]
  refine or_congr Iff.rfl (or_congr Iff.rfl ?_)
  constructor
  · rintro ⟨htotal, huncached⟩
    simp only [hlisted] at htotal huncached
    exact ⟨htotal, huncached⟩
  · rintro ⟨htotal, huncached⟩
    simp only [← hlisted] at htotal huncached
    exact ⟨htotal, huncached⟩

/-- Under the stopping policy every boundary of every run enforces the limits it checks exactly
when the snapshot the run starts from accounts for them. -/
theorem limits_enforced_iff (limits : RunBudgetLimits) (metered : Bool)
    (initialUsage : Option BudgetUsageSnapshot) (nowNs : Nat) (evaluator : BudgetEvaluator)
    (hstart : withClock limits metered initialUsage nowNs = .ok evaluator)
    (hpolicy : limits.unavailableMetricPolicy = .stop) :
    (∀ calls first call rest, calls = first ++ call :: rest →
      Enforces call (run exec first evaluator)) ↔
      (initialUsage.getD {}).Accounts limits metered := by
  obtain ⟨hlimits, hlimited, hvalid, rfl⟩ := (withClock_eq_ok _ _ _ _ _).mp hstart
  rw [← prepared_start_iff limits metered _ nowNs]
  constructor
  · intro h
    apply prepared_of_enforces (start_measured hlimits hlimited hvalid metered nowNs)
    exact h [_] [] _ [] rfl
  · intro hprepared calls first call rest _
    have hrun := run_preserves exec (fun _ => True)
      (fun evaluator : BudgetEvaluator =>
        evaluator.limits.unavailableMetricPolicy = .stop ∧ evaluator.Prepared)
      (fun call evaluator _ hbefore => by
        refine ⟨?_, hbefore.2.exec call⟩
        rw [(exec_sameMeasures call evaluator).limits, (Grows.seen evaluator _ _).limits]
        exact hbefore.1)
      first (fun _ _ => trivial) _ ⟨hpolicy, hprepared⟩
    exact hrun.2.enforces hrun.1 call

end BudgetEvaluator

namespace Sample

/-- A limit on the tokens of a run, under the stopping policy. -/
def strictLimits : RunBudgetLimits where
  maxTotalTokens := some 100
  unavailableMetricPolicy := .stop

/-- A snapshot that has lost the count of tokens without saying so. -/
def uncounted : BudgetUsageSnapshot := { totalTokens := none }

end Sample

/-- A run that starts without a snapshot checks its tokens before the first call. -/
theorem limits_enforced_fresh :
    BudgetEvaluator.Enforces (.cycleStart, Sample.still)
      (.start Sample.strictLimits false {} 0) := by
  have hstart : BudgetEvaluator.withClock Sample.strictLimits false none 0 =
      .ok (.start Sample.strictLimits false {} 0) := rfl
  have haccounts : ({} : BudgetUsageSnapshot).Accounts Sample.strictLimits false :=
    .inr (.inr ⟨fun _ => .inl rfl, fun _ => .inl rfl⟩)
  exact (BudgetEvaluator.limits_enforced_iff Sample.strictLimits false none 0 _ hstart rfl).mpr
    haccounts [_] [] _ [] rfl

/-- The snapshot without a count is valid, and the calls of a run from it are admitted although
there is nothing to compare their limit with. -/
theorem uncounted_tokens_pass :
    BudgetEvaluator.withClock Sample.strictLimits false (some Sample.uncounted) 0 =
        .ok (.start Sample.strictLimits false Sample.uncounted 0) ∧
      ((BudgetEvaluator.start Sample.strictLimits false Sample.uncounted 0).cycleStart
        Sample.still).1 = none ∧
      ¬BudgetEvaluator.Enforces (.cycleStart, Sample.still)
        (.start Sample.strictLimits false Sample.uncounted 0) := by
  refine ⟨rfl, rfl, ?_⟩
  intro h
  rcases h .totalTokens (by decide) 100 rfl with ⟨value, hvalue, _⟩ | ⟨exhaustion, hanswer, _⟩
  · cases hvalue
  · cases hanswer

end VvAgent
