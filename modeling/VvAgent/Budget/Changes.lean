import VvAgent.Budget.Resume

/-!
When a model call changes what a budget snapshot shows. The four measurements of a model
call are independent: each of them touches its own counter and its own dimension.
-/

namespace VvAgent
open Lib Lib.Outcome

namespace BudgetEvaluator

/-- The tokens that a call reports. -/
def reportedTotal (usage : TokenUsage) : Option Nat :=
  if usage.usageSource = .providerReported ∨ usage.usageSource = .estimated then
    usage.totalTokens
  else none

/-- The uncached input tokens that a call reports. -/
def reportedUncached (usage : TokenUsage) : Option Nat :=
  if usage.cacheUsage.status = .providerReported then usage.cacheUsage.uncachedInputTokens
  else none

/-- A token counter is changed: by the tokens that are reported, or because there is no
report and the counter has to be given up. -/
def TokensChange (counter : Option Nat) (latched : Option BudgetUnavailableDimension) :
    Option Nat → Prop
  | some increment => counter.isSome = true ∧ increment ≠ 0
  | none => counter.isSome = true ∨ latched = none

/-- The clock has reached another millisecond. -/
def TimeChanges (evaluator : BudgetEvaluator) (nowNs : Nat) : Prop :=
  evaluator.unavailable .wallTime = none ∧
    evaluator.elapsedMs < evaluator.baseElapsedMs + (nowNs - evaluator.startedNs) / 1000000

/-- The meter does not just repeat the cost that is known. -/
def CostChanges (evaluator : BudgetEvaluator) (reading : Except String (Option HostCost)) : Prop :=
  evaluator.unavailable .hostCost = none ∧
    ∃ limit, evaluator.limits.maxHostCost = some limit ∧
      ¬ (evaluator.metered = true ∧ ∃ cost, reading = .ok (some cost) ∧
        evaluator.hostCost = some cost ∧ cost.unit = limit.unit ∧ cost.currency = limit.currency)

/-- A model call changes the budget. -/
def CallChanges (evaluator : BudgetEvaluator) (usage : TokenUsage) (observation : Observation) :
    Prop :=
  TokensChange evaluator.totalTokens (evaluator.unavailable .totalTokens) (reportedTotal usage) ∨
    TokensChange evaluator.uncachedInputTokens (evaluator.unavailable .uncachedInputTokens)
      (reportedUncached usage) ∨
    evaluator.TimeChanges observation.nowNs ∨ evaluator.CostChanges observation.reading

theorem latchUnavailable_latched {evaluator : BudgetEvaluator}
    {observation : BudgetUnavailableDimension}
    (h : evaluator.unavailable observation.dimension ≠ none) :
    evaluator.latchUnavailable observation = evaluator := by
  unfold latchUnavailable
  cases hlatched : evaluator.unavailable observation.dimension with
  | none => exact absurd hlatched h
  | some _ => rfl

theorem latchUnavailable_self (evaluator : BudgetEvaluator)
    (observation : BudgetUnavailableDimension) :
    (evaluator.latchUnavailable observation).unavailable observation.dimension ≠ none := by
  unfold latchUnavailable
  cases hlatched : evaluator.unavailable observation.dimension with
  | some _ => simp [hlatched]
  | none => simp

/-! Token counters. -/

/-- A token counter after a call. -/
def addTokens (counter reported : Option Nat) : Option Nat :=
  counter.bind fun current => reported.bind fun increment => safeAdd current increment

/-- Why a token counter is given up. -/
def tokensNote (counter reported : Option Nat) : Option BudgetUnavailableReason :=
  if reported = none then some .usageMissing
  else if counter.isSome && (addTokens counter reported).isNone then some .integerOverflow
  else none

/-- Note that the tokens of a dimension are unavailable, if there is a reason. -/
def noteTokens (evaluator : BudgetEvaluator) (dimension : BudgetDimension)
    (note : Option BudgetUnavailableReason) : BudgetEvaluator :=
  note.elim evaluator fun reason => evaluator.latchUnavailable (unread dimension reason "tokens")

theorem observeTotalTokens_eq (evaluator : BudgetEvaluator) (usage : TokenUsage) :
    evaluator.observeTotalTokens usage =
      { evaluator with
        totalTokens := addTokens evaluator.totalTokens (reportedTotal usage) }.noteTokens
          .totalTokens (tokensNote evaluator.totalTokens (reportedTotal usage)) := by
  have hsame : evaluator.totalTokens = none → { evaluator with totalTokens := none } = evaluator :=
    fun h => by rw [← h]
  unfold observeTotalTokens reportedTotal
  by_cases hreported : usage.usageSource = .providerReported ∨ usage.usageSource = .estimated
  · cases usage.totalTokens with
    | none => simp [hreported, addTokens, tokensNote, noteTokens]
    | some increment =>
        cases hcounter : evaluator.totalTokens with
        | none => simp [hreported, addTokens, tokensNote, noteTokens, hsame hcounter]
        | some current =>
            cases hsum : safeAdd current increment <;>
              simp [hreported, hsum, addTokens, tokensNote, noteTokens]
  · cases usage.totalTokens <;> simp [hreported, addTokens, tokensNote, noteTokens]

theorem observeUncachedTokens_eq (evaluator : BudgetEvaluator) (usage : TokenUsage) :
    evaluator.observeUncachedTokens usage =
      { evaluator with
        uncachedInputTokens :=
          addTokens evaluator.uncachedInputTokens (reportedUncached usage) }.noteTokens
            .uncachedInputTokens
            (tokensNote evaluator.uncachedInputTokens (reportedUncached usage)) := by
  have hsame : evaluator.uncachedInputTokens = none →
      { evaluator with uncachedInputTokens := none } = evaluator := fun h => by rw [← h]
  unfold observeUncachedTokens
  dsimp only
  rw [← reportedUncached]
  cases reportedUncached usage with
  | none => simp [addTokens, tokensNote, noteTokens]
  | some increment =>
      cases hcounter : evaluator.uncachedInputTokens with
      | none => simp [addTokens, tokensNote, noteTokens, hsame hcounter]
      | some current =>
          cases hsum : safeAdd current increment <;>
            simp [hsum, addTokens, tokensNote, noteTokens]

theorem safeAdd_eq (current increment : Nat) :
    safeAdd current increment =
      if current + increment ≤ maxWireInteger then some (current + increment) else none := by
  have hwide : maxWireInteger < UInt64.size := by decide
  unfold safeAdd checkedAdd
  by_cases hfits : current + increment ≤ maxWireInteger
  · simp [hfits, show current + increment < UInt64.size by omega]
  · by_cases hsize : current + increment < UInt64.size
    · simp [hfits, hsize]
      omega
    · simp [hfits, hsize]

/-- A counter changes, or its loss is noted for the first time, exactly as `TokensChange`
says. -/
theorem tokensChange_iff {counter : Option Nat} {latched : Option BudgetUnavailableDimension}
    (hcounter : ∀ total, counter = some total → total ≤ maxWireInteger) (reported : Option Nat) :
    TokensChange counter latched reported ↔
      addTokens counter reported ≠ counter ∨
        (latched = none ∧ (tokensNote counter reported).isSome = true) := by
  cases reported with
  | none => cases counter <;> simp [TokensChange, addTokens, tokensNote]
  | some increment =>
      cases counter with
      | none => simp [TokensChange, addTokens, tokensNote]
      | some current =>
          have hsmall := hcounter current rfl
          simp only [TokensChange, addTokens, tokensNote, Option.bind_some, safeAdd_eq]
          by_cases hfits : current + increment ≤ maxWireInteger
          · simp [hfits]
          · have hne : increment ≠ 0 := by omega
            simp [hfits, hne]

theorem noteTokens_fixed {evaluator : BudgetEvaluator} {dimension : BudgetDimension}
    {note : Option BudgetUnavailableReason}
    (h : ¬ (evaluator.unavailable dimension = none ∧ note.isSome = true)) :
    evaluator.noteTokens dimension note = evaluator := by
  cases note with
  | none => rfl
  | some reason =>
      have hlatched : evaluator.unavailable dimension ≠ none := fun hnone => h ⟨hnone, rfl⟩
      exact latchUnavailable_latched hlatched

theorem noteTokens_latches {evaluator : BudgetEvaluator} {dimension : BudgetDimension}
    {note : Option BudgetUnavailableReason} (h : note.isSome = true) :
    (evaluator.noteTokens dimension note).unavailable dimension ≠ none := by
  cases note with
  | none => cases h
  | some reason => exact latchUnavailable_self evaluator (unread dimension reason "tokens")

/-- What is fixed when an evaluator is built. -/
def setup (evaluator : BudgetEvaluator) : RunBudgetLimits × Bool × Nat × Nat :=
  (evaluator.limits, evaluator.metered, evaluator.startedNs, evaluator.baseElapsedMs)

/-- A measurement of one dimension leaves everything else alone. -/
structure Measures (dimension : BudgetDimension) (before after : BudgetEvaluator) : Prop where
  totalTokens : dimension ≠ .totalTokens → after.totalTokens = before.totalTokens
  uncachedInputTokens : dimension ≠ .uncachedInputTokens →
    after.uncachedInputTokens = before.uncachedInputTokens
  elapsedMs : dimension ≠ .wallTime → after.elapsedMs = before.elapsedMs
  hostCost : dimension ≠ .hostCost → after.hostCost = before.hostCost
  unavailable : ∀ other, other ≠ dimension → after.unavailable other = before.unavailable other
  setup : after.setup = before.setup

theorem Measures.refl (dimension : BudgetDimension) (evaluator : BudgetEvaluator) :
    Measures dimension evaluator evaluator :=
  ⟨fun _ => rfl, fun _ => rfl, fun _ => rfl, fun _ => rfl, fun _ _ => rfl, rfl⟩

theorem Measures.latchUnavailable {dimension : BudgetDimension} {before after : BudgetEvaluator}
    (h : Measures dimension before after) {observation : BudgetUnavailableDimension}
    (hown : observation.dimension = dimension) :
    Measures dimension before (after.latchUnavailable observation) := by
  unfold BudgetEvaluator.latchUnavailable
  cases after.unavailable observation.dimension with
  | some _ => exact h
  | none =>
      refine ⟨h.totalTokens, h.uncachedInputTokens, h.elapsedMs, h.hostCost, ?_, h.setup⟩
      intro other hother
      exact (Function.update_of_ne (hown ▸ hother) _ _).trans (h.unavailable other hother)

theorem Measures.noteTokens {dimension : BudgetDimension} {before after : BudgetEvaluator}
    (h : Measures dimension before after) (note : Option BudgetUnavailableReason) :
    Measures dimension before (after.noteTokens dimension note) := by
  cases note with
  | none => exact h
  | some reason => exact h.latchUnavailable rfl

theorem Measures.observeTotalTokens (evaluator : BudgetEvaluator) (usage : TokenUsage) :
    Measures .totalTokens evaluator (evaluator.observeTotalTokens usage) := by
  rw [observeTotalTokens_eq]
  apply Measures.noteTokens
  exact { Measures.refl _ evaluator with totalTokens := fun h => absurd rfl h }

theorem Measures.observeUncachedTokens (evaluator : BudgetEvaluator) (usage : TokenUsage) :
    Measures .uncachedInputTokens evaluator (evaluator.observeUncachedTokens usage) := by
  rw [observeUncachedTokens_eq]
  apply Measures.noteTokens
  exact { Measures.refl _ evaluator with uncachedInputTokens := fun h => absurd rfl h }

theorem Measures.observeElapsed (evaluator : BudgetEvaluator) (nowNs : Nat) :
    Measures .wallTime evaluator (evaluator.observeElapsed nowNs) := by
  unfold BudgetEvaluator.observeElapsed
  cases evaluator.unavailable .wallTime with
  | some _ => exact .refl _ evaluator
  | none =>
      dsimp only
      split
      · exact (Measures.refl _ evaluator).latchUnavailable rfl
      · exact { Measures.refl _ evaluator with elapsedMs := fun h => absurd rfl h }

theorem Measures.observeHostCost (evaluator : BudgetEvaluator)
    (reading : Except String (Option HostCost)) :
    Measures .hostCost evaluator (evaluator.observeHostCost reading) := by
  have hset : ∀ cost, Measures .hostCost evaluator { evaluator with hostCost := cost } :=
    fun cost => { Measures.refl _ evaluator with hostCost := fun h => absurd rfl h }
  have hlatch : ∀ limit reason reading, Measures .hostCost evaluator
      (evaluator.latchHostUnavailable limit reason reading) :=
    fun limit reason reading => (Measures.refl _ evaluator).latchUnavailable rfl
  unfold BudgetEvaluator.observeHostCost BudgetEvaluator.observeReading
  cases evaluator.limits.maxHostCost with
  | none => exact .refl _ evaluator
  | some limit =>
      cases evaluator.unavailable .hostCost with
      | some _ => exact .refl _ evaluator
      | none =>
          dsimp only
          repeat' split
          all_goals first
            | exact hlatch _ _ _
            | exact (hset none).latchUnavailable rfl
            | exact hset _

/-! One measurement at a time: it changes its dimension exactly as the conditions say. -/

/-- What a snapshot shows of two evaluators is the same in one dimension. -/
def SameIn (dimension : BudgetDimension) (first second : BudgetEvaluator) : Prop :=
  first.unavailable dimension = second.unavailable dimension ∧
    match dimension with
    | .totalTokens => first.totalTokens = second.totalTokens
    | .uncachedInputTokens => first.uncachedInputTokens = second.uncachedInputTokens
    | .wallTime => first.elapsedMs = second.elapsedMs
    | .hostCost => first.hostCost = second.hostCost
    | _ => True

theorem observeTotalTokens_fixed {evaluator : BudgetEvaluator} (h : evaluator.Measured)
    {usage : TokenUsage} (hsame : ¬ TokensChange evaluator.totalTokens
      (evaluator.unavailable .totalTokens) (reportedTotal usage)) :
    evaluator.observeTotalTokens usage = evaluator := by
  rw [tokensChange_iff h.totalTokens, not_or, not_not] at hsame
  rw [observeTotalTokens_eq, hsame.1]
  exact noteTokens_fixed hsame.2

theorem observeUncachedTokens_fixed {evaluator : BudgetEvaluator} (h : evaluator.Measured)
    {usage : TokenUsage} (hsame : ¬ TokensChange evaluator.uncachedInputTokens
      (evaluator.unavailable .uncachedInputTokens) (reportedUncached usage)) :
    evaluator.observeUncachedTokens usage = evaluator := by
  rw [tokensChange_iff h.uncachedInputTokens, not_or, not_not] at hsame
  rw [observeUncachedTokens_eq, hsame.1]
  exact noteTokens_fixed hsame.2

theorem noteTokens_counters (evaluator : BudgetEvaluator) (dimension : BudgetDimension)
    (note : Option BudgetUnavailableReason) :
    (evaluator.noteTokens dimension note).totalTokens = evaluator.totalTokens ∧
      (evaluator.noteTokens dimension note).uncachedInputTokens =
        evaluator.uncachedInputTokens := by
  cases note with
  | none => exact ⟨rfl, rfl⟩
  | some reason =>
      unfold noteTokens latchUnavailable
      dsimp only [Option.elim]
      split
      · exact ⟨rfl, rfl⟩
      · exact ⟨rfl, rfl⟩

theorem observeTotalTokens_changes {evaluator : BudgetEvaluator} (h : evaluator.Measured)
    {usage : TokenUsage} (hchange : TokensChange evaluator.totalTokens
      (evaluator.unavailable .totalTokens) (reportedTotal usage)) :
    ¬ SameIn .totalTokens (evaluator.observeTotalTokens usage) evaluator := by
  rintro ⟨hlatched, hcounter⟩
  rw [observeTotalTokens_eq] at hlatched hcounter
  rcases (tokensChange_iff h.totalTokens _).mp hchange with hmoved | ⟨hfree, hnoted⟩
  · exact hmoved ((noteTokens_counters _ _ _).1.symm.trans hcounter)
  · exact noteTokens_latches hnoted (hlatched.trans hfree)

theorem observeUncachedTokens_changes {evaluator : BudgetEvaluator} (h : evaluator.Measured)
    {usage : TokenUsage} (hchange : TokensChange evaluator.uncachedInputTokens
      (evaluator.unavailable .uncachedInputTokens) (reportedUncached usage)) :
    ¬ SameIn .uncachedInputTokens (evaluator.observeUncachedTokens usage) evaluator := by
  rintro ⟨hlatched, hcounter⟩
  rw [observeUncachedTokens_eq] at hlatched hcounter
  rcases (tokensChange_iff h.uncachedInputTokens _).mp hchange with hmoved | ⟨hfree, hnoted⟩
  · exact hmoved ((noteTokens_counters _ _ _).2.symm.trans hcounter)
  · exact noteTokens_latches hnoted (hlatched.trans hfree)

theorem observeElapsed_fixed {evaluator : BudgetEvaluator} (h : evaluator.Measured) {nowNs : Nat}
    (hsame : ¬ evaluator.TimeChanges nowNs) : evaluator.observeElapsed nowNs = evaluator := by
  unfold observeElapsed
  cases hlatched : evaluator.unavailable .wallTime with
  | some _ => rfl
  | none =>
      have hsmall := h.elapsedMs
      have hnow : evaluator.baseElapsedMs + (nowNs - evaluator.startedNs) / 1000000 ≤
          evaluator.elapsedMs := by
        by_contra hlater
        exact hsame ⟨hlatched, by omega⟩
      dsimp only
      rw [if_neg (by omega), Nat.max_eq_left hnow]

theorem observeElapsed_changes {evaluator : BudgetEvaluator} {nowNs : Nat}
    (hchange : evaluator.TimeChanges nowNs) :
    ¬ SameIn .wallTime (evaluator.observeElapsed nowNs) evaluator := by
  obtain ⟨hfree, hlater⟩ := hchange
  rintro ⟨hlatched, helapsed⟩
  unfold observeElapsed at hlatched helapsed
  rw [hfree] at hlatched helapsed
  dsimp only at hlatched helapsed
  by_cases hover : maxWireInteger <
      evaluator.baseElapsedMs + (nowNs - evaluator.startedNs) / 1000000
  · rw [if_pos hover] at hlatched
    exact latchUnavailable_self evaluator (unread .wallTime .integerOverflow "milliseconds") hlatched
  · rw [if_neg hover] at helapsed
    dsimp only at helapsed
    omega

theorem observeHostCost_fixed {evaluator : BudgetEvaluator} (h : evaluator.Measured)
    {reading : Except String (Option HostCost)} (hsame : ¬ evaluator.CostChanges reading) :
    evaluator.observeHostCost reading = evaluator := by
  unfold observeHostCost
  cases hlimit : evaluator.limits.maxHostCost with
  | none => rfl
  | some limit =>
      cases hlatched : evaluator.unavailable .hostCost with
      | some _ => rfl
      | none =>
          have hrepeats : evaluator.metered = true ∧ ∃ cost, reading = .ok (some cost) ∧
              evaluator.hostCost = some cost ∧ cost.unit = limit.unit ∧
              cost.currency = limit.currency := by
            by_contra hother
            exact hsame ⟨hlatched, limit, hlimit, hother⟩
          obtain ⟨hmetered, cost, rfl, hcost, hunit, hcurrency⟩ := hrepeats
          have hvalid := h.hostCost cost hcost
          have hkept : { evaluator with hostCost := some cost } = evaluator := by rw [← hcost]
          dsimp only
          rw [hmetered]
          unfold observeReading
          rw [hcost]
          simp [hvalid, hunit, hcurrency, hkept]

theorem observeHostCost_changes {evaluator : BudgetEvaluator}
    {reading : Except String (Option HostCost)} (hchange : evaluator.CostChanges reading) :
    ¬ SameIn .hostCost (evaluator.observeHostCost reading) evaluator := by
  obtain ⟨hfree, limit, hlimit, hother⟩ := hchange
  rintro ⟨hlatched, hcost⟩
  have hlatches : ∀ (before : BudgetEvaluator) (reason : BudgetUnavailableReason)
      (reading : Option HostCost),
      (before.latchHostUnavailable limit reason reading).unavailable .hostCost ≠ none := by
    intro before reason reading
    unfold latchHostUnavailable
    exact latchUnavailable_self before _
  unfold observeHostCost at hlatched hcost
  rw [hlimit, hfree] at hlatched hcost
  dsimp only at hlatched hcost
  cases hmetered : evaluator.metered with
  | false =>
      rw [hmetered] at hlatched
      exact hlatches _ _ _ hlatched
  | true =>
      rw [hmetered] at hlatched hcost
      cases reading with
      | error message => exact hlatches _ _ _ hlatched
      | ok found =>
          cases found with
          | none => exact hlatches _ _ _ hlatched
          | some cost =>
              apply hother
              change (evaluator.observeReading limit cost).unavailable .hostCost = none at hlatched
              change (evaluator.observeReading limit cost).hostCost = evaluator.hostCost at hcost
              unfold observeReading at hlatched hcost
              by_cases hvalid : cost.validate ≠ .ok ()
              · rw [if_pos hvalid] at hlatched
                exact absurd hlatched (hlatches _ _ _)
              rw [if_neg hvalid] at hlatched hcost
              by_cases hunit : cost.unit ≠ limit.unit
              · rw [if_pos hunit] at hlatched
                exact absurd hlatched (hlatches _ _ _)
              rw [if_neg hunit] at hlatched hcost
              by_cases hcurrency : cost.currency ≠ limit.currency
              · rw [if_pos hcurrency] at hlatched
                exact absurd hlatched (hlatches _ _ _)
              rw [if_neg hcurrency] at hlatched hcost
              split at hlatched
              · exact absurd hlatched (hlatches _ _ _)
              · rename_i hmonotone
                rw [if_neg hmonotone] at hcost
                exact ⟨hmetered, cost, rfl, hcost.symm, not_not.mp hunit, not_not.mp hcurrency⟩

/-! A whole model call. -/

theorem Measures.sameIn {dimension : BudgetDimension} {before after : BudgetEvaluator}
    (h : Measures dimension before after) (other : BudgetDimension) (hother : other ≠ dimension) :
    SameIn other after before := by
  refine ⟨h.unavailable other hother, ?_⟩
  cases other with
  | totalTokens => exact h.totalTokens hother.symm
  | uncachedInputTokens => exact h.uncachedInputTokens hother.symm
  | wallTime => exact h.elapsedMs hother.symm
  | hostCost => exact h.hostCost hother.symm
  | toolCalls => trivial
  | toolCallsByName => trivial

theorem SameIn.trans {dimension : BudgetDimension} {first second third : BudgetEvaluator}
    (h : SameIn dimension first second) (h' : SameIn dimension second third) :
    SameIn dimension first third := by
  refine ⟨h.1.trans h'.1, ?_⟩
  cases dimension with
  | toolCalls => trivial
  | toolCallsByName => trivial
  | totalTokens => exact h.2.trans h'.2
  | uncachedInputTokens => exact h.2.trans h'.2
  | wallTime => exact h.2.trans h'.2
  | hostCost => exact h.2.trans h'.2

theorem SameIn.symm {dimension : BudgetDimension} {first second : BudgetEvaluator}
    (h : SameIn dimension first second) : SameIn dimension second first := by
  refine ⟨h.1.symm, ?_⟩
  cases dimension with
  | toolCalls => trivial
  | toolCallsByName => trivial
  | totalTokens => exact h.2.symm
  | uncachedInputTokens => exact h.2.symm
  | wallTime => exact h.2.symm
  | hostCost => exact h.2.symm

/-- Equal snapshots show the same in every dimension. -/
theorem sameIn_of_snapshot {first second : BudgetEvaluator} (hfirst : first.Measured)
    (hsecond : second.Measured) (h : first.snapshot = second.snapshot)
    (dimension : BudgetDimension) : SameIn dimension first second := by
  have hlisted : dimension ∈ dimensionPrecedence := by cases dimension <;> decide
  have hfound := congrArg
    (fun usage => usage.unavailableDimensions.find? (·.dimension == dimension)) h
  have hleft := find_unavailable hfirst dimensionPrecedence dimension
  have hright := find_unavailable hsecond dimensionPrecedence dimension
  rw [if_pos hlisted] at hleft hright
  refine ⟨hleft.symm.trans (hfound.trans hright), ?_⟩
  cases dimension with
  | toolCalls => trivial
  | toolCallsByName => trivial
  | totalTokens => exact congrArg BudgetUsageSnapshot.totalTokens h
  | uncachedInputTokens => exact congrArg BudgetUsageSnapshot.uncachedInputTokens h
  | wallTime => exact congrArg BudgetUsageSnapshot.elapsedMs h
  | hostCost => exact congrArg BudgetUsageSnapshot.hostCost h

/-- A call that changes nothing leaves the evaluator as it is. -/
theorem modelCallComplete_fixed {evaluator : BudgetEvaluator} (h : evaluator.Measured)
    {usage : TokenUsage} {observation : Observation}
    (hsame : ¬ evaluator.CallChanges usage observation) :
    (evaluator.modelCallComplete usage observation).2 = evaluator := by
  simp only [CallChanges, not_or] at hsame
  obtain ⟨htotal, huncached, htime, hcost⟩ := hsame
  change (((evaluator.observeTotalTokens usage).observeUncachedTokens usage).observeElapsed
    observation.nowNs).observeHostCost observation.reading = evaluator
  rw [observeTotalTokens_fixed h htotal, observeUncachedTokens_fixed h huncached,
    observeElapsed_fixed h htime, observeHostCost_fixed h hcost]

/-- A call that changes something shows in the snapshot. -/
theorem modelCallComplete_changes {evaluator : BudgetEvaluator} (h : evaluator.Measured)
    {usage : TokenUsage} {observation : Observation}
    (hchange : evaluator.CallChanges usage observation) :
    (evaluator.modelCallComplete usage observation).2.snapshot ≠ evaluator.snapshot := by
  intro hsnapshot
  have hafter : (evaluator.modelCallComplete usage observation).2.Measured :=
    h.ask (.modelCallComplete usage) observation
  have hsame := sameIn_of_snapshot hafter h hsnapshot
  -- The four measurements, one after the other.
  let first := evaluator.observeTotalTokens usage
  let second := first.observeUncachedTokens usage
  let third := second.observeElapsed observation.nowNs
  have htotal : Measures .totalTokens evaluator first := .observeTotalTokens evaluator usage
  have huncached : Measures .uncachedInputTokens first second := .observeUncachedTokens first usage
  have htime : Measures .wallTime second third := .observeElapsed second observation.nowNs
  have hcost : Measures .hostCost third (evaluator.modelCallComplete usage observation).2 :=
    .observeHostCost third observation.reading
  have hfirst : first.Measured := h.observeTotalTokens usage
  rcases hchange with hchange | hchange | hchange | hchange
  · refine observeTotalTokens_changes h hchange ?_
    have hkept := ((hcost.sameIn _ (by decide)).trans (htime.sameIn _ (by decide))).trans
      (huncached.sameIn .totalTokens (by decide))
    exact hkept.symm.trans (hsame .totalTokens)
  · have hdata := htotal.sameIn .uncachedInputTokens (by decide)
    have hlater : TokensChange first.uncachedInputTokens
        (first.unavailable .uncachedInputTokens) (reportedUncached usage) := by
      rw [hdata.1, hdata.2]
      exact hchange
    refine observeUncachedTokens_changes hfirst hlater ?_
    have hkept := (hcost.sameIn _ (by decide)).trans
      (htime.sameIn .uncachedInputTokens (by decide))
    exact (hkept.symm.trans (hsame _)).trans hdata.symm
  · have hdata := (huncached.sameIn _ (by decide)).trans
      (htotal.sameIn .wallTime (by decide))
    have hsetup : second.setup = evaluator.setup := huncached.setup.trans htotal.setup
    simp only [setup, Prod.mk.injEq] at hsetup
    have hlater : second.TimeChanges observation.nowNs := by
      unfold TimeChanges
      rw [hdata.1, hdata.2, hsetup.2.2.1, hsetup.2.2.2]
      exact hchange
    refine observeElapsed_changes hlater ?_
    exact ((hcost.sameIn _ (by decide)).symm.trans (hsame _)).trans hdata.symm
  · have hdata := ((htime.sameIn _ (by decide)).trans (huncached.sameIn _ (by decide))).trans
      (htotal.sameIn .hostCost (by decide))
    have hsetup : third.setup = evaluator.setup :=
      htime.setup.trans (huncached.setup.trans htotal.setup)
    simp only [setup, Prod.mk.injEq] at hsetup
    have hlater : third.CostChanges observation.reading := by
      unfold CostChanges
      rw [hdata.1, hdata.2, hsetup.1, hsetup.2.1]
      exact hchange
    refine observeHostCost_changes hlater ?_
    exact (hsame .hostCost).trans hdata.symm

end BudgetEvaluator

end VvAgent
