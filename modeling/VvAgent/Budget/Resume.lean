import VvAgent.Budget.Wire
import VvAgent.Budget.Controller

/-!
A budget that is taken up again from its snapshot. `Measured` is what every boundary keeps of
the measurements and `Counted` what the admissions have to keep of the counters; together
they make the snapshot valid. Two evaluators that differ only in where their clocks started
and in the time they had used by then answer alike.
-/

namespace VvAgent
open Lib Lib.Outcome

namespace BudgetEvaluator

/-- What the measurements of a run satisfy. -/
structure Measured (evaluator : BudgetEvaluator) : Prop where
  limits : evaluator.limits.validate = .ok ()
  limited : evaluator.limits.hasLimits = true
  totalTokens : ∀ total, evaluator.totalTokens = some total → total ≤ maxWireInteger
  uncachedInputTokens : ∀ total, evaluator.uncachedInputTokens = some total →
    total ≤ maxWireInteger
  elapsedMs : evaluator.elapsedMs ≤ maxWireInteger
  base : evaluator.baseElapsedMs ≤ evaluator.elapsedMs
  hostCost : ∀ cost, evaluator.hostCost = some cost → cost.validate = .ok ()
  unavailable : ∀ dimension observation, evaluator.unavailable dimension = some observation →
    observation.dimension = dimension ∧ observation.validate = .ok ()

/-- The counters of a run are those of a valid snapshot. -/
structure Counted (evaluator : BudgetEvaluator) : Prop where
  cycles : evaluator.cycles ≤ maxWireInteger
  toolCalls : evaluator.toolCalls ≤ maxWireInteger
  named : ∀ (name : String) (count : Nat), evaluator.toolCallsByName[name]? = some count →
    isBlank name = false ∧ count ≤ maxWireInteger

theorem Counted.of_counters {before after : BudgetEvaluator} (h : before.Counted)
    (hsame : after.counters = before.counters) : after.Counted := by
  simp only [counters, Prod.mk.injEq] at hsame
  obtain ⟨_, hcycles, hcalls, hnames⟩ := hsame
  exact ⟨hcycles ▸ h.cycles, hcalls ▸ h.toolCalls, hnames ▸ h.named⟩

/-! Every observation keeps the measurements. -/

theorem Measured.latchUnavailable {evaluator : BudgetEvaluator} (h : evaluator.Measured)
    {observation : BudgetUnavailableDimension} (hvalid : observation.validate = .ok ()) :
    (evaluator.latchUnavailable observation).Measured := by
  unfold BudgetEvaluator.latchUnavailable
  cases evaluator.unavailable observation.dimension with
  | some earlier => exact h
  | none =>
      refine { h with unavailable := ?_ }
      intro dimension found hfound
      dsimp only at hfound
      by_cases heq : dimension = observation.dimension
      · subst heq
        rw [Function.update_self] at hfound
        cases hfound
        exact ⟨rfl, hvalid⟩
      · rw [Function.update_of_ne heq] at hfound
        exact h.unavailable dimension found hfound

theorem unread_validate (dimension : BudgetDimension) (reason : BudgetUnavailableReason)
    {unit : String} (hunit : isBlank unit = false) :
    (unread dimension reason unit).validate = .ok () := by
  simp [unread, BudgetUnavailableDimension.validate, hunit]

theorem Measured.maxHostCost {evaluator : BudgetEvaluator} (h : evaluator.Measured)
    {limit : HostCost} (hlimit : evaluator.limits.maxHostCost = some limit) :
    limit.validate = .ok () := by
  have hvalid := h.limits
  simp only [RunBudgetLimits.validate, unit_guard_bind, checkOption_eq_ok] at hvalid
  exact hvalid.2.2 limit hlimit

theorem hostCost_validate_eq_ok (cost : HostCost) :
    cost.validate = .ok () ↔
      isBlank cost.unit = false ∧
        (∀ currency, cost.currency = some currency → isBlank currency = false) ∧
        cost.amountMicrounits ≤ maxWireInteger := by
  simp only [HostCost.validate, unit_guard_bind, checkOption_eq_ok, validateNonEmpty_eq_ok,
    validateWireInteger_eq_ok]

theorem Measured.latchHostUnavailable {evaluator : BudgetEvaluator} (h : evaluator.Measured)
    {limit : HostCost} (hlimit : limit.validate = .ok ()) (reason : BudgetUnavailableReason)
    {reading : Option HostCost} (hreading : ∀ cost, reading = some cost → cost.validate = .ok ()) :
    (evaluator.latchHostUnavailable limit reason reading).Measured := by
  obtain ⟨hunit, hcurrency, _⟩ := (hostCost_validate_eq_ok limit).mp hlimit
  apply h.latchUnavailable
  cases reading with
  | none =>
      simp only [BudgetUnavailableDimension.validate, checkAll_eq_ok, checkOption_eq_ok,
        validateNonEmpty_eq_ok]
      simpa [hunit] using hcurrency
  | some cost =>
      obtain ⟨hread, hreadCurrency, _⟩ := (hostCost_validate_eq_ok cost).mp (hreading cost rfl)
      simp only [BudgetUnavailableDimension.validate, checkAll_eq_ok, checkOption_eq_ok,
        validateNonEmpty_eq_ok]
      simpa [hunit, hread] using ⟨hcurrency, hreadCurrency⟩

theorem Measured.observeElapsed {evaluator : BudgetEvaluator} (h : evaluator.Measured)
    (nowNs : Nat) : (evaluator.observeElapsed nowNs).Measured := by
  unfold BudgetEvaluator.observeElapsed
  cases evaluator.unavailable .wallTime with
  | some _ => exact h
  | none =>
      dsimp only
      split
      · exact h.latchUnavailable (unread_validate _ _ (by decide +kernel))
      · rename_i hsmall
        have hold := h.elapsedMs
        have hbase := h.base
        exact { h with
          elapsedMs := by dsimp only; omega
          base := by dsimp only; omega }

theorem Measured.observeReading {evaluator : BudgetEvaluator} (h : evaluator.Measured)
    {limit : HostCost} (hlimit : limit.validate = .ok ()) (reading : HostCost) :
    (evaluator.observeReading limit reading).Measured := by
  unfold BudgetEvaluator.observeReading
  split
  · exact h.latchHostUnavailable hlimit _ (by rintro _ ⟨⟩)
  rename_i hvalid
  have hread : ∀ cost, some reading = some cost → cost.validate = .ok () := by
    rintro cost ⟨⟩
    exact not_not.mp hvalid
  split
  · exact h.latchHostUnavailable hlimit _ hread
  split
  · exact h.latchHostUnavailable hlimit _ hread
  split
  · have hcleared : { evaluator with hostCost := none }.Measured := { h with hostCost := (by rintro _ ⟨⟩) }
    exact hcleared.latchHostUnavailable hlimit _ hread
  · exact { h with hostCost := hread }

theorem Measured.observeBoundary {evaluator : BudgetEvaluator} (h : evaluator.Measured)
    (observation : Observation) : (evaluator.observeBoundary observation).Measured := by
  have hclock := h.observeElapsed observation.nowNs
  unfold BudgetEvaluator.observeBoundary BudgetEvaluator.observeHostCost
  generalize evaluator.observeElapsed observation.nowNs = timed at hclock ⊢
  cases hlimit : timed.limits.maxHostCost with
  | none => exact hclock
  | some limit =>
      have hvalid := hclock.maxHostCost hlimit
      cases timed.unavailable .hostCost with
      | some _ => exact hclock
      | none =>
          dsimp only
          split
          · exact hclock.latchHostUnavailable hvalid _ (by rintro _ ⟨⟩)
          · split
            · exact hclock.latchHostUnavailable hvalid _ (by rintro _ ⟨⟩)
            · exact hclock.latchHostUnavailable hvalid _ (by rintro _ ⟨⟩)
            · exact hclock.observeReading hvalid _

theorem safeAdd_le {current increment total : Nat} (h : safeAdd current increment = some total) :
    total ≤ maxWireInteger := by
  simp only [safeAdd, Option.filter_eq_some_iff, decide_eq_true_eq] at h
  exact h.2

theorem Measured.observeTotalTokens {evaluator : BudgetEvaluator} (h : evaluator.Measured)
    (usage : TokenUsage) : (evaluator.observeTotalTokens usage).Measured := by
  have hdrop : ∀ reason, ({ evaluator with totalTokens := none }.latchUnavailable
      (unread .totalTokens reason "tokens")).Measured := by
    intro reason
    have hdropped : { evaluator with totalTokens := none }.Measured :=
      { h with totalTokens := (by rintro _ ⟨⟩) }
    exact hdropped.latchUnavailable (unread_validate _ _ (by decide +kernel))
  unfold BudgetEvaluator.observeTotalTokens
  dsimp only
  cases usage.totalTokens with
  | none => exact hdrop _
  | some increment =>
      dsimp only
      split
      · cases evaluator.totalTokens with
        | none => exact h
        | some current =>
            dsimp only
            cases hsum : safeAdd current increment with
            | none => exact hdrop _
            | some total =>
                refine { h with totalTokens := ?_ }
                rintro later ⟨⟩
                exact safeAdd_le hsum
      · exact hdrop _

theorem Measured.observeUncachedTokens {evaluator : BudgetEvaluator} (h : evaluator.Measured)
    (usage : TokenUsage) : (evaluator.observeUncachedTokens usage).Measured := by
  have hdrop : ∀ reason, ({ evaluator with uncachedInputTokens := none }.latchUnavailable
      (unread .uncachedInputTokens reason "tokens")).Measured := by
    intro reason
    have hdropped : { evaluator with uncachedInputTokens := none }.Measured :=
      { h with uncachedInputTokens := (by rintro _ ⟨⟩) }
    exact hdropped.latchUnavailable (unread_validate _ _ (by decide +kernel))
  unfold BudgetEvaluator.observeUncachedTokens
  dsimp only
  split
  · cases evaluator.uncachedInputTokens with
    | none => exact h
    | some current =>
        dsimp only
        split
        · rename_i hsum
          refine { h with uncachedInputTokens := ?_ }
          rintro later ⟨⟩
          exact safeAdd_le hsum
        · exact hdrop _
  · exact hdrop _

/-! Admissions. -/

/-- A batch counts the names that are in it, and no others. -/
theorem batchByName_get (toolNames : List String) (name : String) :
    (batchByName toolNames)[name]? =
      if name ∈ toolNames then some (toolNames.count name) else none := by
  have hfold : ∀ counts : Table Nat,
      (toolNames.foldl (fun batch name => batch.insert name (batch[name]?.getD 0 + 1))
        counts)[name]? =
        if name ∈ toolNames then some (nameCount counts name + toolNames.count name)
        else counts[name]? := by
    induction toolNames with
    | nil => simp
    | cons first rest ih =>
        intro counts
        rw [List.foldl_cons, ih]
        by_cases heq : first = name
        · subst heq
          have hadded : nameCount (counts.insert first (counts[first]?.getD 0 + 1)) first =
              nameCount counts first + 1 := by
            rw [nameCount_insert, if_pos rfl]
            rfl
          rw [hadded, Table.get_insert, if_pos rfl, if_pos (List.mem_cons_self ..),
            List.count_cons_self]
          by_cases hmem : first ∈ rest
          · rw [if_pos hmem]
            congr 1
            omega
          · rw [if_neg hmem, List.count_eq_zero.mpr hmem]
            rfl
        · have hne : name ≠ first := fun h => heq h.symm
          rw [nameCount_insert, if_neg heq, Table.get_insert, if_neg heq,
            List.count_cons_of_ne heq]
          simp [hne]
  rw [batchByName, hfold]
  simp [nameCount]

/-- The counts after a batch: a name in it has its calls added. -/
theorem addEntries_get (counts : Table Nat) (toolNames : List String) (name : String) :
    (addEntries counts (batchByName toolNames).toList)[name]? =
      if name ∈ toolNames then some (addCount (nameCount counts name) (toolNames.count name))
      else counts[name]? := by
  obtain ⟨hkept, hadded⟩ := get_addEntries counts (batchByName toolNames).toList
    (Table.nodup_keys _) name
  have hbatch := batchByName_get toolNames name
  by_cases hmem : name ∈ toolNames
  · rw [if_pos hmem] at hbatch ⊢
    exact hadded _ ((Table.mem_toList _ _ _).mpr hbatch)
  · rw [if_neg hmem] at hbatch ⊢
    apply hkept
    intro value hvalue
    rw [Table.mem_toList, hbatch] at hvalue
    cases hvalue

/-- A call counts nothing beyond the largest wire integer, and nothing under a blank name,
unless it is refused. -/
def Countable (call : BudgetCall × Observation) (evaluator : BudgetEvaluator) : Prop :=
  match call.1 with
  | .cycleStart =>
      (evaluator.modelCallStart call.2).1 = none → evaluator.cycles + 1 ≤ maxWireInteger
  | .preflightTools toolNames =>
      (evaluator.preflightTools toolNames call.2).1 = none →
        evaluator.toolCalls + toolNames.length ≤ maxWireInteger ∧
          ∀ name ∈ toolNames, isBlank name = false ∧
            nameCount evaluator.toolCallsByName name + toolNames.count name ≤ maxWireInteger
  | _ => True

theorem Measured.ask {evaluator : BudgetEvaluator} (h : evaluator.Measured) (call : BudgetCall)
    (observation : Observation) : (evaluator.ask call observation).2.Measured := by
  have hseen := h.observeBoundary observation
  cases call with
  | runStart => exact hseen
  | modelCallStart => exact hseen
  | terminal => exact hseen
  | cycleStart =>
      dsimp only [BudgetEvaluator.ask, cycleStart, modelCallStart]
      split
      · rename_i observed hasked
        obtain ⟨_, rfl⟩ := Prod.mk.inj hasked
        exact { hseen with }
      · exact hseen
  | modelCallComplete usage =>
      exact ((h.observeTotalTokens usage).observeUncachedTokens usage).observeBoundary observation
  | toolBatchComplete operationFailed =>
      dsimp only [BudgetEvaluator.ask, toolBatchComplete]
      split
      · exact hseen
      · exact hseen
  | preflightTools toolNames =>
      dsimp only [BudgetEvaluator.ask, preflightTools]
      split
      · exact hseen
      · exact { hseen with }

theorem addCount_le_wire (value increment : Nat) :
    addCount value increment ≤ maxWireInteger ↔ value + increment ≤ maxWireInteger := by
  have hwide : maxWireInteger < maxCount := by decide
  unfold addCount
  omega

/-- A reservation keeps the counters those of a valid snapshot exactly if it can be counted. -/
theorem Counted.reserve_iff {evaluator : BudgetEvaluator} (h : evaluator.Counted)
    (toolNames : List String) :
    (evaluator.reserve toolNames).Counted ↔
      evaluator.toolCalls + toolNames.length ≤ maxWireInteger ∧
        ∀ name ∈ toolNames, isBlank name = false ∧
          nameCount evaluator.toolCallsByName name + toolNames.count name ≤ maxWireInteger := by
  have hwide : maxWireInteger < maxCount := by decide
  have hcalls : (evaluator.reserve toolNames).toolCalls ≤ maxWireInteger ↔
      evaluator.toolCalls + toolNames.length ≤ maxWireInteger := by
    change addCount _ _ ≤ _ ↔ _
    rw [addCount_le_wire]
    omega
  have hget : ∀ name, (evaluator.reserve toolNames).toolCallsByName[name]? = _ :=
    addEntries_get evaluator.toolCallsByName toolNames
  constructor
  · intro hreserved
    refine ⟨hcalls.mp hreserved.toolCalls, fun name hmem => ?_⟩
    have hname := hget name
    rw [if_pos hmem] at hname
    obtain ⟨hblank, hcount⟩ := hreserved.named name _ hname
    exact ⟨hblank, (addCount_le_wire _ _).mp hcount⟩
  · rintro ⟨htotal, hnames⟩
    refine ⟨h.cycles, hcalls.mpr htotal, fun name count hcount => ?_⟩
    rw [hget] at hcount
    by_cases hmem : name ∈ toolNames
    · rw [if_pos hmem] at hcount
      cases hcount
      exact ⟨(hnames name hmem).1, (addCount_le_wire _ _).mpr (hnames name hmem).2⟩
    · rw [if_neg hmem] at hcount
      exact h.named name count hcount

/-- A call keeps the counters those of a valid snapshot exactly if it can be counted. -/
theorem Counted.exec_iff {evaluator : BudgetEvaluator} (h : evaluator.Counted)
    (call : BudgetCall × Observation) :
    (exec call evaluator).Counted ↔ Countable call evaluator := by
  obtain ⟨call, observation⟩ := call
  have hsame := counters_observeBoundary evaluator observation
  have hseen := h.of_counters hsame
  have hcounters := hsame
  simp only [counters, Prod.mk.injEq] at hcounters
  obtain ⟨_, hcycles, hcalls, hnames⟩ := hcounters
  cases call with
  | runStart => exact iff_of_true hseen trivial
  | modelCallStart => exact iff_of_true hseen trivial
  | terminal => exact iff_of_true hseen trivial
  | modelCallComplete usage =>
      have htokens := h.of_counters (counters_observeTokenUsage evaluator usage)
      exact iff_of_true (htokens.of_counters (counters_observeBoundary _ observation)) trivial
  | toolBatchComplete operationFailed =>
      refine iff_of_true ?_ trivial
      dsimp only [exec, BudgetEvaluator.ask, toolBatchComplete]
      split
      · exact hseen
      · exact hseen
  | cycleStart =>
      dsimp only [exec, BudgetEvaluator.ask, cycleStart, Countable]
      cases hasked : evaluator.modelCallStart observation with
      | mk found observed =>
          have hobserved : observed = evaluator.observeBoundary observation :=
            (congrArg Prod.snd hasked).symm
          subst hobserved
          cases found with
          | some exhaustion => exact iff_of_true hseen (by rintro ⟨⟩)
          | none =>
              have hadded := addCount_le_wire evaluator.cycles 1
              dsimp only
              rw [hcycles]
              constructor
              · exact fun hafter _ => hadded.mp hafter.cycles
              · exact fun hfits => ⟨hadded.mpr (hfits rfl), hseen.toolCalls, hseen.named⟩
  | preflightTools toolNames =>
      dsimp only [exec, BudgetEvaluator.ask, preflightTools, Countable]
      split
      · exact iff_of_true hseen (by rintro ⟨⟩)
      · dsimp only
        rw [hseen.reserve_iff, hcalls, hnames]
        exact ⟨fun hfits _ => hfits, fun hfits => hfits rfl⟩

/-! An evaluator whose clock started elsewhere. -/

/-- The evaluator with another start of its clock and another time used by then. -/
def restart (evaluator : BudgetEvaluator) (startedNs baseElapsedMs : Nat) : BudgetEvaluator :=
  { evaluator with startedNs, baseElapsedMs }

section Restart

variable (startedNs baseElapsedMs : Nat)

theorem restart_limits (evaluator : BudgetEvaluator) :
    (evaluator.restart startedNs baseElapsedMs).limits = evaluator.limits := rfl

theorem restart_metered (evaluator : BudgetEvaluator) :
    (evaluator.restart startedNs baseElapsedMs).metered = evaluator.metered := rfl

theorem restart_unavailable (evaluator : BudgetEvaluator) :
    (evaluator.restart startedNs baseElapsedMs).unavailable = evaluator.unavailable := rfl

theorem restart_totalTokens (evaluator : BudgetEvaluator) :
    (evaluator.restart startedNs baseElapsedMs).totalTokens = evaluator.totalTokens := rfl

theorem restart_uncachedInputTokens (evaluator : BudgetEvaluator) :
    (evaluator.restart startedNs baseElapsedMs).uncachedInputTokens =
      evaluator.uncachedInputTokens := rfl

theorem restart_latchUnavailable (evaluator : BudgetEvaluator)
    (observation : BudgetUnavailableDimension) :
    (evaluator.restart startedNs baseElapsedMs).latchUnavailable observation =
      (evaluator.latchUnavailable observation).restart startedNs baseElapsedMs := by
  unfold latchUnavailable
  rw [restart_unavailable]
  cases evaluator.unavailable observation.dimension <;> rfl

theorem restart_observeReading (evaluator : BudgetEvaluator) (limit reading : HostCost) :
    (evaluator.restart startedNs baseElapsedMs).observeReading limit reading =
      (evaluator.observeReading limit reading).restart startedNs baseElapsedMs := by
  unfold observeReading latchHostUnavailable
  change (if _ then _ else if _ then _ else if _ then _
    else if evaluator.hostCost.any _ then
      ({ evaluator with hostCost := none }.restart startedNs baseElapsedMs).latchUnavailable _
    else _) = _
  split
  · exact restart_latchUnavailable _ _ evaluator _
  split
  · exact restart_latchUnavailable _ _ evaluator _
  split
  · exact restart_latchUnavailable _ _ evaluator _
  split
  · exact restart_latchUnavailable _ _ _ _
  · rfl

theorem restart_observeHostCost (evaluator : BudgetEvaluator)
    (reading : Except String (Option HostCost)) :
    (evaluator.restart startedNs baseElapsedMs).observeHostCost reading =
      (evaluator.observeHostCost reading).restart startedNs baseElapsedMs := by
  unfold observeHostCost latchHostUnavailable
  rw [restart_limits, restart_unavailable, restart_metered]
  cases evaluator.limits.maxHostCost with
  | none => rfl
  | some limit =>
      cases evaluator.unavailable .hostCost with
      | some _ => rfl
      | none =>
          dsimp only
          split
          · exact restart_latchUnavailable _ _ evaluator _
          · split
            · exact restart_latchUnavailable _ _ evaluator _
            · exact restart_latchUnavailable _ _ evaluator _
            · exact restart_observeReading _ _ evaluator limit _

theorem restart_observeTotalTokens (evaluator : BudgetEvaluator) (usage : TokenUsage) :
    (evaluator.restart startedNs baseElapsedMs).observeTotalTokens usage =
      (evaluator.observeTotalTokens usage).restart startedNs baseElapsedMs := by
  have hdrop : ∀ observation, ({ evaluator.restart startedNs baseElapsedMs with
      totalTokens := none }).latchUnavailable observation = _ :=
    restart_latchUnavailable startedNs baseElapsedMs { evaluator with totalTokens := none }
  unfold observeTotalTokens
  dsimp only
  cases usage.totalTokens with
  | none => exact hdrop _
  | some increment =>
      dsimp only
      split
      · rw [restart_totalTokens]
        cases evaluator.totalTokens with
        | none => rfl
        | some current =>
            dsimp only
            cases safeAdd current increment with
            | none => exact hdrop _
            | some total => rfl
      · exact hdrop _

theorem restart_observeUncachedTokens (evaluator : BudgetEvaluator) (usage : TokenUsage) :
    (evaluator.restart startedNs baseElapsedMs).observeUncachedTokens usage =
      (evaluator.observeUncachedTokens usage).restart startedNs baseElapsedMs := by
  have hdrop : ∀ observation, ({ evaluator.restart startedNs baseElapsedMs with
      uncachedInputTokens := none }).latchUnavailable observation = _ :=
    restart_latchUnavailable startedNs baseElapsedMs { evaluator with uncachedInputTokens := none }
  unfold observeUncachedTokens
  dsimp only
  split
  · rw [restart_uncachedInputTokens]
    cases evaluator.uncachedInputTokens with
    | none => rfl
    | some current =>
        dsimp only
        split
        · rfl
        · exact hdrop _
  · exact hdrop _

end Restart

/-- Two clocks show an evaluator and its restarted twin the same time. -/
def SameTime (evaluator : BudgetEvaluator) (startedNs baseElapsedMs nowNs nowNs' : Nat) : Prop :=
  evaluator.unavailable .wallTime = none →
    let elapsedMs := evaluator.baseElapsedMs + (nowNs - evaluator.startedNs) / 1000000
    let elapsedMs' := baseElapsedMs + (nowNs' - startedNs) / 1000000
    (maxWireInteger < elapsedMs' ↔ maxWireInteger < elapsedMs) ∧
      max evaluator.elapsedMs elapsedMs' = max evaluator.elapsedMs elapsedMs

theorem restart_observeElapsed {evaluator : BudgetEvaluator}
    {startedNs baseElapsedMs nowNs nowNs' : Nat}
    (hsame : evaluator.SameTime startedNs baseElapsedMs nowNs nowNs') :
    (evaluator.restart startedNs baseElapsedMs).observeElapsed nowNs' =
      (evaluator.observeElapsed nowNs).restart startedNs baseElapsedMs := by
  unfold observeElapsed
  rw [restart_unavailable]
  cases hlatched : evaluator.unavailable .wallTime with
  | some _ => rfl
  | none =>
      obtain ⟨hbeyond, hmax⟩ := hsame hlatched
      change (if maxWireInteger < baseElapsedMs + (nowNs' - startedNs) / 1000000 then _
        else { evaluator.restart startedNs baseElapsedMs with
          elapsedMs := max evaluator.elapsedMs
            (baseElapsedMs + (nowNs' - startedNs) / 1000000) }) = _
      rw [hmax]
      dsimp only
      by_cases hover : maxWireInteger <
          evaluator.baseElapsedMs + (nowNs - evaluator.startedNs) / 1000000
      · rw [if_pos hover, if_pos (hbeyond.mpr hover)]
        exact restart_latchUnavailable _ _ evaluator _
      · rw [if_neg hover, if_neg fun h => hover (hbeyond.mp h)]
        rfl

/-- What an evaluator knows of the time. -/
def time (evaluator : BudgetEvaluator) :
    Nat × Nat × Nat × Option BudgetUnavailableDimension :=
  (evaluator.elapsedMs, evaluator.startedNs, evaluator.baseElapsedMs,
    evaluator.unavailable .wallTime)

/-- The tokens of a call do not touch the time. -/
theorem observeTokenUsage_time (evaluator : BudgetEvaluator) (usage : TokenUsage) :
    (evaluator.observeTokenUsage usage).time = evaluator.time := by
  have hlatch : ∀ (before : BudgetEvaluator) (observation : BudgetUnavailableDimension),
      observation.dimension ≠ .wallTime →
        (before.latchUnavailable observation).time = before.time := by
    intro before observation hother
    unfold latchUnavailable time
    cases before.unavailable observation.dimension with
    | some _ => rfl
    | none =>
        dsimp only
        rw [Function.update_of_ne hother.symm]
  have htotal : (evaluator.observeTotalTokens usage).time = evaluator.time := by
    unfold observeTotalTokens
    dsimp only
    repeat' split
    all_goals first | exact hlatch _ _ (by rintro ⟨⟩) | rfl
  have huncached : ∀ before : BudgetEvaluator,
      (before.observeUncachedTokens usage).time = before.time := by
    intro before
    unfold observeUncachedTokens
    dsimp only
    repeat' split
    all_goals first | exact hlatch _ _ (by rintro ⟨⟩) | rfl
  exact (huncached _).trans htotal

/-- An evaluator and its restarted twin answer alike. -/
theorem restart_ask {evaluator : BudgetEvaluator} {startedNs baseElapsedMs : Nat}
    {observation observation' : Observation}
    (hreading : observation'.reading = observation.reading)
    (hsame : evaluator.SameTime startedNs baseElapsedMs observation.nowNs observation'.nowNs)
    (call : BudgetCall) :
    (evaluator.restart startedNs baseElapsedMs).ask call observation' =
      ((evaluator.ask call observation).1,
        (evaluator.ask call observation).2.restart startedNs baseElapsedMs) := by
  have hboundary : ∀ {before : BudgetEvaluator},
      before.SameTime startedNs baseElapsedMs observation.nowNs observation'.nowNs →
        (before.restart startedNs baseElapsedMs).observeBoundary observation' =
          (before.observeBoundary observation).restart startedNs baseElapsedMs := by
    intro before hbefore
    unfold observeBoundary
    rw [restart_observeElapsed hbefore, hreading, restart_observeHostCost]
  have hseen := hboundary hsame
  cases call with
  | runStart =>
      dsimp only [ask, runStart]
      rw [hseen]
      rfl
  | modelCallStart =>
      dsimp only [ask, modelCallStart]
      rw [hseen]
      rfl
  | terminal =>
      dsimp only [ask, terminal]
      rw [hseen]
      rfl
  | cycleStart =>
      dsimp only [ask, cycleStart, modelCallStart]
      rw [hseen]
      have hanswer : ∀ seen : BudgetEvaluator,
          ((seen.restart startedNs baseElapsedMs).strictUnavailable .cycleStart <|>
            (seen.restart startedNs baseElapsedMs).checkAdmissionLimits .cycleStart modelCall) =
          (seen.strictUnavailable .cycleStart <|>
            seen.checkAdmissionLimits .cycleStart modelCall) := fun _ => rfl
      rw [hanswer]
      cases (evaluator.observeBoundary observation).strictUnavailable .cycleStart <|>
        (evaluator.observeBoundary observation).checkAdmissionLimits .cycleStart modelCall <;> rfl
  | modelCallComplete usage =>
      have hlater : (evaluator.observeTokenUsage usage).SameTime startedNs baseElapsedMs
          observation.nowNs observation'.nowNs := by
        have htime := observeTokenUsage_time evaluator usage
        simp only [time, Prod.mk.injEq] at htime
        unfold SameTime
        rw [htime.1, htime.2.1, htime.2.2.1, htime.2.2.2]
        exact hsame
      have htokens : (evaluator.restart startedNs baseElapsedMs).observeTokenUsage usage =
          (evaluator.observeTokenUsage usage).restart startedNs baseElapsedMs := by
        unfold observeTokenUsage
        rw [restart_observeTotalTokens, restart_observeUncachedTokens]
      dsimp only [ask, modelCallComplete]
      rw [htokens, hboundary hlater]
      rfl
  | toolBatchComplete operationFailed =>
      dsimp only [ask, toolBatchComplete]
      rw [hseen]
      cases operationFailed <;> rfl
  | preflightTools toolNames =>
      dsimp only [ask, preflightTools]
      rw [hseen]
      have hanswer : ∀ seen : BudgetEvaluator,
          ((seen.restart startedNs baseElapsedMs).strictUnavailable .toolBatchPreflight <|>
            (seen.restart startedNs baseElapsedMs).checkAdmissionLimits .toolBatchPreflight
              ambient <|>
            (seen.restart startedNs baseElapsedMs).batchExhaustion toolNames) =
          (seen.strictUnavailable .toolBatchPreflight <|>
            seen.checkAdmissionLimits .toolBatchPreflight ambient <|>
            seen.batchExhaustion toolNames) := fun _ => rfl
      rw [hanswer]
      cases (evaluator.observeBoundary observation).strictUnavailable .toolBatchPreflight <|>
        (evaluator.observeBoundary observation).checkAdmissionLimits .toolBatchPreflight ambient <|>
        (evaluator.observeBoundary observation).batchExhaustion toolNames <;> rfl

/-- A boundary leaves the start of the clock alone. -/
theorem ask_origin (evaluator : BudgetEvaluator) (call : BudgetCall) (observation : Observation) :
    (evaluator.ask call observation).2.startedNs = evaluator.startedNs ∧
      (evaluator.ask call observation).2.baseElapsedMs = evaluator.baseElapsedMs := by
  have hsame : evaluator.SameTime evaluator.startedNs evaluator.baseElapsedMs observation.nowNs
      observation.nowNs := fun _ => ⟨Iff.rfl, rfl⟩
  have hself := restart_ask rfl hsame call
  change evaluator.ask call observation = _ at hself
  rw [hself]
  exact ⟨rfl, rfl⟩

/-! Taking up a budget from its snapshot. -/

/-- The unavailable dimensions of a snapshot stand in the order of precedence. -/
theorem unavailable_dimensions {evaluator : BudgetEvaluator} (h : evaluator.Measured)
    (dimensions : List BudgetDimension) :
    (dimensions.filterMap evaluator.unavailable).map (·.dimension) =
      dimensions.filter fun dimension => (evaluator.unavailable dimension).isSome := by
  induction dimensions with
  | nil => rfl
  | cons dimension rest ih =>
      cases hfound : evaluator.unavailable dimension with
      | none => simpa [hfound] using ih
      | some observation => simpa [hfound, (h.unavailable _ _ hfound).1] using ih

/-- The unavailable dimensions of a snapshot are those of the evaluator. -/
theorem find_unavailable {evaluator : BudgetEvaluator} (h : evaluator.Measured)
    (dimensions : List BudgetDimension) (dimension : BudgetDimension) :
    (dimensions.filterMap evaluator.unavailable).find? (·.dimension == dimension) =
      if dimension ∈ dimensions then evaluator.unavailable dimension else none := by
  induction dimensions with
  | nil => rfl
  | cons first rest ih =>
      by_cases heq : first = dimension
      · subst heq
        cases hfound : evaluator.unavailable first with
        | none => simpa [hfound] using ih
        | some observation => simp [hfound, (h.unavailable _ _ hfound).1]
      · have hne : dimension ≠ first := fun h => heq h.symm
        cases hfound : evaluator.unavailable first with
        | none => simpa [hfound, hne] using ih
        | some observation => simpa [hfound, hne, heq, (h.unavailable _ _ hfound).1] using ih

theorem snapshot_valid {evaluator : BudgetEvaluator} (h : evaluator.Measured) :
    evaluator.snapshot.Valid ↔ evaluator.Counted := by
  constructor
  · intro hvalid
    exact ⟨hvalid.cycles, hvalid.toolCalls, hvalid.named⟩
  · intro hcounted
    refine ⟨hcounted.cycles, h.totalTokens, h.uncachedInputTokens, hcounted.toolCalls,
      h.elapsedMs, hcounted.named, h.hostCost, ?_, ?_⟩
    · change ((dimensionPrecedence.filterMap evaluator.unavailable).map (·.dimension)).Nodup
      rw [unavailable_dimensions h]
      exact List.Nodup.filter _ (by decide)
    · intro observation hmem
      obtain ⟨dimension, _, hfound⟩ := List.mem_filterMap.mp hmem
      exact (h.unavailable dimension observation hfound).2

theorem snapshot_ordered {evaluator : BudgetEvaluator} (h : evaluator.Measured) :
    evaluator.snapshot.unavailableDimensions.Pairwise fun left right =>
      left.dimension.rank ≤ right.dimension.rank := by
  have hordered : dimensionPrecedence.Pairwise fun left right => left.rank ≤ right.rank := by
    decide
  have hdimensions := hordered.filter fun dimension => (evaluator.unavailable dimension).isSome
  rw [← unavailable_dimensions h, List.pairwise_map] at hdimensions
  exact hdimensions

/-- The evaluator that is built from a snapshot is the restarted one. -/
theorem start_snapshot {evaluator : BudgetEvaluator} (h : evaluator.Measured) (nowNs : Nat) :
    start evaluator.limits evaluator.metered evaluator.snapshot nowNs =
      evaluator.restart nowNs evaluator.elapsedMs := by
  have hunavailable : (fun dimension => (dimensionPrecedence.filterMap
      evaluator.unavailable).find? (·.dimension == dimension)) = evaluator.unavailable := by
    funext dimension
    rw [find_unavailable h, if_pos (by cases dimension <;> decide)]
  unfold start restart
  congr 1

/-- What a caller sees of a sequence of calls: every exhaustion, and the snapshot after it. -/
def answers : List (BudgetCall × Observation) → BudgetEvaluator →
    List (Option BudgetExhaustion × BudgetUsageSnapshot)
  | [], _ => []
  | call :: rest, evaluator =>
      ((evaluator.ask call.1 call.2).1, (exec call evaluator).snapshot) ::
        answers rest (exec call evaluator)

/-- The same call at the same time, by two clocks that stood at `sinceNs` and `sinceNs'`. -/
def Continues (sinceNs sinceNs' : Nat) (call call' : BudgetCall × Observation) : Prop :=
  call'.1 = call.1 ∧ call'.2.reading = call.2.reading ∧
    call'.2.nowNs - sinceNs' = call.2.nowNs - sinceNs

/-- The reading of the clock at the whole millisecond of the elapsed time. -/
def elapsedNs (evaluator : BudgetEvaluator) : Nat :=
  evaluator.startedNs + (evaluator.elapsedMs - evaluator.baseElapsedMs) * 1000000

/-- The snapshot is valid and is read as it was written, and an evaluator that is built from
it answers every further sequence of calls as this one does. -/
def Resumable (evaluator : BudgetEvaluator) : Prop :=
  evaluator.snapshot.validate = .ok () ∧
    BudgetUsageSnapshot.fromValue evaluator.snapshot.toValue = some evaluator.snapshot ∧
    ∀ sinceNs sinceNs' : Nat,
      (evaluator.unavailable .wallTime = none → sinceNs = evaluator.elapsedNs) →
      ∃ rebuilt,
        withClock evaluator.limits evaluator.metered (some evaluator.snapshot) sinceNs' =
          .ok rebuilt ∧
        ∀ calls calls', List.Forall₂ (Continues sinceNs sinceNs') calls calls' →
          answers calls' rebuilt = answers calls evaluator

/-- A state that the evaluator has come to from `origin`. -/
structure Follows (origin evaluator : BudgetEvaluator) : Prop where
  inRange : evaluator.InRange
  startedNs : evaluator.startedNs = origin.startedNs
  baseElapsedMs : evaluator.baseElapsedMs = origin.baseElapsedMs
  elapsedMs : origin.elapsedMs ≤ evaluator.elapsedMs
  wallTime : evaluator.unavailable .wallTime = none → origin.unavailable .wallTime = none

theorem Follows.exec {origin evaluator : BudgetEvaluator} (h : Follows origin evaluator)
    (call : BudgetCall × Observation) : Follows origin (exec call evaluator) := by
  obtain ⟨hrange, hgrown⟩ := exec_grows call h.inRange
  obtain ⟨hstarted, hbase⟩ := ask_origin evaluator call.1 call.2
  refine ⟨hrange, hstarted.trans h.startedNs, hbase.trans h.baseElapsedMs,
    h.elapsedMs.trans hgrown.elapsedMs, fun hfree => h.wallTime ?_⟩
  cases hlatched : evaluator.unavailable .wallTime with
  | none => rfl
  | some observation =>
      rw [hgrown.unavailable _ _ hlatched] at hfree
      cases hfree

/-- Clocks that move on alike from a whole millisecond show the same time. -/
theorem Follows.sameTime {origin evaluator : BudgetEvaluator} (h : Follows origin evaluator)
    (hmeasured : origin.Measured) {sinceNs sinceNs' nowNs nowNs' : Nat}
    (hsince : origin.unavailable .wallTime = none → sinceNs = origin.elapsedNs)
    (hclocks : nowNs' - sinceNs' = nowNs - sinceNs) :
    evaluator.SameTime sinceNs' origin.elapsedMs nowNs nowNs' := by
  intro hfree
  have hwhole := hsince (h.wallTime hfree)
  have hbase := hmeasured.base
  have hlast := h.elapsedMs
  have hsmall := hmeasured.elapsedMs
  dsimp only
  rw [h.startedNs, h.baseElapsedMs, hclocks, hwhole]
  unfold elapsedNs
  by_cases hlater : origin.startedNs +
      (origin.elapsedMs - origin.baseElapsedMs) * 1000000 ≤ nowNs
  · have hequal : origin.baseElapsedMs + (nowNs - origin.startedNs) / 1000000 =
        origin.elapsedMs + (nowNs - (origin.startedNs +
          (origin.elapsedMs - origin.baseElapsedMs) * 1000000)) / 1000000 := by
      omega
    rw [hequal]
    exact ⟨Iff.rfl, rfl⟩
  · have hearly : origin.baseElapsedMs + (nowNs - origin.startedNs) / 1000000 ≤
        origin.elapsedMs := by
      omega
    have hzero : nowNs - (origin.startedNs +
        (origin.elapsedMs - origin.baseElapsedMs) * 1000000) = 0 := by
      omega
    rw [hzero]
    constructor
    · omega
    · omega

theorem answers_restart {origin : BudgetEvaluator} (hmeasured : origin.Measured)
    {sinceNs sinceNs' : Nat}
    (hsince : origin.unavailable .wallTime = none → sinceNs = origin.elapsedNs)
    {calls calls' : List (BudgetCall × Observation)}
    (hcalls : List.Forall₂ (Continues sinceNs sinceNs') calls calls') :
    ∀ evaluator, Follows origin evaluator →
      answers calls' (evaluator.restart sinceNs' origin.elapsedMs) = answers calls evaluator := by
  induction hcalls with
  | nil => exact fun _ _ => rfl
  | cons hcall _ ih =>
      rename_i call call' rest rest' _
      intro evaluator hfollows
      obtain ⟨hsame, hreading, hclocks⟩ := hcall
      have hasked := restart_ask hreading (hfollows.sameTime hmeasured hsince hclocks) call.1
      have hlater := ih (BudgetEvaluator.exec call evaluator) (hfollows.exec call)
      have hexec : BudgetEvaluator.exec call' (evaluator.restart sinceNs' origin.elapsedMs) =
          (BudgetEvaluator.exec call evaluator).restart sinceNs' origin.elapsedMs := by
        unfold BudgetEvaluator.exec
        rw [hsame, hasked]
      dsimp only [answers]
      rw [hexec, hlater, hsame, hasked]
      rfl

theorem Counted.inRange {evaluator : BudgetEvaluator} (h : evaluator.Counted) :
    evaluator.InRange := by
  have hwide : maxWireInteger ≤ maxCount := by decide
  refine ⟨h.cycles.trans hwide, h.toolCalls.trans hwide, fun name => ?_⟩
  unfold nameCount
  cases hcount : evaluator.toolCallsByName[name]? with
  | none => exact Nat.zero_le _
  | some count => exact (h.named name count hcount).2.trans hwide

/-- A budget can be taken up from its snapshot exactly if its counters are those of a valid
snapshot. -/
theorem resumable_iff {evaluator : BudgetEvaluator} (h : evaluator.Measured) :
    evaluator.Resumable ↔ evaluator.Counted := by
  constructor
  · rintro ⟨hvalid, _⟩
    exact (snapshot_valid h).mp ((BudgetUsageSnapshot.validate_eq_ok _).mp hvalid)
  · intro hcounted
    have hvalid := (snapshot_valid h).mpr hcounted
    refine ⟨(BudgetUsageSnapshot.validate_eq_ok _).mpr hvalid,
      BudgetUsageSnapshot.fromValue_toValue hvalid (snapshot_ordered h), ?_⟩
    intro sinceNs sinceNs' hsince
    refine ⟨evaluator.restart sinceNs' evaluator.elapsedMs, ?_, ?_⟩
    · rw [withClock_eq_ok]
      exact ⟨h.limits, h.limited, hvalid, start_snapshot h sinceNs'⟩
    · intro calls calls' hcalls
      exact answers_restart h hsince hcalls evaluator
        ⟨hcounted.inRange, rfl, rfl, le_rfl, fun hfree => hfree⟩

theorem start_measured {limits : RunBudgetLimits} {usage : BudgetUsageSnapshot}
    (hlimits : limits.validate = .ok ()) (hlimited : limits.hasLimits = true)
    (hvalid : usage.Valid) (metered : Bool) (nowNs : Nat) :
    (start limits metered usage nowNs).Measured := by
  refine ⟨hlimits, hlimited, hvalid.totalTokens, hvalid.uncachedInputTokens, hvalid.elapsedMs,
    le_rfl, hvalid.hostCost, ?_⟩
  intro dimension observation hfound
  have hmem := List.mem_of_find?_eq_some hfound
  exact ⟨by simpa using List.find?_some hfound, hvalid.unavailable observation hmem⟩

end BudgetEvaluator

open BudgetEvaluator in
/-- A budget can be taken up from the snapshot of every state of a run exactly if no admitted
call of the run counts beyond the largest wire integer or under a blank name. -/
theorem budget_resumable (limits : RunBudgetLimits) (metered : Bool)
    (initialUsage : Option BudgetUsageSnapshot) (nowNs : Nat) (evaluator : BudgetEvaluator)
    (hstart : withClock limits metered initialUsage nowNs = .ok evaluator)
    (calls : List (BudgetCall × Observation)) :
    (∀ first rest, calls = first ++ rest → (run exec first evaluator).Resumable) ↔
      Along exec Countable calls evaluator := by
  obtain ⟨hlimits, hlimited, hvalid, rfl⟩ := (withClock_eq_ok _ _ _ _ _).mp hstart
  have hmeasured := start_measured hlimits hlimited hvalid metered nowNs
  have hcounted : (start limits metered (initialUsage.getD {}) nowNs).Counted :=
    ⟨hvalid.cycles, hvalid.toolCalls, hvalid.named⟩
  generalize start limits metered (initialUsage.getD {}) nowNs = evaluator at hmeasured hcounted
  clear hstart
  induction calls generalizing evaluator with
  | nil =>
      refine iff_of_true ?_ trivial
      intro first rest hsplit
      obtain ⟨rfl, _⟩ := List.append_eq_nil_iff.mp hsplit.symm
      exact (resumable_iff hmeasured).mpr hcounted
  | cons call calls ih =>
      have hnext := hmeasured.ask call.1 call.2
      constructor
      · intro hall
        have hafter : (exec call evaluator).Counted :=
          (resumable_iff hnext).mp (hall [call] calls rfl)
        refine ⟨(hcounted.exec_iff call).mp hafter, (ih _ hnext hafter).mp ?_⟩
        intro first rest hsplit
        exact hall (call :: first) rest (by rw [hsplit]; rfl)
      · rintro ⟨hcountable, halong⟩
        have hafter := (hcounted.exec_iff call).mpr hcountable
        intro first rest hsplit
        cases first with
        | nil => exact (resumable_iff hmeasured).mpr hcounted
        | cons head first =>
            obtain ⟨rfl, hrest⟩ := List.cons.inj hsplit
            exact (ih _ hnext hafter).mpr halong first rest hrest

/-- A batch of one call with an empty name. -/
theorem blank_name_unresumable :
    BudgetEvaluator.withClock Sample.tokenLimits false none 0 = .ok Sample.tokenEvaluator ∧
      ¬ (run BudgetEvaluator.exec [(.preflightTools [""], Sample.still)]
        Sample.tokenEvaluator).Resumable := by
  refine ⟨Sample.tokenEvaluator_starts, ?_⟩
  rintro ⟨hvalid, _⟩
  revert hvalid
  decide +kernel

/-- A batch of two calls. -/
theorem budget_resumable_batch :
    (run BudgetEvaluator.exec [(.preflightTools ["search", "read"], Sample.still)]
      Sample.tokenEvaluator).Resumable := by
  have hcountable : Along BudgetEvaluator.exec BudgetEvaluator.Countable
      [(.preflightTools ["search", "read"], Sample.still)] Sample.tokenEvaluator :=
    ⟨fun _ => by decide +kernel, trivial⟩
  exact (budget_resumable Sample.tokenLimits false none 0 Sample.tokenEvaluator
    Sample.tokenEvaluator_starts _).mpr hcountable _ [] (List.append_nil _).symm

end VvAgent
