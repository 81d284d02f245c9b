import Mathlib.Algebra.GroupWithZero.Nat
import VvAgent.Budget.Evaluator
import VvAgent.Lib.Run

/-!
The laws of budget accounting. A boundary may observe more time, more cost and more tokens,
may find that a dimension cannot be measured, and may admit a cycle or a batch; `Grows` is
what every one of them keeps. It is reflexive and transitive, so it relates the ends of
every sequence of boundaries.
-/

namespace VvAgent
open Lib Lib.Outcome

namespace BudgetEvaluator

/-- The calls counted under all names. -/
def namedTotal (counts : Table Nat) : Nat := (counts.toList.map Prod.snd).sum

/-- No counter of tool calls has reached the largest `u64`. -/
def Unsaturated (evaluator : BudgetEvaluator) : Prop :=
  evaluator.toolCalls < maxCount ∧
    ∀ name, nameCount evaluator.toolCallsByName name < maxCount

/-- What a boundary keeps. -/
structure Grows (before after : BudgetEvaluator) : Prop where
  limits : after.limits = before.limits
  elapsedMs : before.elapsedMs ≤ after.elapsedMs
  cycles : before.cycles ≤ after.cycles
  totalTokens : ∀ total, after.totalTokens = some total →
    ∃ earlier, before.totalTokens = some earlier ∧ earlier ≤ total
  unavailable : ∀ dimension observation, before.unavailable dimension = some observation →
    after.unavailable dimension = some observation
  toolCalls : before.toolCalls ≤ after.toolCalls
  named : ∀ name, nameCount before.toolCallsByName name ≤ nameCount after.toolCallsByName name
  toolLimit : ∀ limit, before.limits.maxToolCalls = some limit →
    after.toolCalls ≤ max before.toolCalls limit
  namedLimit : ∀ name limit, before.limits.maxToolCallsByName[name]? = some limit →
    nameCount after.toolCallsByName name ≤ max (nameCount before.toolCallsByName name) limit
  balance : after.Unsaturated →
    after.toolCalls + namedTotal before.toolCallsByName =
      before.toolCalls + namedTotal after.toolCallsByName

theorem Grows.refl (evaluator : BudgetEvaluator) : Grows evaluator evaluator where
  limits := rfl
  elapsedMs := le_rfl
  cycles := le_rfl
  totalTokens total h := ⟨total, h, le_rfl⟩
  unavailable _ _ h := h
  toolCalls := le_rfl
  named _ := le_rfl
  toolLimit _ _ := le_max_left _ _
  namedLimit _ _ _ := le_max_left _ _
  balance _ := rfl

theorem Grows.trans {first second third : BudgetEvaluator} (h : Grows first second)
    (h' : Grows second third) : Grows first third where
  limits := h'.limits.trans h.limits
  elapsedMs := h.elapsedMs.trans h'.elapsedMs
  cycles := h.cycles.trans h'.cycles
  totalTokens := by
    intro total htotal
    obtain ⟨middle, hmiddle, hle⟩ := h'.totalTokens total htotal
    obtain ⟨earlier, hearlier, hle'⟩ := h.totalTokens middle hmiddle
    exact ⟨earlier, hearlier, hle'.trans hle⟩
  unavailable dimension observation hfirst :=
    h'.unavailable dimension observation (h.unavailable dimension observation hfirst)
  toolCalls := h.toolCalls.trans h'.toolCalls
  named name := (h.named name).trans (h'.named name)
  toolLimit := by
    intro limit hlimit
    have hfirst := h.toolLimit limit hlimit
    have hsecond := h'.toolLimit limit (by rw [h.limits]; exact hlimit)
    omega
  namedLimit := by
    intro name limit hlimit
    have hfirst := h.namedLimit name limit hlimit
    have hsecond := h'.namedLimit name limit (by rw [h.limits]; exact hlimit)
    omega
  balance := by
    intro hthird
    have hsecond : second.Unsaturated :=
      ⟨lt_of_le_of_lt h'.toolCalls hthird.1, fun name =>
        lt_of_le_of_lt (h'.named name) (hthird.2 name)⟩
    have hfirst := h.balance hsecond
    have hlast := h'.balance hthird
    omega

/-! Observations do not touch the counters. -/

theorem Grows.latchUnavailable (evaluator : BudgetEvaluator)
    (observation : BudgetUnavailableDimension) :
    Grows evaluator (evaluator.latchUnavailable observation) := by
  unfold BudgetEvaluator.latchUnavailable
  cases hlatched : evaluator.unavailable observation.dimension with
  | some earlier => exact .refl evaluator
  | none =>
      refine { Grows.refl evaluator with unavailable := ?_ }
      intro dimension earlier hearlier
      by_cases heq : dimension = observation.dimension
      · subst heq
        rw [hlatched] at hearlier
        cases hearlier
      · exact (Function.update_of_ne heq _ _).trans hearlier

theorem Grows.observeElapsed (evaluator : BudgetEvaluator) (nowNs : Nat) :
    Grows evaluator (evaluator.observeElapsed nowNs) := by
  unfold BudgetEvaluator.observeElapsed
  cases evaluator.unavailable .wallTime with
  | some _ => exact .refl evaluator
  | none =>
      dsimp only
      split
      · exact .latchUnavailable evaluator _
      · exact { Grows.refl evaluator with elapsedMs := le_max_left _ _ }

theorem Grows.observeReading (evaluator : BudgetEvaluator) (limit reading : HostCost) :
    Grows evaluator (evaluator.observeReading limit reading) := by
  unfold BudgetEvaluator.observeReading
  split
  · exact .latchUnavailable evaluator _
  split
  · exact .latchUnavailable evaluator _
  split
  · exact .latchUnavailable evaluator _
  split
  · have hcleared : Grows evaluator { evaluator with hostCost := none } :=
      { Grows.refl evaluator with }
    exact hcleared.trans (.latchUnavailable _ _)
  · exact { Grows.refl evaluator with }

theorem Grows.observeHostCost (evaluator : BudgetEvaluator)
    (reading : Except String (Option HostCost)) :
    Grows evaluator (evaluator.observeHostCost reading) := by
  unfold BudgetEvaluator.observeHostCost
  cases evaluator.limits.maxHostCost with
  | none => exact .refl evaluator
  | some limit =>
      cases evaluator.unavailable .hostCost with
      | some _ => exact .refl evaluator
      | none =>
          dsimp only
          split
          · exact .latchUnavailable evaluator _
          · split
            · exact .latchUnavailable evaluator _
            · exact .latchUnavailable evaluator _
            · exact .observeReading evaluator limit _

theorem Grows.observeBoundary (evaluator : BudgetEvaluator) (observation : Observation) :
    Grows evaluator (evaluator.observeBoundary observation) :=
  (Grows.observeElapsed evaluator _).trans (.observeHostCost _ _)

/-- A token counter that is given up. -/
theorem Grows.dropTotal (evaluator : BudgetEvaluator) (observation : BudgetUnavailableDimension) :
    Grows evaluator
      ({ evaluator with totalTokens := none }.latchUnavailable observation) := by
  have hdropped : Grows evaluator { evaluator with totalTokens := none } :=
    { Grows.refl evaluator with totalTokens := nofun }
  exact hdropped.trans (.latchUnavailable _ _)

theorem safeAdd_ge {current increment total : Nat} (h : safeAdd current increment = some total) :
    current ≤ total := by
  simp only [safeAdd, checkedAdd, Option.filter_eq_some_iff] at h
  obtain ⟨hsum, _⟩ := h
  split at hsum
  · cases hsum
    omega
  · cases hsum

theorem Grows.observeTotalTokens (evaluator : BudgetEvaluator) (usage : TokenUsage) :
    Grows evaluator (evaluator.observeTotalTokens usage) := by
  unfold BudgetEvaluator.observeTotalTokens
  dsimp only
  cases usage.totalTokens with
  | none => exact .dropTotal evaluator _
  | some increment =>
      dsimp only
      split
      · cases hcurrent : evaluator.totalTokens with
        | none => exact .refl evaluator
        | some current =>
            dsimp only
            cases hsum : safeAdd current increment with
            | none => exact .dropTotal evaluator _
            | some total =>
                refine { Grows.refl evaluator with totalTokens := ?_ }
                intro later hlater
                cases hlater
                exact ⟨current, hcurrent, safeAdd_ge hsum⟩
      · exact .dropTotal evaluator _

theorem Grows.observeUncachedTokens (evaluator : BudgetEvaluator) (usage : TokenUsage) :
    Grows evaluator (evaluator.observeUncachedTokens usage) := by
  have hdrop : ∀ observation, Grows evaluator
      ({ evaluator with uncachedInputTokens := none }.latchUnavailable observation) := by
    intro observation
    have hdropped : Grows evaluator { evaluator with uncachedInputTokens := none } :=
      { Grows.refl evaluator with }
    exact hdropped.trans (.latchUnavailable _ _)
  unfold BudgetEvaluator.observeUncachedTokens
  dsimp only
  split
  · cases evaluator.uncachedInputTokens with
    | none => exact .refl evaluator
    | some current =>
        dsimp only
        split
        · exact { Grows.refl evaluator with }
        · exact hdrop _
  · exact hdrop _

/-! Counting under names. -/

theorem nameCount_insert (counts : Table Nat) (key name : String) (value : Nat) :
    nameCount (counts.insert key value) name =
      if key = name then value else nameCount counts name := by
  unfold nameCount
  rw [Table.get_insert]
  split <;> rfl

theorem namedTotal_insert (counts : Table Nat) (key : String) (value : Nat) :
    namedTotal (counts.insert key value) + nameCount counts key = namedTotal counts + value := by
  have hafter := ((Table.toList_insert_perm counts key value).map Prod.snd).sum_nat
  have hbefore := ((Table.toList_split_perm counts key).map Prod.snd).sum_nat
  rw [List.map_cons, List.sum_cons] at hafter
  rw [List.map_append, List.sum_append] at hbefore
  have hold : (((counts[key]?.map fun row => (key, row)).toList).map Prod.snd).sum =
      nameCount counts key := by
    unfold nameCount
    cases counts[key]? <;> simp
  unfold namedTotal
  omega

/-- The counts after the entries of a batch have been added. -/
def addEntries (counts : Table Nat) (entries : List (String × Nat)) : Table Nat :=
  entries.foldl
    (fun counts entry => counts.insert entry.1 (addCount (nameCount counts entry.1) entry.2)) counts

/-- Every count is a `u64`. -/
def CountsInRange (counts : Table Nat) : Prop := ∀ name, nameCount counts name ≤ maxCount

theorem addCount_le (value increment : Nat) : addCount value increment ≤ maxCount :=
  min_le_right _ _

theorem addCount_ge {value : Nat} (hvalue : value ≤ maxCount) (increment : Nat) :
    value ≤ addCount value increment := by
  unfold addCount
  omega

/-- Adding one entry of a batch. -/
theorem addEntry_spec {counts : Table Nat} (hrange : CountsInRange counts) (name : String)
    (increment : Nat) :
    let after := counts.insert name (addCount (nameCount counts name) increment)
    CountsInRange after ∧ ∀ other, nameCount counts other ≤ nameCount after other := by
  constructor
  · intro other
    rw [nameCount_insert]
    split
    · exact addCount_le _ _
    · exact hrange other
  · intro other
    rw [nameCount_insert]
    split
    · rename_i heq
      subst heq
      exact addCount_ge (hrange name) increment
    · exact le_rfl

theorem addEntries_grows {counts : Table Nat} (hrange : CountsInRange counts)
    (entries : List (String × Nat)) :
    CountsInRange (addEntries counts entries) ∧
      ∀ name, nameCount counts name ≤ nameCount (addEntries counts entries) name := by
  induction entries generalizing counts with
  | nil => exact ⟨hrange, fun _ => le_rfl⟩
  | cons entry rest ih =>
      obtain ⟨hfirst, hle⟩ := addEntry_spec hrange entry.1 entry.2
      obtain ⟨hlast, hle'⟩ := ih hfirst
      exact ⟨hlast, fun name => (hle name).trans (hle' name)⟩

/-- As long as no count saturates, the total grows by the entries of the batch. -/
theorem namedTotal_addEntries {counts : Table Nat} (hrange : CountsInRange counts)
    (entries : List (String × Nat))
    (hfree : ∀ name, nameCount (addEntries counts entries) name < maxCount) :
    namedTotal (addEntries counts entries) = namedTotal counts + (entries.map Prod.snd).sum := by
  induction entries generalizing counts with
  | nil => simp [addEntries]
  | cons entry rest ih =>
      obtain ⟨hfirst, _⟩ := addEntry_spec hrange entry.1 entry.2
      have hrest := ih hfirst hfree
      have hgrown := (addEntries_grows hfirst rest).2 entry.1
      rw [nameCount_insert, if_pos rfl] at hgrown
      have hexact : addCount (nameCount counts entry.1) entry.2 =
          nameCount counts entry.1 + entry.2 := by
        have hlast := hfree entry.1
        change nameCount (addEntries _ rest) entry.1 < maxCount at hlast
        have hsmall := lt_of_le_of_lt hgrown hlast
        unfold addCount at hsmall ⊢
        omega
      have htotal := namedTotal_insert counts entry.1 (addCount (nameCount counts entry.1) entry.2)
      change namedTotal (addEntries _ rest) = _
      rw [hrest, List.map_cons, List.sum_cons]
      omega

/-- A name that is not in the batch keeps its count; a name in it gets one addition. -/
theorem get_addEntries (counts : Table Nat) (entries : List (String × Nat))
    (hnodup : (entries.map Prod.fst).Nodup) (name : String) :
    ((∀ value, (name, value) ∉ entries) → (addEntries counts entries)[name]? = counts[name]?) ∧
    ∀ value, (name, value) ∈ entries →
      (addEntries counts entries)[name]? = some (addCount (nameCount counts name) value) := by
  induction entries generalizing counts with
  | nil => exact ⟨fun _ => rfl, nofun⟩
  | cons entry rest ih =>
      rw [List.map_cons, List.nodup_cons] at hnodup
      obtain ⟨hkept, hadded⟩ := ih
        (counts.insert entry.1 (addCount (nameCount counts entry.1) entry.2)) hnodup.2
      rw [Table.get_insert] at hkept
      rw [nameCount_insert] at hadded
      constructor
      · intro habsent
        have hne : entry.1 ≠ name := by
          rintro rfl
          exact habsent entry.2 (List.mem_cons_self ..)
        have hrest : ∀ value, (name, value) ∉ rest :=
          fun value hmem => habsent value (List.mem_cons_of_mem _ hmem)
        rw [if_neg hne] at hkept
        exact hkept hrest
      · intro value hmem
        rcases List.mem_cons.mp hmem with rfl | hmem
        · have hrest : ∀ other, (name, other) ∉ rest := by
            intro other hother
            exact hnodup.1 (List.mem_map.mpr ⟨_, hother, rfl⟩)
          rw [if_pos rfl] at hkept
          exact hkept hrest
        · have hne : entry.1 ≠ name := by
            rintro rfl
            exact hnodup.1 (List.mem_map.mpr ⟨_, hmem, rfl⟩)
          rw [if_neg hne] at hadded
          exact hadded value hmem

/-- The counts of a batch add up to its length. -/
theorem namedTotal_batchByName (toolNames : List String) :
    namedTotal (batchByName toolNames) = toolNames.length := by
  have hfold : ∀ counts : Table Nat, namedTotal
      (toolNames.foldl (fun batch name => batch.insert name (batch[name]?.getD 0 + 1)) counts) =
        namedTotal counts + toolNames.length := by
    induction toolNames with
    | nil => simp
    | cons name rest ih =>
        intro counts
        have hinsert := namedTotal_insert counts name (nameCount counts name + 1)
        rw [List.foldl_cons, ih, List.length_cons]
        change namedTotal (counts.insert name (nameCount counts name + 1)) + rest.length = _
        omega
  have hempty : namedTotal ({} : Table Nat) = 0 := rfl
  rw [batchByName, hfold, hempty, Nat.zero_add]

/-! Every counter is a `u64`, and stays one. -/

structure InRange (evaluator : BudgetEvaluator) : Prop where
  cycles : evaluator.cycles ≤ maxCount
  toolCalls : evaluator.toolCalls ≤ maxCount
  named : CountsInRange evaluator.toolCallsByName

/-- A reservation of a batch that respects the count limits. -/
theorem Grows.reserve {evaluator : BudgetEvaluator} (hrange : evaluator.InRange)
    {toolNames : List String} (hadmitted : evaluator.batchExhaustion toolNames = none) :
    Grows evaluator (evaluator.reserve toolNames) := by
  simp only [batchExhaustion, Option.orElse_eq_orElse, Option.orElse_eq_or,
    Option.or_eq_none_iff] at hadmitted
  obtain ⟨htotal, hnamed⟩ := hadmitted
  have hgrown := addEntries_grows hrange.named (batchByName toolNames).toList
  refine { Grows.refl evaluator with
    toolCalls := addCount_ge hrange.toolCalls _
    named := hgrown.2
    toolLimit := ?_
    namedLimit := ?_
    balance := ?_ }
  · intro limit hlimit
    simp only [hlimit, Option.bind_eq_bind, Option.bind_some] at htotal
    split at htotal
    · cases htotal
    · rename_i hrespected
      change addCount _ _ ≤ _
      omega
  · intro name limit hlimit
    have hentry := List.findSome?_eq_none_iff.mp hnamed (name, limit)
      ((Table.mem_toList _ _ _).mpr hlimit)
    dsimp only at hentry
    obtain ⟨hkept, hadded⟩ := get_addEntries evaluator.toolCallsByName
      (batchByName toolNames).toList (Table.nodup_keys _) name
    change (addEntries _ _)[name]?.getD 0 ≤ _
    cases hbatch : (batchByName toolNames)[name]? with
    | none =>
        have habsent : ∀ value, (name, value) ∉ (batchByName toolNames).toList := by
          intro value hmem
          rw [Table.mem_toList, hbatch] at hmem
          cases hmem
        rw [hkept habsent]
        exact le_max_left _ _
    | some increment =>
        rw [hadded increment ((Table.mem_toList _ _ _).mpr hbatch), Option.getD_some]
        have hcount : nameCount (batchByName toolNames) name = increment := by
          simp [nameCount, hbatch]
        rw [hcount] at hentry
        split at hentry
        · cases hentry
        · rename_i hrespected
          have hold := hrange.named name
          unfold addCount at hrespected ⊢
          omega
  · rintro ⟨hcalls, hnames⟩
    have hsum := namedTotal_addEntries hrange.named (batchByName toolNames).toList hnames
    have hbatch := namedTotal_batchByName toolNames
    unfold namedTotal at hbatch
    rw [hbatch] at hsum
    change addCount _ _ < maxCount at hcalls
    change addCount _ _ + _ = _ + namedTotal (addEntries _ _)
    unfold addCount at hcalls ⊢
    omega

/-! What an observation leaves alone. -/

/-- The limits and the counters that only admissions change. -/
def counters (evaluator : BudgetEvaluator) : RunBudgetLimits × Nat × Nat × Table Nat :=
  (evaluator.limits, evaluator.cycles, evaluator.toolCalls, evaluator.toolCallsByName)

@[simp]
theorem counters_latchUnavailable (evaluator : BudgetEvaluator)
    (observation : BudgetUnavailableDimension) :
    (evaluator.latchUnavailable observation).counters = evaluator.counters := by
  unfold latchUnavailable
  split <;> rfl

@[simp]
theorem counters_observeElapsed (evaluator : BudgetEvaluator) (nowNs : Nat) :
    (evaluator.observeElapsed nowNs).counters = evaluator.counters := by
  unfold observeElapsed
  split
  · rfl
  · dsimp only
    split
    · exact counters_latchUnavailable evaluator _
    · rfl

@[simp]
theorem counters_observeHostCost (evaluator : BudgetEvaluator)
    (reading : Except String (Option HostCost)) :
    (evaluator.observeHostCost reading).counters = evaluator.counters := by
  have hreading : ∀ limit reading,
      (evaluator.observeReading limit reading).counters = evaluator.counters := by
    intro limit reading
    unfold observeReading latchHostUnavailable
    repeat' split
    all_goals first | exact counters_latchUnavailable _ _ | rfl
  unfold observeHostCost latchHostUnavailable
  repeat' split
  all_goals first | exact counters_latchUnavailable _ _ | exact hreading _ _ | rfl

@[simp]
theorem counters_observeBoundary (evaluator : BudgetEvaluator) (observation : Observation) :
    (evaluator.observeBoundary observation).counters = evaluator.counters := by
  simp [observeBoundary]

@[simp]
theorem counters_observeTokenUsage (evaluator : BudgetEvaluator) (usage : TokenUsage) :
    (evaluator.observeTokenUsage usage).counters = evaluator.counters := by
  have htotal : (evaluator.observeTotalTokens usage).counters = evaluator.counters := by
    unfold observeTotalTokens
    dsimp only
    repeat' split
    all_goals first | exact counters_latchUnavailable _ _ | rfl
  unfold observeTokenUsage
  rw [← htotal]
  generalize evaluator.observeTotalTokens usage = observed
  unfold observeUncachedTokens
  dsimp only
  repeat' split
  all_goals first | exact counters_latchUnavailable _ _ | rfl

theorem InRange.of_counters {before after : BudgetEvaluator} (h : before.InRange)
    (hsame : after.counters = before.counters) : after.InRange := by
  simp only [counters, Prod.mk.injEq] at hsame
  obtain ⟨_, hcycles, hcalls, hnames⟩ := hsame
  exact ⟨hcycles ▸ h.cycles, hcalls ▸ h.toolCalls, hnames ▸ h.named⟩

/-- Every boundary keeps the counters in range and grows. -/
theorem ask_grows {evaluator : BudgetEvaluator} (h : evaluator.InRange) (call : BudgetCall)
    (observation : Observation) :
    (evaluator.ask call observation).2.InRange ∧
      Grows evaluator (evaluator.ask call observation).2 := by
  have hseen : (evaluator.observeBoundary observation).InRange :=
    h.of_counters (counters_observeBoundary evaluator observation)
  have hgrown := Grows.observeBoundary evaluator observation
  cases call with
  | runStart => exact ⟨hseen, hgrown⟩
  | modelCallStart => exact ⟨hseen, hgrown⟩
  | terminal => exact ⟨hseen, hgrown⟩
  | cycleStart =>
      dsimp only [ask, cycleStart, modelCallStart]
      split
      · rename_i observed hasked
        obtain ⟨_, rfl⟩ := Prod.mk.inj hasked
        refine ⟨⟨addCount_le _ _, hseen.toolCalls, hseen.named⟩, hgrown.trans ?_⟩
        exact { Grows.refl _ with cycles := addCount_ge hseen.cycles 1 }
      · exact ⟨hseen, hgrown⟩
  | modelCallComplete usage =>
      have htokens := h.of_counters (counters_observeTokenUsage evaluator usage)
      exact ⟨htokens.of_counters (counters_observeBoundary _ observation),
        ((Grows.observeTotalTokens evaluator usage).trans (.observeUncachedTokens _ usage)).trans
          (.observeBoundary _ observation)⟩
  | toolBatchComplete operationFailed =>
      dsimp only [ask, toolBatchComplete]
      split
      · exact ⟨hseen, hgrown⟩
      · exact ⟨hseen, hgrown⟩
  | preflightTools toolNames =>
      dsimp only [ask, preflightTools]
      split
      · exact ⟨hseen, hgrown⟩
      · rename_i hadmitted
        simp only [Option.orElse_eq_orElse, Option.orElse_eq_or, Option.or_eq_none_iff] at hadmitted
        refine ⟨⟨hseen.cycles, addCount_le _ _, (addEntries_grows hseen.named _).1⟩,
          hgrown.trans (.reserve hseen hadmitted.2.2)⟩

theorem exec_grows (call : BudgetCall × Observation) {evaluator : BudgetEvaluator}
    (h : evaluator.InRange) :
    (exec call evaluator).InRange ∧ Grows evaluator (exec call evaluator) :=
  ask_grows h call.1 call.2

theorem run_grows (calls : List (BudgetCall × Observation)) {evaluator : BudgetEvaluator}
    (h : evaluator.InRange) :
    (run exec calls evaluator).InRange ∧ Grows evaluator (run exec calls evaluator) := by
  constructor
  · exact run_preserves exec (fun _ => True) InRange (fun call _ _ hbefore => (exec_grows call hbefore).1)
      calls (fun _ _ => trivial) evaluator h
  · exact run_relates exec (fun _ => True) InRange Grows Grows.refl
      (fun _ _ _ => Grows.trans) (fun call _ _ hbefore => (exec_grows call hbefore).1)
      (fun call _ _ hbefore => (exec_grows call hbefore).2) calls (fun _ _ => trivial) evaluator h

/-- A preflight that finds the budget exhausted reserves nothing. -/
theorem preflightTools_exhausted (evaluator : BudgetEvaluator) (toolNames : List String)
    (observation : Observation) (exhaustion : BudgetExhaustion)
    (h : (evaluator.preflightTools toolNames observation).1 = some exhaustion) :
    (evaluator.preflightTools toolNames observation).2.counters = evaluator.counters := by
  unfold preflightTools at h ⊢
  dsimp only at h ⊢
  split at h
  · exact counters_observeBoundary evaluator observation
  · cases h

theorem start_inRange {usage : BudgetUsageSnapshot} (h : usage.Valid) (limits : RunBudgetLimits)
    (metered : Bool) (nowNs : Nat) : (start limits metered usage nowNs).InRange := by
  have hwide : maxWireInteger ≤ maxCount := by decide
  refine ⟨h.cycles.trans hwide, h.toolCalls.trans hwide, fun name => ?_⟩
  change nameCount usage.toolCallsByName name ≤ maxCount
  unfold nameCount
  cases hcount : usage.toolCallsByName[name]? with
  | none => exact Nat.zero_le _
  | some count => exact (h.named name count hcount).2.trans hwide

end BudgetEvaluator

end VvAgent
