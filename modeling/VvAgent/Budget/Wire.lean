import VvAgent.Budget.Evaluator

/-!
Budget usage on the wire, as a checkpoint keeps it. Readers are closed: they refuse unknown
fields, and what they have read they check. An optional field may be missing.
-/

namespace VvAgent
open Lib Lib.Outcome

/-- The members of an object, if they are all known. -/
def onlyFields (members : JsonObject) (fields : List String) : Option JsonObject :=
  if members.all fun member => fields.contains member.1 then some members else none

/-- An optional field: missing, null or a text. -/
def defaultedText (members : JsonObject) (field : String) : Option (Option String) :=
  match members.lookup field with
  | none => some none
  | some value => value.readOptStr

/-- An optional field: missing, null or an unsigned integer. -/
def defaultedNat (members : JsonObject) (field : String) : Option (Option Nat) :=
  match members.lookup field with
  | none => some none
  | some value => value.readOptNat

/-- A value that has been read, if it passes its check. -/
def checked {α : Type} (check : α → BudgetResult Unit) (value : α) : Option α :=
  match check value with
  | .ok () => some value
  | .error _ => none

namespace BudgetDimension

def asStr : BudgetDimension → String
  | .totalTokens => "total_tokens"
  | .uncachedInputTokens => "uncached_input_tokens"
  | .toolCalls => "tool_calls"
  | .toolCallsByName => "tool_calls_by_name"
  | .wallTime => "wall_time"
  | .hostCost => "host_cost"

def parse : String → Option BudgetDimension
  | "total_tokens" => some .totalTokens
  | "uncached_input_tokens" => some .uncachedInputTokens
  | "tool_calls" => some .toolCalls
  | "tool_calls_by_name" => some .toolCallsByName
  | "wall_time" => some .wallTime
  | "host_cost" => some .hostCost
  | _ => none

@[simp]
theorem parse_asStr (dimension : BudgetDimension) : parse dimension.asStr = some dimension := by
  cases dimension <;> rfl

/-- The place of a dimension in the order of precedence. -/
def rank : BudgetDimension → Nat
  | .wallTime => 0
  | .totalTokens => 1
  | .uncachedInputTokens => 2
  | .hostCost => 3
  | .toolCalls => 4
  | .toolCallsByName => 5

end BudgetDimension

namespace BudgetUnavailableReason

def asStr : BudgetUnavailableReason → String
  | .accountingMissing => "accounting_missing"
  | .usageMissing => "usage_missing"
  | .meterMissing => "meter_missing"
  | .meterUnavailable => "meter_unavailable"
  | .meterError => "meter_error"
  | .unitMismatch => "unit_mismatch"
  | .currencyMismatch => "currency_mismatch"
  | .nonMonotonic => "non_monotonic"
  | .integerOverflow => "integer_overflow"

def parse : String → Option BudgetUnavailableReason
  | "accounting_missing" => some .accountingMissing
  | "usage_missing" => some .usageMissing
  | "meter_missing" => some .meterMissing
  | "meter_unavailable" => some .meterUnavailable
  | "meter_error" => some .meterError
  | "unit_mismatch" => some .unitMismatch
  | "currency_mismatch" => some .currencyMismatch
  | "non_monotonic" => some .nonMonotonic
  | "integer_overflow" => some .integerOverflow
  | _ => none

@[simp]
theorem parse_asStr (reason : BudgetUnavailableReason) : parse reason.asStr = some reason := by
  cases reason <;> rfl

end BudgetUnavailableReason

def BudgetEnforcementBoundary.asStr : BudgetEnforcementBoundary → String
  | .runStart => "run_start"
  | .cycleStart => "cycle_start"
  | .modelCallComplete => "model_call_complete"
  | .toolBatchPreflight => "tool_batch_preflight"
  | .toolBatchComplete => "tool_batch_complete"
  | .terminal => "terminal"

def BudgetExhaustionReason.asStr : BudgetExhaustionReason → String
  | .limitReached => "limit_reached"
  | .limitExceeded => "limit_exceeded"
  | .metricUnavailable => "metric_unavailable"

def BudgetExhaustion.toValue (exhaustion : BudgetExhaustion) : Json :=
  .obj
    [("attempted_increment", .optNat exhaustion.attemptedIncrement),
      ("currency", .optStr exhaustion.currency),
      ("dimension", .str exhaustion.dimension.asStr),
      ("enforcement_boundary", .str exhaustion.enforcementBoundary.asStr),
      ("limit", .nat exhaustion.limit), ("observed", .optNat exhaustion.observed),
      ("overshoot", .optNat exhaustion.overshoot), ("reason", .str exhaustion.reason.asStr),
      ("tool_name", .optStr exhaustion.toolName),
      ("unavailable_reason", .optStr (exhaustion.unavailableReason.map (·.asStr))),
      ("unit", .str exhaustion.unit)]

namespace HostCost

def toValue (cost : HostCost) : Json :=
  .obj
    [("amount_microunits", .nat cost.amountMicrounits), ("currency", .optStr cost.currency),
      ("unit", .str cost.unit)]

def fromValue (value : Json) : Option HostCost := do
  let object ← value.asObject?
  let members ← onlyFields object ["unit", "currency", "amount_microunits"]
  let cost : HostCost := {
    unit := ← members.lookup "unit" >>= Json.asStr?
    currency := ← defaultedText members "currency"
    amountMicrounits := ← members.lookup "amount_microunits" >>= Json.asU64? }
  checked validate cost

theorem fromValue_toValue {cost : HostCost} (hvalid : cost.validate = .ok ()) :
    fromValue cost.toValue = some cost := by
  simp [fromValue, toValue, Json.asObject?, onlyFields, List.lookup_cons, Json.asStr?,
    Json.asU64?, Json.nat, defaultedText, checked, hvalid]

end HostCost

namespace BudgetUnavailableDimension

/-- An optional field as it is written: always, or only with a value. -/
def present (always : Bool) (field : String) (value : Option String) : JsonObject :=
  if always || value.isSome then [(field, .optStr value)] else []

def toValue (observation : BudgetUnavailableDimension) : Json :=
  let includeAll := observation.reason == .usageMissing
  .obj <|
    [("dimension", .str observation.dimension.asStr)] ++
      present includeAll "expected_currency" observation.expectedCurrency ++
      present includeAll "expected_unit" observation.expectedUnit ++
      present includeAll "observed_currency" observation.observedCurrency ++
      present includeAll "observed_unit" observation.observedUnit ++
      [("reason", .str observation.reason.asStr)]

def fields : List String :=
  ["dimension", "reason", "expected_unit", "observed_unit", "expected_currency",
    "observed_currency"]

def fromValue (value : Json) : Option BudgetUnavailableDimension := do
  let object ← value.asObject?
  let members ← onlyFields object fields
  let observation : BudgetUnavailableDimension := {
    dimension := ← members.lookup "dimension" >>= Json.asStr? >>= BudgetDimension.parse
    reason := ← members.lookup "reason" >>= Json.asStr? >>= BudgetUnavailableReason.parse
    expectedUnit := ← defaultedText members "expected_unit"
    observedUnit := ← defaultedText members "observed_unit"
    expectedCurrency := ← defaultedText members "expected_currency"
    observedCurrency := ← defaultedText members "observed_currency" }
  checked validate observation

theorem fromValue_toValue {observation : BudgetUnavailableDimension}
    (hvalid : observation.validate = .ok ()) :
    fromValue observation.toValue = some observation := by
  obtain ⟨dimension, reason, expectedUnit, observedUnit, expectedCurrency, observedCurrency⟩ :=
    observation
  by_cases hreason : reason = .usageMissing
  · subst hreason
    simp [fromValue, toValue, present, Json.asObject?, onlyFields, fields, List.lookup_cons,
      Json.asStr?, defaultedText, checked, hvalid]
  · have hpartial : (reason == .usageMissing) = false := by simpa using hreason
    cases expectedUnit <;> cases observedUnit <;> cases expectedCurrency <;>
      cases observedCurrency <;>
      simp [fromValue, toValue, present, hpartial, Json.asObject?, onlyFields, fields,
        List.lookup_cons, Json.asStr?, Json.optStr, Json.readOptStr, defaultedText, checked, hvalid]

end BudgetUnavailableDimension

namespace BudgetUsageSnapshot

def toValue (usage : BudgetUsageSnapshot) : Json :=
  .obj
    [("cycles", .nat usage.cycles), ("elapsed_ms", .nat usage.elapsedMs),
      ("host_cost", (usage.hostCost.map HostCost.toValue).getD .null),
      ("tool_calls", .nat usage.toolCalls),
      ("tool_calls_by_name",
        .obj (usage.toolCallsByName.toList.map fun entry => (entry.1, .nat entry.2))),
      ("total_tokens", .optNat usage.totalTokens),
      ("unavailable_dimensions",
        .arr (usage.unavailableDimensions.map BudgetUnavailableDimension.toValue)),
      ("uncached_input_tokens", .optNat usage.uncachedInputTokens)]

def fields : List String :=
  ["cycles", "total_tokens", "uncached_input_tokens", "tool_calls", "tool_calls_by_name",
    "elapsed_ms", "host_cost", "unavailable_dimensions"]

/-- Counts under names. -/
def readCounts (value : Json) : Option (Table Nat) := do
  let members ← value.asObject?
  let entries ← members.mapM fun member => return (member.1, ← member.2.asU64?)
  return Std.ExtTreeMap.ofList entries

def readHostCost (members : JsonObject) : Option (Option HostCost) :=
  match members.lookup "host_cost" with
  | none | some .null => some none
  | some value => some <$> HostCost.fromValue value

/-- Unavailable dimensions, put in the order of precedence. -/
def readDimensions (value : Json) : Option (List BudgetUnavailableDimension) := do
  let items ← value.asArray?
  let observations ← items.mapM BudgetUnavailableDimension.fromValue
  return observations.mergeSort fun left right => left.dimension.rank ≤ right.dimension.rank

def fromValue (value : Json) : Option BudgetUsageSnapshot := do
  let object ← value.asObject?
  let members ← onlyFields object fields
  let usage : BudgetUsageSnapshot := {
    cycles := ← members.lookup "cycles" >>= Json.asU64?
    totalTokens := ← defaultedNat members "total_tokens"
    uncachedInputTokens := ← defaultedNat members "uncached_input_tokens"
    toolCalls := ← members.lookup "tool_calls" >>= Json.asU64?
    toolCallsByName := ← members.lookup "tool_calls_by_name" >>= readCounts
    elapsedMs := ← members.lookup "elapsed_ms" >>= Json.asU64?
    hostCost := ← readHostCost members
    unavailableDimensions := ← members.lookup "unavailable_dimensions" >>= readDimensions }
  checked validate usage

theorem mapM_fromValue_toValue {α : Type} {encode : α → Json} {decode : Json → Option α}
    {items : List α} (h : ∀ item ∈ items, decode (encode item) = some item) :
    (items.map encode).mapM decode = some items := by
  induction items with
  | nil => rfl
  | cons item rest ih =>
      have hfirst := h item (List.mem_cons_self ..)
      have hrest := ih fun later hlater => h later (List.mem_cons_of_mem _ hlater)
      simp [hfirst, hrest]

theorem readCounts_toList (counts : Table Nat) :
    readCounts (.obj (counts.toList.map fun entry => (entry.1, .nat entry.2))) = some counts := by
  have hentries : ∀ entries : List (String × Nat),
      (entries.map fun entry => (entry.1, Json.nat entry.2)).mapM
        (fun member : String × Json => do return (member.1, ← member.2.asU64?)) =
          some entries := by
    intro entries
    induction entries with
    | nil => rfl
    | cons entry rest ih =>
        rw [List.map_cons, List.mapM_cons, ih]
        rfl
  have hsame : Std.ExtTreeMap.ofList counts.toList = counts := by
    apply Std.ExtTreeMap.ext_getElem?
    intro key
    cases hfound : counts[key]? with
    | some value =>
        exact Std.ExtTreeMap.getElem?_ofList_of_mem Std.ReflCmp.compare_self
          counts.distinct_keys_toList ((Table.mem_toList _ _ _).mpr hfound)
    | none =>
        apply Std.ExtTreeMap.getElem?_ofList_of_contains_eq_false
        rw [List.contains_eq_mem, decide_eq_false_iff_not]
        intro hmem
        obtain ⟨entry, hentry, rfl⟩ := List.mem_map.mp hmem
        rw [(Table.mem_toList _ _ _).mp hentry] at hfound
        cases hfound
  have hread := hentries counts.toList
  have hcounts : readCounts (.obj (counts.toList.map fun entry => (entry.1, .nat entry.2))) =
      (some counts.toList).bind fun entries : List (String × Nat) =>
        some (Std.ExtTreeMap.ofList entries) := by
    rw [← hread]
    rfl
  rw [hcounts, Option.bind_some, hsame]

theorem readDimensions_toValue {observations : List BudgetUnavailableDimension}
    (hvalid : ∀ observation ∈ observations, observation.validate = .ok ())
    (hordered : observations.Pairwise fun left right =>
      left.dimension.rank ≤ right.dimension.rank) :
    readDimensions (.arr (observations.map BudgetUnavailableDimension.toValue)) =
      some observations := by
  have hread := mapM_fromValue_toValue fun observation hmem =>
    BudgetUnavailableDimension.fromValue_toValue (hvalid observation hmem)
  have hsorted : observations.mergeSort
      (fun left right => decide (left.dimension.rank ≤ right.dimension.rank)) = observations :=
    List.mergeSort_of_pairwise (hordered.imp fun hle => by simpa using hle)
  unfold readDimensions
  simp only [Json.asArray?, Option.bind_eq_bind, Option.bind_some, hread, hsorted]
  rfl

theorem readHostCost_toValue {cost : Option HostCost}
    (hvalid : ∀ paid, cost = some paid → paid.validate = .ok ()) {members : JsonObject}
    (hmembers : members.lookup "host_cost" = some ((cost.map HostCost.toValue).getD .null)) :
    readHostCost members = some cost := by
  unfold readHostCost
  rw [hmembers]
  cases cost with
  | none => rfl
  | some paid =>
      have hread := HostCost.fromValue_toValue (hvalid paid rfl)
      change some <$> HostCost.fromValue paid.toValue = _
      rw [hread]
      rfl

/-- A valid snapshot whose unavailable dimensions are in order is read as it was written. -/
theorem fromValue_toValue {usage : BudgetUsageSnapshot} (hvalid : usage.Valid)
    (hordered : usage.unavailableDimensions.Pairwise fun left right =>
      left.dimension.rank ≤ right.dimension.rank) :
    fromValue usage.toValue = some usage := by
  have hcounts := readCounts_toList usage.toolCallsByName
  have hdimensions := readDimensions_toValue hvalid.unavailable hordered
  have hchecked : checked validate usage = some usage := by
    rw [checked, (validate_eq_ok usage).mpr hvalid]
  have hcost : ∀ members : JsonObject,
      members.lookup "host_cost" = some ((usage.hostCost.map HostCost.toValue).getD .null) →
        readHostCost members = some usage.hostCost :=
    fun members => readHostCost_toValue hvalid.hostCost
  unfold fromValue toValue
  simp only [Json.asObject?, Option.bind_eq_bind, Option.bind_some]
  rw [onlyFields, if_pos (by simp [fields]), Option.bind_some, hcost _ rfl]
  have hnat : ∀ value, (Json.nat value).asU64? = some value := fun _ => rfl
  simp [List.lookup_cons, defaultedNat, hnat, hcounts, hdimensions, hchecked]

end BudgetUsageSnapshot

end VvAgent
