import VvAgent.Types.Messages

/-!
The dictionaries in which records travel between workers. Nothing checks a record when it is
written; its reader checks all of it. For each kind of record, what it must satisfy to be read
back as it was written.
-/

namespace VvAgent
open Lib Lib.Outcome

theorem mapM_map_eq_ok_iff {α β ε : Type} (read : β → Except ε α) (write : α → β) (l : List α) :
    (l.map write).mapM read = .ok l ↔ ∀ a ∈ l, read (write a) = .ok a := by
  constructor
  · intro h
    induction l with
    | nil => simp
    | cons a rest ih =>
        rw [List.map_cons, List.mapM_cons, bind_eq_ok] at h
        obtain ⟨first, hfirst, h⟩ := h
        rw [bind_eq_ok] at h
        obtain ⟨others, hothers, h⟩ := h
        obtain ⟨rfl, rfl⟩ := List.cons.inj (Except.ok.inj h)
        exact List.forall_mem_cons.mpr ⟨hfirst, ih hothers⟩
  · exact mapM_map_ok read write l

/-! ### Tool results, tool calls and cycles -/

namespace ToolExecutionResult

theorem strictOptionalU64_le {members : JsonObject} {key : String} {value : Option Nat}
    (h : strictOptionalU64 members key = .ok value) : ∀ n ∈ value, n ≤ maxWireInteger := by
  intro n hn
  obtain rfl := Option.mem_def.mp hn
  unfold strictOptionalU64 at h
  dsimp only at h
  split at h
  · cases h
  · simp only [bind_eq_ok, refuse_eq_ok, exists_const, pure_ok, Except.ok.injEq,
      Option.some.injEq, decide_eq_false_iff_not, Nat.not_lt] at h
    obtain ⟨hle, rfl⟩ := h
    exact hle
  · cases h

/-- Whatever the reader accepts is valid and within the limits of the wire. -/
theorem wireSafe_of_fromDict {data : Json} {result : ToolExecutionResult}
    (h : fromDict data = .ok result) : result.WireSafe := by
  simp only [fromDict, bind_eq_ok, refuse_eq_ok, exists_const, pure_ok, Except.ok.injEq] at h
  obtain ⟨members, _, _, metadata, _, truncated, _, reason, _, id, _, content, _, status, _,
    directive, _, errorCode, _, imageUrl, _, imagePath, _, originalBytes, horiginal, visibleBytes,
    hvisible, artifact, _, cursor, _, _, hvalid, rfl⟩ := h
  exact ⟨hvalid, strictOptionalU64_le horiginal, strictOptionalU64_le hvisible⟩

theorem fromDict_toDict_iff (result : ToolExecutionResult) :
    fromDict result.toDict = .ok result ↔ result.WireSafe :=
  ⟨wireSafe_of_fromDict, result.fromDict_toDict⟩

end ToolExecutionResult

namespace ToolCall

theorem isObject_iff {value : Json} : value.isObject = true ↔ ∃ members, value = .obj members := by
  cases value <;> simp [Json.isObject, Json.asObject?]

theorem strictFromDict_toDict_iff (call : ToolCall) :
    strictFromDict call.toDict = .ok call ↔ call.wireSafe = true := by
  refine ⟨fun h => ?_, call.strictFromDict_toDict⟩
  obtain ⟨id, name, arguments, extraContent⟩ := call
  cases extraContent with
  | none => rfl
  | some extra =>
      cases extra with
      | obj object => rfl
      | null | bool | num | str | arr =>
          simp [strictFromDict, toDict, present, Json.asObject?, readRequiredString,
            readExtraContent, List.lookup_cons] at h

end ToolCall

theorem CycleRecord.fromDict_toDict_iff (cycle : CycleRecord) :
    fromDict cycle.toDict = .ok cycle ↔ cycle.WireSafe := by
  refine ⟨fun h => ?_, cycle.fromDict_toDict⟩
  simp only [fromDict, toDict, Json.asObject?, require_some, ok_bind] at h
  simp [Json.asStr?, Json.asArray?, Json.asBool?, List.lookup_cons, bind_eq_ok] at h
  obtain ⟨index, _, calls, hcalls, results, hresults, heq⟩ := h
  obtain rfl : calls = cycle.toolCalls := congrArg CycleRecord.toolCalls heq
  obtain rfl : results = cycle.toolResults := congrArg CycleRecord.toolResults heq
  rw [← List.mapM_map] at hcalls hresults
  constructor
  · intro call hcall
    exact (call.strictFromDict_toDict_iff).mp ((mapM_map_eq_ok_iff _ _ _).mp hcalls call hcall)
  · intro result hresult
    exact (result.fromDict_toDict_iff).mp
      ((mapM_map_eq_ok_iff _ _ _).mp hresults result hresult)

/-! ### Budgets -/

def BudgetEnforcementBoundary.parse : String → Option BudgetEnforcementBoundary
  | "run_start" => some .runStart
  | "cycle_start" => some .cycleStart
  | "model_call_complete" => some .modelCallComplete
  | "tool_batch_preflight" => some .toolBatchPreflight
  | "tool_batch_complete" => some .toolBatchComplete
  | "terminal" => some .terminal
  | _ => none

def BudgetExhaustionReason.parse : String → Option BudgetExhaustionReason
  | "limit_reached" => some .limitReached
  | "limit_exceeded" => some .limitExceeded
  | "metric_unavailable" => some .metricUnavailable
  | _ => none

namespace BudgetExhaustion

def validate (exhaustion : BudgetExhaustion) : BudgetResult Unit := do
  validateWireInteger exhaustion.limit "budget exhaustion limit"
  checkAll (fun field : String × Option Nat => checkOption (validateWireInteger · field.1) field.2)
    [("budget exhaustion observed", exhaustion.observed),
      ("budget exhaustion attempted_increment", exhaustion.attemptedIncrement),
      ("budget exhaustion overshoot", exhaustion.overshoot)]
  validateNonEmpty exhaustion.unit "budget exhaustion unit"
  checkOption (validateNonEmpty · "tool_name") exhaustion.toolName
  checkOption (validateNonEmpty · "currency") exhaustion.currency

def fields : List String :=
  ["dimension", "tool_name", "reason", "limit", "observed", "attempted_increment", "overshoot",
    "unit", "currency", "enforcement_boundary", "unavailable_reason"]

def readUnavailableReason (members : JsonObject) : Option (Option BudgetUnavailableReason) := do
  match ← defaultedText members "unavailable_reason" with
  | none => return none
  | some text => return some (← BudgetUnavailableReason.parse text)

def fromValue (value : Json) : Option BudgetExhaustion := do
  let object ← value.asObject?
  let members ← onlyFields object fields
  let text (field : String) := members.lookup field >>= Json.asStr?
  let exhaustion : BudgetExhaustion := {
    dimension := ← text "dimension" >>= BudgetDimension.parse
    toolName := ← defaultedText members "tool_name"
    reason := ← text "reason" >>= BudgetExhaustionReason.parse
    limit := ← members.lookup "limit" >>= Json.asU64?
    observed := ← defaultedNat members "observed"
    attemptedIncrement := ← defaultedNat members "attempted_increment"
    overshoot := ← defaultedNat members "overshoot"
    unit := ← text "unit"
    currency := ← defaultedText members "currency"
    enforcementBoundary := ← text "enforcement_boundary" >>= BudgetEnforcementBoundary.parse
    unavailableReason := ← readUnavailableReason members }
  checked validate exhaustion

end BudgetExhaustion

/-! ### Task token usage -/

theorem ModelCallRecord.fromValue_toValue_iff (record : ModelCallRecord) :
    fromValue record.toValue = some record ↔ record.wellFormed = true := by
  constructor
  · intro h
    by_contra hwell
    simp [fromValue, toValue, hwell] at h
  · exact record.fromValue_toValue

namespace TaskTokenUsage

def addModelCall (usage : TaskTokenUsage) (modelCall : ModelCallRecord) :
    Except String TaskTokenUsage := do
  refuse (usage.modelCalls.any fun existing => existing.callId == modelCall.callId)
    "model_call_id_duplicate"
  let modelCalls := usage.modelCalls ++ [modelCall]
  return {
    modelCalls
    inputTokens := completeSum modelCalls (·.inputTokens)
    outputTokens := completeSum modelCalls (·.outputTokens)
    totalTokens := completeSum modelCalls (·.totalTokens)
    reasoningTokens := completeSum modelCalls (·.reasoningTokens)
    cacheUsage := aggregateCacheUsage modelCalls }

/-- The sums are computed again from the calls and compared with those that were written. -/
def fromValue : Json → Except String TaskTokenUsage
  | .obj
      [("cache_usage", cache), ("input_tokens", input), ("model_calls", .arr calls),
        ("output_tokens", output), ("reasoning_tokens", reasoning),
        ("schema_version", .str schema), ("total_tokens", total)] => do
      let invalid := "invalid TaskTokenUsage"
      let modelCalls ← require (calls.mapM ModelCallRecord.fromValue) invalid
      let inputTokens ← require input.readOptNat invalid
      let outputTokens ← require output.readOptNat invalid
      let totalTokens ← require total.readOptNat invalid
      let reasoningTokens ← require reasoning.readOptNat invalid
      let cacheUsage ← require (CacheUsage.fromValue cache) invalid
      refuse (schema != "vv-agent.task-token-usage.v2") "unsupported TaskTokenUsage schema"
      let expected ← modelCalls.foldlM addModelCall {}
      refuse
        (inputTokens != expected.inputTokens || outputTokens != expected.outputTokens ||
          totalTokens != expected.totalTokens || reasoningTokens != expected.reasoningTokens ||
          cacheUsage != expected.cacheUsage)
        "TaskTokenUsage aggregate does not match model_calls"
      return expected
  | _ => .error "invalid TaskTokenUsage"

/-- Adding calls one by one gives the summary of all of them, as long as their ids differ. -/
theorem foldlM_addModelCall (calls earlier : List ModelCallRecord)
    (hearlier : (earlier.map (·.callId)).Nodup) (usage : TaskTokenUsage) :
    calls.foldlM addModelCall (summarizeTaskTokenUsage earlier) = .ok usage ↔
      ((earlier ++ calls).map (·.callId)).Nodup ∧
        usage = summarizeTaskTokenUsage (earlier ++ calls) := by
  induction calls generalizing earlier with
  | nil => simp [hearlier, eq_comm]
  | cons call rest ih =>
      have hany : (earlier.any fun existing => existing.callId == call.callId) = false ↔
          call.callId ∉ earlier.map (·.callId) := by
        simp [List.any_eq_false]
      have hsame : addModelCall (summarizeTaskTokenUsage earlier) call =
          (refuse (earlier.any fun existing => existing.callId == call.callId)
            "model_call_id_duplicate" >>= fun _ =>
              .ok (summarizeTaskTokenUsage (earlier ++ [call]))) := rfl
      have hcut : earlier ++ call :: rest = (earlier ++ [call]) ++ rest := by simp
      rw [List.foldlM_cons, hsame, hcut]
      by_cases hnew : call.callId ∈ earlier.map (·.callId)
      · have hrefused : (earlier.any fun existing => existing.callId == call.callId) = true := by
          by_contra hnone
          exact hany.mp (by simpa using hnone) hnew
        rw [hrefused]
        constructor
        · intro h
          cases h
        · rintro ⟨hnodup, _⟩
          rw [List.map_append, List.map_append, List.append_assoc, List.nodup_append] at hnodup
          exact absurd rfl (hnodup.2.2 _ hnew _ (by simp))
      · rw [hany.mpr hnew]
        refine ih (earlier ++ [call]) ?_
        rw [List.map_append, List.nodup_append]
        refine ⟨hearlier, by simp, ?_⟩
        rintro first hfirst second hsecond rfl
        rw [List.map_singleton, List.mem_singleton] at hsecond
        exact hnew (hsecond ▸ hfirst)

theorem mapM_fromValue_iff (calls : List ModelCallRecord) :
    (calls.map ModelCallRecord.toValue).mapM ModelCallRecord.fromValue = some calls ↔
      ∀ call ∈ calls, call.wellFormed = true := by
  induction calls with
  | nil => simp
  | cons call rest ih =>
      rw [List.map_cons, List.mapM_cons, List.forall_mem_cons, ← ih,
        ← ModelCallRecord.fromValue_toValue_iff]
      constructor
      · intro h
        cases hfirst : ModelCallRecord.fromValue call.toValue with
        | none => simp [hfirst] at h
        | some first =>
            cases hothers : (rest.map ModelCallRecord.toValue).mapM ModelCallRecord.fromValue with
            | none => simp [hfirst, hothers] at h
            | some others => simpa [hfirst, hothers] using h
      · rintro ⟨hfirst, hrest⟩
        simp [hfirst, hrest]

/-- A task usage is read back if its calls are readable and have distinct ids, and its sums are
theirs. -/
theorem fromValue_toValue_iff (usage : TaskTokenUsage) :
    fromValue usage.toValue = .ok usage ↔ usage.wellFormed = true := by
  have hfold := foldlM_addModelCall usage.modelCalls [] List.nodup_nil usage
  rw [List.nil_append] at hfold
  have hwell : usage.wellFormed = true ↔ (∀ call ∈ usage.modelCalls, call.wellFormed = true) ∧
      (usage.modelCalls.map (·.callId)).Nodup ∧
        usage = summarizeTaskTokenUsage usage.modelCalls := by
    simp [wellFormed, and_assoc]
  rw [hwell, ← hfold, ← mapM_fromValue_iff]
  have hempty : ({} : TaskTokenUsage) = summarizeTaskTokenUsage [] := rfl
  simp only [fromValue, toValue, Json.readOptNat_optNat, CacheUsage.fromValue_toValue,
    require_some, ok_bind, hempty, bind_eq_ok, require_eq_ok, refuse_eq_ok, exists_const, pure_ok,
    Except.ok.injEq]
  constructor
  · rintro ⟨calls, hcalls, _, expected, hexpected, _, rfl⟩
    have hsummary := ((foldlM_addModelCall calls [] List.nodup_nil expected).mp hexpected).2
    rw [List.nil_append] at hsummary
    obtain rfl : expected.modelCalls = calls := congrArg TaskTokenUsage.modelCalls hsummary
    exact ⟨hcalls, hexpected⟩
  · rintro ⟨hcalls, hexpected⟩
    exact ⟨usage.modelCalls, hcalls, by simp, usage, hexpected, by simp, rfl⟩

end TaskTokenUsage

/-! ### Messages -/

section
variable [Texts]

namespace ToolCall

omit [Texts] in
theorem extraContent_filter_iff (extraContent : Option Json) :
    extraContent.filter Json.isObject = extraContent ↔ extraContent.all Json.isObject = true := by
  cases extraContent with
  | none => simp
  | some extra => cases hobject : extra.isObject <;> simp [hobject]

theorem fromDict_toDict_iff (call : ToolCall) :
    fromDict call.toDict = .ok call ↔ call.wireSafe = true := by
  rw [wireSafe, ← extraContent_filter_iff]
  obtain ⟨id, name, arguments, extraContent⟩ := call
  cases extraContent <;>
    simp [fromDict, toDict, present, Json.asObject?, readRequiredString, readObject,
      List.lookup_cons]

/-- The arguments that a text is read as; a text without arguments has none. -/
def argumentsOfText (text : String) : JsonObject :=
  let stripped := trimWhitespace text.toList
  if stripped = [] then []
  else
    match parse (.ofList stripped) with
    | .ok (.obj members) => members
    | _ => []

theorem fromRawArguments_text (id name text : String) (extraContent : Option Json) :
    { fromRawArguments id name (.str text) with extraContent } =
      (⟨id, name, argumentsOfText text, extraContent⟩ : ToolCall) := by
  unfold fromRawArguments argumentsOfText parseRawToolArguments
  dsimp only
  split_ifs with hempty
  · rfl
  · cases parse (.ofList (trimWhitespace text.toList)) with
    | error error => rfl
    | ok value => cases value <;> rfl

/-- A call inside a message is read back if its extra content is an object and the text of its
arguments is read as the arguments. -/
theorem fromDict_toolCallToOpenai_iff (call : ToolCall) :
    fromDict (toolCallToOpenai call) = .ok call ↔
      call.wireSafe = true ∧
        argumentsOfText (Platform.jsonText (.obj call.arguments)) = call.arguments := by
  rw [wireSafe, ← extraContent_filter_iff]
  obtain ⟨id, name, arguments, extraContent⟩ := call
  have hread : fromDict (toolCallToOpenai ⟨id, name, arguments, extraContent⟩) =
      .ok ⟨id, name, argumentsOfText (Platform.jsonText (.obj arguments)),
        extraContent.filter Json.isObject⟩ := by
    rw [← fromRawArguments_text]
    cases extraContent <;>
      simp [fromDict, toolCallToOpenai, present, Json.asObject?, readRequiredString,
        List.lookup_cons]
  rw [hread, Except.ok.injEq, ToolCall.mk.injEq]
  constructor
  · rintro ⟨_, _, harguments, hextra⟩
    exact ⟨hextra, harguments⟩
  · rintro ⟨hextra, harguments⟩
    exact ⟨rfl, rfl, harguments, hextra⟩

end ToolCall

/-- What the dictionary of a message can carry. -/
structure Message.Carried (message : Message) : Prop where
  extraContent : ∀ call ∈ message.toolCalls, call.wireSafe = true
  arguments : ∀ call ∈ message.toolCalls,
    ToolCall.argumentsOfText (Platform.jsonText (.obj call.arguments)) = call.arguments
  artifact : ∀ artifact ∈ message.artifactRef, artifact.validate = .ok ()
  evidence : validateCompactionMetadata message.metadata = .ok ()

theorem Message.fromDict_toDict_iff (message : Message) :
    fromDict message.toDict = .ok message ↔ message.Carried := by
  have hcalls : message.CallsReadBack ↔ ∀ call ∈ message.toolCalls, call.wireSafe = true ∧
      ToolCall.argumentsOfText (Platform.jsonText (.obj call.arguments)) = call.arguments := by
    rw [CallsReadBack, mapM_map_eq_ok_iff]
    exact forall₂_congr fun call _ => call.fromDict_toolCallToOpenai_iff
  rw [← Decodable, decodable_iff, hcalls]
  constructor
  · rintro ⟨hcalls, hartifact, hevidence⟩
    exact ⟨fun call hcall => (hcalls call hcall).1, fun call hcall => (hcalls call hcall).2,
      hartifact, hevidence⟩
  · rintro ⟨hextra, harguments, hartifact, hevidence⟩
    exact ⟨fun call hcall => ⟨hextra call hcall, harguments call hcall⟩, hartifact, hevidence⟩

/-! ### Terminal results -/

omit [Texts] in
theorem ResumeObservation.fromValue_toValue (observation : ResumeObservation) :
    fromValue observation.toValue = some observation := by
  obtain ⟨id, kind, cycle, state, risk, support⟩ := observation
  cases kind <;> cases state <;> rcases support with _ | support <;> try cases support
  all_goals rfl

def AgentResultError.validate (error : AgentResultError) : Except String Unit :=
  refuse (isBlank error.code || isBlank error.message)
    "AgentResult error code and message must be non-empty"

def AgentResultError.fromValue : Json → Option AgentResultError
  | .obj [("code", .str code), ("message", .str message), ("retryable", .bool retryable)] =>
      some { code, message, retryable }
  | _ => none

def AgentStatus.parse : String → Option AgentStatus
  | "pending" => some .pending
  | "running" => some .running
  | "deferred" => some .deferred
  | "host_interaction" => some .hostInteraction
  | "wait_user" => some .waitUser
  | "completed" => some .completed
  | "failed" => some .failed
  | "max_cycles" => some .maxCycles
  | "reconciliation_required" => some .reconciliationRequired
  | _ => none

omit [Texts] in
theorem AgentStatus.parse_asStr (status : AgentStatus) : parse status.asStr = some status := by
  cases status <;> rfl

def CompletionReason.parse : String → Option CompletionReason
  | "tool_finish" => some .toolFinish
  | "no_tool_finish" => some .noToolFinish
  | "stop_on_first_tool" => some .stopOnFirstTool
  | "stop_at_tool_name" => some .stopAtToolName
  | "wait_user" => some .waitUser
  | "max_cycles" => some .maxCycles
  | "cancelled" => some .cancelled
  | "failed" => some .failed
  | "budget_exhausted" => some .budgetExhausted
  | _ => none

omit [Texts] in
theorem CompletionReason.parse_asStr (reason : CompletionReason) :
    parse reason.asStr = some reason := by
  cases reason <;> rfl

namespace AgentResult

def requiredFields : List String :=
  ["status", "completion_reason", "completion_tool_name", "partial_output", "messages", "cycles",
    "final_answer", "wait_reason", "error", "shared_state", "token_usage", "checkpoint_key",
    "resume_observations"]

def optionalFields : List String := ["budget_usage", "budget_exhaustion", "error_code"]

def strictOptionalString (members : JsonObject) (key : String) :
    Except String (Option String) :=
  match members.lookup key with
  | none | some .null => .ok none
  | some (.str value) => .ok (some value)
  | some _ => .error ("AgentResult field '" ++ key ++ "' must be a string or null")

def optionalCompletionReason (members : JsonObject) : Except String (Option CompletionReason) := do
  match ← strictOptionalString members "completion_reason" with
  | none => return none
  | some text => do
      let reason ← require (CompletionReason.parse text) ("unknown completion reason: " ++ text)
      return some reason

/-- An optional record that is kept as the JSON it is written as. -/
def readWritten {α : Type} (read : Json → Option α) (write : α → Json) (members : JsonObject)
    (key : String) : Except String (Option Json) :=
  match members.lookup key with
  | none => .ok none
  | some value => do
      let record ← require (read value)
        ("AgentResult field '" ++ key ++ "' must be a valid object")
      return some (write record)

def readError (members : JsonObject) : Except String (Option AgentResultError) :=
  match members.lookup "error" with
  | none | some .null => .ok none
  | some value => do
      let error ← require (AgentResultError.fromValue value)
        "AgentResult field 'error' must be a typed error object"
      error.validate
      return some error

/-- Each observation is valid and comes after the one before it. -/
def validateResumeObservations (previous : Option (String × Nat × Nat)) :
    List ResumeObservation → Except String Unit
  | [] => .ok ()
  | observation :: rest => do
      match observation.validate with
      | .ok () => .ok ()
      | .error error => .error ("invalid resume observation: " ++ error.display)
      refuse (previous.any fun before => ResumeObservation.keyLe observation.key before)
        "AgentResult resume_observations must be sorted and unique by operation identity"
      validateResumeObservations (some observation.key) rest

def fromDict (data : Json) : Except String AgentResult := do
  let members ← require data.asObject? "AgentResult payload must be an object"
  let keys := members.map (·.1)
  refuse
    (requiredFields.any (!keys.contains ·) ||
      keys.any fun field => !requiredFields.contains field && !optionalFields.contains field)
    "AgentResult must contain exactly the current wire fields"
  checkAll
    (fun field => refuse (members.lookup field == some .null)
      ("AgentResult optional field '" ++ field ++ "' must be omitted when absent"))
    optionalFields
  let messages ← require (members.lookup "messages" >>= Json.asArray?)
    "AgentResult field 'messages' must be an array"
  let messages ← messages.mapM Message.fromDict
  let cycles ← require (members.lookup "cycles" >>= Json.asArray?)
    "AgentResult field 'cycles' must be an array"
  let cycles ← cycles.mapM CycleRecord.fromDict
  let statusText ← readRequiredString members "status"
  let status ← require (AgentStatus.parse statusText) ("unknown agent status: " ++ statusText)
  let completionReason ← optionalCompletionReason members
  let completionToolName ← strictOptionalString members "completion_tool_name"
  let partialOutput ← strictOptionalString members "partial_output"
  let budgetUsage ← readWritten BudgetUsageSnapshot.fromValue BudgetUsageSnapshot.toValue members
    "budget_usage"
  let budgetExhaustion ← readWritten BudgetExhaustion.fromValue BudgetExhaustion.toValue members
    "budget_exhaustion"
  let checkpointKey ← strictOptionalString members "checkpoint_key"
  let observations ← require (members.lookup "resume_observations" >>= Json.asArray?)
    "AgentResult field 'resume_observations' must be an array"
  let resumeObservations ← observations.mapM fun value =>
    require (ResumeObservation.fromValue value)
      "AgentResult field 'resume_observations' must contain valid objects"
  let finalAnswer ← strictOptionalString members "final_answer"
  let waitReason ← strictOptionalString members "wait_reason"
  let error ← readError members
  let errorCode ← strictOptionalString members "error_code"
  let sharedState ← readObject members "shared_state"
  let usage ← require (members.lookup "token_usage") "AgentResult field 'token_usage' is required"
  let tokenUsage ← TaskTokenUsage.fromValue usage
  let result : AgentResult :=
    { status, messages, cycles, completionReason, completionToolName, partialOutput, budgetUsage,
      budgetExhaustion, checkpointKey, resumeObservations, finalAnswer, waitReason, error,
      errorCode, sharedState, tokenUsage }
  validateResumeObservations none result.resumeObservations
  refuse (result.toDict != data) "AgentResult must use the canonical current wire shape"
  return result

/-- What the dictionary of a terminal result can carry. -/
structure Carried (result : AgentResult) : Prop where
  messages : ∀ message ∈ result.messages, message.Carried
  cycles : ∀ cycle ∈ result.cycles, cycle.WireSafe
  observations : observationsOrdered result.resumeObservations = true
  error : ∀ error ∈ result.error, isBlank error.code = false ∧ isBlank error.message = false
  tokenUsage : result.tokenUsage.wellFormed = true
  budgetUsage : ∀ value ∈ result.budgetUsage, ∃ usage : BudgetUsageSnapshot,
    BudgetUsageSnapshot.fromValue value = some usage ∧ usage.toValue = value
  budgetExhaustion : ∀ value ∈ result.budgetExhaustion, ∃ exhaustion : BudgetExhaustion,
    BudgetExhaustion.fromValue value = some exhaustion ∧ exhaustion.toValue = value

omit [Texts] in
theorem isOk_iff {ε : Type} (outcome : Except ε Unit) :
    outcome.isOk = true ↔ outcome = .ok () := by
  cases outcome <;> simp [Except.isOk, Except.toBool]

omit [Texts] in
theorem validateResumeObservations_cons (previous : Option (String × Nat × Nat))
    (observation : ResumeObservation) (rest : List ResumeObservation) :
    validateResumeObservations previous (observation :: rest) = .ok () ↔
      observation.validate = .ok () ∧
        (∀ before ∈ previous, ResumeObservation.keyLe observation.key before = false) ∧
        validateResumeObservations (some observation.key) rest = .ok () := by
  rw [validateResumeObservations]
  cases observation.validate with
  | error error => simp
  | ok value => cases previous <;> simp [unit_guard_bind]

omit [Texts] in
theorem validateResumeObservations_eq_ok (observations : List ResumeObservation)
    (previous : Option (String × Nat × Nat)) :
    validateResumeObservations previous observations = .ok () ↔
      observationsOrdered observations = true ∧
        ∀ first ∈ observations.head?, ∀ before ∈ previous,
          ResumeObservation.keyLe first.key before = false := by
  induction observations generalizing previous with
  | nil => simp [validateResumeObservations, observationsOrdered]
  | cons observation rest ih =>
      rw [validateResumeObservations_cons, ih]
      cases rest with
      | nil => simp [observationsOrdered, isOk_iff]
      | cons second rest =>
          simp only [observationsOrdered, Bool.and_eq_true, isOk_iff, Bool.not_eq_true',
            List.head?_cons, Option.mem_some_iff, forall_eq']
          tauto

/-- The members that the dictionary of a result holds, by name. -/
def fields (result : AgentResult) : JsonObject := result.toDict.asObject?.getD []

theorem toDict_eq (result : AgentResult) : result.toDict = .obj result.fields := rfl

/-- The members under their names. -/
theorem lookup_fields (result : AgentResult) :
    result.fields.lookup "budget_exhaustion" = result.budgetExhaustion ∧
      result.fields.lookup "budget_usage" = result.budgetUsage ∧
      result.fields.lookup "checkpoint_key" = some (.optStr result.checkpointKey) ∧
      result.fields.lookup "completion_reason" =
        some (.optStr (result.completionReason.map (·.asStr))) ∧
      result.fields.lookup "completion_tool_name" = some (.optStr result.completionToolName) ∧
      result.fields.lookup "cycles" = some (.arr (result.cycles.map CycleRecord.toDict)) ∧
      result.fields.lookup "error" =
        some ((result.error.map AgentResultError.toValue).getD .null) ∧
      result.fields.lookup "error_code" = result.errorCode.map .str ∧
      result.fields.lookup "final_answer" = some (.optStr result.finalAnswer) ∧
      result.fields.lookup "messages" = some (.arr (result.messages.map Message.toDict)) ∧
      result.fields.lookup "partial_output" = some (.optStr result.partialOutput) ∧
      result.fields.lookup "resume_observations" =
        some (.arr (result.resumeObservations.map ResumeObservation.toValue)) ∧
      result.fields.lookup "shared_state" = some (.obj result.sharedState) ∧
      result.fields.lookup "status" = some (.str result.status.asStr) ∧
      result.fields.lookup "token_usage" = some result.tokenUsage.toValue ∧
      result.fields.lookup "wait_reason" = some (.optStr result.waitReason) := by
  simp [fields, toDict, Json.asObject?]

/-- A dictionary has the fields that its reader requires, and no unknown ones. -/
theorem fields_closed (result : AgentResult) :
    (requiredFields.any (!(result.fields.map (·.1)).contains ·) ||
      (result.fields.map (·.1)).any fun field =>
        !requiredFields.contains field && !optionalFields.contains field) = false := by
  obtain ⟨_, _, hkey, hreason, htool, hcycles, herror, _, hfinal, hmessages, hpartial,
    hobservations, hshared, hstatus, husage, hwait⟩ := result.lookup_fields
  have hthere : ∀ field value, result.fields.lookup field = some value →
      (result.fields.map (·.1)).contains field = true := by
    intro field value hlookup
    rw [List.contains_iff_mem]
    exact mem_keys_of_lookup _ _ _ hlookup
  rw [Bool.or_eq_false_iff]
  constructor
  · simp only [requiredFields, List.any_cons, List.any_nil, hthere _ _ hkey, hthere _ _ hreason,
      hthere _ _ htool, hthere _ _ hcycles, hthere _ _ herror, hthere _ _ hfinal,
      hthere _ _ hmessages, hthere _ _ hpartial, hthere _ _ hobservations, hthere _ _ hshared,
      hthere _ _ hstatus, hthere _ _ husage, hthere _ _ hwait, Bool.not_true, Bool.or_false]
  · rw [List.any_eq_false]
    intro field hfield
    have hname := mem_keys_present _ field hfield
    simp only [List.map_cons, List.map_nil, List.mem_cons, List.not_mem_nil, or_false] at hname
    rcases hname with h | h | h | h | h | h | h | h | h | h | h | h | h | h | h | h <;>
      subst h <;> decide

omit [Texts] in
theorem strictOptionalString_of_lookup {members : JsonObject} {key : String}
    {value : Option String} (h : members.lookup key = some (.optStr value)) :
    strictOptionalString members key = .ok value := by
  unfold strictOptionalString
  rw [h]
  cases value <;> rfl

omit [Texts] in
/-- An optional record is read back if its JSON is that of a readable record. -/
theorem readWritten_iff {α : Type} {read : Json → Option α} {write : α → Json}
    {members : JsonObject} {key : String} {value : Option Json}
    (h : members.lookup key = value) :
    readWritten read write members key = .ok value ↔
      ∀ written ∈ value, ∃ record, read written = some record ∧ write record = written := by
  unfold readWritten
  rw [h]
  cases value with
  | none => simp
  | some written => simp [bind_eq_ok]

theorem readError_fields (result : AgentResult) :
    readError result.fields = .ok result.error ↔
      ∀ error ∈ result.error, isBlank error.code = false ∧ isBlank error.message = false := by
  have hlookup := result.lookup_fields.2.2.2.2.2.2.1
  unfold readError
  rw [hlookup]
  cases result.error with
  | none => simp
  | some error =>
      simp [AgentResultError.toValue, AgentResultError.fromValue, AgentResultError.validate,
        unit_guard_bind]

/-- The optional fields of a readable result are not null. -/
theorem optionalFields_present {result : AgentResult} (h : result.Carried) :
    checkAll
      (fun field => refuse (result.fields.lookup field == some .null)
        ("AgentResult optional field '" ++ field ++ "' must be omitted when absent"))
      optionalFields = .ok () := by
  obtain ⟨hexhaustion, husage, _, _, _, _, _, hcode, _⟩ := result.lookup_fields
  rw [checkAll_eq_ok]
  intro field hfield
  rw [refuse_eq_ok, beq_eq_false_iff_ne]
  simp only [optionalFields, List.mem_cons, List.not_mem_nil, or_false] at hfield
  rcases hfield with rfl | rfl | rfl
  · rw [husage]
    intro hnull
    obtain ⟨_, hread, _⟩ := h.budgetUsage .null hnull
    cases hread
  · rw [hexhaustion]
    intro hnull
    obtain ⟨_, hread, _⟩ := h.budgetExhaustion .null hnull
    cases hread
  · rw [hcode]
    cases result.errorCode <;> simp

/-- A terminal result is read back if each of its parts is. -/
theorem fromDict_toDict_iff (result : AgentResult) :
    fromDict result.toDict = .ok result ↔ result.Carried := by
  obtain ⟨hexhaustion, husage, hkey, hreason, htool, hcycles, herror, hcode, hfinal, hmessages,
    hpartial, hobservations, hshared, hstatus, htokens, hwait⟩ := result.lookup_fields
  have hstatusText : readRequiredString result.fields "status" = .ok result.status.asStr := by
    simp [readRequiredString, hstatus]
  have hreasonRead : optionalCompletionReason result.fields = .ok result.completionReason := by
    unfold optionalCompletionReason
    rw [strictOptionalString_of_lookup hreason]
    cases result.completionReason <;> simp [CompletionReason.parse_asStr]
  have hcodeRead : strictOptionalString result.fields "error_code" = .ok result.errorCode := by
    unfold strictOptionalString
    rw [hcode]
    cases result.errorCode <;> rfl
  have hsharedRead : readObject result.fields "shared_state" = .ok result.sharedState := by
    simp [readObject, hshared]
  have hobservationsRead : (result.resumeObservations.map ResumeObservation.toValue).mapM
      (fun value => require (ResumeObservation.fromValue value)
        "AgentResult field 'resume_observations' must contain valid objects") =
        .ok result.resumeObservations := by
    rw [mapM_map_eq_ok_iff]
    intro observation _
    rw [observation.fromValue_toValue]
    rfl
  unfold fromDict
  rw [toDict_eq]
  simp only [Json.asObject?, require_some, ok_bind, fields_closed, refuse_false, hmessages,
    hcycles, hstatusText, AgentStatus.parse_asStr, hreasonRead,
    strictOptionalString_of_lookup htool, strictOptionalString_of_lookup hpartial,
    strictOptionalString_of_lookup hkey, strictOptionalString_of_lookup hfinal,
    strictOptionalString_of_lookup hwait, hobservations, hobservationsRead, hcodeRead,
    hsharedRead, htokens, Json.asArray?, Option.bind_eq_bind, Option.bind_some, bind_eq_ok,
    pure_ok, Except.ok.injEq]
  constructor
  · rintro ⟨_, _, messages, hmessagesRead, cycles, hcyclesRead, budgetUsage, husageRead,
      budgetExhaustion, hexhaustionRead, error, herrorRead, tokenUsage, htokensRead, _,
      hordered, _, _, heq⟩
    obtain rfl : messages = result.messages := congrArg AgentResult.messages heq
    obtain rfl : cycles = result.cycles := congrArg AgentResult.cycles heq
    obtain rfl : budgetUsage = result.budgetUsage := congrArg AgentResult.budgetUsage heq
    obtain rfl : budgetExhaustion = result.budgetExhaustion :=
      congrArg AgentResult.budgetExhaustion heq
    obtain rfl : error = result.error := congrArg AgentResult.error heq
    obtain rfl : tokenUsage = result.tokenUsage := congrArg AgentResult.tokenUsage heq
    constructor
    · intro message hmessage
      exact message.fromDict_toDict_iff.mp
        ((mapM_map_eq_ok_iff _ _ _).mp hmessagesRead message hmessage)
    · intro cycle hcycle
      exact cycle.fromDict_toDict_iff.mp ((mapM_map_eq_ok_iff _ _ _).mp hcyclesRead cycle hcycle)
    · exact ((validateResumeObservations_eq_ok _ _).mp hordered).1
    · exact (readError_fields result).mp herrorRead
    · exact result.tokenUsage.fromValue_toValue_iff.mp htokensRead
    · exact (readWritten_iff husage).mp husageRead
    · exact (readWritten_iff hexhaustion).mp hexhaustionRead
  · intro h
    have hmessagesRead : (result.messages.map Message.toDict).mapM Message.fromDict =
        .ok result.messages := (mapM_map_eq_ok_iff _ _ _).mpr fun message hmessage =>
      message.fromDict_toDict_iff.mpr (h.messages message hmessage)
    have hcyclesRead : (result.cycles.map CycleRecord.toDict).mapM CycleRecord.fromDict =
        .ok result.cycles := (mapM_map_eq_ok_iff _ _ _).mpr fun cycle hcycle =>
      cycle.fromDict_toDict_iff.mpr (h.cycles cycle hcycle)
    refine ⟨(), optionalFields_present h, result.messages, hmessagesRead, result.cycles,
      hcyclesRead, result.budgetUsage, (readWritten_iff husage).mpr h.budgetUsage,
      result.budgetExhaustion, (readWritten_iff hexhaustion).mpr h.budgetExhaustion, result.error,
      (readError_fields result).mpr h.error, result.tokenUsage,
      result.tokenUsage.fromValue_toValue_iff.mpr h.tokenUsage, (), ?_, (), ?_, rfl⟩
    · exact (validateResumeObservations_eq_ok _ _).mpr ⟨h.observations, by simp⟩
    · rw [refuse_eq_ok, bne_eq_false_iff_eq]
      exact result.toDict_eq

end AgentResult

end

end VvAgent
