import VvAgent.Sample
import VvAgent.Checkpoint.Completion
import VvAgent.Types.Totals

/-!
When a valid record can be archived. The frontier counts what the archive holds and sums up
its token usage, column by column; its validator bounds every count and every sum. What moves
into the archive is written as one I-JSON document, and the terminal result of a finished run
is written again over the calls and cycles that stay. Each of these is reduced here to what it
asks of the records that move and of those that stay.
-/

namespace VvAgent
open Lib Lib.Outcome

/-! ### The frontier -/

/-- A completed call of an agent cycle, which the frontier remembers the input of. -/
def ModelCallRecord.isAgentInput (record : ModelCallRecord) : Bool :=
  record.operation = .agentCycle ∧ record.status = .completed

def ModelCallRecord.agentInput (record : ModelCallRecord) : PreviousAgentInput :=
  { cycleIndex := record.cycleIndex, inputTokens := record.usage.inputTokens }

namespace CheckpointHistory

/-- What a batch of calls does to the frontier. -/
theorem foldl_addCall (history : CheckpointHistory) (calls : List ModelCallRecord) :
    calls.foldl addCall history =
      { history with
        usage := history.usage.appendAll history.modelCallCount calls
        modelCallCount := history.modelCallCount + calls.length
        previousAgentInput :=
          ((calls.filter (·.isAgentInput)).getLast?.map (·.agentInput)).or
            history.previousAgentInput } := by
  induction calls generalizing history with
  | nil => rfl
  | cons record rest ih =>
      have hcount : history.modelCallCount + (record :: rest).length =
          history.modelCallCount + 1 + rest.length := by
        rw [List.length_cons]
        omega
      rw [List.foldl_cons, ih, hcount]
      cases hinput : record.isAgentInput with
      | false =>
          have hnot : ¬(record.operation = .agentCycle ∧ record.status = .completed) :=
            of_decide_eq_false hinput
          rw [List.filter_cons_of_neg (by simp [hinput])]
          simp only [addCall, if_neg hnot, TaskTokenUsageTotals.appendAll]
      | true =>
          have his : record.operation = .agentCycle ∧ record.status = .completed :=
            of_decide_eq_true hinput
          rw [List.filter_cons_of_pos hinput, List.getLast?_cons]
          simp only [addCall, if_pos his, TaskTokenUsageTotals.appendAll, Option.map_some,
            Option.some_or]
          cases (rest.filter (·.isAgentInput)).getLast? with
          | none => rfl
          | some last => rfl

/-- What the validator of the frontier asks. -/
theorem validate_eq_ok (history : CheckpointHistory) :
    history.validate = .ok () ↔
      (history.sequence ≤ maxWireInteger ∧ history.cycleCount ≤ maxWireInteger ∧
        history.modelCallCount ≤ maxWireInteger) ∧
      (history.sequence = 0 ↔ history.headDigest = none) ∧
      (∀ digest, history.headDigest = some digest → isSha256 digest = true) ∧
      (history.sequence = 0 → history = {}) ∧
      (history.sequence ≠ 0 → history.cycleCount + history.modelCallCount ≠ 0) ∧
      history.usage.cacheUsage.source = some "aggregate" ∧
      (∀ (column : TokenColumn) (total : Nat), column.ofTotals history.usage = some total →
        total ≤ maxWireInteger) ∧
      ∀ previous, history.previousAgentInput = some previous →
        previous.cycleIndex ≠ 0 ∧
          ∀ tokens, previous.inputTokens = some tokens → tokens ≤ maxWireInteger := by
  have hcolumns : (∀ (column : TokenColumn) (total : Nat),
      column.ofTotals history.usage = some total → total ≤ maxWireInteger) ↔
      (∀ total, history.usage.inputTokens = some total → total ≤ maxWireInteger) ∧
      (∀ total, history.usage.outputTokens = some total → total ≤ maxWireInteger) ∧
      (∀ total, history.usage.totalTokens = some total → total ≤ maxWireInteger) ∧
      (∀ total, history.usage.reasoningTokens = some total → total ≤ maxWireInteger) := by
    constructor
    · exact fun h => ⟨h .input, h .output, h .total, h .reasoning⟩
    · rintro ⟨hinput, houtput, htotal, hreasoning⟩ column
      cases column
      · exact hinput
      · exact houtput
      · exact htotal
      · exact hreasoning
  rw [hcolumns]
  cases hdigest : history.headDigest <;> cases hprevious : history.previousAgentInput <;>
    simp [validate, unit_guard_bind, hdigest, hprevious, validateSha256, Option.any_eq_false]
  all_goals simp only [and_assoc, and_comm, and_left_comm]

end CheckpointHistory

/-- What a batch asks of the frontier before it and of the calls that move. -/
structure FrontierFits (history : CheckpointHistory) (cycles : Nat)
    (calls : List ModelCallRecord) : Prop where
  cycleCount : history.cycleCount + cycles ≤ maxWireInteger
  modelCallCount : history.modelCallCount + calls.length ≤ maxWireInteger
  columns : ∀ column : TokenColumn,
    SumFits UInt64.size maxWireInteger (column.ofTotals history.usage) (column.ofCalls calls)
  agentInput : ∀ record, (calls.filter (·.isAgentInput)).getLast? = some record →
    record.cycleIndex ≠ 0

/-- The frontier after a batch is valid exactly when the batch fits. -/
theorem frontier_valid_iff {checkpoint : Checkpoint} {digest : String}
    (hvalid : checkpoint.history.validate = .ok ())
    (hsequence : checkpoint.history.sequence + 1 ≤ maxWireInteger)
    (hdigest : isSha256 digest = true) (hsome : checkpoint.archivesNothing = false)
    (hinputs : ∀ record ∈ checkpoint.movedCalls, ∀ tokens,
      record.usage.inputTokens = some tokens → tokens ≤ maxWireInteger) :
    (checkpoint.archivedFrontier digest).validate = .ok () ↔
      FrontierFits checkpoint.history checkpoint.movedCycles.length checkpoint.movedCalls := by
  obtain ⟨_, _, _, _, _, hsource, htotals, hprevious⟩ :=
    (CheckpointHistory.validate_eq_ok _).mp hvalid
  have hwide : maxWireInteger < UInt64.size := by decide
  have hcolumn (column : TokenColumn) :
      (∀ total, column.ofTotals (checkpoint.archivedFrontier digest).usage = some total →
        total ≤ maxWireInteger) ↔
      SumFits UInt64.size maxWireInteger (column.ofTotals checkpoint.history.usage)
        (column.ofCalls checkpoint.movedCalls) := by
    rw [Checkpoint.archivedFrontier, CheckpointHistory.foldl_addCall]
    simp only [TaskTokenUsageTotals.ofTotals_appendAll]
    apply sumBelow_le_iff
    intro first hfirst
    exact lt_of_le_of_lt (htotals column first hfirst) hwide
  have hcount : checkpoint.history.cycleCount + checkpoint.movedCycles.length +
      (checkpoint.history.modelCallCount + checkpoint.movedCalls.length) ≠ 0 := by
    intro hzero
    have hcycles : checkpoint.movedCycles = [] := List.length_eq_zero_iff.mp (by omega)
    have hcalls : checkpoint.movedCalls = [] := List.length_eq_zero_iff.mp (by omega)
    simp [Checkpoint.archivesNothing, hcycles, hcalls] at hsome
  rw [CheckpointHistory.validate_eq_ok]
  constructor
  · rintro ⟨⟨_, hcycles, hcalls⟩, _, _, _, _, _, hcolumns, hinput⟩
    rw [Checkpoint.archivedFrontier, CheckpointHistory.foldl_addCall] at hcycles hcalls hinput
    refine ⟨hcycles, hcalls, fun column => (hcolumn column).mp (hcolumns column), ?_⟩
    intro record hrecord
    exact (hinput record.agentInput (by simp [hrecord])).1
  · intro hfits
    refine ⟨⟨hsequence, ?_, ?_⟩, ?_, ?_, ?_, ?_, ?_, ?_, ?_⟩
    · rw [Checkpoint.archivedFrontier, CheckpointHistory.foldl_addCall]
      exact hfits.cycleCount
    · rw [Checkpoint.archivedFrontier, CheckpointHistory.foldl_addCall]
      exact hfits.modelCallCount
    · simp [Checkpoint.archivedFrontier]
    · intro other hother
      cases hother
      exact hdigest
    · intro hzero
      exact absurd hzero (Nat.succ_ne_zero _)
    · intro _
      rw [Checkpoint.archivedFrontier, CheckpointHistory.foldl_addCall]
      exact hcount
    · rw [Checkpoint.archivedFrontier, CheckpointHistory.foldl_addCall]
      exact TaskTokenUsageTotals.source_appendAll _ _ _ hsource
    · exact fun column => (hcolumn column).mpr (hfits.columns column)
    · intro previous hlast
      rw [Checkpoint.archivedFrontier, CheckpointHistory.foldl_addCall] at hlast
      cases hrecord : (checkpoint.movedCalls.filter (·.isAgentInput)).getLast? with
      | none =>
          simp only [hrecord, Option.map_none, Option.none_or] at hlast
          exact hprevious previous hlast
      | some record =>
          simp only [hrecord, Option.map_some, Option.some_or, Option.some.injEq] at hlast
          subst hlast
          have hmem := List.mem_of_getLast? hrecord
          exact ⟨hfits.agentInput record hrecord,
            hinputs record (List.mem_of_mem_filter hmem)⟩

/-! ### I-JSON documents -/

namespace Json

@[simp]
theorem isIJson_str (text : String) : (Json.str text).isIJson = true := rfl

@[simp]
theorem isIJson_optStr (text : Option String) : (Json.optStr text).isIJson = true := by
  cases text <;> rfl

@[simp]
theorem isIJson_nat (value : Nat) : (Json.nat value).isIJson = true ↔ value ≤ maxWireInteger :=
  decide_eq_true_iff

theorem isIJson_optNat (value : Option Nat) :
    (Json.optNat value).isIJson = true ↔ ∀ count, value = some count → count ≤ maxWireInteger := by
  cases value with
  | none =>
      constructor
      · intro _ _ hcount
        cases hcount
      · exact fun _ => rfl
  | some count =>
      rw [optNat, isIJson_nat]
      constructor
      · intro h _ hcount
        cases hcount
        exact h
      · exact fun h => h count rfl

theorem isIJson_arr (items : List Json) :
    (Json.arr items).isIJson = true ↔ ∀ item ∈ items, item.isIJson = true := by
  change allItems JsonNumber.isSafe items = true ↔ _
  induction items with
  | nil => simp [allItems]
  | cons item rest ih =>
      rw [allItems, Bool.and_eq_true, ih, List.forall_mem_cons]
      rfl

theorem isIJson_obj (members : JsonObject) :
    (Json.obj members).isIJson = members.all fun member => member.2.isIJson := by
  change allMembers JsonNumber.isSafe members = _
  induction members with
  | nil => rfl
  | cons member rest ih =>
      obtain ⟨key, item⟩ := member
      rw [allMembers, ih, List.all_cons]
      rfl

theorem isIJson_present (fields : List (String × Option Json)) :
    (Json.obj (present fields)).isIJson = fields.all fun field => field.2.all Json.isIJson := by
  rw [isIJson_obj]
  induction fields with
  | nil => rfl
  | cons field rest ih =>
      obtain ⟨key, value⟩ := field
      cases value with
      | none => rw [present, ih, List.all_cons]; rfl
      | some value => rw [present, List.all_cons, ih, List.all_cons]; rfl

end Json

/-- The document of a batch is I-JSON when its number and its records are. -/
theorem archivePayload_isIJson_iff (checkpoint : Checkpoint) [Platform] :
    checkpoint.archivePayload.isIJson = true ↔
      checkpoint.history.sequence + 1 ≤ maxWireInteger ∧
        (∀ cycle ∈ checkpoint.movedCycles, cycle.toDict.isIJson = true) ∧
        ∀ record ∈ checkpoint.movedCalls, record.toValue.isIJson = true := by
  simp only [Checkpoint.archivePayload, historyPayload, Json.isIJson_obj, List.all_cons,
    List.all_nil, Bool.and_eq_true, Json.isIJson_str, Json.isIJson_optStr, Json.isIJson_nat,
    Json.isIJson_arr, List.forall_mem_map]
  tauto

/-- An I-JSON record counts its input in the safe range. -/
theorem inputTokens_le {record : ModelCallRecord} (h : record.toValue.isIJson = true)
    (tokens : Nat) (htokens : record.usage.inputTokens = some tokens) :
    tokens ≤ maxWireInteger := by
  simp only [ModelCallRecord.toValue, TokenUsage.toValue, Json.isIJson_obj, List.all_cons,
    Bool.and_eq_true] at h
  have hinput : (Json.optNat record.usage.inputTokens).isIJson = true := by tauto
  exact (Json.isIJson_optNat _).mp hinput tokens htokens

/-- What the summary of the calls that stay asks of them. -/
structure SummaryFits (calls : List ModelCallRecord) : Prop where
  columns : ∀ column : TokenColumn,
    SumFits UInt64.size maxWireInteger (some 0) (column.ofCalls calls)
  cache : (∀ call ∈ calls, call.usage.cacheUsage.status = .providerReported) →
    ∀ column : CacheColumn, SumFits UInt64.size maxWireInteger (some 0) (column.ofCalls calls)

theorem startsBelow (first : Nat) (hfirst : some 0 = some first) : first < UInt64.size := by
  cases hfirst
  decide

theorem cacheSummary_isIJson_iff (calls : List ModelCallRecord) :
    (aggregateCacheUsage calls).toValue.isIJson = true ↔
      ((∀ call ∈ calls, call.usage.cacheUsage.status = .providerReported) →
        ∀ column : CacheColumn,
          SumFits UInt64.size maxWireInteger (some 0) (column.ofCalls calls)) := by
  have hvalue (cache : CacheUsage) : cache.toValue.isIJson = true ↔
      ∀ (column : CacheColumn) (count : Nat), column.ofCache cache = some count →
        count ≤ maxWireInteger := by
    simp only [CacheUsage.toValue, Json.isIJson_obj, List.all_cons, List.all_nil,
      Bool.and_eq_true, Json.isIJson_str, Json.isIJson_optStr, Json.isIJson_optNat]
    constructor
    · rintro ⟨hread, _, _, huncached, hwrite, _⟩ column
      cases column
      · exact hread
      · exact hwrite
      · exact huncached
    · exact fun h => ⟨h .read, trivial, trivial, h .uncached, h .write, trivial⟩
  rw [hvalue]
  cases calls with
  | nil =>
      constructor
      · intro _ _ column first counts hfirst hcounts
        cases hfirst
        have hnone : counts = [] := List.map_eq_nil_iff.mp hcounts.symm
        simp [hnone]
      · intro _ column count hcount
        cases column <;> cases hcount
  | cons first rest =>
      have hsome : first :: rest ≠ [] := by simp
      obtain ⟨_, _, hcolumns⟩ := aggregateCacheUsage_spec hsome
      rw [← jointStatus_eq_iff hsome (by decide)]
      constructor
      · intro h hreported column
        rw [← sumBelow_le_iff startsBelow]
        intro total htotal
        apply h column total
        rw [hcolumns, if_pos hreported, htotal]
      · intro h column count hcount
        rw [hcolumns] at hcount
        split at hcount
        · rename_i hreported
          exact (sumBelow_le_iff startsBelow _).mpr (h hreported column) count hcount
        · cases hcount

/-- The summary of I-JSON calls is I-JSON when its sums are in the safe range. -/
theorem summary_isIJson_iff {calls : List ModelCallRecord}
    (hcalls : ∀ call ∈ calls, call.toValue.isIJson = true) :
    (summarizeTaskTokenUsage calls).toValue.isIJson = true ↔ SummaryFits calls := by
  have hcolumn (column : TokenColumn) :
      (Json.optNat (column.ofTask (summarizeTaskTokenUsage calls))).isIJson = true ↔
        SumFits UInt64.size maxWireInteger (some 0) (column.ofCalls calls) := by
    rw [Json.isIJson_optNat, column.ofTask_summary]
    exact sumBelow_le_iff startsBelow _
  have hmembers : (Json.arr (calls.map ModelCallRecord.toValue)).isIJson = true := by
    rw [Json.isIJson_arr, List.forall_mem_map]
    exact hcalls
  simp only [TaskTokenUsage.toValue, Json.isIJson_obj, List.all_cons, List.all_nil,
    Bool.and_eq_true, Json.isIJson_str]
  constructor
  · rintro ⟨hcache, hinput, _, houtput, hreasoning, _, htotal, _⟩
    refine ⟨?_, (cacheSummary_isIJson_iff calls).mp hcache⟩
    intro column
    rw [← hcolumn]
    cases column
    · exact hinput
    · exact houtput
    · exact htotal
    · exact hreasoning
  · rintro ⟨hcolumns, hcache⟩
    refine ⟨(cacheSummary_isIJson_iff calls).mpr hcache, (hcolumn .input).mpr (hcolumns _),
      hmembers, (hcolumn .output).mpr (hcolumns _), (hcolumn .reasoning).mpr (hcolumns _), trivial,
      (hcolumn .total).mpr (hcolumns _), trivial⟩

/-! ### The terminal result -/

section
variable [Platform]

/-- What the record that stays behind a finished run asks: its cycles are readable and I-JSON,
and so is the summary of its calls. -/
structure ResultFits (cycles : List CycleRecord) (calls : List ModelCallRecord) : Prop where
  readable : ∀ cycle ∈ cycles, CycleRecord.fromDict cycle.toDict = .ok cycle
  cycles : ∀ cycle ∈ cycles, cycle.toDict.isIJson = true
  summary : SummaryFits calls

/-- A result over other cycles and calls. -/
def AgentResult.resummed (result : AgentResult) (cycles : List CycleRecord)
    (calls : List ModelCallRecord) : AgentResult :=
  { result with
    cycles
    tokenUsage := summarizeTaskTokenUsage calls }

/-- The calls of an I-JSON result are I-JSON. -/
theorem AgentResult.calls_isIJson {result : AgentResult} (h : result.toDict.isIJson = true) :
    ∀ call ∈ result.tokenUsage.modelCalls, call.toValue.isIJson = true := by
  simp only [toDict, Json.isIJson_present, List.all_cons, Bool.and_eq_true, Option.all_some] at h
  have husage : result.tokenUsage.toValue.isIJson = true := by tauto
  simp only [TaskTokenUsage.toValue, Json.isIJson_obj, List.all_cons, Bool.and_eq_true] at husage
  have hcalls : (Json.arr (result.tokenUsage.modelCalls.map ModelCallRecord.toValue)).isIJson =
      true := by tauto
  rw [Json.isIJson_arr, List.forall_mem_map] at hcalls
  exact hcalls

/-- An I-JSON result stays one over other cycles and calls when these are I-JSON. -/
theorem AgentResult.trim_isIJson_iff {result : AgentResult} (h : result.toDict.isIJson = true)
    (cycles : List CycleRecord) (calls : List ModelCallRecord) :
    (result.resummed cycles calls).toDict.isIJson = true ↔
      (∀ cycle ∈ cycles, cycle.toDict.isIJson = true) ∧
        (summarizeTaskTokenUsage calls).toValue.isIJson = true := by
  simp only [toDict, resummed, Json.isIJson_present, List.all_cons, List.all_nil, Bool.and_eq_true,
    Option.all_some] at h ⊢
  have hcycles : (Json.arr (cycles.map CycleRecord.toDict)).isIJson = true ↔
      ∀ cycle ∈ cycles, cycle.toDict.isIJson = true := by
    rw [Json.isIJson_arr, List.forall_mem_map]
  rw [hcycles]
  tauto

/-- A readable result stays readable over readable cycles and a part of its calls. -/
theorem AgentResult.trim_wellFormed_iff {result : AgentResult} (h : result.wellFormed = true)
    (cycles : List CycleRecord) {calls : List ModelCallRecord}
    (hcalls : calls.Sublist result.tokenUsage.modelCalls) :
    (result.resummed cycles calls).wellFormed = true ↔
      ∀ cycle ∈ cycles, CycleRecord.fromDict cycle.toDict = .ok cycle := by
  have hcycles : (cycles.all fun cycle =>
      (CycleRecord.fromDict cycle.toDict).toOption == some cycle) = true ↔
      ∀ cycle ∈ cycles, CycleRecord.fromDict cycle.toDict = .ok cycle := by
    rw [List.all_eq_true]
    apply forall₂_congr
    intro cycle _
    cases CycleRecord.fromDict cycle.toDict <;> simp [Except.toOption]
  simp only [wellFormed, resummed, Bool.and_eq_true] at h ⊢
  have husage : result.tokenUsage.wellFormed = true := by tauto
  have hsummary : (summarizeTaskTokenUsage calls).wellFormed = true := by
    simp only [TaskTokenUsage.wellFormed, Bool.and_eq_true, List.all_eq_true, decide_eq_true_eq,
      beq_iff_eq] at husage ⊢
    obtain ⟨⟨hreadable, hdistinct⟩, _⟩ := husage
    exact ⟨⟨fun call hmem => hreadable call (hcalls.subset hmem),
      (hcalls.map _).nodup hdistinct⟩, rfl⟩
  rw [hcycles]
  tauto

/-- The result of a valid finished record. -/
theorem terminal_of_valid {checkpoint : Checkpoint} {value : TerminalValue}
    (h : validateTerminalResult checkpoint = .ok ())
    (hvalue : checkpoint.terminalResult = some value) :
    ∃ result, value = .decoded result ∧ result.wellFormed = true ∧
      result.toDict.isIJson = true ∧
      agentStatusMatchesCheckpoint result.status checkpoint.status = true ∧
      result.checkpointKey.any (· != checkpoint.checkpointKey) = false ∧
      result.tokenUsage.modelCalls = checkpoint.modelCalls := by
  simp only [validateTerminalResult, hvalue, bind_eq_ok] at h
  obtain ⟨_, hjson, result, hread, h⟩ := h
  simp only [refuse_eq_ok, Bool.not_eq_false', bne_eq_false_iff_eq] at h
  obtain ⟨_, hstatus, _, hkey, hcalls⟩ := h
  cases value with
  | foreign json => cases hread
  | decoded stored =>
      by_cases hwell : stored.wellFormed = true
      · simp only [TerminalValue.read, if_pos hwell, withContext] at hread
        cases hread
        exact ⟨result, rfl, hwell, (Json.validateIJson_eq_ok _ _).mp hjson, hstatus, hkey, hcalls⟩
      · simp only [TerminalValue.read, if_neg hwell, withContext] at hread
        cases hread

/-- A valid finished record keeps a valid result behind a batch exactly when what stays fits. -/
theorem terminal_fits_iff {checkpoint : Checkpoint} (digest : String)
    (h : validateTerminalResult checkpoint = .ok ()) :
    (∃ terminal,
      trimTerminal checkpoint.keptCycles checkpoint.keptCalls checkpoint.terminalResult =
        .ok terminal ∧
      validateTerminalResult (checkpoint.trimmed digest terminal) = .ok ()) ↔
      (checkpoint.terminalResult.isSome = true →
        ResultFits checkpoint.keptCycles checkpoint.keptCalls) := by
  cases hvalue : checkpoint.terminalResult with
  | none =>
      constructor
      · intro _ hsome
        cases hsome
      · intro _
        exact ⟨none, rfl, rfl⟩
  | some value =>
      obtain ⟨result, rfl, hwell, hjson, hstatus, hkey, hcalls⟩ := terminal_of_valid h hvalue
      have hkept : checkpoint.keptCalls.Sublist result.tokenUsage.modelCalls := by
        rw [hcalls]
        exact checkpoint.keptCalls_sublist
      have hcallsJson : ∀ call ∈ checkpoint.keptCalls, call.toValue.isIJson = true :=
        fun call hmem => AgentResult.calls_isIJson hjson call (hkept.subset hmem)
      have htrim : trimTerminal checkpoint.keptCycles checkpoint.keptCalls
          (some (.decoded result)) =
          .ok (some (.decoded (result.resummed checkpoint.keptCycles checkpoint.keptCalls))) := by
        simp [trimTerminal, TerminalValue.read, hwell, withCode, AgentResult.resummed]
      have hread := AgentResult.trim_wellFormed_iff hwell checkpoint.keptCycles hkept
      have htext := AgentResult.trim_isIJson_iff hjson checkpoint.keptCycles checkpoint.keptCalls
      rw [summary_isIJson_iff hcallsJson] at htext
      rw [htrim]
      constructor
      · rintro ⟨terminal, hterminal, hresult⟩ _
        cases hterminal
        obtain ⟨trimmed, htrimmed, hwell', hjson', _⟩ := terminal_of_valid hresult rfl
        cases htrimmed
        exact ⟨hread.mp hwell', (htext.mp hjson').1, (htext.mp hjson').2⟩
      · intro hfits
        obtain ⟨hreadable, hcycles, hsummary⟩ := hfits rfl
        refine ⟨_, rfl, ?_⟩
        have hwell' := hread.mpr hreadable
        have hjson' := htext.mpr ⟨hcycles, hsummary⟩
        have hread' : TerminalValue.read
            (.decoded (result.resummed checkpoint.keptCycles checkpoint.keptCalls)) =
            .ok (result.resummed checkpoint.keptCycles checkpoint.keptCalls) := by
          rw [TerminalValue.read, if_pos hwell']
        simp only [validateTerminalResult, Checkpoint.trimmed]
        rw [unit_guard_bind, hread']
        refine ⟨(Json.validateIJson_eq_ok _ _).mpr hjson', ?_⟩
        simp only [bind_eq_ok, withContext_eq_ok, Except.ok.injEq, exists_eq_left', refuse_eq_ok,
          Bool.not_eq_false', bne_eq_false_iff_eq, exists_const]
        exact ⟨hstatus, hkey, rfl⟩

end

/-! ### Archiving -/

section
variable [Runtime]

/-- A write can archive what is over: normalization succeeds, and the frontier is valid. -/
def Checkpoint.Archives (checkpoint : Checkpoint) : Prop :=
  ∃ normalized batch, normalizeCheckpointHistory checkpoint = .ok (normalized, batch) ∧
    normalized.history.validate = .ok ()

/-- What the records that move and those that stay must fit into. -/
structure Checkpoint.BatchFits (checkpoint : Checkpoint) : Prop where
  frontier : FrontierFits checkpoint.history checkpoint.movedCycles.length checkpoint.movedCalls
  cycles : ∀ cycle ∈ checkpoint.movedCycles, cycle.toDict.isIJson = true
  calls : ∀ record ∈ checkpoint.movedCalls, record.toValue.isIJson = true
  result : checkpoint.terminalResult.isSome = true →
    ResultFits checkpoint.keptCycles checkpoint.keptCalls

/-- A valid record fits the archive exactly when it has nothing to archive or its batch fits. -/
theorem archiveFits_iff {checkpoint : Checkpoint} (hvalid : validateCheckpoint checkpoint = .ok ())
    (hsequence : checkpoint.history.sequence + 1 ≤ maxWireInteger) :
    ArchiveFits checkpoint ↔ checkpoint.archivesNothing = true ∨ checkpoint.BatchFits := by
  rw [validateCheckpoint_eq_ok] at hvalid
  have hhistory : checkpoint.history.validate = .ok () := by
    have h := hvalid.1
    simp only [validateHistory, unit_guard_bind] at h
    exact h.1
  have hterminal (digest : String) := terminal_fits_iff digest hvalid.2.2.2.2.2.2.2.2.2.2.2.2
  cases hsome : checkpoint.archivesNothing with
  | true => simp [ArchiveFits, hsome]
  | false =>
      simp only [ArchiveFits, hsome, Bool.false_eq_true, false_or]
      constructor
      · rintro ⟨_, digest, terminal, hdigest, hfrontier, htrim, hresult⟩
        obtain ⟨hjson, rfl⟩ := (digest_eq_ok _ _ _).mp hdigest
        obtain ⟨_, hcycles, hcalls⟩ := (archivePayload_isIJson_iff checkpoint).mp hjson
        refine ⟨?_, hcycles, hcalls, (hterminal _).mp ⟨terminal, htrim, hresult⟩⟩
        exact (frontier_valid_iff hhistory hsequence (Platform.sha256_isSha256 _) hsome
          fun record hmem => inputTokens_le (hcalls record hmem)).mp hfrontier
      · rintro ⟨hfrontier, hcycles, hcalls, hresult⟩
        have hjson := (archivePayload_isIJson_iff checkpoint).mpr ⟨hsequence, hcycles, hcalls⟩
        obtain ⟨terminal, htrim, hterminalValid⟩ :=
          (hterminal (Platform.sha256 checkpoint.archivePayload.canonical)).mpr hresult
        refine ⟨hsequence, _, terminal, (digest_eq_ok _ _ _).mpr ⟨hjson, rfl⟩, ?_, htrim,
          hterminalValid⟩
        exact (frontier_valid_iff hhistory hsequence (Platform.sha256_isSha256 _) hsome
          fun record hmem => inputTokens_le (hcalls record hmem)).mpr hfrontier

/-- A normalized record has a valid frontier. -/
theorem archives_iff {checkpoint : Checkpoint} (hvalid : validateCheckpoint checkpoint = .ok ()) :
    checkpoint.Archives ↔ ArchiveFits checkpoint := by
  have hfrontier {record : Checkpoint} (h : validateCheckpoint record = .ok ()) :
      record.history.validate = .ok () := by
    rw [validateCheckpoint_eq_ok] at h
    have hhistory := h.1
    simp only [validateHistory, unit_guard_bind] at hhistory
    exact hhistory.1
  rw [← normalizes_iff hvalid]
  constructor
  · rintro ⟨normalized, batch, hwritten, _⟩
    exact ⟨_, hwritten⟩
  · rintro ⟨⟨normalized, batch⟩, hwritten⟩
    refine ⟨normalized, batch, hwritten, ?_⟩
    rcases normalizeCheckpointHistory_eq_ok hwritten with ⟨_, rfl, _⟩ | ⟨_, _, _, _, _, hnext, rfl, _⟩
    · exact hfrontier hvalid
    · exact hfrontier hnext

/-- Archiving a valid record whose history is not yet at the integer bound succeeds exactly when
the record has nothing to archive or its batch fits. -/
theorem archiving_succeeds_iff (checkpoint : Checkpoint)
    (hvalid : validateCheckpoint checkpoint = .ok ())
    (hsequence : checkpoint.history.sequence < maxWireInteger) :
    checkpoint.Archives ↔ checkpoint.archivesNothing = true ∨ checkpoint.BatchFits := by
  rw [archives_iff hvalid]
  exact archiveFits_iff hvalid hsequence

end

namespace Sample

def cycleRecord (index : UInt32) : CycleRecord where
  index := index
  assistantMessage := ""
  toolCalls := []
  toolResults := []
  memoryCompacted := false

/-- A call of the first cycle that reports the largest input a wire number can hold. -/
def wideCall (callId : String) : ModelCallRecord where
  callId := callId
  operationId := callId
  attempt := 1
  operation := .agentCycle
  cycleIndex := 1
  backend := "test"
  model := "test-model"
  status := .completed
  usage := { inputTokens := some maxWireInteger, usageSource := .providerReported }
  errorCode := none

/-- The run after its second cycle, with the given calls in the first one. -/
def longRun (callIds : List String) : Checkpoint :=
  { created with
    cycleIndex := 2
    cycles := [cycleRecord 1, cycleRecord 2]
    modelCalls := callIds.map wideCall }

/-- The digest of the batch with the first cycle. -/
def wideBatch (text : String) (hdigest : isSha256 text = true) : List Known :=
  [{ member := "schema_version", text := historySchema, digest := ⟨text, hdigest⟩ }]

end Sample

/-- One such call is archived. -/
theorem archiving_succeeds_longRun :
    letI := Sample.runtime (Sample.wideBatch
      "fa9fa12311682061201c31abc3a3d9fe6916924ba2f18198e5d2f66d027d373d" (by decide))
    (Sample.longRun ["model-1"]).Archives := by
  let _ : Runtime := Sample.runtime (Sample.wideBatch
    "fa9fa12311682061201c31abc3a3d9fe6916924ba2f18198e5d2f66d027d373d" (by decide))
  have hvalid : validateCheckpoint (Sample.longRun ["model-1"]) = .ok () := rfl
  apply (archiving_succeeds_iff _ hvalid (by decide)).mpr
  right
  refine ⟨⟨by decide, by decide, ?_, ?_⟩, ?_, ?_, ?_⟩
  · intro column first counts hfirst hcounts
    left
    have hcalls : column.ofCalls (Sample.longRun ["model-1"]).movedCalls =
        [column.ofUsage (Sample.wideCall "model-1").usage] := rfl
    rw [hcalls] at hcounts
    cases column with
    | input =>
        cases hfirst
        obtain ⟨count, rfl, hcount⟩ := List.map_eq_singleton_iff.mp hcounts.symm
        cases hcount
        decide
    | output =>
        cases counts <;> cases hcounts
    | total =>
        cases counts <;> cases hcounts
    | reasoning =>
        cases counts <;> cases hcounts
  · intro record hrecord
    have hlast : some (Sample.wideCall "model-1") = some record := hrecord
    cases hlast
    decide
  · intro cycle hmem
    have hone : cycle ∈ [Sample.cycleRecord 1] := hmem
    rw [List.mem_singleton.mp hone]
    rfl
  · intro record hmem
    have hone : record ∈ [Sample.wideCall "model-1"] := hmem
    rw [List.mem_singleton.mp hone]
    rfl
  · intro hfinished
    cases hfinished

/-- Two such calls are each within the range of a wire number, and their sum is not. -/
theorem two_wide_calls_block_archiving :
    letI := Sample.runtime (Sample.wideBatch
      "9557d7b1eabcaa48713a007b4af9cee23f980e3828ea19acc2d439bf9b1e2ccc" (by decide))
    let checkpoint := Sample.longRun ["model-1", "model-2"]
    validateCheckpoint checkpoint = .ok () ∧
      (checkpoint.history.sequence < maxWireInteger ∧
        checkpoint.history.cycleCount < maxWireInteger ∧
        checkpoint.history.modelCallCount < maxWireInteger) ∧
      checkpoint.modelCalls.all (·.wellFormed) = true ∧ ¬checkpoint.Archives := by
  refine ⟨rfl, by decide, by decide, ?_⟩
  rintro ⟨normalized, batch, hwritten, _⟩
  cases hwritten

end VvAgent
