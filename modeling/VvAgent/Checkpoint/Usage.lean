import VvAgent.Checkpoint.Frontier

/-!
The usage of a running task. Its ledger keeps the active records only; the totals of the
archived ones stand in the frontier, and the cumulative usage continues them over the active
records. The summary of a result sums all records at once. The two are compared here for every
way of splitting a list of records.
-/

namespace VvAgent
open Lib Lib.Outcome

/-- The active records of a ledger, behind the frontier of the archived ones. -/
structure ModelCallLedger where
  records : List ModelCallRecord
  history : CheckpointHistory

/-- The totals of the archive, continued over the active records. -/
def ModelCallLedger.cumulativeUsage (ledger : ModelCallLedger) : TaskTokenUsageTotals :=
  (ledger.records.foldl
    (fun history record =>
      { history with
        usage := history.usage.append record (history.modelCallCount == 0)
        modelCallCount := history.modelCallCount + 1 })
    ledger.history).usage

theorem ModelCallLedger.cumulativeUsage_eq (ledger : ModelCallLedger) :
    ledger.cumulativeUsage =
      ledger.history.usage.appendAll ledger.history.modelCallCount ledger.records := by
  obtain ⟨records, history⟩ := ledger
  unfold cumulativeUsage
  induction records generalizing history with
  | nil => rfl
  | cons record rest ih => exact ih _

/-- The ledger with an archived part and an active one. -/
def splitLedger (archived active : List ModelCallRecord) : ModelCallLedger where
  records := active
  history := archived.foldl CheckpointHistory.addCall {}

/-- Wherever a ledger is split, its totals are those of one pass over all records. -/
theorem cumulativeUsage_splitLedger (archived active : List ModelCallRecord) :
    (splitLedger archived active).cumulativeUsage =
      TaskTokenUsageTotals.appendAll {} 0 (archived ++ active) := by
  rw [ModelCallLedger.cumulativeUsage_eq, splitLedger, CheckpointHistory.foldl_addCall,
    TaskTokenUsageTotals.appendAll_append]

/-- `summarize_task_token_usage`: the records are added one by one, and a repeated id fails. -/
def summarizeTaskTokenUsageChecked (calls : List ModelCallRecord) :
    Except String TaskTokenUsage :=
  calls.foldlM TaskTokenUsage.addModelCall {}

theorem summarizeTaskTokenUsageChecked_eq_ok (calls : List ModelCallRecord)
    (usage : TaskTokenUsage) :
    summarizeTaskTokenUsageChecked calls = .ok usage ↔
      (calls.map (·.callId)).Nodup ∧ usage = summarizeTaskTokenUsage calls :=
  TaskTokenUsage.foldlM_addModelCall calls [] List.nodup_nil usage

/-- The incremental usage of a split ledger is the usage of the whole list. -/
def UsageAgrees (archived active : List ModelCallRecord) : Prop :=
  ∃ full, summarizeTaskTokenUsageChecked (archived ++ active) = .ok full ∧
    let totals := (splitLedger archived active).cumulativeUsage
    totals.inputTokens = full.inputTokens ∧ totals.outputTokens = full.outputTokens ∧
      totals.totalTokens = full.totalTokens ∧ totals.reasoningTokens = full.reasoningTokens ∧
      totals.cacheUsage = full.cacheUsage

/-- The token columns agree without a condition. -/
theorem columns_agree (calls : List ModelCallRecord) (column : TokenColumn) :
    column.ofTotals (TaskTokenUsageTotals.appendAll {} 0 calls) =
      column.ofTask (summarizeTaskTokenUsage calls) := by
  rw [TaskTokenUsageTotals.ofTotals_appendAll, column.ofTask_summary]
  cases column <;> rfl

/-- The cache usages agree, unless the only record has counts that its status does not report. -/
theorem cacheUsage_agrees_iff {calls : List ModelCallRecord} (hnonempty : calls ≠ [])
    (hrange : ∀ call ∈ calls, call.usage.cacheUsage.InRange) :
    (TaskTokenUsageTotals.appendAll {} 0 calls).cacheUsage = aggregateCacheUsage calls ↔
      2 ≤ calls.length ∨ ∀ call ∈ calls, call.usage.cacheUsage.Settled := by
  obtain ⟨hstatus, hcolumns⟩ := TaskTokenUsageTotals.cacheUsage_appendAll hnonempty hrange
  obtain ⟨hjoint, hsource, haggregate⟩ := aggregateCacheUsage_spec hnonempty
  have hsame (h : 2 ≤ calls.length ∨ jointStatus calls = .providerReported) :
      (TaskTokenUsageTotals.appendAll {} 0 calls).cacheUsage = aggregateCacheUsage calls := by
    apply CacheUsage.ext_columns (hstatus.trans hjoint.symm)
    · rw [hsource]
      exact TaskTokenUsageTotals.source_appendAll _ _ _ rfl
    · intro column
      rw [hcolumns column h, haggregate]
  by_cases hlength : 2 ≤ calls.length
  · exact ⟨fun _ => .inl hlength, fun _ => hsame (.inl hlength)⟩
  · obtain ⟨record, rfl⟩ : ∃ record, calls = [record] := by
      cases calls with
      | nil => exact absurd rfl hnonempty
      | cons record rest =>
          cases rest with
          | nil => exact ⟨record, rfl⟩
          | cons _ _ => simp at hlength
    have hreported : jointStatus [record] = .providerReported ↔
        record.usage.cacheUsage.status = .providerReported := by
      rw [jointStatus_eq_iff hnonempty (by decide), List.forall_mem_singleton]
    have hown (column : CacheColumn) :
        column.ofCache (TaskTokenUsageTotals.appendAll {} 0 [record]).cacheUsage =
          column.ofCache record.usage.cacheUsage := by
      rw [TaskTokenUsageTotals.cacheUsage_single]
      cases column <;> rfl
    have hone : ¬2 ≤ [record].length := hlength
    rw [or_iff_right hone, List.forall_mem_singleton]
    constructor
    · intro h
      by_cases hstatus' : record.usage.cacheUsage.status = .providerReported
      · exact .inl hstatus'
      · right
        intro column
        rw [← hown, h, haggregate, if_neg (fun hall => hstatus' (hreported.mp hall))]
    · rintro (hstatus' | hnone)
      · exact hsame (.inr (hreported.mpr hstatus'))
      · apply CacheUsage.ext_columns (hstatus.trans hjoint.symm) (hsource ▸ rfl)
        intro column
        rw [hown, hnone, haggregate]
        split
        · have hcounts : column.ofCalls [record] = [none] := by
            rw [CacheColumn.ofCalls, List.map_singleton, hnone]
          rw [hcounts]
          rfl
        · rfl

/-- The incremental usage of a ledger that is not empty, split anywhere, is the usage of the
whole list exactly when no id is repeated and the cache counts of a single record are there only
under a status that reports them. -/
theorem incremental_usage_agrees_iff (archived active : List ModelCallRecord)
    (hnonempty : archived ++ active ≠ [])
    (hrange : ∀ call ∈ archived ++ active, call.usage.cacheUsage.InRange) :
    UsageAgrees archived active ↔
      ((archived ++ active).map (·.callId)).Nodup ∧
        (2 ≤ (archived ++ active).length ∨
          ∀ call ∈ archived ++ active, call.usage.cacheUsage.Settled) := by
  simp only [UsageAgrees, summarizeTaskTokenUsageChecked_eq_ok, cumulativeUsage_splitLedger,
    ← cacheUsage_agrees_iff hnonempty hrange]
  constructor
  · rintro ⟨full, ⟨hdistinct, rfl⟩, _, _, _, _, hcache⟩
    exact ⟨hdistinct, hcache⟩
  · rintro ⟨hdistinct, hcache⟩
    have hcolumns := columns_agree (archived ++ active)
    exact ⟨_, ⟨hdistinct, rfl⟩, hcolumns .input, hcolumns .output, hcolumns .total,
      hcolumns .reasoning, hcache⟩

namespace Sample

/-- A call whose provider keeps no cache, although it reports what was read from one. -/
def uncachedCall : ModelCallRecord :=
  { wideCall "model-1" with
    usage :=
      { inputTokens := some 12
        outputTokens := some 3
        totalTokens := some 15
        usageSource := .providerReported
        cacheUsage := { status := .unsupported, readInputTokens := some 5 } } }

end Sample

/-- A ledger of three calls, one of them archived. -/
theorem incremental_usage_agrees_threeCalls :
    UsageAgrees [Sample.wideCall "model-2"] [Sample.wideCall "model-3", Sample.uncachedCall] := by
  apply (incremental_usage_agrees_iff _ _ (by simp) ?_).mpr
  · exact ⟨by decide, .inl (by decide)⟩
  · intro call hmem column count hcount
    rw [List.singleton_append, List.mem_cons, List.mem_cons, List.mem_singleton] at hmem
    rcases hmem with rfl | rfl | rfl
    · cases column <;> cases hcount
    · cases column <;> cases hcount
    · cases column <;> cases hcount
      decide

/-- The running totals keep the cache count of a single call that the summary leaves out. -/
theorem single_unsupported_call_differs :
    Sample.uncachedCall.wellFormed = true ∧ ¬UsageAgrees [] [Sample.uncachedCall] := by
  refine ⟨by decide, ?_⟩
  rintro ⟨full, hfull, _, _, _, _, hcache⟩
  cases hfull
  cases hcache

end VvAgent
