import VvAgent.Lib.Sums
import VvAgent.Types.Dictionaries
import Mathlib.Data.List.Induction

/-!
The two ways of summing a ledger, column by column. Each of the four token columns is a
running sum in both, so both give the exact total as long as every record reports the column
and the total stays below the range of 64-bit integers. The cache usage is a running sum as
well, but only of records that all report it.
-/

namespace VvAgent
open Lib Lib.Outcome

/-- A column of token counts. -/
inductive TokenColumn where
  | input
  | output
  | total
  | reasoning
  deriving DecidableEq

namespace TokenColumn

def ofUsage : TokenColumn → TokenUsage → Option Nat
  | .input, usage => usage.inputTokens
  | .output, usage => usage.outputTokens
  | .total, usage => usage.totalTokens
  | .reasoning, usage => usage.reasoningTokens

def ofTotals : TokenColumn → TaskTokenUsageTotals → Option Nat
  | .input, totals => totals.inputTokens
  | .output, totals => totals.outputTokens
  | .total, totals => totals.totalTokens
  | .reasoning, totals => totals.reasoningTokens

def ofTask : TokenColumn → TaskTokenUsage → Option Nat
  | .input, usage => usage.inputTokens
  | .output, usage => usage.outputTokens
  | .total, usage => usage.totalTokens
  | .reasoning, usage => usage.reasoningTokens

/-- The counts of a column, record by record. -/
def ofCalls (column : TokenColumn) (calls : List ModelCallRecord) : List (Option Nat) :=
  calls.map fun call => column.ofUsage call.usage

end TokenColumn

/-- A column of cache counts. -/
inductive CacheColumn where
  | read
  | write
  | uncached
  deriving DecidableEq

namespace CacheColumn

def ofCache : CacheColumn → CacheUsage → Option Nat
  | .read, cache => cache.readInputTokens
  | .write, cache => cache.writeInputTokens
  | .uncached, cache => cache.uncachedInputTokens

def ofCalls (column : CacheColumn) (calls : List ModelCallRecord) : List (Option Nat) :=
  calls.map fun call => column.ofCache call.usage.cacheUsage

end CacheColumn

/-- Two cache usages agree when their status, their source and their counts do. -/
theorem CacheUsage.ext_columns {left right : CacheUsage} (hstatus : left.status = right.status)
    (hsource : left.source = right.source)
    (hcolumns : ∀ column : CacheColumn, column.ofCache left = column.ofCache right) :
    left = right := by
  have hread := hcolumns .read
  have hwrite := hcolumns .write
  have huncached := hcolumns .uncached
  cases left
  cases right
  simp only [CacheColumn.ofCache] at hread hwrite huncached
  simp_all

/-- Summing a column with an early exit is the running sum of the column. -/
theorem completeSum_eq (calls : List ModelCallRecord) (read : TokenUsage → Option Nat) :
    completeSum calls read = sumBelow UInt64.size (some 0) (calls.map fun call => read call.usage) := by
  have hstep (start : Nat) :
      calls.foldlM (fun total call => do checkedAdd total (← read call.usage)) start =
        sumBelow UInt64.size (some start) (calls.map fun call => read call.usage) := by
    induction calls generalizing start with
    | nil => rfl
    | cons call rest ih =>
        rw [List.foldlM_cons, List.map_cons, sumBelow_cons]
        change (addBelow UInt64.size (some start) (read call.usage)).bind _ = _
        cases addBelow UInt64.size (some start) (read call.usage) with
        | none => rw [sumBelow_none]; rfl
        | some next => exact ih next
  exact hstep 0

theorem TokenColumn.ofTask_summary (column : TokenColumn) (calls : List ModelCallRecord) :
    column.ofTask (summarizeTaskTokenUsage calls) =
      sumBelow UInt64.size (some 0) (column.ofCalls calls) := by
  cases column <;> exact completeSum_eq calls _

theorem TokenColumn.ofTotals_append (column : TokenColumn) (totals : TaskTokenUsageTotals)
    (record : ModelCallRecord) (first : Bool) :
    column.ofTotals (totals.append record first) =
      addBelow UInt64.size (column.ofTotals totals) (column.ofUsage record.usage) := by
  cases column <;> rfl

/-- Adding records to running totals, where `count` records came before: only the very first
record is marked. -/
def TaskTokenUsageTotals.appendAll (totals : TaskTokenUsageTotals) (count : Nat) :
    List ModelCallRecord → TaskTokenUsageTotals
  | [] => totals
  | record :: rest => (totals.append record (count == 0)).appendAll (count + 1) rest

namespace TaskTokenUsageTotals

theorem appendAll_append (totals : TaskTokenUsageTotals) (count : Nat)
    (earlier later : List ModelCallRecord) :
    totals.appendAll count (earlier ++ later) =
      (totals.appendAll count earlier).appendAll (count + earlier.length) later := by
  induction earlier generalizing totals count with
  | nil => rfl
  | cons record rest ih =>
      rw [List.cons_append, appendAll, ih, appendAll, List.length_cons]
      congr 1
      omega

theorem ofTotals_appendAll (column : TokenColumn) (totals : TaskTokenUsageTotals) (count : Nat)
    (calls : List ModelCallRecord) :
    column.ofTotals (totals.appendAll count calls) =
      sumBelow UInt64.size (column.ofTotals totals) (column.ofCalls calls) := by
  induction calls generalizing totals count with
  | nil => rfl
  | cons record rest ih =>
      rw [appendAll, ih, column.ofTotals_append]
      rfl

/-- The source of the cache totals stays as it is. -/
theorem source_appendAll (totals : TaskTokenUsageTotals) (count : Nat)
    (calls : List ModelCallRecord) (h : totals.cacheUsage.source = some "aggregate") :
    (totals.appendAll count calls).cacheUsage.source = some "aggregate" := by
  induction calls generalizing totals count with
  | nil => exact h
  | cons record rest ih =>
      apply ih
      simp only [append, appendCache]
      split
      · rfl
      · split
        · exact h
        · exact h

end TaskTokenUsageTotals

/-! ### Cache usage -/

/-- The joint status of a list of cache usages. -/
def jointStatus (calls : List ModelCallRecord) : CacheUsageStatus :=
  if calls.all (fun call => call.usage.cacheUsage.status = .providerReported) then
    .providerReported
  else if calls.all (fun call => call.usage.cacheUsage.status = .unsupported) then .unsupported
  else .accountingMissing

/-- The cache usage of a ledger that is not empty. -/
theorem aggregateCacheUsage_spec {calls : List ModelCallRecord} (hnonempty : calls ≠ []) :
    (aggregateCacheUsage calls).status = jointStatus calls ∧
      (aggregateCacheUsage calls).source = some "aggregate" ∧
      ∀ column : CacheColumn, column.ofCache (aggregateCacheUsage calls) =
        if jointStatus calls = .providerReported then
          sumBelow UInt64.size (some 0) (column.ofCalls calls)
        else none := by
  have hempty : calls.isEmpty = false := by
    cases calls with
    | nil => exact absurd rfl hnonempty
    | cons _ _ => rfl
  refine ⟨?_, ?_, ?_⟩
  · simp only [aggregateCacheUsage, hempty, Bool.false_eq_true, if_false, jointStatus]
  · simp only [aggregateCacheUsage, hempty, Bool.false_eq_true, if_false]
  · intro column
    simp only [aggregateCacheUsage, hempty, Bool.false_eq_true, if_false, completeSum_eq,
      jointStatus]
    cases column <;> rfl

/-- A status other than the missing one is the joint status when every record has it. -/
theorem jointStatus_eq_iff {calls : List ModelCallRecord} (hnonempty : calls ≠ [])
    {status : CacheUsageStatus} (hknown : status ≠ .accountingMissing) :
    jointStatus calls = status ↔ ∀ call ∈ calls, call.usage.cacheUsage.status = status := by
  obtain ⟨first, rest, rfl⟩ := List.exists_cons_of_ne_nil hnonempty
  unfold jointStatus
  constructor
  · intro h
    split at h
    · rename_i hall
      subst h
      simpa using hall
    · split at h
      · rename_i hall
        subst h
        simpa using hall
      · exact absurd h.symm hknown
  · intro h
    have hall : ((first :: rest).all fun call => call.usage.cacheUsage.status = status) = true := by
      simpa using h
    cases status with
    | providerReported => rw [if_pos hall]
    | unsupported =>
        have hfirst := h first List.mem_cons_self
        rw [if_neg (by simp [hfirst]), if_pos hall]
    | accountingMissing => exact absurd rfl hknown

/-- Statuses are told apart by the ones that say something. -/
theorem status_eq_of_known {left right : CacheUsageStatus}
    (h : ∀ status, status ≠ .accountingMissing → (left = status ↔ right = status)) :
    left = right := by
  cases left with
  | providerReported => exact ((h .providerReported (by decide)).mp rfl).symm
  | unsupported => exact ((h .unsupported (by decide)).mp rfl).symm
  | accountingMissing =>
      cases right with
      | providerReported => exact (h .providerReported (by decide)).mpr rfl
      | unsupported => exact (h .unsupported (by decide)).mpr rfl
      | accountingMissing => rfl

/-- One more record joins the records before it. -/
theorem jointStatus_concat {calls : List ModelCallRecord} (hnonempty : calls ≠ [])
    (record : ModelCallRecord) :
    jointStatus (calls ++ [record]) =
      if jointStatus calls = record.usage.cacheUsage.status then jointStatus calls
      else .accountingMissing := by
  apply status_eq_of_known
  intro status hknown
  rw [jointStatus_eq_iff (by simp) hknown, List.forall_mem_append,
    ← jointStatus_eq_iff hnonempty hknown, List.forall_mem_singleton]
  constructor
  · rintro ⟨hcalls, hrecord⟩
    rw [hcalls, hrecord, if_pos rfl]
  · intro h
    split at h
    · rename_i hsame
      exact ⟨h, hsame ▸ h⟩
    · exact absurd h.symm hknown

/-- A later record joins the running status. -/
theorem appendCache_status (totals cache : CacheUsage) :
    (TaskTokenUsageTotals.appendCache totals cache false).status =
      if totals.status = cache.status then totals.status else .accountingMissing := by
  unfold TaskTokenUsageTotals.appendCache
  cases totals.status <;> cases cache.status <;> rfl

/-- A later record is added to the running counts, as long as both are reported. -/
theorem appendCache_column (totals cache : CacheUsage) (column : CacheColumn) :
    column.ofCache (TaskTokenUsageTotals.appendCache totals cache false) =
      if totals.status = .providerReported ∧ cache.status = .providerReported then
        addBelow UInt64.size (column.ofCache totals) (column.ofCache cache)
      else none := by
  unfold TaskTokenUsageTotals.appendCache
  cases totals.status <;> cases cache.status <;> cases column <;> rfl

/-- Whether the cache counts of a record are there only under a status that reports them. -/
def CacheUsage.Settled (cache : CacheUsage) : Prop :=
  cache.status = .providerReported ∨ ∀ column : CacheColumn, column.ofCache cache = none

/-- The counts of a record are 64-bit integers. -/
def CacheUsage.InRange (cache : CacheUsage) : Prop :=
  ∀ (column : CacheColumn) (count : Nat), column.ofCache cache = some count → count < UInt64.size

namespace TaskTokenUsageTotals

/-- The running cache usage of a single record is the record's own. -/
theorem cacheUsage_single (record : ModelCallRecord) :
    (TaskTokenUsageTotals.appendAll {} 0 [record]).cacheUsage =
      { record.usage.cacheUsage with source := some "aggregate" } := rfl

/-- The running cache usage of several records, with its status and its counts. -/
theorem cacheUsage_appendAll {calls : List ModelCallRecord} (hnonempty : calls ≠ [])
    (hrange : ∀ call ∈ calls, call.usage.cacheUsage.InRange) :
    (TaskTokenUsageTotals.appendAll {} 0 calls).cacheUsage.status = jointStatus calls ∧
      ∀ column : CacheColumn, (2 ≤ calls.length ∨ jointStatus calls = .providerReported) →
        column.ofCache (TaskTokenUsageTotals.appendAll {} 0 calls).cacheUsage =
          if jointStatus calls = .providerReported then
            sumBelow UInt64.size (some 0) (column.ofCalls calls)
          else none := by
  induction calls using List.reverseRecOn with
  | nil => exact absurd rfl hnonempty
  | append_singleton earlier record ih =>
      cases hearlier : earlier with
      | nil =>
          have hjoint : jointStatus [record] = record.usage.cacheUsage.status := by
            apply status_eq_of_known
            intro status hknown
            rw [jointStatus_eq_iff (by simp) hknown, List.forall_mem_singleton]
          refine ⟨hjoint.symm, ?_⟩
          rintro column (hlength | hreported)
          · simp at hlength
          · rw [List.nil_append] at hreported ⊢
            rw [if_pos hreported, cacheUsage_single]
            have hcount := hrange record (by simp) column
            change column.ofCache { record.usage.cacheUsage with source := some "aggregate" } =
              addBelow UInt64.size (some 0) (column.ofCache record.usage.cacheUsage)
            have hsame : column.ofCache
                { record.usage.cacheUsage with source := some "aggregate" } =
                column.ofCache record.usage.cacheUsage := by
              cases column <;> rfl
            rw [hsame]
            cases hvalue : column.ofCache record.usage.cacheUsage with
            | none => rfl
            | some count =>
                symm
                apply addBelow_eq_some_iff.mpr
                exact ⟨0, count, rfl, rfl, (Nat.zero_add count).symm, hcount count hvalue⟩
      | cons first rest =>
          rw [← hearlier]
          have hsome : earlier ≠ [] := by simp [hearlier]
          obtain ⟨hstatus, hcolumns⟩ := ih hsome fun call hmem =>
            hrange call (List.mem_append_left _ hmem)
          have hstep : (TaskTokenUsageTotals.appendAll {} 0 (earlier ++ [record])).cacheUsage =
              appendCache (TaskTokenUsageTotals.appendAll {} 0 earlier).cacheUsage
                record.usage.cacheUsage false := by
            rw [appendAll_append, hearlier]
            rfl
          rw [hstep, appendCache_status, hstatus, jointStatus_concat hsome]
          refine ⟨rfl, fun column _ => ?_⟩
          rw [appendCache_column, hstatus]
          by_cases hboth : jointStatus earlier = .providerReported ∧
              record.usage.cacheUsage.status = .providerReported
          · rw [if_pos hboth, hboth.1, hboth.2, if_pos rfl, if_pos rfl,
              hcolumns column (.inr hboth.1), if_pos hboth.1, CacheColumn.ofCalls,
              CacheColumn.ofCalls, List.map_append, sumBelow_append]
            rfl
          · rw [if_neg hboth, if_neg]
            intro hjoint
            apply hboth
            split at hjoint
            · rename_i hsame
              exact ⟨hjoint, hsame ▸ hjoint⟩
            · cases hjoint

end TaskTokenUsageTotals

end VvAgent
