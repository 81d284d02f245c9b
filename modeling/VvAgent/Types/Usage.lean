import VvAgent.Json

/-!
Model-call accounting: the usage of one call, the ledger record of a call, and
the two ways of summing a ledger. `TaskTokenUsageTotals.append` adds one record
to a running total; `summarizeTaskTokenUsage` sums a whole list. A total is
missing as soon as one summand is, and on overflow.
-/

namespace VvAgent
open Lib.Outcome

/-- Addition of 64-bit unsigned integers, failing on overflow. -/
def checkedAdd (left right : Nat) : Option Nat :=
  if left + right < UInt64.size then some (left + right) else none

inductive UsageSource where
  | providerReported
  | estimated
  | accountingMissing
  deriving DecidableEq

inductive CacheUsageStatus where
  | providerReported
  | accountingMissing
  | unsupported
  deriving DecidableEq

structure CacheUsage where
  status : CacheUsageStatus := .accountingMissing
  readInputTokens : Option Nat := none
  writeInputTokens : Option Nat := none
  uncachedInputTokens : Option Nat := none
  source : Option String := none
  deriving DecidableEq

structure TokenUsage where
  inputTokens : Option Nat := none
  outputTokens : Option Nat := none
  totalTokens : Option Nat := none
  reasoningTokens : Option Nat := none
  usageSource : UsageSource := .accountingMissing
  cacheUsage : CacheUsage := {}
  providerUsage : JsonObject := []
  deriving DecidableEq

inductive ModelCallOperation where
  | agentCycle
  | sessionMemory
  | memoryCompaction
  deriving DecidableEq

inductive ModelCallStatus where
  | completed
  | failed
  | ambiguous
  deriving DecidableEq

structure ModelCallRecord where
  callId : String
  operationId : String
  attempt : UInt32
  operation : ModelCallOperation
  cycleIndex : UInt32
  backend : String
  model : String
  status : ModelCallStatus
  usage : TokenUsage
  errorCode : Option String
  deriving DecidableEq

namespace UsageSource

def asStr : UsageSource → String
  | .providerReported => "provider_reported"
  | .estimated => "estimated"
  | .accountingMissing => "accounting_missing"

def parse : String → Option UsageSource
  | "provider_reported" => some .providerReported
  | "estimated" => some .estimated
  | "accounting_missing" => some .accountingMissing
  | _ => none

@[simp]
theorem parse_asStr (source : UsageSource) : parse source.asStr = some source := by
  cases source <;> rfl

end UsageSource

namespace CacheUsageStatus

def asStr : CacheUsageStatus → String
  | .providerReported => "provider_reported"
  | .accountingMissing => "accounting_missing"
  | .unsupported => "unsupported"

def parse : String → Option CacheUsageStatus
  | "provider_reported" => some .providerReported
  | "accounting_missing" => some .accountingMissing
  | "unsupported" => some .unsupported
  | _ => none

@[simp]
theorem parse_asStr (status : CacheUsageStatus) :
    parse status.asStr = some status := by
  cases status <;> rfl

end CacheUsageStatus

namespace ModelCallOperation

def asStr : ModelCallOperation → String
  | .agentCycle => "agent_cycle"
  | .sessionMemory => "session_memory"
  | .memoryCompaction => "memory_compaction"

def parse : String → Option ModelCallOperation
  | "agent_cycle" => some .agentCycle
  | "session_memory" => some .sessionMemory
  | "memory_compaction" => some .memoryCompaction
  | _ => none

@[simp]
theorem parse_asStr (operation : ModelCallOperation) :
    parse operation.asStr = some operation := by
  cases operation <;> rfl

end ModelCallOperation

namespace ModelCallStatus

def asStr : ModelCallStatus → String
  | .completed => "completed"
  | .failed => "failed"
  | .ambiguous => "ambiguous"

def parse : String → Option ModelCallStatus
  | "completed" => some .completed
  | "failed" => some .failed
  | "ambiguous" => some .ambiguous
  | _ => none

@[simp]
theorem parse_asStr (status : ModelCallStatus) :
    parse status.asStr = some status := by
  cases status <;> rfl

end ModelCallStatus

namespace Json

/-- A field that must be present and holds an unsigned integer or `null`. -/
def readOptNat : Json → Option (Option Nat)
  | .null => some none
  | .num (.posInt value) => some (some value)
  | _ => none

/-- A field that must be present and holds a string or `null`. -/
def readOptStr : Json → Option (Option String)
  | .null => some none
  | .str value => some (some value)
  | _ => none

/-- An unsigned 32-bit integer. -/
def readU32 : Json → Option UInt32
  | .num (.posInt value) => if value < UInt32.size then some (UInt32.ofNat value) else none
  | _ => none

@[simp]
theorem readOptNat_optNat (value : Option Nat) :
    readOptNat (optNat value) = some value := by
  cases value <;> rfl

@[simp]
theorem readOptStr_optStr (value : Option String) :
    readOptStr (optStr value) = some value := by
  cases value <;> rfl

@[simp]
theorem readU32_nat (value : UInt32) : readU32 (nat value.toNat) = some value := by
  have hbound : value.toNat < 4294967296 := value.toNat_lt
  simp [readU32, nat, hbound]

end Json

namespace CacheUsage

def toValue (usage : CacheUsage) : Json :=
  .obj
    [("read_input_tokens", .optNat usage.readInputTokens),
      ("source", .optStr usage.source),
      ("status", .str usage.status.asStr),
      ("uncached_input_tokens", .optNat usage.uncachedInputTokens),
      ("write_input_tokens", .optNat usage.writeInputTokens)]

/-- The derived reader: exactly the fields of the record, in key order. -/
def fromValue : Json → Option CacheUsage
  | .obj
      [("read_input_tokens", read), ("source", source), ("status", .str status),
        ("uncached_input_tokens", uncached), ("write_input_tokens", write)] => do
      return {
        status := ← CacheUsageStatus.parse status
        readInputTokens := ← read.readOptNat
        writeInputTokens := ← write.readOptNat
        uncachedInputTokens := ← uncached.readOptNat
        source := ← source.readOptStr }
  | _ => none

@[simp]
theorem fromValue_toValue (usage : CacheUsage) :
    fromValue usage.toValue = some usage := by
  simp [fromValue, toValue]

end CacheUsage

namespace TokenUsage

def schemaVersion : String := "vv-agent.token-usage.v1"

def toValue (usage : TokenUsage) : Json :=
  .obj
    [("cache_usage", usage.cacheUsage.toValue),
      ("input_tokens", .optNat usage.inputTokens),
      ("output_tokens", .optNat usage.outputTokens),
      ("provider_usage", .obj usage.providerUsage),
      ("reasoning_tokens", .optNat usage.reasoningTokens),
      ("schema_version", .str schemaVersion),
      ("total_tokens", .optNat usage.totalTokens),
      ("usage_source", .str usage.usageSource.asStr)]

def fromValue : Json → Option TokenUsage
  | .obj
      [("cache_usage", cache), ("input_tokens", input), ("output_tokens", output),
        ("provider_usage", .obj provider), ("reasoning_tokens", reasoning),
        ("schema_version", .str schema), ("total_tokens", total),
        ("usage_source", .str source)] => do
      let usage : TokenUsage := {
        inputTokens := ← input.readOptNat
        outputTokens := ← output.readOptNat
        totalTokens := ← total.readOptNat
        reasoningTokens := ← reasoning.readOptNat
        usageSource := ← UsageSource.parse source
        cacheUsage := ← CacheUsage.fromValue cache
        providerUsage := provider }
      if schema = schemaVersion then some usage else none
  | _ => none

@[simp]
theorem fromValue_toValue (usage : TokenUsage) :
    fromValue usage.toValue = some usage := by
  simp [fromValue, toValue, schemaVersion]

end TokenUsage

namespace ModelCallRecord

def toValue (record : ModelCallRecord) : Json :=
  .obj
    [("attempt", .nat record.attempt.toNat),
      ("backend", .str record.backend),
      ("call_id", .str record.callId),
      ("cycle_index", .nat record.cycleIndex.toNat),
      ("error_code", .optStr record.errorCode),
      ("model", .str record.model),
      ("operation", .str record.operation.asStr),
      ("operation_id", .str record.operationId),
      ("status", .str record.status.asStr),
      ("usage", record.usage.toValue)]

/-- The conditions the reader puts on a record besides its shape. -/
def wellFormed (record : ModelCallRecord) : Bool :=
  !isBlank record.callId && !isBlank record.operationId && !isBlank record.backend &&
    !isBlank record.model && record.attempt != 0 && record.cycleIndex != 0 &&
    match record.status with
    | .completed => record.errorCode.isNone
    | .failed | .ambiguous => record.errorCode.any (!isBlank ·)

def fromValue : Json → Option ModelCallRecord
  | .obj
      [("attempt", attempt), ("backend", .str backend), ("call_id", .str callId),
        ("cycle_index", cycleIndex), ("error_code", errorCode), ("model", .str model),
        ("operation", .str operation), ("operation_id", .str operationId),
        ("status", .str status), ("usage", usage)] => do
      let record : ModelCallRecord := {
        callId, operationId, backend, model
        attempt := ← attempt.readU32
        operation := ← ModelCallOperation.parse operation
        cycleIndex := ← cycleIndex.readU32
        status := ← ModelCallStatus.parse status
        usage := ← TokenUsage.fromValue usage
        errorCode := ← errorCode.readOptStr }
      if record.wellFormed then some record else none
  | _ => none

/-- A ledger record is read back from its own JSON exactly when it is well
formed. -/
theorem fromValue_toValue (record : ModelCallRecord) (hwell : record.wellFormed = true) :
    fromValue record.toValue = some record := by
  simp [fromValue, toValue, hwell]

end ModelCallRecord

/-- The running totals of an archived ledger. -/
structure TaskTokenUsageTotals where
  inputTokens : Option Nat := some 0
  outputTokens : Option Nat := some 0
  totalTokens : Option Nat := some 0
  reasoningTokens : Option Nat := some 0
  cacheUsage : CacheUsage := { source := some "aggregate" }
  deriving DecidableEq

/-- A sum that is missing when a summand is missing or the sum overflows. -/
def addTokens (left right : Option Nat) : Option Nat := do
  checkedAdd (← left) (← right)

def TaskTokenUsageTotals.appendCache (totals cache : CacheUsage) (first : Bool) :
    CacheUsage :=
  if first then
    { cache with source := some "aggregate" }
  else if totals.status = .providerReported ∧ cache.status = .providerReported then
    { totals with
      readInputTokens := addTokens totals.readInputTokens cache.readInputTokens
      writeInputTokens := addTokens totals.writeInputTokens cache.writeInputTokens
      uncachedInputTokens :=
        addTokens totals.uncachedInputTokens cache.uncachedInputTokens }
  else
    { totals with
      status :=
        if totals.status ≠ .unsupported ∨ cache.status ≠ .unsupported then
          .accountingMissing
        else totals.status
      readInputTokens := none
      writeInputTokens := none
      uncachedInputTokens := none }

/-- Add one record to the running totals; `first` marks the first record. -/
def TaskTokenUsageTotals.append (totals : TaskTokenUsageTotals)
    (record : ModelCallRecord) (first : Bool) : TaskTokenUsageTotals where
  inputTokens := addTokens totals.inputTokens record.usage.inputTokens
  outputTokens := addTokens totals.outputTokens record.usage.outputTokens
  totalTokens := addTokens totals.totalTokens record.usage.totalTokens
  reasoningTokens := addTokens totals.reasoningTokens record.usage.reasoningTokens
  cacheUsage := appendCache totals.cacheUsage record.usage.cacheUsage first

/-- A ledger with its sums. -/
structure TaskTokenUsage where
  inputTokens : Option Nat := some 0
  outputTokens : Option Nat := some 0
  totalTokens : Option Nat := some 0
  reasoningTokens : Option Nat := some 0
  cacheUsage : CacheUsage := { source := some "aggregate" }
  modelCalls : List ModelCallRecord := []
  deriving DecidableEq

/-- The sum of one column of a ledger. -/
def completeSum (modelCalls : List ModelCallRecord) (read : TokenUsage → Option Nat) :
    Option Nat :=
  modelCalls.foldlM (fun total call => do checkedAdd total (← read call.usage)) 0

def aggregateCacheUsage (modelCalls : List ModelCallRecord) : CacheUsage :=
  if modelCalls.isEmpty then
    { source := some "aggregate" }
  else
    let status : CacheUsageStatus :=
      if modelCalls.all (fun call =>
          call.usage.cacheUsage.status = CacheUsageStatus.providerReported) then
        .providerReported
      else if modelCalls.all (fun call =>
          call.usage.cacheUsage.status = CacheUsageStatus.unsupported) then
        .unsupported
      else .accountingMissing
    let sum (read : CacheUsage → Option Nat) : Option Nat :=
      if status = .providerReported then
        completeSum modelCalls (fun usage => read usage.cacheUsage)
      else none
    { status
      readInputTokens := sum (·.readInputTokens)
      writeInputTokens := sum (·.writeInputTokens)
      uncachedInputTokens := sum (·.uncachedInputTokens)
      source := some "aggregate" }

/-- `summarize_task_token_usage` on a ledger without repeated call ids. -/
def summarizeTaskTokenUsage (modelCalls : List ModelCallRecord) : TaskTokenUsage where
  inputTokens := completeSum modelCalls (·.inputTokens)
  outputTokens := completeSum modelCalls (·.outputTokens)
  totalTokens := completeSum modelCalls (·.totalTokens)
  reasoningTokens := completeSum modelCalls (·.reasoningTokens)
  cacheUsage := aggregateCacheUsage modelCalls
  modelCalls := modelCalls

def TaskTokenUsage.toValue (usage : TaskTokenUsage) : Json :=
  .obj
    [("cache_usage", usage.cacheUsage.toValue),
      ("input_tokens", .optNat usage.inputTokens),
      ("model_calls", .arr (usage.modelCalls.map ModelCallRecord.toValue)),
      ("output_tokens", .optNat usage.outputTokens),
      ("reasoning_tokens", .optNat usage.reasoningTokens),
      ("schema_version", .str "vv-agent.task-token-usage.v2"),
      ("total_tokens", .optNat usage.totalTokens)]

/-- What the reader of a task usage requires: readable records with distinct
call ids, and sums that match the records. -/
def TaskTokenUsage.wellFormed (usage : TaskTokenUsage) : Bool :=
  usage.modelCalls.all (·.wellFormed) &&
    (usage.modelCalls.map (·.callId)).Nodup &&
    usage == summarizeTaskTokenUsage usage.modelCalls

end VvAgent
