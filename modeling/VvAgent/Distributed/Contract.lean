import Mathlib.Algebra.Group.Nat.Defs
import Mathlib.Data.List.Lex
import VvAgent.Checkpoint.Validation

/-!
What a distributed run sends between its driver and its workers: the envelope of one cycle,
with the recipe of the runtime that is to execute it, and the response of a worker. Both are
checked before they are used, and both checks are here. A floating-point setting is kept as
the rational it denotes, and as `none` when it is not finite.
-/

namespace VvAgent
open Lib Lib.Outcome

abbrev DistributedResult := Except String

/-- An error of the checkpoint layer, as its text. -/
def reported {α : Type} (outcome : CheckpointResult α) : DistributedResult α :=
  outcome.mapError CheckpointError.display

@[simp]
theorem reported_eq_ok {α : Type} (outcome : CheckpointResult α) (a : α) :
    reported outcome = .ok a ↔ outcome = .ok a := by
  cases outcome <;> simp [reported, Except.mapError]

/-- The text check of the contract; the checkpoint layer has its own. -/
def requireText (value fieldName : String) : DistributedResult Unit :=
  refuse (isBlank value) (fieldName ++ " must be a non-empty string")

def CapabilityRef.validate (reference : CapabilityRef) (fieldName : String) :
    DistributedResult Unit := do
  requireText reference.id (fieldName ++ ".id")
  requireText reference.version (fieldName ++ ".version")

structure ToolsetRef where
  id : String
  version : String
  schemaDigest : String
  deriving DecidableEq

def ToolsetRef.validate (reference : ToolsetRef) : DistributedResult Unit := do
  CapabilityRef.validate ⟨reference.id, reference.version⟩ "toolset_ref"
  refuse (!isSha256 reference.schemaDigest)
    "toolset_ref.schema_digest must be a lowercase SHA-256 hex digest"

inductive ToolSideEffect where
  | unknown | none | read | write | execute | network | external
  deriving DecidableEq

def ToolSideEffect.asStr : ToolSideEffect → String
  | .unknown => "unknown"
  | .none => "none"
  | .read => "read"
  | .write => "write"
  | .execute => "execute"
  | .network => "network"
  | .external => "external"

def ToolSideEffect.parse (text : String) : Option ToolSideEffect :=
  [.unknown, .none, .read, .write, .execute, .network, .external].find? (·.asStr == text)

/-- The UTF-16 code units of a character. -/
def utf16Units (c : Char) : List Nat :=
  if c.toNat < 0x10000 then [c.toNat]
  else [0xD800 + (c.toNat - 0x10000) / 0x400, 0xDC00 + (c.toNat - 0x10000) % 0x400]

/-- The order of texts by their UTF-16 code units. -/
def utf16Le (left right : String) : Bool :=
  decide (left.toList.flatMap utf16Units ≤ right.toList.flatMap utf16Units)

/-- Repeated neighbours are kept once, as `Vec::dedup` does. -/
def dedupNeighbours {α : Type} [DecidableEq α] : List α → List α
  | first :: second :: rest =>
      if first = second then dedupNeighbours (second :: rest)
      else first :: dedupNeighbours (second :: rest)
  | short => short

def maxToolMetadataLabels : Nat := 32

def maxToolMetadataLabelCodePoints : Nat := 128

def trimMetadataWhitespace (value : String) : String :=
  let blank (c : Char) : Bool := c == '\t' || c == '\n' || c == '\r' || c == ' '
  String.ofList (((value.toList.dropWhile blank).reverse.dropWhile blank).reverse)

def normalizeToolMetadataLabels (values : List String) (fieldName : String) :
    DistributedResult (List String) := do
  let labels := values.map trimMetadataWhitespace
  checkAll
    (fun label : String => do
      refuse (label == "") (fieldName ++ " cannot contain a blank label")
      refuse (maxToolMetadataLabelCodePoints < label.length)
        (fieldName ++ " labels cannot exceed " ++ toString maxToolMetadataLabelCodePoints ++
          " Unicode code points"))
    labels
  let normalized := dedupNeighbours (labels.mergeSort utf16Le)
  refuse (maxToolMetadataLabels < normalized.length)
    (fieldName ++ " cannot contain more than " ++ toString maxToolMetadataLabels ++ " labels")
  return normalized

/-- The part of a tool policy that denies tools by their metadata. -/
structure MetadataDenials where
  deniedSideEffects : List ToolSideEffect := []
  deniedCapabilityTags : List String := []
  denyTerminalTools : Bool := false
  deniedCostDimensions : List String := []
  deriving DecidableEq

def MetadataDenials.normalized (denials : MetadataDenials) :
    DistributedResult MetadataDenials := do
  let deniedCapabilityTags ←
    normalizeToolMetadataLabels denials.deniedCapabilityTags "denied_capability_tags"
  let deniedCostDimensions ←
    normalizeToolMetadataLabels denials.deniedCostDimensions "denied_cost_dimensions"
  return {
    deniedSideEffects := dedupNeighbours
      (denials.deniedSideEffects.mergeSort fun left right => utf16Le left.asStr right.asStr)
    deniedCapabilityTags
    denyTerminalTools := denials.denyTerminalTools
    deniedCostDimensions }

structure DistributedToolPolicy where
  allowedTools : Option (List String) := none
  disallowedTools : List String := []
  approval : String := "default"
  predicateRef : Option CapabilityRef := none
  metadataDenials : MetadataDenials := {}
  deriving DecidableEq

def DistributedToolPolicy.validate (policy : DistributedToolPolicy) : DistributedResult Unit := do
  refuse (!(["default", "always", "never", "on_request"].contains policy.approval))
    "tool_policy.approval is unsupported"
  refuse (policy.allowedTools.any (·.any isBlank))
    "tool_policy.allowed_tools must contain non-empty strings"
  refuse (policy.disallowedTools.any isBlank)
    "tool_policy.disallowed_tools must contain non-empty strings"
  checkAll (·.validate "tool_policy.predicate_ref") policy.predicateRef.toList
  let _ ← policy.metadataDenials.normalized

structure DistributedCheckpointExtensionRef where
  extensionNamespace : String
  reference : CapabilityRef
  required : Bool := false
  deriving DecidableEq

section
variable [Platform]

def DistributedCheckpointExtensionRef.validate (reference : DistributedCheckpointExtensionRef) :
    DistributedResult Unit := do
  reported (validateExtensionNamespace reference.extensionNamespace)
  reference.reference.validate "checkpoint_extension_ref.reference"

structure DistributedCapabilities where
  toolsetRef : ToolsetRef
  toolPolicy : DistributedToolPolicy := {}
  llmClientRef : Option CapabilityRef := none
  workspaceBackendRef : Option CapabilityRef := none
  approvalProviderRef : Option CapabilityRef := none
  approvalBrokerRef : Option CapabilityRef := none
  approvalTimeoutSeconds : Option (Option Rat) := none
  cancellationRef : Option CapabilityRef := none
  eventSinkRef : Option CapabilityRef := none
  hostCostMeterRef : Option CapabilityRef := none
  appStateRef : Option CapabilityRef := none
  subTaskManagerRef : Option CapabilityRef := none
  memoryProviderRefs : List CapabilityRef := []
  hookRefs : List CapabilityRef := []
  afterCycleHookRefs : List CapabilityRef := []
  observerRefs : List CapabilityRef := []
  checkpointStoreRef : Option CapabilityRef := none
  checkpointEventStoreRef : Option CapabilityRef := none
  checkpointExtensionRefs : List DistributedCheckpointExtensionRef := []
  reconciliationProviderRef : Option CapabilityRef := none
  deriving DecidableEq

namespace DistributedCapabilities

def optionalRefs (capabilities : DistributedCapabilities) : List (String × Option CapabilityRef) :=
  [("llm_client_ref", capabilities.llmClientRef),
    ("workspace_backend_ref", capabilities.workspaceBackendRef),
    ("approval_provider_ref", capabilities.approvalProviderRef),
    ("approval_broker_ref", capabilities.approvalBrokerRef),
    ("cancellation_ref", capabilities.cancellationRef),
    ("event_sink_ref", capabilities.eventSinkRef),
    ("host_cost_meter_ref", capabilities.hostCostMeterRef),
    ("app_state_ref", capabilities.appStateRef),
    ("sub_task_manager_ref", capabilities.subTaskManagerRef),
    ("checkpoint_store_ref", capabilities.checkpointStoreRef),
    ("checkpoint_event_store_ref", capabilities.checkpointEventStoreRef),
    ("reconciliation_provider_ref", capabilities.reconciliationProviderRef)]

def listedRefs (capabilities : DistributedCapabilities) : List (String × List CapabilityRef) :=
  [("memory_provider_refs", capabilities.memoryProviderRefs),
    ("hook_refs", capabilities.hookRefs),
    ("after_cycle_hook_refs", capabilities.afterCycleHookRefs),
    ("observer_refs", capabilities.observerRefs)]

/-- Every extension reference is well formed, and no namespace occurs twice. -/
def validateExtensionRefs (seen : List String) :
    List DistributedCheckpointExtensionRef → DistributedResult Unit
  | [] => .ok ()
  | reference :: rest => do
      reference.validate
      refuse (seen.contains reference.extensionNamespace)
        ("duplicate checkpoint extension namespace " ++ reference.extensionNamespace)
      validateExtensionRefs (reference.extensionNamespace :: seen) rest

def validate (capabilities : DistributedCapabilities) : DistributedResult Unit := do
  capabilities.toolsetRef.validate
  capabilities.toolPolicy.validate
  refuse (capabilities.approvalProviderRef.isSome != capabilities.approvalBrokerRef.isSome)
    "approval_provider_ref and approval_broker_ref must be declared together"
  refuse (capabilities.approvalTimeoutSeconds.any fun seconds => !seconds.any (0 < ·))
    "approval_timeout_seconds must be a finite positive number or null"
  checkAll
    (fun field : String × Option CapabilityRef => checkAll (·.validate field.1) field.2.toList)
    capabilities.optionalRefs
  checkAll
    (fun field : String × List CapabilityRef =>
      checkAll
        (fun entry : CapabilityRef × Nat =>
          entry.1.validate ("capabilities." ++ field.1 ++ "[" ++ toString entry.2 ++ "]"))
        field.2.zipIdx)
    capabilities.listedRefs
  validateExtensionRefs [] capabilities.checkpointExtensionRefs

end DistributedCapabilities

structure RuntimeRecipe where
  settingsFile : String
  backend : String
  model : String
  workspace : String
  timeoutSeconds : Option Rat := some 90
  capabilities : DistributedCapabilities
  deriving DecidableEq

namespace RuntimeRecipe

def validate (recipe : RuntimeRecipe) : DistributedResult Unit := do
  refuse (recipe.capabilities.llmClientRef.isNone && isBlank recipe.settingsFile)
    "runtime_recipe.settings_file must be non-blank without llm_client_ref"
  checkAll (fun field : String × String => requireText field.2 ("runtime_recipe." ++ field.1))
    [("backend", recipe.backend), ("model", recipe.model), ("workspace", recipe.workspace)]
  refuse (!recipe.timeoutSeconds.any (0 < ·))
    "runtime_recipe.timeout_seconds must be a finite positive number"
  recipe.capabilities.validate

/-- A recipe whose tool calls wait for a brokered approval. -/
def brokersApprovals (recipe : RuntimeRecipe) : Bool :=
  recipe.capabilities.approvalProviderRef.isSome || recipe.capabilities.approvalBrokerRef.isSome

def setMetadataDenials (recipe : RuntimeRecipe) (denials : MetadataDenials) : RuntimeRecipe :=
  { recipe with capabilities.toolPolicy.metadataDenials := denials }

end RuntimeRecipe

/-- What the distributed contract reads of a task. -/
structure AgentTask where
  taskId : String
  maxCycles : UInt32
  metadata : JsonObject := []
  deriving DecidableEq

/-- A list of texts, as the metadata of a task holds it. -/
def projectedStringList (task : AgentTask) (key : String) : DistributedResult (List String) :=
  match task.metadata.lookup key with
  | none => .ok []
  | some value => require (do (← value.asArray?).mapM Json.asStr?) ("invalid projected " ++ key)

def projectedMetadataDenials (task : AgentTask) : DistributedResult MetadataDenials := do
  let deniedSideEffects ←
    match task.metadata.lookup "_vv_agent_denied_side_effects" with
    | none => .ok []
    | some value =>
        require
          (do (← value.asArray?).mapM fun item => do ToolSideEffect.parse (← item.asStr?))
          "invalid projected denied_side_effects"
  let deniedCapabilityTags ← projectedStringList task "_vv_agent_denied_capability_tags"
  let denyTerminalTools ←
    match task.metadata.lookup "_vv_agent_deny_terminal_tools" with
    | none => .ok false
    | some (.bool value) => .ok value
    | some _ => .error "invalid projected deny_terminal_tools"
  let deniedCostDimensions ← projectedStringList task "_vv_agent_denied_cost_dimensions"
  MetadataDenials.normalized
    { deniedSideEffects, deniedCapabilityTags, denyTerminalTools, deniedCostDimensions }

inductive AmbiguousModelPolicy where
  | requireReconciliation | retryWithDuplicateRisk
  deriving DecidableEq

inductive AmbiguousToolPolicy where
  | requireReconciliation | retryIdempotentOnly | surfaceToModel
  deriving DecidableEq

structure DistributedCheckpointConfig where
  key : String
  ambiguousModelPolicy : AmbiguousModelPolicy := .retryWithDuplicateRisk
  ambiguousToolPolicy : AmbiguousToolPolicy := .surfaceToModel
  requiredExtensionNamespaces : List String := []
  maxExtensionStateBytes : Nat
  credentialSlots : List String := []
  deriving DecidableEq

/-- An RFC 6901 pointer: empty, or a path in which `~` is followed by `0` or `1`. -/
def escapesWell : List Char → Bool
  | '~' :: next :: rest => (next == '0' || next == '1') && escapesWell rest
  | ['~'] => false
  | _ :: rest => escapesWell rest
  | [] => true

def validateJsonPointer (pointer : String) : DistributedResult Unit :=
  refuse (pointer != "" && !(pointer.toList.head? == some '/' && escapesWell pointer.toList))
    "credential_slots must contain RFC 6901 JSON pointers"

def DistributedCheckpointConfig.validate (config : DistributedCheckpointConfig) :
    DistributedResult Unit := do
  reported (validateCheckpointKey config.key)
  refuse (maxWireInteger < config.maxExtensionStateBytes)
    ("max_extension_state_bytes must be between 0 and " ++ toString maxWireInteger)
  checkAll (fun name => reported (validateExtensionNamespace name))
    config.requiredExtensionNamespaces
  let namespaces := config.requiredExtensionNamespaces
  refuse ((namespaces.zip namespaces.tail).any fun pair => decide (pair.2 ≤ pair.1))
    "required_extension_namespaces must be sorted and unique"
  checkAll validateJsonPointer config.credentialSlots
  refuse
    ((config.credentialSlots.zip config.credentialSlots.tail).any fun pair =>
      utf16Le pair.2 pair.1)
    "credential_slots must be sorted and unique"

def distributedRunSchemaVersion : String := "vv-agent.distributed-run.v5"

structure DistributedRunEnvelope where
  schemaVersion : String := distributedRunSchemaVersion
  jobId : String
  runId : String
  task : AgentTask
  budgetLimits : Option RunBudgetLimits := none
  recipe : RuntimeRecipe
  cycleName : String
  cycleIndex : UInt32
  idempotencyKey : String
  deadlineUnixMs : Option Nat
  leaseDurationMs : Nat
  rootRunId : String
  traceId : String
  runDefinitionSchema : String := VvAgent.runDefinitionSchema
  runDefinitionDigest : String
  claimMode : ClaimMode
  resumeAttempt : Nat
  checkpointConfig : DistributedCheckpointConfig

namespace DistributedRunEnvelope

def validateCurrentFields (envelope : DistributedRunEnvelope) : DistributedResult Unit := do
  requireText envelope.rootRunId "distributed envelope root_run_id"
  requireText envelope.traceId "distributed envelope trace_id"
  refuse (envelope.runDefinitionSchema != VvAgent.runDefinitionSchema)
    "checkpoint_definition_schema_unsupported"
  reported (validateSha256 envelope.runDefinitionDigest "run_definition_digest")
  refuse (envelope.resumeAttempt == 0 || maxWireInteger < envelope.resumeAttempt)
    "checkpoint_resume_attempt_invalid"
  envelope.checkpointConfig.validate
  refuse envelope.recipe.capabilities.checkpointStoreRef.isNone
    "distributed run requires checkpoint_store_ref"
  checkAll
    (fun name : String =>
      refuse
        (!envelope.recipe.capabilities.checkpointExtensionRefs.any fun reference =>
          reference.extensionNamespace == name && reference.required)
        ("required checkpoint extension " ++ name ++ " is unavailable"))
    envelope.checkpointConfig.requiredExtensionNamespaces
  refuse
    (envelope.deadlineUnixMs.any (maxWireInteger < ·) ||
      decide (maxWireInteger < envelope.leaseDurationMs))
    "distributed lease values must be JSON-safe integers"

def validate (envelope : DistributedRunEnvelope) : DistributedResult Unit := do
  refuse (envelope.schemaVersion != distributedRunSchemaVersion)
    ("unsupported distributed schema_version: " ++ envelope.schemaVersion)
  envelope.validateCurrentFields
  checkAll
    (fun field : String × String => requireText field.2 ("distributed envelope " ++ field.1))
    [("job_id", envelope.jobId), ("run_id", envelope.runId), ("cycle_name", envelope.cycleName),
      ("idempotency_key", envelope.idempotencyKey)]
  refuse (envelope.cycleIndex == 0)
    "distributed envelope cycle_index must be between 1 and 4294967295"
  refuse (envelope.leaseDurationMs == 0)
    "distributed envelope lease_duration_ms must be a positive integer"
  envelope.recipe.validate
  checkAll RunBudgetLimits.validate envelope.budgetLimits.toList

/-- The run id of an envelope: the one given, the one in the task's metadata, or the id of
the task. -/
def effectiveRunId (runId : Option String) (task : AgentTask) : String :=
  let given := runId.filter (!isBlank ·)
  let fromMetadata :=
    (task.metadata.lookup "_vv_agent_run_id" >>= Json.asStr?).filter (!isBlank ·)
  (given <|> fromMetadata).getD task.taskId

def ensureNotExpiredAt (envelope : DistributedRunEnvelope) (nowMs : Nat) :
    DistributedResult Unit :=
  refuse (envelope.deadlineUnixMs.any (· ≤ nowMs))
    ("distributed job " ++ envelope.jobId ++ " deadline has expired")

end DistributedRunEnvelope

def jsonSafeIntegerMax : Nat := 2 ^ 53 - 1

def validateDispatchInteger (value : Nat) (field : String) : DistributedResult Unit :=
  refuse (jsonSafeIntegerMax < value) (field ++ " must be a JSON-safe unsigned integer")

def validatePositiveDispatchInteger (value : Nat) (field : String) : DistributedResult Unit := do
  validateDispatchInteger value field
  refuse (value == 0) (field ++ " must be a positive JSON-safe integer")

def invalidAgentResult : String :=
  "distributed worker response result must be a complete current AgentResult"

/-- The response of a worker to one delivery. -/
inductive CycleDispatchResult where
  | pending
  | committed (checkpointRevision committedCycle : Nat)
  | terminalCandidate (checkpointRevision : Nat) (result : AgentResult)
  | terminalReplay (checkpointRevision : Nat) (result : AgentResult)

namespace CycleDispatchResult

def validateTerminalCandidateResult (result : AgentResult) : DistributedResult Unit :=
  refuse
    (result.status = .pending || result.status = .running || result.status = .deferred ||
      result.status = .hostInteraction)
    invalidAgentResult

def validateTerminalReplayResult (result : AgentResult) : DistributedResult Unit :=
  refuse
    (result.status = .pending || result.status = .running || result.status = .deferred ||
      result.status = .hostInteraction || result.status = .reconciliationRequired)
    invalidAgentResult

def validate : CycleDispatchResult → DistributedResult Unit
  | .pending => .ok ()
  | .committed checkpointRevision committedCycle => do
      validateDispatchInteger checkpointRevision "checkpoint_revision"
      validatePositiveDispatchInteger committedCycle "committed_cycle"
  | .terminalCandidate checkpointRevision result => do
      validateDispatchInteger checkpointRevision "checkpoint_revision"
      validateTerminalCandidateResult result
  | .terminalReplay checkpointRevision result => do
      validateDispatchInteger checkpointRevision "checkpoint_revision"
      validateTerminalReplayResult result

/-- A response as its constructors build it: checked. -/
def checked (response : CycleDispatchResult) : DistributedResult CycleDispatchResult := do
  response.validate
  return response

end CycleDispatchResult

end

end VvAgent
