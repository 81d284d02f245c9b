import VvAgent.Checkpoint.Identity

/-!
The operation journal of one cycle. A model call or a tool call is entered as
`planned`, becomes `started`, and ends `succeeded` or `failed` with a receipt; a tool
may also be `deferred` under a handle, and an operation whose outcome was lost is
`ambiguous`. `OperationJournalEntry.validate` says which fields each of these carries.
-/

namespace VvAgent
open Lib.Outcome

structure OperationJournalEntry where
  kind : OperationKind
  operationId : String
  cycleIndex : Nat
  attempt : Nat
  state : OperationState := .planned
  requestDigest : String
  idempotencyKey : Option String := none
  identityKey : Option String := none
  resultDigest : Option String := none
  response : Option Json := none
  error : Option OperationError := none
  toolCallId : Option String := none
  toolName : Option String := none
  arguments : Option JsonObject := none
  idempotencySupport : Option ToolIdempotency := none
  result : Option Json := none
  deferredHandle : Option DeferredToolHandle := none
  resumeObservation : Option ResumeObservation := none
  modelOperation : Option ModelCallOperation := none
  backend : Option String := none
  model : Option String := none
  callId : Option String := none
  deriving DecidableEq

namespace OperationJournalEntry

/-- States in which an operation may still change. -/
def isOpen (entry : OperationJournalEntry) : Bool :=
  match entry.state with
  | .planned | .started | .deferred | .ambiguous => true
  | .succeeded | .failed => false

/-- Identity, digests and the optional values of an entry of either kind. -/
def validateFields (entry : OperationJournalEntry) : CheckpointResult Unit := do
  refuse (isBlank entry.operationId) ⟨"operation_id_invalid", "operation_id must be non-empty"⟩
  refuse (entry.cycleIndex == 0 || maxWireInteger < entry.cycleIndex)
    ⟨"operation_cycle_invalid", "operation cycle_index must be positive and JSON-safe"⟩
  refuse (entry.attempt == 0 || maxWireInteger < entry.attempt)
    ⟨"operation_attempt_invalid", "operation attempt must be positive and JSON-safe"⟩
  refuse (!isSha256 entry.requestDigest)
    ⟨"operation_request_digest_invalid", "operation request_digest must be lowercase SHA-256"⟩
  if let some response := entry.response then
    response.validateIJson "operation response"
  if let some result := entry.result then
    result.validateIJson "operation result"
  if let some identityKey := entry.identityKey then
    validateSha256 identityKey "operation identity_key"
  if let some resultDigest := entry.resultDigest then
    validateSha256 resultDigest "operation result_digest"
  if let some observation := entry.resumeObservation then
    observation.validate
  if let some handle := entry.deferredHandle then do
    handle.validate
    refuse (entry.kind != .tool)
      ⟨"operation_kind_fields_invalid", "model journal entries cannot contain deferred_handle"⟩
  if let some error := entry.error then
    error.validate

def validateModelFields (entry : OperationJournalEntry) : CheckpointResult Unit := do
  refuse
    (entry.identityKey.isSome || entry.resultDigest.isSome || entry.resumeObservation.isSome)
    ⟨"operation_kind_fields_invalid",
      "model journal entries cannot contain tool receipt fields"⟩
  refuse
    (entry.toolCallId.isSome || entry.toolName.isSome || entry.arguments.isSome ||
      entry.idempotencySupport.isSome || entry.result.isSome || entry.deferredHandle.isSome)
    ⟨"operation_kind_fields_invalid", "model journal entries cannot contain tool fields"⟩
  refuse
    (entry.modelOperation.isNone || entry.backend.all isBlank || entry.model.all isBlank ||
      entry.callId.all isBlank)
    ⟨"model_identity_invalid",
      "model journal entries require operation, backend, model, and call_id"⟩

def validateToolFields (entry : OperationJournalEntry) : CheckpointResult Unit := do
  refuse
    (entry.modelOperation.isSome || entry.backend.isSome || entry.model.isSome ||
      entry.callId.isSome)
    ⟨"operation_kind_fields_invalid",
      "tool journal entries cannot contain model identity fields"⟩
  refuse
    (entry.toolCallId.all (· == "") || entry.toolName.all (· == "") || entry.arguments.isNone ||
      entry.idempotencySupport.isNone)
    ⟨"tool_idempotency_key_required",
      "tool journal entries require call, arguments, and idempotency support"⟩
  if entry.idempotencySupport = some .unsupported then
    refuse entry.idempotencyKey.isSome
      ⟨"tool_idempotency_key_invalid", "unsupported tools must not carry an idempotency key"⟩
  else
    refuse (entry.idempotencyKey.all (· == ""))
      ⟨"tool_idempotency_key_required",
        "supported or unknown tools require an idempotency key"⟩
  refuse entry.response.isSome
    ⟨"operation_kind_fields_invalid", "tool journal entries cannot contain model responses"⟩
  refuse (entry.state = .deferred && entry.deferredHandle.isNone)
    ⟨"operation_deferred_handle_required",
      "deferred tool journal entries require deferred_handle"⟩
  refuse (entry.state != .deferred && entry.deferredHandle.isSome)
    ⟨"operation_deferred_handle_invalid",
      "deferred_handle is only valid for deferred entries"⟩
  (Json.obj (entry.arguments.getD [])).validateIJson "tool journal arguments"

variable [Platform]

/-- The receipt of a succeeded operation. -/
def validateSucceeded (entry : OperationJournalEntry) : CheckpointResult Unit := do
  let receipt :=
    match entry.kind with
    | .model => entry.response.isSome
    | .tool => entry.result.isSome
  refuse (!receipt || entry.error.isSome)
    ⟨"operation_receipt_required", "succeeded operation requires one success receipt"⟩
  if entry.kind = .tool then do
    refuse (entry.identityKey.isNone || entry.resultDigest.isNone)
      ⟨"operation_receipt_identity_required",
        "closed tool receipt requires identity_key and result_digest"⟩
    let value := entry.result.getD .null
    let result ← withContext "operation_receipt_invalid"
      "tool result is not a canonical execution result: " (ToolExecutionResult.fromDict value)
    refuse (result.toDict != value)
      ⟨"operation_receipt_invalid", "tool journal result is not in canonical wire form"⟩
    let expected ← toolResultDigest result
    refuse (entry.resultDigest != some expected)
      ⟨"tool_receipt_digest_invalid",
        "tool journal result_digest does not match the canonical result"⟩

/-- A tool that was closed without ever reporting: no result, but an observation. -/
def validateSyntheticClosure (entry : OperationJournalEntry) : CheckpointResult Unit := do
  refuse entry.resultDigest.isSome
    ⟨"operation_closure_receipt_forbidden",
      "cancelled tool closure must not carry result_digest"⟩
  refuse entry.resumeObservation.isNone
    ⟨"operation_resume_observation_required",
      "cancelled tool closure requires resume_observation"⟩

/-- The receipt of a tool that reported an error. -/
def validateFailedResult (entry : OperationJournalEntry) (error : OperationError) :
    CheckpointResult Unit := do
  let value ← require entry.result
    ⟨"operation_result_required", "ordinary failed tool receipt requires result"⟩
  refuse ((value.get? "status_code" >>= Json.asStr?) != some "ERROR")
    ⟨"operation_failed_result_status_invalid",
      "failed tool receipt result must have status_code=ERROR"⟩
  let result ← withContext "operation_result_invalid" "tool result is not canonical: "
    (ToolExecutionResult.fromDict value)
  refuse (result.toDict != value)
    ⟨"operation_result_invalid", "tool journal result is not in canonical wire form"⟩
  let resultDigest ← require entry.resultDigest
    ⟨"operation_result_digest_required", "closed tool receipt requires result_digest"⟩
  let expectedDigest ← toolResultDigest result
  refuse (resultDigest != expectedDigest)
    ⟨"operation_result_digest_mismatch",
      "tool journal result_digest does not match the canonical result"⟩
  refuse (error != operationErrorFromToolResult result)
    ⟨"operation_error_projection_mismatch",
      "failed tool error does not match the canonical result projection"⟩
  if error.code == "tool_outcome_unknown" then
    refuse entry.resumeObservation.isNone
      ⟨"operation_resume_observation_required",
        "tool_outcome_unknown requires resume_observation"⟩
  else
    refuse entry.resumeObservation.isSome
      ⟨"operation_resume_observation_forbidden",
        "ordinary failed receipts must not carry resume_observation"⟩

def validateFailed (entry : OperationJournalEntry) : CheckpointResult Unit := do
  let error ← require entry.error
    ⟨"operation_error_required", "failed operation requires one typed error"⟩
  refuse entry.response.isSome
    ⟨"operation_error_required", "failed operation requires one typed error"⟩
  if entry.kind = .tool then do
    refuse entry.identityKey.isNone
      ⟨"operation_receipt_identity_required", "closed tool receipt requires identity_key"⟩
    if error.code == "tool_cancelled" && entry.result.isNone then
      entry.validateSyntheticClosure
    else
      entry.validateFailedResult error

def validateState (entry : OperationJournalEntry) : CheckpointResult Unit :=
  match entry.state with
  | .succeeded => entry.validateSucceeded
  | .failed => entry.validateFailed
  | .planned | .started | .ambiguous =>
      refuse
        (entry.response.isSome || entry.result.isSome || entry.error.isSome ||
          entry.identityKey.isSome || entry.resultDigest.isSome ||
          entry.resumeObservation.isSome)
        ⟨"operation_receipt_unexpected", "non-terminal operation cannot contain a receipt"⟩
  | .deferred =>
      refuse
        (entry.result.isSome || entry.error.isSome || entry.deferredHandle.isNone ||
          entry.identityKey.isSome || entry.resultDigest.isSome ||
          entry.resumeObservation.isSome)
        ⟨"operation_deferred_invalid",
          "deferred operation requires a handle and no result or error"⟩

def validate (entry : OperationJournalEntry) : CheckpointResult Unit := do
  entry.validateFields
  match entry.kind with
  | .model => entry.validateModelFields
  | .tool => entry.validateToolFields
  entry.validateState

end OperationJournalEntry

end VvAgent
