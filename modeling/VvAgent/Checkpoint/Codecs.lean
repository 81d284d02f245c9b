import VvAgent.Checkpoint.Wire

/-!
Writers and readers of the values that a controller, a host and the recovery worker
exchange. Every reader ends with the validation of what it has read. A value that passes
its validation is written to an object that its reader takes back, except where the
validation leaves a size or a range unchecked that the reader checks: the claim token,
the revisions and the error text of a host record, the record id and the error text of a
recovery result, and the wake and the error text of a resolution.
-/

namespace VvAgent
open Lib Lib.Outcome Wire

namespace ControllerHandle

def fromValue (value : Json) : CheckpointResult ControllerHandle := do
  let object ← valueObject value "controller_command_invalid_state"
  requireExactFields object ["checkpoint_key", "run_id", "trace_id"]
    "controller_command_invalid_state"
  let checkpointKey ← requiredNonEmptyString object "checkpoint_key"
    controllerCommandMaxUtf8Bytes "controller_command_invalid_state"
  let runId ← requiredNonEmptyString object "run_id" controllerCommandMaxUtf8Bytes
    "controller_command_invalid_state"
  let traceId ← requiredNonEmptyString object "trace_id" controllerCommandMaxUtf8Bytes
    "controller_command_invalid_state"
  let handle : ControllerHandle := { checkpointKey, runId, traceId }
  handle.validate
  return handle

end ControllerHandle

namespace HostInteractionMessage

def fromValue (value : Json) : CheckpointResult HostInteractionMessage := do
  let object ← valueObject value "host_interaction_response_missing"
  requireExactFields object ["role", "content"] "host_interaction_fields_invalid"
  let role ← requiredString object "role" "host_interaction_response_missing"
  let content ← requiredString object "content" "host_interaction_response_missing"
  let message : HostInteractionMessage := { role, content }
  message.validate
  return message

end HostInteractionMessage

section
variable [Platform]

namespace HostInteractionRequest

def toValue (request : HostInteractionRequest) : Json :=
  .obj
    [("interaction_id", .str request.interactionId),
      ("logical_cycle", .nat request.logicalCycle),
      ("operation_id", .str request.operationId), ("prompt", .str request.prompt),
      ("request_digest", .str request.requestDigest),
      ("schema_version", .str request.schemaVersion),
      ("tool_call_id", .str request.toolCallId)]

def fromValue (value : Json) : CheckpointResult HostInteractionRequest := do
  let code := "host_interaction_fields_invalid"
  let object ← valueObject value code
  requireExactFields object
    ["schema_version", "interaction_id", "logical_cycle", "operation_id", "tool_call_id",
      "request_digest", "prompt"] code
  let prompt ← requiredString object "prompt" code
  let schemaVersion ← requiredString object "schema_version" code
  let interactionId ←
    requiredNonEmptyString object "interaction_id" hostInteractionMaxUtf8Bytes code
  let logicalCycle ← requiredInteger object "logical_cycle" true
  let operationId ← requiredNonEmptyString object "operation_id" hostInteractionMaxUtf8Bytes code
  let toolCallId ← requiredNonEmptyString object "tool_call_id" hostInteractionMaxUtf8Bytes code
  let requestDigest ← requiredDigest object "request_digest"
  let request : HostInteractionRequest :=
    { schemaVersion, interactionId, logicalCycle, operationId, toolCallId, requestDigest, prompt }
  request.validate
  return request

end HostInteractionRequest

namespace HostInteractionResponse

def toValue (response : HostInteractionResponse) : Json :=
  .obj
    [("command_id", .str response.commandId), ("interaction_id", .str response.interactionId),
      ("logical_cycle", .nat response.logicalCycle),
      ("operation_id", .str response.operationId),
      ("request_digest", .str response.requestDigest),
      ("response", response.response.toValue),
      ("response_digest", .str response.responseDigest),
      ("schema_version", .str response.schemaVersion),
      ("tool_call_id", .str response.toolCallId)]

def fromValue (value : Json) : CheckpointResult HostInteractionResponse := do
  let code := "host_interaction_fields_invalid"
  let object ← valueObject value code
  requireExactFields object
    ["schema_version", "interaction_id", "logical_cycle", "operation_id", "tool_call_id",
      "request_digest", "command_id", "response", "response_digest"] code
  let message ← HostInteractionMessage.fromValue (member object "response")
  let schemaVersion ← requiredString object "schema_version" code
  let interactionId ←
    requiredNonEmptyString object "interaction_id" hostInteractionMaxUtf8Bytes code
  let logicalCycle ← requiredInteger object "logical_cycle" true
  let operationId ← requiredNonEmptyString object "operation_id" hostInteractionMaxUtf8Bytes code
  let toolCallId ← requiredNonEmptyString object "tool_call_id" hostInteractionMaxUtf8Bytes code
  let requestDigest ← requiredDigest object "request_digest"
  let commandId ← requiredNonEmptyString object "command_id" hostInteractionMaxUtf8Bytes code
  let responseDigest ← requiredDigest object "response_digest"
  let response : HostInteractionResponse := {
    schemaVersion, interactionId, logicalCycle, operationId, toolCallId, requestDigest, commandId
    response := message
    responseDigest }
  response.validate
  return response

end HostInteractionResponse

namespace ControllerCommandVariant

def fromValue (value : Json) : CheckpointResult ControllerCommandVariant := do
  let code := "controller_command_invalid_state"
  let object ← valueObject value code
  let kind ← requiredString object "kind" code
  match kind with
  | "host_interaction_response" => do
      requireExactFields object
        ["kind", "interaction_id", "logical_cycle", "operation_id", "tool_call_id",
          "request_digest", "response"] code
      let response ← HostInteractionMessage.fromValue (member object "response")
      let interactionId ←
        requiredNonEmptyString object "interaction_id" hostInteractionMaxUtf8Bytes code
      let logicalCycle ← requiredInteger object "logical_cycle" true
      let operationId ←
        requiredNonEmptyString object "operation_id" hostInteractionMaxUtf8Bytes code
      let toolCallId ←
        requiredNonEmptyString object "tool_call_id" hostInteractionMaxUtf8Bytes code
      let requestDigest ← requiredDigest object "request_digest"
      return .hostInteractionResponse
        { interactionId, logicalCycle, operationId, toolCallId, requestDigest, response }
  | "suspend" => do
      requireExactFields object ["kind"] code
      return .suspend
  | "resume" => do
      requireExactFields object ["kind"] code
      return .resume
  | "cancel" => do
      requireExactFields object ["kind"] code
      return .cancel
  | "abort" => do
      requireExactFields object ["kind"] code
      return .abort
  | _ => .error ⟨code, "unsupported controller command kind"⟩

end ControllerCommandVariant

namespace ControllerCommand

def toValue (command : ControllerCommand) : Json :=
  .obj
    [("command", command.command.toValue), ("command_digest", .str command.commandDigest),
      ("command_id", .str command.commandId),
      ("expected_revision", .nat command.expectedRevision),
      ("handle", command.handle.toValue), ("resume_attempt", .nat command.resumeAttempt),
      ("schema_version", .str command.schemaVersion)]

def fromValue (value : Json) : CheckpointResult ControllerCommand := do
  let code := "controller_command_digest_invalid"
  let object ← valueObject value code
  requireExactFields object
    ["schema_version", "command_id", "command_digest", "handle", "resume_attempt",
      "expected_revision", "command"] code
  let schemaVersion ← requiredString object "schema_version" code
  let commandId ← requiredNonEmptyString object "command_id" controllerCommandMaxUtf8Bytes code
  let commandDigest ← requiredDigest object "command_digest"
  let handle ← ControllerHandle.fromValue (member object "handle")
  let resumeAttempt ← requiredInteger object "resume_attempt" true
  let expectedRevision ← requiredInteger object "expected_revision" false
  let variant ← ControllerCommandVariant.fromValue (member object "command")
  let command : ControllerCommand := {
    schemaVersion, commandId, commandDigest, handle, resumeAttempt, expectedRevision
    command := variant }
  command.validate
  return command

end ControllerCommand

namespace ControllerCommandReceipt

def toValue (receipt : ControllerCommandReceipt) : Json :=
  .obj
    [("command_digest", .str receipt.commandDigest), ("command_id", .str receipt.commandId),
      ("expected_revision", .nat receipt.expectedRevision),
      ("handle", receipt.handle.toValue), ("outbox_action", .str receipt.outboxAction),
      ("outbox_attempt", .nat receipt.outboxAttempt),
      ("outbox_destination", .optStr receipt.outboxDestination),
      ("outbox_state", .str receipt.outboxState),
      ("resulting_revision", .nat receipt.resultingRevision),
      ("resulting_status", .str receipt.resultingStatus),
      ("resume_attempt", .nat receipt.resumeAttempt),
      ("schema_version", .str receipt.schemaVersion)]

def fromValue (value : Json) : CheckpointResult ControllerCommandReceipt := do
  let code := "controller_command_invalid_state"
  let object ← valueObject value code
  requireExactFields object
    ["schema_version", "command_id", "command_digest", "handle", "resume_attempt",
      "expected_revision", "resulting_revision", "resulting_status", "outbox_state",
      "outbox_action", "outbox_destination", "outbox_attempt"] code
  let schemaVersion ← requiredString object "schema_version" code
  let commandId ← requiredNonEmptyString object "command_id" controllerCommandMaxUtf8Bytes code
  let commandDigest ← requiredDigest object "command_digest"
  let handle ← ControllerHandle.fromValue (member object "handle")
  let resumeAttempt ← requiredInteger object "resume_attempt" true
  let expectedRevision ← requiredInteger object "expected_revision" false
  let resultingRevision ← requiredInteger object "resulting_revision" false
  let resultingStatus ← requiredString object "resulting_status" code
  let outboxState ← requiredString object "outbox_state" code
  let outboxAction ← requiredString object "outbox_action" code
  let outboxDestination ←
    optionalString object "outbox_destination" controllerCommandMaxUtf8Bytes code
  let outboxAttempt ← requiredInteger object "outbox_attempt" false
  let receipt : ControllerCommandReceipt :=
    { schemaVersion, commandId, commandDigest, handle, resumeAttempt, expectedRevision,
      resultingRevision, resultingStatus, outboxState, outboxAction, outboxDestination,
      outboxAttempt }
  receipt.validate
  return receipt

end ControllerCommandReceipt

namespace ControllerCommandWake

def validate (wake : ControllerCommandWake) : CheckpointResult Unit :=
  refuse
    (!((wake.action == "none" && wake.destination.isNone && wake.claimMode == "none") ||
      (wake.action == "recovery_dispatch" && wake.destination == some "distributed_advance" &&
        wake.claimMode == "recovery" && 0 < wake.logicalCycle)))
    ⟨"controller_command_invalid_state", "wake is invalid"⟩

def toValue (wake : ControllerCommandWake) : Json :=
  .obj
    [("action", .str wake.action), ("claim_mode", .str wake.claimMode),
      ("destination", .optStr wake.destination), ("logical_cycle", .nat wake.logicalCycle)]

def fromValue (value : Json) : CheckpointResult ControllerCommandWake := do
  let code := "controller_command_invalid_state"
  let object ← valueObject value code
  requireExactFields object ["action", "destination", "logical_cycle", "claim_mode"] code
  let action ← requiredString object "action" code
  let destination ← optionalString object "destination" controllerCommandMaxUtf8Bytes code
  let logicalCycle ← requiredInteger object "logical_cycle" false
  let claimMode ← requiredString object "claim_mode" code
  let wake : ControllerCommandWake := { action, destination, logicalCycle, claimMode }
  wake.validate
  return wake

end ControllerCommandWake

def controllerCommandResolutionSchema : String := "vv-agent.controller-command-resolution.v1"

namespace ControllerCommandResolution

/-- The checks of a resolution's parts. -/
def validate : ControllerCommandResolution → CheckpointResult Unit
  | .applied receipt wake | .replayed receipt wake => do
      receipt.validate
      wake.validate
  | .rejected _ => .ok ()

def toValue : ControllerCommandResolution → Json
  | .applied receipt wake =>
      .obj
        [("kind", .str "applied"), ("receipt", receipt.toValue),
          ("schema_version", .str controllerCommandResolutionSchema), ("wake", wake.toValue)]
  | .replayed receipt wake =>
      .obj
        [("kind", .str "replayed"), ("receipt", receipt.toValue),
          ("schema_version", .str controllerCommandResolutionSchema), ("wake", wake.toValue)]
  | .rejected error =>
      .obj
        [("error", .str error), ("kind", .str "rejected"),
          ("schema_version", .str controllerCommandResolutionSchema)]

def readSchema (object : JsonObject) : CheckpointResult Unit := do
  let schemaVersion ← requiredString object "schema_version" "controller_command_invalid_state"
  refuse (schemaVersion != controllerCommandResolutionSchema)
    ⟨"controller_command_invalid_state", "unsupported resolution schema_version"⟩

/-- The receipt and the wake of a command that took effect. -/
def readDecision (object : JsonObject) :
    CheckpointResult (ControllerCommandReceipt × ControllerCommandWake) := do
  requireExactFields object ["schema_version", "kind", "receipt", "wake"]
    "controller_command_invalid_state"
  readSchema object
  let receipt ← ControllerCommandReceipt.fromValue (member object "receipt")
  let wake ← ControllerCommandWake.fromValue (member object "wake")
  return (receipt, wake)

def fromValue (value : Json) : CheckpointResult ControllerCommandResolution := do
  let code := "controller_command_invalid_state"
  let object ← valueObject value code
  let kind ← requiredString object "kind" code
  match kind with
  | "applied" => do
      let (receipt, wake) ← readDecision object
      return .applied receipt wake
  | "replayed" => do
      let (receipt, wake) ← readDecision object
      return .replayed receipt wake
  | "rejected" => do
      requireExactFields object ["schema_version", "kind", "error"] code
      readSchema object
      let message ← requiredNonEmptyString object "error" hostInteractionContentMaxUtf8Bytes code
      return .rejected message
  | _ => .error ⟨code, "unsupported resolution kind"⟩

end ControllerCommandResolution

namespace ControllerCommandWakeRecord

def toValue (record : ControllerCommandWakeRecord) : Json :=
  .obj
    [("attempt", .nat record.attempt), ("checkpoint_key", .str record.checkpointKey),
      ("claim_token", .optStr record.claimToken),
      ("command_digest", .str record.commandDigest), ("command_id", .str record.commandId),
      ("delivered_at_ms", .optNat record.deliveredAtMs),
      ("expected_revision", .nat record.expectedRevision), ("handle", record.handle.toValue),
      ("last_error", .optStr record.lastError),
      ("lease_expires_at_ms", .optNat record.leaseExpiresAtMs),
      ("outbox_action", .str record.outboxAction),
      ("outbox_destination", .optStr record.outboxDestination),
      ("outbox_id", .str record.outboxId), ("outbox_state", .str record.outboxState),
      ("resulting_revision", .nat record.resultingRevision),
      ("resulting_status", .str record.resultingStatus),
      ("resume_attempt", .nat record.resumeAttempt)]

def fromValue (value : Json) : CheckpointResult ControllerCommandWakeRecord := do
  let code := "controller_command_outbox_invalid"
  let object ← valueObject value code
  requireExactFields object
    ["command_id", "command_digest", "checkpoint_key", "handle", "resume_attempt",
      "expected_revision", "resulting_revision", "resulting_status", "outbox_id",
      "outbox_state", "outbox_action", "outbox_destination", "attempt", "claim_token",
      "lease_expires_at_ms", "delivered_at_ms", "last_error"] code
  let commandId ← requiredNonEmptyString object "command_id" controllerCommandMaxUtf8Bytes code
  let commandDigest ← requiredDigest object "command_digest"
  let checkpointKey ←
    requiredNonEmptyString object "checkpoint_key" controllerCommandMaxUtf8Bytes code
  let handle ← ControllerHandle.fromValue (member object "handle")
  let resumeAttempt ← requiredInteger object "resume_attempt" true
  let expectedRevision ← requiredInteger object "expected_revision" false
  let resultingRevision ← requiredInteger object "resulting_revision" false
  let resultingStatus ← requiredString object "resulting_status" code
  let outboxId ← requiredNonEmptyString object "outbox_id" controllerCommandMaxUtf8Bytes code
  let outboxState ← requiredString object "outbox_state" code
  let outboxAction ← requiredString object "outbox_action" code
  let outboxDestination ←
    optionalString object "outbox_destination" controllerCommandMaxUtf8Bytes code
  let attempt ← requiredInteger object "attempt" false
  let claimToken ← optionalString object "claim_token" controllerCommandMaxUtf8Bytes code
  let leaseExpiresAtMs ← optionalInteger object "lease_expires_at_ms" false code
  let deliveredAtMs ← optionalInteger object "delivered_at_ms" false code
  let lastError ← optionalString object "last_error" hostInteractionContentMaxUtf8Bytes code
  let record : ControllerCommandWakeRecord :=
    { commandId, commandDigest, checkpointKey, handle, resumeAttempt, expectedRevision,
      resultingRevision, resultingStatus, outboxId, outboxState, outboxAction, outboxDestination,
      attempt, claimToken, leaseExpiresAtMs, deliveredAtMs, lastError }
  record.validate
  return record

end ControllerCommandWakeRecord

namespace HostInteractionRecord

def toValue (record : HostInteractionRecord) : Json :=
  .obj (present
    [("attempt", some (.nat record.attempt)),
      ("checkpoint_key", some (.str record.checkpointKey)),
      ("claim_token", some (.optStr record.claimToken)),
      ("command_id", some (.optStr record.commandId)),
      ("consumed_revision", some (.optNat record.consumedRevision)),
      ("interaction_id", some (.str record.interactionId)),
      ("last_error", record.lastError.map .str),
      ("lease_expires_at_ms", some (.optNat record.leaseExpiresAtMs)),
      ("logical_cycle", some (.nat record.logicalCycle)),
      ("record_id", some (.str record.recordId)), ("request", some record.request.toValue),
      ("request_digest", some (.str record.requestDigest)),
      ("resolved_revision", some (.optNat record.resolvedRevision)),
      ("response",
        some ((record.response.map HostInteractionResponse.toValue).getD .null)),
      ("response_digest", some (.optStr record.responseDigest)),
      ("schema_version", some (.str record.schemaVersion)), ("state", some (.str record.state))])

def fromValue (value : Json) : CheckpointResult HostInteractionRecord := do
  let code := "host_interaction_fields_invalid"
  let object ← valueObject value code
  requireFieldsWithOptional object
    ["schema_version", "record_id", "checkpoint_key", "interaction_id", "logical_cycle",
      "request", "request_digest", "state", "attempt", "claim_token", "lease_expires_at_ms",
      "response", "response_digest", "command_id", "resolved_revision", "consumed_revision"]
    ["last_error"] code
  let schemaVersion ← requiredString object "schema_version" code
  let recordId ← requiredNonEmptyString object "record_id" controllerCommandMaxUtf8Bytes code
  let checkpointKey ←
    requiredNonEmptyString object "checkpoint_key" controllerCommandMaxUtf8Bytes code
  let interactionId ←
    requiredNonEmptyString object "interaction_id" hostInteractionMaxUtf8Bytes code
  let logicalCycle ← requiredInteger object "logical_cycle" true
  let attempt ← requiredInteger object "attempt" false
  let claimToken ← optionalString object "claim_token" controllerCommandMaxUtf8Bytes code
  let leaseExpiresAtMs ← optionalInteger object "lease_expires_at_ms" false code
  let request ← HostInteractionRequest.fromValue (member object "request")
  let requestDigest ← requiredDigest object "request_digest"
  let state ← requiredString object "state" code
  let response ← optionalValue HostInteractionResponse.fromValue object "response"
  let responseDigest ← optionalString object "response_digest" 64 code
  let commandId ← optionalString object "command_id" controllerCommandMaxUtf8Bytes code
  let resolvedRevision ← optionalInteger object "resolved_revision" false code
  let consumedRevision ← optionalInteger object "consumed_revision" false code
  let lastError ← optionalString object "last_error" hostInteractionContentMaxUtf8Bytes code
  let record : HostInteractionRecord :=
    { schemaVersion, recordId, checkpointKey, interactionId, logicalCycle, attempt, claimToken,
      leaseExpiresAtMs, request, requestDigest, state, response, responseDigest, commandId,
      resolvedRevision, consumedRevision, lastError }
  record.validate
  return record

end HostInteractionRecord

namespace HostInteractionRecoveryEnvelope

def toValue (envelope : HostInteractionRecoveryEnvelope) : Json :=
  .obj
    [("checkpoint_key", .str envelope.checkpointKey), ("claim_mode", .str envelope.claimMode),
      ("command_id", .str envelope.commandId),
      ("expected_revision", .nat envelope.expectedRevision),
      ("interaction_id", .str envelope.interactionId),
      ("logical_cycle", .nat envelope.logicalCycle),
      ("operation_id", .str envelope.operationId), ("record_id", .str envelope.recordId),
      ("request_digest", .str envelope.requestDigest),
      ("resume_attempt", .nat envelope.resumeAttempt), ("run_id", .str envelope.runId),
      ("schema_version", .str envelope.schemaVersion),
      ("tool_call_id", .str envelope.toolCallId), ("trace_id", .str envelope.traceId)]

def fromValue (value : Json) : CheckpointResult HostInteractionRecoveryEnvelope := do
  let code := "host_interaction_recovery_stale"
  let object ← valueObject value code
  requireExactFields object
    ["schema_version", "record_id", "checkpoint_key", "run_id", "trace_id", "claim_mode",
      "resume_attempt", "expected_revision", "logical_cycle", "interaction_id", "operation_id",
      "tool_call_id", "request_digest", "command_id"] code
  let schemaVersion ← requiredString object "schema_version" code
  let recordId ← requiredNonEmptyString object "record_id" controllerCommandMaxUtf8Bytes code
  let checkpointKey ←
    requiredNonEmptyString object "checkpoint_key" controllerCommandMaxUtf8Bytes code
  let runId ← requiredNonEmptyString object "run_id" controllerCommandMaxUtf8Bytes code
  let traceId ← requiredNonEmptyString object "trace_id" controllerCommandMaxUtf8Bytes code
  let claimMode ← requiredString object "claim_mode" code
  let resumeAttempt ← requiredInteger object "resume_attempt" true
  let expectedRevision ← requiredInteger object "expected_revision" false
  let logicalCycle ← requiredInteger object "logical_cycle" true
  let interactionId ←
    requiredNonEmptyString object "interaction_id" hostInteractionMaxUtf8Bytes code
  let operationId ← requiredNonEmptyString object "operation_id" hostInteractionMaxUtf8Bytes code
  let toolCallId ← requiredNonEmptyString object "tool_call_id" hostInteractionMaxUtf8Bytes code
  let requestDigest ← requiredDigest object "request_digest"
  let commandId ← requiredNonEmptyString object "command_id" controllerCommandMaxUtf8Bytes code
  let envelope : HostInteractionRecoveryEnvelope :=
    { schemaVersion, recordId, checkpointKey, runId, traceId, claimMode, resumeAttempt,
      expectedRevision, logicalCycle, interactionId, operationId, toolCallId, requestDigest,
      commandId }
  envelope.validate
  return envelope

end HostInteractionRecoveryEnvelope

namespace HostInteractionRecoveryResult

def toValue (result : HostInteractionRecoveryResult) : Json :=
  .obj (present
    [("checkpoint_execution_claim_state", some (.str result.checkpointExecutionClaimState)),
      ("checkpoint_revision", some (.optNat result.checkpointRevision)),
      ("claim_mode", some (.str result.claimMode)),
      ("consumed_revision", some (.optNat result.consumedRevision)),
      ("error", result.error.map .str),
      ("injection_count", some (.nat result.injectionCount)),
      ("kind", some (.str result.kind)), ("record_id", some (.str result.recordId)),
      ("resume_attempt", some (.optNat result.resumeAttempt)),
      ("schema_version", some (.str result.schemaVersion))])

def fromValue (value : Json) : CheckpointResult HostInteractionRecoveryResult := do
  let code := "host_interaction_recovery_stale"
  let object ← valueObject value code
  requireFieldsWithOptional object
    ["schema_version", "kind", "record_id", "checkpoint_revision", "consumed_revision",
      "claim_mode", "resume_attempt", "injection_count", "checkpoint_execution_claim_state"]
    ["error"] code
  let schemaVersion ← requiredString object "schema_version" code
  let kind ← requiredString object "kind" code
  let recordId ← requiredNonEmptyString object "record_id" controllerCommandMaxUtf8Bytes code
  let checkpointRevision ← optionalInteger object "checkpoint_revision" false code
  let consumedRevision ← optionalInteger object "consumed_revision" false code
  let claimMode ← requiredString object "claim_mode" code
  let resumeAttempt ← optionalInteger object "resume_attempt" true code
  let injectionCount ← requiredInteger object "injection_count" false
  let checkpointExecutionClaimState ←
    requiredString object "checkpoint_execution_claim_state" code
  let error ← optionalString object "error" hostInteractionContentMaxUtf8Bytes code
  let result : HostInteractionRecoveryResult :=
    { schemaVersion, kind, recordId, checkpointRevision, consumedRevision, claimMode,
      resumeAttempt, injectionCount, checkpointExecutionClaimState, error }
  result.validate
  return result

end HostInteractionRecoveryResult

namespace HostInteractionNotificationPayload

def fromValue (value : Json) : CheckpointResult HostInteractionNotificationPayload := do
  let code := "host_interaction_fields_invalid"
  let object ← valueObject value code
  requireExactFields object
    ["schema_version", "notification_id", "record_id", "interaction_id", "logical_cycle",
      "status", "wait_reason", "prompt"] code
  let schemaVersion ← requiredString object "schema_version" code
  let notificationId ←
    requiredNonEmptyString object "notification_id" controllerCommandMaxUtf8Bytes code
  let recordId ← requiredNonEmptyString object "record_id" controllerCommandMaxUtf8Bytes code
  let interactionId ←
    requiredNonEmptyString object "interaction_id" hostInteractionMaxUtf8Bytes code
  let logicalCycle ← requiredInteger object "logical_cycle" true
  let status ← requiredString object "status" code
  let waitReason ← requiredString object "wait_reason" code
  let prompt ← requiredString object "prompt" code
  let payload : HostInteractionNotificationPayload :=
    { schemaVersion, notificationId, recordId, interactionId, logicalCycle, status, waitReason,
      prompt }
  payload.validate
  return payload

end HostInteractionNotificationPayload

end

end VvAgent
