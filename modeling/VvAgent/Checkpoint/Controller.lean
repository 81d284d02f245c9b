import VvAgent.Checkpoint.Transitions

/-!
The values a controller and a host exchange with the store: commands and their receipts,
host-interaction records and responses, notifications, and the envelope with which a
recovery worker consumes a response. Each digest is SHA-256 of the value without it.
-/

namespace VvAgent
open Lib Lib.Outcome

structure ControllerHandle where
  checkpointKey : String
  runId : String
  traceId : String
  deriving DecidableEq

def controllerCommandMaxUtf8Bytes : Nat := 512

namespace ControllerHandle

def validate (handle : ControllerHandle) : CheckpointResult Unit :=
  checkAll
    (fun field : String × String =>
      refuse (isBlank field.2 || controllerCommandMaxUtf8Bytes < field.2.utf8ByteSize)
        ⟨"controller_command_invalid_state",
          field.1 ++ " must be non-empty and at most 512 UTF-8 bytes"⟩)
    [("checkpoint_key", handle.checkpointKey), ("run_id", handle.runId),
      ("trace_id", handle.traceId)]

def toValue (handle : ControllerHandle) : Json :=
  .obj
    [("checkpoint_key", .str handle.checkpointKey), ("run_id", .str handle.runId),
      ("trace_id", .str handle.traceId)]

end ControllerHandle

/-- The execution claim under which a worker asks the host. -/
structure HostInteractionAdmissionContext where
  checkpointKey : String
  expectedRevision : Nat
  claimToken : String
  claimedCycle : Nat
  nowMs : Nat
  leaseExpiresAtMs : Nat
  cycleSnapshot : Option Checkpoint := none
  deriving DecidableEq

namespace HostInteractionAdmissionContext

def validate (context : HostInteractionAdmissionContext) : CheckpointResult Unit := do
  let invalid (message : String) : CheckpointError :=
    ⟨"host_interaction_claim_required", message⟩
  refuse (badIdentity context.checkpointKey)
    (invalid "checkpoint_key is empty or exceeds the identity limit")
  refuse (badIdentity context.claimToken)
    (invalid "claim_token is empty or exceeds the identity limit")
  refuse (context.claimedCycle == 0 || maxWireInteger < context.claimedCycle)
    (invalid "claimed_cycle must be positive and JSON-safe")
  refuse
    (maxWireInteger < context.expectedRevision || maxWireInteger < context.nowMs ||
      maxWireInteger < context.leaseExpiresAtMs)
    (invalid "claim admission fence is outside the JSON-safe range")
  refuse (context.leaseExpiresAtMs == 0) (invalid "lease_expires_at_ms must be positive")

def isLive (context : HostInteractionAdmissionContext) : Bool :=
  context.nowMs < context.leaseExpiresAtMs

end HostInteractionAdmissionContext

structure HostInteractionMessage where
  role : String
  content : String
  deriving DecidableEq

namespace HostInteractionMessage

def validate (message : HostInteractionMessage) : CheckpointResult Unit := do
  refuse (message.role != "user")
    ⟨"host_interaction_response_missing", "response.role must be user"⟩
  refuse (isBlank message.content)
    ⟨"host_interaction_response_missing", "response.content must be non-empty"⟩
  refuse (hostInteractionContentMaxUtf8Bytes < message.content.utf8ByteSize)
    ⟨"host_interaction_content_too_large", "response.content exceeds 65536 UTF-8 bytes"⟩

def toValue (message : HostInteractionMessage) : Json :=
  .obj [("content", .str message.content), ("role", .str message.role)]

end HostInteractionMessage

structure HostInteractionResponse where
  schemaVersion : String
  interactionId : String
  logicalCycle : Nat
  operationId : String
  toolCallId : String
  requestDigest : String
  commandId : String
  response : HostInteractionMessage
  responseDigest : String
  deriving DecidableEq

/-- The identity of the request a controller answers, with the answer. -/
structure HostResponseCommand where
  interactionId : String
  logicalCycle : Nat
  operationId : String
  toolCallId : String
  requestDigest : String
  response : HostInteractionMessage
  deriving DecidableEq

inductive ControllerCommandVariant where
  | hostInteractionResponse (answer : HostResponseCommand)
  | suspend
  | resume
  | cancel
  | abort
  deriving DecidableEq

def ControllerCommandVariant.toValue : ControllerCommandVariant → Json
  | .hostInteractionResponse answer =>
      .obj
        [("interaction_id", .str answer.interactionId),
          ("kind", .str "host_interaction_response"),
          ("logical_cycle", .nat answer.logicalCycle),
          ("operation_id", .str answer.operationId),
          ("request_digest", .str answer.requestDigest),
          ("response", answer.response.toValue), ("tool_call_id", .str answer.toolCallId)]
  | .suspend => .obj [("kind", .str "suspend")]
  | .resume => .obj [("kind", .str "resume")]
  | .cancel => .obj [("kind", .str "cancel")]
  | .abort => .obj [("kind", .str "abort")]

structure ControllerCommand where
  schemaVersion : String
  commandId : String
  commandDigest : String
  handle : ControllerHandle
  resumeAttempt : Nat
  expectedRevision : Nat
  command : ControllerCommandVariant
  deriving DecidableEq

structure ControllerCommandReceipt where
  schemaVersion : String
  commandId : String
  commandDigest : String
  handle : ControllerHandle
  resumeAttempt : Nat
  expectedRevision : Nat
  resultingRevision : Nat
  resultingStatus : String
  outboxState : String
  outboxAction : String
  outboxDestination : Option String
  outboxAttempt : Nat
  deriving DecidableEq

structure ControllerCommandWake where
  action : String
  destination : Option String
  logicalCycle : Nat
  claimMode : String
  deriving DecidableEq

namespace ControllerCommandWake

def none : ControllerCommandWake := ⟨"none", Option.none, 0, "none"⟩

def recovery (logicalCycle : Nat) : ControllerCommandWake :=
  ⟨"recovery_dispatch", some "distributed_advance", logicalCycle, "recovery"⟩

end ControllerCommandWake

inductive ControllerCommandResolution where
  | applied (receipt : ControllerCommandReceipt) (wake : ControllerCommandWake)
  | replayed (receipt : ControllerCommandReceipt) (wake : ControllerCommandWake)
  | rejected (error : String)
  deriving DecidableEq

/-- What the store remembers of one question to the host. -/
structure HostInteractionRecord where
  schemaVersion : String
  recordId : String
  checkpointKey : String
  interactionId : String
  logicalCycle : Nat
  attempt : Nat := 0
  claimToken : Option String := none
  leaseExpiresAtMs : Option Nat := none
  request : HostInteractionRequest
  requestDigest : String
  state : String
  response : Option HostInteractionResponse := none
  responseDigest : Option String := none
  commandId : Option String := none
  resolvedRevision : Option Nat := none
  consumedRevision : Option Nat := none
  lastError : Option String := none
  deriving DecidableEq

structure HostInteractionNotificationPayload where
  schemaVersion : String
  notificationId : String
  recordId : String
  interactionId : String
  logicalCycle : Nat
  status : String
  waitReason : String
  prompt : String
  deriving DecidableEq

inductive NotificationOutboxState where
  | pending
  | claimed
  | delivered
  | ambiguous
  | aborted
  deriving DecidableEq

structure HostInteractionNotificationRecord where
  notificationId : String
  checkpointKey : String
  recordId : String
  payload : HostInteractionNotificationPayload
  payloadDigest : String
  outboxState : NotificationOutboxState := .pending
  claimToken : Option String := none
  leaseExpiresAtMs : Option Nat := none
  attempt : Nat := 0
  deliveredAtMs : Option Nat := none
  abortedAtMs : Option Nat := none
  abortReason : Option String := none
  lastError : Option String := none
  deriving DecidableEq

structure HostInteractionOutcome where
  schemaVersion : String
  interactionId : String
  logicalCycle : Nat
  checkpointRevision : Nat
  status : String
  outboxState : String
  recordId : String
  notificationId : String
  notificationPayloadDigest : String
  notificationOutboxAction : String
  notificationOutboxDestination : String
  deriving DecidableEq

structure HostInteractionRecoveryEnvelope where
  schemaVersion : String
  recordId : String
  checkpointKey : String
  runId : String
  traceId : String
  claimMode : String
  resumeAttempt : Nat
  expectedRevision : Nat
  logicalCycle : Nat
  interactionId : String
  operationId : String
  toolCallId : String
  requestDigest : String
  commandId : String
  deriving DecidableEq

structure HostInteractionRecoveryResult where
  schemaVersion : String
  kind : String
  recordId : String
  checkpointRevision : Option Nat
  consumedRevision : Option Nat
  claimMode : String
  resumeAttempt : Option Nat
  injectionCount : Nat
  checkpointExecutionClaimState : String
  error : Option String
  deriving DecidableEq

/-- A wake as its dispatcher sees it. -/
structure ControllerCommandWakeRecord where
  commandId : String
  commandDigest : String
  checkpointKey : String
  handle : ControllerHandle
  resumeAttempt : Nat
  expectedRevision : Nat
  resultingRevision : Nat
  resultingStatus : String
  outboxId : String
  outboxState : String
  outboxAction : String
  outboxDestination : Option String
  attempt : Nat
  claimToken : Option String := none
  leaseExpiresAtMs : Option Nat := none
  deliveredAtMs : Option Nat := none
  lastError : Option String := none
  deriving DecidableEq

def hostInteractionResponseSchema : String := "vv-agent.host-interaction-response.v1"

def hostInteractionOutcomeSchema : String := "vv-agent.host-interaction-outcome.v1"

def hostInteractionRecordSchema : String := "vv-agent.host-interaction-record.v1"

def hostInteractionRecoverySchema : String := "vv-agent.host-interaction-recovery.v1"

def hostInteractionRecoveryResultSchema : String :=
  "vv-agent.host-interaction-recovery-result.v1"

def hostInteractionNotificationSchema : String := "vv-agent.host-interaction-notification.v1"

def controllerCommandSchema : String := "vv-agent.controller-command.v1"

def controllerCommandReceiptSchema : String := "vv-agent.controller-command-receipt.v1"

section
variable [Platform]

namespace HostInteractionResponse

def toValueWithoutDigest (response : HostInteractionResponse) : Json :=
  .obj
    [("command_id", .str response.commandId), ("interaction_id", .str response.interactionId),
      ("logical_cycle", .nat response.logicalCycle),
      ("operation_id", .str response.operationId),
      ("request_digest", .str response.requestDigest),
      ("response", response.response.toValue), ("schema_version", .str response.schemaVersion),
      ("tool_call_id", .str response.toolCallId)]

def computedDigest (response : HostInteractionResponse) : CheckpointResult String :=
  sha256Canonical response.toValueWithoutDigest "controller wire"

def validate (response : HostInteractionResponse) : CheckpointResult Unit := do
  let invalid (message : String) : CheckpointError :=
    ⟨"host_interaction_fields_invalid", message⟩
  refuse (response.schemaVersion != hostInteractionResponseSchema)
    (invalid "unsupported host interaction response schema_version")
  checkAll
    (fun field : String × String =>
      refuse (badIdentity field.2) (invalid (field.1 ++ " is empty or too long")))
    [("interaction_id", response.interactionId), ("operation_id", response.operationId),
      ("tool_call_id", response.toolCallId), ("command_id", response.commandId)]
  refuse (response.logicalCycle == 0 || maxWireInteger < response.logicalCycle)
    (invalid "logical_cycle is invalid")
  refuse (!isSha256 response.requestDigest) (invalid "request_digest is invalid")
  refuse (!isSha256 response.responseDigest) (invalid "response_digest is invalid")
  response.response.validate
  let digest ← response.computedDigest
  refuse (digest != response.responseDigest) (invalid "response_digest does not match response")

/-- The response record for an answer; the message is checked before it is normalized. -/
def new (answer : HostResponseCommand) (commandId : String) :
    CheckpointResult HostInteractionResponse := do
  answer.response.validate
  let message : HostInteractionMessage := { role := "user", content := answer.response.content }
  message.validate
  let draft : HostInteractionResponse := {
    schemaVersion := hostInteractionResponseSchema
    interactionId := answer.interactionId
    logicalCycle := answer.logicalCycle
    operationId := answer.operationId
    toolCallId := answer.toolCallId
    requestDigest := answer.requestDigest
    commandId
    response := message
    responseDigest := "" }
  let responseDigest ← draft.computedDigest
  let response := { draft with responseDigest }
  response.validate
  return response

end HostInteractionResponse

namespace ControllerCommand

def toValueWithoutDigest (command : ControllerCommand) : Json :=
  .obj
    [("command", command.command.toValue), ("command_id", .str command.commandId),
      ("expected_revision", .nat command.expectedRevision),
      ("handle", command.handle.toValue), ("resume_attempt", .nat command.resumeAttempt),
      ("schema_version", .str command.schemaVersion)]

def computedDigest (command : ControllerCommand) : CheckpointResult String :=
  sha256Canonical command.toValueWithoutDigest "controller wire"

def validate (command : ControllerCommand) : CheckpointResult Unit := do
  let digestInvalid (message : String) : CheckpointError :=
    ⟨"controller_command_digest_invalid", message⟩
  let stateInvalid (message : String) : CheckpointError :=
    ⟨"controller_command_invalid_state", message⟩
  refuse (command.schemaVersion != controllerCommandSchema)
    (digestInvalid "unsupported controller command schema_version")
  refuse (badIdentity command.commandId) (digestInvalid "command_id is invalid")
  command.handle.validate
  refuse
    (command.resumeAttempt == 0 || maxWireInteger < command.resumeAttempt ||
      maxWireInteger < command.expectedRevision)
    (digestInvalid "controller fence is invalid")
  if let .hostInteractionResponse answer := command.command then do
    refuse
      ([answer.interactionId, answer.operationId, answer.toolCallId].any badIdentity)
      (stateInvalid "host response identity is invalid")
    refuse (answer.logicalCycle == 0 || maxWireInteger < answer.logicalCycle)
      (stateInvalid "host response logical_cycle is invalid")
    refuse (!isSha256 answer.requestDigest) (stateInvalid "request_digest is invalid")
    answer.response.validate
  refuse (!isSha256 command.commandDigest) (digestInvalid "command_digest is invalid")
  let digest ← command.computedDigest
  refuse (digest != command.commandDigest)
    (digestInvalid "command_digest does not match the complete request")

end ControllerCommand

/-- `record_id_for`; a request whose cycle is not JSON-safe has no record identity. -/
def recordIdFor (checkpointKey : String) (request : HostInteractionRequest) : String :=
  Platform.sha256 <| Json.canonical <| .obj
    [("checkpoint_key", .str checkpointKey), ("interaction_id", .str request.interactionId),
      ("logical_cycle", .nat request.logicalCycle),
      ("request_digest", .str request.requestDigest),
      ("schema_version", .str hostInteractionRecordSchema)]

def notificationIdFor (recordId : String) : String :=
  Platform.sha256 <| Json.canonical <| .obj
    [("record_id", .str recordId), ("schema_version", .str hostInteractionNotificationSchema),
      ("transition", .str "host_interaction_requested")]

namespace HostInteractionRecord

/-- Which fields a record carries in each of its states. -/
def stateFieldsOk (record : HostInteractionRecord) : Option (Bool × String) :=
  let answered :=
    record.response.isSome && record.responseDigest.isSome && record.commandId.isSome &&
      record.resolvedRevision.isSome
  let unanswered :=
    record.response.isNone && record.responseDigest.isNone && record.commandId.isNone &&
      record.resolvedRevision.isNone
  let unclaimed := record.claimToken.isNone && record.leaseExpiresAtMs.isNone
  match record.state with
  | "active" =>
      some (unanswered && record.consumedRevision.isNone && unclaimed,
        "active record carries resolved state")
  | "resolved_pending" =>
      some (answered && record.consumedRevision.isNone && unclaimed,
        "resolved_pending record state is incomplete")
  | "resolved_claimed" =>
      some (answered && record.consumedRevision.isNone && record.claimToken.isSome &&
        record.leaseExpiresAtMs.isSome, "resolved_claimed record state is incomplete")
  | "consumed" =>
      some (answered && record.consumedRevision.isSome && unclaimed,
        "consumed record state is incomplete")
  | _ => none

def validate (record : HostInteractionRecord) : CheckpointResult Unit := do
  let invalid (message : String) : CheckpointError :=
    ⟨"host_interaction_fields_invalid", message⟩
  refuse (record.schemaVersion != hostInteractionRecordSchema)
    (invalid "unsupported host interaction record schema_version")
  refuse (badIdentity record.recordId || badIdentity record.checkpointKey)
    (invalid "record identity is invalid")
  refuse (record.logicalCycle == 0 || maxWireInteger < record.attempt)
    (invalid "record integer is invalid")
  record.request.validate
  refuse (record.recordId != recordIdFor record.checkpointKey record.request)
    (invalid "record_id does not match the canonical request identity")
  refuse
    (record.request.interactionId != record.interactionId ||
      record.request.logicalCycle != record.logicalCycle ||
      record.requestDigest != record.request.requestDigest)
    (invalid "record request identity does not match request")
  refuse (!isSha256 record.requestDigest) (invalid "record request_digest is invalid")
  let (fieldsOk, message) ← require record.stateFieldsOk
    (invalid "unsupported host interaction record state")
  refuse (!fieldsOk) (invalid message)
  if let some response := record.response then do
    response.validate
    refuse
      (response.interactionId != record.interactionId ||
        response.logicalCycle != record.logicalCycle ||
        response.requestDigest != record.requestDigest ||
        record.responseDigest != some response.responseDigest ||
        record.commandId != some response.commandId)
      (invalid "record response identity does not match response")
  refuse (record.claimToken.any (· == "") || record.leaseExpiresAtMs.any (maxWireInteger < ·))
    (invalid "record claim is invalid")
  refuse (record.claimToken.isSome != record.leaseExpiresAtMs.isSome)
    (invalid "record claim fields must be paired")

/-- The record of a question that has just been put. -/
def active (checkpointKey recordId : String) (request : HostInteractionRequest) :
    HostInteractionRecord where
  schemaVersion := hostInteractionRecordSchema
  recordId := recordId
  checkpointKey := checkpointKey
  interactionId := request.interactionId
  logicalCycle := request.logicalCycle
  request := request
  requestDigest := request.requestDigest
  state := "active"

end HostInteractionRecord

namespace ControllerCommandReceipt

def validate (receipt : ControllerCommandReceipt) : CheckpointResult Unit := do
  let invalid (message : String) : CheckpointError :=
    ⟨"controller_command_invalid_state", message⟩
  refuse (receipt.schemaVersion != controllerCommandReceiptSchema)
    (invalid "unsupported receipt schema_version")
  refuse (badIdentity receipt.commandId) (invalid "receipt command_id is invalid")
  refuse (!isSha256 receipt.commandDigest) (invalid "receipt command_digest is invalid")
  receipt.handle.validate
  refuse
    (receipt.resumeAttempt == 0 || maxWireInteger < receipt.resumeAttempt ||
      maxWireInteger < receipt.expectedRevision || maxWireInteger < receipt.resultingRevision ||
      maxWireInteger < receipt.outboxAttempt)
    (invalid "receipt integer is invalid")
  refuse
    (!(["pending", "claimed", "delivered", "ambiguous"].contains receipt.outboxState))
    (invalid "receipt outbox_state is invalid")
  refuse (badIdentity receipt.resultingStatus) (invalid "receipt resulting_status is invalid")
  refuse (receipt.outboxDestination.any fun value =>
      controllerCommandMaxUtf8Bytes < value.utf8ByteSize)
    (invalid "receipt outbox_destination is too long")
  refuse
    (!((receipt.outboxAction == "none" && receipt.outboxDestination.isNone) ||
      (receipt.outboxAction == "recovery_dispatch" &&
        receipt.outboxDestination == some "distributed_advance")))
    (invalid "outbox action/destination is not the canonical recovery pair")
  refuse (receipt.outboxAction == "none" && receipt.outboxState != "delivered")
    (invalid "a non-waking receipt must be delivered")

end ControllerCommandReceipt

/-- The identity of a command's row in the wake outbox. -/
def controllerReceiptOutboxId (commandId commandDigest : String) : CheckpointResult String :=
  sha256Canonical
    (.obj
      [("command_digest", .str commandDigest), ("command_id", .str commandId),
        ("schema_version", .str controllerCommandReceiptSchema)])
    "controller wire"

def wakeInvalid (message : String) : CheckpointError :=
  ⟨"controller_command_outbox_invalid", message⟩

namespace ControllerCommandWakeRecord

/-- Action, destination, state and attempt of a wake that go together. -/
def validateAction (record : ControllerCommandWakeRecord) : CheckpointResult Unit :=
  match record.outboxAction, record.outboxDestination with
  | "none", none =>
      refuse (record.outboxState != "delivered" || record.attempt != 0)
        (wakeInvalid "wake record none action is not delivered")
  | "recovery_dispatch", some "distributed_advance" =>
      refuse (record.outboxState != "pending" && record.attempt == 0)
        (wakeInvalid "wake record recovery action has no attempt")
  | _, _ => .error (wakeInvalid "wake record action/destination is invalid")

def validate (record : ControllerCommandWakeRecord) : CheckpointResult Unit := do
  refuse (badIdentity record.commandId || badIdentity record.checkpointKey)
    (wakeInvalid "wake record identity is invalid")
  refuse (!isSha256 record.commandDigest) (wakeInvalid "wake record command_digest is invalid")
  record.handle.validate
  let outboxId ← controllerReceiptOutboxId record.commandId record.commandDigest
  refuse (record.handle.checkpointKey != record.checkpointKey || record.outboxId != outboxId)
    (wakeInvalid "wake record identity is inconsistent")
  refuse
    (record.resumeAttempt == 0 || maxWireInteger < record.resumeAttempt ||
      maxWireInteger < record.expectedRevision || maxWireInteger < record.resultingRevision ||
      maxWireInteger < record.attempt)
    (wakeInvalid "wake record integer is invalid")
  refuse (badIdentity record.resultingStatus)
    (wakeInvalid "wake record resulting_status is invalid")
  refuse (!(["pending", "claimed", "delivered", "ambiguous"].contains record.outboxState))
    (wakeInvalid "wake record outbox_state is invalid")
  record.validateAction
  refuse (record.claimToken.isSome != record.leaseExpiresAtMs.isSome)
    (wakeInvalid "wake record claim and lease are inconsistent")
  refuse (record.outboxState == "claimed" && record.claimToken.isNone)
    (wakeInvalid "claimed wake record has no owner")
  refuse (record.outboxState != "claimed" && record.claimToken.isSome)
    (wakeInvalid "unclaimed wake record has an owner")
  refuse
    (record.claimToken.any badIdentity || record.leaseExpiresAtMs.any (maxWireInteger < ·) ||
      record.deliveredAtMs.any (maxWireInteger < ·))
    (wakeInvalid "wake record lifecycle metadata is invalid")
  refuse (record.lastError.any fun text => hostInteractionContentMaxUtf8Bytes < text.utf8ByteSize)
    (wakeInvalid "wake record last_error is invalid")

def fromReceiptLifecycle (receipt : ControllerCommandReceipt) (outboxId : String)
    (attempt : Nat) (claimToken : Option String) (leaseExpiresAtMs deliveredAtMs : Option Nat)
    (lastError : Option String) : CheckpointResult ControllerCommandWakeRecord := do
  receipt.validate
  refuse (attempt != receipt.outboxAttempt)
    (wakeInvalid "wake record attempt conflicts with receipt")
  let record : ControllerCommandWakeRecord := {
    commandId := receipt.commandId
    commandDigest := receipt.commandDigest
    checkpointKey := receipt.handle.checkpointKey
    handle := receipt.handle
    resumeAttempt := receipt.resumeAttempt
    expectedRevision := receipt.expectedRevision
    resultingRevision := receipt.resultingRevision
    resultingStatus := receipt.resultingStatus
    outboxId
    outboxState := receipt.outboxState
    outboxAction := receipt.outboxAction
    outboxDestination := receipt.outboxDestination
    attempt, claimToken, leaseExpiresAtMs, deliveredAtMs, lastError }
  record.validate
  return record

end ControllerCommandWakeRecord

namespace HostInteractionNotificationPayload

def toValue (payload : HostInteractionNotificationPayload) : Json :=
  .obj
    [("interaction_id", .str payload.interactionId),
      ("logical_cycle", .nat payload.logicalCycle),
      ("notification_id", .str payload.notificationId), ("prompt", .str payload.prompt),
      ("record_id", .str payload.recordId), ("schema_version", .str payload.schemaVersion),
      ("status", .str payload.status), ("wait_reason", .str payload.waitReason)]

def digest (payload : HostInteractionNotificationPayload) : CheckpointResult String :=
  sha256Canonical payload.toValue "host interaction notification"

def validate (payload : HostInteractionNotificationPayload) : CheckpointResult Unit := do
  let invalid (message : String) : CheckpointError :=
    ⟨"host_interaction_fields_invalid", message⟩
  refuse
    (payload.schemaVersion != hostInteractionNotificationSchema ||
      payload.status != "host_interaction" || payload.waitReason != "host_interaction")
    (invalid "notification payload discriminator or state is invalid")
  checkAll
    (fun field : String × String =>
      refuse (badIdentity field.2) (invalid (field.1 ++ " is invalid")))
    [("notification_id", payload.notificationId), ("record_id", payload.recordId),
      ("interaction_id", payload.interactionId)]
  refuse
    (payload.logicalCycle == 0 || maxWireInteger < payload.logicalCycle ||
      isBlank payload.prompt ||
      hostInteractionContentMaxUtf8Bytes < payload.prompt.utf8ByteSize)
    (invalid "notification payload content is invalid")
  refuse (payload.notificationId != notificationIdFor payload.recordId)
    ⟨"notification_conflict", "notification_id does not match the canonical record identity"⟩

end HostInteractionNotificationPayload

namespace HostInteractionNotificationRecord

/-- Which lifecycle fields a notification carries in each of its states. -/
def lifecycleOk (record : HostInteractionNotificationRecord) : Bool :=
  let unclosed :=
    record.deliveredAtMs.isNone && record.abortedAtMs.isNone && record.abortReason.isNone
  match record.outboxState with
  | .pending | .ambiguous => record.claimToken.isNone && unclosed
  | .claimed =>
      record.claimToken.isSome && record.leaseExpiresAtMs.isSome && unclosed &&
        record.attempt != 0
  | .delivered =>
      record.claimToken.isNone && record.deliveredAtMs.isSome && record.abortedAtMs.isNone &&
        record.abortReason.isNone
  | .aborted =>
      record.claimToken.isNone && record.deliveredAtMs.isNone && record.abortedAtMs.isSome &&
        record.abortReason.any (!isBlank ·)

def lifecycleMessage : NotificationOutboxState → String
  | .pending => "pending or ambiguous notification has closed lifecycle fields"
  | .ambiguous => "ambiguous notification has closed lifecycle fields"
  | .claimed => "claimed notification lifecycle fields are incomplete"
  | .delivered => "delivered notification lifecycle fields are invalid"
  | .aborted => "aborted notification lifecycle fields are invalid"

def validate (record : HostInteractionNotificationRecord) : CheckpointResult Unit := do
  let conflict (message : String) : CheckpointError := ⟨"notification_conflict", message⟩
  record.payload.validate
  let digest ← record.payload.digest
  refuse
    (record.notificationId != record.payload.notificationId ||
      record.recordId != record.payload.recordId || record.payloadDigest != digest)
    (conflict "notification identity or payload digest mismatch")
  refuse (!isSha256 record.payloadDigest) (conflict "payload_digest is invalid")
  refuse (record.claimToken.isSome != record.leaseExpiresAtMs.isSome)
    (conflict "notification claim fields must be paired")
  refuse
    (maxWireInteger < record.attempt || record.leaseExpiresAtMs.any (maxWireInteger < ·) ||
      record.deliveredAtMs.any (maxWireInteger < ·) ||
      record.abortedAtMs.any (maxWireInteger < ·))
    (conflict "notification lifecycle integer is outside the JSON-safe range")
  refuse
    ((record.abortReason.any fun reason =>
        isBlank reason || hostInteractionContentMaxUtf8Bytes < reason.utf8ByteSize) ||
      record.lastError.any fun text => hostInteractionContentMaxUtf8Bytes < text.utf8ByteSize)
    (conflict "notification error text is invalid")
  refuse (!record.lifecycleOk) (conflict (lifecycleMessage record.outboxState))

end HostInteractionNotificationRecord

def HostInteractionOutcome.validate (outcome : HostInteractionOutcome) :
    CheckpointResult Unit := do
  let invalid (message : String) : CheckpointError :=
    ⟨"host_interaction_fields_invalid", message⟩
  refuse (outcome.schemaVersion != hostInteractionOutcomeSchema)
    (invalid "unsupported host interaction outcome schema_version")
  refuse (outcome.logicalCycle == 0 || maxWireInteger < outcome.checkpointRevision)
    (invalid "outcome integer is invalid")
  refuse
    ((outcome.status != "admitted" && outcome.status != "replayed") ||
      outcome.outboxState != "pending" ||
      outcome.notificationOutboxAction != "host_interaction_notification" ||
      outcome.notificationOutboxDestination != "host_interaction_observer")
    (invalid "outcome status or outbox_state is invalid")
  refuse (badIdentity outcome.interactionId) (invalid "outcome interaction_id is invalid")
  checkAll
    (fun field : String × String =>
      refuse (badIdentity field.2) (invalid (field.1 ++ " is invalid")))
    [("record_id", outcome.recordId), ("notification_id", outcome.notificationId),
      ("notification_outbox_action", outcome.notificationOutboxAction),
      ("notification_outbox_destination", outcome.notificationOutboxDestination)]
  refuse (!isSha256 outcome.notificationPayloadDigest)
    (invalid "notification_payload_digest is invalid")

def hostInteractionOutcome (request : HostInteractionRequest) (checkpointRevision : Nat)
    (status recordId : String) (notification : HostInteractionNotificationRecord) :
    CheckpointResult HostInteractionOutcome := do
  let outcome : HostInteractionOutcome := {
    schemaVersion := hostInteractionOutcomeSchema
    interactionId := request.interactionId
    logicalCycle := request.logicalCycle
    checkpointRevision, status, recordId
    outboxState := "pending"
    notificationId := notification.notificationId
    notificationPayloadDigest := notification.payloadDigest
    notificationOutboxAction := "host_interaction_notification"
    notificationOutboxDestination := "host_interaction_observer" }
  outcome.validate
  return outcome

def HostInteractionRecoveryEnvelope.validate (envelope : HostInteractionRecoveryEnvelope) :
    CheckpointResult Unit := do
  let stale (message : String) : CheckpointError :=
    ⟨"host_interaction_recovery_stale", message⟩
  refuse
    (envelope.schemaVersion != hostInteractionRecoverySchema || envelope.claimMode != "recovery")
    (stale "recovery envelope schema or claim_mode is invalid")
  checkAll
    (fun field : String × String =>
      refuse (badIdentity field.2) (stale (field.1 ++ " is invalid")))
    [("record_id", envelope.recordId), ("checkpoint_key", envelope.checkpointKey),
      ("run_id", envelope.runId), ("trace_id", envelope.traceId),
      ("interaction_id", envelope.interactionId), ("operation_id", envelope.operationId),
      ("tool_call_id", envelope.toolCallId), ("command_id", envelope.commandId)]
  refuse
    (envelope.resumeAttempt == 0 || maxWireInteger < envelope.resumeAttempt ||
      maxWireInteger < envelope.expectedRevision || envelope.logicalCycle == 0 ||
      maxWireInteger < envelope.logicalCycle)
    (stale "recovery fence is invalid")
  refuse (!isSha256 envelope.requestDigest) (stale "request_digest is invalid")

def HostInteractionRecoveryResult.validate (result : HostInteractionRecoveryResult) :
    CheckpointResult Unit := do
  let stale (message : String) : CheckpointError :=
    ⟨"host_interaction_recovery_stale", message⟩
  refuse
    (result.schemaVersion != hostInteractionRecoveryResultSchema ||
      result.claimMode != "recovery")
    (stale "recovery result schema or claim_mode is invalid")
  refuse
    (!(["applied", "replayed", "rejected"].contains result.kind) || isBlank result.recordId)
    (stale "recovery result kind or record_id is invalid")
  refuse (1 < result.injectionCount) (stale "injection_count must be zero or one")
  refuse
    (!(["retained", "released", "not_acquired"].contains result.checkpointExecutionClaimState))
    (stale "claim state is invalid")
  refuse (result.checkpointRevision.any (maxWireInteger < ·))
    (stale "checkpoint_revision is invalid")
  refuse (result.consumedRevision.any (maxWireInteger < ·)) (stale "consumed_revision is invalid")
  refuse (result.resumeAttempt.any fun attempt => attempt == 0 || maxWireInteger < attempt)
    (stale "resume_attempt is invalid")
  let present :=
    result.checkpointRevision.isSome && result.consumedRevision.isSome &&
      result.resumeAttempt.isSome && result.injectionCount == 1 && result.error.isNone
  let absent :=
    result.checkpointRevision.isNone && result.consumedRevision.isNone &&
      result.resumeAttempt.isNone && result.injectionCount == 0 &&
      result.checkpointExecutionClaimState == "not_acquired" &&
      result.error.any (!isBlank ·)
  refuse
    (!((result.kind == "applied" && present &&
          result.checkpointExecutionClaimState == "retained") ||
        (result.kind == "replayed" && present) || (result.kind == "rejected" && absent)))
    (stale "recovery result fields do not match kind")

/-- Whether an envelope names exactly the record it wants to consume. -/
def recoveryIdentityMatches (checkpoint : Checkpoint) (record : HostInteractionRecord)
    (envelope : HostInteractionRecoveryEnvelope) : Bool :=
  checkpoint.checkpointKey == envelope.checkpointKey &&
    checkpoint.rootRunId == envelope.runId && checkpoint.traceId == envelope.traceId &&
    record.recordId == envelope.recordId && record.checkpointKey == envelope.checkpointKey &&
    record.logicalCycle == envelope.logicalCycle &&
    record.interactionId == envelope.interactionId &&
    record.request.operationId == envelope.operationId &&
    record.request.toolCallId == envelope.toolCallId &&
    record.requestDigest == envelope.requestDigest &&
    record.commandId == some envelope.commandId

end

end VvAgent
