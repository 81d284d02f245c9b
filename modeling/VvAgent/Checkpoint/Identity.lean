import VvAgent.Types.Result

/-!
The identities that cross the store boundary: tool receipts, deferred tool handles,
host-interaction requests and event cursors. Each is checked by its own `validate`,
and each digest is SHA-256 of a canonical object.
-/

namespace VvAgent
open Lib.Outcome

/-- A tool result failure under a checkpoint error code. -/
def withCode {α : Type} (code : String) (result : Except String α) : CheckpointResult α :=
  match result with
  | .ok value => .ok value
  | .error message => .error ⟨code, message⟩

@[simp]
theorem withCode_eq_ok {α : Type} (code : String) (result : Except String α) (value : α) :
    withCode code result = .ok value ↔ result = .ok value := by
  cases result <;> simp [withCode]

/-- The same, with the failure's text after an introduction. -/
def withContext {α : Type} (code context : String) (result : Except String α) :
    CheckpointResult α :=
  withCode code (result.mapError (context ++ ·))

@[simp]
theorem withContext_eq_ok {α : Type} (code context : String) (result : Except String α)
    (value : α) : withContext code context result = .ok value ↔ result = .ok value := by
  cases result <;> simp [withContext, withCode, Except.mapError]

section
variable [Platform]

/-- The key under which one tool receipt is retained. -/
def toolReceiptIdentityKey (checkpointKey operationId : String) (attempt : Nat)
    (toolCallId requestDigest : String) : CheckpointResult String :=
  sha256Canonical
    (.obj
      [("attempt", .nat attempt), ("checkpoint_key", .str checkpointKey),
        ("operation_id", .str operationId), ("request_digest", .str requestDigest),
        ("tool_call_id", .str toolCallId)])
    "tool receipt identity"

def toolResultDigest (result : ToolExecutionResult) : CheckpointResult String := do
  withCode "tool_result_invalid" result.validate
  sha256Canonical result.toDict "tool execution result"

end

/-- The framework identity a provider callback carries. -/
structure DeferredToolHandle where
  schemaVersion : String
  checkpointKey : String
  operationId : String
  attempt : Nat
  requestDigest : String
  deriving DecidableEq

namespace DeferredToolHandle

def schema : String := "vv-agent.deferred-tool-handle.v2"

def toValue (handle : DeferredToolHandle) : Json :=
  .obj
    [("attempt", .nat handle.attempt), ("checkpoint_key", .str handle.checkpointKey),
      ("operation_id", .str handle.operationId),
      ("request_digest", .str handle.requestDigest),
      ("schema_version", .str handle.schemaVersion)]

def fromValue : Json → Option DeferredToolHandle
  | .obj
      [("attempt", .num (.posInt attempt)), ("checkpoint_key", .str checkpointKey),
        ("operation_id", .str operationId), ("request_digest", .str requestDigest),
        ("schema_version", .str schemaVersion)] =>
      some { schemaVersion, checkpointKey, operationId, attempt, requestDigest }
  | _ => none

def validate (handle : DeferredToolHandle) : CheckpointResult Unit := do
  refuse (handle.schemaVersion != schema)
    ⟨"deferred_handle_schema_unsupported", "deferred handle schema_version is unsupported"⟩
  refuse (isBlank handle.checkpointKey)
    ⟨"deferred_handle_invalid", "deferred handle checkpoint_key must be non-empty"⟩
  refuse (isBlank handle.operationId)
    ⟨"deferred_handle_invalid", "deferred handle operation_id must be non-empty"⟩
  refuse (handle.attempt == 0 || maxWireInteger < handle.attempt)
    ⟨"deferred_handle_invalid",
      "deferred handle attempt must be a positive JSON-safe integer"⟩
  validateSha256 handle.requestDigest "deferred handle request_digest"

def handleKey [Platform] (handle : DeferredToolHandle) : CheckpointResult String := do
  handle.validate
  sha256Canonical handle.toValue "deferred handle"

end DeferredToolHandle

def hostInteractionMaxUtf8Bytes : Nat := 512

def hostInteractionContentMaxUtf8Bytes : Nat := 65536

/-- Empty after trimming, or longer than the limit for identities. -/
def badIdentity (value : String) : Bool :=
  isBlank value || hostInteractionMaxUtf8Bytes < value.utf8ByteSize

/-- A request the framework puts to the host. -/
structure HostInteractionRequest where
  schemaVersion : String
  interactionId : String
  logicalCycle : Nat
  operationId : String
  toolCallId : String
  requestDigest : String
  prompt : String
  deriving DecidableEq

namespace HostInteractionRequest

def schema : String := "vv-agent.host-interaction-request.v1"

def toValueWithoutDigest (request : HostInteractionRequest) : Json :=
  .obj
    [("interaction_id", .str request.interactionId),
      ("logical_cycle", .nat request.logicalCycle),
      ("operation_id", .str request.operationId), ("prompt", .str request.prompt),
      ("schema_version", .str request.schemaVersion),
      ("tool_call_id", .str request.toolCallId)]

variable [Platform]

def computedDigest (request : HostInteractionRequest) : CheckpointResult String :=
  sha256Canonical request.toValueWithoutDigest "controller wire"

def validateDigest (request : HostInteractionRequest) : CheckpointResult Unit := do
  refuse (!isSha256 request.requestDigest)
    ⟨"host_interaction_fields_invalid", "request_digest must be lowercase SHA-256"⟩
  let digest ← request.computedDigest
  refuse (digest != request.requestDigest)
    ⟨"host_interaction_fields_invalid",
      "request_digest does not match the canonical request"⟩

def validate (request : HostInteractionRequest) : CheckpointResult Unit := do
  refuse (request.schemaVersion != schema)
    ⟨"host_interaction_fields_invalid",
      "unsupported host interaction request schema_version"⟩
  checkAll
    (fun field : String × String =>
      refuse (badIdentity field.2)
        ⟨"host_interaction_fields_invalid",
          field.1 ++ " is empty or exceeds the identity limit"⟩)
    [("interaction_id", request.interactionId), ("operation_id", request.operationId),
      ("tool_call_id", request.toolCallId)]
  refuse (request.logicalCycle == 0 || maxWireInteger < request.logicalCycle)
    ⟨"host_interaction_fields_invalid", "logical_cycle must be positive and JSON-safe"⟩
  refuse (isBlank request.prompt)
    ⟨"host_interaction_fields_invalid", "prompt must be non-empty"⟩
  refuse (hostInteractionContentMaxUtf8Bytes < request.prompt.utf8ByteSize)
    ⟨"host_interaction_content_too_large", "prompt exceeds 65536 UTF-8 bytes"⟩
  request.validateDigest

end HostInteractionRequest

/-- The state a suspended checkpoint returns to. -/
structure SuspendedOrigin where
  status : String
  activeHostInteraction : Option HostInteractionRequest
  deriving DecidableEq

namespace SuspendedOrigin

def running : SuspendedOrigin := ⟨"running", none⟩

def deferred : SuspendedOrigin := ⟨"deferred", none⟩

def hostInteraction (request : HostInteractionRequest) : SuspendedOrigin :=
  ⟨"host_interaction", some request⟩

def validate [Platform] (origin : SuspendedOrigin) : CheckpointResult Unit :=
  let mismatch : CheckpointError := ⟨"checkpoint_status_invalid",
    "suspended_origin status and active_host_interaction do not match"⟩
  match origin.activeHostInteraction with
  | none => refuse (origin.status != "running" && origin.status != "deferred") mismatch
  | some request => do
      refuse (origin.status != "host_interaction") mismatch
      request.validate

end SuspendedOrigin

structure CapabilityRef where
  id : String
  version : String
  deriving DecidableEq

/-- Where an event store stands after a delivery. -/
structure EventCursor where
  schemaVersion : String
  storeRef : CapabilityRef
  value : Json
  lastEventId : Option String
  deriving DecidableEq

namespace EventCursor

def schema : String := "vv-agent.event-cursor.v1"

def validate (cursor : EventCursor) : CheckpointResult Unit := do
  refuse (cursor.schemaVersion != schema)
    ⟨"checkpoint_event_cursor_schema_unsupported",
      "unsupported event cursor schema_version"⟩
  refuse (isBlank cursor.storeRef.id || isBlank cursor.storeRef.version)
    ⟨"checkpoint_capability_ref_invalid",
      "event cursor store_ref requires non-empty id and version"⟩
  cursor.value.validateIJson "event cursor value"
  refuse (cursor.lastEventId.any isBlank)
    ⟨"checkpoint_event_cursor_invalid", "last_event_id must be non-empty when present"⟩

def toValue (cursor : EventCursor) : Json :=
  .obj
    [("last_event_id", .optStr cursor.lastEventId), ("schema_version", .str cursor.schemaVersion),
      ("store_ref",
        .obj [("id", .str cursor.storeRef.id), ("version", .str cursor.storeRef.version)]),
      ("value", cursor.value)]

/-- The members of a closed object with exactly the given fields. -/
def closedMembers (value : Json) (fields : List String) (notObject badFields : String) :
    CheckpointResult JsonObject := do
  let members ← require value.asObject? ⟨"checkpoint_event_cursor_invalid", notObject⟩
  refuse
    (members.length != fields.length ||
      fields.any fun field => (members.lookup field).isNone)
    ⟨"checkpoint_event_cursor_invalid", badFields⟩
  return members

def readStoreRef (value : Json) : CheckpointResult CapabilityRef := do
  let members ← closedMembers value ["id", "version"]
    "event cursor store_ref must be an object"
    "event cursor store_ref has missing or unknown fields"
  let invalid (message : String) : CheckpointError :=
    ⟨"checkpoint_event_cursor_invalid", message⟩
  let id ← require (members.lookup "id" >>= Json.asStr?)
    (invalid "event cursor store_ref must be an object")
  let version ← require (members.lookup "version" >>= Json.asStr?)
    (invalid "event cursor store_ref must be an object")
  refuse (isBlank id) (invalid "event cursor store_ref.id must be non-empty")
  refuse (isBlank version) (invalid "event cursor store_ref.version must be non-empty")
  return { id, version }

def fromValue (value : Json) : CheckpointResult EventCursor := do
  let members ← closedMembers value ["schema_version", "store_ref", "value", "last_event_id"]
    "event cursor must be an object" "event cursor has missing or unknown fields"
  let schemaVersion ← require (members.lookup "schema_version" >>= Json.asStr?)
    ⟨"checkpoint_event_cursor_invalid", "event cursor schema_version must be a string"⟩
  let storeRef ← readStoreRef ((members.lookup "store_ref").getD .null)
  let lastEventId ← require ((members.lookup "last_event_id").getD .null).readOptStr
    ⟨"checkpoint_event_cursor_invalid", "event cursor last_event_id must be a string or null"⟩
  let cursor : EventCursor :=
    { schemaVersion, storeRef, value := (members.lookup "value").getD .null, lastEventId }
  cursor.validate
  return cursor

end EventCursor

section
variable [Platform]

def validateRunDefinition (definition : Json) : CheckpointResult Unit := do
  definition.validateIJson "run_definition"
  Platform.readRunDefinition definition

def runDefinitionDigest (definition : Json) : CheckpointResult String := do
  validateRunDefinition definition
  sha256Canonical definition "run_definition"

end

/-- An error of one external operation. -/
structure OperationError where
  code : String
  message : String
  retryable : Bool
  deriving DecidableEq

def OperationError.validate (error : OperationError) : CheckpointResult Unit :=
  refuse (isBlank error.code || isBlank error.message)
    ⟨"operation_error_invalid", "operation error code and message must be non-empty"⟩

/-- The error a journal records for a failed tool result. -/
def operationErrorFromToolResult (result : ToolExecutionResult) : OperationError where
  code := (result.errorCode.filter (· != "")).getD "tool_operation_failed"
  message := if result.content == "" then "tool operation failed" else result.content
  retryable := ((result.metadata.lookup "retryable") >>= Json.asBool?).getD false

/-- An error result that leaves open whether the tool took effect. -/
def isAmbiguousToolResult (result : ToolExecutionResult) : Bool :=
  result.status = .error &&
    (result.errorCode.any fun code =>
      ["tool_timeout", "tool_cancelled", "tool_connection_lost", "tool_execution_failed",
        "tool_orchestrator_error"].contains code) &&
    !((result.metadata.lookup "definitive_outcome") >>= Json.asBool?).getD false

def validateDefinitiveResult (result : ToolExecutionResult) : CheckpointResult Unit := do
  refuse (result.status = .success && result.errorCode.isSome)
    ⟨"tool_result_invalid", "SUCCESS results must not contain an error_code"⟩
  withCode "deferred_resolution_result_invalid" result.validate
  refuse (result.status != .success && result.status != .error)
    ⟨"deferred_resolution_result_invalid", "deferred resolution requires SUCCESS or ERROR"⟩
  refuse (isAmbiguousToolResult result)
    ⟨"deferred_resolution_result_invalid",
      "deferred resolution requires a definitive outcome"⟩

/-- `result_digest` of the deferred protocol: serialization validates first. -/
def resultDigest [Platform] (result : ToolExecutionResult) : CheckpointResult String := do
  withCode "deferred_receipt_invalid" result.validate
  sha256Canonical result.toDict "deferred result"

end VvAgent
