import VvAgent.Checkpoint.Journal
import VvAgent.Events

/-!
The checkpoint record: the outbox of events that are still to be delivered, the
frontier of the archived history, the terminal result and the record itself.
-/

namespace VvAgent
open Lib.Outcome

def checkpointSchema : String := "vv-agent.checkpoint.v12"

def runDefinitionSchema : String := "vv-agent.run-definition.v5"

structure ExtensionStateEntry where
  version : String
  required : Bool
  state : Json
  deriving DecidableEq

namespace ExtensionStateEntry

def validate (entry : ExtensionStateEntry) : CheckpointResult Unit := do
  refuse (isBlank entry.version)
    ⟨"checkpoint_extension_state_invalid", "extension version must be non-empty"⟩
  entry.state.validateIJson "extension state"

def toValue (entry : ExtensionStateEntry) : Json :=
  .obj
    [("required", .bool entry.required), ("state", entry.state),
      ("version", .str entry.version)]

end ExtensionStateEntry

/-- One event of the outbox, `pending` or `delivered`. -/
structure EventOutboxEntry where
  eventId : String
  payloadDigest : String
  state : String
  event : Json
  cursor : Option Json
  deriving DecidableEq

section
variable [Platform]

def eventPayloadDigest (event : Json) : CheckpointResult String := do
  refuse (!event.isObject) ⟨"event_payload_invalid", "event payload must be an object"⟩
  sha256Canonical event "event payload"

namespace EventOutboxEntry

def validate (entry : EventOutboxEntry) : CheckpointResult Unit := do
  refuse (isBlank entry.eventId)
    ⟨"checkpoint_event_outbox_invalid", "event_id must be non-empty"⟩
  validateSha256 entry.payloadDigest "event_outbox.payload_digest"
  refuse (entry.state != "pending" && entry.state != "delivered")
    ⟨"checkpoint_event_outbox_invalid", "outbox state must be pending or delivered"⟩
  refuse (!entry.event.isObject)
    ⟨"checkpoint_event_outbox_invalid", "outbox event must be an object"⟩
  let (eventId, isCanonical) ← require (readEvent entry.event)
    ⟨"checkpoint_event_invalid",
      "outbox event must match the current RunEvent wire contract"⟩
  refuse (eventId != entry.eventId)
    ⟨"event_identity_conflict",
      "outbox event_id must match the embedded RunEvent event_id"⟩
  refuse (!isCanonical)
    ⟨"checkpoint_event_invalid",
      "outbox event must use the canonical current RunEvent shape"⟩
  refuse
    ((entry.state == "pending" && entry.cursor.isSome) ||
      (entry.state == "delivered" && entry.cursor.isNone))
    ⟨"checkpoint_event_outbox_invalid",
      "pending entries have no cursor and delivered entries have one"⟩
  if let some cursor := entry.cursor then do
    let _ ← EventCursor.fromValue cursor

def verifyPayload (entry : EventOutboxEntry) : CheckpointResult Unit := do
  entry.validate
  let digest ← eventPayloadDigest entry.event
  refuse (digest != entry.payloadDigest)
    ⟨"event_identity_conflict", "outbox payload digest does not match event"⟩

def pending (eventId : String) (event : Json) : CheckpointResult EventOutboxEntry := do
  let payloadDigest ← eventPayloadDigest event
  let entry : EventOutboxEntry :=
    { eventId, payloadDigest, state := "pending", event, cursor := none }
  entry.validate
  return entry

end EventOutboxEntry

/-- A candidate under the creation time of the event already in the outbox. -/
def redate (candidate : EventOutboxEntry) (createdAt : Json) :
    CheckpointResult EventOutboxEntry := do
  let members ← require candidate.event.asObject?
    ⟨"checkpoint_event_invalid", "outbox event must be an object"⟩
  let event := Json.obj (insertMember "created_at" createdAt members)
  let payloadDigest ← eventPayloadDigest event
  let redated := { candidate with event, payloadDigest }
  redated.validate
  return redated

/-- Append an event unless its id is taken; a taken id must carry the same event, up to
the time at which it was created. -/
def appendEventOutboxOnce (outbox : List EventOutboxEntry) (candidate : EventOutboxEntry) :
    CheckpointResult (List EventOutboxEntry) :=
  match outbox.find? (fun entry => entry.eventId == candidate.eventId) with
  | none => .ok (outbox ++ [candidate])
  | some existing => do
      existing.verifyPayload
      let candidate ←
        match existing.event.get? "created_at" with
        | some createdAt => redate candidate createdAt
        | none => .ok candidate
      refuse
        (existing.event != candidate.event ||
          existing.payloadDigest != candidate.payloadDigest)
        ⟨"event_identity_conflict", "event id is already bound to a different payload"⟩
      return outbox

end

structure PreviousAgentInput where
  cycleIndex : UInt32
  inputTokens : Option Nat
  deriving DecidableEq

/-- How far the history of a checkpoint has been archived, and what the archive sums
up to. -/
structure CheckpointHistory where
  sequence : Nat := 0
  cycleCount : Nat := 0
  modelCallCount : Nat := 0
  headDigest : Option String := none
  usage : TaskTokenUsageTotals := {}
  previousAgentInput : Option PreviousAgentInput := none
  deriving DecidableEq

def historyError (message : String) : CheckpointError :=
  ⟨"checkpoint_history_invalid", message⟩

def CheckpointHistory.validate (history : CheckpointHistory) : CheckpointResult Unit := do
  refuse
    ([history.sequence, history.cycleCount, history.modelCallCount].any (maxWireInteger < ·) ||
      (history.sequence == 0) != history.headDigest.isNone)
    (historyError "history cursor is malformed")
  if let some digest := history.headDigest then
    validateSha256 digest "history.head_digest"
  refuse (history.sequence == 0 && history != {})
    (historyError "empty history must have the default aggregate")
  refuse (history.sequence != 0 && history.cycleCount + history.modelCallCount == 0)
    (historyError "history batch cannot be empty")
  refuse (history.usage.cacheUsage.source != some "aggregate")
    (historyError "history cache usage must be aggregate")
  refuse
    ([history.usage.inputTokens, history.usage.outputTokens, history.usage.totalTokens,
      history.usage.reasoningTokens,
      history.previousAgentInput.bind (·.inputTokens)].any (·.any (maxWireInteger < ·)))
    (historyError "history usage exceeds JSON-safe integer range")
  refuse (history.previousAgentInput.any (·.cycleIndex == 0))
    (historyError "previous agent input cycle must be positive")

/-- A stored terminal result. The reader accepts a value only when it is the dictionary of
the result read from it, so such a value is kept as that result; every other value is kept
as it is. -/
inductive TerminalValue where
  | decoded (result : AgentResult)
  | foreign (value : Json)
  deriving DecidableEq

/-- The platform together with the reader of terminal results, which is asked about
values that the store itself has edited. -/
class Runtime extends Platform where
  /-- The result whose dictionary an edited value is. -/
  recognizeResult : Json → Option AgentResult

namespace TerminalValue
variable [Platform]

def value : TerminalValue → Json
  | .decoded result => result.toDict
  | .foreign value => value

/-- `AgentResult::from_dict`. -/
def read : TerminalValue → Except String AgentResult
  | .decoded result =>
      if result.wellFormed then .ok result
      else .error "agent result is not in canonical wire form"
  | .foreign _ => .error "agent result is not in canonical wire form"

end TerminalValue

structure Checkpoint where
  schemaVersion : String := checkpointSchema
  runDefinitionSchema : String := VvAgent.runDefinitionSchema
  runDefinition : Json := .obj []
  checkpointKey : String := ""
  taskId : String := ""
  rootRunId : String := ""
  traceId : String := ""
  runDefinitionDigest : String := ""
  resumeAttempt : Nat := 1
  cycleIndex : Nat := 0
  status : CheckpointStatus := .running
  cancelRequested : Bool := false
  activeHostInteraction : Option HostInteractionRequest := none
  suspendedOrigin : Option SuspendedOrigin := none
  messages : List Message := []
  cycles : List CycleRecord := []
  modelCalls : List ModelCallRecord := []
  history : CheckpointHistory := {}
  sharedState : JsonObject := []
  budgetUsage : Option Json := none
  eventCursor : Option EventCursor := none
  eventOutbox : List EventOutboxEntry := []
  extensionState : List (String × ExtensionStateEntry) := []
  modelCallJournal : List OperationJournalEntry := []
  toolJournal : List OperationJournalEntry := []
  revision : Nat := 0
  claimToken : Option String := none
  claimedCycle : Option Nat := none
  leaseExpiresAtMs : Option Nat := none
  terminalResult : Option TerminalValue := none
  terminalAcknowledged : Bool := false
  deriving DecidableEq

namespace Checkpoint

/-- The journals one after the other, as most checks read them. -/
def journals (checkpoint : Checkpoint) : List OperationJournalEntry :=
  checkpoint.modelCallJournal ++ checkpoint.toolJournal

def activeCycle (checkpoint : Checkpoint) : CheckpointResult Nat := do
  let cycle := checkpoint.claimedCycle.getD (checkpoint.cycleIndex + 1)
  refuse (cycle == 0 || maxWireInteger < cycle)
    ⟨"checkpoint_cycle_invalid", "active cycle is outside the JSON-safe range"⟩
  return cycle

def hasAmbiguousOperation (checkpoint : Checkpoint) : Bool :=
  checkpoint.journals.any fun entry => entry.state = .ambiguous

/-- The entries of the tool journal that wait for a deferred result. -/
def deferredEntries (checkpoint : Checkpoint) : List OperationJournalEntry :=
  checkpoint.toolJournal.filter fun entry => entry.state = .deferred

/-- The checkpoint without its claim. -/
def releaseClaim (checkpoint : Checkpoint) : Checkpoint :=
  { checkpoint with claimToken := none, claimedCycle := none, leaseExpiresAtMs := none }

end Checkpoint

end VvAgent
