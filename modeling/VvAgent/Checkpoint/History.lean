import VvAgent.Checkpoint.Validation

/-!
The archive of a checkpoint. Before a write is stored, completed cycles and model calls
move out of the active record into a batch; the batches form a hash chain and the record
keeps the frontier of that chain. Reading the archive back recomputes the frontier. A
batch is stored as its canonical text, here the tree that is read back from it.
-/

namespace VvAgent
open Lib.Outcome

structure CheckpointHistoryRecords where
  cycles : List CycleRecord := []
  modelCalls : List ModelCallRecord := []
  frontier : CheckpointHistory := {}
  deriving DecidableEq

structure CheckpointHistoryBatch where
  payload : Json
  payloadDigest : String
  sequence : Nat
  deriving DecidableEq

def historySchema : String := "vv-agent.checkpoint-history.v1"

def historyPayload (checkpointKey : String) (sequence : Nat) (previousDigest : Option String)
    (cycles modelCalls : List Json) : Json :=
  .obj
    [("checkpoint_key", .str checkpointKey), ("cycles", .arr cycles),
      ("model_calls", .arr modelCalls), ("previous_digest", .optStr previousDigest),
      ("schema_version", .str historySchema), ("sequence", .nat sequence)]

/-- The frontier after one more archived model call. -/
def CheckpointHistory.addCall (history : CheckpointHistory) (record : ModelCallRecord) :
    CheckpointHistory :=
  { history with
    usage := history.usage.append record (history.modelCallCount == 0)
    modelCallCount := history.modelCallCount + 1
    previousAgentInput :=
      if record.operation = .agentCycle ∧ record.status = .completed then
        some { cycleIndex := record.cycleIndex, inputTokens := record.usage.inputTokens }
      else history.previousAgentInput }

/-- The cycle from which on records stay active: the last one of a finished run, else the
last committed one. -/
def retainedCycle (checkpoint : Checkpoint) : Option Nat :=
  if checkpoint.terminalResult.isSome then
    checkpoint.cycles.getLast?.map (·.index.toNat)
  else
    ((checkpoint.cycles.map (·.index.toNat)).filter (· ≤ checkpoint.cycleIndex)).max?

/-- Whether a model call leaves the record: its cycle is over and no journal refers to it. -/
def archivesCall (checkpoint : Checkpoint) (retained : Nat) (record : ModelCallRecord) : Bool :=
  record.cycleIndex.toNat < retained &&
    !(checkpoint.modelCallJournal.filterMap (·.callId)).contains record.callId

def archivesCycle (retained : Nat) (cycle : CycleRecord) : Bool := cycle.index.toNat < retained

section
variable [Platform]

/-- A terminal result after the record it summarizes has been trimmed. -/
def trimTerminal (cycles : List CycleRecord) (modelCalls : List ModelCallRecord)
    (terminal : Option TerminalValue) : CheckpointResult (Option TerminalValue) :=
  match terminal with
  | none => .ok none
  | some value => do
      let result ← withCode "checkpoint_history_invalid" value.read
      return some (.decoded { result with
        cycles
        tokenUsage := summarizeTaskTokenUsage modelCalls })

/-- Move completed history out of the active record. -/
def normalizeCheckpointHistory (checkpoint : Checkpoint) :
    CheckpointResult (Checkpoint × Option CheckpointHistoryBatch) :=
  match retainedCycle checkpoint with
  | none => .ok (checkpoint, none)
  | some retained => do
      let cycles := checkpoint.cycles.filter (archivesCycle retained)
      let modelCalls := checkpoint.modelCalls.filter (archivesCall checkpoint retained)
      if cycles.isEmpty && modelCalls.isEmpty then return (checkpoint, none)
      else do
        let sequence := checkpoint.history.sequence + 1
        refuse (maxWireInteger < sequence) (historyError "history sequence overflow")
        let payload := historyPayload checkpoint.checkpointKey sequence
          checkpoint.history.headDigest (cycles.map CycleRecord.toDict)
          (modelCalls.map ModelCallRecord.toValue)
        let payloadDigest ← sha256Canonical payload "checkpoint history"
        let counted :=
          { checkpoint.history with
            cycleCount := checkpoint.history.cycleCount + cycles.length }
        let history :=
          { modelCalls.foldl CheckpointHistory.addCall counted with
            sequence
            headDigest := some payloadDigest }
        let activeCycles := checkpoint.cycles.filter fun cycle => !archivesCycle retained cycle
        let activeCalls :=
          checkpoint.modelCalls.filter fun record => !archivesCall checkpoint retained record
        let terminalResult ← trimTerminal activeCycles activeCalls checkpoint.terminalResult
        let normalized :=
          { checkpoint with
            cycles := activeCycles
            modelCalls := activeCalls
            history
            terminalResult }
        validateCheckpoint normalized
        return (normalized, some { payload, payloadDigest, sequence })

def decodeCycles (cycles : List CycleRecord) : List Json → CheckpointResult (List CycleRecord)
  | [] => .ok cycles
  | value :: rest => do
      let cycle ← withCode "checkpoint_history_invalid" (CycleRecord.fromDict value)
      refuse (cycles.getLast?.any fun existing => cycle.index ≤ existing.index)
        (historyError "duplicate or unordered historical cycle")
      decodeCycles (cycles ++ [cycle]) rest

def decodeCalls (records : List ModelCallRecord) (aggregate : CheckpointHistory) :
    List ModelCallRecord → CheckpointResult (List ModelCallRecord × CheckpointHistory)
  | [] => .ok (records, aggregate)
  | record :: rest => do
      refuse (records.any fun existing => existing.callId == record.callId)
        (historyError "duplicate historical model call")
      decodeCalls (records ++ [record]) (aggregate.addCall record) rest

/-- What reading the archive has accumulated so far. -/
structure DecodeState where
  cycles : List CycleRecord := []
  modelCalls : List ModelCallRecord := []
  previous : Option String := none
  aggregate : CheckpointHistory := {}
  deriving DecidableEq

def decodePayload (checkpointKey : String) (index : Nat) (state : DecodeState) (payload : Json) :
    CheckpointResult DecodeState := do
  let members ← require payload.asObject? (historyError "history batch must be an object")
  let fields := ["schema_version", "checkpoint_key", "sequence", "previous_digest", "cycles",
    "model_calls"]
  refuse
    (members.length != fields.length ||
      (fields.any fun field => (members.lookup field).isNone) ||
      members.lookup "schema_version" != some (.str historySchema) ||
      members.lookup "checkpoint_key" != some (.str checkpointKey) ||
      (members.lookup "sequence" >>= Json.asU64?) != some (index + 1) ||
      members.lookup "previous_digest" != some (.optStr state.previous))
    (historyError "history batch identity or chain is invalid")
  let cycleValues ← require (members.lookup "cycles" >>= Json.asArray?)
    (historyError "history cycles must be an array")
  let cycles ← decodeCycles state.cycles cycleValues
  let calls ← require
    (do (← members.lookup "model_calls" >>= Json.asArray?).mapM ModelCallRecord.fromValue)
    (historyError "invalid model call record")
  refuse (calls.isEmpty && cycleValues.isEmpty) (historyError "empty history batch")
  let (modelCalls, aggregate) ← decodeCalls state.modelCalls state.aggregate calls
  let digest ← sha256Canonical payload "checkpoint history"
  return { cycles, modelCalls, previous := some digest, aggregate }

def decodePayloads (checkpointKey : String) :
    Nat → DecodeState → List Json → CheckpointResult DecodeState
  | _, state, [] => .ok state
  | index, state, payload :: rest => do
      let next ← decodePayload checkpointKey index state payload
      decodePayloads checkpointKey (index + 1) next rest

/-- Read the archive back and compare it with the frontier and the active record. -/
def decodeCheckpointHistory (checkpoint : Checkpoint) (payloads : List Json) :
    CheckpointResult CheckpointHistoryRecords := do
  refuse (payloads.length != checkpoint.history.sequence)
    (historyError "history archive is incomplete")
  let state ← decodePayloads checkpoint.checkpointKey 0 {} payloads
  let aggregate :=
    { state.aggregate with
      sequence := payloads.length
      cycleCount := state.cycles.length
      headDigest := state.previous }
  refuse (aggregate != checkpoint.history)
    (historyError "history aggregate or digest mismatch")
  refuse
    ((state.cycles.any fun archived =>
        checkpoint.cycles.any fun active => active.index == archived.index) ||
      state.modelCalls.any fun archived =>
        checkpoint.modelCalls.any fun active => active.callId == archived.callId)
    (historyError "archive overlaps the active checkpoint tail")
  return { cycles := state.cycles, modelCalls := state.modelCalls, frontier := aggregate }

/-- Put the cycles of a result behind the archived ones. -/
def hydrateCycles (cycles : List CycleRecord) :
    List CycleRecord → CheckpointResult (List CycleRecord)
  | [] => .ok cycles
  | cycle :: rest =>
      match cycles.find? fun existing => existing.index == cycle.index with
      | some existing => do
          refuse (existing != cycle) (historyError "result conflicts with archived cycle")
          hydrateCycles cycles rest
      | none => hydrateCycles (cycles ++ [cycle]) rest

def hydrateCalls (calls : List ModelCallRecord) :
    List ModelCallRecord → CheckpointResult (List ModelCallRecord)
  | [] => .ok calls
  | call :: rest => do
      refuse (calls.any fun existing => existing.callId == call.callId)
        (historyError "model call appears in both history and active tail")
      hydrateCalls (calls ++ [call]) rest

/-- The complete result of a run, from its record and its archive. -/
def hydrateCheckpointResult (checkpoint : Checkpoint)
    (archive : CheckpointResult CheckpointHistoryRecords) (result : AgentResult) :
    CheckpointResult AgentResult :=
  if checkpoint.history.sequence = 0 then .ok result
  else do
    let archived ← archive
    refuse (archived.frontier != checkpoint.history)
      ⟨"checkpoint_history_changed", "history changed during result hydration"⟩
    let cycles ← hydrateCycles archived.cycles result.cycles
    let calls ← hydrateCalls archived.modelCalls checkpoint.modelCalls
    return { result with cycles, tokenUsage := summarizeTaskTokenUsage calls }

end

end VvAgent
