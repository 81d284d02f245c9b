import VvAgent.Distributed.Contract
import VvAgent.Store.Invariant

/-!
The nonblocking driver of a distributed run. Each time a delivery has come back, `advance`
reads the checkpoint once and decides: replay the terminal result, wait, ask for the result to
be finalized, or enqueue exactly one envelope for the next cycle. The enqueuer belongs to the
host; the model records the calls made to it.
-/

namespace VvAgent
open Lib Lib.Outcome

structure DistributedRunHandle where
  checkpointKey : String
  runId : String
  traceId : String
  deriving DecidableEq

def DistributedRunHandle.fromCheckpoint (checkpoint : Checkpoint) : DistributedRunHandle where
  checkpointKey := checkpoint.checkpointKey
  runId := checkpoint.rootRunId
  traceId := checkpoint.traceId

inductive DistributedDeliveryOutcome where
  | worker (response : CycleDispatchResult)
  | transportFailure (error : String)

def DistributedDeliveryOutcome.response : DistributedDeliveryOutcome → Option CycleDispatchResult
  | .worker response => some response
  | .transportFailure _ => none

inductive DistributedWaitReason where
  | activeClaim | reconciliationRequired | hostInteraction | suspended | deferredPending
  | supersededDelivery
  deriving DecidableEq

inductive DistributedAdvanceDecision where
  | dispatch (handle : DistributedRunHandle) (envelope : DistributedRunEnvelope)
  | retryAt (handle : DistributedRunHandle) (envelope : DistributedRunEnvelope)
      (notBeforeUnixMs : Nat)
  | wait (handle : DistributedRunHandle) (reason : DistributedWaitReason)
  | finalizeRequired (handle : DistributedRunHandle) (checkpointRevision : Nat)
      (result : AgentResult)
  | terminalReplay (handle : DistributedRunHandle) (checkpointRevision : Nat)
      (result : AgentResult)

/-- A call of the host's enqueuer. -/
structure EnqueuedEnvelope where
  envelope : DistributedRunEnvelope
  notBeforeUnixMs : Option Nat

/-- The backend of a nonblocking driver. The registry is known by the references under which
it holds a checkpoint store; the store itself is an argument of the operations. -/
structure DistributedBackend where
  runtimeRecipe : Option RuntimeRecipe
  capabilityRegistry : Option (List CapabilityRef)
  cycleEnqueuer : Option (DistributedRunEnvelope → Option Nat → DistributedResult Unit)
  cycleName : String
  dispatchTimeoutMs : Nat
  leaseDurationMs : Nat

def lastAssistantOutput (cycles : List CycleRecord) : Option String :=
  (cycles.reverse.find? fun cycle => !isBlank cycle.assistantMessage).map (·.assistantMessage)

/-- What is left to do once the delivery has been judged: nothing, hydrate a result that the
caller is to finalize, or send out the next cycle. -/
inductive AdvancePlan where
  | decided (decision : DistributedAdvanceDecision)
  | finalize (result : AgentResult)
  | dispatch (cycleIndex : Nat) (claimMode : ClaimMode) (notBeforeUnixMs : Option Nat)

section
variable [Runtime]

def approvalWaitsUnsupported : String :=
  "nonblocking distributed runs do not support brokered approval waits"

def validateCheckpointIdentity (envelope : DistributedRunEnvelope) (checkpoint : Checkpoint) :
    DistributedResult Unit :=
  refuse
    (checkpoint.checkpointKey != envelope.checkpointConfig.key ||
      checkpoint.taskId != envelope.task.taskId || checkpoint.rootRunId != envelope.rootRunId ||
      checkpoint.traceId != envelope.traceId ||
      checkpoint.runDefinitionDigest != envelope.runDefinitionDigest)
    "distributed advance envelope does not match the authoritative checkpoint"

def hydrateStored (store : MemoryStore) (checkpoint : Checkpoint) (result : AgentResult) :
    DistributedResult AgentResult :=
  reported (hydrateCheckpointResult checkpoint
    (store.loadCheckpointHistory checkpoint.checkpointKey) result)

/-- The run has ended: its result is replayed, and a worker that replayed it too must have
seen the same. -/
def replayTerminal (store : MemoryStore) (checkpoint : Checkpoint)
    (response : Option CycleDispatchResult) (terminal : TerminalValue) :
    DistributedResult DistributedAdvanceDecision := do
  let read ← terminal.read.mapError ("invalid durable terminal result: " ++ ·)
  let result ← hydrateStored store checkpoint read
  match response with
  | some (.terminalReplay checkpointRevision observed) =>
      refuse (checkpointRevision != checkpoint.revision || observed != result)
        "distributed terminal replay does not match the durable checkpoint"
  | _ => .ok ()
  return .terminalReplay (.fromCheckpoint checkpoint) checkpoint.revision result

/-- The statuses in which the run waits for somebody else, with the reason of the wait and
the error of a claim that should not be there. -/
def barrierOf : CheckpointStatus → Option (DistributedWaitReason × String)
  | .hostInteraction =>
      some (.hostInteraction,
        "checkpoint_store_conflict: host interaction cannot retain an execution claim")
  | .suspended =>
      some (.suspended,
        "checkpoint_store_conflict: suspended checkpoint cannot retain an execution claim")
  | .deferred =>
      some (.deferredPending,
        "checkpoint_store_conflict: distributed deferred checkpoint cannot retain an active claim")
  | _ => none

/-- A worker that ended the run keeps its claim until the result is finalized; one that asks
for reconciliation has given it up. -/
def judgeCandidate (previous : DistributedRunEnvelope) (checkpoint : Checkpoint)
    (checkpointRevision : Nat) (result : AgentResult) : DistributedResult AdvancePlan := do
  refuse (checkpointRevision != checkpoint.revision)
    "distributed terminal candidate revision does not match the checkpoint"
  if result.status = .reconciliationRequired then do
    refuse (checkpoint.status != .reconciliationRequired || checkpoint.claimToken.isSome)
      "distributed reconciliation candidate does not match durable state"
    return .decided (.wait (.fromCheckpoint checkpoint) .reconciliationRequired)
  else do
    refuse
      (checkpoint.claimToken.isNone ||
        checkpoint.claimedCycle != some previous.cycleIndex.toNat)
      "distributed terminal candidate does not retain the dispatched cycle claim"
    refuse (result.cycles.getLast?.any fun cycle => cycle.index != previous.cycleIndex)
      "distributed terminal candidate does not contain the dispatched cycle"
    return .finalize result

def checkCommitted (previous : DistributedRunEnvelope) (checkpoint : Checkpoint) :
    Option CycleDispatchResult → DistributedResult Unit
  | some (.committed _ committedCycle) => do
      refuse (committedCycle != previous.cycleIndex.toNat)
        "distributed committed response does not match the dispatched cycle"
      refuse (checkpoint.cycleIndex < committedCycle)
        "distributed committed response is ahead of the checkpoint"
  | _ => .ok ()

/-- A later cycle has been committed or claimed in the meantime. -/
def supersedes (checkpoint : Checkpoint) (previousCycle : Nat) : Bool :=
  previousCycle < checkpoint.cycleIndex || checkpoint.claimedCycle.any (previousCycle < ·)

def checkCommittedRevision (checkpoint : Checkpoint) :
    Option CycleDispatchResult → DistributedResult Unit
  | some (.committed checkpointRevision _) =>
      refuse (checkpoint.claimToken.isNone && checkpointRevision != checkpoint.revision)
        "distributed committed response revision does not match the checkpoint"
  | _ => .ok ()

/-- The cycle to send out, how it is to be claimed, and from when on. -/
def nextDispatch (checkpoint : Checkpoint) (previousCycle nowMs : Nat) :
    DistributedResult (Nat × ClaimMode × Option Nat) :=
  if checkpoint.claimToken.isSome then do
    let cycleIndex ← require checkpoint.claimedCycle "distributed checkpoint has a partial claim"
    return (cycleIndex, .recovery, checkpoint.leaseExpiresAtMs.filter (nowMs < ·))
  else if checkpoint.cycleIndex = previousCycle then do
    let cycleIndex ← require (checkedAdd checkpoint.cycleIndex 1) "distributed cycle index overflow"
    return (cycleIndex, .continue, none)
  else if checkedAdd checkpoint.cycleIndex 1 = some previousCycle then
    return (previousCycle, .recovery, none)
  else .error "distributed delivery is out of order with the checkpoint"

def maxCyclesResult (checkpoint : Checkpoint) : AgentResult where
  status := .maxCycles
  messages := checkpoint.messages
  cycles := checkpoint.cycles
  completionReason := some .maxCycles
  partialOutput := lastAssistantOutput checkpoint.cycles
  budgetUsage := checkpoint.budgetUsage
  finalAnswer := some "Reached max cycles without finish signal."
  sharedState := checkpoint.sharedState
  tokenUsage := summarizeTaskTokenUsage checkpoint.modelCalls

/-- A run that is under way: the delivery has been overtaken, or the next cycle follows. -/
def judgeRunning (previous : DistributedRunEnvelope) (checkpoint : Checkpoint)
    (response : Option CycleDispatchResult) (nowMs : Nat) : DistributedResult AdvancePlan := do
  checkCommitted previous checkpoint response
  if supersedes checkpoint previous.cycleIndex.toNat then
    return .decided (.wait (.fromCheckpoint checkpoint) .supersededDelivery)
  else do
    checkCommittedRevision checkpoint response
    let next ← nextDispatch checkpoint previous.cycleIndex.toNat nowMs
    if previous.task.maxCycles.toNat < next.1 then return .finalize (maxCyclesResult checkpoint)
    else return .dispatch next.1 next.2.1 next.2.2

/-- The part of `advance` that looks at a run which has not ended. -/
def judgeOpen (previous : DistributedRunEnvelope) (checkpoint : Checkpoint)
    (response : Option CycleDispatchResult) (nowMs : Nat) : DistributedResult AdvancePlan :=
  match barrierOf checkpoint.status with
  | some (reason, conflict) => do
      refuse checkpoint.claimToken.isSome conflict
      return .decided (.wait (.fromCheckpoint checkpoint) reason)
  | none =>
      match response with
      | some (.terminalCandidate checkpointRevision result) =>
          judgeCandidate previous checkpoint checkpointRevision result
      | _ =>
          if checkpoint.status = .reconciliationRequired then
            return .decided (.wait (.fromCheckpoint checkpoint) .reconciliationRequired)
          else judgeRunning previous checkpoint response nowMs

namespace DistributedBackend

def validateNonblockingRecipe (backend : DistributedBackend) : DistributedResult Unit := do
  let recipe ← require backend.runtimeRecipe "nonblocking DistributedBackend requires a RuntimeRecipe"
  recipe.validate
  refuse recipe.brokersApprovals approvalWaitsUnsupported

/-- What `advance` checks before it reads the checkpoint. -/
def admitOutcome (backend : DistributedBackend) (previous : DistributedRunEnvelope)
    (outcome : DistributedDeliveryOutcome) : DistributedResult Unit := do
  backend.validateNonblockingRecipe
  previous.validate
  refuse previous.recipe.brokersApprovals approvalWaitsUnsupported
  match outcome with
  | .transportFailure error =>
      refuse (isBlank error) "distributed transport error must be a non-empty string"
  | .worker response => response.validate
  let registered ← require backend.capabilityRegistry
    "nonblocking DistributedBackend requires a DistributedCapabilityRegistry"
  let reference ← require previous.recipe.capabilities.checkpointStoreRef
    "distributed run requires checkpoint_store_ref"
  refuse (!registered.contains reference)
    ("unknown distributed capability checkpoint_store " ++ reference.id ++ "@" ++ reference.version)

def envelopeFromCheckpoint (backend : DistributedBackend) (previous : DistributedRunEnvelope)
    (checkpoint : Checkpoint) (cycleIndex : UInt32) (claimMode : ClaimMode)
    (notBefore : Option Nat) (nowMs : Nat) : DistributedResult DistributedRunEnvelope := do
  let metadataDenials ← projectedMetadataDenials previous.task
  refuse (UInt64.size ≤ backend.dispatchTimeoutMs)
    "distributed dispatch timeout exceeds u64 milliseconds"
  let deadlineUnixMs ←
    require (checkedAdd (max nowMs (notBefore.getD 0)) backend.dispatchTimeoutMs)
      "distributed dispatch deadline overflow"
  let runId := DistributedRunEnvelope.effectiveRunId (some checkpoint.rootRunId) previous.task
  let idempotencyKey := runId ++ ":cycle:" ++ toString cycleIndex
  let envelope : DistributedRunEnvelope := {
    jobId := idempotencyKey
    runId
    task := previous.task
    budgetLimits := previous.budgetLimits
    recipe := previous.recipe.setMetadataDenials metadataDenials
    cycleName := backend.cycleName
    cycleIndex
    idempotencyKey
    deadlineUnixMs := some deadlineUnixMs
    leaseDurationMs := backend.leaseDurationMs
    rootRunId := checkpoint.rootRunId
    traceId := checkpoint.traceId
    runDefinitionDigest := checkpoint.runDefinitionDigest
    claimMode
    resumeAttempt := checkpoint.resumeAttempt
    checkpointConfig := previous.checkpointConfig }
  envelope.validate
  return envelope

/-- Build the envelope of a cycle and hand it to the enqueuer. -/
def enqueueCycle (backend : DistributedBackend) (previous : DistributedRunEnvelope)
    (checkpoint : Checkpoint) (cycleIndex : Nat) (claimMode : ClaimMode)
    (notBefore : Option Nat) (nowMs : Nat) :
    DistributedResult DistributedAdvanceDecision × List EnqueuedEnvelope :=
  let prepared := do
    refuse (UInt32.size ≤ cycleIndex) "distributed cycle index exceeds u32"
    let envelope ← backend.envelopeFromCheckpoint previous checkpoint (.ofNat cycleIndex)
      claimMode notBefore nowMs
    let enqueue ← require backend.cycleEnqueuer
      "nonblocking DistributedBackend requires a CycleEnqueuer"
    return (envelope, enqueue)
  match prepared with
  | .error error => (.error error, [])
  | .ok (envelope, enqueue) =>
      let handle := DistributedRunHandle.fromCheckpoint checkpoint
      let decision :=
        match notBefore with
        | some notBeforeUnixMs => .retryAt handle envelope notBeforeUnixMs
        | none => .dispatch handle envelope
      ((enqueue envelope notBefore).map fun _ => decision, [⟨envelope, notBefore⟩])

def carryOut (backend : DistributedBackend) (store : MemoryStore)
    (previous : DistributedRunEnvelope) (checkpoint : Checkpoint) (nowMs : Nat) :
    AdvancePlan → DistributedResult DistributedAdvanceDecision × List EnqueuedEnvelope
  | .decided decision => (.ok decision, [])
  | .finalize result =>
      ((hydrateStored store checkpoint result).map
        (.finalizeRequired (.fromCheckpoint checkpoint) checkpoint.revision), [])
  | .dispatch cycleIndex claimMode notBefore =>
      backend.enqueueCycle previous checkpoint cycleIndex claimMode notBefore nowMs

/-- The one read of the checkpoint, and what follows from it. -/
def judge (backend : DistributedBackend) (store : MemoryStore) (nowMs : Nat)
    (previous : DistributedRunEnvelope) (outcome : DistributedDeliveryOutcome) :
    DistributedResult (Checkpoint × AdvancePlan) := do
  backend.admitOutcome previous outcome
  let checkpoint ← require (store.loadCheckpoint previous.checkpointConfig.key)
    "checkpoint disappeared before distributed driver invocation"
  validateCheckpointIdentity previous checkpoint
  match checkpoint.terminalResult with
  | some terminal => do
      let decision ← replayTerminal store checkpoint outcome.response terminal
      return (checkpoint, .decided decision)
  | none => do
      match outcome.response with
      | some (.terminalReplay _ _) =>
          .error "distributed terminal replay has no matching durable terminal"
      | response => do
          let plan ← judgeOpen previous checkpoint response nowMs
          return (checkpoint, plan)

/-- `advance`, with the calls of the enqueuer it made. -/
def advance (backend : DistributedBackend) (store : MemoryStore) (nowMs : Nat)
    (previous : DistributedRunEnvelope) (outcome : DistributedDeliveryOutcome) :
    DistributedResult DistributedAdvanceDecision × List EnqueuedEnvelope :=
  match backend.judge store nowMs previous outcome with
  | .error error => (.error error, [])
  | .ok (checkpoint, plan) => backend.carryOut store previous checkpoint nowMs plan

end DistributedBackend

end

end VvAgent
