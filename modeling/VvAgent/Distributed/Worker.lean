import VvAgent.Distributed.Driver

/-!
The worker of a distributed run, up to the point where it executes a cycle. A delivery may be
answered before that: the run waits for somebody else, the cycle has been committed, another
worker holds the lease, or the run has ended. While the worker makes up its mind it loads the
checkpoint several times, and others write to the store in between; the loads are arguments of
the model, gathered in a `WorkerView`.
-/

namespace VvAgent
open Lib Lib.Outcome

structure DistributedDeliveryMetadata where
  redelivered : Bool := false
  attempt : Nat := 0
  deriving DecidableEq

def DistributedDeliveryMetadata.isRedelivery (delivery : DistributedDeliveryMetadata) : Bool :=
  delivery.redelivered || decide (1 < delivery.attempt)

section
variable [Runtime]

def validateEnvelopeCheckpointIdentity (envelope : DistributedRunEnvelope)
    (checkpoint : Checkpoint) : DistributedResult Unit := do
  reported (validateCheckpoint checkpoint)
  let storedDigest ← reported (runDefinitionDigest checkpoint.runDefinition)
  refuse (checkpoint.runDefinitionDigest != storedDigest) "checkpoint_definition_mismatch"
  refuse
    (checkpoint.checkpointKey != envelope.checkpointConfig.key ||
      checkpoint.taskId != envelope.task.taskId)
    "checkpoint_identity_mismatch"
  refuse
    (checkpoint.rootRunId != envelope.rootRunId || checkpoint.traceId != envelope.traceId)
    "checkpoint_run_identity_mismatch"
  refuse
    (checkpoint.runDefinitionSchema != envelope.runDefinitionSchema ||
      checkpoint.runDefinitionDigest != envelope.runDefinitionDigest)
    "checkpoint_definition_mismatch"

/-- The resume attempt of an envelope is the stored one, or an earlier one of a repeated
delivery; a run that has ended is not asked. -/
def validateResumeAttemptObservation (envelope : DistributedRunEnvelope) (checkpoint : Checkpoint)
    (delivery : DistributedDeliveryMetadata) : DistributedResult Unit :=
  refuse
    (checkpoint.terminalResult.isNone &&
      !(checkpoint.resumeAttempt == envelope.resumeAttempt ||
        delivery.isRedelivery && decide (envelope.resumeAttempt < checkpoint.resumeAttempt)))
    "checkpoint_resume_attempt_mismatch"

/-- The mode in which a delivery claims the checkpoint: a repeated delivery, an ambiguous
operation or an expired lease asks for recovery, whatever the envelope says. -/
def effectiveClaimMode (envelope : DistributedRunEnvelope) (checkpoint : Checkpoint)
    (delivery : DistributedDeliveryMetadata) (nowMs : Nat) : ClaimMode :=
  if delivery.isRedelivery || decide (checkpoint.status = .reconciliationRequired) ||
      checkpoint.leaseExpiresAtMs.any (· ≤ nowMs) then .recovery
  else envelope.claimMode

/-- The lease of a new claim ends with the deadline of its envelope at the latest. -/
def leaseExpiryAt (nowMs leaseDurationMs : Nat) (deadlineUnixMs : Option Nat) :
    DistributedResult Nat :=
  let effectiveDuration :=
    match deadlineUnixMs with
    | some deadline => min leaseDurationMs (deadline - nowMs)
    | none => leaseDurationMs
  require (checkedAdd nowMs effectiveDuration) "checkpoint lease overflow"

/-- A worker: the references under which its registry holds a store, whether the host supplies
the executor of cycles, and the checks of the run definition, which can refuse a delivery and do
nothing else: the embedded definition against the task, and the resolved capabilities. -/
structure DistributedCycleWorker where
  registeredStores : List CapabilityRef
  hasExecutor : Bool
  matchesDefinition : DistributedRunEnvelope → Checkpoint → DistributedResult Unit
  resolveCapabilities : DistributedRunEnvelope → Checkpoint → DistributedResult Unit

/-- What a worker finds in the store, load by load, and on the clock. -/
structure WorkerView where
  /-- The clock when the delivery is taken up, and when the native runtime starts. -/
  nowMs : Nat
  runtimeNowMs : Nat
  /-- At the first load. -/
  loaded : MemoryStore
  /-- After the controller has delivered the events of an ended run and acknowledged it. -/
  admitted : MemoryStore
  /-- After the wakes of the run have been consumed, and whether that left the worker with
  the claim of a host response. -/
  recovered : MemoryStore
  ownsRecovery : Bool
  /-- At the claim, and at the load after a claim that was not granted. -/
  claiming : MemoryStore
  claimToken : String
  latest : MemoryStore

/-- A response given without executing a cycle, with the store it was read from. -/
structure WorkerAnswer where
  response : CycleDispatchResult
  observed : MemoryStore

def loadForWorker (store : MemoryStore) (key : String) : DistributedResult Checkpoint :=
  require (store.loadCheckpoint key) ("No checkpoint found for key " ++ key)

/-- The native runtime meets a run that has ended: its result, under its checkpoint key. -/
def replayEnded (store : MemoryStore) (key : String) : DistributedResult WorkerAnswer := do
  let checkpoint ← loadForWorker store key
  let terminal ← require checkpoint.terminalResult "checkpoint_terminal_result_invalid: missing"
  let read ← terminal.read.mapError ("checkpoint_terminal_result_invalid: " ++ ·)
  let result ← hydrateStored store checkpoint
    { read with checkpointKey := some checkpoint.checkpointKey }
  let response ←
    (CycleDispatchResult.terminalReplay checkpoint.revision result).checked
  return ⟨response, store⟩

/-- The record a worker goes on with, whether it already holds its claim, and the store it
was read from. -/
structure Recovered where
  checkpoint : Checkpoint
  owns : Bool
  observed : MemoryStore

/-- `consume_controller_wakes`, for a worker that is to recover the run: it touches the run only
while nobody has it, and then loads it again. -/
def consumeControllerWakes (view : WorkerView) (checkpoint : Checkpoint) (recovers : Bool) :
    DistributedResult Recovered :=
  if !recovers || decide (checkpoint.status ≠ .running) || checkpoint.claimToken.isSome then
    .ok ⟨checkpoint, false, view.loaded⟩
  else do
    let current ← loadForWorker view.recovered checkpoint.checkpointKey
    return ⟨current, view.ownsRecovery, view.recovered⟩

def awaitsHost (checkpoint : Checkpoint) : Bool :=
  checkpoint.eventOutbox.any fun entry => eventType entry.event == some "host_interaction_requested"

/-- The native runtime on a run that goes on; `none` is the execution of the cycle. -/
def runAgentRuntimeCycle (envelope : DistributedRunEnvelope)
    (delivery : DistributedDeliveryMetadata) (view : WorkerView) (checkpoint : Checkpoint) :
    DistributedResult (Option WorkerAnswer) := do
  let claimMode := effectiveClaimMode envelope checkpoint delivery view.runtimeNowMs
  let recovered ← consumeControllerWakes view checkpoint
    (decide (claimMode = .recovery) || awaitsHost checkpoint)
  if recovered.owns then return none
  else if recovered.checkpoint.leaseExpiresAtMs.any (view.runtimeNowMs < ·) then
    return some ⟨.pending, recovered.observed⟩
  else return none

/-- The claim of a worker that executes cycles itself was not granted. -/
def answerUnclaimed (envelope : DistributedRunEnvelope) (view : WorkerView) :
    DistributedResult WorkerAnswer := do
  let latest ← loadForWorker view.latest envelope.checkpointConfig.key
  validateEnvelopeCheckpointIdentity envelope latest
  if latest.terminalResult.isSome then replayEnded view.admitted envelope.checkpointConfig.key
  else return ⟨.pending, view.latest⟩

/-- The host's executor: the worker claims the cycle itself, and a claim it does not get is
somebody else's. -/
def runWithExecutor (envelope : DistributedRunEnvelope) (delivery : DistributedDeliveryMetadata)
    (view : WorkerView) (checkpoint : Checkpoint) : DistributedResult (Option WorkerAnswer) := do
  let key := envelope.checkpointConfig.key
  let recovered ← consumeControllerWakes view checkpoint
    (effectiveClaimMode envelope checkpoint delivery view.nowMs = .recovery)
  let claimMode := effectiveClaimMode envelope recovered.checkpoint delivery view.nowMs
  if recovered.owns then do
    refuse (recovered.checkpoint.claimedCycle != some envelope.cycleIndex.toNat)
      "retained host response claim cycle does not match envelope"
    refuse recovered.checkpoint.claimToken.isNone "retained host response claim token disappeared"
    return none
  else do
    let lease ← leaseExpiryAt view.nowMs envelope.leaseDurationMs envelope.deadlineUnixMs
    let claim ←
      (view.claiming.claimCheckpoint key envelope.cycleIndex.toNat view.claimToken lease
        view.nowMs claimMode).1.mapError
          fun error => "retryable distributed delivery conflict: " ++ error.display
    if claim.isSome then return none
    else some <$> answerUnclaimed envelope view

/-- What the early checks of a delivery come to, before any capability is resolved. -/
def answerEarly (envelope : DistributedRunEnvelope) (view : WorkerView) (checkpoint : Checkpoint) :
    DistributedResult (Option WorkerAnswer) :=
  if checkpoint.status = .deferred ∨ checkpoint.status = .hostInteraction then
    .ok (some ⟨.pending, view.loaded⟩)
  else if checkpoint.terminalResult.isNone ∧ envelope.cycleIndex.toNat ≤ checkpoint.cycleIndex ∧
      checkpoint.claimToken.isNone then do
    let response ←
      (CycleDispatchResult.committed checkpoint.revision checkpoint.cycleIndex).checked
    return some ⟨response, view.loaded⟩
  else if checkpoint.leaseExpiresAtMs.any (view.nowMs < ·) then
    .ok (some ⟨.pending, view.loaded⟩)
  else .ok none

/-- `run_distributed_cycle` behind `run_cycle_with_delivery`. -/
def DistributedCycleWorker.runCycleWithDelivery (worker : DistributedCycleWorker)
    (envelope : DistributedRunEnvelope) (delivery : DistributedDeliveryMetadata)
    (view : WorkerView) : DistributedResult (Option WorkerAnswer) := do
  envelope.validate
  refuse envelope.recipe.brokersApprovals approvalWaitsUnsupported
  envelope.ensureNotExpiredAt view.nowMs
  let reference ← require envelope.recipe.capabilities.checkpointStoreRef
    "distributed execution requires checkpoint_store_ref"
  refuse (!worker.registeredStores.contains reference)
    ("unknown distributed capability checkpoint_store " ++ reference.id ++ "@" ++ reference.version)
  let checkpoint ← loadForWorker view.loaded envelope.checkpointConfig.key
  validateEnvelopeCheckpointIdentity envelope checkpoint
  worker.matchesDefinition envelope checkpoint
  match ← answerEarly envelope view checkpoint with
  | some answer => return some answer
  | none => do
      validateResumeAttemptObservation envelope checkpoint delivery
      worker.resolveCapabilities envelope checkpoint
      if checkpoint.terminalResult.isSome then
        some <$> replayEnded view.admitted envelope.checkpointConfig.key
      else if worker.hasExecutor then runWithExecutor envelope delivery view checkpoint
      else runAgentRuntimeCycle envelope delivery view checkpoint

end

end VvAgent
