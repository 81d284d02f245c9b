import VvAgent.Checkpoint.CommandInversion
import VvAgent.Lib.Run
import VvAgent.Store.MemoryDelivery

/-!
The operations of the store as one machine, and what one of its steps can do to the record
of one key. `Made` says which record an operation prepares from the stored one, with every
guard that held; `RecordStep` says how the tables change. Properties of whole runs are
proved from `RecordStep` alone.
-/

namespace VvAgent
open Lib Lib.Outcome

/-- A call of the store, with the caller's arguments and the readings of the clock. -/
inductive StoreOp where
  | create (checkpoint : Checkpoint)
  | claim (checkpointKey : String) (cycleIndex : Nat) (claimToken : String)
      (leaseExpiresAtMs nowMs : Nat) (claimMode : ClaimMode)
  | renew (checkpointKey claimToken : String) (leaseExpiresAtMs nowMs : Nat)
  | progress (checkpoint : Checkpoint) (claimToken : String) (expectedRevision : Nat)
  | suspend (checkpoint : Checkpoint) (claimToken : String) (expectedRevision : Nat)
  | commit (checkpoint : Checkpoint) (claimToken : String) (expectedRevision : Nat)
  | finalize (clock : Clock) (checkpoint : Checkpoint) (expectedRevision : Nat)
  | finalizeClaimed (clock : Clock) (checkpoint : Checkpoint) (claimToken : String)
      (expectedRevision : Nat)
  | recordToolReceipt (clock : Clock) (checkpoint : Checkpoint) (target : ToolReceiptTarget)
      (result : ToolExecutionResult) (claimToken : String) (expectedRevision : Nat)
  | acknowledge (checkpointKey : String) (expectedRevision : Nat)
  | recordEventDelivery (checkpointKey : String) (claimToken : Option String)
      (expectedRevision : Nat) (eventId payloadDigest : String) (cursor : EventCursor)
  | admitDeferred (clock : Clock) (checkpointKey : String) (expectedRevision : Nat)
      (claimToken : String) (claimedCycle : Nat) (entries : List DeferredBatchEntry)
  | acceptDeferred (clock : Clock) (checkpointKey : String) (expectedRevision : Nat)
      (claimToken : String) (claimedCycle : Nat) (decisions : List AcceptDeferredDecision)
  | resolveDeferred (clock : Clock) (handle : DeferredToolHandle)
      (result : ToolExecutionResult)
  | produceHostInteraction (clock : Clock) (request : HostInteractionRequest)
      (context : HostInteractionAdmissionContext)
  | admitCommand (clock : Clock) (command : ControllerCommand) (nowMs : Nat)
  | resolveCommand (clock : Clock) (command : ControllerCommand) (nowMs : Nat)
  | consumeResponse (clock : Clock) (envelope : HostInteractionRecoveryEnvelope) (nowMs : Nat)
  | reapHostInteraction (recordId checkpointKey : String) (nowMs : Nat)
  | claimNotification (notificationId payloadDigest claimToken : String)
      (leaseExpiresAtMs nowMs : Nat)
  | completeNotification (notificationId payloadDigest claimToken : String) (attempt : Nat)
      (outcome : String) (nowMs : Nat) (error : Option String)
  | reconcileNotification (notificationId payloadDigest outcome : String) (nowMs : Nat)
      (abortReason : Option String)
  | claimWake (commandId commandDigest claimToken : String) (leaseExpiresAtMs nowMs : Nat)
  | completeWake (commandId commandDigest claimToken : String) (attempt : Nat)
      (outcome : String)
  | reconcileWake (commandId commandDigest outcome : String)
  | reapWakes (checkpointKey : String) (nowMs : Nat)
  | delete (checkpointKey : String)

/-- Operations that write a prepared record as it is; all others archive its history. -/
def StoreOp.writesPlain : StoreOp → Bool
  | .claim .. | .renew .. | .admitCommand .. | .resolveCommand .. => true
  | _ => false

section
variable [Runtime]

/-- The tables after one operation. -/
def exec (op : StoreOp) (store : MemoryStore) : MemoryStore :=
  match op with
  | .create checkpoint => (store.createCheckpoint checkpoint).2
  | .claim key cycle token lease now mode =>
      (store.claimCheckpoint key cycle token lease now mode).2
  | .renew key token lease now => (store.renewCheckpointClaim key token lease now).2
  | .progress checkpoint token revision =>
      (store.progressCheckpoint checkpoint token revision).2
  | .suspend checkpoint token revision => (store.suspendCheckpoint checkpoint token revision).2
  | .commit checkpoint token revision => (store.commitCheckpoint checkpoint token revision).2
  | .finalize clock checkpoint revision =>
      (store.finalizeCheckpoint clock checkpoint revision).2
  | .finalizeClaimed clock checkpoint token revision =>
      (store.finalizeClaimedCheckpoint clock checkpoint token revision).2
  | .recordToolReceipt clock checkpoint target result token revision =>
      (store.recordToolReceipt clock checkpoint target result token revision).2
  | .acknowledge key revision => (store.acknowledgeTerminal key revision).2
  | .recordEventDelivery key token revision eventId digest cursor =>
      (store.recordEventDelivery key token revision eventId digest cursor).2
  | .admitDeferred clock key revision token cycle entries =>
      (store.admitDeferredBatch clock key revision token cycle entries).2
  | .acceptDeferred clock key revision token cycle decisions =>
      (store.acceptDeferredBatch clock key revision token cycle decisions).2
  | .resolveDeferred clock handle result => (store.resolveDeferred clock handle result).2
  | .produceHostInteraction clock request context =>
      (store.produceHostInteraction clock request context).2
  | .admitCommand clock command now => (store.admitControllerCommand clock command now).2
  | .resolveCommand clock command now => (store.resolveControllerCommand clock command now).2
  | .consumeResponse clock envelope now =>
      (store.claimAndConsumeHostInteractionResponse clock envelope now).2
  | .reapHostInteraction recordId key now =>
      (store.reapHostInteractionRecord recordId key now).2
  | .claimNotification notificationId digest token lease now =>
      (store.claimHostInteractionNotification notificationId digest token lease now).2
  | .completeNotification notificationId digest token attempt outcome now error =>
      (store.completeHostInteractionNotification notificationId digest token attempt outcome
        now error).2
  | .reconcileNotification notificationId digest outcome now reason =>
      (store.reconcileHostInteractionNotification notificationId digest outcome now reason).2
  | .claimWake commandId digest token lease now =>
      (store.claimControllerCommandWake commandId digest token lease now).2
  | .completeWake commandId digest token attempt outcome =>
      (store.completeControllerCommandWake commandId digest token attempt outcome).2
  | .reconcileWake commandId digest outcome =>
      (store.reconcileControllerCommandWake commandId digest outcome).2
  | .reapWakes key now => (store.reapControllerCommandWakes key now).2
  | .delete key => store.deleteCheckpoint key

/-- The record an operation prepares for the key it is about, from the stored one. -/
inductive Made : StoreOp → String → Checkpoint → Checkpoint → Prop
  | claim {key : String} {cycle : Nat} {token : String} {lease now : Nat} {mode : ClaimMode}
      {current updated : Checkpoint} (hlease : now < lease)
      (h : prepareClaim current cycle token lease now mode = .ok (some updated)) :
      Made (.claim key cycle token lease now mode) key current updated
  | renew {key token : String} {lease now : Nat} {current : Checkpoint} (hlease : now < lease)
      (htoken : current.claimToken = some token)
      (hlive : ∃ expiry, current.leaseExpiresAtMs = some expiry ∧ now < expiry) :
      Made (.renew key token lease now) key current
        { current with leaseExpiresAtMs := some lease }
  | progress {checkpoint current updated : Checkpoint} {token : String} {revision : Nat}
      (h : prepareProgress current checkpoint token revision = .ok (some updated)) :
      Made (.progress checkpoint token revision) checkpoint.checkpointKey current updated
  | suspend {checkpoint current updated : Checkpoint} {token : String} {revision : Nat}
      (h : prepareSuspend current checkpoint token revision = .ok (some updated)) :
      Made (.suspend checkpoint token revision) checkpoint.checkpointKey current updated
  | commit {checkpoint current updated : Checkpoint} {token : String} {revision : Nat}
      (h : prepareCommit current checkpoint token revision = .ok (some updated)) :
      Made (.commit checkpoint token revision) checkpoint.checkpointKey current updated
  | finalize {clock : Clock} {checkpoint current updated : Checkpoint} {revision : Nat}
      (h : prepareFinalize clock current checkpoint revision = .ok (some updated)) :
      Made (.finalize clock checkpoint revision) checkpoint.checkpointKey current updated
  | finalizeClaimed {clock : Clock} {checkpoint current updated : Checkpoint} {token : String}
      {revision : Nat}
      (h : prepareFinalizeClaimed clock current checkpoint token revision =
        .ok (some updated)) :
      Made (.finalizeClaimed clock checkpoint token revision) checkpoint.checkpointKey current
        updated
  | toolReceipt {clock : Clock} {checkpoint current updated : Checkpoint}
      {target : ToolReceiptTarget} {result : ToolExecutionResult} {token : String}
      {revision : Nat}
      (h : prepareToolReceipt clock current checkpoint target result token revision =
        .ok (some updated)) :
      Made (.recordToolReceipt clock checkpoint target result token revision)
        checkpoint.checkpointKey current updated
  | acknowledge {key : String} {revision : Nat} {current updated : Checkpoint}
      (h : prepareAck current revision = .ok (some updated)) :
      Made (.acknowledge key revision) key current updated
  | delivery {key : String} {token : Option String} {revision : Nat} {eventId digest : String}
      {cursor : EventCursor} {current updated : Checkpoint}
      (h : prepareEventDelivery current token revision eventId digest cursor =
        .ok (some updated)) :
      Made (.recordEventDelivery key token revision eventId digest cursor) key current updated
  | admitDeferred {clock : Clock} {key : String} {revision : Nat} {token : String} {cycle : Nat}
      {entries : List DeferredBatchEntry} {handles : List DeferredToolHandle}
      {current updated : Checkpoint}
      (h : admitDeferredBatch clock current revision token cycle entries =
        .ok (updated, handles))
      (hchanged : updated.revision ≠ current.revision) :
      Made (.admitDeferred clock key revision token cycle entries) key current updated
  | acceptDeferred {clock : Clock} {key : String} {revision : Nat} {token : String}
      {cycle : Nat} {decisions : List AcceptDeferredDecision} {current updated : Checkpoint}
      (h : acceptDeferredBatch clock current revision token cycle decisions =
        .ok (updated, true)) :
      Made (.acceptDeferred clock key revision token cycle decisions) key current updated
  | resolveDeferred {clock : Clock} {handle : DeferredToolHandle} {result : ToolExecutionResult}
      {entry : OperationJournalEntry} {receipt : DeferredReceipt}
      {current updated : Checkpoint} (hdefinitive : validateDefinitiveResult result = .ok ())
      (htarget : deferredTarget current handle result = .ok (.inr entry))
      (h : resolveEntry clock current handle entry result = .ok (updated, receipt)) :
      Made (.resolveDeferred clock handle result) handle.checkpointKey current updated
  | produce {clock : Clock} {request : HostInteractionRequest}
      {context : HostInteractionAdmissionContext} {current updated : Checkpoint}
      (hstatus : current.status = .running)
      (hrevision : current.revision = context.expectedRevision)
      (htoken : current.claimToken = some context.claimToken)
      (hcycle : current.claimedCycle = some request.logicalCycle)
      (h : prepareHostInteraction clock current request context
        (recordIdFor context.checkpointKey request) = .ok updated) :
      Made (.produceHostInteraction clock request context) context.checkpointKey current updated
  | command {op : StoreOp} {clock : Clock} {lookup : HostRecordLookup}
      {command : ControllerCommand} {now : Nat} {current updated : Checkpoint}
      {effect : CommandEffect}
      (hop : op = .admitCommand clock command now ∨ op = .resolveCommand clock command now)
      (h : applyControllerCommand clock lookup current command now = .ok effect)
      (hupdated : effect.checkpoint = updated) :
      Made op command.handle.checkpointKey current updated
  | consume {clock : Clock} {envelope : HostInteractionRecoveryEnvelope} {now : Nat}
      {record : HostInteractionRecord} {response : HostInteractionResponse}
      {current updated : Checkpoint} (hrevision : current.revision = envelope.expectedRevision)
      (hattempt : current.resumeAttempt = envelope.resumeAttempt)
      (hstatus : current.status = .running) (htoken : current.claimToken = none)
      (hambiguous : current.hasAmbiguousOperation = false)
      (hrecord : record.recordId = envelope.recordId)
      (h : prepareConsume clock current record response envelope now = .ok updated) :
      Made (.consumeResponse clock envelope now) envelope.checkpointKey current updated

end

end VvAgent
