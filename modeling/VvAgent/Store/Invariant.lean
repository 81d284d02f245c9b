import VvAgent.Checkpoint.Archive
import VvAgent.Sample
import VvAgent.Store.Step

/-!
Every record a store holds passes `validate_checkpoint`. A prepared record passes it as the
last step of its preparation, except that the renewal of a lease is not validated again and
that the archive rewrites the record after its preparation; both keep it valid.
-/

namespace VvAgent
open Lib Lib.Outcome

section
variable [Runtime]

omit [Runtime] in
theorem archived_callIds (records : List ModelCallRecord) :
    (records.map ModelCallRecord.toValue).filterMap
        (fun record => record.get? "call_id" >>= Json.asStr?) =
      records.map (·.callId) := by
  rw [List.filterMap_map]
  exact congrFun (List.filterMap_eq_map (f := ModelCallRecord.callId)) records

/-- A record that was persisted has no archived model call; it is stored as it is, or its
batch goes to the end of the archive. -/
theorem persistHistory_eq_ok {archive after : ArchivedHistory} {checkpoint stored : Checkpoint}
    (h : persistHistory archive checkpoint = .ok (stored, after)) :
    (∀ record ∈ checkpoint.modelCalls, record.callId ∉ archive.callIds) ∧
      (checkpoint.archivesNothing = true ∧ stored = checkpoint ∧ after = archive ∨
        ∃ digest terminal, checkpoint.archivesNothing = false ∧
          archive.payloads.length = checkpoint.history.sequence ∧
          sha256Canonical checkpoint.archivePayload "checkpoint history" = .ok digest ∧
          trimTerminal checkpoint.keptCycles checkpoint.keptCalls checkpoint.terminalResult =
            .ok terminal ∧
          validateCheckpoint (checkpoint.trimmed digest terminal) = .ok () ∧
          stored = checkpoint.trimmed digest terminal ∧
          after =
            { payloads := archive.payloads ++ [checkpoint.archivePayload.canonical]
              callIds := archive.callIds ++ checkpoint.movedCalls.map (·.callId) }) := by
  simp only [persistHistory, bind_eq_ok, refuse_eq_ok, exists_const, Prod.exists] at h
  obtain ⟨hfresh, normalized, batch, hnormalized, h⟩ := h
  refine ⟨by simpa using hfresh, ?_⟩
  rcases normalizeCheckpointHistory_eq_ok hnormalized with
    ⟨hnothing, rfl, rfl⟩ | ⟨digest, terminal, hsome, hdigest, hterminal, hvalid, rfl, rfl⟩
  · simp only [pure_ok, Except.ok.injEq, Prod.mk.injEq] at h
    exact .inl ⟨hnothing, h.1.symm, h.2.symm⟩
  · simp only [bind_eq_ok, refuse_eq_ok, exists_const, bne_eq_false_iff_eq, Nat.add_right_cancel_iff,
      canonicalJsonBytes_eq_ok, pure_ok, Except.ok.injEq, Prod.mk.injEq] at h
    obtain ⟨hcursor, _, ⟨_, rfl⟩, rfl, rfl⟩ := h
    refine .inr ⟨digest, terminal, hsome, hcursor, hdigest, hterminal, hvalid, rfl, ?_⟩
    have hids := archived_callIds checkpoint.movedCalls
    exact congrArg (ArchivedHistory.mk _) (congrArg (archive.callIds ++ ·) hids)

theorem persistHistory_valid {archive after : ArchivedHistory} {checkpoint stored : Checkpoint}
    (h : persistHistory archive checkpoint = .ok (stored, after))
    (hvalid : validateCheckpoint checkpoint = .ok ()) : validateCheckpoint stored = .ok () := by
  rcases (persistHistory_eq_ok h).2 with ⟨_, rfl, _⟩ | ⟨_, _, _, _, _, _, hstored, rfl, _⟩
  · exact hvalid
  · exact hstored

/-- A lease that stays within the JSON-safe range does not matter to the validator. -/
theorem validateCheckpoint_renewed {checkpoint : Checkpoint} {expiry lease : Nat}
    (hexpiry : checkpoint.leaseExpiresAtMs = some expiry) (hlease : lease ≤ maxWireInteger)
    (hvalid : validateCheckpoint checkpoint = .ok ()) :
    validateCheckpoint { checkpoint with leaseExpiresAtMs := some lease } = .ok () := by
  simp only [validateCheckpoint, unit_guard_bind] at hvalid ⊢
  obtain ⟨h1, h2, h3, hclaim, h5, h6, h7, h8, h9, h10, h11, h12, h13⟩ := hvalid
  refine ⟨h1, h2, h3, ?_, h5, h6, h7, h8, h9, h10, h11, h12, h13⟩
  unfold validateClaim at hclaim ⊢
  rw [hexpiry] at hclaim
  cases htoken : checkpoint.claimToken with
  | none => cases hcycle : checkpoint.claimedCycle <;> simp [htoken, hcycle] at hclaim
  | some token =>
      cases hcycle : checkpoint.claimedCycle with
      | none => simp [htoken, hcycle] at hclaim
      | some cycle =>
          simp only [htoken, hcycle, unit_guard_bind, refuse_eq_ok] at hclaim ⊢
          exact ⟨hclaim.1, hclaim.2.1, by simpa using hlease⟩

/-- A new record passes the validator. -/
theorem validateCheckpointCreation_valid {checkpoint : Checkpoint}
    (h : validateCheckpointCreation checkpoint = .ok ()) :
    validateCheckpoint checkpoint = .ok () := by
  simp only [validateCheckpointCreation, unit_guard_bind] at h
  exact h.1

/-- A new record has no past. -/
structure Initial (checkpoint : Checkpoint) : Prop where
  history : checkpoint.history = {}
  claimToken : checkpoint.claimToken = none
  terminalResult : checkpoint.terminalResult = none
  activeHostInteraction : checkpoint.activeHostInteraction = none
  suspendedOrigin : checkpoint.suspendedOrigin = none
  cycles : checkpoint.cycles = []
  modelCalls : checkpoint.modelCalls = []
  modelCallJournal : checkpoint.modelCallJournal = []
  toolJournal : checkpoint.toolJournal = []

theorem validateCheckpointCreation_initial {checkpoint : Checkpoint}
    (h : validateCheckpointCreation checkpoint = .ok ()) : Initial checkpoint := by
  simp only [validateCheckpointCreation, unit_guard_bind, refuse_eq_ok, Bool.or_eq_false_iff,
    bne_eq_false_iff_eq, Bool.not_eq_false', List.isEmpty_iff, Option.isSome_eq_false_iff,
    Option.isNone_iff_eq_none] at h
  obtain ⟨_, _, _, hhistory, hclaim, hterminal, hlifecycle⟩ := h
  obtain ⟨⟨⟨⟨⟨⟨⟨⟨_, hactive⟩, horigin⟩, _⟩, hcycles⟩, hcalls⟩, _⟩, hmodel⟩, htool⟩ := hlifecycle
  exact ⟨hhistory, hclaim.1.1, hterminal.1.2, hactive, horigin, hcycles, hcalls, hmodel, htool⟩

/-- Every prepared record passes the validator; a renewal is not validated again. -/
theorem Made.valid_or_renewed {op : StoreOp} {key : String} {current updated : Checkpoint}
    (hmade : Made op key current updated) :
    validateCheckpoint updated = .ok () ∨
      ∃ token lease now expiry, op = .renew key token lease now ∧
        current.leaseExpiresAtMs = some expiry ∧
        updated = { current with leaseExpiresAtMs := some lease } := by
  cases hmade with
  | claim _ h => exact .inl (prepareClaim_eq_some h).2.2.1
  | renew _ _ hlive =>
      obtain ⟨expiry, hexpiry, _⟩ := hlive
      exact .inr ⟨_, _, _, expiry, rfl, hexpiry, rfl⟩
  | progress h => exact .inl (prepareProgress_eq_some h).2.1
  | suspend h => exact .inl (prepareSuspend_eq_some h).2.2.1
  | commit h => exact .inl (prepareCommit_eq_some h).2.2.2.2.2.1
  | finalize h =>
      obtain ⟨_, _, _, _, _, _, _, hterminal⟩ := prepareFinalize_eq_some h
      exact .inl (prepareTerminalSnapshot_eq_ok hterminal).2.1
  | finalizeClaimed h =>
      obtain ⟨_, _, _, hterminal⟩ := prepareFinalizeClaimed_eq_some h
      exact .inl (prepareTerminalSnapshot_eq_ok hterminal).2.1
  | toolReceipt h => exact .inl (prepareToolReceipt_eq_some h).2.2.2.2.2.2.1
  | acknowledge h => exact .inl (prepareAck_eq_some h).2.2.2.2.1
  | delivery h => exact .inl (prepareEventDelivery_eq_some h).2.2.1
  | admitDeferred h hchanged => exact .inl (admitDeferredBatch_eq_ok h hchanged).2.2.2.2.1
  | acceptDeferred h => exact .inl (acceptDeferredBatch_eq_ok h).2.2.2.1
  | resolveDeferred _ _ h => exact .inl (resolveEntry_eq_ok h).1
  | produce _ _ _ _ h => exact .inl (prepareHostInteraction_eq_ok h).1
  | command _ h hupdated => exact .inl (hupdated ▸ (applyControllerCommand_eq_ok h).2.2.2.1)
  | consume _ _ _ _ _ _ h => exact .inl (prepareConsume_eq_ok h).1

/-- A prepared record is valid, a renewed one if its lease is JSON-safe. -/
theorem Made.valid {op : StoreOp} {key : String} {current updated : Checkpoint}
    (hmade : Made op key current updated)
    (hlease : ∀ key' token lease now, op = .renew key' token lease now → lease ≤ maxWireInteger)
    (hcurrent : validateCheckpoint current = .ok ()) : validateCheckpoint updated = .ok () := by
  rcases hmade.valid_or_renewed with hvalid | ⟨token, lease, now, expiry, hop, hexpiry, rfl⟩
  · exact hvalid
  · exact validateCheckpoint_renewed hexpiry (hlease key token lease now hop) hcurrent

/-- Whatever its lease says, the record is valid with some lease. -/
def ValidBesidesLease (checkpoint : Checkpoint) : Prop :=
  ∃ lease, validateCheckpoint { checkpoint with leaseExpiresAtMs := lease } = .ok ()

theorem ValidBesidesLease.of_valid {checkpoint : Checkpoint}
    (h : validateCheckpoint checkpoint = .ok ()) : ValidBesidesLease checkpoint :=
  ⟨checkpoint.leaseExpiresAtMs, h⟩

theorem Made.validBesidesLease {op : StoreOp} {key : String} {current updated : Checkpoint}
    (hmade : Made op key current updated) (hcurrent : ValidBesidesLease current) :
    ValidBesidesLease updated := by
  rcases hmade.valid_or_renewed with hvalid | ⟨_, _, _, _, _, _, rfl⟩
  · exact .of_valid hvalid
  · exact hcurrent

/-- A prepared record keeps its key. -/
theorem Made.checkpointKey {op : StoreOp} {key : String} {current updated : Checkpoint}
    (hmade : Made op key current updated) : updated.checkpointKey = current.checkpointKey := by
  cases hmade with
  | claim _ h =>
      rw [(prepareClaim_eq_some h).2.2.2]
      rfl
  | renew => rfl
  | progress h =>
      obtain ⟨hfence, _, _, _, rfl⟩ := prepareProgress_eq_some h
      exact hfence.key.symm
  | suspend h =>
      obtain ⟨hfence, _, _, _, _, rfl⟩ := prepareSuspend_eq_some h
      exact hfence.key.symm
  | commit h =>
      obtain ⟨hfence, _, _, _, _, _, rfl⟩ := prepareCommit_eq_some h
      exact hfence.key.symm
  | finalize h =>
      obtain ⟨_, _, hextends, _, _, merged, hmerged, hterminal⟩ := prepareFinalize_eq_some h
      obtain ⟨_, _, rfl⟩ := (mergeAuthoritativeFields_eq_ok _ _ _).mp hmerged
      obtain ⟨_, _, _, _, _, _, _, rfl⟩ := prepareTerminalSnapshot_eq_ok hterminal
      exact hextends.checkpointKey.symm
  | finalizeClaimed h =>
      obtain ⟨hfence, merged, hmerged, hterminal⟩ := prepareFinalizeClaimed_eq_some h
      obtain ⟨_, _, rfl⟩ := (mergeAuthoritativeFields_eq_ok _ _ _).mp hmerged
      obtain ⟨_, _, _, _, _, _, _, rfl⟩ := prepareTerminalSnapshot_eq_ok hterminal
      exact hfence.key.symm
  | toolReceipt h =>
      obtain ⟨_, _, _, _, _, _, _, _, _, _, _, _, _, _, rfl⟩ := prepareToolReceipt_eq_some h
      rfl
  | acknowledge h =>
      rw [(prepareAck_eq_some h).2.2.2.2.2]
  | delivery h =>
      obtain ⟨_, _, _, _, _, _, rfl⟩ := prepareEventDelivery_eq_some h
      rfl
  | admitDeferred h hchanged =>
      obtain ⟨_, _, _, _, _, _, _, _, _, _, _, rfl⟩ := admitDeferredBatch_eq_ok h hchanged
      rfl
  | acceptDeferred h =>
      obtain ⟨_, _, _, _, _, _, _, _, _, _, rfl⟩ := acceptDeferredBatch_eq_ok h
      rfl
  | resolveDeferred _ _ h =>
      obtain ⟨_, _, _, _, _, _, _, _, _, _, rfl⟩ := resolveEntry_eq_ok h
      rfl
  | produce _ _ _ _ h =>
      obtain ⟨_, cycle, _, hcycle, rfl⟩ := prepareHostInteraction_eq_ok h
      rcases (prepareHostInteractionCycle_eq_ok hcycle).2 with
        ⟨rfl, _⟩ | ⟨_, receipt, _, _, _, _, _, hreceipt, rfl⟩
      · rfl
      · obtain ⟨_, _, _, _, _, _, _, _, _, _, _, _, _, _, rfl⟩ :=
          prepareToolReceipt_eq_some hreceipt
        rfl
  | command _ h hupdated =>
      obtain ⟨_, _, _, _, hcase⟩ := applyControllerCommand_eq_ok h
      rw [hupdated] at hcase
      cases hcase with
      | requested => rfl
      | moved base _ _ _ _ _ hbase =>
          rcases hbase with ⟨rfl, _⟩ | rfl <;> rfl
      | ended => rfl
  | consume _ _ _ _ _ _ h =>
      obtain ⟨_, _, rfl⟩ := prepareConsume_eq_ok h
      rfl

/-- The record an operation leaves under a key whose record it rewrites: the prepared one,
archived or not. -/
inductive Wrote (op : StoreOp) (key : String) (current stored : Checkpoint) : Prop
  | plain (hmade : Made op key current stored)
  | archived (updated : Checkpoint) (before after : ArchivedHistory)
      (hmade : Made op key current updated)
      (hpersist : persistHistory before updated = .ok (stored, after))

/-- What the archive does to a prepared record: cycles and calls leave it, the frontier and
the terminal result follow. -/
theorem Wrote.frame {op : StoreOp} {key : String} {current stored : Checkpoint}
    (h : Wrote op key current stored) :
    ∃ updated cycles modelCalls history terminalResult, Made op key current updated ∧
      terminalResult.isSome = updated.terminalResult.isSome ∧
      stored = { updated with cycles, modelCalls, history, terminalResult } := by
  cases h with
  | plain hmade => exact ⟨stored, _, _, _, stored.terminalResult, hmade, rfl, rfl⟩
  | archived updated before after hmade hpersist =>
      rcases (persistHistory_eq_ok hpersist).2 with
        ⟨_, rfl, _⟩ | ⟨digest, terminal, _, _, _, hterminal, _, rfl, _⟩
      · exact ⟨stored, _, _, _, stored.terminalResult, hmade, rfl, rfl⟩
      · exact ⟨updated, _, _, _, terminal, hmade, trimTerminal_isSome hterminal, rfl⟩

/-- What one operation does to the record of one key. -/
inductive RecordStep (op : StoreOp) (key : String) : Option Checkpoint → Option Checkpoint → Prop
  | kept (record : Option Checkpoint) : RecordStep op key record record
  | created (checkpoint : Checkpoint) (hop : op = .create checkpoint)
      (hkey : checkpoint.checkpointKey = key)
      (hvalid : validateCheckpointCreation checkpoint = .ok ()) :
      RecordStep op key none (some checkpoint)
  | written (current stored : Checkpoint) (hwrote : Wrote op key current stored) :
      RecordStep op key (some current) (some stored)
  | deleted (record : Option Checkpoint) (hop : op = .delete key) : RecordStep op key record none

theorem RecordStep.ofInsert {op : StoreOp} {before after : MemoryStore} {key written : String}
    {current stored : Checkpoint} (hfound : before.checkpoints[written]? = some current)
    (hcheckpoints : after.checkpoints = before.checkpoints.insert written stored)
    (hwrote : Wrote op written current stored) :
    RecordStep op key before.checkpoints[key]? after.checkpoints[key]? := by
  rw [hcheckpoints, Table.get_insert]
  by_cases hkey : written = key
  · subst hkey
    rw [if_pos rfl, hfound]
    exact .written current stored hwrote
  · rw [if_neg hkey]
    exact .kept _

theorem TableStep.record {op : StoreOp} {before after : MemoryStore}
    (h : TableStep op before after) (key : String) :
    RecordStep op key before.checkpoints[key]? after.checkpoints[key]? := by
  cases h with
  | kept hcheckpoints _ =>
      rw [hcheckpoints]
      exact .kept _
  | created checkpoint hop hnew hvalid hcheckpoints _ =>
      rw [hcheckpoints, Table.get_insert]
      by_cases hkey : checkpoint.checkpointKey = key
      · rw [if_pos hkey, ← hkey, hnew]
        exact .created checkpoint hop rfl hvalid
      · rw [if_neg hkey]
        exact .kept _
  | replaced written current updated hfound hmade _ hcheckpoints _ =>
      exact .ofInsert hfound hcheckpoints (.plain hmade)
  | archived written current updated stored archive hfound hmade hpersist hcheckpoints _ =>
      exact .ofInsert hfound hcheckpoints (.archived updated _ _ hmade hpersist)
  | deleted erased hop hcheckpoints _ =>
      rw [hcheckpoints, Table.get_erase]
      by_cases hkey : erased = key
      · subst hkey
        rw [if_pos rfl]
        exact .deleted _ hop
      · rw [if_neg hkey]
        exact .kept _

/-- A rewritten record keeps its key. -/
theorem Wrote.checkpointKey {op : StoreOp} {key : String} {current stored : Checkpoint}
    (h : Wrote op key current stored) : stored.checkpointKey = current.checkpointKey := by
  obtain ⟨updated, _, _, _, _, hmade, _, rfl⟩ := h.frame
  exact hmade.checkpointKey

theorem exec_keyed (op : StoreOp) (store : MemoryStore) (hkeyed : Keyed store) :
    Keyed (exec op store) := by
  intro key checkpoint hfound
  have hstep := (exec_step op store hkeyed).record key
  rw [hfound] at hstep
  generalize hbefore : store.checkpoints[key]? = record at hstep
  cases hstep with
  | kept => exact hkeyed key checkpoint hbefore
  | created _ _ hkey _ => exact hkey
  | written current _ hwrote => rw [hwrote.checkpointKey, hkeyed key current hbefore]

theorem run_keyed (ops : List StoreOp) : Keyed (run exec ops {}) :=
  run_preserves exec (fun _ => True) Keyed (fun op store _ => exec_keyed op store) ops
    (fun _ _ => trivial) {} keyed_empty

/-- One operation on the record of a key, in a store that has been reached. -/
theorem exec_record (ops : List StoreOp) (op : StoreOp) (key : String) :
    RecordStep op key (run exec ops {}).checkpoints[key]?
      (exec op (run exec ops {})).checkpoints[key]? :=
  (exec_step op _ (run_keyed ops)).record key

/-- The times of a call are JSON-safe, as its callers compute them from the clock. -/
def StoreOp.timesSafe : StoreOp → Prop
  | .claim _ _ _ lease now _ | .renew _ _ lease now | .claimNotification _ _ _ lease now
  | .claimWake _ _ _ lease now => now ≤ maxWireInteger ∧ lease ≤ maxWireInteger
  | .admitCommand _ _ now | .resolveCommand _ _ now | .consumeResponse _ _ now
  | .reapHostInteraction _ _ now | .completeNotification _ _ _ _ _ now _
  | .reconcileNotification _ _ _ now _ | .reapWakes _ now => now ≤ maxWireInteger
  | _ => True

/-- Every record of the store passes the validator. -/
def AllValid (store : MemoryStore) : Prop :=
  ∀ (key : String) (checkpoint : Checkpoint), store.checkpoints[key]? = some checkpoint →
    validateCheckpoint checkpoint = .ok ()

theorem Wrote.valid {op : StoreOp} {key : String} {current stored : Checkpoint}
    (hwrote : Wrote op key current stored) (htimes : op.timesSafe)
    (hcurrent : validateCheckpoint current = .ok ()) : validateCheckpoint stored = .ok () := by
  have hlease : ∀ key' token lease now, op = .renew key' token lease now →
      lease ≤ maxWireInteger := by
    rintro key' token lease now rfl
    exact htimes.2
  cases hwrote with
  | plain hmade => exact hmade.valid hlease hcurrent
  | archived updated _ _ hmade hpersist =>
      exact persistHistory_valid hpersist (hmade.valid hlease hcurrent)

theorem exec_allValid (op : StoreOp) (store : MemoryStore) (htimes : op.timesSafe)
    (hkeyed : Keyed store) (hvalid : AllValid store) : AllValid (exec op store) := by
  intro key checkpoint hfound
  have hstep := (exec_step op store hkeyed).record key
  rw [hfound] at hstep
  generalize hbefore : store.checkpoints[key]? = record at hstep
  cases hstep with
  | kept => exact hvalid key checkpoint hbefore
  | created _ _ _ hcreation => exact validateCheckpointCreation_valid hcreation
  | written current _ hwrote => exact hwrote.valid htimes (hvalid key current hbefore)

theorem run_sound (ops : List StoreOp) (htimes : ∀ op ∈ ops, op.timesSafe) :
    Keyed (run exec ops {}) ∧ AllValid (run exec ops {}) :=
  run_preserves exec StoreOp.timesSafe (fun store => Keyed store ∧ AllValid store)
    (fun op store hop h => ⟨exec_keyed op store h.1, exec_allValid op store hop h.1 h.2⟩)
    ops htimes {} ⟨keyed_empty, fun _ _ h => by simp at h⟩

/-- After any run of operations with JSON-safe times, every record the store holds passes
`validate_checkpoint`. -/
theorem checkpoints_valid (ops : List StoreOp) (htimes : ∀ op ∈ ops, op.timesSafe)
    (key : String) (checkpoint : Checkpoint)
    (hfound : (run exec ops {}).checkpoints[key]? = some checkpoint) :
    validateCheckpoint checkpoint = .ok () :=
  (run_sound ops htimes).2 key checkpoint hfound

end

namespace Sample

/-- A run that creates the checkpoint and claims it. -/
def claimRun : List StoreOp :=
  [.create created, .claim "checkpoint" 1 "worker-a" 2000 1000 .continue]

theorem claimRun_record :
    (@run _ _ (@exec (runtime [])) claimRun {}).checkpoints["checkpoint"]? = some claimed := by
  decide +kernel

end Sample

theorem checkpoints_valid_claimRun :
    @validateCheckpoint (Sample.runtime []).toPlatform Sample.claimed = .ok () :=
  @checkpoints_valid (Sample.runtime []) Sample.claimRun
    (by simp [Sample.claimRun, StoreOp.timesSafe, maxWireInteger]) "checkpoint" Sample.claimed
    Sample.claimRun_record

end VvAgent
