import VvAgent.Store.Rows
import VvAgent.Store.Terminal

/-!
What callers can rely on later. A reader who finds the revision that it has seen finds the work
that it has seen, so a write that names the revision of a snapshot only ever replaces that work. A
run that has ended stays ended. A command that was applied is answered as before, and not applied
again.
-/

namespace VvAgent
open Lib Lib.Outcome

/-- Records that differ in the lease and in the request to cancel, with its event. -/
def Checkpoint.SameWork (before after : Checkpoint) : Prop :=
  ∃ leaseExpiresAtMs cancelRequested eventOutbox,
    after = { before with leaseExpiresAtMs, cancelRequested, eventOutbox }

theorem Checkpoint.SameWork.refl (checkpoint : Checkpoint) : checkpoint.SameWork checkpoint :=
  ⟨_, _, _, rfl⟩

theorem Checkpoint.SameWork.trans {first second third : Checkpoint} (h : first.SameWork second)
    (h' : second.SameWork third) : first.SameWork third := by
  obtain ⟨_, _, _, rfl⟩ := h
  obtain ⟨_, _, _, rfl⟩ := h'
  exact ⟨_, _, _, rfl⟩

section
variable [Runtime]

/-- The writes that leave the revision alone: a renewal, and a cancel request to a live owner. -/
theorem Made.sameWork {op : StoreOp} {key : String} {current updated : Checkpoint}
    (hmade : Made op key current updated) (hkeeps : op.keepsRevision current = true) :
    current.SameWork updated := by
  cases hmade with
  | renew => exact ⟨_, _, _, rfl⟩
  | @command op clock lookup command now current updated effect hop h hupdated =>
      obtain ⟨_, _, _, _, hcase⟩ := applyControllerCommand_eq_ok h
      rw [hupdated] at hcase
      have hlive : current.claimLive now = true := by
        rcases hop with rfl | rfl <;> exact (Bool.and_eq_true_iff.mp hkeeps).2
      cases hcase with
      | requested => exact ⟨_, _, _, rfl⟩
      | moved _ _ _ _ _ hidle => simp [hlive] at hidle
      | ended _ _ _ _ _ hidle => simp [hlive] at hidle
  | _ => cases hkeeps

/-- They archive nothing. -/
theorem exec_keeping_history {op : StoreOp} {current : Checkpoint} (store : MemoryStore)
    (hkeeps : op.keepsRevision current = true) : (exec op store).history = store.history := by
  have happlied (clock : Clock) (command : ControllerCommand) (now : Nat) :
      (store.applyControllerCommand clock command now).2.history = store.history := by
    unfold MemoryStore.applyControllerCommand
    split
    · rfl
    split
    · rfl
    dsimp only
    split <;> exact store.putAnswer_history _ _
  cases op with
  | renew key token lease now =>
      simp only [exec, MemoryStore.renewCheckpointClaim, MemoryStore.atomically]
      split
      · rename_i h
        obtain ⟨_, _, h⟩ := (bind_eq_ok _ _ _).mp h
        repeat' split at h
        all_goals
          cases h
          rfl
      · rfl
  | admitCommand clock command now | resolveCommand clock command now =>
      have h := happlied clock command now
      simp only [exec, MemoryStore.admitControllerCommand, MemoryStore.resolveControllerCommand]
      repeat' split
      all_goals simp_all [MemoryStore.retainReceipt]
  | _ => cases hkeeps

theorem exec_sameWork {op : StoreOp} {store : MemoryStore} {key : String}
    {current stored : Checkpoint} (hkeyed : Keyed store)
    (hfound : store.checkpoints[key]? = some current)
    (hstored : (exec op store).checkpoints[key]? = some stored)
    (hrevision : stored.revision = current.revision) : current.SameWork stored := by
  have hkeeps : Fenced op current stored → op.keepsRevision current = true := by
    intro hfenced
    by_contra hraises
    have hraised := hfenced.revision
    rw [if_neg hraises] at hraised
    omega
  have hstep := (exec_step op store hkeyed).line hkeyed key
  unfold MemoryStore.line at hstep
  rw [hfound, hstored] at hstep
  generalize harchive : store.archiveOf key = archive at hstep
  generalize hlater : (exec op store).archiveOf key = later at hstep
  cases hstep with
  | kept => exact .refl _
  | plain _ _ _ hmade => exact hmade.sameWork (hkeeps hmade.fenced)
  | archived _ updated _ _ _ hmade hpersist =>
      have hkept := hkeeps (Wrote.archived updated _ _ hmade hpersist).fenced
      rcases (persistHistory_eq_ok hpersist).2 with ⟨_, rfl, _⟩ | ⟨_, _, _, _, _, _, _, _, hgrown⟩
      · exact hmade.sameWork hkept
      · rw [← hlater, ← harchive] at hgrown
        rw [MemoryStore.archiveOf, exec_keeping_history store hkept] at hgrown
        simpa [MemoryStore.archiveOf] using congrArg (·.payloads.length) hgrown

/-- What is known of the record of a key since a snapshot of it was stored. -/
def Follows (snapshot : Checkpoint) (key : String) (store : MemoryStore) : Prop :=
  ∃ found, store.checkpoints[key]? = some found ∧ snapshot.revision ≤ found.revision ∧
    (found.revision = snapshot.revision → snapshot.SameWork found)

theorem Follows.exec {snapshot : Checkpoint} {key : String} {store : MemoryStore}
    (h : Follows snapshot key store) (hkeyed : Keyed store) {op : StoreOp}
    (hkept : op ≠ .delete key) : Follows snapshot key (exec op store) := by
  obtain ⟨current, hfound, hle, hsame⟩ := h
  have hstep := (exec_step op store hkeyed).record key
  rw [hfound] at hstep
  generalize hafter : (VvAgent.exec op store).checkpoints[key]? = record at hstep
  cases hstep with
  | kept => exact ⟨current, hafter, hle, hsame⟩
  | written _ stored hwrote =>
      have hraised := hwrote.fenced.revision
      refine ⟨stored, hafter, by omega, fun hback => ?_⟩
      exact (hsame (by omega)).trans (exec_sameWork hkeyed hfound hafter (by omega))
  | deleted _ hop => exact absurd hop hkept

/-- No lost update. Whatever happens after a snapshot has been read, short of a deletion: where
its revision is found again, so is its work, and a write that expects its revision changes the
record only while it holds the work of the snapshot. -/
theorem no_lost_update (ops : List StoreOp) {key : String} {snapshot : Checkpoint}
    (hsnapshot : (run exec ops {}).checkpoints[key]? = some snapshot) {later : List StoreOp}
    (hlater : ∀ op ∈ later, op ≠ .delete key) :
    ∃ found, (run exec (ops ++ later) {}).checkpoints[key]? = some found ∧
      snapshot.revision ≤ found.revision ∧
      (found.revision = snapshot.revision → snapshot.SameWork found) ∧
      ∀ op, op.expectedRevision = some snapshot.revision →
        (exec op (run exec (ops ++ later) {})).checkpoints[key]? ≠ some found →
        snapshot.SameWork found := by
  have hfollows := run_preserves exec (fun op => op ≠ .delete key)
    (fun store => Keyed store ∧ Follows snapshot key store)
    (fun op store hop h => ⟨exec_keyed op store h.1, h.2.exec h.1 hop⟩)
    later hlater (run exec ops {}) ⟨run_keyed ops, snapshot, hsnapshot, le_rfl, fun _ => .refl _⟩
  rw [← run_append] at hfollows
  obtain ⟨hkeyed, found, hfound, hle, hsame⟩ := hfollows
  refine ⟨found, hfound, hle, hsame, fun op hop hchanged => ?_⟩
  by_contra hother
  apply hchanged
  rw [exec_stale hkeyed (.inr (by simp [hop])), hfound]
  intro current hcurrent
  obtain rfl : found = current := Option.some.inj (hfound.symm.trans hcurrent)
  exact .inr ⟨_, hop, fun hequal => hother (hsame hequal)⟩

end

/-- After a renewal the owner still replaces the work that it was given. -/
theorem no_lost_update_claimRun :
    letI := Sample.runtime []
    letI store := run exec (Sample.claimRun ++ [.renew "checkpoint" "worker-a" 3000 1500]) {}
    ∃ found, store.checkpoints["checkpoint"]? = some found ∧
      Sample.claimed.revision ≤ found.revision ∧
      (found.revision = Sample.claimed.revision → Sample.claimed.SameWork found) ∧
      ∀ op, op.expectedRevision = some Sample.claimed.revision →
        (exec op store).checkpoints["checkpoint"]? ≠ some found →
        Sample.claimed.SameWork found :=
  letI := Sample.runtime []
  no_lost_update Sample.claimRun Sample.claimRun_record (by simp)

section
variable [Runtime]

theorem LinesSound.valid {store : MemoryStore} {key : String} {current : Checkpoint}
    (h : LinesSound store) (hfound : store.checkpoints[key]? = some current) :
    ValidBesidesLease current := by
  have hline := h.2 key
  unfold MemoryStore.line at hline
  rw [hfound] at hline
  cases hline with
  | present _ _ hfiled => exact hfiled.valid

end

section
variable [Runtime]

/-- A command was applied. Since then at most the delivery of its wake has moved. -/
def Applied (receipt : ControllerCommandReceipt) (wake : ControllerCommandWake)
    (store : MemoryStore) : Prop :=
  ∃ outboxState outboxAttempt, store.ledger.commandReceipts[receipt.commandId]? =
    some ({ receipt with outboxState, outboxAttempt },
      .applied { receipt with outboxState, outboxAttempt } wake)

variable {receipt : ControllerCommandReceipt} {wake : ControllerCommandWake} {store : MemoryStore}

theorem Applied.step (h : Applied receipt wake store) {op : StoreOp}
    (hkept : op ≠ .delete receipt.handle.checkpointKey) : Applied receipt wake (exec op store) := by
  obtain ⟨outboxState, outboxAttempt, hrow⟩ := h
  have hrows := exec_rows op store
  generalize exec op store = after at hrows ⊢
  have hsame (hledger : after.ledger.commandReceipts = store.ledger.commandReceipts) :
      Applied receipt wake after := ⟨_, _, by rw [hledger, hrow]⟩
  cases hrows with
  | kept _ hledger | resolved _ _ _ _ _ _ hledger => exact hsame (by rw [hledger])
  | commanded _ _ _ _ _ _ _ hnew _ _ _ hafter =>
      refine ⟨outboxState, outboxAttempt, ?_⟩
      rw [hafter, MemoryStore.retainReceipt, Table.get_insert, if_neg]
      · exact (congrArg (·[receipt.commandId]?) (store.putAnswer_receipts _ _)).trans hrow
      · intro hsame
        rw [hsame, hrow] at hnew
        cases hnew
  | woken hrows =>
      have hstep := hrows receipt.commandId
      rw [MemoryStore.wakeRow, hrow] at hstep
      generalize hlater : after.wakeRow receipt.commandId = row at hstep
      have hfound := congrArg WakeRow.receipt hlater
      cases hstep <;> exact ⟨_, _, hfound⟩
  | deleted key hop hafter =>
      refine ⟨outboxState, outboxAttempt, ?_⟩
      rw [hafter, MemoryStore.deleteCheckpoint]
      dsimp only
      rw [Table.get_filter, hrow]
      simp [show receipt.handle.checkpointKey ≠ key from fun h => hkept (h ▸ hop)]
  | _ =>
      rename_i hafter
      exact hsame (hafter ▸ rfl)

theorem resolveControllerCommand_applied {clock : Clock} {command : ControllerCommand} {now : Nat}
    (h : (store.resolveControllerCommand clock command now).1 = .ok (.applied receipt wake)) :
    Applied receipt wake (exec (.resolveCommand clock command now) store) ∧
      receipt.commandId = command.commandId ∧ receipt.commandDigest = command.commandDigest ∧
      receipt.handle = command.handle := by
  simp only [exec]
  unfold MemoryStore.resolveControllerCommand at h ⊢
  split at h
  · cases h
  split at h
  · rename_i resolution _
    simp only [bind_eq_ok, pure_ok, Except.ok.injEq] at h
    obtain ⟨_, _, hreplay⟩ := h
    cases resolution <;> cases hreplay
  split at h
  · split at h <;> cases h
  · rename_i hdone
    obtain ⟨_, effect, _, _, rfl, hresolution, _⟩ := MemoryStore.applyControllerCommand_eq_ok hdone
    cases h
    cases hresolution
    refine ⟨⟨(commandReceipt command effect).outboxState, 0, ?_⟩, rfl, rfl, rfl⟩
    exact (Table.get_insert ..).trans (if_pos rfl)

/-- A command that was applied is never applied again, and what it was answered stands. -/
theorem applied_command_replayed {clock : Clock} {command : ControllerCommand} {now : Nat}
    (happlied : (store.resolveControllerCommand clock command now).1 = .ok (.applied receipt wake))
    {later : List StoreOp} (hlater : ∀ op ∈ later, op ≠ .delete command.handle.checkpointKey)
    {again : ControllerCommand} (hvalid : again.validate = .ok ())
    (hid : again.commandId = command.commandId) (clock' : Clock) (now' : Nat) :
    let after := run exec later (exec (.resolveCommand clock command now) store)
    ∃ outboxState outboxAttempt, after.resolveControllerCommand clock' again now' =
      (if again.commandDigest = command.commandDigest then
        .ok (.replayed { receipt with outboxState, outboxAttempt } wake)
      else .error MemoryStore.commandConflict, after) := by
  obtain ⟨hfirst, hcommand, hdigest, hhandle⟩ := resolveControllerCommand_applied happlied
  obtain ⟨outboxState, outboxAttempt, hrow⟩ := run_preserves exec
    (fun op => op ≠ .delete command.handle.checkpointKey) (Applied receipt wake)
    (fun op store hop h => h.step (hhandle ▸ hop)) later hlater _ hfirst
  refine ⟨outboxState, outboxAttempt, ?_⟩
  rw [hcommand, ← hid] at hrow
  rw [MemoryStore.resolveControllerCommand, hvalid]
  dsimp only
  rw [hrow]
  by_cases hsame : again.commandDigest = command.commandDigest
  · simp [refuse, hsame, hdigest, hcommand, hid, ControllerCommandResolution.replay]
  · simp [refuse, hsame, hdigest, Ne.symm hsame]

end

/-- A cancel request that comes again is answered again. -/
theorem applied_command_replayed_cancel :
    letI := Sample.runtime Sample.cancelDocuments
    letI after := exec (.resolveCommand Sample.clock Sample.cancelCommand 1500)
      (run exec Sample.claimRun {})
    ∃ receipt wake, after.resolveControllerCommand Sample.clock Sample.cancelCommand 1600 =
      (.ok (.replayed receipt wake), after) := by
  let _ : Runtime := Sample.runtime Sample.cancelDocuments
  have happlied : ((run exec Sample.claimRun {}).resolveControllerCommand Sample.clock
      Sample.cancelCommand 1500).1 =
      .ok (.applied (commandReceipt Sample.cancelCommand ⟨Sample.claimed, none, .none⟩) .none) := by
    decide +kernel
  obtain ⟨_, _, hreplayed⟩ := applied_command_replayed happlied (List.forall_mem_nil _)
    (by decide +kernel) rfl Sample.clock 1600
  exact ⟨_, _, hreplayed⟩

end VvAgent
