import VvAgent.Budget.Laws
import VvAgent.Types.Result

/-!
The resumption of a run that waits for the approval of a tool call. The clones of a run state
share one map in which an attempt marks the approval as consumed, under the key of its target
checkpoint if it has one. An attempt goes through its checks, then takes the lock of the map,
and then prepares the call and dispatches it; other attempts run in between.
-/

namespace VvAgent
open Lib Lib.Outcome

inductive ResumePolicy where
  | new
  | resumeIfPresent
  | requireExisting
  deriving DecidableEq

structure CheckpointConfig where
  key : Option String
  resumePolicy : ResumePolicy
  deriving DecidableEq

/-- The default configuration of a runner, as far as an approved call depends on it. -/
structure Runner where
  checkpointConfig : Option CheckpointConfig := none
  budgetLimits : Option RunBudgetLimits := none
  hostCostMeter : Bool := false

structure PendingToolApproval where
  interruptionId : String
  sourceCall : ToolCall
  call : ToolCall
  cycleIndex : UInt32
  sourceCheckpointKey : Option String := none
  sourceOperationId : Option String := none
  sourceAttempt : Option Nat := none
  sourceIdempotencySupport : ToolIdempotency

/-- The interrupted run: its result and the context in which it can be resumed. -/
structure InterruptedRun where
  cycles : List CycleRecord
  checkpointKey : Option String := none
  budgetUsage : Option BudgetUsageSnapshot := none
  pendingToolApproval : Option PendingToolApproval
  /-- The limits and the meter of the run's own configuration. -/
  budgetLimits : Option RunBudgetLimits := none
  hostCostMeter : Bool := false
  /-- The runner of the interrupted run. -/
  runner : Runner := {}

/-- What the run under a target checkpoint is configured with, as far as it is checked before
the approved call is dispatched. -/
structure TargetRun where
  maxCycles : Nat := 10
  model : Option String
  handoffs : List String := []
  /-- `supports_add_items_once` of the session, if there is one. -/
  sessionAppendsOnce : Option Bool := none
  /-- The first of the other checks of the configuration that fails. -/
  invalid : Option String := none
  /-- The declaration of the approved tool in the registry of the run. -/
  toolIdempotency : ToolIdempotency

structure ResumeAttempt where
  runner : Runner
  approvedIds : List String
  input : Option String := none
  /-- What the cancellation token says when it is asked. -/
  cancelled : Bool := false
  targetRun : TargetRun

def checkpointApprovalResumeConfigInvalid : String :=
  "checkpoint_approval_resume_config_invalid: checkpoint approval resume requires a distinct explicit resume_if_present key"

def selectApprovedToolContext (pending : Option PendingToolApproval) (approvedIds : List String) :
    Except String (Option PendingToolApproval) :=
  if approvedIds.isEmpty then .ok none
  else
    match pending with
    | none => .error "approved tool call is missing its captured interruption context"
    | some approval =>
        if approvedIds.contains approval.interruptionId then .ok (some approval)
        else .error "approved tool call is missing its captured interruption context"

/-- A result that stands for the captured call. -/
def PendingToolApproval.answeredBy (approval : PendingToolApproval)
    (result : ToolExecutionResult) : Bool :=
  result.toolCallId == approval.call.id &&
    (result.metadata.lookup "approval_interruption_id").bind Json.asStr? ==
      some approval.interruptionId &&
    (result.metadata.lookup "tool_name").bind Json.asStr? == some approval.call.name &&
    result.metadata.lookup "arguments" == some (.obj approval.call.arguments)

def approvalSnapshotMatchesResult (cycles : List CycleRecord) (approval : PendingToolApproval) :
    Bool :=
  cycles.any fun cycle =>
    cycle.index == approval.cycleIndex && cycle.toolCalls.any (· == approval.sourceCall) &&
      cycle.toolResults.any approval.answeredBy

namespace ResumeAttempt

/-- The runner that resumes the approved call. -/
def approvalRunner (attempt : ResumeAttempt) (source : InterruptedRun) : Runner :=
  if attempt.runner.checkpointConfig.isSome then attempt.runner else source.runner

def target (attempt : ResumeAttempt) (source : InterruptedRun) : Option CheckpointConfig :=
  (attempt.approvalRunner source).checkpointConfig

def targetKey (attempt : ResumeAttempt) (source : InterruptedRun) : Option String :=
  (attempt.target source).bind (·.key)

/-- The target checkpoint of an attempt, next to that of the interrupted run. -/
def checkTarget (attempt : ResumeAttempt) (source : InterruptedRun)
    (approval : PendingToolApproval) : Except String Unit :=
  match approval.sourceCheckpointKey.or source.checkpointKey with
  | some sourceKey => do
      refuse (approval.sourceOperationId.isNone || approval.sourceAttempt.isNone)
        "checkpoint_journal_integrity_mismatch: captured source operation identity is incomplete"
      refuse (!(attempt.target source).any fun config =>
          config.resumePolicy == .resumeIfPresent && config.key.any (!isBlank ·) &&
            config.key != some sourceKey)
        checkpointApprovalResumeConfigInvalid
  | none =>
      refuse ((attempt.target source).any fun config =>
          config.resumePolicy != .resumeIfPresent || config.key.all isBlank)
        checkpointApprovalResumeConfigInvalid

end ResumeAttempt

inductive ResumePhase where
  /-- The checks are passed; the lock is not taken yet. -/
  | admitted (approval : PendingToolApproval)
  /-- The approval is consumed for the attempt; the call is not dispatched yet. -/
  | holding (approval : PendingToolApproval)
  | rejected (reason : String)
  | dispatched
  /-- Over without a dispatch and without a rejection: nothing was approved, the run was
  cancelled, the target's journal had the result, or a store or a provider failed. -/
  | ended

/-- An attempt, where it is, and whether it wrote the consumption. -/
structure ResumeRecord where
  attempt : ResumeAttempt
  phase : ResumePhase
  wrote : Bool := false

/-- The checks before the lock, in order. -/
def ResumeAttempt.check (attempt : ResumeAttempt) (source : InterruptedRun) :
    Except String ResumePhase := do
  match ← selectApprovedToolContext source.pendingToolApproval attempt.approvedIds with
  | none => return .ended
  | some approval =>
      refuse (!approvalSnapshotMatchesResult source.cycles approval)
        "approved tool call does not match the captured interruption"
      refuse attempt.input.isSome "input cannot be provided when resuming an approved tool call"
      if attempt.cancelled then return .ended
      attempt.checkTarget source approval
      return .admitted approval

/-- The consumption under the lock: whether it was written, and the map after it. -/
def consumeApproval (consumed : Table (Option String)) (interruptionId : String)
    (targetKey : Option String) : Except String (Bool × Table (Option String)) :=
  match consumed[interruptionId]? with
  | some previousKey =>
      if previousKey ≠ targetKey ∨ targetKey = none then .error "approval_already_consumed"
      else .ok (false, consumed)
  | none => .ok (true, consumed.insert interruptionId targetKey)

/-- The checks that a run under a target checkpoint makes of its configuration. -/
def TargetRun.validate (targetRun : TargetRun) : Except String Unit := do
  refuse (targetRun.maxCycles == 0) "max_cycles must be between 1 and 4294967295"
  refuse targetRun.model.isNone "agent model is not configured"
  refuse (!targetRun.handoffs.isEmpty)
    "checkpoint_handoff_unsupported: checkpointed runs do not support handoff state"
  refuse (targetRun.sessionAppendsOnce == some false)
    "checkpoint_session_idempotency_unsupported: checkpointed runs require an append-once session"
  match targetRun.invalid with
  | some error => .error error
  | none => .ok ()

/-- The limits of a resumed run without a target checkpoint. -/
def ResumeAttempt.budgetLimits (attempt : ResumeAttempt) (source : InterruptedRun) :
    Option RunBudgetLimits :=
  (source.budgetLimits.or (attempt.approvalRunner source).budgetLimits).filter (·.hasLimits)

/-- The checks after the lock that come before anything is done for the call. -/
def ResumeAttempt.checkConfiguration (attempt : ResumeAttempt) (source : InterruptedRun)
    (nowNs : Nat) : Except String Unit :=
  match attempt.target source with
  | some _ => attempt.targetRun.validate
  | none =>
      match attempt.budgetLimits source with
      | none => .ok ()
      | some limits => do
          let metered := source.hostCostMeter || (attempt.approvalRunner source).hostCostMeter
          let _ ← BudgetEvaluator.withClock limits metered source.budgetUsage nowNs
          return ()

/-- A run under a target checkpoint compares the declaration of the tool. -/
def ResumeAttempt.checkDeclaration (attempt : ResumeAttempt) (source : InterruptedRun)
    (approval : PendingToolApproval) : Except String Unit :=
  refuse ((attempt.target source).isSome &&
      attempt.targetRun.toolIdempotency != approval.sourceIdempotencySupport)
    "checkpoint_journal_integrity_mismatch: approved tool idempotency declaration changed"

/-- How far the environment lets a prepared attempt come. -/
inductive ResumeProgress where
  | endsBeforeTool
  | reachesTool (dispatched : Bool)

def ResumeAttempt.proceed (attempt : ResumeAttempt) (source : InterruptedRun)
    (approval : PendingToolApproval) (nowNs : Nat) (progress : ResumeProgress) : ResumePhase :=
  match attempt.checkConfiguration source nowNs, progress with
  | .error reason, _ => .rejected reason
  | .ok (), .endsBeforeTool => .ended
  | .ok (), .reachesTool dispatched =>
      match attempt.checkDeclaration source approval with
      | .error reason => .rejected reason
      | .ok () => if dispatched then .dispatched else .ended

/-- The map that the clones of a run state share, and the attempts in the order in which
they began. -/
structure ResumeRun where
  consumed : Table (Option String) := ∅
  records : List ResumeRecord := []

inductive ResumeEvent where
  | resume (attempt : ResumeAttempt)
  | lock (index : Nat)
  | proceed (index : Nat) (nowNs : Nat) (progress : ResumeProgress)

namespace ResumeRun

def begin (state : ResumeRun) (source : InterruptedRun) (attempt : ResumeAttempt) : ResumeRun :=
  let phase := match attempt.check source with
    | .error reason => .rejected reason
    | .ok phase => phase
  { state with records := state.records ++ [{ attempt, phase }] }

def afterLock (state : ResumeRun) (source : InterruptedRun) (index : Nat)
    (attempt : ResumeAttempt) (approval : PendingToolApproval) : ResumeRun :=
  match consumeApproval state.consumed approval.interruptionId (attempt.targetKey source) with
  | .error reason =>
      { state with records := state.records.set index { attempt, phase := .rejected reason } }
  | .ok (wrote, consumed) =>
      { consumed, records := state.records.set index { attempt, phase := .holding approval, wrote } }

def step (source : InterruptedRun) (event : ResumeEvent) (state : ResumeRun) : ResumeRun :=
  match event with
  | .resume attempt => state.begin source attempt
  | .lock index =>
      match state.records[index]? with
      | some ⟨attempt, .admitted approval, _⟩ => state.afterLock source index attempt approval
      | _ => state
  | .proceed index nowNs progress =>
      match state.records[index]? with
      | some ⟨attempt, .holding approval, wrote⟩ =>
          let phase := attempt.proceed source approval nowNs progress
          { state with records := state.records.set index { attempt, phase, wrote } }
      | _ => state

end ResumeRun

/-! ### What holds in every run -/

/-- The approval is the attempt's: it is going to be dispatched, or it was. -/
def ResumePhase.held : ResumePhase → Bool
  | .holding _ | .dispatched => true
  | _ => false

/-- The configuration of the attempt passes the checks that come after the lock. -/
def ResumeAttempt.Configured (attempt : ResumeAttempt) (source : InterruptedRun) : Prop :=
  match attempt.target source with
  | some _ =>
      attempt.targetRun.validate = .ok () ∧
        ∀ approval, source.pendingToolApproval = some approval →
          attempt.targetRun.toolIdempotency = approval.sourceIdempotencySupport
  | none =>
      ∀ limits, attempt.budgetLimits source = some limits →
        limits.validate = .ok () ∧ (source.budgetUsage.getD {}).Valid

def ResumeAttempt.Keyed (attempt : ResumeAttempt) (source : InterruptedRun) : Prop :=
  attempt.targetKey source = none → attempt.target source = none

def ResumeRecord.Sound (record : ResumeRecord) (source : InterruptedRun) : Prop :=
  match record.phase with
  | .admitted approval | .holding approval =>
      source.pendingToolApproval = some approval ∧ record.attempt.Keyed source
  | .dispatched => record.attempt.Keyed source
  | .rejected _ => record.wrote = true → ¬ record.attempt.Configured source
  | .ended => True

/-- The map has the key of every attempt that holds the approval, and an attempt without a
key holds it alone. -/
structure ResumeRun.Consistent (state : ResumeRun) (source : InterruptedRun) : Prop where
  recorded : ∀ (i : Nat) (record : ResumeRecord), state.records[i]? = some record →
    record.phase.held = true → ∃ approval, source.pendingToolApproval = some approval ∧
      state.consumed[approval.interruptionId]? = some (record.attempt.targetKey source)
  alone : ∀ (i j : Nat) (first second : ResumeRecord),
    state.records[i]? = some first → state.records[j]? = some second →
    first.phase.held = true → second.phase.held = true →
    first.attempt.targetKey source = none → i = j
  sound : ∀ record ∈ state.records, record.Sound source

theorem keyed_of_checkTarget {attempt : ResumeAttempt} {source : InterruptedRun}
    {approval : PendingToolApproval} (h : attempt.checkTarget source approval = .ok ()) :
    attempt.Keyed source := by
  intro hkey
  cases htarget : attempt.target source with
  | none => rfl
  | some config =>
      have hnone : config.key = none := by simpa [ResumeAttempt.targetKey, htarget] using hkey
      unfold ResumeAttempt.checkTarget at h
      split at h
      · simp [unit_guard_bind, htarget, hnone] at h
      · simp [htarget, hnone] at h

/-- An attempt that passes its checks is over, or it is admitted for the pending approval. -/
theorem check_eq_ok {attempt : ResumeAttempt} {source : InterruptedRun} {phase : ResumePhase}
    (h : attempt.check source = .ok phase) :
    phase = .ended ∨ ∃ approval, phase = .admitted approval ∧
      source.pendingToolApproval = some approval ∧ attempt.Keyed source := by
  obtain ⟨selected, hselect, h⟩ := (bind_eq_ok _ _ _).mp h
  cases selected with
  | none => exact .inl (by simpa using h.symm)
  | some approval =>
      have hpending : source.pendingToolApproval = some approval := by
        unfold selectApprovedToolContext at hselect
        split at hselect
        · simp at hselect
        · split at hselect
          · simp at hselect
          · split at hselect
            · rename_i heq _
              rw [heq]
              simpa using hselect
            · simp at hselect
      simp only [unit_guard_bind, refuse_eq_ok] at h
      obtain ⟨-, -, h⟩ := h
      split at h
      · exact .inl (by simpa using h.symm)
      · obtain ⟨htarget, h⟩ := (unit_guard_bind _ _ _).mp h
        have hphase : phase = .admitted approval := by simpa using h.symm
        exact .inr ⟨approval, hphase, hpending, keyed_of_checkTarget htarget⟩

/-- An attempt takes a free approval, or it finds its own key. -/
theorem consumeApproval_eq_ok {consumed after : Table (Option String)} {id : String}
    {key : Option String} {wrote : Bool}
    (h : consumeApproval consumed id key = .ok (wrote, after)) :
    (wrote = false ∧ after = consumed ∧ consumed[id]? = some key ∧ key ≠ none) ∨
      (consumed[id]? = none ∧ after = consumed.insert id key) := by
  unfold consumeApproval at h
  split at h
  · rename_i previous hprevious
    split at h
    · simp at h
    · rename_i hsame
      obtain ⟨hkey, hsome⟩ := not_or.mp hsame
      rw [ne_eq, not_not] at hkey
      simp only [Except.ok.injEq, Prod.mk.injEq] at h
      exact .inl ⟨h.1.symm, h.2.symm, by rw [hprevious, hkey], hsome⟩
  · rename_i hnone
    simp only [Except.ok.injEq, Prod.mk.injEq] at h
    exact .inr ⟨hnone, h.2.symm⟩

theorem checkConfiguration_eq_ok (attempt : ResumeAttempt) (source : InterruptedRun)
    (nowNs : Nat) :
    attempt.checkConfiguration source nowNs = .ok () ↔
      match attempt.target source with
      | some _ => attempt.targetRun.validate = .ok ()
      | none => ∀ limits, attempt.budgetLimits source = some limits →
          limits.validate = .ok () ∧ (source.budgetUsage.getD {}).Valid := by
  unfold ResumeAttempt.checkConfiguration
  cases attempt.target source with
  | some config => rfl
  | none =>
      cases hlimits : attempt.budgetLimits source with
      | none => simp
      | some limits =>
          have hhas : limits.hasLimits = true := by
            simp only [ResumeAttempt.budgetLimits, Option.filter_eq_some_iff] at hlimits
            exact hlimits.2
          simp [bind_eq_ok, BudgetEvaluator.withClock_eq_ok, hhas]

/-- The attempts whose configuration passes are those that are never rejected after the lock. -/
theorem configured_iff {attempt : ResumeAttempt} {source : InterruptedRun}
    {approval : PendingToolApproval} (hpending : source.pendingToolApproval = some approval) :
    attempt.Configured source ↔ ∀ nowNs progress reason,
      attempt.proceed source approval nowNs progress ≠ .rejected reason := by
  have hsplit : attempt.Configured source ↔
      (∀ nowNs, attempt.checkConfiguration source nowNs = .ok ()) ∧
        attempt.checkDeclaration source approval = .ok () := by
    simp only [checkConfiguration_eq_ok, ResumeAttempt.checkDeclaration, refuse_eq_ok,
      ResumeAttempt.Configured]
    cases attempt.target source with
    | none => simp
    | some config => simp [hpending]
  rw [hsplit]
  constructor
  · rintro ⟨hcheck, hdeclaration⟩ nowNs progress reason h
    unfold ResumeAttempt.proceed at h
    rw [hcheck nowNs] at h
    cases progress with
    | endsBeforeTool => cases h
    | reachesTool dispatched =>
        rw [hdeclaration] at h
        cases dispatched <;> cases h
  · intro h
    have hcheck : ∀ nowNs, attempt.checkConfiguration source nowNs = .ok () := by
      intro nowNs
      cases hresult : attempt.checkConfiguration source nowNs with
      | error reason =>
          exact absurd (by simp [ResumeAttempt.proceed, hresult])
            (h nowNs .endsBeforeTool reason)
      | ok result => rfl
    refine ⟨hcheck, ?_⟩
    cases hresult : attempt.checkDeclaration source approval with
    | error reason =>
        exact absurd (by simp [ResumeAttempt.proceed, hcheck, hresult])
          (h 0 (.reachesTool true) reason)
    | ok result => rfl

namespace ResumeRun

variable {source : InterruptedRun}

theorem Consistent.begin {state : ResumeRun} (h : state.Consistent source)
    (attempt : ResumeAttempt) : (state.begin source attempt).Consistent source := by
  have hnew : ∀ (i : Nat) (record : ResumeRecord),
      (state.begin source attempt).records[i]? = some record → record.phase.held = true →
      state.records[i]? = some record := by
    intro i record hrecord hheld
    simp only [ResumeRun.begin, List.getElem?_append] at hrecord
    split at hrecord
    · exact hrecord
    · exfalso
      obtain rfl := List.mem_singleton.mp (List.mem_of_getElem? hrecord)
      cases hcheck : attempt.check source with
      | error reason => simp [hcheck, ResumePhase.held] at hheld
      | ok phase =>
          rcases check_eq_ok hcheck with rfl | ⟨approval, rfl, -⟩ <;>
            simp [hcheck, ResumePhase.held] at hheld
  refine ⟨?_, ?_, ?_⟩
  · intro i record hrecord hheld
    exact h.recorded i record (hnew i record hrecord hheld) hheld
  · intro i j first second hfirst hsecond hheld hheld' hkey
    exact h.alone i j first second (hnew i first hfirst hheld) (hnew j second hsecond hheld')
      hheld hheld' hkey
  · intro record hrecord
    rcases List.mem_append.mp hrecord with hold | hrecord
    · exact h.sound record hold
    · obtain rfl := List.mem_singleton.mp hrecord
      cases hcheck : attempt.check source with
      | error reason => simp [ResumeRecord.Sound]
      | ok phase =>
          rcases check_eq_ok hcheck with rfl | ⟨approval, rfl, hpending, hkeyed⟩
          · simp [ResumeRecord.Sound]
          · exact ⟨hpending, hkeyed⟩

/-- A record is replaced, and the map keeps what it has for the pending approval. The new record
may hold the approval if the map has its key, and without a key only if no other one holds it. -/
theorem Consistent.replace {state : ResumeRun} (h : state.Consistent source) {index : Nat}
    {old new : ResumeRecord} {consumed : Table (Option String)}
    (hold : state.records[index]? = some old)
    (hkept : ∀ approval, source.pendingToolApproval = some approval → ∀ key : Option String,
      state.consumed[approval.interruptionId]? = some key →
        consumed[approval.interruptionId]? = some key)
    (hrecorded : new.phase.held = true → ∃ approval, source.pendingToolApproval = some approval ∧
      consumed[approval.interruptionId]? = some (new.attempt.targetKey source))
    (halone : new.phase.held = true → ∀ (j : Nat) (other : ResumeRecord), j ≠ index →
      state.records[j]? = some other → other.phase.held = true →
        new.attempt.targetKey source ≠ none ∧ other.attempt.targetKey source ≠ none)
    (hsound : new.Sound source) :
    Consistent { consumed, records := state.records.set index new } source := by
  have hbound : index < state.records.length := (List.getElem?_eq_some_iff.mp hold).1
  have hget : ∀ (i : Nat) (record : ResumeRecord), (state.records.set index new)[i]? = some record →
      (i = index ∧ record = new) ∨ (i ≠ index ∧ state.records[i]? = some record) := by
    intro i record hrecord
    by_cases hi : index = i
    · subst hi
      rw [List.getElem?_set_self hbound] at hrecord
      exact .inl ⟨rfl, (Option.some.inj hrecord).symm⟩
    · rw [List.getElem?_set_ne hi] at hrecord
      exact .inr ⟨fun heq => hi heq.symm, hrecord⟩
  refine ⟨?_, ?_, ?_⟩
  · intro i record hrecord hheld
    rcases hget i record hrecord with ⟨rfl, rfl⟩ | ⟨-, hrecord⟩
    · exact hrecorded hheld
    · obtain ⟨approval, hpending, hkey⟩ := h.recorded i record hrecord hheld
      exact ⟨approval, hpending, hkept approval hpending _ hkey⟩
  · intro i j first second hfirst hsecond hheld hheld' hkey
    rcases hget i first hfirst with ⟨rfl, rfl⟩ | ⟨hi, hfirstOld⟩ <;>
      rcases hget j second hsecond with ⟨rfl, rfl⟩ | ⟨hj, hsecondOld⟩
    · rfl
    · exact absurd hkey (halone hheld j second hj hsecondOld hheld').1
    · exact absurd hkey (halone hheld' i first hi hfirstOld hheld).2
    · exact h.alone i j first second hfirstOld hsecondOld hheld hheld' hkey
  · intro record hrecord
    rcases List.mem_or_eq_of_mem_set hrecord with hrecord | rfl
    · exact h.sound record hrecord
    · exact hsound

theorem Consistent.afterLock {state : ResumeRun} (h : state.Consistent source) {index : Nat}
    {attempt : ResumeAttempt} {approval : PendingToolApproval} {wrote : Bool}
    (hrecord : state.records[index]? = some ⟨attempt, .admitted approval, wrote⟩) :
    (state.afterLock source index attempt approval).Consistent source := by
  obtain ⟨hpending, hkeyed⟩ := h.sound _ (List.mem_of_getElem? hrecord)
  unfold ResumeRun.afterLock
  split
  · refine h.replace hrecord ?_ ?_ ?_ ?_
    · intro approval _ key hkey
      exact hkey
    · simp [ResumePhase.held]
    · simp [ResumePhase.held]
    · simp [ResumeRecord.Sound]
  · rename_i wrote consumed hconsume
    rcases consumeApproval_eq_ok hconsume with ⟨rfl, rfl, hsame, hsome⟩ | ⟨hfree, rfl⟩
    · -- The attempt comes back under the key that consumed the approval.
      refine h.replace hrecord (fun _ _ _ hkey => hkey) (fun _ => ⟨approval, hpending, hsame⟩) ?_
        ⟨hpending, hkeyed⟩
      intro _ j other _ hother hheld
      refine ⟨hsome, ?_⟩
      obtain ⟨approval', hpending', hkey⟩ := h.recorded j other hother hheld
      obtain rfl : approval = approval' := Option.some.inj (hpending.symm.trans hpending')
      rw [hsame] at hkey
      rwa [← Option.some.inj hkey]
    · -- The approval was free, so that no attempt held it.
      have hnone : ∀ (j : Nat) (other : ResumeRecord), state.records[j]? = some other →
          other.phase.held = true → False := by
        intro j other hother hheld
        obtain ⟨approval', hpending', hkey⟩ := h.recorded j other hother hheld
        obtain rfl : approval = approval' := Option.some.inj (hpending.symm.trans hpending')
        rw [hfree] at hkey
        cases hkey
      refine h.replace hrecord ?_ (fun _ => ⟨approval, hpending, by simp⟩) ?_
        ⟨hpending, hkeyed⟩
      · intro approval' hpending' key hkey
        obtain rfl : approval = approval' := Option.some.inj (hpending.symm.trans hpending')
        rw [hfree] at hkey
        cases hkey
      · intro _ j other _ hother hheld
        exact (hnone j other hother hheld).elim

theorem Consistent.afterProceed {state : ResumeRun} (h : state.Consistent source) {index : Nat}
    {attempt : ResumeAttempt} {approval : PendingToolApproval} {wrote : Bool}
    (hrecord : state.records[index]? = some ⟨attempt, .holding approval, wrote⟩)
    (nowNs : Nat) (progress : ResumeProgress) :
    Consistent { state with
      records := state.records.set index
        { attempt, phase := attempt.proceed source approval nowNs progress, wrote } } source := by
  have hheld : (ResumePhase.holding approval).held = true := rfl
  obtain ⟨hpending, hkeyed⟩ := h.sound _ (List.mem_of_getElem? hrecord)
  have hrecorded := h.recorded index _ hrecord hheld
  refine h.replace hrecord (fun _ _ _ hkey => hkey) (fun _ => hrecorded) ?_ ?_
  · intro _ j other hj hother hother'
    constructor
    · intro hkey
      exact hj (h.alone index j _ other hrecord hother hheld hother' hkey).symm
    · intro hkey
      exact hj (h.alone j index other _ hother hrecord hother' hheld hkey)
  · cases hphase : attempt.proceed source approval nowNs progress with
    | admitted approval' | holding approval' =>
        exfalso
        unfold ResumeAttempt.proceed at hphase
        split at hphase
        · cases hphase
        · cases hphase
        · split at hphase
          · cases hphase
          · split at hphase <;> cases hphase
    | rejected reason =>
        intro _ hconfigured
        exact (configured_iff hpending).mp hconfigured nowNs progress reason hphase
    | dispatched => exact hkeyed
    | ended => trivial

theorem Consistent.step {state : ResumeRun} (h : state.Consistent source) (event : ResumeEvent) :
    (step source event state).Consistent source := by
  cases event with
  | resume attempt => exact h.begin attempt
  | lock index =>
      simp only [ResumeRun.step]
      split
      · rename_i hrecord
        exact h.afterLock hrecord
      · exact h
  | proceed index nowNs progress =>
      simp only [ResumeRun.step]
      split
      · rename_i hrecord
        exact h.afterProceed hrecord nowNs progress
      · exact h

end ResumeRun

namespace ResumeSample

/-- A call of a tool that waits for its approval. -/
def call : ToolCall := ⟨"call_1", "deploy", [], none⟩

def waiting : ToolExecutionResult where
  toolCallId := "call_1"
  content := "Tool requires approval."
  status := .waitResponse
  directive := .waitUser
  errorCode := some "tool_approval_required"
  metadata := [("approval_interruption_id", .str "approval_1"), ("arguments", .obj []),
    ("tool_name", .str "deploy")]

def source : InterruptedRun where
  cycles := [⟨1, "", [call], [waiting], false⟩]
  pendingToolApproval := some
    { interruptionId := "approval_1", sourceCall := call, call, cycleIndex := 1,
      sourceIdempotencySupport := .unknown }

end ResumeSample

end VvAgent
