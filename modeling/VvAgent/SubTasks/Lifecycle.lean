import VvAgent.SubTasks.Manager

/-!
The life of a sub-task. A worker or a continuation that has been admitted keeps its record
running and owned, so that no second one is admitted: this holds in every run. The rest holds in
the runs in which a session is not replaced while a run is in progress, a worker does not end
before the run it contains, a run of a session starts inside of a run that the manager knows of,
and nobody interferes with a continuation that fails.
-/

namespace VvAgent
open Lib

/-! ### What the steps do to a record -/

/-- What decides whether a sub-task may be continued stays as it is. -/
structure SameRun (before after : ManagedSubTask) : Prop where
  running : after.running = before.running
  workerOwnedRun : after.workerOwnedRun = before.workerOwnedRun
  outcome : after.outcome = before.outcome
  session : after.session = before.session
  sessionGeneration : after.sessionGeneration = before.sessionGeneration

/-- Of all events only the start of a session run touches what decides this. -/
structure EventKeeps (event : String) (before after : ManagedSubTask) : Prop where
  workerOwnedRun : after.workerOwnedRun = before.workerOwnedRun
  session : after.session = before.session
  sessionGeneration : after.sessionGeneration = before.sessionGeneration
  run : event = "session_run_start" ∧ after.running = true ∨
    after.running = before.running ∧ after.outcome = before.outcome

namespace ManagedSubTask

section
variable [JsonDisplay]

theorem updateFromOutcome_same (record : ManagedSubTask) (outcome : SubTaskOutcome) :
    SameRun record (record.updateFromOutcome outcome) := by
  unfold updateFromOutcome
  split <;> exact ⟨rfl, rfl, rfl, rfl, rfl⟩

theorem updateFromOutcome_counted {record : ManagedSubTask} {outcome : SubTaskOutcome}
    (h : record.session.isSome = true → 0 < record.sessionGeneration) :
    (record.updateFromOutcome outcome).session.isSome = true →
      0 < (record.updateFromOutcome outcome).sessionGeneration := by
  have hsame := record.updateFromOutcome_same outcome
  rw [hsame.session, hsame.sessionGeneration]
  exact h

theorem handleSessionEvent_keeps (record : ManagedSubTask) (event : String) (payload : JsonObject)
    (now : String) : EventKeeps event record (record.handleSessionEvent event payload now) := by
  unfold handleSessionEvent
  dsimp only
  split
  · split <;> exact ⟨rfl, rfl, rfl, .inl ⟨rfl, rfl⟩⟩
  · split <;> exact ⟨rfl, rfl, rfl, .inr ⟨rfl, rfl⟩⟩
  · exact ⟨rfl, rfl, rfl, .inr ⟨rfl, rfl⟩⟩
  · exact ⟨rfl, rfl, rfl, .inr ⟨rfl, rfl⟩⟩
  · exact ⟨rfl, rfl, rfl, .inr ⟨rfl, rfl⟩⟩
  · exact ⟨rfl, rfl, rfl, .inr ⟨rfl, rfl⟩⟩
  · exact ⟨rfl, rfl, rfl, .inr ⟨rfl, rfl⟩⟩
  · exact ⟨rfl, rfl, rfl, .inr ⟨rfl, rfl⟩⟩
  · split <;> exact ⟨rfl, rfl, rfl, .inr ⟨rfl, rfl⟩⟩
  · exact ⟨rfl, rfl, rfl, .inr ⟨rfl, rfl⟩⟩

end

end ManagedSubTask

/-! ### One worker at a time -/

namespace SubTask

theorem eq_singleton_of_mem {α : Type} {items : List α} {item : α} (hone : items.length ≤ 1)
    (hmem : item ∈ items) : items = [item] := by
  rcases items with _ | ⟨first, _ | ⟨second, rest⟩⟩
  · cases hmem
  · rw [List.mem_singleton.mp hmem]
  · simp at hone

/-- Workers and admitted continuations exclude each other, and hold the record. -/
structure Exclusive (task : SubTask) : Prop where
  one : task.workers.length + task.calls.length ≤ 1
  owned : 0 < task.workers.length + task.calls.length →
    ∃ record, task.record = some record ∧ record.running = true ∧ record.workerOwnedRun = true

/-- The step leaves the record running and owned if it is. -/
theorem Exclusive.of_kept {task after : SubTask} (h : task.Exclusive)
    (hworkers : after.workers = task.workers) (hcalls : after.calls = task.calls)
    (hrecord : ∀ record, task.record = some record → record.running = true →
      record.workerOwnedRun = true →
        ∃ kept, after.record = some kept ∧ kept.running = true ∧ kept.workerOwnedRun = true) :
    after.Exclusive where
  one := by rw [hworkers, hcalls]; exact h.one
  owned := by
    rw [hworkers, hcalls]
    intro hsome
    obtain ⟨record, hfound, hrunning, howned⟩ := h.owned hsome
    exact hrecord record hfound hrunning howned

/-- No worker and no admitted continuation are left. -/
theorem Exclusive.of_none {after : SubTask} (hworkers : after.workers = [])
    (hcalls : after.calls = []) : after.Exclusive where
  one := by simp [hworkers, hcalls]
  owned := by simp [hworkers, hcalls]

/-- The only worker, and how the tables look like without it. -/
theorem Exclusive.worker {task : SubTask} (h : task.Exclusive) {id : Nat} {worker : SubTaskWorker}
    (hfound : task.workers.find? (·.id == id) = some worker) :
    task.workers = [worker] ∧ task.calls = [] ∧ task.workers.filter (·.id != id) = [] := by
  have hone := h.one
  have hmem : worker ∈ task.workers := List.mem_of_find?_eq_some hfound
  have hpos : 0 < task.workers.length := List.length_pos_of_mem hmem
  have hworkers : task.workers = [worker] := eq_singleton_of_mem (by omega) hmem
  have hcalls : task.calls.length = 0 := by omega
  refine ⟨hworkers, List.length_eq_zero_iff.mp hcalls, ?_⟩
  have hid : worker.id = id := by simpa using List.find?_some hfound
  simp [hworkers, hid]

theorem Exclusive.call {task : SubTask} (h : task.Exclusive) {id : Nat} {call : ContinuationCall}
    (hfound : task.calls.find? (·.id == id) = some call) :
    task.calls = [call] ∧ task.workers = [] ∧ task.calls.filter (·.id != call.id) = [] := by
  have hone := h.one
  have hmem : call ∈ task.calls := List.mem_of_find?_eq_some hfound
  have hpos : 0 < task.calls.length := List.length_pos_of_mem hmem
  have hcalls : task.calls = [call] := eq_singleton_of_mem (by omega) hmem
  have hworkers : task.workers.length = 0 := by omega
  exact ⟨hcalls, List.length_eq_zero_iff.mp hworkers, by simp [hcalls]⟩

/-- Nobody is at work for a record that is not held. -/
theorem Exclusive.nobody {task : SubTask} (h : task.Exclusive)
    (hfree : ¬∃ record, task.record = some record ∧ record.running = true ∧
      record.workerOwnedRun = true) : task.workers = [] ∧ task.calls = [] := by
  have hnone : ¬0 < task.workers.length + task.calls.length := fun hsome =>
    hfree (h.owned hsome)
  exact ⟨List.length_eq_zero_iff.mp (by omega), List.length_eq_zero_iff.mp (by omega)⟩

/-- Nobody is at work for a record that does not run. -/
theorem Exclusive.idle {task : SubTask} (h : task.Exclusive)
    (hidle : task.record.any (·.running) = false) : task.workers = [] ∧ task.calls = [] := by
  apply h.nobody
  rintro ⟨record, hfound, hrunning, _⟩
  rw [hfound, Option.any_some, hrunning] at hidle
  cases hidle

section
variable [JsonDisplay] {task : SubTask}

theorem Exclusive.submittedEnds (h : task.Exclusive) {id : Nat} {worker : SubTaskWorker}
    (hfound : task.workers.find? (·.id == id) = some worker)
    (result : Except String SubTaskOutcome) (now : String) :
    (task.submittedEnds id result now).Exclusive := by
  obtain ⟨_, hcalls, hrest⟩ := h.worker hfound
  unfold SubTask.submittedEnds
  dsimp only
  split <;> exact .of_none hrest hcalls

theorem Exclusive.continuedEnds (h : task.Exclusive) {id : Nat} {worker : SubTaskWorker}
    (hfound : task.workers.find? (·.id == id) = some worker) (taskId : String) (run : ContinuedRun)
    (result : Except String SubTaskOutcome) (now : String) :
    (task.continuedEnds taskId id run result now).Exclusive := by
  obtain ⟨_, hcalls, hrest⟩ := h.worker hfound
  unfold SubTask.continuedEnds
  dsimp only
  split
  · exact .of_none hrest hcalls
  · split <;> exact .of_none hrest hcalls

theorem Exclusive.recordOutcome (h : task.Exclusive) (taskId : String) (run : Option SessionRef)
    (outcome : SubTaskOutcome) (workspaceBackend : Option BackendRef) (lineage : SubTaskLineage)
    (now : String) :
    (task.recordOutcome taskId run outcome workspaceBackend lineage now).Exclusive := by
  unfold SubTask.recordOutcome
  dsimp only
  split
  · rename_i found hfound
    split
    · refine h.of_kept rfl rfl ?_
      intro record hrecord hrunning howned
      obtain rfl := Option.some.inj (hfound.symm.trans hrecord)
      exact ⟨_, rfl, hrunning, howned⟩
    · rename_i hfree
      refine h.of_kept rfl rfl ?_
      intro record hrecord hrunning howned
      obtain rfl := Option.some.inj (hfound.symm.trans hrecord)
      simp [hrunning, howned] at hfree
  · rename_i hnone
    refine h.of_kept rfl rfl ?_
    intro record hrecord
    cases hnone.symm.trans hrecord

theorem Exclusive.sessionEvent (h : task.Exclusive) (generation : Nat) (event : String)
    (payload : JsonObject) (now : String) :
    (task.sessionEvent generation event payload now).Exclusive := by
  unfold SubTask.sessionEvent
  split
  · exact h
  rename_i found hfound
  split
  · refine h.of_kept rfl rfl ?_
    intro record hrecord hrunning howned
    obtain rfl := Option.some.inj (hfound.symm.trans hrecord)
    have hkeeps := found.handleSessionEvent_keeps event payload now
    refine ⟨_, rfl, ?_, hkeeps.workerOwnedRun.trans howned⟩
    rcases hkeeps.run with ⟨_, hstarted⟩ | ⟨hsame, _⟩
    · exact hstarted
    · exact hsame.trans hrunning
  · exact h

end

section
variable {task : SubTask}

theorem Exclusive.submit (h : task.Exclusive) (taskId : String) (submission : SubTaskSubmission)
    (now : String) (failure : Option String) : (task.submit taskId submission now failure).2.Exclusive := by
  unfold SubTask.submit
  split
  · exact h
  rename_i hrunning
  split
  · exact h
  · obtain ⟨hworkers, hcalls⟩ := h.idle (by simpa using hrunning)
    refine ⟨by simp [hworkers, hcalls], fun _ => ⟨_, rfl, rfl, rfl⟩⟩

theorem Exclusive.attach (h : task.Exclusive) (taskId : String)
    (attachment : SubTaskSessionAttachment) (lineage : SubTaskLineage) (running : Bool) (now : String) :
    (task.attach taskId attachment lineage running now).Exclusive := by
  unfold SubTask.attach
  dsimp only
  split
  · rename_i found hfound
    have hrecord : task.record = some found := by
      rw [← hfound]
      split <;> rfl
    refine h.of_kept (by dsimp only; split <;> rfl) (by dsimp only; split <;> rfl) ?_
    intro record hsome hrunning howned
    obtain rfl := Option.some.inj (hrecord.symm.trans hsome)
    exact ⟨_, rfl, by simp [hrunning], howned⟩
  · rename_i hnone
    have hrecord : task.record = none := by
      rw [← hnone]
      split <;> rfl
    refine h.of_kept (by dsimp only; split <;> rfl) (by dsimp only; split <;> rfl) ?_
    intro record hsome
    cases hrecord.symm.trans hsome

theorem Exclusive.subscribed (h : task.Exclusive) (generation : Nat) (session : SessionRef) :
    (task.subscribed generation session).Exclusive := by
  unfold SubTask.subscribed
  dsimp only
  split
  · exact ⟨h.one, h.owned⟩
  rename_i found hfound
  split
  · refine h.of_kept rfl rfl ?_
    intro record hrecord hrunning howned
    obtain rfl := Option.some.inj (hfound.symm.trans hrecord)
    exact ⟨_, rfl, hrunning, howned⟩
  · exact ⟨h.one, h.owned⟩

/-- What an admission has done, or why there was none. -/
theorem continueTask_cases (task : SubTask) (registry : SessionRegistry) (taskId prompt : String)
    (snapshot : Option SubTaskLineage) (now : String) :
    (∃ error, task.continueTask registry taskId prompt snapshot now =
        (.error error, task, registry)) ∨
      ∃ record session, task.record = some record ∧ record.running = false ∧
        record.session = some session ∧
        task.continueTask registry taskId prompt snapshot now =
          (.ok (),
            { task with
              record := some (record.admitContinuation (trimPortableWhitespace prompt)
                (snapshot.getD session.initialLineage) now)
              calls := task.calls ++
                [{ id := task.started
                   prompt := trimPortableWhitespace prompt
                   captured :=
                    { session := session.session
                      sessionGeneration := record.sessionGeneration
                      sessionId := record.sessionId
                      agentName := record.agentName
                      resolved := record.resolved }
                   previous := record.admissionState
                   registration := ⟨record.sessionId, session.session,
                    registry.find record.sessionId⟩
                   found := record
                   lineage := snapshot.getD session.initialLineage
                   admittedAt := now }]
              started := task.started + 1 },
            registry.register record.sessionId session.session) := by
  unfold SubTask.continueTask
  dsimp only
  split
  · exact .inl ⟨_, rfl⟩
  split
  · exact .inl ⟨_, rfl⟩
  rename_i record hrecord
  split
  · exact .inl ⟨_, rfl⟩
  rename_i hidle
  split
  · exact .inl ⟨_, rfl⟩
  split
  · exact .inl ⟨_, rfl⟩
  split
  · exact .inl ⟨_, rfl⟩
  · rename_i session hsession
    exact .inr ⟨record, session, hrecord, by simpa using hidle, hsession, rfl⟩

theorem Exclusive.continueTask (h : task.Exclusive) (registry : SessionRegistry)
    (taskId prompt : String) (snapshot : Option SubTaskLineage) (now : String) :
    (task.continueTask registry taskId prompt snapshot now).2.1.Exclusive := by
  rcases continueTask_cases task registry taskId prompt snapshot now with
    ⟨error, hrefused⟩ | ⟨record, session, hrecord, hidle, _, hadmitted⟩
  · rw [hrefused]
    exact h
  · obtain ⟨hworkers, hcalls⟩ := h.idle (by rw [hrecord]; exact hidle)
    rw [hadmitted]
    exact ⟨by simp [hworkers, hcalls], fun _ => ⟨_, rfl, rfl, rfl⟩⟩

theorem Exclusive.rollback (h : task.Exclusive) {id : Nat} {call : ContinuationCall}
    (hfound : task.calls.find? (·.id == id) = some call) (error : String) :
    (task.rollback call error).Exclusive := by
  obtain ⟨_, hworkers, hrest⟩ := h.call hfound
  exact .of_none hworkers hrest

theorem Exclusive.startContinued (h : task.Exclusive) {id : Nat} {call : ContinuationCall}
    (hfound : task.calls.find? (·.id == id) = some call) (now : String) :
    (task.startContinued call now).Exclusive := by
  obtain ⟨hcalls, hworkers, hrest⟩ := h.call hfound
  obtain ⟨record, hrecord, hrunning, howned⟩ := h.owned (by simp [hcalls])
  refine ⟨?_, fun _ => ⟨{ record with handle := some call.id, updatedAt := now }, ?_, hrunning,
    howned⟩⟩
  · simp [SubTask.startContinued, hworkers, hrest]
  · simp [SubTask.startContinued, hrecord]

theorem Exclusive.joinFinished (h : task.Exclusive) : task.joinFinished.Exclusive := by
  refine h.of_kept rfl rfl ?_
  intro record hrecord hrunning howned
  simp only [SubTask.joinFinished, hrecord, Option.map_some, Option.some.injEq]
  split
  · exact ⟨_, rfl, hrunning, howned⟩
  · exact ⟨_, rfl, hrunning, howned⟩

end

/-- Whatever happens, at most one worker is at work for a sub-task. -/
theorem Exclusive.step [JsonDisplay] {task : SubTask} (h : task.Exclusive) (taskId : String)
    (event : SubTaskEvent) (registry : SessionRegistry) :
    (task.step taskId event registry).1.Exclusive := by
  unfold SubTask.step
  cases event with
  | submit submission now failure => exact h.submit taskId submission now failure
  | submittedEnds id result now =>
      dsimp only
      split
      · rename_i hfound
        exact h.submittedEnds hfound result now
      · exact h
  | attach attachment lineage running now => exact h.attach taskId attachment lineage running now
  | subscribed generation session =>
      dsimp only
      split
      · exact h.subscribed generation session
      · exact h
  | continueTask prompt snapshot now => exact h.continueTask registry taskId prompt snapshot now
  | rollback id error =>
      dsimp only
      split
      · rename_i hfound
        exact h.rollback hfound error
      · exact h
  | dropRegistration index =>
      dsimp only
      split
      · exact ⟨h.one, h.owned⟩
      · exact h
  | startContinued id now =>
      dsimp only
      split
      · rename_i hfound
        exact h.startContinued hfound now
      · exact h
  | continuedEnds id result now =>
      dsimp only
      split
      · rename_i run hfound
        exact h.continuedEnds hfound taskId run result now
      · exact h
  | unregister index =>
      dsimp only
      split
      · exact ⟨h.one, h.owned⟩
      · exact h
  | recordOutcome run outcome backend lineage now =>
      dsimp only
      split
      · exact h.recordOutcome taskId run outcome backend lineage now
      · exact h
  | sessionEvent generation session event payload now =>
      dsimp only
      split
      · exact h.sessionEvent generation event payload now
      · exact h
  | joinFinished => exact h.joinFinished

end SubTask

/-! ### Runs without interference -/

/-- The record holds the outcome of a run; a continuation fills in what it did not resolve. -/
def ManagedSubTask.Holds (record : ManagedSubTask) (outcome : SubTaskOutcome) : Prop :=
  ∃ resolved, record.outcome = some { outcome with resolved } ∧
    (outcome.resolved.isEmpty = false → resolved = outcome.resolved)

theorem ManagedSubTask.Holds.filled {record : ManagedSubTask} {outcome : SubTaskOutcome}
    {resolved : Table String}
    (h : record.outcome =
      some (if outcome.resolved.isEmpty then { outcome with resolved } else outcome)) :
    record.Holds outcome := by
  cases hempty : outcome.resolved.isEmpty with
  | true =>
      rw [hempty, if_pos rfl] at h
      refine ⟨resolved, h, ?_⟩
      intro hfull
      cases hempty.symm.trans hfull
  | false =>
      rw [hempty, if_neg (by simp)] at h
      exact ⟨outcome.resolved, h, fun _ => rfl⟩

/-- The session that a record is about. -/
def ManagedSubTask.attached (record : ManagedSubTask) : Option SessionRef :=
  record.session.map (·.session)

/-- The step does not interfere with a run in progress. -/
def SubTaskEvent.Orderly (event : SubTaskEvent) (task : SubTask) (registry : SessionRegistry) :
    Prop :=
  match event with
  | .submittedEnds .. | .continuedEnds .. => task.attachedRuns = []
  | .attach attachment _ running _ => ∀ record, task.record = some record →
      (running = true → task.attachedRuns = []) ∧
        (record.attached = some attachment.session ∨ record.session.isNone = true ∨
          record.running = false)
  | .rollback id _ => ∀ call, task.calls.find? (·.id == id) = some call →
      task.record = some (call.found.admitContinuation call.prompt call.lineage call.admittedAt) ∧
        call.found.handle = none ∧ task.attachedRuns = []
  | .dropRegistration index => ∀ registration error,
      task.failed[index]? = some (registration, error) →
        registry.find registration.sessionId = some registration.session
  | .recordOutcome none .. => ∀ record, task.record = some record → record.session = none
  | .sessionEvent generation session event .. => ∀ record, task.record = some record →
      record.sessionGeneration = generation →
        record.attached = some session ∧ (event = "session_run_start" → record.running = true)
  | _ => True

namespace SubTask

/-- Somebody is at work for the sub-task. -/
def Busy (task : SubTask) : Prop :=
  task.workers ≠ [] ∨ task.calls ≠ [] ∨ task.attachedRuns ≠ []

/-- What a continuation has captured is about the session of the record. -/
def Captured (record : ManagedSubTask) (run : ContinuedRun) : Prop :=
  record.attached = some run.session ∧ record.sessionGeneration = run.sessionGeneration

/-- A record runs exactly while somebody is at work for it, and holds the outcome of the last
run otherwise. -/
structure Tracked (task : SubTask) : Prop where
  exclusive : task.Exclusive
  oneRun : task.attachedRuns.length ≤ 1
  unknown : task.record = none → task.attachedRuns = [] ∧ task.lastOutcome = none
  running : ∀ record, task.record = some record → (record.running = true ↔ task.Busy)
  owned : ∀ record, task.record = some record → record.workerOwnedRun = true →
    task.workers ≠ [] ∨ task.calls ≠ []
  outcome : ∀ record, task.record = some record → record.running = false →
    ∀ outcome, task.lastOutcome = some outcome → record.Holds outcome
  counted : ∀ record, task.record = some record → record.session.isSome = true →
    0 < record.sessionGeneration
  attached : ∀ record, task.record = some record → ∀ run ∈ task.attachedRuns,
    record.attached = some run
  continued : ∀ record, task.record = some record → ∀ worker ∈ task.workers, ∀ run,
    worker.continued = some run → Captured record run
  called : ∀ record, task.record = some record → ∀ call ∈ task.calls,
    Captured record call.captured
  found : ∀ call ∈ task.calls, call.previous = call.found.admissionState ∧
    call.found.running = false ∧ call.found.workerOwnedRun = false ∧
      ∀ outcome, task.lastOutcome = some outcome → call.found.Holds outcome

/-- The step leaves the threads and runs alone. -/
structure SameThreads (before after : SubTask) : Prop where
  workers : after.workers = before.workers
  calls : after.calls = before.calls
  attachedRuns : after.attachedRuns = before.attachedRuns
  lastOutcome : after.lastOutcome = before.lastOutcome

theorem SameThreads.busy {before after : SubTask} (h : SameThreads before after) :
    after.Busy ↔ before.Busy := by
  rw [Busy, Busy, h.workers, h.calls, h.attachedRuns]

variable {task after : SubTask} {record kept : ManagedSubTask}

/-- Only what the invariant is not about has changed. -/
theorem Tracked.of_same (h : task.Tracked) (hsame : SameThreads task after)
    (hrecord : after.record = task.record) : after.Tracked := by
  refine ⟨⟨?_, ?_⟩, ?_, ?_, ?_, ?_, ?_, ?_, ?_, ?_, ?_, ?_⟩
  · rw [hsame.workers, hsame.calls]
    exact h.exclusive.one
  · rw [hsame.workers, hsame.calls, hrecord]
    exact h.exclusive.owned
  · rw [hsame.attachedRuns]
    exact h.oneRun
  · rw [hrecord, hsame.attachedRuns, hsame.lastOutcome]
    exact h.unknown
  · rw [hrecord, hsame.busy]
    exact h.running
  · rw [hrecord, hsame.workers, hsame.calls]
    exact h.owned
  · rw [hrecord, hsame.lastOutcome]
    exact h.outcome
  · rw [hrecord]
    exact h.counted
  · rw [hrecord, hsame.attachedRuns]
    exact h.attached
  · rw [hrecord, hsame.workers]
    exact h.continued
  · rw [hrecord, hsame.calls]
    exact h.called
  · rw [hsame.calls, hsame.lastOutcome]
    exact h.found

/-- A record that is rewritten without touching what the invariant is about. -/
theorem Tracked.of_kept (h : task.Tracked) (hsame : SameThreads task after)
    (hexclusive : after.Exclusive) (hrecord : task.record = some record)
    (hafter : after.record = some kept) (hrunning : kept.running = record.running)
    (howned : kept.workerOwnedRun = record.workerOwnedRun)
    (hoffered : record.running = false → kept.outcome = record.outcome)
    (hsession : kept.session = record.session)
    (hgeneration : kept.sessionGeneration = record.sessionGeneration) : after.Tracked := by
  have hattached : kept.attached = record.attached := by
    rw [ManagedSubTask.attached, ManagedSubTask.attached, hsession]
  refine ⟨hexclusive, by rw [hsame.attachedRuns]; exact h.oneRun, ?_, ?_, ?_, ?_, ?_, ?_, ?_, ?_,
    ?_⟩
  · intro hnone
    cases hafter.symm.trans hnone
  · rintro _ hsome
    obtain rfl := Option.some.inj (hafter.symm.trans hsome)
    rw [hrunning, hsame.busy]
    exact h.running record hrecord
  · rintro _ hsome hheld
    obtain rfl := Option.some.inj (hafter.symm.trans hsome)
    rw [hsame.workers, hsame.calls]
    exact h.owned record hrecord (howned.symm.trans hheld)
  · rintro _ hsome hidle outcome hlast
    obtain rfl := Option.some.inj (hafter.symm.trans hsome)
    rw [hrunning] at hidle
    rw [hsame.lastOutcome] at hlast
    obtain ⟨resolved, hheld, hresolved⟩ := h.outcome record hrecord hidle outcome hlast
    exact ⟨resolved, (hoffered hidle).trans hheld, hresolved⟩
  · rintro _ hsome
    obtain rfl := Option.some.inj (hafter.symm.trans hsome)
    rw [hsession, hgeneration]
    exact h.counted record hrecord
  · rintro _ hsome run hrun
    obtain rfl := Option.some.inj (hafter.symm.trans hsome)
    rw [hsame.attachedRuns] at hrun
    exact hattached.trans (h.attached record hrecord run hrun)
  · rintro _ hsome worker hworker run hrun
    obtain rfl := Option.some.inj (hafter.symm.trans hsome)
    rw [hsame.workers] at hworker
    obtain ⟨hcaptured, hcount⟩ := h.continued record hrecord worker hworker run hrun
    exact ⟨hattached.trans hcaptured, hgeneration.trans hcount⟩
  · rintro _ hsome call hcall
    obtain rfl := Option.some.inj (hafter.symm.trans hsome)
    rw [hsame.calls] at hcall
    obtain ⟨hcaptured, hcount⟩ := h.called record hrecord call hcall
    exact ⟨hattached.trans hcaptured, hgeneration.trans hcount⟩
  · intro call hcall
    rw [hsame.calls] at hcall
    rw [hsame.lastOutcome]
    exact h.found call hcall

/-- A record that nobody works for any more, with the outcome of the last run. -/
theorem Tracked.of_idle (hafter : after.record = some kept) (hworkers : after.workers = [])
    (hcalls : after.calls = []) (hruns : after.attachedRuns = []) (hidle : kept.running = false)
    (hfree : kept.workerOwnedRun = false)
    (hcounted : kept.session.isSome = true → 0 < kept.sessionGeneration)
    (hholds : ∀ outcome, after.lastOutcome = some outcome → kept.Holds outcome) :
    after.Tracked := by
  refine ⟨.of_none hworkers hcalls, by simp [hruns], ?_, ?_, ?_, ?_, ?_, ?_, ?_, ?_, ?_⟩
  · intro hnone
    cases hafter.symm.trans hnone
  · rintro _ hsome
    obtain rfl := Option.some.inj (hafter.symm.trans hsome)
    simp [Busy, hworkers, hcalls, hruns, hidle]
  · rintro _ hsome hheld
    obtain rfl := Option.some.inj (hafter.symm.trans hsome)
    cases hfree.symm.trans hheld
  · rintro _ hsome _ outcome hlast
    obtain rfl := Option.some.inj (hafter.symm.trans hsome)
    exact hholds outcome hlast
  · rintro _ hsome
    obtain rfl := Option.some.inj (hafter.symm.trans hsome)
    exact hcounted
  · intro _ _ run hrun
    rw [hruns] at hrun
    cases hrun
  · intro _ _ worker hworker
    rw [hworkers] at hworker
    cases hworker
  · intro _ _ call hcall
    rw [hcalls] at hcall
    cases hcall
  · intro call hcall
    rw [hcalls] at hcall
    cases hcall

/-- Nobody is at work for a record that does not run. -/
theorem Tracked.idle (h : task.Tracked) (hidle : task.record.any (·.running) = false) :
    task.workers = [] ∧ task.calls = [] ∧ task.attachedRuns = [] := by
  obtain ⟨hworkers, hcalls⟩ := h.exclusive.idle hidle
  refine ⟨hworkers, hcalls, ?_⟩
  cases hrecord : task.record with
  | none => exact (h.unknown hrecord).1
  | some record =>
      by_contra hruns
      have hrunning := (h.running record hrecord).mpr (.inr (.inr hruns))
      rw [hrecord, Option.any_some, hrunning] at hidle
      cases hidle

theorem Tracked.submit (h : task.Tracked) (taskId : String) (submission : SubTaskSubmission)
    (now : String) (failure : Option String) :
    (task.submit taskId submission now failure).2.Tracked := by
  have hexclusive := h.exclusive.submit taskId submission now failure
  unfold SubTask.submit at hexclusive ⊢
  split
  · exact h
  rename_i hrunning
  rw [if_neg hrunning] at hexclusive
  obtain ⟨hworkers, hcalls, hruns⟩ := h.idle (by simpa using hrunning)
  split
  · exact h
  · rename_i hspawned
    refine ⟨hexclusive, by simp [hruns], (fun hnone => by cases hnone), ?_, ?_, ?_, ?_, ?_, ?_, ?_,
      ?_⟩
    · rintro _ ⟨⟩
      simp [Busy]
    · rintro _ ⟨⟩ _
      simp
    · rintro _ ⟨⟩ hidle
      cases hidle
    · rintro _ ⟨⟩ hsome
      cases hsome
    · intro _ _ run hrun
      dsimp only at hrun
      rw [hruns] at hrun
      cases hrun
    · rintro _ ⟨⟩ worker hworker run hrun
      dsimp only at hworker
      rw [hworkers, List.nil_append, List.mem_singleton] at hworker
      subst hworker
      cases hrun
    · intro _ _ call hcall
      dsimp only at hcall
      rw [hcalls] at hcall
      cases hcall
    · intro call hcall
      dsimp only at hcall
      rw [hcalls] at hcall
      cases hcall

/-- A run of a session that ends within a worker leaves the record to the worker. -/
theorem Tracked.runEnded (h : task.Tracked) (hrecord : task.record = some record)
    (howned : record.workerOwnedRun = true) : Tracked { task with attachedRuns := [] } := by
  have hworks := h.owned record hrecord howned
  have hbusy : task.Busy := by
    rcases hworks with hworkers | hcalls
    · exact .inl hworkers
    · exact .inr (.inl hcalls)
  refine ⟨⟨h.exclusive.one, h.exclusive.owned⟩, by simp, ?_, ?_, h.owned, h.outcome, h.counted, ?_,
    h.continued, h.called, h.found⟩
  · intro hnone
    cases hrecord.symm.trans hnone
  · intro other hother
    rw [h.running other hother]
    refine ⟨fun _ => ?_, fun _ => hbusy⟩
    rcases hworks with hworkers | hcalls
    · exact .inl hworkers
    · exact .inr (.inl hcalls)
  · intro _ _ run hrun
    cases hrun

/-- The runs that are left when one of them, or none, has ended. -/
theorem Tracked.runs_left (h : task.Tracked) {run : Option SessionRef}
    (hrun : run.all (· ∈ task.attachedRuns) = true)
    (horderly : run = none → ∀ record, task.record = some record → record.session = none) :
    run.elim task.attachedRuns (fun run => task.attachedRuns.erase run) = [] := by
  cases run with
  | some run =>
      have hmem : run ∈ task.attachedRuns := by simpa using hrun
      rw [Option.elim_some, eq_singleton_of_mem h.oneRun hmem]
      simp
  | none =>
      rw [Option.elim_none]
      cases hrecord : task.record with
      | none => exact (h.unknown hrecord).1
      | some record =>
          by_contra hsome
          obtain ⟨run, hmem⟩ := List.exists_mem_of_ne_nil _ hsome
          have hattached := h.attached record hrecord run hmem
          rw [ManagedSubTask.attached, horderly rfl record hrecord] at hattached
          cases hattached

section
variable [JsonDisplay]

theorem Tracked.submittedEnds (h : task.Tracked) {id : Nat} {worker : SubTaskWorker}
    (hfound : task.workers.find? (·.id == id) = some worker) (hruns : task.attachedRuns = [])
    (result : Except String SubTaskOutcome) (now : String) :
    (task.submittedEnds id result now).Tracked := by
  obtain ⟨hworkers, hcalls, hrest⟩ := h.exclusive.worker hfound
  obtain ⟨record, hrecord, _⟩ := h.exclusive.owned (by simp [hworkers, hcalls])
  unfold SubTask.submittedEnds
  simp only [hrecord]
  refine .of_idle rfl hrest hcalls hruns rfl rfl ?_ ?_
  · have hkept : ∀ (empty : Bool) (resolved : Table String),
        (if empty then record else { record with resolved }).session.isSome = true →
          0 < (if empty then record else { record with resolved }).sessionGeneration := by
      intro empty resolved
      cases empty <;> exact h.counted record hrecord
    exact ManagedSubTask.updateFromOutcome_counted (hkept _ _)
  rintro outcome ⟨⟩
  exact ⟨_, rfl, fun _ => rfl⟩

theorem Tracked.continuedEnds (h : task.Tracked) {taskId : String} {id : Nat} {run : ContinuedRun}
    (hfound : task.workers.find? (·.id == id) = some ⟨id, some run⟩)
    (hruns : task.attachedRuns = []) (result : Except String SubTaskOutcome) (now : String) :
    (task.continuedEnds taskId id run result now).Tracked := by
  obtain ⟨hworkers, hcalls, hrest⟩ := h.exclusive.worker hfound
  obtain ⟨record, hrecord, _⟩ := h.exclusive.owned (by simp [hworkers, hcalls])
  obtain ⟨hsession, hgeneration⟩ := h.continued record hrecord ⟨id, some run⟩ (by simp [hworkers])
    run rfl
  have hattached : record.session.any (·.session == run.session) = true := by
    obtain ⟨session, hsome, hsame⟩ := Option.map_eq_some_iff.mp hsession
    simp [hsome, hsame]
  unfold SubTask.continuedEnds
  simp only [hrecord, hgeneration, hattached, and_self, if_true]
  refine .of_idle rfl hrest hcalls hruns rfl rfl ?_ ?_
  · exact ManagedSubTask.updateFromOutcome_counted fun hsome =>
      hgeneration ▸ h.counted record hrecord hsome
  rintro outcome ⟨⟩
  exact .filled rfl

theorem Tracked.recordOutcome (h : task.Tracked) {taskId : String} {run : Option SessionRef}
    (hrun : run.all (· ∈ task.attachedRuns) = true) (outcome : SubTaskOutcome)
    (workspaceBackend : Option BackendRef) (lineage : SubTaskLineage) (now : String)
    (horderly : run = none → ∀ record, task.record = some record → record.session = none) :
    (task.recordOutcome taskId run outcome workspaceBackend lineage now).Tracked := by
  have hruns := h.runs_left hrun horderly
  have hexclusive := h.exclusive.recordOutcome taskId run outcome workspaceBackend lineage now
  unfold SubTask.recordOutcome at hexclusive ⊢
  simp only [hruns] at hexclusive ⊢
  cases hrecord : task.record with
  | some record =>
      simp only [hrecord] at hexclusive
      dsimp only
      split
      · rename_i howned
        rw [if_pos howned] at hexclusive
        rw [Bool.and_eq_true] at howned
        exact (h.runEnded hrecord howned.2).of_kept ⟨rfl, rfl, rfl, rfl⟩ hexclusive hrecord rfl rfl
          rfl (fun _ => rfl) rfl rfl
      · rename_i hfree
        have hnobody : task.workers = [] ∧ task.calls = [] := by
          apply h.exclusive.nobody
          rintro ⟨other, hother, hrunning, howned⟩
          obtain rfl := Option.some.inj (hrecord.symm.trans hother)
          exact hfree (by simp [hrunning, howned])
        refine .of_idle rfl hnobody.1 hnobody.2 rfl ?_ ?_ ?_ ?_
        · exact (ManagedSubTask.updateFromOutcome_same _ _).running
        · exact (ManagedSubTask.updateFromOutcome_same _ _).workerOwnedRun
        · exact ManagedSubTask.updateFromOutcome_counted (h.counted record hrecord)
        · rintro outcome ⟨⟩
          exact ⟨_, rfl, fun _ => rfl⟩
  | none =>
      obtain ⟨hworkers, hcalls, _⟩ := h.idle (by simp [hrecord])
      refine .of_idle rfl hworkers hcalls rfl ?_ ?_ ?_ ?_
      · exact (ManagedSubTask.updateFromOutcome_same _ _).running
      · exact (ManagedSubTask.updateFromOutcome_same _ _).workerOwnedRun
      · exact ManagedSubTask.updateFromOutcome_counted fun hsome => by cases hsome
      · rintro outcome ⟨⟩
        exact ⟨_, rfl, fun _ => rfl⟩

theorem Tracked.sessionEvent (h : task.Tracked) (generation : Nat) (event : String)
    (payload : JsonObject) (now : String)
    (horderly : ∀ record, task.record = some record → record.sessionGeneration = generation →
      event = "session_run_start" → record.running = true) :
    (task.sessionEvent generation event payload now).Tracked := by
  have hexclusive := h.exclusive.sessionEvent generation event payload now
  unfold SubTask.sessionEvent at hexclusive ⊢
  split
  · exact h
  rename_i record hrecord
  split
  · rename_i hgeneration
    simp only [hrecord, hgeneration, if_true] at hexclusive
    have hkeeps := record.handleSessionEvent_keeps event payload now
    have hstarted := horderly record hrecord hgeneration
    refine h.of_kept ⟨rfl, rfl, rfl, rfl⟩ hexclusive hrecord rfl ?_ hkeeps.workerOwnedRun ?_
      hkeeps.session hkeeps.sessionGeneration
    · rcases hkeeps.run with ⟨hstart, hrunning⟩ | ⟨hsame, _⟩
      · rw [hrunning, hstarted hstart]
      · exact hsame
    · intro hidle
      rcases hkeeps.run with ⟨hstart, _⟩ | ⟨_, hsame⟩
      · cases hidle.symm.trans (hstarted hstart)
      · exact hsame
  · exact h

end

/-- What an attached session leaves in the record. -/
structure Attaches (task after : SubTask) (session : SessionRef) (running : Bool)
    (kept : ManagedSubTask) : Prop where
  record : after.record = some kept
  workers : after.workers = task.workers
  calls : after.calls = task.calls
  attachedRuns : after.attachedRuns =
    if running then task.attachedRuns ++ [session] else task.attachedRuns
  lastOutcome : after.lastOutcome = task.lastOutcome
  attached : kept.attached = some session
  counted : 0 < kept.sessionGeneration

theorem attach_fresh (taskId : String) (attachment : SubTaskSessionAttachment)
    (lineage : SubTaskLineage) (running : Bool) (now : String) (hnone : task.record = none) :
    ∃ kept, Attaches task (task.attach taskId attachment lineage running now) attachment.session
      running kept ∧ kept.running = running ∧ kept.workerOwnedRun = false := by
  cases running with
  | true =>
      simp only [SubTask.attach, hnone, if_true]
      exact ⟨_, ⟨rfl, rfl, rfl, rfl, rfl, rfl, Nat.zero_lt_one⟩, rfl, rfl⟩
  | false =>
      simp only [SubTask.attach, hnone, Bool.false_eq_true, if_false]
      exact ⟨_, ⟨rfl, rfl, rfl, rfl, rfl, rfl, Nat.zero_lt_one⟩, rfl, rfl⟩

theorem attach_known (taskId : String) (attachment : SubTaskSessionAttachment)
    (lineage : SubTaskLineage) (running : Bool) (now : String)
    (hrecord : task.record = some record) :
    ∃ kept, Attaches task (task.attach taskId attachment lineage running now) attachment.session
        running kept ∧ kept.running = (running || record.running) ∧
      kept.workerOwnedRun = record.workerOwnedRun ∧
      (running = false → kept.outcome = record.outcome) ∧
      (record.attached = some attachment.session →
        kept.sessionGeneration = max record.sessionGeneration 1) := by
  have hsame : record.attached = some attachment.session →
      record.session.all (·.session != attachment.session) = false := by
    intro hattached
    obtain ⟨session, hsome, hsame⟩ := Option.map_eq_some_iff.mp hattached
    simp [hsome, hsame]
  cases running with
  | true =>
      simp only [SubTask.attach, hrecord, if_true, Bool.true_or]
      refine ⟨_, ⟨rfl, rfl, rfl, rfl, rfl, rfl, ?_⟩, rfl, rfl, (fun h => by cases h), ?_⟩
      · dsimp only
        split <;> omega
      · intro hattached
        simp [hsame hattached]
  | false =>
      simp only [SubTask.attach, hrecord, Bool.false_eq_true, if_false, Bool.false_or]
      refine ⟨_, ⟨rfl, rfl, rfl, rfl, rfl, rfl, ?_⟩, rfl, rfl, fun _ => rfl, ?_⟩
      · dsimp only
        split <;> omega
      · intro hattached
        simp [hsame hattached]

theorem Tracked.attach (h : task.Tracked) (taskId : String)
    (attachment : SubTaskSessionAttachment) (lineage : SubTaskLineage) (running : Bool)
    (now : String)
    (horderly : ∀ record, task.record = some record →
      (running = true → task.attachedRuns = []) ∧
        (record.attached = some attachment.session ∨ record.session.isNone = true ∨
          record.running = false)) :
    (task.attach taskId attachment lineage running now).Tracked := by
  have hexclusive := h.exclusive.attach taskId attachment lineage running now
  cases hrecord : task.record with
  | none =>
      obtain ⟨kept, hattaches, hrunning, hfree⟩ := attach_fresh taskId attachment lineage
        running now hrecord
      obtain ⟨hworkers, hcalls, hruns⟩ := h.idle (by simp [hrecord])
      have hlast := hattaches.lastOutcome.trans (h.unknown hrecord).2
      have hworkers := hattaches.workers.trans hworkers
      have hcalls := hattaches.calls.trans hcalls
      have hafter := hattaches.attachedRuns
      rw [hruns, List.nil_append] at hafter
      refine ⟨hexclusive, ?_, ?_, ?_, ?_, ?_, ?_, ?_, ?_, ?_, ?_⟩
      · rw [hafter]
        split <;> simp
      · intro hnone
        cases hattaches.record.symm.trans hnone
      · rintro _ hsome
        obtain rfl := Option.some.inj (hattaches.record.symm.trans hsome)
        rw [Busy, hworkers, hcalls, hafter, hrunning]
        cases running <;> simp
      · rintro _ hsome howned
        obtain rfl := Option.some.inj (hattaches.record.symm.trans hsome)
        cases hfree.symm.trans howned
      · rintro _ _ _ outcome hsome
        cases hlast.symm.trans hsome
      · rintro _ hsome _
        obtain rfl := Option.some.inj (hattaches.record.symm.trans hsome)
        exact hattaches.counted
      · rintro _ hsome run hrun
        obtain rfl := Option.some.inj (hattaches.record.symm.trans hsome)
        rw [hafter] at hrun
        split at hrun
        · rw [List.mem_singleton.mp hrun]
          exact hattaches.attached
        · cases hrun
      · intro _ _ worker hworker
        rw [hworkers] at hworker
        cases hworker
      · intro _ _ call hcall
        rw [hcalls] at hcall
        cases hcall
      · intro call hcall
        rw [hcalls] at hcall
        cases hcall
  | some record =>
      obtain ⟨kept, hattaches, hrunning, howned, houtcome, hgeneration⟩ :=
        attach_known taskId attachment lineage running now hrecord
      obtain ⟨hnew, hchange⟩ := horderly record hrecord
      have hstays : ∀ session, record.attached = some session → task.Busy →
          session = attachment.session ∧
            kept.sessionGeneration = record.sessionGeneration := by
        intro session hattached hbusy
        rcases hchange with hsame | hnone | hidle
        · have hsome : record.session.isSome = true := by
            obtain ⟨_, hsome, _⟩ := Option.map_eq_some_iff.mp hattached
            rw [hsome, Option.isSome_some]
          have hcounted := h.counted record hrecord hsome
          refine ⟨Option.some.inj (hattached.symm.trans hsame), ?_⟩
          rw [hgeneration hsame]
          omega
        · rw [ManagedSubTask.attached, Option.isNone_iff_eq_none.mp hnone] at hattached
          cases hattached
        · rw [(h.running record hrecord).mpr hbusy] at hidle
          cases hidle
      have hcaptured : ∀ run, Captured record run → task.Busy → Captured kept run := by
        rintro run ⟨hattached, hcount⟩ hbusy
        obtain ⟨hsession, hsame⟩ := hstays run.session hattached hbusy
        exact ⟨by rw [hsession]; exact hattaches.attached, hsame.trans hcount⟩
      refine ⟨hexclusive, ?_, ?_, ?_, ?_, ?_, ?_, ?_, ?_, ?_, ?_⟩
      · rw [hattaches.attachedRuns]
        split
        · rename_i hrun
          rw [hnew hrun]
          simp
        · exact h.oneRun
      · intro hnone
        cases hattaches.record.symm.trans hnone
      · rintro _ hsome
        obtain rfl := Option.some.inj (hattaches.record.symm.trans hsome)
        rw [Busy, hattaches.workers, hattaches.calls, hattaches.attachedRuns, hrunning]
        cases running with
        | true => simp
        | false => simpa [Busy] using h.running record hrecord
      · rintro _ hsome hheld
        obtain rfl := Option.some.inj (hattaches.record.symm.trans hsome)
        rw [hattaches.workers, hattaches.calls]
        exact h.owned record hrecord (howned.symm.trans hheld)
      · rintro _ hsome hidle outcome hlast
        obtain rfl := Option.some.inj (hattaches.record.symm.trans hsome)
        rw [hrunning, Bool.or_eq_false_iff] at hidle
        rw [hattaches.lastOutcome] at hlast
        obtain ⟨resolved, hheld, hresolved⟩ := h.outcome record hrecord hidle.2 outcome hlast
        exact ⟨resolved, (houtcome hidle.1).trans hheld, hresolved⟩
      · rintro _ hsome _
        obtain rfl := Option.some.inj (hattaches.record.symm.trans hsome)
        exact hattaches.counted
      · rintro _ hsome run hrun
        obtain rfl := Option.some.inj (hattaches.record.symm.trans hsome)
        rw [hattaches.attachedRuns] at hrun
        split at hrun
        · rename_i hstarts
          rw [hnew hstarts, List.nil_append, List.mem_singleton] at hrun
          rw [hrun]
          exact hattaches.attached
        · have hbusy : task.Busy := .inr (.inr (List.ne_nil_of_mem hrun))
          rw [(hstays run (h.attached record hrecord run hrun) hbusy).1]
          exact hattaches.attached
      · rintro _ hsome worker hworker run hrun
        obtain rfl := Option.some.inj (hattaches.record.symm.trans hsome)
        rw [hattaches.workers] at hworker
        exact hcaptured run (h.continued record hrecord worker hworker run hrun)
          (.inl (List.ne_nil_of_mem hworker))
      · rintro _ hsome call hcall
        obtain rfl := Option.some.inj (hattaches.record.symm.trans hsome)
        rw [hattaches.calls] at hcall
        exact hcaptured call.captured (h.called record hrecord call hcall)
          (.inr (.inl (List.ne_nil_of_mem hcall)))
      · intro call hcall
        rw [hattaches.calls] at hcall
        rw [hattaches.lastOutcome]
        exact h.found call hcall

theorem Tracked.subscribed (h : task.Tracked) (generation : Nat) (session : SessionRef) :
    (task.subscribed generation session).Tracked := by
  have hexclusive := h.exclusive.subscribed generation session
  unfold SubTask.subscribed at hexclusive ⊢
  dsimp only at hexclusive ⊢
  split
  · exact h.of_same ⟨rfl, rfl, rfl, rfl⟩ rfl
  rename_i record hrecord
  simp only [hrecord] at hexclusive
  split
  · rename_i hcurrent
    rw [if_pos hcurrent] at hexclusive
    exact h.of_kept ⟨rfl, rfl, rfl, rfl⟩ hexclusive hrecord rfl rfl rfl (fun _ => rfl) rfl rfl
  · exact h.of_same ⟨rfl, rfl, rfl, rfl⟩ rfl

theorem Tracked.continueTask (h : task.Tracked) (registry : SessionRegistry)
    (taskId prompt : String) (snapshot : Option SubTaskLineage) (now : String) :
    (task.continueTask registry taskId prompt snapshot now).2.1.Tracked := by
  have hexclusive := h.exclusive.continueTask registry taskId prompt snapshot now
  rcases continueTask_cases task registry taskId prompt snapshot now with
    ⟨error, hrefused⟩ | ⟨record, session, hrecord, hidle, hsession, hadmitted⟩
  · rw [hrefused]
    exact h
  · rw [hadmitted] at hexclusive ⊢
    obtain ⟨hworkers, hcalls, hruns⟩ := h.idle (by rw [hrecord]; exact hidle)
    refine ⟨hexclusive, by simp [hruns], (fun hnone => by cases hnone), ?_, ?_, ?_, ?_, ?_, ?_, ?_,
      ?_⟩
    · rintro _ ⟨⟩
      simp [Busy, ManagedSubTask.admitContinuation]
    · rintro _ ⟨⟩ _
      simp
    · rintro _ ⟨⟩ hstopped
      cases hstopped
    · rintro _ ⟨⟩
      exact h.counted record hrecord
    · intro _ _ run hrun
      dsimp only at hrun
      rw [hruns] at hrun
      cases hrun
    · intro _ _ worker hworker
      dsimp only at hworker
      rw [hworkers] at hworker
      cases hworker
    · rintro _ ⟨⟩ call hcall
      dsimp only at hcall
      rw [hcalls, List.nil_append, List.mem_singleton] at hcall
      subst hcall
      exact ⟨by simp [ManagedSubTask.attached, ManagedSubTask.admitContinuation, hsession], rfl⟩
    · intro call hcall
      dsimp only at hcall
      rw [hcalls, List.nil_append, List.mem_singleton] at hcall
      subst hcall
      refine ⟨rfl, hidle, ?_, h.outcome record hrecord hidle⟩
      by_contra howned
      rcases h.owned record hrecord (by simpa using howned) with hsome | hsome
      · exact hsome hworkers
      · exact hsome hcalls

theorem Tracked.rollback (h : task.Tracked) {id : Nat} {call : ContinuationCall}
    (hfound : task.calls.find? (·.id == id) = some call) (error : String)
    (hrecord : task.record =
      some (call.found.admitContinuation call.prompt call.lineage call.admittedAt))
    (hruns : task.attachedRuns = []) : (task.rollback call error).Tracked := by
  obtain ⟨hcalls, hworkers, hrest⟩ := h.exclusive.call hfound
  obtain ⟨hprevious, hidle, hfree, hholds⟩ := h.found call (by simp [hcalls])
  have hrolled : (task.rollback call error).record =
      some { call.found with handle := none } := by
    simp [SubTask.rollback, hrecord, hprevious, ManagedSubTask.rollbackContinuation,
      ManagedSubTask.admitContinuation, ManagedSubTask.admissionState]
  have hcounted := h.counted _ hrecord
  exact .of_idle hrolled hworkers hrest hruns hidle hfree hcounted hholds

theorem Tracked.startContinued (h : task.Tracked) {id : Nat} {call : ContinuationCall}
    (hfound : task.calls.find? (·.id == id) = some call) (now : String) :
    (task.startContinued call now).Tracked := by
  have hexclusive := h.exclusive.startContinued hfound now
  obtain ⟨hcalls, hworkers, hrest⟩ := h.exclusive.call hfound
  obtain ⟨record, hrecord, hrunning, howned⟩ := h.exclusive.owned (by simp [hcalls])
  have hstarted : (task.startContinued call now).record =
      some { record with handle := some call.id, updatedAt := now } := by
    simp [SubTask.startContinued, hrecord]
  have hcaptured := h.called record hrecord call (by simp [hcalls])
  refine ⟨hexclusive, h.oneRun, ?_, ?_, ?_, ?_, ?_, ?_, ?_, ?_, ?_⟩
  · intro hnone
    cases hstarted.symm.trans hnone
  · rintro _ hsome
    obtain rfl := Option.some.inj (hstarted.symm.trans hsome)
    simp [hrunning, Busy, SubTask.startContinued]
  · intro _ _ _
    simp [SubTask.startContinued]
  · rintro _ hsome hidle
    obtain rfl := Option.some.inj (hstarted.symm.trans hsome)
    cases hidle.symm.trans hrunning
  · rintro _ hsome
    obtain rfl := Option.some.inj (hstarted.symm.trans hsome)
    exact h.counted record hrecord
  · rintro _ hsome run hrun
    obtain rfl := Option.some.inj (hstarted.symm.trans hsome)
    exact h.attached record hrecord run hrun
  · rintro _ hsome worker hworker run hrun
    obtain rfl := Option.some.inj (hstarted.symm.trans hsome)
    have hworker : worker = ⟨call.id, some call.captured⟩ := by
      simpa [SubTask.startContinued, hworkers] using hworker
    subst hworker
    obtain rfl := Option.some.inj hrun
    exact hcaptured
  · intro _ _ other hother
    have hother : other ∈ task.calls.filter (·.id != call.id) := hother
    rw [hrest] at hother
    cases hother
  · intro other hother
    have hother : other ∈ task.calls.filter (·.id != call.id) := hother
    rw [hrest] at hother
    cases hother

theorem Tracked.joinFinished (h : task.Tracked) : task.joinFinished.Tracked := by
  have hexclusive := h.exclusive.joinFinished
  cases hrecord : task.record with
  | none =>
      refine h.of_same ⟨rfl, rfl, rfl, rfl⟩ ?_
      rw [SubTask.joinFinished, hrecord, Option.map_none]
  | some record =>
      have hjoined : ∃ handle, task.joinFinished.record = some { record with handle } := by
        simp only [SubTask.joinFinished, hrecord, Option.map_some, Option.some.injEq]
        split
        · exact ⟨none, rfl⟩
        · exact ⟨record.handle, rfl⟩
      obtain ⟨handle, hjoined⟩ := hjoined
      exact h.of_kept ⟨rfl, rfl, rfl, rfl⟩ hexclusive hrecord hjoined rfl rfl (fun _ => rfl) rfl rfl

/-- One orderly step. -/
theorem Tracked.step [JsonDisplay] (h : task.Tracked) (taskId : String) (event : SubTaskEvent)
    (registry : SessionRegistry) (horderly : event.Orderly task registry) :
    (task.step taskId event registry).1.Tracked := by
  unfold SubTask.step
  cases event with
  | submit submission now failure => exact h.submit taskId submission now failure
  | submittedEnds id result now =>
      dsimp only
      split
      · rename_i hfound
        exact h.submittedEnds hfound horderly result now
      · exact h
  | attach attachment lineage running now =>
      exact h.attach taskId attachment lineage running now horderly
  | subscribed generation session =>
      dsimp only
      split
      · exact h.subscribed generation session
      · exact h
  | continueTask prompt snapshot now => exact h.continueTask registry taskId prompt snapshot now
  | rollback id error =>
      dsimp only
      split
      · rename_i call hfound
        obtain ⟨hrecord, _, hruns⟩ := horderly call hfound
        exact h.rollback hfound error hrecord hruns
      · exact h
  | dropRegistration index =>
      dsimp only
      split
      · exact h.of_same ⟨rfl, rfl, rfl, rfl⟩ rfl
      · exact h
  | startContinued id now =>
      dsimp only
      split
      · rename_i hfound
        exact h.startContinued hfound now
      · exact h
  | continuedEnds id result now =>
      dsimp only
      split
      · rename_i found run hfound
        have hid : found = id := by simpa using List.find?_some hfound
        subst hid
        exact h.continuedEnds hfound horderly result now
      · exact h
  | unregister index =>
      dsimp only
      split
      · exact h.of_same ⟨rfl, rfl, rfl, rfl⟩ rfl
      · exact h
  | recordOutcome run outcome backend lineage now =>
      dsimp only
      split
      · rename_i hrun
        refine h.recordOutcome hrun outcome backend lineage now ?_
        rintro rfl
        exact horderly
      · exact h
  | sessionEvent generation session event payload now =>
      dsimp only
      split
      · refine h.sessionEvent generation event payload now ?_
        intro record hrecord hgeneration
        exact (horderly record hrecord hgeneration).2
      · exact h
  | joinFinished => exact h.joinFinished

/-- At most one worker is at work. When nobody is, the record does not run and holds the outcome
of the last run, and the next submission or continuation is admitted. -/
structure Kept (task : SubTask) (taskId : String) (registry : SessionRegistry) : Prop where
  oneWorker : task.workers.length ≤ 1
  settled : ¬task.Busy → ∀ record, task.record = some record → record.running = false ∧
    ∀ outcome, task.lastOutcome = some outcome → record.Holds outcome
  submits : ¬task.Busy → ∀ submission now,
    (task.submit taskId submission now none).1 = .ok ()
  continues : ¬task.Busy → ∀ record session prompt snapshot now, task.record = some record →
    record.session = some session → isBlank record.sessionId = false →
      record.outcome.any (·.status == .maxCycles) = false → trimPortableWhitespace prompt ≠ "" →
        (task.continueTask registry taskId prompt snapshot now).1 = .ok ()

theorem Tracked.keeps (h : task.Tracked) (taskId : String) (registry : SessionRegistry) :
    task.Kept taskId registry := by
  have hidle : ¬task.Busy → ∀ record, task.record = some record → record.running = false := by
    intro hfree record hrecord
    by_contra hrunning
    exact hfree ((h.running record hrecord).mp (by simpa using hrunning))
  refine ⟨?_, ?_, ?_, ?_⟩
  · have hone := h.exclusive.one
    omega
  · intro hfree record hrecord
    exact ⟨hidle hfree record hrecord, h.outcome record hrecord (hidle hfree record hrecord)⟩
  · intro hfree submission now
    have hstopped : task.record.any (·.running) = false := by
      cases hrecord : task.record with
      | none => rfl
      | some record => exact hidle hfree record hrecord
    simp [SubTask.submit, hstopped]
  · intro hfree record session prompt snapshot now hrecord hsession hid hcycles hprompt
    simp [SubTask.continueTask, hprompt, hrecord, hidle hfree record hrecord, hcycles, hid,
      hsession]

end SubTask

namespace SubTaskEvent

/-- The event comes from a run or a listener of a session that the record is not about. -/
def Stale (event : SubTaskEvent) (task : SubTask) : Prop :=
  match event with
  | .sessionEvent _ session .. => ∀ record, task.record = some record →
      record.attached ≠ some session
  | .continuedEnds id .. => ∀ worker ∈ task.workers, worker.id = id → ∀ run,
      worker.continued = some run → ∀ record, task.record = some record →
        record.attached ≠ some run.session
  | .recordOutcome (some run) .. => ∀ record, task.record = some record →
      record.attached ≠ some run
  | _ => False

/-- A call that returns an error leaves the record and the registry as it found them: at once, or
when the admission and then the registration are taken back. -/
def Restores [JsonDisplay] (event : SubTaskEvent) (taskId : String) (task : SubTask)
    (registry : SessionRegistry) : Prop :=
  match event with
  | .submit submission now failure => ∀ error,
      (task.submit taskId submission now failure).1 = .error error →
        task.step taskId event registry = (task, registry)
  | .continueTask prompt snapshot now =>
      (∀ error, (task.continueTask registry taskId prompt snapshot now).1 = .error error →
        task.step taskId event registry = (task, registry)) ∧
      ∀ call ∈ (task.step taskId event registry).1.calls, call ∉ task.calls →
        task.record = some call.found ∧
          call.registration.previous = registry.find call.registration.sessionId
  | .rollback id _ => ∀ call, task.calls.find? (·.id == id) = some call →
      (task.step taskId event registry).1.record = some call.found
  | .dropRegistration index => ∀ registration error,
      task.failed[index]? = some (registration, error) →
        (task.step taskId event registry).2.find registration.sessionId = registration.previous ∧
        ∀ other, other ≠ String.ofList (trimText registration.sessionId) →
          (task.step taskId event registry).2[other]? = registry[other]?
  | _ => True

end SubTaskEvent

/-- A registration that nobody has touched is taken back. -/
theorem ContinuationRegistration.drop_restores {registration : ContinuationRegistration}
    {registry : SessionRegistry}
    (h : registry.find registration.sessionId = some registration.session) :
    (registration.drop registry).find registration.sessionId = registration.previous ∧
      ∀ other, other ≠ String.ofList (trimText registration.sessionId) →
        (registration.drop registry)[other]? = registry[other]? := by
  have hkey : String.ofList (trimText registration.sessionId) ≠ "" := by
    intro hempty
    rw [SessionRegistry.find, if_pos hempty] at h
    cases h
  rw [ContinuationRegistration.drop, SessionRegistry.unregisterIfMatches, if_pos h]
  cases registration.previous with
  | none =>
      refine ⟨?_, ?_⟩
      · simp [SessionRegistry.find]
      · intro other hother
        rw [Table.get_erase, if_neg (Ne.symm hother)]
  | some previous =>
      dsimp only [SessionRegistry.register]
      rw [if_neg hkey]
      refine ⟨?_, ?_⟩
      · rw [SessionRegistry.find, if_neg hkey, Table.get_insert, if_pos rfl]
      · intro other hother
        rw [Table.get_insert, if_neg (Ne.symm hother), Table.get_erase, if_neg (Ne.symm hother)]

namespace SubTask
variable [JsonDisplay] {task : SubTask}

/-- Nothing that comes from another session reaches the record. -/
theorem Tracked.stale (h : task.Tracked) (taskId : String) (event : SubTaskEvent)
    (registry : SessionRegistry) (horderly : event.Orderly task registry)
    (hstale : event.Stale task) : (task.step taskId event registry).1.record = task.record := by
  cases event with
  | sessionEvent generation session event payload now =>
      simp only [SubTask.step]
      split
      · unfold SubTask.sessionEvent
        split
        · rfl
        rename_i record hrecord
        split
        · rename_i hgeneration
          exact absurd (horderly record hrecord hgeneration).1 (hstale record hrecord)
        · rfl
      · rfl
  | continuedEnds id result now =>
      simp only [SubTask.step]
      split
      · rename_i found run hfound
        have hmem := List.mem_of_find?_eq_some hfound
        have hid : found = id := by simpa using List.find?_some hfound
        obtain ⟨hworkers, hcalls, _⟩ := h.exclusive.worker hfound
        obtain ⟨record, hrecord, _⟩ := h.exclusive.owned (by simp [hworkers, hcalls])
        have hattached := (h.continued record hrecord _ hmem run rfl).1
        exact absurd hattached (hstale _ hmem hid run rfl record hrecord)
      · rfl
  | recordOutcome run outcome backend lineage now =>
      cases run with
      | none => exact hstale.elim
      | some run =>
          simp only [SubTask.step]
          split
          · rename_i hrun
            have hmem : run ∈ task.attachedRuns := by simpa using hrun
            cases hrecord : task.record with
            | none =>
                rw [(h.unknown hrecord).1] at hmem
                cases hmem
            | some record =>
                exact absurd (h.attached record hrecord run hmem) (hstale record hrecord)
          · rfl
  | submit | submittedEnds | attach | subscribed | continueTask | rollback | dropRegistration
  | startContinued | unregister | joinFinished => exact hstale.elim

theorem Tracked.restores (h : task.Tracked) (taskId : String) (event : SubTaskEvent)
    (registry : SessionRegistry) (horderly : event.Orderly task registry) :
    event.Restores taskId task registry := by
  cases event with
  | submit submission now failure =>
      intro error herror
      simp only [SubTask.step]
      unfold SubTask.submit at herror ⊢
      split at herror
      · rename_i hrunning
        rw [if_pos hrunning]
      rename_i hrunning
      rw [if_neg hrunning]
      split at herror
      · rfl
      · cases herror
  | continueTask prompt snapshot now =>
      simp only [SubTaskEvent.Restores, SubTask.step]
      rcases continueTask_cases task registry taskId prompt snapshot now with
        ⟨message, hrefused⟩ | ⟨record, session, hrecord, _, _, hadmitted⟩
      · rw [hrefused]
        refine ⟨fun _ _ => rfl, ?_⟩
        intro call hcall hnew
        exact absurd hcall hnew
      · rw [hadmitted]
        refine ⟨(fun _ herror => by cases herror), ?_⟩
        intro call hcall hnew
        rw [List.mem_append, List.mem_singleton] at hcall
        rcases hcall with hold | rfl
        · exact absurd hold hnew
        · exact ⟨hrecord, rfl⟩
  | rollback id error =>
      intro call hfound
      obtain ⟨hcalls, _, _⟩ := h.exclusive.call hfound
      obtain ⟨hprevious, _⟩ := h.found call (by simp [hcalls])
      obtain ⟨hrecord, hhandle, _⟩ := horderly call hfound
      have hrestored : call.found = { call.found with handle := none } := by
        rw [← hhandle]
      simp only [SubTask.step, hfound, SubTask.rollback, hrecord, Option.map_some, hprevious]
      rw [hrestored]
      rfl
  | dropRegistration index =>
      intro registration error hfailed
      simp only [SubTask.step, hfailed]
      exact ContinuationRegistration.drop_restores (horderly registration error hfailed)
  | submittedEnds | attach | subscribed | startContinued | continuedEnds | unregister
  | recordOutcome | sessionEvent | joinFinished => trivial

end SubTask

/-! ### Runs of the manager -/

namespace SubTaskManager
variable [JsonDisplay]

/-- The step of one sub-task leaves the others alone. -/
theorem step_other (event : String × SubTaskEvent) (manager : SubTaskManager) {taskId : String}
    (hother : taskId ≠ event.1) : (manager.step event).tasks taskId = manager.tasks taskId := by
  simp [SubTaskManager.step, hother]

theorem step_self (event : String × SubTaskEvent) (manager : SubTaskManager) :
    (manager.step event).tasks event.1 =
      ((manager.tasks event.1).step event.1 event.2 manager.registry).1 := by
  simp [SubTaskManager.step]

/-- What every step of a sub-task keeps, every step of the manager keeps for all of them. -/
theorem step_forall {Holds : SubTask → Prop} {event : String × SubTaskEvent}
    {manager : SubTaskManager} (h : ∀ taskId, Holds (manager.tasks taskId))
    (hstep : Holds ((manager.tasks event.1).step event.1 event.2 manager.registry).1)
    (taskId : String) : Holds ((manager.step event).tasks taskId) := by
  by_cases hsame : taskId = event.1
  · subst hsame
    rw [step_self]
    exact hstep
  · rw [step_other event manager hsame]
    exact h taskId

end SubTaskManager

/-- Without any condition: in every run at most one worker is at work for each sub-task. -/
theorem one_worker_per_sub_task [JsonDisplay] (events : List (String × SubTaskEvent))
    (taskId : String) : ((run SubTaskManager.step events {}).tasks taskId).workers.length ≤ 1 := by
  have hexclusive := run_preserves SubTaskManager.step (fun _ => True)
    (fun manager => ∀ taskId, (manager.tasks taskId).Exclusive)
    (fun event manager _ h => SubTaskManager.step_forall h
      ((h event.1).step event.1 event.2 manager.registry))
    events (fun _ _ => trivial) {} (fun _ => .of_none rfl rfl)
  have hone := (hexclusive taskId).one
  omega

/-- In every run of orderly steps, every sub-task is kept: one worker at a time, and a record that
is settled once nobody is at work. No step of the run lets a session that was replaced reach the
record, and every call that returns an error restores what it found. -/
theorem sub_tasks_kept [JsonDisplay] (events : List (String × SubTaskEvent))
    (hevents : Along SubTaskManager.step
      (fun event manager => event.2.Orderly (manager.tasks event.1) manager.registry) events {})
    (first rest : List (String × SubTaskEvent)) (hsplit : events = first ++ rest) :
    let manager := run SubTaskManager.step first {}
    (∀ taskId, (manager.tasks taskId).Kept taskId manager.registry) ∧
      ∀ taskId event later, rest = (taskId, event) :: later →
        (event.Stale (manager.tasks taskId) →
          ((manager.step (taskId, event)).tasks taskId).record =
            (manager.tasks taskId).record) ∧
        event.Restores taskId (manager.tasks taskId) manager.registry := by
  have hstep : ∀ event manager, event.2.Orderly (manager.tasks event.1) manager.registry →
      (∀ taskId, (manager.tasks taskId).Tracked) →
        ∀ taskId, ((SubTaskManager.step event manager).tasks taskId).Tracked :=
    fun event manager horderly h => SubTaskManager.step_forall h
      ((h event.1).step event.1 event.2 manager.registry horderly)
  have hempty : ∀ taskId, (({} : SubTaskManager).tasks taskId).Tracked := by
    intro taskId
    refine ⟨.of_none rfl rfl, Nat.zero_le 1, fun _ => ⟨rfl, rfl⟩, ?_, ?_, ?_, ?_, ?_, ?_, ?_, ?_⟩ <;>
      intro _ hnone <;> cases hnone
  have htracked := along_preserves hstep hevents hempty first rest hsplit
  refine ⟨fun taskId => (htracked taskId).keeps taskId _, ?_⟩
  rintro taskId event later rfl
  rw [hsplit, along_append] at hevents
  obtain ⟨_, horderly, _⟩ := hevents
  refine ⟨?_, (htracked taskId).restores taskId event _ horderly⟩
  intro hstale
  rw [SubTaskManager.step_self (taskId, event)]
  exact (htracked taskId).stale taskId event _ horderly hstale

namespace Sample

/-- A host whose JSON values are not previewed. -/
abbrev noDisplay : JsonDisplay where
  display _ := ""

def subTaskSession (session : SessionRef) : SubTaskSessionAttachment where
  sessionId := "session"
  agentName := "reviewer"
  taskTitle := "review"
  workspaceBackend := 0
  session := session
  resolved := ∅

def reviewed : SubTaskOutcome where
  taskId := "task"
  agentName := "reviewer"
  status := .completed
  finalAnswer := some "done"

/-- A session is attached and continued, and its worker ends. -/
def continuedSubTask : List (String × SubTaskEvent) :=
  [("task", .attach (subTaskSession 1) {} false "1"), ("task", .continueTask "go on" none "2"),
    ("task", .startContinued 0 "3"), ("task", .continuedEnds 0 (.ok reviewed) "4")]

/-- Another session is attached while the worker of the first one is at work. -/
def replacedSubTask : List (String × SubTaskEvent) :=
  [("task", .attach (subTaskSession 1) {} false "1"), ("task", .continueTask "go on" none "2"),
    ("task", .startContinued 0 "3"), ("task", .attach (subTaskSession 2) {} false "4"),
    ("task", .continuedEnds 0 (.ok reviewed) "5")]

end Sample

theorem sub_tasks_kept_continued :
    letI := Sample.noDisplay
    let manager := run SubTaskManager.step Sample.continuedSubTask {}
    (manager.tasks "task").Kept "task" manager.registry := by
  let _ : JsonDisplay := Sample.noDisplay
  refine (sub_tasks_kept Sample.continuedSubTask ?_ Sample.continuedSubTask []
    (List.append_nil _).symm).1 "task"
  refine ⟨?_, trivial, trivial, rfl, trivial⟩
  intro record hrecord
  cases hrecord

/-- A record that runs although nobody is at work for it. -/
theorem SubTask.stuck_not_kept {task : SubTask} (taskId : String) (registry : SessionRegistry)
    (hworkers : task.workers = []) (hcalls : task.calls = []) (hruns : task.attachedRuns = [])
    (hrunning : task.record.map (·.running) = some true) :
    ¬task.Busy ∧ ¬task.Kept taskId registry := by
  have hfree : ¬task.Busy := by
    rintro (hsome | hsome | hsome)
    · exact hsome hworkers
    · exact hsome hcalls
    · exact hsome hruns
  refine ⟨hfree, ?_⟩
  intro hkept
  obtain ⟨record, hrecord, hrun⟩ := Option.map_eq_some_iff.mp hrunning
  have hstopped := (hkept.settled hfree record hrecord).1
  rw [hrun] at hstopped
  cases hstopped

/-- The worker has ended and no run is in progress, but the record runs: nothing will be admitted
for this sub-task any more. -/
theorem replaced_sub_task_stuck :
    letI := Sample.noDisplay
    let manager := run SubTaskManager.step Sample.replacedSubTask {}
    ¬(manager.tasks "task").Busy ∧
      (manager.tasks "task").record.map (·.running) = some true ∧
      ¬(manager.tasks "task").Kept "task" manager.registry := by
  let _ : JsonDisplay := Sample.noDisplay
  have hworkers : ((run SubTaskManager.step Sample.replacedSubTask {}).tasks "task").workers.length
      = 0 := by
    decide +kernel
  have hcalls : ((run SubTaskManager.step Sample.replacedSubTask {}).tasks "task").calls.length
      = 0 := by
    decide +kernel
  have hruns : ((run SubTaskManager.step Sample.replacedSubTask {}).tasks "task").attachedRuns
      = [] := by
    decide +kernel
  have hrunning : ((run SubTaskManager.step Sample.replacedSubTask {}).tasks "task").record.map
      (·.running) = some true := by
    decide +kernel
  obtain ⟨hfree, hkept⟩ := SubTask.stuck_not_kept "task"
    (run SubTaskManager.step Sample.replacedSubTask {}).registry
    (List.length_eq_zero_iff.mp hworkers) (List.length_eq_zero_iff.mp hcalls) hruns hrunning
  exact ⟨hfree, hrunning, hkept⟩

end VvAgent
