import VvAgent.AppServer.Threads
import VvAgent.Lib.Family
import VvAgent.Lib.Transcript

/-!
One run per thread. A task occupies its thread from the moment at which it is let in to the
moment at which the row is set back. `start_turn` checks that the thread is free, but it registers
its turn two awaits later, and a resume starts its run before it checks; the archive does not
check at all. Runs whose steps are orderly, in that the thread is free where the code does not
make sure of it and the store does not fail half-way, have one run at a time.
-/

namespace VvAgent
open Lib

/-- The thread is in use by the task: it is let in, and the row is not set back yet. -/
def ThreadTask.occupies : ThreadTask → Bool
  | .startChecked _ | .startRunning _ _ | .startDone _ | .forwarding _ _ | .completing _ _
  | .resumeStarted _ _ | .resumeAdmitted _ _ _ | .resumePersisted _ _ _
  | .resumeAnnouncing _ _ _ | .durableWaiting _ _ _ | .durableFailing _
  | .durableCompleting _ => true
  | .startRead _ | .cleared _ | .resumeRead _ | .resumeClearing _ | .followUpRead _ _
  | .followUpChecked _ | .finished => false

namespace ServedThread

/-- No other task occupies the thread. -/
def Alone (thread : ServedThread) (who : Option Nat) : Prop :=
  ∀ other task, other ≠ who → thread.task? other = some task → task.occupies = false

/-- No request is in flight, and every background task is over or waits for a run that is in
progress. -/
def Quiescent (thread : ServedThread) : Prop :=
  thread.request = none ∧ ∀ task ∈ thread.tasks,
    match task with
    | .finished => True
    | .forwarding _ run | .durableWaiting _ _ run => thread.core.inProgress run = true
    | _ => False

/-- At most one run is in progress; in a quiescent thread it is the one that the row names, and
the row says that it is archived if it is. -/
structure Exclusive (thread : ServedThread) : Prop where
  oneRun : thread.core.runs.length ≤ 1
  running : thread.Quiescent → ∀ turnId,
    (thread.core.row.status = .running ∧ thread.core.row.activeTurnId = some turnId) ↔
      ∃ run, (run, turnId) ∈ thread.core.runs
  named : thread.Quiescent → thread.core.row.status = .running →
    thread.core.row.activeTurnId.isSome = true
  archived : thread.Quiescent →
    (thread.core.row.status = .archived ↔ thread.core.row.archivedAt.isSome = true)

/-- An error answers every request that is about to be let in while another run is in progress. -/
def Refuses (event : ThreadEvent) (thread : ServedThread) : Prop :=
  match event with
  | .advance who env =>
      ∀ task, thread.task? who = some task →
        let refused := ∃ error, (task.segment env thread.core).answer = some (.refused error)
        match task with
        | .startRead _ | .resumeRead _ => thread.core.runs ≠ [] → refused
        | .resumeStarted _ run | .resumeAdmitted _ _ run =>
            (∃ other ∈ thread.core.runs, other.1 ≠ run) → refused
        | _ => True
  | _ => True

/-- What the code does not make sure of: the thread is free where a start passes its check, where
a resume begins its run or writes the outcome of a run that is over, and where the thread is
archived; no resume meets an owner elsewhere; a durable resume ends with a valid completion; and
the writes to the store succeed once a run is started. -/
def Orderly (event : ThreadEvent) (thread : ServedThread) : Prop :=
  match event with
  | .receive (.archive _) _ => ∀ who task, thread.task? who = some task → task.occupies = false
  | .receive _ _ | .runEnds _ => True
  | .advance who env =>
      ∀ task, thread.task? who = some task →
        match task with
        | .startRead _ =>
            thread.core.hasActiveTurn = false →
              thread.Alone who ∧ thread.core.row.archivedAt = none
        | .startChecked _ | .completing _ _ | .durableCompleting _ => env.threadWriteOk = true
        | .resumeRead _ =>
            match env.outcome with
            | .failed _ => True
            | .existingOwner _ => False
            | _ => thread.Alone who
        | .resumeStarted _ run =>
            match env.outcome with
            | .begins | .started _ => True
            | .existingOwner _ => False
            | _ => thread.core.inProgress run = false
        | .resumeAdmitted _ _ _ =>
            env.readOk = true ∧ env.turnWriteOk = true ∧ env.threadWriteOk = true
        | .durableWaiting _ _ run =>
            thread.core.inProgress run = false →
              match env.completion with
              | .completed _ _ => env.turnWriteOk = true
              | _ => False
        | _ => True

end ServedThread

/-! ### What an occupied thread looks like -/

namespace ThreadCore

/-- No run, no turn in memory, and a row that says so. -/
def AtRest (core : ThreadCore) : Prop :=
  core.runs = [] ∧ core.activeTurn = none ∧ core.durableResume = none ∧
    core.row.status ≠ .running ∧
      (core.row.status = .archived ↔ core.row.archivedAt.isSome = true)

/-- The run of the turn is in progress, or it is over, and there is no other one. -/
def Runs (core : ThreadCore) (turnId : String) (run : Nat) : Prop :=
  core.runs = [(run, turnId)] ∨ core.runs = []

/-- The row names the turn as the one that is running. -/
def Marked (core : ThreadCore) (turnId : String) : Prop :=
  core.row.status = .running ∧ core.row.activeTurnId = some turnId ∧ core.row.archivedAt = none

/-- The row is not marked, and the thread is not archived. -/
def Unmarked (core : ThreadCore) : Prop :=
  core.row.status ≠ .running ∧ core.row.status ≠ .archived ∧ core.row.archivedAt = none

/-- The same runs, row and maps; turns and follow-ups may differ. -/
def SameUse (core other : ThreadCore) : Prop :=
  core.runs = other.runs ∧ core.activeTurn = other.activeTurn ∧
    core.durableResume = other.durableResume ∧ core.row = other.row

end ThreadCore

/-- What the thread of an occupying task looks like before its next segment. -/
def ThreadTask.Stands (task : ThreadTask) (core : ThreadCore) : Prop :=
  match task with
  | .startChecked _ =>
      core.runs = [] ∧ core.activeTurn = none ∧ core.durableResume = none ∧ core.Unmarked
  | .startRunning turnId run =>
      core.Runs turnId run ∧ core.activeTurn = none ∧ core.durableResume = none ∧
        core.Marked turnId
  | .startDone turnId =>
      ∃ run, core.Runs turnId run ∧ core.activeTurn = some ⟨turnId, run⟩ ∧
        core.durableResume = none ∧ core.Marked turnId
  | .forwarding turnId run =>
      core.Runs turnId run ∧ core.activeTurn = some ⟨turnId, run⟩ ∧
        core.durableResume = none ∧ core.Marked turnId
  | .completing turnId _ =>
      core.runs = [] ∧ (∃ run, core.activeTurn = some ⟨turnId, run⟩) ∧
        core.durableResume = none ∧ core.Marked turnId
  | .resumeStarted turnId run | .resumeAdmitted turnId _ run =>
      core.Runs turnId run ∧ core.activeTurn = none ∧ core.durableResume = none ∧ core.Unmarked
  | .resumePersisted turnId _ run =>
      core.Runs turnId run ∧ core.activeTurn = none ∧ core.durableResume = none ∧
        core.Marked turnId
  | .resumeAnnouncing turnId _ run | .durableWaiting turnId _ run =>
      core.Runs turnId run ∧ core.activeTurn = none ∧ core.durableResume = some turnId ∧
        core.Marked turnId
  | .durableCompleting turnId =>
      core.runs = [] ∧ core.activeTurn = none ∧ core.durableResume = some turnId ∧
        core.Marked turnId
  | _ => False

/-- The turn that a resume is going to write. -/
def ThreadTask.resumes : ThreadTask → Option String
  | .resumeRead turnId | .resumeStarted turnId _ | .resumeAdmitted turnId _ _
  | .resumePersisted turnId _ _ | .resumeAnnouncing turnId _ _ | .durableWaiting turnId _ _ =>
      some turnId
  | _ => none

/-- It is in the store. -/
def ThreadTask.Known (task : ThreadTask) (core : ThreadCore) : Prop :=
  ∀ turnId, task.resumes = some turnId → core.turns.contains turnId = true

/-- A task that goes on without a client. -/
def ThreadTask.background : ThreadTask → Bool
  | .startRead _ | .startChecked _ | .startRunning _ _ | .startDone _ | .forwarding _ _
  | .completing _ _ | .cleared _ | .durableWaiting _ _ _ | .durableFailing _
  | .durableCompleting _ | .finished => true
  | _ => false

namespace ServedThread

/-- The task occupies the thread, and no other one does. -/
structure Occupied (thread : ServedThread) (who : Option Nat) (task : ThreadTask) : Prop where
  held : thread.task? who = some task
  occupies : task.occupies = true
  alone : thread.Alone who
  stands : task.Stands thread.core

/-- No task occupies the thread. -/
structure Settled (thread : ServedThread) : Prop where
  free : ∀ who task, thread.task? who = some task → task.occupies = false
  atRest : thread.core.AtRest

structure Consistent (thread : ServedThread) : Prop where
  occupancy : thread.Settled ∨ ∃ who task, thread.Occupied who task
  background : ∀ task ∈ thread.tasks, task.background = true
  known : ∀ who task, thread.task? who = some task → task.Known thread.core
  /-- A thread is not archived while a request asks the provider. -/
  unarchived : ∀ turnId, thread.request = some (.resumeRead turnId) →
    thread.core.row.archivedAt = none
  clearing : ∀ turnId, thread.request = some (.resumeClearing turnId) →
    thread.core.durableResume = none

end ServedThread

/-! ### Tasks after a segment -/

namespace ServedThread

@[simp]
theorem length_replaceTask (tasks : List ThreadTask) (who : Option Nat) (next : ThreadTask) :
    (replaceTask tasks who next).length = tasks.length := by
  cases who <;> simp [replaceTask]

theorem getElem?_replaceTask {tasks : List ThreadTask} {who : Option Nat} {next : ThreadTask}
    {position : Nat} (hne : some position ≠ who) :
    (replaceTask tasks who next)[position]? = tasks[position]? := by
  cases who with
  | none => rfl
  | some index => exact List.getElem?_set_ne fun heq => hne (by rw [heq])

/-- A task after a segment is the one that goes on, one of the others or the spawned one. -/
theorem task_after {thread : ServedThread} {who other : Option Nat} {segment : Segment}
    {task : ThreadTask} (h : (thread.after who segment).task? other = some task) :
    (other = who ∧ task = segment.next) ∨
      (other ≠ who ∧ thread.task? other = some task) ∨
      (other = some thread.tasks.length ∧ segment.spawned = some task) := by
  cases other with
  | none =>
      cases who with
      | none =>
          refine .inl ⟨rfl, ?_⟩
          simp only [after, task?] at h
          split at h
          · cases h
          · exact (Option.some.inj h).symm
      | some index => exact .inr (.inl ⟨by simp, h⟩)
  | some position =>
      simp only [after, task?, List.getElem?_append, length_replaceTask] at h
      split at h
      · rename_i hbound
        by_cases hwho : some position = who
        · subst hwho
          rw [replaceTask, List.getElem?_set_self hbound] at h
          exact .inl ⟨rfl, (Option.some.inj h).symm⟩
        · rw [getElem?_replaceTask hwho] at h
          exact .inr (.inl ⟨hwho, h⟩)
      · rename_i hbound
        have hmem := List.mem_of_getElem? h
        have hspawned : segment.spawned = some task := by simpa using hmem
        have hindex := (List.getElem?_eq_some_iff.mp h).1
        have hposition : position = thread.tasks.length := by
          simp only [hspawned, Option.toList_some, List.length_singleton] at hindex
          omega
        exact .inr (.inr ⟨by rw [hposition], hspawned⟩)

theorem task_kept {thread : ServedThread} {who other : Option Nat} {segment : Segment}
    {task : ThreadTask} (hne : other ≠ who) (h : thread.task? other = some task) :
    (thread.after who segment).task? other = some task := by
  cases other with
  | none =>
      cases who with
      | none => exact absurd rfl hne
      | some index => exact h
  | some position =>
      simp only [task?] at h
      have hbound : position < (replaceTask thread.tasks who segment.next).length := by
        rw [length_replaceTask]
        exact (List.getElem?_eq_some_iff.mp h).1
      simp only [after, task?]
      rw [List.getElem?_append_left hbound, getElem?_replaceTask hne, h]

/-- A task that goes on is where it was. -/
theorem task_next {thread : ServedThread} {who : Option Nat} {segment : Segment}
    (hwho : who = none ∨ ∃ old, thread.task? who = some old)
    (hnext : segment.next.occupies = true) :
    (thread.after who segment).task? who = some segment.next := by
  cases who with
  | none =>
      simp only [after, task?]
      split
      · rename_i hover
        rw [hover] at hnext
        cases hnext
      · rfl
  | some index =>
      obtain ⟨old, hold⟩ := hwho.resolve_left (by simp)
      simp only [task?] at hold
      have hbound : index < thread.tasks.length := (List.getElem?_eq_some_iff.mp hold).1
      simp only [after, task?]
      rw [List.getElem?_append_left (by simpa using hbound), replaceTask,
        List.getElem?_set_self hbound]

theorem task_spawned {thread : ServedThread} {who : Option Nat} {segment : Segment}
    {spawned : ThreadTask} (h : segment.spawned = some spawned) :
    (thread.after who segment).task? (some thread.tasks.length) = some spawned := by
  simp [after, task?, h]

/-! ### Who occupies the thread after a segment -/

/-- The thread is free, or one task occupies it. -/
def Occupancy (thread : ServedThread) : Prop :=
  thread.Settled ∨ ∃ who task, thread.Occupied who task

theorem stands_sameUse {core other : ThreadCore} (h : core.SameUse other) (task : ThreadTask) :
    task.Stands core ↔ task.Stands other := by
  obtain ⟨hruns, hactive, hdurable, hrow⟩ := h
  cases task <;>
    simp only [ThreadTask.Stands, ThreadCore.Runs, ThreadCore.Marked, ThreadCore.Unmarked, hruns,
      hactive, hdurable, hrow]

theorem atRest_sameUse {core other : ThreadCore} (h : core.SameUse other) :
    core.AtRest ↔ other.AtRest := by
  obtain ⟨hruns, hactive, hdurable, hrow⟩ := h
  simp only [ThreadCore.AtRest, hruns, hactive, hdurable, hrow]

/-- No task but those at `who` and among the spawned ones occupies the thread. -/
theorem alone_after {thread : ServedThread} {who : Option Nat} {segment : Segment}
    (halone : thread.Alone who) (hspawned : segment.spawned = none) :
    (thread.after who segment).Alone who := by
  intro other task hne htask
  rcases task_after htask with ⟨rfl, -⟩ | ⟨-, hold⟩ | ⟨-, hnew⟩
  · exact absurd rfl hne
  · exact halone other task hne hold
  · rw [hspawned] at hnew
    cases hnew

/-- A task that does not occupy the thread goes on without occupying it. -/
theorem Occupancy.pass {thread : ServedThread} {who : Option Nat} {segment : Segment}
    (h : thread.Occupancy) (hfree : ∀ task, thread.task? who = some task → task.occupies = false)
    (hnext : segment.next.occupies = false) (hspawned : segment.spawned = none)
    (hsame : segment.core.SameUse thread.core) : (thread.after who segment).Occupancy := by
  rcases h with h | ⟨holder, task, h⟩
  · refine .inl ⟨?_, (atRest_sameUse hsame).mpr h.atRest⟩
    intro other task htask
    rcases task_after htask with ⟨-, rfl⟩ | ⟨-, hold⟩ | ⟨-, hnew⟩
    · exact hnext
    · exact h.free other task hold
    · rw [hspawned] at hnew
      cases hnew
  · have hne : holder ≠ who := by
      rintro rfl
      have hoccupies := h.occupies
      rw [hfree task h.held] at hoccupies
      cases hoccupies
    refine .inr ⟨holder, task, task_kept hne h.held, h.occupies, ?_,
      (stands_sameUse hsame task).mpr h.stands⟩
    intro other task' hother htask
    rcases task_after htask with ⟨-, rfl⟩ | ⟨-, hold⟩ | ⟨-, hnew⟩
    · exact hnext
    · exact h.alone other task' hother hold
    · rw [hspawned] at hnew
      cases hnew

/-- The only task that may occupy the thread goes on and occupies it. -/
theorem Occupancy.hold {thread : ServedThread} {who : Option Nat} {segment : Segment}
    (halone : thread.Alone who) (hwho : who = none ∨ ∃ old, thread.task? who = some old)
    (hnext : segment.next.occupies = true) (hspawned : segment.spawned = none)
    (hstands : segment.next.Stands segment.core) : (thread.after who segment).Occupancy :=
  .inr ⟨who, segment.next, task_next hwho hnext, hnext, alone_after halone hspawned, hstands⟩

/-- The only task that may occupy the thread leaves it. -/
theorem Occupancy.leave {thread : ServedThread} {who : Option Nat} {segment : Segment}
    (halone : thread.Alone who) (hnext : segment.next.occupies = false)
    (hspawned : segment.spawned = none) (hrest : segment.core.AtRest) :
    (thread.after who segment).Occupancy := by
  refine .inl ⟨?_, hrest⟩
  intro other task htask
  by_cases hother : other = who
  · subst hother
    rcases task_after htask with ⟨-, rfl⟩ | ⟨hne, -⟩ | ⟨-, hnew⟩
    · exact hnext
    · exact absurd rfl hne
    · rw [hspawned] at hnew
      cases hnew
  · exact alone_after halone hspawned other task hother htask

/-- The only task that may occupy the thread hands it over to the one that it spawns. -/
theorem Occupancy.handOver {thread : ServedThread} {who : Option Nat} {segment : Segment}
    (spawned : ThreadTask) (halone : thread.Alone who) (hnext : segment.next = .finished)
    (hspawned : segment.spawned = some spawned)
    (hoccupies : spawned.occupies = true) (hstands : spawned.Stands segment.core) :
    (thread.after who segment).Occupancy := by
  refine .inr ⟨some thread.tasks.length, spawned, task_spawned hspawned, hoccupies, ?_, hstands⟩
  intro other task hother htask
  rcases task_after htask with ⟨-, rfl⟩ | ⟨hne, hold⟩ | ⟨heq, -⟩
  · rw [hnext]
    rfl
  · exact halone other task hne hold
  · exact absurd heq hother

theorem Occupancy.settled {thread : ServedThread} (h : thread.Occupancy) {who : Option Nat}
    (hfree : ∀ task, thread.task? who = some task → task.occupies = false)
    (halone : thread.Alone who) : thread.Settled := by
  rcases h with h | ⟨holder, task, h⟩
  · exact h
  · exfalso
    have hoccupies := h.occupies
    by_cases hwho : holder = who
    · subst hwho
      rw [hfree task h.held] at hoccupies
      cases hoccupies
    · rw [halone holder task hwho h.held] at hoccupies
      cases hoccupies

theorem Occupancy.occupied {thread : ServedThread} (h : thread.Occupancy) {who : Option Nat}
    {task : ThreadTask} (htask : thread.task? who = some task) (hoccupies : task.occupies = true) :
    thread.Occupied who task := by
  rcases h with h | ⟨holder, held, h⟩
  · rw [h.free who task htask] at hoccupies
    cases hoccupies
  · by_cases hwho : who = holder
    · subst hwho
      obtain rfl : held = task := Option.some.inj (h.held.symm.trans htask)
      exact h
    · rw [h.alone who task hwho htask] at hoccupies
      cases hoccupies

end ServedThread

/-! ### What the segments do -/

theorem ThreadCore.runs_eq_nil {core : ThreadCore} {turnId : String} {run : Nat}
    (h : core.Runs turnId run) (hover : core.inProgress run = false) : core.runs = [] := by
  rcases h with h | h
  · simp [ThreadCore.inProgress, h] at hover
  · exact h

theorem updateTurn_sameUse {turnId : String} {status : TurnStatus} {runId : Option String}
    {env : Environment} {core after : ThreadCore}
    (h : updateTurn turnId status runId env core = some after) : after.SameUse core := by
  unfold updateTurn at h
  split at h
  · split at h
    · cases h
      exact ⟨rfl, rfl, rfl, rfl⟩
    · cases h
  · cases h

theorem updateTurn_isSome {turnId : String} (status : TurnStatus) (runId : Option String)
    {env : Environment} {core : ThreadCore} (hturn : core.turns.contains turnId = true)
    (hwrite : env.turnWriteOk = true) :
    ∃ after, updateTurn turnId status runId env core = some after := by
  rw [Std.ExtTreeMap.contains_eq_isSome_getElem?, Option.isSome_iff_exists] at hturn
  obtain ⟨turn, hturn⟩ := hturn
  simp [updateTurn, hturn, hwrite]

theorem persistRunningResume_ok {turnId : String} (runId : String) {env : Environment}
    {core : ThreadCore} (hturn : core.turns.contains turnId = true) (hread : env.readOk = true)
    (hturnWrite : env.turnWriteOk = true) (hwrite : env.threadWriteOk = true)
    (hrow : core.row.status ≠ .running) :
    ∃ turns, persistRunningResume turnId runId env core =
      ({ core with
          row := { core.row with activeTurnId := some turnId, status := .running }, turns }, none) := by
  rw [Std.ExtTreeMap.contains_eq_isSome_getElem?, Option.isSome_iff_exists] at hturn
  obtain ⟨turn, hturn⟩ := hturn
  by_cases hmarked : turn.status ≠ .running ∨ turn.runId ≠ some runId
  · simp [persistRunningResume, hturn, hread, hturnWrite, hwrite, hrow, hmarked,
      ThreadCore.setActiveTurn]
  · simp [persistRunningResume, hturn, hread, hwrite, hrow, hmarked, ThreadCore.setActiveTurn]

theorem ThreadCore.SameUse.refl (core : ThreadCore) : core.SameUse core := ⟨rfl, rfl, rfl, rfl⟩

/-- The outcome of a run that is over leaves the use of the thread alone, or sets the row back. -/
theorem persistReplay_use (turnId runId : String) (status : TurnStatus) (env : Environment)
    (core : ThreadCore) :
    (persistReplay turnId runId status env core).1.SameUse core ∨
      (persistReplay turnId runId status env core).1.SameUse (core.setActiveTurn none .idle) := by
  unfold persistReplay
  split
  · exact .inl (ThreadCore.SameUse.refl core)
  · split
    · exact .inl (ThreadCore.SameUse.refl core)
    · split
      · exact .inl (ThreadCore.SameUse.refl core)
      · rename_i after hupdate
        have hsame := updateTurn_sameUse hupdate
        split
        · exact .inl hsame
        · split
          · obtain ⟨hruns, hactive, hdurable, hrow⟩ := hsame
            refine .inr ⟨hruns, hactive, hdurable, ?_⟩
            simp only [ThreadCore.setActiveTurn, hrow]
          · exact .inl hsame

theorem ThreadCore.AtRest.setBack {core : ThreadCore} (h : core.AtRest)
    (hlive : core.row.archivedAt = none) : (core.setActiveTurn none .idle).AtRest := by
  obtain ⟨hruns, hactive, hdurable, -, -⟩ := h
  exact ⟨hruns, hactive, hdurable, by simp [setActiveTurn], by simp [setActiveTurn, hlive]⟩

/-- A thread at rest that is not archived stays at rest when the outcome of a run that is over is
written to it. -/
theorem replayTurn_atRest (turnId runId : String) (status : TurnStatus) (env : Environment)
    {core : ThreadCore} (hrest : core.AtRest) (hlive : core.row.archivedAt = none) :
    (replayTurn turnId runId status env core).core.AtRest ∧
      (replayTurn turnId runId status env core).next.occupies = false ∧
      (replayTurn turnId runId status env core).spawned = none := by
  have hafter : (persistReplay turnId runId status env core).1.AtRest := by
    rcases persistReplay_use turnId runId status env core with hsame | hsame
    · exact (ServedThread.atRest_sameUse hsame).mpr hrest
    · exact (ServedThread.atRest_sameUse hsame).mpr (hrest.setBack hlive)
  unfold replayTurn
  split
  · rename_i after error hresult
    rw [hresult] at hafter
    exact ⟨hafter, rfl, rfl⟩
  · rename_i after hresult
    rw [hresult] at hafter
    exact ⟨hafter, rfl, rfl⟩

namespace ServedThread

/-- The segment of the task that occupies the thread. -/
theorem Occupied.advance {thread : ServedThread} {who : Option Nat} {task : ThreadTask}
    {env : Environment} (h : thread.Occupied who task) (hknown : task.Known thread.core)
    (horder : thread.Orderly (.advance who env)) :
    (thread.after who (task.segment env thread.core)).Occupancy := by
  obtain ⟨hheld, hoccupies, halone, hstands⟩ := h
  have hwho : who = none ∨ ∃ old, thread.task? who = some old := .inr ⟨task, hheld⟩
  have horder := horder task hheld
  cases task with
  | startChecked turnId =>
      obtain ⟨hruns, hactive, hdurable, -, -, hlive⟩ := hstands
      have hwrite : env.threadWriteOk = true := horder
      have hsegment : (ThreadTask.startChecked turnId).segment env thread.core =
          Segment.goOn ((thread.core.startRun turnId).setActiveTurn (some turnId) .running)
            (.startRunning turnId thread.core.started) := by
        simp [ThreadTask.segment, startRunOfTurn, hwrite]
      rw [hsegment]
      refine Occupancy.hold halone hwho rfl rfl ⟨.inl ?_, hactive, hdurable, rfl, rfl, hlive⟩
      simp [Segment.goOn, ThreadCore.startRun, ThreadCore.setActiveTurn, hruns]
  | startRunning turnId run =>
      obtain ⟨hruns, -, hdurable, hmarked⟩ := hstands
      exact Occupancy.hold halone hwho rfl rfl ⟨run, hruns, rfl, hdurable, hmarked⟩
  | startDone turnId =>
      obtain ⟨run, hruns, hactive, hdurable, hmarked⟩ := hstands
      refine Occupancy.handOver (.forwarding turnId run) halone rfl ?_ rfl
        ⟨hruns, hactive, hdurable, hmarked⟩
      simp [ThreadTask.segment, hactive]
  | forwarding turnId run =>
      obtain ⟨hruns, hactive, hdurable, hmarked⟩ := hstands
      by_cases hover : thread.core.inProgress run = true
      · rw [show (ThreadTask.forwarding turnId run).segment env thread.core =
            Segment.goOn thread.core (.forwarding turnId run) by simp [ThreadTask.segment, hover]]
        exact Occupancy.hold halone hwho rfl rfl ⟨hruns, hactive, hdurable, hmarked⟩
      · rw [show (ThreadTask.forwarding turnId run).segment env thread.core =
            completeTurn turnId env thread.core by simp [ThreadTask.segment, hover]]
        refine Occupancy.hold halone hwho rfl rfl ?_
        have hnone := ThreadCore.runs_eq_nil hruns (by simpa using hover)
        have hsame : ((updateTurn turnId env.status env.runId env thread.core).getD
            thread.core).SameUse thread.core := by
          cases hupdate : updateTurn turnId env.status env.runId env thread.core with
          | none => exact ThreadCore.SameUse.refl _
          | some after => exact updateTurn_sameUse hupdate
        refine (stands_sameUse hsame (.completing turnId (env.status == .completed))).mpr ?_
        exact ⟨hnone, ⟨run, hactive⟩, hdurable, hmarked⟩
  | completing turnId completed =>
      obtain ⟨hruns, ⟨run, hactive⟩, hdurable, -, -, hlive⟩ := hstands
      have hwrite : env.threadWriteOk = true := horder
      refine Occupancy.leave halone rfl rfl ?_
      simp [ThreadTask.segment, clearTurn, hwrite, Segment.goOn, ThreadCore.clearActiveTurn, hactive,
        ThreadCore.setActiveTurn, ThreadCore.AtRest, hruns, hdurable, hlive]
  | resumeStarted turnId run =>
      obtain ⟨hruns, hactive, hdurable, hrow, harchived, hlive⟩ := hstands
      have hrest : thread.core.inProgress run = false → thread.core.AtRest := by
        intro hover
        exact ⟨ThreadCore.runs_eq_nil hruns hover, hactive, hdurable, hrow, by
          simp [hlive, harchived]⟩
      cases houtcome : env.outcome with
      | begins =>
          rw [show (ThreadTask.resumeStarted turnId run).segment env thread.core =
              Segment.goOn thread.core (.resumeStarted turnId run) by
            simp [ThreadTask.segment, resumeTurn, houtcome]]
          exact Occupancy.hold halone hwho rfl rfl ⟨hruns, hactive, hdurable, hrow, harchived, hlive⟩
      | failed error =>
          simp only [houtcome] at horder
          rw [show (ThreadTask.resumeStarted turnId run).segment env thread.core =
              Segment.refuse thread.core error by
            simp [ThreadTask.segment, resumeTurn, houtcome]]
          exact Occupancy.leave halone rfl rfl (hrest horder)
      | started runId =>
          rw [show (ThreadTask.resumeStarted turnId run).segment env thread.core =
              Segment.goOn thread.core (.resumeAdmitted turnId runId run) by
            simp [ThreadTask.segment, resumeTurn, houtcome]]
          exact Occupancy.hold halone hwho rfl rfl ⟨hruns, hactive, hdurable, hrow, harchived, hlive⟩
      | existingOwner runId =>
          simp only [houtcome] at horder
      | deferredPending runId =>
          simp only [houtcome] at horder
          rw [show (ThreadTask.resumeStarted turnId run).segment env thread.core =
              replayTurn turnId runId .interrupted env thread.core by
            simp [ThreadTask.segment, resumeTurn, houtcome]]
          obtain ⟨hafter, hnext, hspawned⟩ :=
            replayTurn_atRest turnId runId .interrupted env (hrest horder) hlive
          exact Occupancy.leave halone hnext hspawned hafter
      | terminalReplay runId status =>
          simp only [houtcome] at horder
          rw [show (ThreadTask.resumeStarted turnId run).segment env thread.core =
              replayTurn turnId runId status env thread.core by
            simp [ThreadTask.segment, resumeTurn, houtcome]]
          obtain ⟨hafter, hnext, hspawned⟩ :=
            replayTurn_atRest turnId runId status env (hrest horder) hlive
          exact Occupancy.leave halone hnext hspawned hafter
  | resumeAdmitted turnId runId run =>
      obtain ⟨hruns, hactive, hdurable, hrow, -, hlive⟩ := hstands
      obtain ⟨hread, hturnWrite, hwrite⟩ := horder
      obtain ⟨turns, hpersist⟩ :=
        persistRunningResume_ok runId (hknown turnId rfl) hread hturnWrite hwrite hrow
      have hsegment : (ThreadTask.resumeAdmitted turnId runId run).segment env thread.core =
          Segment.goOn
            { thread.core with
              row := { thread.core.row with activeTurnId := some turnId, status := .running }
              turns }
            (.resumePersisted turnId runId run) := by
        simp [ThreadTask.segment, admitResume, ThreadCore.hasActiveTurn, hactive, hdurable, hpersist]
      rw [hsegment]
      exact Occupancy.hold halone hwho rfl rfl ⟨hruns, hactive, hdurable, rfl, rfl, hlive⟩
  | resumePersisted turnId runId run =>
      obtain ⟨hruns, hactive, -, hmarked⟩ := hstands
      exact Occupancy.hold halone hwho rfl rfl ⟨hruns, hactive, rfl, hmarked⟩
  | resumeAnnouncing turnId runId run =>
      exact Occupancy.handOver (.durableWaiting turnId runId run) halone rfl rfl rfl hstands
  | durableWaiting turnId runId run =>
      obtain ⟨hruns, hactive, hdurable, hmarked⟩ := hstands
      by_cases hover : thread.core.inProgress run = true
      · rw [show (ThreadTask.durableWaiting turnId runId run).segment env thread.core =
            Segment.goOn thread.core (.durableWaiting turnId runId run) by
          simp [ThreadTask.segment, hover]]
        exact Occupancy.hold halone hwho rfl rfl ⟨hruns, hactive, hdurable, hmarked⟩
      · have hdone : thread.core.inProgress run = false := by simpa using hover
        have horder := horder hdone
        cases hcompletion : env.completion with
        | failed => simp only [hcompletion] at horder
        | rejected => simp only [hcompletion] at horder
        | completed runId' status =>
            simp only [hcompletion] at horder
            obtain ⟨after, hupdate⟩ :=
              updateTurn_isSome status (some runId') (hknown turnId rfl) horder
            rw [show (ThreadTask.durableWaiting turnId runId run).segment env thread.core =
                Segment.goOn after (.durableCompleting turnId) by
              simp [ThreadTask.segment, hdone, endDurableResume, hcompletion, hupdate]]
            refine Occupancy.hold halone hwho rfl rfl ?_
            refine (stands_sameUse (updateTurn_sameUse hupdate) (.durableCompleting turnId)).mpr ?_
            exact ⟨ThreadCore.runs_eq_nil hruns hdone, hactive, hdurable, hmarked⟩
  | durableFailing turnId => exact hstands.elim
  | durableCompleting turnId =>
      obtain ⟨hruns, hactive, hdurable, -, -, hlive⟩ := hstands
      have hwrite : env.threadWriteOk = true := horder
      refine Occupancy.leave halone rfl rfl ?_
      simp [ThreadTask.segment, completeDurableResume, hwrite, Segment.goOn,
        ThreadCore.clearDurableResume, hdurable, ThreadCore.setActiveTurn, ThreadCore.AtRest, hruns,
        hactive, hlive]
  | startRead _ | cleared _ | resumeRead _ | resumeClearing _ | followUpRead _ _
  | followUpChecked _ | finished => cases hoccupies

/-- What a task that does not occupy the thread does: it leaves the use of the thread alone, or it
is let in. -/
theorem Occupancy.advanceFree {thread : ServedThread} (h : thread.Occupancy) {who : Option Nat}
    {task : ThreadTask} {env : Environment} (htask : thread.task? who = some task)
    (hfree : task.occupies = false) (horder : thread.Orderly (.advance who env))
    (hunarchived : ∀ turnId, task = .resumeRead turnId → thread.core.row.archivedAt = none)
    (hclearing : ∀ turnId, task = .resumeClearing turnId → thread.core.durableResume = none) :
    (thread.after who (task.segment env thread.core)).Occupancy := by
  have hwho : who = none ∨ ∃ old, thread.task? who = some old := .inr ⟨task, htask⟩
  have hheld : ∀ old, thread.task? who = some old → old.occupies = false := by
    intro old hold
    obtain rfl : task = old := Option.some.inj (htask.symm.trans hold)
    exact hfree
  have horder := horder task htask
  have hsame := ThreadCore.SameUse.refl thread.core
  cases task with
  | startRead input =>
      simp only [ThreadTask.segment, checkForStart]
      split
      · exact h.pass hheld rfl rfl hsame
      · rename_i hactive
        obtain ⟨halone, hlive⟩ := horder (by simpa using hactive)
        split
        · exact h.pass hheld rfl rfl hsame
        · split
          · exact h.pass hheld rfl rfl hsame
          · obtain ⟨hruns, hactive, hdurable, hrow, harchived⟩ := (h.settled hheld halone).atRest
            refine Occupancy.hold halone hwho rfl rfl ⟨hruns, hactive, hdurable, hrow, ?_, hlive⟩
            intro hstatus
            have hsome := harchived.mp hstatus
            rw [hlive] at hsome
            cases hsome
  | cleared completed =>
      simp only [ThreadTask.segment, startFollowUp]
      split
      · unfold readForStart
        split
        · exact h.pass hheld rfl rfl ⟨rfl, rfl, rfl, rfl⟩
        · split
          · exact h.pass hheld rfl rfl ⟨rfl, rfl, rfl, rfl⟩
          · split
            · exact h.pass hheld rfl rfl ⟨rfl, rfl, rfl, rfl⟩
            · exact h.pass hheld rfl rfl ⟨rfl, rfl, rfl, rfl⟩
      · exact h.pass hheld rfl rfl hsame
  | resumeRead turnId =>
      have hlive := hunarchived turnId rfl
      have hlet : thread.Alone who → thread.core.AtRest := fun halone =>
        (h.settled hheld halone).atRest
      have hbegin : ∀ next : ThreadTask, thread.Alone who → next.occupies = true →
          next.Stands (thread.core.startRun turnId) →
          (thread.after who (Segment.goOn (thread.core.startRun turnId) next)).Occupancy :=
        fun next halone hnext hstands => Occupancy.hold halone hwho hnext rfl hstands
      have hstarted : thread.Alone who →
          (thread.core.startRun turnId).Runs turnId thread.core.started ∧
            (thread.core.startRun turnId).activeTurn = none ∧
            (thread.core.startRun turnId).durableResume = none ∧
            (thread.core.startRun turnId).Unmarked := by
        intro halone
        obtain ⟨hruns, hactive, hdurable, hrow, harchived⟩ := hlet halone
        refine ⟨.inl (by simp [ThreadCore.startRun, hruns]), hactive, hdurable, hrow, ?_, hlive⟩
        intro hstatus
        have hsome := harchived.mp hstatus
        rw [hlive] at hsome
        cases hsome
      cases houtcome : env.outcome with
      | begins =>
          simp only [houtcome] at horder
          simp only [ThreadTask.segment, resumeTurn, houtcome]
          exact hbegin _ horder rfl (hstarted horder)
      | failed error =>
          simp only [ThreadTask.segment, resumeTurn, houtcome]
          exact h.pass hheld rfl rfl hsame
      | started runId =>
          simp only [houtcome] at horder
          simp only [ThreadTask.segment, resumeTurn, houtcome]
          exact hbegin _ horder rfl (hstarted horder)
      | existingOwner runId => simp only [houtcome] at horder
      | deferredPending runId =>
          simp only [houtcome] at horder
          simp only [ThreadTask.segment, resumeTurn, houtcome]
          obtain ⟨hafter, hnext, hspawned⟩ :=
            replayTurn_atRest turnId runId .interrupted env (hlet horder) hlive
          exact Occupancy.leave horder hnext hspawned hafter
      | terminalReplay runId status =>
          simp only [houtcome] at horder
          simp only [ThreadTask.segment, resumeTurn, houtcome]
          obtain ⟨hafter, hnext, hspawned⟩ :=
            replayTurn_atRest turnId runId status env (hlet horder) hlive
          exact Occupancy.leave horder hnext hspawned hafter
  | resumeClearing turnId =>
      refine h.pass hheld rfl rfl ?_
      simpa [ThreadTask.segment, Segment.accept, ThreadCore.clearDurableResume,
        hclearing turnId rfl] using hsame
  | followUpRead expectedTurnId input =>
      simp only [ThreadTask.segment, validateFollowUp]
      split
      · exact h.pass hheld rfl rfl hsame
      · split
        · exact h.pass hheld rfl rfl hsame
        · exact h.pass hheld rfl rfl hsame
  | followUpChecked input => exact h.pass hheld rfl rfl ⟨rfl, rfl, rfl, rfl⟩
  | finished => exact h.pass hheld rfl rfl hsame
  | startChecked _ | startRunning _ _ | startDone _ | forwarding _ _ | completing _ _
  | resumeStarted _ _ | resumeAdmitted _ _ _ | resumePersisted _ _ _ | resumeAnnouncing _ _ _
  | durableWaiting _ _ _ | durableFailing _ | durableCompleting _ => cases hfree

end ServedThread

/-! ### What every segment keeps -/

/-- The row stays archived or not, and no turn is removed. -/
structure ThreadCore.Kept (core after : ThreadCore) : Prop where
  archivedAt : after.row.archivedAt = core.row.archivedAt
  turns : ∀ turnId, core.turns.contains turnId = true → after.turns.contains turnId = true

namespace ThreadCore.Kept

theorem refl (core : ThreadCore) : core.Kept core := ⟨rfl, fun _ h => h⟩

theorem insertTurn {core after : ThreadCore} (turnId : String) (turn : TurnRow)
    (hrow : after.row.archivedAt = core.row.archivedAt)
    (hturns : after.turns = core.turns.insert turnId turn) : core.Kept after := by
  refine ⟨hrow, ?_⟩
  intro other hother
  rw [hturns, Std.ExtTreeMap.contains_insert, hother, Bool.or_true]

end ThreadCore.Kept

theorem updateTurn_kept {turnId : String} {status : TurnStatus} {runId : Option String}
    {env : Environment} {core after : ThreadCore}
    (h : updateTurn turnId status runId env core = some after) : core.Kept after := by
  unfold updateTurn at h
  split at h
  · split at h
    · cases h
      exact ThreadCore.Kept.insertTurn _ _ rfl rfl
    · cases h
  · cases h

/-- The rows of a running resume: the turn's may be written, and then the thread's. -/
theorem persistRunningResume_writes (turnId runId : String) (env : Environment)
    (core : ThreadCore) :
    ∃ turns : Table TurnRow,
      (∀ other, core.turns.contains other = true → turns.contains other = true) ∧
        ((persistRunningResume turnId runId env core).1 = { core with turns } ∨
          (persistRunningResume turnId runId env core).1 =
            ThreadCore.setActiveTurn { core with turns } (some turnId) .running) := by
  unfold persistRunningResume
  split
  · exact ⟨core.turns, fun _ h => h, .inl rfl⟩
  · split
    · exact ⟨core.turns, fun _ h => h, .inl rfl⟩
    · rename_i turn _
      by_cases hmarked : turn.status ≠ .running ∨ turn.runId ≠ some runId
      · have hinsert : ∀ other, core.turns.contains other = true →
            (core.turns.insert turnId ⟨.running, some runId⟩).contains other = true := by
          intro other hother
          rw [Std.ExtTreeMap.contains_insert, hother, Bool.or_true]
        simp only [hmarked, true_and, if_true]
        split
        · exact ⟨core.turns, fun _ h => h, .inl rfl⟩
        · split
          · exact ⟨_, hinsert, .inl rfl⟩
          · split
            · exact ⟨_, hinsert, .inr rfl⟩
            · exact ⟨_, hinsert, .inl rfl⟩
      · simp only [hmarked, false_and, if_false]
        split
        · exact ⟨core.turns, fun _ h => h, .inl rfl⟩
        · split
          · exact ⟨core.turns, fun _ h => h, .inr rfl⟩
          · exact ⟨core.turns, fun _ h => h, .inl rfl⟩

theorem persistRunningResume_kept (turnId runId : String) (env : Environment)
    (core : ThreadCore) : core.Kept (persistRunningResume turnId runId env core).1 := by
  obtain ⟨turns, hturns, hcore | hcore⟩ := persistRunningResume_writes turnId runId env core
  · rw [hcore]
    exact ⟨rfl, hturns⟩
  · rw [hcore]
    exact ⟨rfl, hturns⟩

theorem replayTurn_kept (turnId runId : String) (status : TurnStatus) (env : Environment)
    (core : ThreadCore) : core.Kept (replayTurn turnId runId status env core).core := by
  have hpersist : core.Kept (persistReplay turnId runId status env core).1 := by
    unfold persistReplay
    split
    · exact ThreadCore.Kept.refl core
    · split
      · exact ThreadCore.Kept.refl core
      · split
        · exact ThreadCore.Kept.refl core
        · rename_i after hupdate
          obtain ⟨harchived, hturns⟩ := updateTurn_kept hupdate
          split
          · exact ⟨harchived, hturns⟩
          · split
            · exact ⟨harchived, hturns⟩
            · exact ⟨harchived, hturns⟩
  unfold replayTurn
  split
  · rename_i hresult
    rwa [hresult] at hpersist
  · rename_i hresult
    rwa [hresult] at hpersist

theorem resumeTurn_kept (turnId : String) (run : Option Nat) (env : Environment)
    (core : ThreadCore) : core.Kept (resumeTurn turnId run env core).core := by
  unfold resumeTurn
  split
  · exact ⟨rfl, fun _ h => h⟩
  · exact ThreadCore.Kept.refl core
  · exact ThreadCore.Kept.refl core
  · exact ⟨rfl, fun _ h => h⟩
  · exact ThreadCore.Kept.refl core
  · rename_i runId _
    have hpersist := persistRunningResume_kept turnId runId env core
    split
    · rename_i hresult
      rwa [hresult] at hpersist
    · rename_i hresult
      rwa [hresult] at hpersist
  · exact replayTurn_kept _ _ _ _ _
  · exact replayTurn_kept _ _ _ _ _

theorem clearActiveTurn_kept (core : ThreadCore) (turnId : String) :
    core.Kept (core.clearActiveTurn turnId) := by
  unfold ThreadCore.clearActiveTurn
  split <;> exact ⟨rfl, fun _ h => h⟩

theorem clearDurableResume_kept (core : ThreadCore) (turnId : String) :
    core.Kept (core.clearDurableResume turnId) := by
  unfold ThreadCore.clearDurableResume
  split <;> exact ⟨rfl, fun _ h => h⟩

theorem readForStart_core (input : List UserInput) (env : Environment) (core : ThreadCore) :
    (readForStart input env core).core = core := by
  unfold readForStart
  split
  · rfl
  · split
    · rfl
    · split <;> rfl

theorem ThreadTask.segment_kept (task : ThreadTask) (env : Environment) (core : ThreadCore) :
    core.Kept (task.segment env core).core := by
  cases task with
  | startRead input =>
      simp only [ThreadTask.segment, checkForStart]
      split
      · exact ThreadCore.Kept.refl core
      · split
        · exact ThreadCore.Kept.refl core
        · split
          · exact ThreadCore.Kept.refl core
          · exact ThreadCore.Kept.insertTurn _ _ rfl rfl
  | startChecked turnId =>
      simp only [ThreadTask.segment, startRunOfTurn]
      split <;> exact ⟨rfl, fun _ h => h⟩
  | forwarding turnId run =>
      simp only [ThreadTask.segment]
      split
      · exact ThreadCore.Kept.refl core
      · simp only [completeTurn, Segment.goOn]
        cases hupdate : updateTurn turnId env.status env.runId env core with
        | none => exact ThreadCore.Kept.refl core
        | some after => exact updateTurn_kept hupdate
  | completing turnId completed =>
      simp only [ThreadTask.segment, clearTurn, Segment.goOn]
      obtain ⟨harchived, hturns⟩ := clearActiveTurn_kept core turnId
      split
      · exact ⟨harchived, hturns⟩
      · exact ⟨harchived, hturns⟩
  | cleared completed =>
      simp only [ThreadTask.segment, startFollowUp]
      split
      · rw [readForStart_core]
        exact ⟨rfl, fun _ h => h⟩
      · exact ThreadCore.Kept.refl core
  | resumeRead turnId => exact resumeTurn_kept turnId none env core
  | resumeStarted turnId run => exact resumeTurn_kept turnId (some run) env core
  | resumeAdmitted turnId runId run =>
      simp only [ThreadTask.segment, admitResume]
      split
      · exact ThreadCore.Kept.refl core
      · have hpersist := persistRunningResume_kept turnId runId env core
        split
        · rename_i hresult
          rwa [hresult] at hpersist
        · rename_i hresult
          rwa [hresult] at hpersist
  | resumeClearing turnId => exact clearDurableResume_kept core turnId
  | durableWaiting turnId runId run =>
      simp only [ThreadTask.segment]
      split
      · exact ThreadCore.Kept.refl core
      · unfold endDurableResume
        split
        · exact ThreadCore.Kept.refl core
        · exact ThreadCore.Kept.refl core
        · split
          · exact ThreadCore.Kept.refl core
          · rename_i hupdate
            exact updateTurn_kept hupdate
  | durableFailing turnId => exact clearDurableResume_kept core turnId
  | durableCompleting turnId =>
      simp only [ThreadTask.segment, completeDurableResume, Segment.goOn]
      obtain ⟨harchived, hturns⟩ := clearDurableResume_kept core turnId
      split
      · exact ⟨harchived, hturns⟩
      · exact ⟨harchived, hturns⟩
  | followUpRead expectedTurnId input =>
      simp only [ThreadTask.segment, validateFollowUp]
      split
      · exact ThreadCore.Kept.refl core
      · split <;> exact ThreadCore.Kept.refl core
  | startRunning _ _ | startDone _ | resumePersisted _ _ _ | resumeAnnouncing _ _ _
  | followUpChecked _ | finished => exact ⟨rfl, fun _ h => h⟩

/-- How a task goes on: a resume stays with its turn, a background task in the background, and
only a request to resume marks the thread as resumed. -/
structure ThreadTask.GoesOn (task : ThreadTask) (core : ThreadCore) (segment : Segment) : Prop where
  resumes : ∀ turnId, segment.next.resumes = some turnId → task.resumes = some turnId
  background : task.background = true → segment.next.background = true
  spawned : ∀ new, segment.spawned = some new → new.background = true ∧
    ∀ turnId, new.resumes = some turnId → task.resumes = some turnId
  read : ∀ turnId, segment.next ≠ .resumeRead turnId
  clearing : ∀ turnId, segment.next = .resumeClearing turnId →
    segment.core.durableResume = core.durableResume ∧ task.resumes.isSome = true
  durable : task.background = true → core.durableResume = none →
    segment.core.durableResume = none

/-- The task is over, or goes on to a task that resumes nothing. -/
theorem ThreadTask.GoesOn.toPlain {task : ThreadTask} {core : ThreadCore} {segment : Segment}
    (hresumes : segment.next.resumes = none) (hbackground : segment.next.background = true)
    (hspawned : segment.spawned = none)
    (hdurable : core.durableResume = none → segment.core.durableResume = none) :
    task.GoesOn core segment := by
  refine ⟨?_, fun _ => hbackground, ?_, ?_, ?_, fun _ => hdurable⟩
  · intro turnId hturn
    rw [hresumes] at hturn
    cases hturn
  · intro new hnew
    rw [hspawned] at hnew
    cases hnew
  · intro turnId hnext
    rw [hnext] at hresumes
    cases hresumes
  · intro turnId hnext
    rw [hnext] at hbackground
    cases hbackground

theorem replayTurn_goesOn {task : ThreadTask} (hresumes : task.resumes.isSome = true)
    (hbackground : task.background = false) (turnId runId : String) (status : TurnStatus)
    (env : Environment) (core : ThreadCore) :
    task.GoesOn core (replayTurn turnId runId status env core) := by
  have hdurable : (persistReplay turnId runId status env core).1.durableResume =
      core.durableResume := by
    rcases persistReplay_use turnId runId status env core with hsame | hsame
    · exact hsame.2.2.1
    · exact hsame.2.2.1
  have hnot : ∀ {P : Prop}, task.background = true → P := by
    intro P h
    rw [hbackground] at h
    cases h
  unfold replayTurn
  split
  · exact ThreadTask.GoesOn.toPlain rfl rfl rfl (by
      rename_i hresult
      rw [hresult] at hdurable
      exact fun hnone => hdurable.trans hnone)
  · rename_i after hresult
    rw [hresult] at hdurable
    refine ⟨?_, hnot, ?_, ?_, fun _ _ => ⟨hdurable, hresumes⟩, hnot⟩
    · intro _ h
      cases h
    · intro _ h
      cases h
    · intro _ h
      cases h

theorem resumeTurn_goesOn {task : ThreadTask} {turnId : String}
    (hresumes : task.resumes = some turnId) (hbackground : task.background = false)
    (run : Option Nat) (env : Environment) (core : ThreadCore) :
    task.GoesOn core (resumeTurn turnId run env core) := by
  have hnot : ∀ {P : Prop}, task.background = true → P := by
    intro P h
    rw [hbackground] at h
    cases h
  have hsome : task.resumes.isSome = true := by rw [hresumes]; rfl
  have hgoes : ∀ (after : ThreadCore) (next : ThreadTask), next.resumes = some turnId →
      (∀ other, next ≠ .resumeRead other) → task.GoesOn core (Segment.goOn after next) := by
    intro after next hnext hread
    refine ⟨?_, hnot, ?_, hread, ?_, hnot⟩
    · intro other hother
      exact hresumes.trans (hnext.symm.trans hother)
    · intro _ h
      cases h
    · intro other h
      change next = .resumeClearing other at h
      rw [h] at hnext
      cases hnext
  have hover : ∀ segment : Segment, segment.next = .finished → segment.spawned = none →
      task.GoesOn core segment := by
    intro segment hnext hspawned
    refine ⟨?_, hnot, ?_, ?_, ?_, hnot⟩
    · intro _ h
      rw [hnext] at h
      cases h
    · intro _ h
      rw [hspawned] at h
      cases h
    · intro _ h
      rw [hnext] at h
      cases h
    · intro _ h
      rw [hnext] at h
      cases h
  unfold resumeTurn
  split
  · exact hgoes _ _ rfl (by simp)
  · exact hgoes _ _ rfl (by simp)
  · exact hover _ rfl rfl
  · exact hgoes _ _ rfl (by simp)
  · exact hgoes _ _ rfl (by simp)
  · split
    · exact hover _ rfl rfl
    · exact hover _ rfl rfl
  · exact replayTurn_goesOn hsome hbackground _ _ _ _ _
  · exact replayTurn_goesOn hsome hbackground _ _ _ _ _

theorem ThreadTask.segment_goesOn (task : ThreadTask) (env : Environment) (core : ThreadCore) :
    task.GoesOn core (task.segment env core) := by
  cases task with
  | startRead input =>
      simp only [ThreadTask.segment, checkForStart]
      split
      · exact GoesOn.toPlain rfl rfl rfl id
      · split
        · exact GoesOn.toPlain rfl rfl rfl id
        · split
          · exact GoesOn.toPlain rfl rfl rfl id
          · exact GoesOn.toPlain rfl rfl rfl id
  | startChecked turnId =>
      simp only [ThreadTask.segment, startRunOfTurn]
      split
      · exact GoesOn.toPlain rfl rfl rfl id
      · exact GoesOn.toPlain rfl rfl rfl id
  | startRunning turnId run => exact GoesOn.toPlain rfl rfl rfl id
  | startDone turnId =>
      refine ⟨?_, fun _ => rfl, ?_, ?_, ?_, fun _ => id⟩
      · intro _ h
        cases h
      · intro new h
        obtain ⟨active, -, rfl⟩ := Option.map_eq_some_iff.mp h
        exact ⟨rfl, fun _ hnew => by cases hnew⟩
      · intro _ h
        cases h
      · intro _ h
        cases h
  | forwarding turnId run =>
      simp only [ThreadTask.segment]
      split
      · exact GoesOn.toPlain rfl rfl rfl id
      · refine GoesOn.toPlain rfl rfl rfl ?_
        intro hnone
        simp only [completeTurn, Segment.goOn]
        cases hupdate : updateTurn turnId env.status env.runId env core with
        | none => exact hnone
        | some after => exact (updateTurn_sameUse hupdate).2.2.1.trans hnone
  | completing turnId completed =>
      refine GoesOn.toPlain rfl rfl rfl ?_
      intro hnone
      simp only [ThreadTask.segment, clearTurn, Segment.goOn, ThreadCore.clearActiveTurn]
      split <;> split <;> exact hnone
  | cleared completed =>
      simp only [ThreadTask.segment, startFollowUp]
      split
      · unfold readForStart
        split
        · exact GoesOn.toPlain rfl rfl rfl id
        · split
          · exact GoesOn.toPlain rfl rfl rfl id
          · split
            · exact GoesOn.toPlain rfl rfl rfl id
            · exact GoesOn.toPlain rfl rfl rfl id
      · exact GoesOn.toPlain rfl rfl rfl id
  | resumeRead turnId => exact resumeTurn_goesOn rfl rfl none env core
  | resumeStarted turnId run => exact resumeTurn_goesOn rfl rfl (some run) env core
  | resumeAdmitted turnId runId run =>
      simp only [ThreadTask.segment, admitResume]
      split
      · exact GoesOn.toPlain rfl rfl rfl id
      · have hdurable : (persistRunningResume turnId runId env core).1.durableResume =
            core.durableResume := by
          obtain ⟨turns, -, hcore | hcore⟩ := persistRunningResume_writes turnId runId env core
          · rw [hcore]
          · rw [hcore]
            rfl
        split
        · rename_i hresult
          rw [hresult] at hdurable
          exact GoesOn.toPlain rfl rfl rfl fun hnone => hdurable.trans hnone
        · refine ⟨fun _ h => h, ?_, ?_, ?_, ?_, ?_⟩
          · intro h
            cases h
          · intro _ h
            cases h
          · intro _ h
            cases h
          · intro _ h
            cases h
          · intro h
            cases h
  | resumePersisted turnId runId run =>
      refine ⟨fun _ h => h, ?_, ?_, ?_, ?_, ?_⟩
      · intro h
        cases h
      · intro _ h
        cases h
      · intro _ h
        cases h
      · intro _ h
        cases h
      · intro h
        cases h
  | resumeAnnouncing turnId runId run =>
      refine ⟨?_, fun _ => rfl, ?_, ?_, ?_, fun _ => id⟩
      · intro _ h
        cases h
      · intro new h
        cases h
        exact ⟨rfl, fun _ hnew => hnew⟩
      · intro _ h
        cases h
      · intro _ h
        cases h
  | resumeClearing turnId =>
      refine GoesOn.toPlain rfl rfl rfl ?_
      intro hnone
      simp only [ThreadTask.segment, Segment.accept, ThreadCore.clearDurableResume]
      split
      · rfl
      · exact hnone
  | durableWaiting turnId runId run =>
      simp only [ThreadTask.segment]
      split
      · refine ⟨fun _ h => h, fun _ => rfl, ?_, ?_, ?_, fun _ => id⟩
        · intro _ h
          cases h
        · intro _ h
          cases h
        · intro _ h
          cases h
      · unfold endDurableResume
        split
        · exact GoesOn.toPlain rfl rfl rfl id
        · exact GoesOn.toPlain rfl rfl rfl id
        · split
          · exact GoesOn.toPlain rfl rfl rfl id
          · rename_i hupdate
            exact GoesOn.toPlain rfl rfl rfl fun hnone =>
              (updateTurn_sameUse hupdate).2.2.1.trans hnone
  | durableFailing turnId =>
      refine GoesOn.toPlain rfl rfl rfl ?_
      intro hnone
      simp only [ThreadTask.segment, Segment.goOn, ThreadCore.clearDurableResume]
      split
      · rfl
      · exact hnone
  | durableCompleting turnId =>
      refine GoesOn.toPlain rfl rfl rfl ?_
      intro hnone
      simp only [ThreadTask.segment, completeDurableResume, Segment.goOn,
        ThreadCore.clearDurableResume]
      split <;> split <;> first | rfl | exact hnone
  | followUpRead expectedTurnId input =>
      have hnot : ∀ {P : Prop}, (ThreadTask.followUpRead expectedTurnId input).background = true → P := by
        intro P h
        cases h
      simp only [ThreadTask.segment, validateFollowUp]
      split
      · exact GoesOn.toPlain rfl rfl rfl id
      · split
        · exact GoesOn.toPlain rfl rfl rfl id
        · refine ⟨?_, hnot, ?_, ?_, ?_, hnot⟩
          · intro _ h
            cases h
          · intro _ h
            cases h
          · intro _ h
            cases h
          · intro _ h
            cases h
  | followUpChecked input => exact GoesOn.toPlain rfl rfl rfl id
  | finished => exact GoesOn.toPlain rfl rfl rfl id

/-! ### Runs of a thread -/

theorem ThreadTask.Known.mono {task : ThreadTask} {core after : ThreadCore}
    (h : task.Known core) (hkept : core.Kept after) : task.Known after :=
  fun turnId hturn => hkept.turns turnId (h turnId hturn)

namespace ServedThread

/-- A request in flight after a segment: the one that goes on, or one that was there. -/
theorem request_after {thread : ServedThread} {who : Option Nat} {segment : Segment}
    {task : ThreadTask} (h : (thread.after who segment).request = some task) :
    (who = none ∧ task = segment.next) ∨ (who ≠ none ∧ thread.request = some task) := by
  have htask : (thread.after who segment).task? none = some task := h
  rcases task_after htask with ⟨heq, htask⟩ | ⟨hne, hold⟩ | ⟨heq, -⟩
  · exact .inl ⟨heq.symm, htask⟩
  · exact .inr ⟨fun heq => hne heq.symm, hold⟩
  · cases heq

theorem background_after {thread : ServedThread} {who : Option Nat} {segment : Segment}
    (h : ∀ task ∈ thread.tasks, task.background = true)
    (hnext : who ≠ none → segment.next.background = true)
    (hspawned : ∀ new, segment.spawned = some new → new.background = true) :
    ∀ task ∈ (thread.after who segment).tasks, task.background = true := by
  intro task htask
  rcases List.mem_append.mp htask with htask | htask
  · cases who with
    | none => exact h task htask
    | some index =>
        rcases List.mem_or_eq_of_mem_set htask with hold | rfl
        · exact h task hold
        · exact hnext (by simp)
  · exact hspawned task (by simpa using htask)

/-- A resume is told the outcome of a run that is over only where the thread is free. -/
theorem resumeRead_alone {thread : ServedThread} {who : Option Nat} {turnId cleared : String}
    {env : Environment} (htask : thread.task? who = some (.resumeRead turnId))
    (horder : thread.Orderly (.advance who env))
    (hnext : ((ThreadTask.resumeRead turnId).segment env thread.core).next =
      .resumeClearing cleared) : thread.Alone who := by
  have horder := horder _ htask
  simp only [ThreadTask.segment, resumeTurn] at hnext
  cases houtcome : env.outcome with
  | deferredPending runId => simpa only [houtcome] using horder
  | terminalReplay runId status => simpa only [houtcome] using horder
  | begins => simpa only [houtcome] using horder
  | started runId => simpa only [houtcome] using horder
  | failed error =>
      simp only [houtcome] at hnext
      cases hnext
  | existingOwner runId => simp only [houtcome] at horder

theorem Consistent.advance {thread : ServedThread} (h : thread.Consistent) {who : Option Nat}
    {task : ThreadTask} {env : Environment} (htask : thread.task? who = some task)
    (horder : thread.Orderly (.advance who env)) :
    (thread.after who (task.segment env thread.core)).Consistent := by
  have hknown := h.known who task htask
  have hgoes := task.segment_goesOn env thread.core
  have hkept := task.segment_kept env thread.core
  have hbackground : who ≠ none → task.background = true := by
    intro hwho
    cases who with
    | none => exact absurd rfl hwho
    | some index => exact h.background task (List.mem_of_getElem? htask)
  refine ⟨?_, ?_, ?_, ?_, ?_⟩
  · by_cases hoccupies : task.occupies = true
    · exact (Occupancy.occupied h.occupancy htask hoccupies).advance hknown horder
    · refine Occupancy.advanceFree h.occupancy htask (by simpa using hoccupies) horder ?_ ?_
      · rintro turnId rfl
        cases who with
        | none => exact h.unarchived turnId htask
        | some index => cases hbackground (by simp)
      · rintro turnId rfl
        cases who with
        | none => exact h.clearing turnId htask
        | some index => cases hbackground (by simp)
  · exact background_after h.background (fun hwho => hgoes.background (hbackground hwho))
      fun new hnew => (hgoes.spawned new hnew).1
  · intro other task' htask'
    rcases task_after htask' with ⟨-, rfl⟩ | ⟨-, hold⟩ | ⟨-, hnew⟩
    · exact fun turnId hturn => hkept.turns turnId (hknown turnId (hgoes.resumes turnId hturn))
    · exact (h.known other task' hold).mono hkept
    · exact fun turnId hturn =>
        hkept.turns turnId (hknown turnId ((hgoes.spawned task' hnew).2 turnId hturn))
  · intro turnId hrequest
    rcases request_after hrequest with ⟨-, hnext⟩ | ⟨-, hold⟩
    · exact absurd hnext.symm (hgoes.read turnId)
    · exact hkept.archivedAt.trans (h.unarchived turnId hold)
  · intro turnId hrequest
    rcases request_after hrequest with ⟨-, hnext⟩ | ⟨hwho, hold⟩
    · -- The thread was free, or the resume itself occupied it.
      obtain ⟨hdurable, hresumes⟩ := hgoes.clearing turnId hnext.symm
      change (task.segment env thread.core).core.durableResume = none
      rw [hdurable]
      by_cases hoccupies : task.occupies = true
      · have hstands := (Occupancy.occupied h.occupancy htask hoccupies).stands
        cases task with
        | resumeStarted _ _ => exact hstands.2.2.1
        | resumeAdmitted _ _ _ => exact hstands.2.2.1
        | resumePersisted _ _ _ => exact hstands.2.2.1
        | resumeAnnouncing _ _ _ => cases hnext
        | durableWaiting _ _ _ =>
            have hplain := hgoes.background rfl
            rw [← hnext] at hplain
            cases hplain
        | resumeRead _ => cases hoccupies
        | startRead _ | startChecked _ | startRunning _ _ | startDone _ | forwarding _ _
        | completing _ _ | cleared _ | resumeClearing _ | durableFailing _ | durableCompleting _
        | followUpRead _ _ | followUpChecked _ | finished => cases hresumes
      · have hfree : task.occupies = false := by simpa using hoccupies
        have halone : thread.Alone who := by
          cases task with
          | resumeRead resumed => exact resumeRead_alone htask horder hnext.symm
          | resumeStarted _ _ | resumeAdmitted _ _ _ | resumePersisted _ _ _
          | resumeAnnouncing _ _ _ | durableWaiting _ _ _ => cases hfree
          | startRead _ | startChecked _ | startRunning _ _ | startDone _ | forwarding _ _
          | completing _ _ | cleared _ | resumeClearing _ | durableFailing _ | durableCompleting _
          | followUpRead _ _ | followUpChecked _ | finished => cases hresumes
        refine (Occupancy.settled h.occupancy ?_ halone).atRest.2.2.1
        intro held hheld
        rw [htask] at hheld
        cases hheld
        exact hfree
    · exact hgoes.durable (hbackground hwho) (h.clearing turnId hold)

end ServedThread

end VvAgent
