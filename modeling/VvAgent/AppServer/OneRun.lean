import VvAgent.AppServer.Exclusion

/-!
Runs of the App Server's threads. Requests come in, runs end, and the segments of requests and
background tasks come in any order, on any number of threads. What holds between two segments of
an orderly run is `Consistent`; at most one run per thread and the refusal of a second one follow
from it. A follow-up that is let in beside a request is enough for two runs.
-/

namespace VvAgent
open Lib

/-! ### Requests -/

/-- A request that is received: it reads the thread, and only an archive writes it. -/
structure ThreadRequest.Received (core : ThreadCore) (segment : Segment) : Prop where
  core_eq : segment.core = core
  free : segment.next.occupies = false
  spawned : segment.spawned = none
  known : segment.next.Known core
  unarchived : ∀ turnId, segment.next = .resumeRead turnId → core.row.archivedAt = none
  clearing : ∀ turnId, segment.next ≠ .resumeClearing turnId

/-- A request that is answered at once, or goes on to a task that resumes nothing. -/
theorem ThreadRequest.Received.plain {core : ThreadCore} {segment : Segment}
    (hcore : segment.core = core) (hresumes : segment.next.resumes = none)
    (hfree : segment.next.occupies = false) (hspawned : segment.spawned = none)
    (hclearing : ∀ turnId, segment.next ≠ .resumeClearing turnId) :
    ThreadRequest.Received core segment := by
  refine ⟨hcore, hfree, hspawned, ?_, ?_, hclearing⟩
  · intro turnId hturn
    rw [hresumes] at hturn
    cases hturn
  · intro turnId hnext
    rw [hnext] at hresumes
    cases hresumes

theorem refuse_received (core : ThreadCore) (error : AppServerError) :
    ThreadRequest.Received core (Segment.refuse core error) :=
  .plain rfl rfl rfl rfl (by simp [Segment.refuse])

theorem startTurn_received (input : List UserInput) (env : Environment) (core : ThreadCore) :
    ThreadRequest.Received core ((ThreadRequest.startTurn input).segment env core) := by
  simp only [ThreadRequest.segment, readForStart]
  split
  · exact refuse_received core _
  · split
    · exact refuse_received core _
    · split
      · exact refuse_received core _
      · exact .plain rfl rfl rfl rfl (by simp [Segment.goOn])

theorem resumeTurn_received (turnId checkpointKey : String) (env : Environment)
    (core : ThreadCore) :
    ThreadRequest.Received core ((ThreadRequest.resumeTurn turnId checkpointKey).segment env core) := by
  simp only [ThreadRequest.segment]
  split
  · exact refuse_received core _
  · split
    · exact refuse_received core _
    · split
      · exact refuse_received core _
      · split
        · exact refuse_received core _
        · rename_i hlive
          split
          · exact refuse_received core _
          · rename_i hturn
            refine ⟨rfl, rfl, rfl, ?_, ?_, by simp [Segment.goOn]⟩
            · intro resumed hresumed
              obtain rfl : turnId = resumed := Option.some.inj hresumed
              simpa using hturn
            · intro _ _
              simpa using hlive

namespace ServedThread

theorem Consistent.received {thread : ServedThread} (h : thread.Consistent)
    (hidle : thread.request = none) {segment : Segment}
    (hreceived : ThreadRequest.Received thread.core segment) :
    (thread.after none segment).Consistent := by
  obtain ⟨hcore, hfree, hspawned, hknown, hunarchived, hclearing⟩ := hreceived
  have hnone : ∀ task, thread.task? none = some task → task.occupies = false := by
    intro task htask
    rw [task?, hidle] at htask
    cases htask
  have hnew : ∀ new, segment.spawned ≠ some new := by
    intro new
    rw [hspawned]
    simp
  refine ⟨?_, ?_, ?_, ?_, ?_⟩
  · refine Occupancy.pass h.occupancy hnone hfree hspawned ?_
    rw [hcore]
    exact ThreadCore.SameUse.refl _
  · exact background_after h.background (fun hne => absurd rfl hne) fun new hspawn =>
      absurd hspawn (hnew new)
  · intro who task htask
    change task.Known segment.core
    rw [hcore]
    rcases task_after htask with ⟨-, rfl⟩ | ⟨-, hold⟩ | ⟨-, hspawn⟩
    · exact hknown
    · exact h.known who task hold
    · exact absurd hspawn (hnew task)
  · intro turnId hrequest
    change segment.core.row.archivedAt = none
    rw [hcore]
    rcases request_after hrequest with ⟨-, hnext⟩ | ⟨hne, -⟩
    · exact hunarchived turnId hnext.symm
    · exact absurd rfl hne
  · intro turnId hrequest
    rcases request_after hrequest with ⟨-, hnext⟩ | ⟨hne, -⟩
    · exact absurd hnext.symm (hclearing turnId)
    · exact absurd rfl hne

/-- A free thread may be archived. -/
theorem Consistent.archived {thread : ServedThread} (h : thread.Consistent)
    (hfree : ∀ who task, thread.task? who = some task → task.occupies = false) (now : Nat) :
    (thread.after none (Segment.accept (thread.core.archiveThread now))).Consistent := by
  have halone : thread.Alone none := fun other task _ htask => hfree other task htask
  have hrest : (thread.core.archiveThread now).AtRest := by
    obtain ⟨hruns, hactive, hdurable, -, -⟩ :=
      (Occupancy.settled h.occupancy (hfree none) halone).atRest
    exact ⟨hruns, hactive, hdurable, by simp [ThreadCore.archiveThread],
      by simp [ThreadCore.archiveThread]⟩
  have hrequest : ∀ task,
      (thread.after none (Segment.accept (thread.core.archiveThread now))).request ≠ some task := by
    intro task htask
    cases htask
  refine ⟨Occupancy.leave halone rfl rfl hrest, ?_, ?_, ?_, ?_⟩
  · refine background_after h.background (fun hne => absurd rfl hne) ?_
    intro new hnew
    cases hnew
  · intro who task htask
    rcases task_after htask with ⟨-, rfl⟩ | ⟨-, hold⟩ | ⟨-, hnew⟩
    · intro turnId hturn
      cases hturn
    · exact h.known who task hold
    · cases hnew
  · exact fun turnId hturn => absurd hturn (hrequest _)
  · exact fun turnId hturn => absurd hturn (hrequest _)

theorem Consistent.receive {thread : ServedThread} (h : thread.Consistent)
    {request : ThreadRequest} {env : Environment} (hidle : thread.request = none)
    (horder : thread.Orderly (.receive request env)) :
    (thread.after none (request.segment env thread.core)).Consistent := by
  cases request with
  | archive now =>
      simp only [ThreadRequest.segment]
      split
      · exact h.archived horder now
      · exact h.received hidle (refuse_received _ _)
  | startTurn input => exact h.received hidle (startTurn_received input env thread.core)
  | resumeTurn turnId checkpointKey =>
      exact h.received hidle (resumeTurn_received turnId checkpointKey env thread.core)
  | followUp expectedTurnId input =>
      exact h.received hidle (.plain rfl rfl rfl rfl (by simp [ThreadRequest.segment, Segment.goOn]))

/-! ### The end of a run -/

theorem runs_endRun {core : ThreadCore} {turnId : String} {run : Nat} (h : core.Runs turnId run)
    (ended : Nat) : (core.endRun ended).Runs turnId run := by
  rcases h with h | h
  · by_cases hrun : run = ended
    · exact .inr (by simp [ThreadCore.endRun, h, hrun])
    · exact .inl (by simp [ThreadCore.endRun, h, hrun])
  · exact .inr (by simp [ThreadCore.endRun, h])

theorem stands_endRun {task : ThreadTask} {core : ThreadCore} (h : task.Stands core)
    (ended : Nat) : task.Stands (core.endRun ended) := by
  have hnone : core.runs = [] → (core.endRun ended).runs = [] := by
    intro hruns
    simp [ThreadCore.endRun, hruns]
  cases task with
  | startChecked _ => exact ⟨hnone h.1, h.2⟩
  | startRunning _ _ => exact ⟨runs_endRun h.1 ended, h.2⟩
  | startDone _ =>
      obtain ⟨run, hruns, hrest⟩ := h
      exact ⟨run, runs_endRun hruns ended, hrest⟩
  | forwarding _ _ => exact ⟨runs_endRun h.1 ended, h.2⟩
  | completing _ _ => exact ⟨hnone h.1, h.2⟩
  | resumeStarted _ _ => exact ⟨runs_endRun h.1 ended, h.2⟩
  | resumeAdmitted _ _ _ => exact ⟨runs_endRun h.1 ended, h.2⟩
  | resumePersisted _ _ _ => exact ⟨runs_endRun h.1 ended, h.2⟩
  | resumeAnnouncing _ _ _ => exact ⟨runs_endRun h.1 ended, h.2⟩
  | durableWaiting _ _ _ => exact ⟨runs_endRun h.1 ended, h.2⟩
  | durableCompleting _ => exact ⟨hnone h.1, h.2⟩
  | startRead _ | cleared _ | resumeRead _ | resumeClearing _ | durableFailing _
  | followUpRead _ _ | followUpChecked _ | finished => exact h.elim

theorem Consistent.endRun {thread : ServedThread} (h : thread.Consistent) (ended : Nat) :
    ServedThread.Consistent { thread with core := thread.core.endRun ended } := by
  refine ⟨?_, h.background, h.known, h.unarchived, h.clearing⟩
  rcases h.occupancy with hsettled | ⟨who, task, hoccupied⟩
  · obtain ⟨hruns, hrest⟩ := hsettled.atRest
    exact .inl ⟨hsettled.free, by simp [ThreadCore.endRun, hruns], hrest⟩
  · exact .inr ⟨who, task, hoccupied.held, hoccupied.occupies, hoccupied.alone,
      stands_endRun hoccupied.stands ended⟩

/-! ### Steps -/

/-- An orderly event keeps the thread consistent. -/
theorem Consistent.step {event : ThreadEvent} {thread : ServedThread}
    (horder : thread.Orderly event) (h : thread.Consistent) :
    (next ServedThread.step event thread).Consistent := by
  cases event with
  | receive request env =>
      simp only [next, ServedThread.step]
      cases hrequest : thread.request with
      | some task => exact h
      | none => exact h.receive hrequest horder
  | advance who env =>
      simp only [next, ServedThread.step]
      cases htask : thread.task? who with
      | none => exact h
      | some task => exact h.advance htask horder
  | runEnds run => exact h.endRun run

/-- What occupies a quiescent thread waits for its run. -/
theorem Quiescent.waits {thread : ServedThread} (hquiet : thread.Quiescent) {who : Option Nat}
    {task : ThreadTask} (h : thread.Occupied who task) :
    ∃ turnId run, thread.core.runs = [(run, turnId)] ∧ thread.core.Marked turnId := by
  obtain ⟨hidle, htasks⟩ := hquiet
  have hmem : task ∈ thread.tasks := by
    cases who with
    | none =>
        have hheld := h.held
        rw [task?, hidle] at hheld
        cases hheld
    | some index => exact List.mem_of_getElem? h.held
  have hwaits := htasks task hmem
  have hruns : ∀ {turnId : String} {run : Nat}, thread.core.Runs turnId run →
      thread.core.inProgress run = true → thread.core.runs = [(run, turnId)] := by
    intro turnId run hruns hprogress
    refine hruns.resolve_right ?_
    intro hnone
    rw [ThreadCore.inProgress, hnone] at hprogress
    cases hprogress
  have hoccupies := h.occupies
  have hstands := h.stands
  cases task with
  | forwarding turnId run => exact ⟨turnId, run, hruns hstands.1 hwaits, hstands.2.2.2⟩
  | durableWaiting turnId runId run => exact ⟨turnId, run, hruns hstands.1 hwaits, hstands.2.2.2⟩
  | finished => cases hoccupies
  | startRead _ | startChecked _ | startRunning _ _ | startDone _ | completing _ _ | cleared _
  | resumeRead _ | resumeStarted _ _ | resumeAdmitted _ _ _ | resumePersisted _ _ _
  | resumeAnnouncing _ _ _ | resumeClearing _ | durableFailing _ | durableCompleting _
  | followUpRead _ _ | followUpChecked _ => exact hwaits.elim

theorem Stands.oneRun {task : ThreadTask} {core : ThreadCore} (h : task.Stands core) :
    core.runs.length ≤ 1 := by
  have hone : ∀ {turnId : String} {run : Nat}, core.Runs turnId run → core.runs.length ≤ 1 := by
    intro turnId run hruns
    rcases hruns with hruns | hruns <;> simp [hruns]
  have hnone : core.runs = [] → core.runs.length ≤ 1 := by
    intro hruns
    simp [hruns]
  cases task with
  | startChecked _ => exact hnone h.1
  | startRunning _ _ => exact hone h.1
  | startDone _ =>
      obtain ⟨run, hruns, -⟩ := h
      exact hone hruns
  | forwarding _ _ => exact hone h.1
  | completing _ _ => exact hnone h.1
  | resumeStarted _ _ => exact hone h.1
  | resumeAdmitted _ _ _ => exact hone h.1
  | resumePersisted _ _ _ => exact hone h.1
  | resumeAnnouncing _ _ _ => exact hone h.1
  | durableWaiting _ _ _ => exact hone h.1
  | durableCompleting _ => exact hnone h.1
  | startRead _ | cleared _ | resumeRead _ | resumeClearing _ | durableFailing _
  | followUpRead _ _ | followUpChecked _ | finished => exact h.elim

theorem Consistent.exclusive {thread : ServedThread} (h : thread.Consistent) :
    thread.Exclusive := by
  rcases h.occupancy with hsettled | ⟨who, task, hoccupied⟩
  · obtain ⟨hruns, -, -, hstatus, harchived⟩ := hsettled.atRest
    refine ⟨by simp [hruns], ?_, ?_, fun _ => harchived⟩
    · intro _ turnId
      simp [hruns, hstatus]
    · exact fun _ hrunning => absurd hrunning hstatus
  · refine ⟨Stands.oneRun hoccupied.stands, ?_, ?_, ?_⟩
    · intro hquiet turnId
      obtain ⟨running, run, hruns, hstatus, hactive, -⟩ := hquiet.waits hoccupied
      simp [hruns, hstatus, hactive, eq_comm]
    · intro hquiet _
      obtain ⟨running, run, -, -, hactive, -⟩ := hquiet.waits hoccupied
      simp [hactive]
    · intro hquiet
      obtain ⟨running, run, -, hstatus, -, hlive⟩ := hquiet.waits hoccupied
      simp [hstatus, hlive]

/-- Where a thread is consistent, an orderly step lets no second run in. -/
theorem Consistent.refuses {event : ThreadEvent} {thread : ServedThread} (h : thread.Consistent)
    (horder : thread.Orderly event) : thread.Refuses event := by
  cases event with
  | receive request env => trivial
  | runEnds run => trivial
  | advance who env =>
      intro task htask
      have horder := horder task htask
      have hfree : task.occupies = false → thread.Alone who → thread.core.runs = [] := by
        intro hfree halone
        refine (Occupancy.settled h.occupancy ?_ halone).atRest.1
        intro held hheld
        rw [htask] at hheld
        cases hheld
        exact hfree
      have hown : ∀ {turnId : String} {run : Nat}, thread.core.Runs turnId run →
          ¬ ∃ other ∈ thread.core.runs, other.1 ≠ run := by
        rintro turnId run hruns ⟨other, hother, hne⟩
        rcases hruns with hruns | hruns
        · rw [hruns, List.mem_singleton] at hother
          exact hne (by rw [hother])
        · rw [hruns] at hother
          cases hother
      cases task with
      | startRead input =>
          intro refused hruns
          by_cases hactive : thread.core.hasActiveTurn = true
          · refine ⟨.invalidParams "Thread already has an active turn", ?_⟩
            simp [ThreadTask.segment, checkForStart, hactive, Segment.refuse]
          · obtain ⟨halone, -⟩ := horder (by simpa using hactive)
            exact absurd (hfree rfl halone) hruns
      | resumeRead turnId =>
          intro refused hruns
          cases houtcome : env.outcome with
          | failed error =>
              exact ⟨error, by simp [ThreadTask.segment, resumeTurn, houtcome, Segment.refuse]⟩
          | existingOwner runId => simp only [houtcome] at horder
          | begins | started _ | deferredPending _ | terminalReplay _ _ =>
              simp only [houtcome] at horder
              exact absurd (hfree rfl horder) hruns
      | resumeStarted turnId run =>
          intro refused hother
          exact absurd hother (hown (Occupancy.occupied h.occupancy htask rfl).stands.1)
      | resumeAdmitted turnId runId run =>
          intro refused hother
          exact absurd hother (hown (Occupancy.occupied h.occupancy htask rfl).stands.1)
      | startChecked _ | startRunning _ _ | startDone _ | forwarding _ _ | completing _ _
      | cleared _ | resumePersisted _ _ _ | resumeAnnouncing _ _ _ | resumeClearing _
      | durableWaiting _ _ _ | durableFailing _ | durableCompleting _ | followUpRead _ _
      | followUpChecked _ | finished => trivial

/-- A thread that nothing works on. -/
def Idle (thread : ServedThread) : Prop :=
  thread.request = none ∧ thread.tasks = [] ∧ thread.core.AtRest

theorem Idle.consistent {thread : ServedThread} (h : thread.Idle) : thread.Consistent := by
  obtain ⟨hidle, htasks, hrest⟩ := h
  have hnone : ∀ who task, thread.task? who ≠ some task := by
    intro who task htask
    cases who with
    | none =>
        rw [task?, hidle] at htask
        cases htask
    | some index =>
        rw [task?, htasks] at htask
        cases htask
  refine ⟨.inl ⟨fun who task htask => absurd htask (hnone who task), hrest⟩, ?_, ?_, ?_, ?_⟩
  · intro task htask
    rw [htasks] at htask
    cases htask
  · exact fun who task htask => absurd htask (hnone who task)
  · exact fun turnId hrequest => absurd hrequest (hnone none _)
  · exact fun turnId hrequest => absurd hrequest (hnone none _)

end ServedThread

/-! ### The server -/

/-- A step of the server: an event of one of its threads. -/
def serve (event : String × ThreadEvent) (threads : String → ServedThread) :
    String → ServedThread :=
  family (next ServedThread.step) event threads

/-- In a run whose steps are orderly, every thread has one run at a time, and a request that
would begin another one is refused. -/
theorem one_run_per_thread {events : List (String × ThreadEvent)}
    {threads : String → ServedThread} (hidle : ∀ threadId, (threads threadId).Idle)
    (horder : Along serve (fun event threads => (threads event.1).Orderly event.2) events threads) :
    (∀ first rest, events = first ++ rest → ∀ threadId,
      (run serve first threads threadId).Exclusive) ∧
        Along serve (fun event threads => (threads event.1).Refuses event.2) events threads := by
  have hstep : ∀ (event : ThreadEvent) (thread : ServedThread), thread.Orderly event →
      thread.Consistent → (next ServedThread.step event thread).Consistent :=
    fun event thread horder h => h.step horder
  have hconsistent : ∀ threadId, (threads threadId).Consistent :=
    fun threadId => (hidle threadId).consistent
  refine ⟨?_, family_along hstep (fun event thread horder h => h.refuses horder) horder hconsistent⟩
  intro first rest hevents threadId
  exact (family_preserves hstep horder hconsistent first rest hevents threadId).exclusive

namespace ThreadSample

/-- Up to the answer to `turn/start`. -/
def start : List ThreadEvent :=
  [.receive (.startTurn [.str "hello"]) {}, .advance none { turnId := "turn_1" }, .advance none {},
    .advance none {}, .advance none {}]

/-- A follow-up waits for the turn, and the turn is over. -/
def followUp : List ThreadEvent :=
  [.receive (.followUp "turn_1" [.str "more"]) {}, .advance none {}, .advance none {}, .runEnds 0,
    .advance (some 0) {}, .advance (some 0) {}]

/-- The follow-up and another request find the thread free before either has started its run. -/
def race : List ThreadEvent :=
  [.advance (some 0) {}, .receive (.startTurn [.str "again"]) {},
    .advance none { turnId := "turn_2" }, .advance (some 0) { turnId := "turn_3" },
    .advance none {}, .advance (some 0) {}]

def onThread (events : List ThreadEvent) : List (String × ThreadEvent) :=
  events.map fun event => ("thread_1", event)

end ThreadSample

open ThreadSample in
theorem one_run_per_thread_start :
    (run serve (onThread (start.take 3)) (fun _ => {}) "thread_1").Exclusive ∧
      (run serve (onThread (start.take 3)) (fun _ => {}) "thread_1").core.runs =
        [(0, "turn_1")] := by
  refine ⟨(@one_run_per_thread (onThread (start.take 3)) (fun _ => {}) ?_ ?_).1
    (onThread (start.take 3)) [] (List.append_nil _).symm "thread_1", rfl⟩
  · exact fun _ => ⟨rfl, rfl, rfl, rfl, rfl, by decide, by decide⟩
  · refine ⟨trivial, ?_, ?_, trivial⟩
    · intro task htask
      cases htask
      intro _
      refine ⟨?_, rfl⟩
      intro other task hother htask
      cases other with
      | none => exact absurd rfl hother
      | some index => cases htask
    · intro task htask
      cases htask
      rfl

open ThreadSample in
/-- Two runs of one thread are in progress. -/
theorem follow_up_starts_second_run :
    ¬ ∀ (events : List (String × ThreadEvent)) (threadId : String),
      (run serve events (fun _ => {}) threadId).Exclusive ∧
        Along serve (fun event threads => (threads event.1).Refuses event.2) events
          (fun _ => {}) := by
  intro h
  have hone := (h (onThread (start ++ followUp ++ race)) "thread_1").1.oneRun
  have hruns : (run serve (onThread (start ++ followUp ++ race)) (fun _ => {}) "thread_1").core.runs =
      [(1, "turn_2"), (2, "turn_3")] := by
    decide +kernel
  rw [hruns] at hone
  exact absurd hone (by decide)

end VvAgent
