import VvAgent.Json
import VvAgent.Lib.Table

/-!
The threads of the App Server. Everything the server keeps is keyed by the thread, so one
thread is modelled: its row and its turns in the store, the maps in memory, and the runs that
are in progress. Requests and background tasks work on it in segments; a segment is the code
between two awaits. A thread has at most one request in flight, and any number of background
tasks, which forward the events of a run, complete its turn, start the next follow-up or complete
a durable resume.
-/

namespace VvAgent
open Lib

inductive ThreadStatus where
  | idle
  | running
  | interrupted
  | archived
  | closed
  deriving DecidableEq

inductive TurnStatus where
  | queued
  | running
  | completed
  | failed
  | interrupted
  deriving DecidableEq

/-- The row of a thread, by what decides who may use it. -/
structure ThreadRow where
  archivedAt : Option Nat := none
  status : ThreadStatus := .idle
  activeTurnId : Option String := none
  deriving DecidableEq

structure TurnRow where
  status : TurnStatus
  runId : Option String := none
  deriving DecidableEq

abbrev UserInput := Json

/-- A turn in memory, with the handle of its run. -/
structure ActiveTurn where
  turnId : String
  run : Nat
  deriving DecidableEq

/-- The thread as its tasks see it. Runs are numbered in the order in which they were started;
those in progress are listed with their turns. -/
structure ThreadCore where
  row : ThreadRow := {}
  turns : Table TurnRow := ∅
  activeTurn : Option ActiveTurn := none
  durableResume : Option String := none
  followUps : List (List UserInput) := []
  runs : List (Nat × String) := []
  started : Nat := 0

inductive AppServerErrorCode where
  | invalidParams
  | internalError
  | threadArchived
  | activeTurnNotFound
  | turnIdMismatch
  deriving DecidableEq

structure AppServerError where
  code : AppServerErrorCode
  message : String
  deriving DecidableEq

namespace AppServerError

def invalidParams (message : String) : AppServerError := ⟨.invalidParams, message⟩
def internal (message : String) : AppServerError := ⟨.internalError, message⟩
def threadArchived : AppServerError := ⟨.threadArchived, "Thread archived"⟩
def activeTurnNotFound : AppServerError := ⟨.activeTurnNotFound, "Active turn not found"⟩
def turnIdMismatch : AppServerError := ⟨.turnIdMismatch, "Turn id mismatch"⟩

/-- An error of the thread store, without its text. -/
def store : AppServerError := internal "thread store"

end AppServerError

namespace ThreadCore

def hasActiveTurn (core : ThreadCore) : Bool :=
  core.activeTurn.isSome || core.durableResume.isSome

def inProgress (core : ThreadCore) (run : Nat) : Bool := core.runs.any (·.1 == run)

def setActiveTurn (core : ThreadCore) (turnId : Option String) (status : ThreadStatus) :
    ThreadCore :=
  { core with row := { core.row with activeTurnId := turnId, status } }

def archiveThread (core : ThreadCore) (now : Nat) : ThreadCore :=
  { core with row := { core.row with archivedAt := some now, status := .archived } }

/-- The runner starts a run of the turn. -/
def startRun (core : ThreadCore) (turnId : String) : ThreadCore :=
  { core with runs := core.runs ++ [(core.started, turnId)], started := core.started + 1 }

def endRun (core : ThreadCore) (run : Nat) : ThreadCore :=
  { core with runs := core.runs.filter (·.1 != run) }

def clearActiveTurn (core : ThreadCore) (turnId : String) : ThreadCore :=
  if core.activeTurn.any (·.turnId == turnId) then { core with activeTurn := none } else core

def clearDurableResume (core : ThreadCore) (turnId : String) : ThreadCore :=
  if core.durableResume == some turnId then { core with durableResume := none } else core

end ThreadCore

/-- What a provider or the runner answers to a request to resume a turn. A run can begin before
there is an answer. -/
inductive ResumeOutcome where
  | begins
  | failed (error : AppServerError)
  | started (runId : String)
  | existingOwner (runId : String)
  | deferredPending (runId : String)
  | terminalReplay (runId : String) (status : TurnStatus)

inductive DurableCompletion where
  | failed
  | rejected
  | completed (runId : String) (status : TurnStatus)

/-- What a segment meets outside of the thread: the host, the thread store's reads and its
writes to turns and threads, the id of a new turn, and how runs answer. -/
structure Environment where
  hostOk : Bool := true
  readOk : Bool := true
  turnWriteOk : Bool := true
  threadWriteOk : Bool := true
  turnId : String := ""
  runId : Option String := none
  status : TurnStatus := .completed
  outcome : ResumeOutcome := .begins
  completion : DurableCompletion := .failed

/-- A request or a background task, by the segment that comes next. -/
inductive ThreadTask where
  /-- `start_turn` has found the row free. -/
  | startRead (input : List UserInput)
  /-- The turn is created. -/
  | startChecked (turnId : String)
  /-- The run is started and the row says so. -/
  | startRunning (turnId : String) (run : Nat)
  /-- The turn is active in memory. -/
  | startDone (turnId : String)
  | forwarding (turnId : String) (run : Nat)
  | completing (turnId : String) (completed : Bool)
  | cleared (completed : Bool)
  /-- `prepare_turn_resume` asks the provider. -/
  | resumeRead (turnId : String)
  | resumeStarted (turnId : String) (run : Nat)
  | resumeAdmitted (turnId runId : String) (run : Nat)
  | resumePersisted (turnId runId : String) (run : Nat)
  | resumeAnnouncing (turnId runId : String) (run : Nat)
  | resumeClearing (turnId : String)
  | durableWaiting (turnId runId : String) (run : Nat)
  | durableFailing (turnId : String)
  | durableCompleting (turnId : String)
  | followUpRead (expectedTurnId : String) (input : List UserInput)
  | followUpChecked (input : List UserInput)
  | finished

inductive RequestAnswer where
  | accepted
  | refused (error : AppServerError)
  deriving DecidableEq

/-- What a segment does: the thread after it, how its task goes on, a task that it spawns, and
the answer to the client, where the task is a request. -/
structure Segment where
  core : ThreadCore
  next : ThreadTask := .finished
  spawned : Option ThreadTask := none
  answer : Option RequestAnswer := none

namespace Segment

def refuse (core : ThreadCore) (error : AppServerError) : Segment :=
  { core, answer := some (.refused error) }

def accept (core : ThreadCore) : Segment := { core, answer := some .accepted }

def goOn (core : ThreadCore) (next : ThreadTask) : Segment := { core, next }

end Segment

open Segment

/-- The start of `start_turn`: the row of the thread. -/
def readForStart (input : List UserInput) (env : Environment) (core : ThreadCore) : Segment :=
  if !env.readOk then refuse core .store
  else if core.row.archivedAt.isSome then refuse core .threadArchived
  else if core.row.status = .running then
    refuse core (.invalidParams "Thread already has an active turn")
  else goOn core (.startRead input)

def checkForStart (env : Environment) (core : ThreadCore) : Segment :=
  if core.hasActiveTurn then refuse core (.invalidParams "Thread already has an active turn")
  else if !env.hostOk then refuse core (.internal "host")
  else if !env.turnWriteOk || core.turns.contains env.turnId then refuse core .store
  else
    goOn { core with turns := core.turns.insert env.turnId { status := .running } }
      (.startChecked env.turnId)

def startRunOfTurn (turnId : String) (env : Environment) (core : ThreadCore) : Segment :=
  let started := core.startRun turnId
  if env.threadWriteOk then
    goOn (started.setActiveTurn (some turnId) .running) (.startRunning turnId core.started)
  else refuse started .store

/-- The turn row after a run, unless it is missing or the store fails. -/
def updateTurn (turnId : String) (status : TurnStatus) (runId : Option String) (env : Environment)
    (core : ThreadCore) : Option ThreadCore :=
  match core.turns[turnId]? with
  | some turn =>
      if env.turnWriteOk then
        some { core with turns := core.turns.insert turnId ⟨status, runId.or turn.runId⟩ }
      else none
  | none => none

def completeTurn (turnId : String) (env : Environment) (core : ThreadCore) : Segment :=
  goOn ((updateTurn turnId env.status env.runId env core).getD core)
    (.completing turnId (env.status == .completed))

def clearTurn (turnId : String) (completed : Bool) (env : Environment) (core : ThreadCore) :
    Segment :=
  let cleared := core.clearActiveTurn turnId
  goOn (if env.threadWriteOk then cleared.setActiveTurn none .idle else cleared)
    (.cleared completed)

def startFollowUp (completed : Bool) (env : Environment) (core : ThreadCore) : Segment :=
  match completed, core.followUps with
  | true, input :: rest => readForStart input env { core with followUps := rest }
  | _, _ => goOn core .finished

def persistRunningResume (turnId runId : String) (env : Environment) (core : ThreadCore) :
    ThreadCore × Option AppServerError :=
  if !env.readOk then (core, some .store)
  else
    match core.turns[turnId]? with
    | none => (core, some (.invalidParams "Turn not found in thread"))
    | some turn =>
        let marked := turn.status ≠ .running ∨ turn.runId ≠ some runId
        if marked ∧ !env.turnWriteOk then (core, some .store)
        else
          let core := if marked then
              { core with turns := core.turns.insert turnId ⟨.running, some runId⟩ }
            else core
          if core.row.status = .running then (core, none)
          else if env.threadWriteOk then (core.setActiveTurn (some turnId) .running, none)
          else (core, some .store)

/-- `persist_terminal_replay` and `persist_deferred_pending`. -/
def persistReplay (turnId runId : String) (status : TurnStatus) (env : Environment)
    (core : ThreadCore) : ThreadCore × Option AppServerError :=
  if !env.readOk then (core, some .store)
  else if !core.turns.contains turnId then
    (core, some (.invalidParams "Turn not found in thread"))
  else
    match updateTurn turnId status (some runId) env core with
    | none => (core, some .store)
    | some core =>
        if core.row.status = .idle then (core, none)
        else if env.threadWriteOk then (core.setActiveTurn none .idle, none)
        else (core, some .store)

def replayTurn (turnId runId : String) (status : TurnStatus) (env : Environment)
    (core : ThreadCore) : Segment :=
  match persistReplay turnId runId status env core with
  | (core, some error) => refuse core error
  | (core, none) => goOn core (.resumeClearing turnId)

/-- The provider's answer, with the run that it has begun, if there is one. -/
def resumeTurn (turnId : String) (run : Option Nat) (env : Environment) (core : ThreadCore) :
    Segment :=
  match env.outcome, run with
  | .begins, none => goOn (core.startRun turnId) (.resumeStarted turnId core.started)
  | .begins, some run => goOn core (.resumeStarted turnId run)
  | .failed error, _ => refuse core error
  | .started runId, none =>
      goOn (core.startRun turnId) (.resumeAdmitted turnId runId core.started)
  | .started runId, some run => goOn core (.resumeAdmitted turnId runId run)
  | .existingOwner runId, _ =>
      match persistRunningResume turnId runId env core with
      | (core, some error) => refuse core error
      | (core, none) => accept core
  | .deferredPending runId, _ => replayTurn turnId runId .interrupted env core
  | .terminalReplay runId status, _ => replayTurn turnId runId status env core

def admitResume (turnId runId : String) (run : Nat) (env : Environment) (core : ThreadCore) :
    Segment :=
  if core.hasActiveTurn then
    refuse core (.internal "durable resume provider started a second local owner")
  else
    match persistRunningResume turnId runId env core with
    | (core, some error) => refuse core error
    | (core, none) => goOn core (.resumePersisted turnId runId run)

def endDurableResume (turnId : String) (env : Environment) (core : ThreadCore) : Segment :=
  match env.completion with
  | .failed => goOn core (.durableFailing turnId)
  | .rejected => goOn core .finished
  | .completed runId status =>
      match updateTurn turnId status (some runId) env core with
      | none => goOn core .finished
      | some core => goOn core (.durableCompleting turnId)

def completeDurableResume (turnId : String) (env : Environment) (core : ThreadCore) : Segment :=
  let cleared := core.clearDurableResume turnId
  goOn (if env.threadWriteOk then cleared.setActiveTurn none .idle else cleared) .finished

def validateFollowUp (expectedTurnId : String) (input : List UserInput) (core : ThreadCore) :
    Segment :=
  match core.activeTurn with
  | none => refuse core .activeTurnNotFound
  | some active =>
      if expectedTurnId ≠ "" ∧ active.turnId ≠ expectedTurnId then refuse core .turnIdMismatch
      else goOn core (.followUpChecked input)

/-- The next segment of a task. A task that waits for a run stays where it is as long as the
run is in progress. -/
def ThreadTask.segment (task : ThreadTask) (env : Environment) (core : ThreadCore) : Segment :=
  match task with
  | .startRead _ => checkForStart env core
  | .startChecked turnId => startRunOfTurn turnId env core
  | .startRunning turnId run => goOn { core with activeTurn := some ⟨turnId, run⟩ } (.startDone turnId)
  | .startDone turnId =>
      { accept core with spawned := core.activeTurn.map fun active => .forwarding turnId active.run }
  | .forwarding turnId run =>
      if core.inProgress run then goOn core task else completeTurn turnId env core
  | .completing turnId completed => clearTurn turnId completed env core
  | .cleared completed => startFollowUp completed env core
  | .resumeRead turnId => resumeTurn turnId none env core
  | .resumeStarted turnId run => resumeTurn turnId (some run) env core
  | .resumeAdmitted turnId runId run => admitResume turnId runId run env core
  | .resumePersisted turnId runId run =>
      goOn { core with durableResume := some turnId } (.resumeAnnouncing turnId runId run)
  | .resumeAnnouncing turnId runId run =>
      { accept core with spawned := some (.durableWaiting turnId runId run) }
  | .resumeClearing turnId => accept (core.clearDurableResume turnId)
  | .durableWaiting turnId _ run =>
      if core.inProgress run then goOn core task else endDurableResume turnId env core
  | .durableFailing turnId => goOn (core.clearDurableResume turnId) .finished
  | .durableCompleting turnId => completeDurableResume turnId env core
  | .followUpRead expectedTurnId input => validateFollowUp expectedTurnId input core
  | .followUpChecked input => accept { core with followUps := core.followUps ++ [input] }
  | .finished => goOn core .finished

inductive ThreadRequest where
  | archive (now : Nat)
  | startTurn (input : List UserInput)
  | resumeTurn (turnId checkpointKey : String)
  | followUp (expectedTurnId : String) (input : List UserInput)

def maxCheckpointKeyLength : Nat := 512

/-- The first segment of a request. -/
def ThreadRequest.segment (request : ThreadRequest) (env : Environment) (core : ThreadCore) :
    Segment :=
  match request with
  | .archive now =>
      if env.readOk && env.threadWriteOk then accept (core.archiveThread now) else refuse core .store
  | .startTurn input => readForStart input env core
  | .resumeTurn turnId checkpointKey =>
      if turnId.isEmpty || checkpointKey.isEmpty then
        refuse core (.invalidParams "threadId, turnId, and checkpointKey must not be empty")
      else if maxCheckpointKeyLength < checkpointKey.utf8ByteSize then
        refuse core (.invalidParams "checkpointKey exceeds the 512-byte checkpoint limit")
      else if !env.readOk then refuse core .store
      else if core.row.archivedAt.isSome then refuse core .threadArchived
      else if !core.turns.contains turnId then
        refuse core (.invalidParams "Turn not found in thread")
      else goOn core (.resumeRead turnId)
  | .followUp expectedTurnId input => goOn core (.followUpRead expectedTurnId input)

/-- A thread with the tasks that work on it. -/
structure ServedThread where
  core : ThreadCore := {}
  request : Option ThreadTask := none
  tasks : List ThreadTask := []

inductive ThreadEvent where
  | receive (request : ThreadRequest) (env : Environment)
  /-- The request's next segment, or that of a background task. -/
  | advance (who : Option Nat) (env : Environment)
  | runEnds (run : Nat)

namespace ServedThread

def task? (thread : ServedThread) : Option Nat → Option ThreadTask
  | none => thread.request
  | some index => thread.tasks[index]?

/-- The background tasks with the one at `who`, if it is one, replaced. -/
def replaceTask (tasks : List ThreadTask) (who : Option Nat) (next : ThreadTask) :
    List ThreadTask :=
  match who with
  | none => tasks
  | some index => tasks.set index next

/-- The thread after a segment of a task. -/
def after (thread : ServedThread) (who : Option Nat) (segment : Segment) : ServedThread where
  core := segment.core
  request :=
    match who with
    | none => if segment.next matches .finished then none else some segment.next
    | some _ => thread.request
  tasks := replaceTask thread.tasks who segment.next ++ segment.spawned.toList

/-- One step, with the answer that it sends to a client. A request waits until the one before
it is over. -/
def step (event : ThreadEvent) (thread : ServedThread) : Option RequestAnswer × ServedThread :=
  match event with
  | .receive request env =>
      match thread.request with
      | some _ => (none, thread)
      | none =>
          let segment := request.segment env thread.core
          (segment.answer, thread.after none segment)
  | .advance who env =>
      match thread.task? who with
      | none => (none, thread)
      | some task =>
          let segment := task.segment env thread.core
          (if who.isNone then segment.answer else none, thread.after who segment)
  | .runEnds run => (none, { thread with core := thread.core.endRun run })

end ServedThread

end VvAgent
