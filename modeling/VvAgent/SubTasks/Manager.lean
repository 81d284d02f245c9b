import Mathlib.Data.List.DropRight
import Mathlib.Logic.Function.Basic
import VvAgent.Events
import VvAgent.Lib.Run

/-!
The manager of sub-tasks. Every sub-task has a record; threads work on it under one lock: callers
of the manager, workers that were started by `submit` or `continue_task`, and the listeners of
sessions. A step is what one of them does while it holds the lock. Sessions are known by their
identity, and so are workspace backends.
-/

namespace VvAgent
open Lib

/-- How a JSON value is written into a preview. -/
class JsonDisplay where
  display : Json → String

abbrev SessionRef := Nat

abbrev BackendRef := Nat

structure SubTaskOutcome where
  taskId : String
  agentName : String
  status : AgentStatus
  sessionId : Option String := none
  finalAnswer : Option String := none
  waitReason : Option String := none
  error : Option String := none
  errorCode : Option String := none
  completionReason : Option CompletionReason := none
  completionToolName : Option String := none
  partialOutput : Option String := none
  cycles : Nat := 0
  todoList : List Json := []
  resolved : Table String := ∅

structure SubTaskLineage where
  parentRunId : Option String := none
  parentToolCallId : Option String := none

structure ManagedSubAgentSession where
  session : SessionRef
  initialLineage : SubTaskLineage

/-- The record of a sub-task. Its handle names the worker that was started last. -/
structure ManagedSubTask where
  taskId : String
  sessionId : String
  agentName : String
  taskTitle : String := ""
  workspaceBackend : Option BackendRef := none
  session : Option ManagedSubAgentSession := none
  outcome : Option SubTaskOutcome := none
  resolved : Table String := ∅
  currentCycleIndex : Option Nat := none
  recentActivity : Option String := none
  latestCycle : Option Json := none
  latestToolCall : Option Json := none
  parentRunId : Option String := none
  parentToolCallId : Option String := none
  running : Bool := false
  workerOwnedRun : Bool := false
  handle : Option Nat := none
  updatedAt : String
  sessionGeneration : Nat := 0
  managerListenerGeneration : Option Nat := none

/-! ### Texts -/

def trimPortableWhitespace (value : String) : String :=
  let blank (c : Char) : Bool := isWhitespace c || (0x1C ≤ c.toNat && c.toNat ≤ 0x1F)
  String.ofList ((value.toList.dropWhile blank).rdropWhile blank)

def trimText (value : String) : List Char :=
  (value.toList.dropWhile isWhitespace).rdropWhile isWhitespace

def previewLimit : Nat := 240

section
variable [JsonDisplay]

def previewText : Option Json → Option String
  | none | some .null => none
  | some value =>
      let text :=
        match value with
        | .str text => trimText text
        | other => trimText (JsonDisplay.display other)
      if text = [] then none
      else if text.length ≤ previewLimit then some (String.ofList text)
      else some (String.ofList ((text.take (previewLimit - 3)).rdropWhile isWhitespace) ++ "...")

end

def payloadU32 (payload : JsonObject) (key : String) : Option Nat :=
  match payload.lookup key with
  | some (.num (.posInt value)) => if value < UInt32.size then some value else none
  | _ => none

def normalizeFailedOutcome (outcome : SubTaskOutcome) : SubTaskOutcome :=
  if outcome.status = .failed ∧ outcome.errorCode.all isBlank then
    { outcome with errorCode := some "sub_task_failed" }
  else outcome

/-! ### The record -/

/-- What a continuation replaces in the record, to be put back when it cannot start. -/
structure ContinuationAdmissionState where
  taskTitle : String
  outcome : Option SubTaskOutcome
  recentActivity : Option String
  parentRunId : Option String
  parentToolCallId : Option String
  running : Bool
  workerOwnedRun : Bool
  updatedAt : String

namespace ManagedSubTask

def setLatestCycleStatus (record : ManagedSubTask) (status : String) : ManagedSubTask :=
  let latestCycle :=
    match record.latestCycle with
    | some (.obj members) => members
    | _ => []
  let latestCycle := insertMember "status" (.str status) latestCycle
  let latestCycle :=
    match record.currentCycleIndex, latestCycle.lookup "cycle_index" with
    | some index, none => insertMember "cycle_index" (.num (.posInt index)) latestCycle
    | _, _ => latestCycle
  { record with latestCycle := some (.obj latestCycle) }

def markTerminalState (record : ManagedSubTask) (status : String) (detail : Option String) :
    ManagedSubTask :=
  let record := record.setLatestCycleStatus status
  { record with recentActivity := detail.or record.recentActivity }

def updateFromOutcome [JsonDisplay] (record : ManagedSubTask) (outcome : SubTaskOutcome) :
    ManagedSubTask :=
  let record :=
    if 0 < outcome.cycles then { record with currentCycleIndex := some outcome.cycles } else record
  let record := record.setLatestCycleStatus outcome.status.asStr
  let detail := (outcome.finalAnswer.or (outcome.waitReason.or outcome.error)).map Json.str
  { record with recentActivity := (previewText detail).or record.recentActivity }

def admissionState (record : ManagedSubTask) : ContinuationAdmissionState where
  taskTitle := record.taskTitle
  outcome := record.outcome
  recentActivity := record.recentActivity
  parentRunId := record.parentRunId
  parentToolCallId := record.parentToolCallId
  running := record.running
  workerOwnedRun := record.workerOwnedRun
  updatedAt := record.updatedAt

def admitContinuation (record : ManagedSubTask) (prompt : String) (lineage : SubTaskLineage)
    (updatedAt : String) : ManagedSubTask :=
  { record with
    taskTitle := prompt
    outcome := none
    recentActivity := some prompt
    parentRunId := lineage.parentRunId
    parentToolCallId := lineage.parentToolCallId
    running := true
    workerOwnedRun := true
    updatedAt }

def rollbackContinuation (record : ManagedSubTask) (previous : ContinuationAdmissionState) :
    ManagedSubTask :=
  { record with
    taskTitle := previous.taskTitle
    outcome := previous.outcome
    recentActivity := previous.recentActivity
    parentRunId := previous.parentRunId
    parentToolCallId := previous.parentToolCallId
    running := previous.running
    workerOwnedRun := previous.workerOwnedRun
    handle := none
    updatedAt := previous.updatedAt }

/-- `handle_session_event`, once the generation is found to be the record's. -/
def handleSessionEvent [JsonDisplay] (record : ManagedSubTask) (event : String)
    (payload : JsonObject) (now : String) : ManagedSubTask :=
  let record := { record with updatedAt := now }
  let preview (key : String) := previewText (payload.lookup key)
  match event with
  | "session_run_start" =>
      let record := { record with running := true, outcome := none }
      match preview "prompt" with
      | some prompt => { record with taskTitle := prompt, recentActivity := some prompt }
      | none => record
  | "cycle_started" =>
      match payloadU32 payload "cycle" with
      | some index =>
          { record with
            currentCycleIndex := some index
            latestCycle := some (.obj
              [("cycle_index", .num (.posInt index)), ("status", .str "processing")]) }
      | none => record
  | "cycle_llm_response" =>
      let currentCycleIndex := (payloadU32 payload "cycle").or record.currentCycleIndex
      let assistantPreview :=
        previewText ((payload.lookup "assistant_preview").or (payload.lookup "assistant_message"))
      let latestCycle := insertMembers [] [("status", some (.str "processing")),
        ("cycle_index", currentCycleIndex.map fun index => .num (.posInt index)),
        ("assistant_preview", assistantPreview.map .str)]
      { record with
        currentCycleIndex
        latestCycle := some (.obj latestCycle)
        recentActivity := assistantPreview.or record.recentActivity }
  | "tool_result" =>
      let latestToolCall := Json.obj
        [("name", (payload.lookup "tool_name").getD .null),
          ("status", ((preview "status").map .str).getD .null),
          ("tool_call_id", (payload.lookup "tool_call_id").getD .null)]
      { record with
        latestToolCall := some latestToolCall
        recentActivity := record.recentActivity.or (preview "tool_name") }
  | "run_completed" => record.markTerminalState "completed" (preview "final_answer")
  | "run_wait_user" => record.markTerminalState "wait_user" (preview "wait_reason")
  | "run_max_cycles" =>
      record.markTerminalState "max_cycles"
        (previewText ((payload.lookup "final_answer").or (payload.lookup "error")))
  | "cycle_failed" => record.markTerminalState "failed" (preview "error")
  | "session_run_end" =>
      let record :=
        match preview "status" with
        | some status => record.setLatestCycleStatus status
        | none => record
      let detail := (preview "final_answer").or ((preview "wait_reason").or (preview "error"))
      { record with recentActivity := detail.or record.recentActivity }
  | _ => record

end ManagedSubTask

/-! ### The registry of sessions -/

/-- The sessions that take steering and follow-ups, by their ids. -/
abbrev SessionRegistry := Table SessionRef

namespace SessionRegistry

def register (registry : SessionRegistry) (sessionId : String) (session : SessionRef) :
    SessionRegistry :=
  let key := String.ofList (trimText sessionId)
  if key = "" then registry else registry.insert key session

def find (registry : SessionRegistry) (sessionId : String) : Option SessionRef :=
  let key := String.ofList (trimText sessionId)
  if key = "" then none else registry[key]?

/-- The entry goes if it is the session's. -/
def unregisterIfMatches (registry : SessionRegistry) (sessionId : String) (session : SessionRef) :
    Bool × SessionRegistry :=
  if registry.find sessionId = some session then
    (true, registry.erase (String.ofList (trimText sessionId)))
  else (false, registry)

end SessionRegistry

/-- A registration that a continuation holds until its worker is started. -/
structure ContinuationRegistration where
  sessionId : String
  session : SessionRef
  previous : Option SessionRef

namespace ContinuationRegistration

def register (registry : SessionRegistry) (sessionId : String) (session : SessionRef) :
    ContinuationRegistration × SessionRegistry :=
  (⟨sessionId, session, registry.find sessionId⟩, registry.register sessionId session)

/-- What happens to a registration that was not committed. -/
def drop (registration : ContinuationRegistration) (registry : SessionRegistry) :
    SessionRegistry :=
  match registry.unregisterIfMatches registration.sessionId registration.session,
    registration.previous with
  | (true, after), some previous => after.register registration.sessionId previous
  | (_, after), _ => after

end ContinuationRegistration

/-! ### The threads at work -/

/-- What a worker of `continue_task` has captured. -/
structure ContinuedRun where
  session : SessionRef
  sessionGeneration : Nat
  sessionId : String
  agentName : String
  resolved : Table String

/-- A thread that was started for the sub-task; the run of `submit` captures nothing here. -/
structure SubTaskWorker where
  id : Nat
  continued : Option ContinuedRun

/-- A call of `continue_task` after its admission, with the record that it found. -/
structure ContinuationCall where
  id : Nat
  prompt : String
  captured : ContinuedRun
  previous : ContinuationAdmissionState
  registration : ContinuationRegistration
  found : ManagedSubTask
  lineage : SubTaskLineage
  admittedAt : String

/-- A sub-task and the threads that are at work for it. Calls that have failed still hold their
registration, and workers that have ended still have theirs to take back. Runs of attached
sessions are those that `attach_running_session` has announced and no outcome has ended;
`lastOutcome` is the outcome of the run that has ended last. -/
structure SubTask where
  record : Option ManagedSubTask := none
  workers : List SubTaskWorker := []
  calls : List ContinuationCall := []
  failed : List (ContinuationRegistration × String) := []
  leaving : List (Nat × String × SessionRef) := []
  subscribing : List (Nat × SessionRef) := []
  listeners : List (Nat × SessionRef) := []
  attachedRuns : List SessionRef := []
  lastOutcome : Option SubTaskOutcome := none
  started : Nat := 0

inductive SubTaskSubmitError where
  | alreadyRunning (taskId : String)
  | spawnFailed (taskId error : String)

structure SubTaskSubmission where
  sessionId : String
  agentName : String
  taskTitle : String
  workspaceBackend : Option BackendRef
  lineage : SubTaskLineage

structure SubTaskSessionAttachment where
  sessionId : String
  agentName : String
  taskTitle : String
  workspaceBackend : BackendRef
  session : SessionRef
  resolved : Table String

/-- An outcome for a run that has returned an error or panicked. -/
def failedOutcome (taskId agentName sessionId error : String) (resolved : Table String) :
    SubTaskOutcome where
  taskId := taskId
  agentName := agentName
  status := .failed
  sessionId := some sessionId
  error := some error
  errorCode := some "sub_task_failed"
  completionReason := some .failed
  resolved := resolved

namespace SubTask

/-- `submit_with_context_detailed`. The record is replaced and the worker started under one lock;
a thread that cannot be started puts the record back. -/
def submit (task : SubTask) (taskId : String) (submission : SubTaskSubmission) (now : String)
    (spawnFailure : Option String) : Except SubTaskSubmitError Unit × SubTask :=
  if task.record.any (·.running) then (.error (.alreadyRunning taskId), task)
  else
    match spawnFailure with
    | some error => (.error (.spawnFailed taskId error), task)
    | none =>
        let record : ManagedSubTask :=
          { taskId
            sessionId := submission.sessionId
            agentName := submission.agentName
            taskTitle := submission.taskTitle
            workspaceBackend := submission.workspaceBackend
            parentRunId := submission.lineage.parentRunId
            parentToolCallId := submission.lineage.parentToolCallId
            running := true
            workerOwnedRun := true
            handle := some task.started
            updatedAt := now }
        (.ok (),
          { task with
            record := some record
            workers := task.workers ++ [⟨task.started, none⟩]
            started := task.started + 1 })

section
variable [JsonDisplay]

/-- The end of a worker that `submit` has started. -/
def submittedEnds (task : SubTask) (id : Nat) (result : Except String SubTaskOutcome)
    (now : String) : SubTask :=
  let task := { task with workers := task.workers.filter (·.id != id) }
  match task.record with
  | none => task
  | some record =>
      let outcome := normalizeFailedOutcome <|
        match result with
        | .ok outcome => outcome
        | .error panic =>
            failedOutcome record.taskId record.agentName record.sessionId panic record.resolved
      let record :=
        if outcome.resolved.isEmpty then record else { record with resolved := outcome.resolved }
      let record := record.updateFromOutcome outcome
      { task with
        record := some { record with
          outcome := some outcome
          updatedAt := now
          running := false
          workerOwnedRun := false }
        lastOutcome := some outcome }

/-- The end of a worker that `continue_task` has started. The record is left alone when it has
gone on to another session. -/
def continuedEnds (task : SubTask) (taskId : String) (id : Nat) (run : ContinuedRun)
    (result : Except String SubTaskOutcome) (now : String) : SubTask :=
  let outcome := normalizeFailedOutcome <|
    match result with
    | .ok outcome => outcome
    | .error error => failedOutcome taskId run.agentName run.sessionId error run.resolved
  let task :=
    { task with
      workers := task.workers.filter (·.id != id)
      leaving := task.leaving ++ [(id, run.sessionId, run.session)]
      lastOutcome := some outcome }
  match task.record with
  | none => task
  | some record =>
      if record.sessionGeneration = run.sessionGeneration ∧
          record.session.any (·.session == run.session) then
        let outcome :=
          if outcome.resolved.isEmpty then { outcome with resolved := record.resolved }
          else outcome
        let record :=
          { record with
            sessionId := outcome.sessionId.getD record.sessionId
            agentName := outcome.agentName }
        let record := record.updateFromOutcome outcome
        { task with
          record := some { record with
            outcome := some outcome
            running := false
            workerOwnedRun := false
            updatedAt := now } }
      else task

/-- `record_outcome_with_context`. A run that a worker owns is left to the worker. -/
def recordOutcome (task : SubTask) (taskId : String) (run : Option SessionRef)
    (outcome : SubTaskOutcome) (workspaceBackend : Option BackendRef) (lineage : SubTaskLineage)
    (now : String) : SubTask :=
  let outcome := normalizeFailedOutcome outcome
  let task :=
    { task with attachedRuns := run.elim task.attachedRuns fun run => task.attachedRuns.erase run }
  match task.record with
  | some record =>
      let record :=
        { record with
          workspaceBackend := workspaceBackend.or record.workspaceBackend
          parentRunId := lineage.parentRunId.or record.parentRunId
          parentToolCallId := lineage.parentToolCallId.or record.parentToolCallId
          sessionId := outcome.sessionId.getD record.sessionId
          agentName := outcome.agentName
          resolved := if outcome.resolved.isEmpty then record.resolved else outcome.resolved
          updatedAt := now }
      if record.running && record.workerOwnedRun then { task with record := some record }
      else
        let record := { record with running := false, workerOwnedRun := false }
        { task with
          record := some { record.updateFromOutcome outcome with outcome := some outcome }
          lastOutcome := some outcome }
  | none =>
      let record : ManagedSubTask :=
        { taskId
          sessionId := outcome.sessionId.getD ""
          agentName := outcome.agentName
          workspaceBackend
          resolved := outcome.resolved
          parentRunId := lineage.parentRunId
          parentToolCallId := lineage.parentToolCallId
          updatedAt := now }
      { task with
        record := some { record.updateFromOutcome outcome with outcome := some outcome }
        lastOutcome := some outcome }

/-- An event from a listener: the generation that it was made for decides. -/
def sessionEvent (task : SubTask) (generation : Nat) (event : String) (payload : JsonObject)
    (now : String) : SubTask :=
  match task.record with
  | none => task
  | some record =>
      if record.sessionGeneration = generation then
        { task with record := some (record.handleSessionEvent event payload now) }
      else task

end

/-- `attach_session_inner` up to the subscription. -/
def attach (task : SubTask) (taskId : String) (attachment : SubTaskSessionAttachment)
    (lineage : SubTaskLineage) (running : Bool) (now : String) : SubTask :=
  let task :=
    if running then { task with attachedRuns := task.attachedRuns ++ [attachment.session] }
    else task
  match task.record with
  | some record =>
      let initialLineage : SubTaskLineage :=
        (record.session.map (·.initialLineage)).getD
          { parentRunId := lineage.parentRunId.or record.parentRunId
            parentToolCallId := lineage.parentToolCallId.or record.parentToolCallId }
      let sessionChanged := record.session.all (·.session != attachment.session)
      let generation :=
        if sessionChanged then max (min (record.sessionGeneration + 1) (UInt64.size - 1)) 1
        else max record.sessionGeneration 1
      let record :=
        { record with
          sessionGeneration := generation
          managerListenerGeneration :=
            if sessionChanged then none else record.managerListenerGeneration
          sessionId := attachment.sessionId
          agentName := attachment.agentName
          taskTitle := if attachment.taskTitle = "" then record.taskTitle else attachment.taskTitle
          workspaceBackend := some attachment.workspaceBackend
          session := some ⟨attachment.session, initialLineage⟩
          resolved := if attachment.resolved.isEmpty then record.resolved else attachment.resolved
          parentRunId := lineage.parentRunId.or record.parentRunId
          parentToolCallId := lineage.parentToolCallId.or record.parentToolCallId
          running := running || record.running
          outcome := if running then none else record.outcome
          updatedAt := now }
      { task with
        record := some record
        subscribing :=
          if record.managerListenerGeneration = some generation then task.subscribing
          else task.subscribing ++ [(generation, attachment.session)] }
  | none =>
      let record : ManagedSubTask :=
        { taskId
          sessionId := attachment.sessionId
          agentName := attachment.agentName
          taskTitle := attachment.taskTitle
          workspaceBackend := some attachment.workspaceBackend
          session := some ⟨attachment.session, lineage⟩
          resolved := attachment.resolved
          parentRunId := lineage.parentRunId
          parentToolCallId := lineage.parentToolCallId
          running
          updatedAt := now
          sessionGeneration := 1 }
      { task with
        record := some record, subscribing := task.subscribing ++ [(1, attachment.session)] }

/-- The listener is subscribed, and noted in the record if that has not gone on. -/
def subscribed (task : SubTask) (generation : Nat) (session : SessionRef) : SubTask :=
  let task :=
    { task with
      subscribing := task.subscribing.erase (generation, session)
      listeners := task.listeners ++ [(generation, session)] }
  match task.record with
  | none => task
  | some record =>
      if record.session.any (·.session == session) ∧ record.sessionGeneration = generation then
        { task with
          record := some { record with managerListenerGeneration := some generation } }
      else task

/-- The first part of `continue_task_inner`: the checks and the admission. -/
def continueTask (task : SubTask) (registry : SessionRegistry) (taskId prompt : String)
    (snapshot : Option SubTaskLineage) (now : String) :
    Except String Unit × SubTask × SessionRegistry :=
  let prompt := trimPortableWhitespace prompt
  let refused (message : String) : Except String Unit × SubTask × SessionRegistry :=
    (.error message, task, registry)
  if prompt = "" then refused "Follow-up prompt cannot be empty."
  else
    match task.record with
    | none => refused ("Sub-task " ++ taskId ++ " not found.")
    | some record =>
        if record.running then refused ("Sub-task " ++ taskId ++ " is already running.")
        else if record.outcome.any (·.status == .maxCycles) then
          refused ("Sub-task " ++ taskId ++ " reached max cycles and cannot continue.")
        else if isBlank record.sessionId then
          refused ("Sub-task " ++ taskId ++ " session is not attached.")
        else
          match record.session with
          | none => refused ("Sub-task " ++ taskId ++ " session is not attached.")
          | some session =>
              let lineage := snapshot.getD session.initialLineage
              let (registration, registered) :=
                ContinuationRegistration.register registry record.sessionId session.session
              let call : ContinuationCall :=
                { id := task.started
                  prompt
                  captured :=
                    { session := session.session
                      sessionGeneration := record.sessionGeneration
                      sessionId := record.sessionId
                      agentName := record.agentName
                      resolved := record.resolved }
                  previous := record.admissionState
                  registration
                  found := record
                  lineage
                  admittedAt := now }
              (.ok (),
                { task with
                  record := some (record.admitContinuation prompt lineage now)
                  calls := task.calls ++ [call]
                  started := task.started + 1 },
                registered)

/-- The sanitizer has panicked or the thread could not be started: the admission is taken back. -/
def rollback (task : SubTask) (call : ContinuationCall) (error : String) : SubTask :=
  { task with
    record := task.record.map (·.rollbackContinuation call.previous)
    calls := task.calls.filter (·.id != call.id)
    failed := task.failed ++ [(call.registration, error)] }

/-- The worker of a continuation is started. -/
def startContinued (task : SubTask) (call : ContinuationCall) (now : String) : SubTask :=
  { task with
    record := task.record.map fun record => { record with handle := some call.id, updatedAt := now }
    calls := task.calls.filter (·.id != call.id)
    workers := task.workers ++ [⟨call.id, some call.captured⟩] }

/-- `join_finished_tasks`, for this record. -/
def joinFinished (task : SubTask) : SubTask :=
  { task with
    record := task.record.map fun record =>
      if record.handle.any fun id =>
          task.workers.all (·.id != id) && task.leaving.all (·.1 != id) then
        { record with handle := none }
      else record }

end SubTask

/-! ### The machine -/

/-- What a thread does for one sub-task while it holds the lock. Results of runs, failures of the
platform and the clock come from outside. -/
inductive SubTaskEvent where
  | submit (submission : SubTaskSubmission) (now : String) (spawnFailure : Option String)
  | submittedEnds (id : Nat) (result : Except String SubTaskOutcome) (now : String)
  | attach (attachment : SubTaskSessionAttachment) (lineage : SubTaskLineage) (running : Bool)
      (now : String)
  | subscribed (generation : Nat) (session : SessionRef)
  | continueTask (prompt : String) (snapshot : Option SubTaskLineage) (now : String)
  | rollback (id : Nat) (error : String)
  | dropRegistration (index : Nat)
  | startContinued (id : Nat) (now : String)
  | continuedEnds (id : Nat) (result : Except String SubTaskOutcome) (now : String)
  | unregister (index : Nat)
  | recordOutcome (run : Option SessionRef) (outcome : SubTaskOutcome)
      (workspaceBackend : Option BackendRef) (lineage : SubTaskLineage) (now : String)
  | sessionEvent (generation : Nat) (session : SessionRef) (event : String) (payload : JsonObject)
      (now : String)
  | joinFinished

/-- The sub-tasks by their ids, and the registry that they share with the whole process. -/
structure SubTaskManager where
  tasks : String → SubTask := fun _ => {}
  registry : SessionRegistry := ∅

section
variable [JsonDisplay]

/-- One step of one sub-task. A thread that does not exist does nothing. -/
def SubTask.step (taskId : String) (event : SubTaskEvent) (task : SubTask)
    (registry : SessionRegistry) : SubTask × SessionRegistry :=
  match event with
  | .submit submission now spawnFailure =>
      ((task.submit taskId submission now spawnFailure).2, registry)
  | .submittedEnds id result now =>
      match task.workers.find? (·.id == id) with
      | some ⟨_, none⟩ => (task.submittedEnds id result now, registry)
      | _ => (task, registry)
  | .attach attachment lineage running now =>
      (task.attach taskId attachment lineage running now, registry)
  | .subscribed generation session =>
      if (generation, session) ∈ task.subscribing then
        (task.subscribed generation session, registry)
      else (task, registry)
  | .continueTask prompt snapshot now =>
      (task.continueTask registry taskId prompt snapshot now).2
  | .rollback id error =>
      match task.calls.find? (·.id == id) with
      | some call => (task.rollback call error, registry)
      | none => (task, registry)
  | .dropRegistration index =>
      match task.failed[index]? with
      | some (registration, _) =>
          ({ task with failed := task.failed.eraseIdx index }, registration.drop registry)
      | none => (task, registry)
  | .startContinued id now =>
      match task.calls.find? (·.id == id) with
      | some call => (task.startContinued call now, registry)
      | none => (task, registry)
  | .continuedEnds id result now =>
      match task.workers.find? (·.id == id) with
      | some ⟨_, some run⟩ => (task.continuedEnds taskId id run result now, registry)
      | _ => (task, registry)
  | .unregister index =>
      match task.leaving[index]? with
      | some (_, sessionId, session) =>
          ({ task with leaving := task.leaving.eraseIdx index },
            (registry.unregisterIfMatches sessionId session).2)
      | none => (task, registry)
  | .recordOutcome run outcome workspaceBackend lineage now =>
      if run.all (· ∈ task.attachedRuns) then
        (task.recordOutcome taskId run outcome workspaceBackend lineage now, registry)
      else (task, registry)
  | .sessionEvent generation session event payload now =>
      if (generation, session) ∈ task.listeners then
        (task.sessionEvent generation event payload now, registry)
      else (task, registry)
  | .joinFinished => (task.joinFinished, registry)

/-- One step of the manager. -/
def SubTaskManager.step (event : String × SubTaskEvent) (manager : SubTaskManager) :
    SubTaskManager :=
  let (task, registry) :=
    (manager.tasks event.1).step event.1 event.2 manager.registry
  { tasks := Function.update manager.tasks event.1 task, registry }

end

end VvAgent
