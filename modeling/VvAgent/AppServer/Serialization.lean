import Mathlib.Data.List.TakeWhile
import VvAgent.Json
import VvAgent.Lib.Run
import VvAgent.Lib.Table

/-!
The request serialization queue. A request takes its place under a key before it runs and leaves
it afterwards; shared requests of a key may run together, an exclusive one runs alone. Each
critical section of the lock is one step. A request that has to wait is woken through a
notification of its own, which it may take up much later.
-/

namespace VvAgent
open Lib

inductive RequestSerializationAccess where
  | shared
  | exclusive
  deriving DecidableEq

structure RequestSerializationScope where
  key : String
  access : RequestSerializationAccess
  deriving DecidableEq

namespace RequestSerializationScope

def thread (threadId : String) : String := "thread:" ++ threadId

def global (name : String) : String := "global:" ++ name

def sharedThread (threadId : String) : RequestSerializationScope := ⟨thread threadId, .shared⟩

def exclusiveThread (threadId : String) : RequestSerializationScope :=
  ⟨thread threadId, .exclusive⟩

def sharedGlobal (name : String) : RequestSerializationScope := ⟨global name, .shared⟩

def exclusiveGlobal (name : String) : RequestSerializationScope := ⟨global name, .exclusive⟩

def requestThreadId (params : Option Json) : Option String :=
  (params >>= (·.get? "threadId")) >>= Json.asStr?

def forMethod (method : String) (params : Option Json) : Option RequestSerializationScope :=
  if method = "thread/start" then some (exclusiveGlobal "thread")
  else if method ∈ ["thread/resume", "thread/read", "thread/status"] then
    (requestThreadId params).map sharedThread
  else if method ∈ ["thread/archive", "thread/unsubscribe", "turn/start", "turn/resume",
      "turn/interrupt", "turn/steer", "turn/followUp", "turn/action", "approval/resolve"] then
    (requestThreadId params).map exclusiveThread
  else if method = "thread/list" then some (sharedGlobal "thread/list")
  else if method = "model/list" then some (sharedGlobal "model")
  else if method = "schema/export" then some (sharedGlobal "schema")
  else none

end RequestSerializationScope

/-- A request that waits, by the number of its notification. -/
structure QueuedRequest where
  access : RequestSerializationAccess
  notify : Nat
  deriving DecidableEq

structure QueueState where
  activeShared : Nat := 0
  activeExclusive : Bool := false
  waiters : List QueuedRequest := []
  deriving DecidableEq

namespace QueueState

def canStartNow (state : QueueState) (access : RequestSerializationAccess) : Bool :=
  state.waiters.isEmpty &&
    match access with
    | .shared => !state.activeExclusive
    | .exclusive => !state.activeExclusive && state.activeShared == 0

def start (state : QueueState) : RequestSerializationAccess → QueueState
  | .shared => { state with activeShared := state.activeShared + 1 }
  | .exclusive => { state with activeExclusive := true }

def finish (state : QueueState) : RequestSerializationAccess → QueueState
  | .shared => { state with activeShared := state.activeShared - 1 }
  | .exclusive => { state with activeExclusive := false }

/-- The shared requests at the front are woken one after the other. -/
def wakeShared (active : Nat) : List QueuedRequest → QueueState × List Nat
  | ⟨.shared, notify⟩ :: waiters =>
      let (state, notified) := wakeShared (active + 1) waiters
      (state, notify :: notified)
  | waiters => ({ activeShared := active, waiters := waiters }, [])

/-- `wake_next`, with the notifications that it sends. -/
def wakeNext (state : QueueState) : QueueState × List Nat :=
  if state.activeExclusive = true ∨ 0 < state.activeShared then (state, [])
  else
    match state.waiters with
    | ⟨.exclusive, notify⟩ :: waiters =>
        ({ state with activeExclusive := true, waiters := waiters }, [notify])
    | ⟨.shared, _⟩ :: _ => wakeShared state.activeShared state.waiters
    | [] => (state, [])

def isEmpty (state : QueueState) : Bool :=
  state.activeShared == 0 && !state.activeExclusive && state.waiters.isEmpty

end QueueState

/-- The critical section of `acquire`, and whether the request starts at once. -/
def acquire (queues : Table QueueState) (scope : RequestSerializationScope) (notify : Nat) :
    Table QueueState × Bool :=
  let state := queues[scope.key]?.getD {}
  if state.canStartNow scope.access then
    (queues.insert scope.key (state.start scope.access), true)
  else
    (queues.insert scope.key
      { state with waiters := state.waiters ++ [⟨scope.access, notify⟩] }, false)

/-- The critical section of `release`, with the notifications that it sends. -/
def release (queues : Table QueueState) (scope : RequestSerializationScope) :
    Table QueueState × List Nat :=
  match queues[scope.key]? with
  | none => (queues, [])
  | some state =>
      let (state, notified) := (state.finish scope.access).wakeNext
      (if state.isEmpty then queues.erase scope.key else queues.insert scope.key state, notified)

/-! ### The requests -/

inductive RequestPhase where
  | waiting
  /-- Its notification was sent, and it has not run yet. -/
  | woken
  | running
  | released
  deriving DecidableEq

/-- A call of `run`. -/
structure SerializedRequest where
  scope : RequestSerializationScope
  notify : Nat
  phase : RequestPhase
  deriving DecidableEq

namespace SerializedRequest

/-- The request holds its key from the moment it is granted, whether it has noticed or not. -/
def Holds (request : SerializedRequest) : Prop :=
  request.phase = .woken ∨ request.phase = .running

instance (request : SerializedRequest) : Decidable request.Holds := by
  unfold Holds
  infer_instance

end SerializedRequest

/-- The queue and the requests in the order in which they arrived. The numbers of those that were
granted are listed by key, in the order of the grants. -/
structure Serialization where
  queues : Table QueueState := ∅
  requests : List SerializedRequest := []
  granted : List (String × Nat) := []

/-- What happens to one request: its `acquire` takes the lock, it takes up its notification, or
its `release` takes the lock. -/
inductive SerializationAction where
  | acquire
  | resume
  | release
  deriving DecidableEq

structure SerializationEvent where
  action : SerializationAction
  scope : RequestSerializationScope
  notify : Nat

/-- What the server has for one key. -/
structure KeyLine where
  entry : Option QueueState := none
  requests : List SerializedRequest := []
  grants : List Nat := []

namespace Serialization

def setPhase (key : String) (notified : List Nat) (phase : RequestPhase)
    (requests : List SerializedRequest) : List SerializedRequest :=
  requests.map fun request =>
    if request.scope.key = key ∧ request.notify ∈ notified then { request with phase := phase }
    else request

/-- Whether the request of an event has come as far as that. -/
def reached (state : Serialization) (event : SerializationEvent) (phase : RequestPhase) : Bool :=
  decide (⟨event.scope, event.notify, phase⟩ ∈ state.requests)

/-- An event that is not due changes nothing: each request acquires once, resumes once it is
woken, and releases once. -/
def step (event : SerializationEvent) (state : Serialization) : Serialization :=
  match event.action with
  | .acquire =>
      if state.requests.any fun request =>
          decide (request.scope.key = event.scope.key ∧ request.notify = event.notify) then state
      else
        let (queues, started) := VvAgent.acquire state.queues event.scope event.notify
        { queues := queues
          requests := state.requests ++
            [⟨event.scope, event.notify, if started then .running else .waiting⟩]
          granted :=
            if started then state.granted ++ [(event.scope.key, event.notify)]
            else state.granted }
  | .resume =>
      if state.reached event .woken then
        { state with
          requests := setPhase event.scope.key [event.notify] .running state.requests }
      else state
  | .release =>
      if state.reached event .running then
        let (queues, notified) := VvAgent.release state.queues event.scope
        let requests := setPhase event.scope.key [event.notify] .released state.requests
        { queues := queues
          requests := setPhase event.scope.key notified .woken requests
          granted := state.granted ++ notified.map fun notify => (event.scope.key, notify) }
      else state

/-- The line of a key. -/
def line (state : Serialization) (key : String) : KeyLine where
  entry := state.queues[key]?
  requests := state.requests.filter (·.scope.key = key)
  grants := (state.granted.filter (·.1 = key)).map (·.2)

end Serialization

end VvAgent
