import VvAgent.Checkpoint.Deferred
import VvAgent.Lib.Run
import VvAgent.Tools.Policy
import VvAgent.Workspace.Backend

/-!
The tool orchestrator. A call passes the argument validation, the policy and the approval before
its tool runs. The tools and the callbacks work on one context, which the calls of a cycle share;
`defer` leaves its outcome there, and the orchestrator takes it up when the tool returns.
-/

namespace VvAgent
open Lib

/-- The `ToolContext` of a call, with the fields that the orchestrator does not touch in `rest`. -/
structure ToolCallContext (Rest : Type) where
  rest : Rest
  toolCallId : String := ""
  toolName : String := ""
  arguments : JsonObject := []
  idempotencyKey : Option String := none
  checkpointKey : Option String := none
  operationId : Option String := none
  attempt : Nat := 1
  requestDigest : Option String := none
  /-- The parent call of the sub task snapshot, if there is a snapshot. -/
  parentToolCallId : Option (Option String) := none
  deferredOutcome : Option ToolCallOutcome := none

def DeferredToolHandle.new (checkpointKey operationId : String) (attempt : Nat)
    (requestDigest : String) : CheckpointResult DeferredToolHandle := do
  let handle : DeferredToolHandle :=
    { schemaVersion := schema, checkpointKey, operationId, attempt, requestDigest }
  handle.validate
  return handle

/-- The error of a call that wants to be deferred without a checkpoint. -/
def requiresCheckpoint (toolCallId : String) : ToolCallOutcome :=
  .completed
    { toolCallId := toolCallId
      content := "Deferred execution requires a durable checkpoint."
      status := .error
      errorCode := some "deferred_requires_checkpoint" }

namespace ToolCallContext
variable {Rest : Type}

def beginToolCall (context : ToolCallContext Rest) (call : ToolCall) : ToolCallContext Rest :=
  { context with
    toolCallId := call.id
    toolName := call.name
    arguments := call.arguments
    parentToolCallId := context.parentToolCallId.map fun _ =>
      if isBlank call.id then none else some call.id }

/-- The outcome of a call that is deferred, by the identity in the context. -/
def deferralOutcome (context : ToolCallContext Rest) : ToolCallOutcome :=
  match context.checkpointKey, context.operationId, context.requestDigest with
  | some checkpointKey, some operationId, some requestDigest =>
      if isBlank checkpointKey || isBlank operationId || isBlank requestDigest then
        requiresCheckpoint context.toolCallId
      else
        match DeferredToolHandle.new checkpointKey operationId context.attempt requestDigest with
        | .ok handle => .deferred handle
        | .error _ => requiresCheckpoint context.toolCallId
  | _, _, _ => requiresCheckpoint context.toolCallId

/-- `defer` also returns the outcome that it leaves. -/
def defer (context : ToolCallContext Rest) : ToolCallContext Rest :=
  { context with deferredOutcome := some context.deferralOutcome }

def setDeferredIdentity (context : ToolCallContext Rest) (checkpointKey operationId : String)
    (attempt : Nat) (requestDigest : String) : ToolCallContext Rest :=
  { context with
    checkpointKey := some checkpointKey
    operationId := some operationId
    attempt := attempt
    requestDigest := some requestDigest }

def clearDeferredIdentity (context : ToolCallContext Rest) : ToolCallContext Rest :=
  { context with
    checkpointKey := none
    operationId := none
    attempt := 1
    requestDigest := none }

/-- The context as the tools and callbacks of a host see it: the outcome of `defer` is private. -/
def visible (context : ToolCallContext Rest) : ToolCallContext Rest :=
  { context with deferredOutcome := none }

end ToolCallContext

/-- What a piece of host code does with the context it is lent: the outcome that its last `defer`
left there, if it called any, is in the context afterwards. -/
structure HostRun (Rest Result : Type) where
  context : ToolCallContext Rest
  result : Result

/-- Host code can leave an outcome in the context, but neither see nor take the one that is
there. -/
def hostCode {Rest Result : Type} (code : ToolCallContext Rest → HostRun Rest Result)
    (context : ToolCallContext Rest) : HostRun Rest Result :=
  let run := code context.visible
  { run with
    context :=
      { run.context with
        deferredOutcome := run.context.deferredOutcome.or context.deferredOutcome } }

inductive ApprovalRequirement where
  | notRequired
  | required
  | provider
  deriving DecidableEq

/-- The code of a tool: an executor of the host's own, or the handler of a tool specification. A
handler that panics in a task of its own fails with a text. -/
inductive ToolCode (Rest : Type) where
  /-- Nothing is returned by an executor that does not finish within its timeout. -/
  | executor (runOutcome : ToolCall → ToolCallContext Rest →
      HostRun Rest (Option (Except String ToolCallOutcome)))
  | handler (handle : ToolCallContext Rest → JsonObject →
      HostRun Rest (Option (Except String ToolExecutionResult)))

/-- A tool; its timeout is given by the text of its seconds. -/
structure ToolExecutor (Rest : Type) where
  metadata : JsonObject := []
  toolMetadata : Option ToolMetadata := none
  timeout : Option String := none
  validateArguments : ToolCall → Except String (Option ToolExecutionResult)
  approvalRequirement : ToolCall → ToolCallContext Rest → ApprovalRequirement
  code : ToolCode Rest

def withToolCallId (result : ToolExecutionResult) (call : ToolCall) : ToolExecutionResult :=
  if isBlank result.toolCallId || result.toolCallId == "pending" then
    { result with toolCallId := call.id }
  else result

namespace ToolExecutor
variable {Rest : Type}

/-- `run_outcome`, and what is left in the context. A handler with a timeout works on a copy of
the context, which replaces the context when it is done. -/
def runOutcome (tool : ToolExecutor Rest) (call : ToolCall) (context : ToolCallContext Rest) :
    HostRun Rest (Option (Except String ToolCallOutcome)) :=
  match tool.code with
  | .executor code => hostCode (code call) context
  | .handler handle =>
      match tool.validateArguments call with
      | .error error => ⟨context, some (.error error)⟩
      | .ok (some result) => ⟨context, some (.ok (.completed result))⟩
      | .ok none =>
          let context := context.beginToolCall call
          let run := hostCode (handle · call.arguments) context
          match run.result with
          | some (.ok result) =>
              let outcome := run.context.deferredOutcome.getD
                (.completed (withToolCallId result call))
              ⟨{ run.context with deferredOutcome := none }, some (.ok outcome)⟩
          | some (.error error) => ⟨context, some (.error error)⟩
          | none => ⟨context, none⟩

end ToolExecutor

/-! ### One call -/

inductive ToolLifecycleEvent where
  | planned (call : ToolCall) (toolMetadata : Option ToolMetadata)
  | started (call : ToolCall) (toolMetadata : Option ToolMetadata)
  | deferred (call : ToolCall) (handle : DeferredToolHandle) (executionStarted : Bool)
      (durationMs : Option Nat) (toolMetadata : Option ToolMetadata)
  | completed (call : ToolCall) (result : ToolExecutionResult) (executionStarted : Bool)
      (durationMs : Option Nat) (toolMetadata : Option ToolMetadata)
  deriving DecidableEq

structure DeferredToolLifecycle where
  call : ToolCall
  executionStarted : Bool
  durationMs : Option Nat
  toolMetadata : Option ToolMetadata
  deriving DecidableEq

structure DeferredToolExecution where
  result : ToolExecutionResult
  outcome : ToolCallOutcome
  lifecycle : Option DeferredToolLifecycle
  deriving DecidableEq

namespace DeferredToolExecution

def withoutLifecycle (result : ToolExecutionResult) : DeferredToolExecution :=
  ⟨result, .completed result, none⟩

def withLifecycle (call : ToolCall) (result : ToolExecutionResult) (executionStarted : Bool)
    (durationMs : Option Nat) (toolMetadata : Option ToolMetadata) : DeferredToolExecution :=
  ⟨result, .completed result, some ⟨call, executionStarted, durationMs, toolMetadata⟩⟩

def withDeferredLifecycle (call : ToolCall) (handle : DeferredToolHandle)
    (executionStarted : Bool) (durationMs : Option Nat) (toolMetadata : Option ToolMetadata) :
    DeferredToolExecution where
  result :=
    { toolCallId := call.id
      content := "Deferred tool execution is waiting for a definitive receipt."
      status := .error }
  outcome := .deferred handle
  lifecycle := some ⟨call, executionStarted, durationMs, toolMetadata⟩

/-- `complete`: the events that it emits. -/
def complete (execution : DeferredToolExecution) : List ToolLifecycleEvent :=
  match execution.lifecycle with
  | none => []
  | some lifecycle =>
      match execution.outcome with
      | .completed _ =>
          [.completed lifecycle.call execution.result lifecycle.executionStarted
            lifecycle.durationMs lifecycle.toolMetadata]
      | .deferred handle =>
          [.deferred lifecycle.call handle lifecycle.executionStarted none lifecycle.toolMetadata]
      | .hostInteraction _ _ => []

end DeferredToolExecution

/-- The callback before a call is dispatched: what it leaves in the context, and its error. -/
abbrev BeforeToolDispatch (Rest : Type) :=
  ToolCall → ToolCallContext Rest → HostRun Rest (Except String Unit)

structure ToolRunOptions (Rest : Type) where
  plannedTools : Option (List String) := none
  policy : ToolPolicy := {}
  idempotencyKey : Option String := none
  beforeDispatch : Option (BeforeToolDispatch Rest) := none

section
variable [Platform]

def errorResult (toolCallId message : String) (errorCode : Option String) :
    ToolExecutionResult where
  toolCallId := toolCallId
  content := Platform.jsonText
    (.obj
      [("error", .str message), ("error_code", (errorCode.map Json.str).getD .null),
        ("ok", .bool false)])
  status := .error
  errorCode := errorCode

/-- The result of a call whose arguments could not be read. -/
def argumentErrorResult (call : ToolCall) : Option ToolExecutionResult := do
  let extra ← (← call.extraContent).asObject?
  let errorCode := ((extra.lookup "argument_error_code") >>= Json.asStr?).getD "invalid_arguments"
  let error := ((extra.lookup "argument_error") >>= Json.asStr?).getD "Invalid tool arguments"
  return errorResult call.id error (some errorCode)

/-- `tool_error`. -/
def callError (call : ToolCall) (errorCode message : String) (policySource : Option String) :
    ToolExecutionResult where
  toolCallId := call.id
  content := Platform.jsonText
    (.obj
      [("error", .str message), ("error_code", .str errorCode), ("ok", .bool false),
        ("tool_name", .str call.name)])
  status := .error
  errorCode := some errorCode
  metadata :=
    match policySource with
    | none => []
    | some source =>
        [("arguments", .obj call.arguments), ("message", .str message),
          ("mode", .str "permission_denied"), ("policy_source", .str source),
          ("tool_name", .str call.name)]

def policyDenial (call : ToolCall) (policySource : String) : ToolExecutionResult :=
  callError call "tool_not_allowed" ("Tool " ++ call.name ++ " is not allowed for these arguments.")
    (some policySource)

def timeoutResult (call : ToolCall) (seconds : String) : ToolExecutionResult where
  toolCallId := call.id
  content := Platform.jsonText
    (.obj
      [("error", .str ("Tool " ++ call.name ++ " did not finish within " ++ seconds ++
          " seconds and may still be running. Its outcome and side effects are unknown; " ++
          "verify the current state before calling it again.")),
        ("error_code", .str "tool_timeout"), ("ok", .bool false), ("retryable", .bool false)])
  status := .error
  errorCode := some "tool_timeout"
  metadata := [("output_type", .str "error"), ("retryable", .bool false)]

/-- What the checks before the approval make of a call. -/
inductive ToolGate (Rest : Type) where
  | failed (error : String)
  | refused (result : ToolExecutionResult)
  | passed (tool : ToolExecutor Rest)

variable {Rest : Type}

/-- The policy, once the arguments are valid. -/
def policyGate (tool : Option (ToolExecutor Rest)) (call : ToolCall)
    (options : ToolRunOptions Rest) : ToolGate Rest :=
  let policy := options.policy
  if policy.allowedTools.any (!·.contains call.name) then
    .refused (policyDenial call "allowed_tools")
  else if policy.disallowedTools.contains call.name then
    .refused (policyDenial call "disallowed_tools")
  else if policy.canUseTool.any fun predicate => !predicate call.name call.arguments then
    .refused (policyDenial call "can_use_tool")
  else if options.plannedTools.any (!·.contains call.name) then
    .refused (policyDenial call "planned_name")
  else
    match tool with
    | none =>
        .refused (callError call "tool_not_found" ("Unknown tool: " ++ call.name) none)
    | some tool =>
        match policy.metadataDenialSource tool.toolMetadata with
        | some source => .refused (policyDenial call source)
        | none => .passed tool

def toolGate (tool : Option (ToolExecutor Rest)) (call : ToolCall)
    (options : ToolRunOptions Rest) : ToolGate Rest :=
  match tool.map (ToolExecutor.validateArguments · call) with
  | some (.error error) => .failed error
  | some (.ok (some result)) => .refused result
  | _ => policyGate tool call options

/-- What a call leaves: the context, the events that were emitted, whether the tool was invoked, and
the execution that is to be completed or the error. -/
structure OrchestratorRun (Rest : Type) where
  context : ToolCallContext Rest
  events : List ToolLifecycleEvent
  invoked : Bool
  result : Except String DeferredToolExecution

/-- What becomes of the outcome of a tool that returned. -/
def settleOutcome (call : ToolCall) (toolMetadata : Option ToolMetadata) (elapsed : Nat) :
    ToolCallOutcome → Except String DeferredToolExecution
  | .hostInteraction result request =>
      match (ToolCallOutcome.hostInteraction result request).validate with
      | .error error => .error error.display
      | .ok () =>
          .ok
            { DeferredToolExecution.withLifecycle call result true (some elapsed) toolMetadata with
              outcome := .hostInteraction result request }
  | .completed result =>
      .ok (.withLifecycle call (withToolCallId result call) true (some elapsed) toolMetadata)
  | .deferred handle => .ok (.withDeferredLifecycle call handle true none toolMetadata)

/-- A call that passed every check and is dispatched. -/
def dispatchTool (tool : ToolExecutor Rest) (call : ToolCall) (elapsed : Nat)
    (context : ToolCallContext Rest) (planned : List ToolLifecycleEvent) : OrchestratorRun Rest :=
  let events := planned ++ [.started call tool.toolMetadata]
  let run := tool.runOutcome call context
  match run.result with
  | some (.error error) => ⟨run.context, events, true, .error error⟩
  | none =>
      ⟨run.context, events, true, .ok (.withLifecycle call
        (timeoutResult call (tool.timeout.getD "")) true (some elapsed) tool.toolMetadata)⟩
  | some (.ok outcome) =>
      ⟨{ run.context with deferredOutcome := none }, events, true,
        settleOutcome call tool.toolMetadata elapsed (run.context.deferredOutcome.getD outcome)⟩

/-- One call: the tools at this time, the answer of the approval and the duration. -/
structure ToolStep (Rest : Type) where
  tools : Table (ToolExecutor Rest)
  call : ToolCall
  options : ToolRunOptions Rest
  approval : ToolCall → ApprovalRequirement → ToolCallContext Rest → JsonObject →
    Option ToolExecutionResult
  elapsed : Nat

namespace ToolStep

def requirement (step : ToolStep Rest) (tool : ToolExecutor Rest) (context : ToolCallContext Rest) :
    ApprovalRequirement :=
  match step.options.policy.approval with
  | .never => .notRequired
  | .always => .required
  | .default | .onRequest => tool.approvalRequirement step.call context

/-- The context that a call that passed the checks begins with. -/
def begin (step : ToolStep Rest) (context : ToolCallContext Rest) : ToolCallContext Rest :=
  { context.beginToolCall step.call with idempotencyKey := step.options.idempotencyKey }

/-- `run_one_with_approval_and_metadata_deferred`. -/
def runOne (step : ToolStep Rest) (context : ToolCallContext Rest) : OrchestratorRun Rest :=
  match argumentErrorResult step.call with
  | some result => ⟨context, [], false, .ok (.withoutLifecycle result)⟩
  | none =>
      let tool := step.tools[step.call.name]?
      let toolMetadata := tool.bind (·.toolMetadata)
      let planned := [.planned step.call toolMetadata]
      match toolGate tool step.call step.options with
      | .failed error => ⟨context, planned, false, .error error⟩
      | .refused result =>
          ⟨context, planned, false, .ok (.withLifecycle step.call result false none toolMetadata)⟩
      | .passed tool =>
          let context := step.begin context
          match step.approval step.call (step.requirement tool context.visible) context.visible
              tool.metadata with
          | some result =>
              ⟨context, planned, false, .ok (.withLifecycle step.call
                (withToolCallId result step.call) false none toolMetadata)⟩
          | none =>
              match step.options.beforeDispatch with
              | none => dispatchTool tool step.call step.elapsed context planned
              | some callback =>
                  let run := hostCode (callback step.call) context
                  match run.result with
                  | .error error => ⟨run.context, planned, false, .error error⟩
                  | .ok () => dispatchTool tool step.call step.elapsed run.context planned

end ToolStep

/-! ### The calls of a cycle -/

/-- How the run loop gets the execution of a call: a hook answered it, the checkpoint replays its
result, or the orchestrator runs it. -/
inductive LoopTurn (Rest : Type) where
  | observed (tools : Table (ToolExecutor Rest)) (call : ToolCall) (result : ToolExecutionResult)
  | replayed (idempotencyKey : Option String) (result : ToolExecutionResult)
  | executed (step : ToolStep Rest)

/-- The identity of a deferred call under the checkpoint. -/
structure DeferredIdentity where
  checkpointKey : String
  operationId : String
  attempt : Nat
  requestDigest : String

/-- One call in the run loop, with its identity if there is a checkpoint. -/
structure LoopCall (Rest : Type) where
  identity : Option DeferredIdentity
  turn : LoopTurn Rest

/-- `set_tool_context_identity`. -/
def setToolContextIdentity (identity : Option DeferredIdentity) (context : ToolCallContext Rest) :
    ToolCallContext Rest :=
  let context := context.clearDeferredIdentity
  match identity with
  | none => context
  | some identity =>
      context.setDeferredIdentity identity.checkpointKey identity.operationId identity.attempt
        identity.requestDigest

/-- `observe_result_without_execution`. -/
def observeResultWithoutExecution (tools : Table (ToolExecutor Rest)) (call : ToolCall)
    (result : ToolExecutionResult) : List ToolLifecycleEvent × DeferredToolExecution :=
  if (argumentErrorResult call).isSome then ([], .withoutLifecycle result)
  else
    let toolMetadata := tools[call.name]?.bind (·.toolMetadata)
    ([.planned call toolMetadata], .withLifecycle call result false none toolMetadata)

/-- What the run loop has of a call: the context for the next one, and the execution. -/
def LoopCall.exec (call : LoopCall Rest) (context : ToolCallContext Rest) :
    ToolCallContext Rest × DeferredToolExecution :=
  let context := setToolContextIdentity call.identity context
  match call.turn with
  | .observed tools toolCall result =>
      (context, (observeResultWithoutExecution tools toolCall result).2)
  | .replayed idempotencyKey result =>
      ({ context with idempotencyKey := idempotencyKey }, .withoutLifecycle result)
  | .executed step =>
      let run := step.runOne context
      match run.result with
      | .ok execution => (run.context, execution)
      | .error error =>
          (run.context, .withoutLifecycle
            (callError step.call "tool_orchestrator_error" error none))

def LoopCall.next (call : LoopCall Rest) (context : ToolCallContext Rest) : ToolCallContext Rest :=
  (call.exec context).1

end

end VvAgent
