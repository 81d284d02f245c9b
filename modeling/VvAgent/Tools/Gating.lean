import VvAgent.Sample
import VvAgent.Tools.Orchestrator

/-!
What the tool orchestrator guarantees. A tool is invoked only behind every check, and the events
of a call follow one pattern. The outcome that `defer` leaves in the shared context belongs to the
call that left it for as long as no host code that called it fails or is cut off.
-/

namespace VvAgent
open Lib

section
variable [Platform] {Rest : Type}

/-! ### The checks -/

/-- The checks and the approval that a call passes before it is dispatched. -/
structure Cleared (step : ToolStep Rest) (context : ToolCallContext Rest)
    (tool : ToolExecutor Rest) : Prop where
  parsed : argumentErrorResult step.call = none
  registered : step.tools[step.call.name]? = some tool
  valid : tool.validateArguments step.call = .ok none
  allowed : ∀ allowed ∈ step.options.policy.allowedTools, step.call.name ∈ allowed
  notDisallowed : step.call.name ∉ step.options.policy.disallowedTools
  usable : step.options.policy.allowsArguments step.call.name step.call.arguments = true
  planned : ∀ planned ∈ step.options.plannedTools, step.call.name ∈ planned
  notDenied : step.options.policy.metadataDenialSource tool.toolMetadata = none
  approved : step.approval step.call
    (step.requirement tool (step.begin context).visible) (step.begin context).visible
      tool.metadata = none

/-- Everything a tool is invoked behind. -/
structure Gated (step : ToolStep Rest) (context : ToolCallContext Rest) (tool : ToolExecutor Rest) :
    Prop extends Cleared step context tool where
  dispatched : ∀ callback ∈ step.options.beforeDispatch,
    (callback step.call (step.begin context).visible).result = .ok ()

theorem policyGate_passed {found : Option (ToolExecutor Rest)} {call : ToolCall}
    {options : ToolRunOptions Rest} {tool : ToolExecutor Rest}
    (h : policyGate found call options = .passed tool) :
    found = some tool ∧ (∀ allowed ∈ options.policy.allowedTools, call.name ∈ allowed) ∧
      call.name ∉ options.policy.disallowedTools ∧
      options.policy.allowsArguments call.name call.arguments = true ∧
      (∀ planned ∈ options.plannedTools, call.name ∈ planned) ∧
      options.policy.metadataDenialSource tool.toolMetadata = none := by
  unfold policyGate at h
  dsimp only at h
  split_ifs at h with hallowed hdisallowed husable hplanned
  cases found with
  | none => cases h
  | some registered =>
      cases hsource : options.policy.metadataDenialSource registered.toolMetadata with
      | some source => simp [hsource] at h
      | none =>
          simp only [hsource, ToolGate.passed.injEq] at h
          subst h
          refine ⟨rfl, ?_, by simpa using hdisallowed, ?_, ?_, hsource⟩
          · intro allowed hmem
            by_contra hout
            apply hallowed
            rw [Option.mem_def.mp hmem]
            simpa using hout
          · unfold ToolPolicy.allowsArguments
            cases hpredicate : options.policy.canUseTool with
            | none => rfl
            | some predicate => simpa [hpredicate] using husable
          · intro planned hmem
            by_contra hout
            apply hplanned
            rw [Option.mem_def.mp hmem]
            simpa using hout

theorem toolGate_passed {found : Option (ToolExecutor Rest)} {call : ToolCall}
    {options : ToolRunOptions Rest} {tool : ToolExecutor Rest}
    (h : toolGate found call options = .passed tool) :
    policyGate found call options = .passed tool ∧ tool.validateArguments call = .ok none := by
  unfold toolGate at h
  cases found with
  | none =>
      have hpolicy : policyGate none call options = .passed tool := h
      have hnone := (policyGate_passed hpolicy).1
      cases hnone
  | some registered =>
      simp only [Option.map_some] at h
      cases hvalid : registered.validateArguments call with
      | error error => simp [hvalid] at h
      | ok answer =>
          cases answer with
          | some result => simp [hvalid] at h
          | none =>
              rw [hvalid] at h
              have hpolicy : policyGate (some registered) call options = .passed tool := h
              obtain rfl := Option.some.inj (policyGate_passed hpolicy).1
              exact ⟨hpolicy, hvalid⟩

/-! ### What a call can do -/

namespace ToolStep
variable (step : ToolStep Rest) (context : ToolCallContext Rest)

def toolMetadata : Option ToolMetadata := step.tools[step.call.name]?.bind (·.toolMetadata)

/-- The context that the tool gets. -/
def dispatchContext : ToolCallContext Rest :=
  match step.options.beforeDispatch with
  | none => step.begin context
  | some callback => (hostCode (callback step.call) (step.begin context)).context

/-- The ways of a call through the orchestrator. -/
inductive Ran : OrchestratorRun Rest → Prop where
  | unparsed (result : ToolExecutionResult) (hparse : argumentErrorResult step.call = some result) :
      Ran ⟨context, [], false, .ok (.withoutLifecycle result)⟩
  | failed (error : String) (hparse : argumentErrorResult step.call = none) :
      Ran ⟨context, [.planned step.call step.toolMetadata], false, .error error⟩
  | refused (result : ToolExecutionResult) (hparse : argumentErrorResult step.call = none) :
      Ran ⟨context, [.planned step.call step.toolMetadata], false,
        .ok (.withLifecycle step.call result false none step.toolMetadata)⟩
  | answered (result : ToolExecutionResult) (hparse : argumentErrorResult step.call = none) :
      Ran ⟨step.begin context, [.planned step.call step.toolMetadata], false,
        .ok (.withLifecycle step.call result false none step.toolMetadata)⟩
  | undispatched (error : String) (tool : ToolExecutor Rest) (callback : BeforeToolDispatch Rest)
      (hcleared : Cleared step context tool)
      (hcallback : step.options.beforeDispatch = some callback)
      (herror : (callback step.call (step.begin context).visible).result = .error error) :
      Ran ⟨step.dispatchContext context, [.planned step.call step.toolMetadata], false,
        .error error⟩
  | dispatched (tool : ToolExecutor Rest) (hgated : Gated step context tool) :
      Ran (dispatchTool tool step.call step.elapsed (step.dispatchContext context)
        [.planned step.call step.toolMetadata])

theorem runOne_ran : step.Ran context (step.runOne context) := by
  unfold runOne
  cases hparse : argumentErrorResult step.call with
  | some result => exact .unparsed result hparse
  | none =>
      dsimp only
      cases hgate : toolGate step.tools[step.call.name]? step.call step.options with
      | failed error => exact .failed error hparse
      | refused result => exact .refused result hparse
      | passed tool =>
          obtain ⟨hpolicy, hvalid⟩ := toolGate_passed hgate
          obtain ⟨hfound, hallowed, hdisallowed, husable, hplanned, hdenied⟩ :=
            policyGate_passed hpolicy
          dsimp only
          cases happroval : step.approval step.call
              (step.requirement tool (step.begin context).visible) (step.begin context).visible
              tool.metadata with
          | some result => exact .answered _ hparse
          | none =>
              have hcleared : Cleared step context tool :=
                ⟨hparse, hfound, hvalid, hallowed, hdisallowed, husable, hplanned, hdenied,
                  happroval⟩
              dsimp only
              cases hcallback : step.options.beforeDispatch with
              | none =>
                  have hcontext : step.dispatchContext context = step.begin context := by
                    rw [dispatchContext, hcallback]
                  have hran := Ran.dispatched tool ⟨hcleared, by simp [hcallback]⟩
                  rw [hcontext] at hran
                  exact hran
              | some callback =>
                  have hcontext : step.dispatchContext context =
                      (hostCode (callback step.call) (step.begin context)).context := by
                    rw [dispatchContext, hcallback]
                  dsimp only
                  cases hresult : (hostCode (callback step.call) (step.begin context)).result with
                  | error error =>
                      have hran := Ran.undispatched error tool callback hcleared hcallback hresult
                      rw [hcontext] at hran
                      exact hran
                  | ok _ =>
                      have hdone : (callback step.call (step.begin context).visible).result = .ok () :=
                        hresult
                      have hran := Ran.dispatched tool ⟨hcleared, by simp [hcallback, hdone]⟩
                      rw [hcontext] at hran
                      exact hran

end ToolStep

/-! ### The events of a call -/

/-- The event that a call is completed with. -/
def ToolLifecycleEvent.Closes (call : ToolCall) (started : Bool)
    (toolMetadata : Option ToolMetadata) : ToolLifecycleEvent → Prop
  | .planned _ _ => False
  | .started _ _ => False
  | .deferred closed _ executionStarted _ metadata =>
      closed = call ∧ executionStarted = started ∧ metadata = toolMetadata
  | .completed closed _ executionStarted _ metadata =>
      closed = call ∧ executionStarted = started ∧ metadata = toolMetadata

/-- The events of a call. A call whose arguments could not be read has none, and an interaction
with the host has none when it is completed. -/
structure Lifecycle (step : ToolStep Rest) (run : OrchestratorRun Rest) : Prop where
  unparsed : (argumentErrorResult step.call).isSome = true →
    run.events = [] ∧ run.invoked = false ∧
      ∀ execution, run.result = .ok execution → execution.complete = []
  emitted : argumentErrorResult step.call = none →
    run.events = .planned step.call step.toolMetadata ::
      (if run.invoked then [.started step.call step.toolMetadata] else [])
  completed : argumentErrorResult step.call = none →
    ∀ execution, run.result = .ok execution →
      (∃ result request, execution.outcome = .hostInteraction result request ∧
        execution.complete = []) ∨
      ∃ event, ToolLifecycleEvent.Closes step.call run.invoked step.toolMetadata event ∧
        execution.complete = [event]

omit [Platform] in
theorem withLifecycle_closes (call : ToolCall) (result : ToolExecutionResult) (started : Bool)
    (durationMs : Option Nat) (toolMetadata : Option ToolMetadata) :
    ∃ event, ToolLifecycleEvent.Closes call started toolMetadata event ∧
      (DeferredToolExecution.withLifecycle call result started durationMs toolMetadata).complete =
        [event] :=
  ⟨.completed call result started durationMs toolMetadata, ⟨rfl, rfl, rfl⟩, rfl⟩

theorem settleOutcome_complete {call : ToolCall} {toolMetadata : Option ToolMetadata}
    {elapsed : Nat} {outcome : ToolCallOutcome} {execution : DeferredToolExecution}
    (h : settleOutcome call toolMetadata elapsed outcome = .ok execution) :
    (∃ result request, execution.outcome = .hostInteraction result request ∧
      execution.complete = []) ∨
    ∃ event, ToolLifecycleEvent.Closes call true toolMetadata event ∧
      execution.complete = [event] := by
  cases outcome with
  | completed result =>
      obtain rfl := Except.ok.inj h
      exact .inr (withLifecycle_closes _ _ _ _ _)
  | deferred handle =>
      obtain rfl := Except.ok.inj h
      exact .inr ⟨.deferred call handle true none toolMetadata, ⟨rfl, rfl, rfl⟩, rfl⟩
  | hostInteraction result request =>
      unfold settleOutcome at h
      dsimp only at h
      cases hvalid : (ToolCallOutcome.hostInteraction result request).validate with
      | error error => simp [hvalid] at h
      | ok _ =>
          rw [hvalid] at h
          obtain rfl := Except.ok.inj h
          exact .inl ⟨result, request, rfl, rfl⟩

/-- A dispatched call has started, and closes if it comes to an end. -/
theorem dispatchTool_lifecycle {step : ToolStep Rest} {tool : ToolExecutor Rest}
    (context : ToolCallContext Rest) (hparse : argumentErrorResult step.call = none)
    (hfound : step.tools[step.call.name]? = some tool) :
    Lifecycle step (dispatchTool tool step.call step.elapsed context
      [.planned step.call step.toolMetadata]) := by
  have hmetadata : step.toolMetadata = tool.toolMetadata := by
    rw [ToolStep.toolMetadata, hfound, Option.bind_some]
  unfold dispatchTool
  dsimp only
  cases hrun : (tool.runOutcome step.call context).result with
  | none =>
      refine ⟨fun h => by simp [hparse] at h, fun _ => by rw [hmetadata]; rfl, ?_⟩
      intro _ execution h
      obtain rfl := Except.ok.inj h
      rw [hmetadata]
      exact .inr (withLifecycle_closes _ _ _ _ _)
  | some answer =>
      cases answer with
      | error error =>
          refine ⟨fun h => by simp [hparse] at h, fun _ => by rw [hmetadata]; rfl, ?_⟩
          intro _ execution h
          cases h
      | ok outcome =>
          refine ⟨fun h => by simp [hparse] at h, fun _ => by rw [hmetadata]; rfl, ?_⟩
          intro _ execution h
          rw [hmetadata]
          exact settleOutcome_complete h

/-- A call that was refused or answered before its dispatch is completed as not started. -/
theorem refused_lifecycle {step : ToolStep Rest} (context : ToolCallContext Rest)
    (result : ToolExecutionResult) (hparse : argumentErrorResult step.call = none) :
    Lifecycle step ⟨context, [.planned step.call step.toolMetadata], false,
      .ok (.withLifecycle step.call result false none step.toolMetadata)⟩ := by
  refine ⟨fun h => by simp [hparse] at h, fun _ => rfl, ?_⟩
  intro _ execution h
  obtain rfl := Except.ok.inj h
  exact .inr (withLifecycle_closes _ _ _ _ _)

theorem failed_lifecycle {step : ToolStep Rest} (context : ToolCallContext Rest) (error : String)
    (hparse : argumentErrorResult step.call = none) :
    Lifecycle step ⟨context, [.planned step.call step.toolMetadata], false, .error error⟩ := by
  refine ⟨fun h => by simp [hparse] at h, fun _ => rfl, ?_⟩
  intro _ execution h
  cases h

theorem ToolStep.Ran.lifecycle {step : ToolStep Rest} {context : ToolCallContext Rest}
    {ran : OrchestratorRun Rest} (h : step.Ran context ran) : Lifecycle step ran := by
  cases h with
  | unparsed result hparse =>
      refine ⟨fun _ => ⟨rfl, rfl, ?_⟩, fun hnone => ?_, fun hnone => ?_⟩
      · intro execution hresult
        obtain rfl := Except.ok.inj hresult
        rfl
      · simp [hparse] at hnone
      · simp [hparse] at hnone
  | failed error hparse => exact failed_lifecycle _ _ hparse
  | refused result hparse => exact refused_lifecycle _ _ hparse
  | answered result hparse => exact refused_lifecycle _ _ hparse
  | undispatched error tool callback hcleared => exact failed_lifecycle _ _ hcleared.parsed
  | dispatched tool hgated => exact dispatchTool_lifecycle _ hgated.parsed hgated.registered

theorem ToolStep.Ran.gated {step : ToolStep Rest} {context : ToolCallContext Rest}
    {ran : OrchestratorRun Rest} (h : step.Ran context ran) (hinvoked : ran.invoked = true) :
    ∃ tool, Gated step context tool := by
  cases h with
  | unparsed => cases hinvoked
  | failed => cases hinvoked
  | refused => cases hinvoked
  | answered => cases hinvoked
  | undispatched => cases hinvoked
  | dispatched tool hgated => exact ⟨tool, hgated⟩

/-! ### The outcome that `defer` leaves -/

namespace ToolStep

/-- The tool is invoked and does not return an outcome. -/
def Fails (step : ToolStep Rest) (context : ToolCallContext Rest) (tool : ToolExecutor Rest) :
    Prop :=
  ∀ outcome, (tool.runOutcome step.call (step.dispatchContext context)).result ≠
    some (.ok outcome)

/-- No host code that called `defer` in this call failed or was cut off. -/
structure Careful (step : ToolStep Rest) (context : ToolCallContext Rest) : Prop where
  callback : ∀ tool, Cleared step context tool → ∀ callback ∈ step.options.beforeDispatch,
    ∀ error, (callback step.call (step.begin context).visible).result = .error error →
      (callback step.call (step.begin context).visible).context.deferredOutcome = none
  prepared : ∀ tool, Gated step context tool → step.Fails context tool →
    ∀ callback ∈ step.options.beforeDispatch,
      (callback step.call (step.begin context).visible).context.deferredOutcome = none
  executor : ∀ tool, Gated step context tool → step.Fails context tool →
    ∀ code, tool.code = .executor code →
      (code step.call (step.dispatchContext context).visible).context.deferredOutcome = none

end ToolStep

omit [Platform] in
theorem hostCode_clean {Result : Type} {code : ToolCallContext Rest → HostRun Rest Result}
    {context : ToolCallContext Rest}
    (hcode : (code context.visible).context.deferredOutcome = none)
    (hclean : context.deferredOutcome = none) :
    (hostCode code context).context.deferredOutcome = none := by
  change ((code context.visible).context.deferredOutcome).or context.deferredOutcome = none
  rw [hcode, hclean, Option.or_none]

omit [Platform] in
/-- Only an executor of the host's own leaves an outcome in the context. -/
theorem runOutcome_clean {tool : ToolExecutor Rest} {call : ToolCall}
    {context : ToolCallContext Rest}
    (hexecutor : ∀ code, tool.code = .executor code →
      (code call context.visible).context.deferredOutcome = none)
    (hclean : context.deferredOutcome = none) :
    (tool.runOutcome call context).context.deferredOutcome = none := by
  cases hcode : tool.code with
  | executor code =>
      have hrun : tool.runOutcome call context = hostCode (code call) context := by
        rw [ToolExecutor.runOutcome, hcode]
      rw [hrun]
      exact hostCode_clean (hexecutor code hcode) hclean
  | handler handle =>
      unfold ToolExecutor.runOutcome
      simp only [hcode]
      cases hvalid : tool.validateArguments call with
      | error error => exact hclean
      | ok answer =>
          cases answer with
          | some result => exact hclean
          | none =>
              dsimp only
              cases hrun : (hostCode (handle · call.arguments)
                  (context.beginToolCall call)).result with
              | none => exact hclean
              | some answer =>
                  cases answer with
                  | error error => exact hclean
                  | ok result => rfl

theorem dispatchTool_clean {tool : ToolExecutor Rest} {call : ToolCall} {elapsed : Nat}
    {context : ToolCallContext Rest} {planned : List ToolLifecycleEvent}
    (h : (∀ outcome, (tool.runOutcome call context).result ≠ some (.ok outcome)) →
      (tool.runOutcome call context).context.deferredOutcome = none) :
    (dispatchTool tool call elapsed context planned).context.deferredOutcome = none := by
  unfold dispatchTool
  dsimp only
  cases hrun : (tool.runOutcome call context).result with
  | none =>
      apply h
      intro outcome hok
      simp [hrun] at hok
  | some answer =>
      cases answer with
      | ok outcome => rfl
      | error error =>
          apply h
          intro outcome hok
          simp [hrun] at hok

namespace ToolStep
variable {step : ToolStep Rest} {context : ToolCallContext Rest}

omit [Platform] in
theorem dispatchContext_clean
    (hcallback : ∀ callback ∈ step.options.beforeDispatch,
      (callback step.call (step.begin context).visible).context.deferredOutcome = none)
    (hclean : context.deferredOutcome = none) :
    (step.dispatchContext context).deferredOutcome = none := by
  unfold dispatchContext
  cases hdispatch : step.options.beforeDispatch with
  | none => exact hclean
  | some callback => exact hostCode_clean (hcallback callback hdispatch) hclean

/-- A careful call leaves no outcome behind. -/
theorem Ran.clean {ran : OrchestratorRun Rest} (h : step.Ran context ran)
    (hcareful : step.Careful context) (hclean : context.deferredOutcome = none) :
    ran.context.deferredOutcome = none := by
  cases h with
  | unparsed => exact hclean
  | failed => exact hclean
  | refused => exact hclean
  | answered => exact hclean
  | undispatched error tool callback hcleared hcallback herror =>
      refine dispatchContext_clean ?_ hclean
      intro other hother
      obtain rfl := Option.some.inj (hcallback.symm.trans hother)
      exact hcareful.callback tool hcleared callback hcallback error herror
  | dispatched tool hgated =>
      apply dispatchTool_clean
      intro hfails
      apply runOutcome_clean (hcareful.executor tool hgated hfails)
      exact dispatchContext_clean (hcareful.prepared tool hgated hfails) hclean

end ToolStep

namespace LoopCall

def Careful (call : LoopCall Rest) (context : ToolCallContext Rest) : Prop :=
  match call.turn with
  | .observed _ _ _ => True
  | .replayed _ _ => True
  | .executed step => step.Careful (setToolContextIdentity call.identity context)

omit [Platform] in
theorem setToolContextIdentity_deferredOutcome (identity : Option DeferredIdentity)
    (context : ToolCallContext Rest) :
    (setToolContextIdentity identity context).deferredOutcome = context.deferredOutcome := by
  cases identity with
  | none => rfl
  | some identity => rfl

theorem next_clean (call : LoopCall Rest) (context : ToolCallContext Rest)
    (hcareful : call.Careful context) (hclean : context.deferredOutcome = none) :
    (call.next context).deferredOutcome = none := by
  have hbegin : (setToolContextIdentity call.identity context).deferredOutcome = none := by
    rw [setToolContextIdentity_deferredOutcome, hclean]
  unfold Careful at hcareful
  unfold next exec
  cases hturn : call.turn with
  | observed tools toolCall result => exact hbegin
  | replayed idempotencyKey result => exact hbegin
  | executed step =>
      rw [hturn] at hcareful
      have hrun := (step.runOne_ran _).clean hcareful hbegin
      dsimp only
      cases hresult : (step.runOne (setToolContextIdentity call.identity context)).result with
      | ok execution => exact hrun
      | error error => exact hrun

end LoopCall

omit [Platform] in
theorem ToolCallContext.visible_of_clean {context : ToolCallContext Rest}
    (hclean : context.deferredOutcome = none) : context.visible = context := by
  cases context
  cases hclean
  rfl

/-- A tool is invoked behind every check, and the events of its call follow the pattern. Over the
calls of a cycle, where no host code that called `defer` failed or was cut off, a call neither
meets nor passes on an outcome that another call left. -/
theorem tool_calls_gated_and_separate (context : ToolCallContext Rest)
    (hfresh : context.deferredOutcome = none) (calls : List (LoopCall Rest))
    (hcareful : Along LoopCall.next LoopCall.Careful calls context) :
    (∀ (step : ToolStep Rest) (before : ToolCallContext Rest),
      ((step.runOne before).invoked = true → ∃ tool, Gated step before tool) ∧
        Lifecycle step (step.runOne before)) ∧
    ∀ earlier call later, calls = earlier ++ call :: later →
      call.exec (run LoopCall.next earlier context) =
          call.exec (run LoopCall.next earlier context).visible ∧
        (call.next (run LoopCall.next earlier context)).deferredOutcome = none := by
  refine ⟨fun step before => ?_, fun earlier call later hcalls => ?_⟩
  · have hran := step.runOne_ran before
    exact ⟨hran.gated, hran.lifecycle⟩
  · have hclean : (run LoopCall.next earlier context).deferredOutcome = none :=
      along_preserves LoopCall.next_clean hcareful hfresh earlier (call :: later) hcalls
    have hnext : (run LoopCall.next (earlier ++ [call]) context).deferredOutcome = none := by
      apply along_preserves LoopCall.next_clean hcareful hfresh (earlier ++ [call]) later
      rw [hcalls, List.append_assoc, List.singleton_append]
    rw [run_append] at hnext
    rw [ToolCallContext.visible_of_clean hclean]
    exact ⟨rfl, hnext⟩

end

namespace Sample

/-- What an executor of the host's own does in its call. -/
abbrev Executor := ToolCall → ToolCallContext Unit →
  HostRun Unit (Option (Except String ToolCallOutcome))

/-- A tool that takes every call. -/
def toolOf (code : Executor) : ToolExecutor Unit where
  validateArguments _ := .ok none
  approvalRequirement _ _ := .notRequired
  code := .executor code

/-- It answers at once. -/
def echoes : Executor := fun call context =>
  ⟨context, some (.ok (.completed { toolCallId := call.id, content := "done", status := .success }))⟩

/-- It asks for its deferral and returns it. -/
def defers : Executor := fun _ context => ⟨context.defer, some (.ok context.deferralOutcome)⟩

/-- It asks for its deferral and fails. -/
def breaks : Executor := fun _ context => ⟨context.defer, some (.error "offline")⟩

def stepOf (name : String) (code : Executor) (extraContent : Option Json) : ToolStep Unit where
  tools := (∅ : Table (ToolExecutor Unit)).insert name (toolOf code)
  call := ⟨"call_" ++ name, name, [], extraContent⟩
  options := {}
  approval _ _ _ _ := none
  elapsed := 0

/-- A call of such a tool under the checkpoint. -/
def callOf (name : String) (code : Executor) : LoopCall Unit :=
  ⟨some ⟨"checkpoint", "tool:" ++ name, 1, otherDigest.1⟩, .executed (stepOf name code none)⟩

def fresh : ToolCallContext Unit := { rest := () }

theorem stepOf_found (name : String) (code : Executor) (extraContent : Option Json) :
    (stepOf name code extraContent).tools[(stepOf name code extraContent).call.name]? =
      some (toolOf code) := by
  change ((∅ : Table (ToolExecutor Unit)).insert name (toolOf code))[name]? = _
  rw [Table.get_insert, if_pos rfl]

theorem runOne_stepOf [Platform] (name : String) (code : Executor)
    (context : ToolCallContext Unit) : (stepOf name code none).runOne context =
      dispatchTool (toolOf code) (stepOf name code none).call 0
        ((stepOf name code none).begin context) [.planned (stepOf name code none).call none] := by
  unfold ToolStep.runOne
  rw [stepOf_found]
  rfl

end Sample

open Sample in
/-- A call that is deferred, and one that is not. -/
theorem deferred_call_then_plain_call :
    @LoopCall.exec (runtime []).toPlatform Unit (callOf "echo" echoes)
        (@LoopCall.next (runtime []).toPlatform Unit (callOf "defer" defers) fresh) =
      @LoopCall.exec (runtime []).toPlatform Unit (callOf "echo" echoes)
        (@LoopCall.next (runtime []).toPlatform Unit (callOf "defer" defers) fresh).visible := by
  let _ := (runtime []).toPlatform
  have hcareful : ∀ name code, code = defers ∨ code = echoes → ∀ context,
      (callOf name code).Careful context := by
    intro name code hcode context
    change (stepOf name code none).Careful _
    refine ⟨fun _ _ _ h => absurd h (Option.not_mem_none _),
      fun _ _ _ _ h => absurd h (Option.not_mem_none _), ?_⟩
    intro tool hgated hfails
    have hfound := hgated.registered
    rw [stepOf_found] at hfound
    obtain rfl := Option.some.inj hfound
    rcases hcode with rfl | rfl
    · exact absurd rfl (hfails _)
    · exact absurd rfl (hfails _)
  have hseparate := tool_calls_gated_and_separate fresh rfl
    [callOf "defer" defers, callOf "echo" echoes]
    ⟨hcareful _ _ (.inl rfl) _, hcareful _ _ (.inr rfl) _, trivial⟩
  exact (hseparate.2 [callOf "defer" defers] (callOf "echo" echoes) [] rfl).1

open Sample in
/-- A call whose arguments could not be read has no event; and the deferral that a tool asked for
before it failed becomes the outcome of the call after it. -/
theorem failed_deferral_passed_on :
    (@ToolStep.runOne (runtime []).toPlatform Unit (stepOf "echo" echoes (some (.obj [])))
      fresh).events = [] ∧
    (@LoopCall.exec (runtime []).toPlatform Unit (callOf "echo" echoes)
      (@LoopCall.next (runtime []).toPlatform Unit (callOf "break" breaks) fresh)).2.outcome =
        .deferred ⟨DeferredToolHandle.schema, "checkpoint", "tool:break", 1, otherDigest.1⟩ := by
  let _ := (runtime []).toPlatform
  have hbroken : (LoopCall.next (callOf "break" breaks) fresh).deferredOutcome =
      some (.deferred ⟨DeferredToolHandle.schema, "checkpoint", "tool:break", 1, otherDigest.1⟩) := by
    simp only [LoopCall.next, LoopCall.exec, callOf, runOne_stepOf]
    rfl
  refine ⟨rfl, ?_⟩
  generalize LoopCall.next (callOf "break" breaks) fresh = after at hbroken
  cases after
  cases hbroken
  simp only [LoopCall.exec, callOf, runOne_stepOf]
  rfl

end VvAgent
