import VvAgent.Distributed.Contract

/-!
Tool policies: which tools may be called, by their names, by their arguments and by what their
metadata says about them.
-/

namespace VvAgent

/-- The metadata of a tool that a policy can deny it by. -/
structure ToolMetadata where
  sideEffect : ToolSideEffect := .unknown
  terminal : Bool := false
  capabilityTags : List String := []
  costDimensions : List String := []
  deriving DecidableEq

inductive ApprovalPolicy where
  | default
  | never
  | always
  | onRequest
  deriving DecidableEq

structure ToolPolicy where
  allowedTools : Option (List String) := none
  disallowedTools : List String := []
  approval : ApprovalPolicy := .default
  canUseTool : Option (String → JsonObject → Bool) := none
  metadataDenials : MetadataDenials := {}

/-- The denial that a tool of this metadata falls under. -/
def MetadataDenials.source (denials : MetadataDenials) : Option ToolMetadata → Option String
  | none => none
  | some metadata =>
      if denials.deniedSideEffects.contains metadata.sideEffect then some "metadata.side_effect"
      else if denials.denyTerminalTools && metadata.terminal then some "metadata.terminal"
      else if metadata.capabilityTags.any (denials.deniedCapabilityTags.contains ·) then
        some "metadata.capability_tag"
      else if metadata.costDimensions.any (denials.deniedCostDimensions.contains ·) then
        some "metadata.cost_dimension"
      else none

namespace ToolPolicy

def metadataDenialSource (policy : ToolPolicy) (metadata : Option ToolMetadata) : Option String :=
  policy.metadataDenials.source metadata

def allowsArguments (policy : ToolPolicy) (toolName : String) (arguments : JsonObject) : Bool :=
  match policy.canUseTool with
  | some predicate => predicate toolName arguments
  | none => true

end ToolPolicy

end VvAgent
