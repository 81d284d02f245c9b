import VvAgent.Tools.Policy
import VvAgent.Workspace.Paths

/-!
How tool policies meet. The policies of an agent, a runner and a run become one; a policy is
projected into the metadata of a task and read back from there; a sub task gets the policy of its
parent with the denials of its own agent; and the planner keeps the tools that are left.
-/

namespace VvAgent
open Lib Lib.Outcome

/-- The denials of both. -/
def MetadataDenials.join (first second : MetadataDenials) : MetadataDenials where
  deniedSideEffects := first.deniedSideEffects ++ second.deniedSideEffects
  deniedCapabilityTags := first.deniedCapabilityTags ++ second.deniedCapabilityTags
  denyTerminalTools := first.denyTerminalTools || second.denyTerminalTools
  deniedCostDimensions := first.deniedCostDimensions ++ second.deniedCostDimensions

/-- The labels are trimmed, as `normalized` leaves them. -/
def ToolMetadata.Trimmed (metadata : ToolMetadata) : Prop :=
  ∀ label ∈ metadata.capabilityTags ++ metadata.costDimensions, trimMetadataWhitespace label = label

/-- A registered tool: whether it is hidden from the model, and its metadata, which is normalized
when the tool is registered. -/
structure RegisteredTool where
  hidden : Bool := false
  toolMetadata : Option ToolMetadata
  trimmed : ∀ metadata ∈ toolMetadata, metadata.Trimmed

namespace ToolRegistry

end ToolRegistry

end VvAgent
