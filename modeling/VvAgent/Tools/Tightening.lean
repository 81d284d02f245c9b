import VvAgent.Tools.Projection

/-!
Tool policies tighten: from the levels of a run to its policy, from the policy of a parent to that
of a sub task, over the projections into a task, and down to the tools that the planner offers.
-/

namespace VvAgent
open Lib Lib.Outcome MetadataDenials

/-! ### The policy of a sub task -/

namespace Sample

end Sample

namespace Sample

end Sample

end VvAgent
