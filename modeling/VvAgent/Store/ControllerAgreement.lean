import VvAgent.Store.SqliteController
import VvAgent.Store.Step
import VvAgent.Sample

/-!
When the controller transitions of the stores agree. The transformation behind the guards is
the same in all of them, so what decides is the guards, the way a host record is found, and
whether the archive takes what the SQLite write moves into it.
-/

namespace VvAgent
open Lib Lib.Outcome

section
variable [Runtime]

/-- Transitions that agree so far agree when their remainders do. -/
theorem CommandsAgree.bind {α : Type} {first second : CheckpointResult α}
    {memory : α → CheckpointResult CommandOutcome}
    {sqlite : α → CheckpointResult (CommandOutcome × ArchivedHistory)}
    (hfirst : AgreeBy CheckpointError.code first second)
    (hrest : ∀ a, first = .ok a → CommandsAgree (memory a) (sqlite a)) :
    CommandsAgree (first >>= memory) (second >>= sqlite) := by
  cases first with
  | error error =>
      cases second with
      | error error' => exact hfirst
      | ok a => exact hfirst.elim
  | ok a =>
      cases second with
      | error error' => exact hfirst.elim
      | ok a' =>
          obtain rfl : a = a' := hfirst
          exact hrest a rfl

end

namespace Sample

end Sample

end VvAgent
