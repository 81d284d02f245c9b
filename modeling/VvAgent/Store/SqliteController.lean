import VvAgent.Checkpoint.Archive
import VvAgent.Store.MemoryController

/-!
Controller commands outside the in-memory store. SQLite has its own copy of the transition,
which checks the guards in another order, finds host records by their interaction, and
archives history with the write; Redis runs the in-memory transition on one record. The
record set of a store is a table with the keys of the SQLite schema.
-/

namespace VvAgent
open Lib Lib.Outcome

namespace HostRecords

end HostRecords

/-- What an applied command leaves: the record, the host records, and its answer. -/
structure CommandOutcome where
  checkpoint : Checkpoint
  hostRecords : Table HostInteractionRecord
  receipt : ControllerCommandReceipt
  wake : ControllerCommandWake

section
variable [Runtime]

/-- Two outcomes of a command are the same, up to the history that SQLite archives. -/
def CommandsAgree (memory : CheckpointResult CommandOutcome)
    (sqlite : CheckpointResult (CommandOutcome × ArchivedHistory)) : Prop :=
  match memory, sqlite with
  | .error error, .error error' => error.code = error'.code
  | .ok outcome, .ok (outcome', _) =>
      (∃ batch,
        normalizeCheckpointHistory outcome.checkpoint = .ok (outcome'.checkpoint, batch)) ∧
      outcome.hostRecords = outcome'.hostRecords ∧ outcome.receipt = outcome'.receipt ∧
      outcome.wake = outcome'.wake
  | _, _ => False

end

end VvAgent
