import VvAgent.Checkpoint.Archive

/-!
Reading the archive back. A batch is stored as its canonical text, so what is read back is
what was archived only for records that their canonical text does not change. For such
records the decoder follows the archive step by step: one batch more in the archive is one
more round of the decoder, and the aggregate it recomputes is the frontier of the record.
-/

namespace VvAgent
open Lib Lib.Outcome

section
variable [Platform]

/-- A cycle record that is read back from its canonical text unchanged. -/
structure CycleRecord.Stable (cycle : CycleRecord) : Prop where
  text : cycle.toDict.canonical = cycle.toDict
  reads : CycleRecord.fromDict cycle.toDict = .ok cycle

/-- A model-call record that is read back from its canonical text unchanged. -/
structure ModelCallRecord.Stable (record : ModelCallRecord) : Prop where
  text : record.toValue.canonical = record.toValue
  reads : record.wellFormed = true

omit [Platform] in
theorem Json.mapItems_eq_map (f : JsonNumber → JsonNumber) (items : List Json) :
    Json.mapItems f items = items.map (Json.mapNumbers f) := by
  induction items with
  | nil => rfl
  | cons item rest ih => simp only [Json.mapItems, List.map_cons, ih]

/-- Only the records of a batch contain numbers that a text may change. -/
theorem historyPayload_canonical (key : String) (sequence : Nat) (previous : Option String)
    (cycles calls : List Json) :
    (historyPayload key sequence previous cycles calls).canonical =
      historyPayload key sequence previous (cycles.map Json.canonical)
        (calls.map Json.canonical) := by
  have hprevious : (Json.optStr previous).canonical = Json.optStr previous := by
    cases previous with
    | none => rfl
    | some digest => rfl
  simp only [Json.canonical] at hprevious
  simp only [historyPayload, Json.canonical, Json.mapNumbers, Json.mapMembers,
    Json.mapItems_eq_map, hprevious]
  rfl

theorem archivePayload_canonical {checkpoint : Checkpoint}
    (hcycles : ∀ cycle ∈ checkpoint.cycles, cycle.Stable)
    (hcalls : ∀ record ∈ checkpoint.modelCalls, record.Stable) :
    checkpoint.archivePayload.canonical = checkpoint.archivePayload := by
  rw [Checkpoint.archivePayload, historyPayload_canonical]
  congr 1
  · rw [List.map_map]
    refine List.map_congr_left fun cycle hmem => ?_
    exact (hcycles cycle (checkpoint.movedCycles_sublist.subset hmem)).text
  · rw [List.map_map]
    refine List.map_congr_left fun record hmem => ?_
    exact (hcalls record (checkpoint.movedCalls_sublist.subset hmem)).text

theorem decodeCycles_append (cycles moved : List CycleRecord)
    (hstable : ∀ cycle ∈ moved, cycle.Stable)
    (hordered : (cycles ++ moved).Pairwise fun left right => left.index < right.index) :
    decodeCycles cycles (moved.map CycleRecord.toDict) = .ok (cycles ++ moved) := by
  induction moved generalizing cycles with
  | nil => simp [decodeCycles]
  | cons cycle rest ih =>
      have hnext : ∀ existing ∈ cycles, existing.index < cycle.index := fun existing hmem =>
        (List.pairwise_append.mp hordered).2.2 existing hmem cycle (by simp)
      have hlast :
          (cycles.getLast?.any fun existing => decide (cycle.index ≤ existing.index)) = false := by
        cases hlast : cycles.getLast? with
        | none => rfl
        | some existing =>
            have hless := hnext existing (List.mem_of_getLast? hlast)
            simpa using hless
      have hread := (hstable cycle (by simp)).reads
      simp only [List.map_cons, decodeCycles, withCode, hread, hlast, refuse_false, ok_bind]
      rw [List.append_cons] at hordered
      rw [List.append_cons cycles cycle rest]
      exact ih (cycles ++ [cycle]) (fun other hother => hstable other (by simp [hother])) hordered

omit [Platform] in
theorem decodeCalls_append (records moved : List ModelCallRecord) (aggregate : CheckpointHistory)
    (hnodup : ((records ++ moved).map (·.callId)).Nodup) :
    decodeCalls records aggregate moved =
      .ok (records ++ moved, moved.foldl CheckpointHistory.addCall aggregate) := by
  induction moved generalizing records aggregate with
  | nil => simp [decodeCalls]
  | cons record rest ih =>
      have hnew : (records.any fun existing => existing.callId == record.callId) = false := by
        rw [List.map_append, List.map_cons, List.nodup_append] at hnodup
        rw [List.any_eq_false]
        intro existing hmem
        have hne := hnodup.2.2 existing.callId (List.mem_map_of_mem hmem) record.callId (by simp)
        simpa using hne
      simp only [decodeCalls, hnew, refuse_false, ok_bind, List.foldl_cons]
      rw [List.append_cons] at hnodup
      rw [List.append_cons records record rest]
      exact ih (records ++ [record]) (aggregate.addCall record) hnodup

omit [Platform] in
/-- Adding calls to a frontier leaves its place in the chain alone. -/
theorem foldl_addCall_with (calls : List ModelCallRecord) (history : CheckpointHistory)
    (sequence cycleCount : Nat) (headDigest : Option String) :
    calls.foldl CheckpointHistory.addCall { history with sequence, cycleCount, headDigest } =
      { calls.foldl CheckpointHistory.addCall history with
        sequence, cycleCount, headDigest } := by
  induction calls generalizing history with
  | nil => rfl
  | cons record rest ih => exact ih (history.addCall record)

/-- The frontier that reading `sequence` batches amounts to. -/
def DecodeState.frontier (state : DecodeState) (sequence : Nat) : CheckpointHistory :=
  { state.aggregate with
    sequence
    cycleCount := state.cycles.length
    headDigest := state.previous }

/-- What the decoder has accumulated after the batch of a record. -/
def DecodeState.take (state : DecodeState) (checkpoint : Checkpoint) (digest : String) :
    DecodeState where
  cycles := state.cycles ++ checkpoint.movedCycles
  modelCalls := state.modelCalls ++ checkpoint.movedCalls
  previous := some digest
  aggregate := checkpoint.movedCalls.foldl CheckpointHistory.addCall state.aggregate

omit [Platform] in
/-- The decoder and the archive move the frontier alike. -/
theorem DecodeState.frontier_take (state : DecodeState) (checkpoint : Checkpoint) (digest : String)
    (hfrontier : state.frontier checkpoint.history.sequence = checkpoint.history) :
    (state.take checkpoint digest).frontier (checkpoint.history.sequence + 1) =
      checkpoint.archivedFrontier digest := by
  have hcount : checkpoint.history.cycleCount = state.cycles.length := by
    rw [← hfrontier]
    rfl
  have hhistory : { checkpoint.history with
      cycleCount := checkpoint.history.cycleCount + checkpoint.movedCycles.length } =
      { state.aggregate with
        sequence := checkpoint.history.sequence
        cycleCount := state.cycles.length + checkpoint.movedCycles.length
        headDigest := state.previous } := by
    rw [hcount]
    conv_lhs => rw [← hfrontier]
    rfl
  rw [Checkpoint.archivedFrontier, hhistory, foldl_addCall_with]
  simp only [DecodeState.frontier, DecodeState.take, List.length_append]

theorem decodePayloads_concat (key : String) (index : Nat) (state : DecodeState)
    (payloads : List Json) (payload : Json) :
    decodePayloads key index state (payloads ++ [payload]) =
      decodePayloads key index state payloads >>= fun next =>
        decodePayload key (index + payloads.length) next payload := by
  induction payloads generalizing index state with
  | nil =>
      simp only [List.nil_append, decodePayloads, ok_bind, List.length_nil, Nat.add_zero]
      cases decodePayload key index state payload with
      | ok next => rfl
      | error error => rfl
  | cons first rest ih =>
      simp only [List.cons_append, decodePayloads, List.length_cons]
      cases decodePayload key index state first with
      | error error => rfl
      | ok next =>
          simp only [ok_bind, ih]
          rw [Nat.add_right_comm, Nat.add_assoc, Nat.add_comm rest.length 1,
            Nat.add_comm 1 rest.length]

theorem mapM_fromValue {records : List ModelCallRecord}
    (hstable : ∀ record ∈ records, record.Stable) :
    (records.map ModelCallRecord.toValue).mapM ModelCallRecord.fromValue = some records := by
  induction records with
  | nil => rfl
  | cons record rest ih =>
      have hfirst := record.fromValue_toValue (hstable record (by simp)).reads
      have hrest := ih fun other hother => hstable other (by simp [hother])
      simp [hfirst, hrest]

/-- Reading the batch of a record whose history is stable takes the decoder from the
frontier before the batch to the frontier behind it. -/
theorem decodePayload_archived {checkpoint : Checkpoint} {state : DecodeState} {digest : String}
    (hcycles : ∀ cycle ∈ checkpoint.cycles, cycle.Stable)
    (hcalls : ∀ record ∈ checkpoint.modelCalls, record.Stable)
    (hsome : checkpoint.archivesNothing = false)
    (hdigest : sha256Canonical checkpoint.archivePayload "checkpoint history" = .ok digest)
    (hfrontier : state.frontier checkpoint.history.sequence = checkpoint.history)
    (hordered : (state.cycles ++ checkpoint.movedCycles).Pairwise
      fun left right => left.index < right.index)
    (hnodup : ((state.modelCalls ++ checkpoint.movedCalls).map (·.callId)).Nodup) :
    decodePayload checkpoint.checkpointKey checkpoint.history.sequence state
      checkpoint.archivePayload.canonical = .ok (state.take checkpoint digest) := by
  have hprevious : state.previous = checkpoint.history.headDigest := by
    rw [← hfrontier]
    rfl
  have hmoved : ∀ cycle ∈ checkpoint.movedCycles, cycle.Stable := fun cycle hmem =>
    hcycles cycle (checkpoint.movedCycles_sublist.subset hmem)
  have hmovedCalls : ∀ record ∈ checkpoint.movedCalls, record.Stable := fun record hmem =>
    hcalls record (checkpoint.movedCalls_sublist.subset hmem)
  have hempty : (checkpoint.movedCalls.isEmpty && checkpoint.movedCycles.isEmpty) = false := by
    rw [Bool.and_comm]
    exact hsome
  rw [archivePayload_canonical hcycles hcalls]
  have hread := decodeCycles_append state.cycles checkpoint.movedCycles hmoved hordered
  have hrecords := decodeCalls_append state.modelCalls checkpoint.movedCalls state.aggregate hnodup
  unfold decodePayload
  simp only [Checkpoint.archivePayload, historyPayload, Json.asObject?, require_some, ok_bind,
    List.lookup_cons, hprevious]
  simp only [Checkpoint.archivePayload, historyPayload, Json.nat] at hdigest
  simp [Json.asArray?, Json.asU64?, Json.nat, hread, hempty, hrecords, mapM_fromValue hmovedCalls,
    hdigest, DecodeState.take]

/-- An archive that was read up to the frontier of the record, and does not overlap it, is
the archive of the record. -/
theorem decodeCheckpointHistory_of_decoded {checkpoint : Checkpoint} {payloads : List Json}
    {state : DecodeState} (hlength : payloads.length = checkpoint.history.sequence)
    (hdecoded : decodePayloads checkpoint.checkpointKey 0 {} payloads = .ok state)
    (hfrontier : state.frontier checkpoint.history.sequence = checkpoint.history)
    (hcycles : ∀ archived ∈ state.cycles, ∀ active ∈ checkpoint.cycles,
      archived.index < active.index)
    (hcalls : ((state.modelCalls ++ checkpoint.modelCalls).map (·.callId)).Nodup) :
    decodeCheckpointHistory checkpoint payloads =
      .ok ⟨state.cycles, state.modelCalls, checkpoint.history⟩ := by
  have haggregate : { state.aggregate with
      sequence := payloads.length
      cycleCount := state.cycles.length
      headDigest := state.previous } = checkpoint.history := by
    rw [hlength]
    exact hfrontier
  have hcycleOverlap : (state.cycles.any fun archived =>
      checkpoint.cycles.any fun active => active.index == archived.index) = false := by
    simp only [List.any_eq_false, List.any_eq_true, beq_iff_eq, not_exists, not_and]
    intro archived harchived active hactive hsame
    have hless := hcycles archived harchived active hactive
    rw [hsame] at hless
    exact UInt32.lt_irrefl _ hless
  have hcallOverlap : (state.modelCalls.any fun archived =>
      checkpoint.modelCalls.any fun active => active.callId == archived.callId) = false := by
    rw [List.map_append, List.nodup_append] at hcalls
    simp only [List.any_eq_false, List.any_eq_true, beq_iff_eq, not_exists, not_and]
    intro archived harchived active hactive hsame
    exact hcalls.2.2 archived.callId (List.mem_map_of_mem harchived) active.callId
      (List.mem_map_of_mem hactive) hsame.symm
  unfold decodeCheckpointHistory
  simp only [hlength, bne_self_eq_false, refuse_false, ok_bind, hdecoded]
  rw [hlength] at haggregate
  simp only [haggregate, bne_self_eq_false, refuse_false, ok_bind, hcycleOverlap, hcallOverlap,
    Bool.or_self, pure_ok]

end

end VvAgent
