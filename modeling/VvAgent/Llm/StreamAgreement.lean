import VvAgent.Lib.Owners
import VvAgent.Llm.Responses
import VvAgent.Sample

/-!
Streamed and complete responses. A response is cut into deltas, the tool calls into pieces that
come interleaved. The collected calls are those of the response exactly where the pieces come in
turn: a fragment is put to the call that was started last, whatever call it belongs to.
-/

namespace VvAgent
open Lib

/-! ### Cutting a response into deltas -/

/-- The pieces of a call: the first one has everything but a part of the arguments, and the others
have only fragments of these. -/
structure CutCall (call : VvToolCall) (pieces : List VvToolCall) : Prop where
  split : ∃ opening later, pieces = { call with arguments := opening } :: later ∧
    ∀ piece ∈ later, ∃ fragment, piece = { arguments := fragment, index := call.index }
  arguments : String.join (pieces.map (·.arguments)) = call.arguments

/-- The pieces of the calls, each with the place of its call. -/
structure CutCalls (calls : List VvToolCall) (pieces : List (Nat × VvToolCall)) : Prop where
  bound : ∀ piece ∈ pieces, piece.1 < calls.length
  cut : ∀ owner call, calls[owner]? = some call → CutCall call (owned pieces owner)

/-- The deltas are the response, cut. -/
structure CutResponse {Usage : Type} (response : ChatResponse Usage)
    (deltas : List (ChatStreamDelta Usage)) (pieces : List (Nat × VvToolCall)) : Prop where
  content : String.join (deltas.map (·.content)) = response.content
  reasoning : String.join (deltas.map (·.reasoningContent)) = response.reasoningContent.getD ""
  usage : deltas.filterMap (·.usage) = response.usage.toList
  flat : deltas.flatMap (·.toolCalls) = pieces.map (·.2)
  calls : CutCalls response.toolCalls pieces

/-- The calls of a response have ids of their own, and names. -/
structure NamedCalls (calls : List VvToolCall) : Prop where
  ids : ∀ call ∈ calls, call.id ≠ ""
  names : ∀ call ∈ calls, call.name ≠ ""
  distinct : (calls.map (·.id)).Nodup

/-! ### What is collected -/

/-- The fragments before the first start of a call: their text and their last index; and the calls
that are started, with the fragments up to the next start. -/
def gather : List VvToolCall → (String × Option Nat) × List VvToolCall
  | [] => (("", none), [])
  | piece :: rest =>
      if piece.id = "" then
        ((piece.arguments ++ (gather rest).1.1, (gather rest).1.2.or piece.index), (gather rest).2)
      else
        (("", none),
          { piece with
            arguments := piece.arguments ++ (gather rest).1.1
            index := (gather rest).1.2.or piece.index } :: (gather rest).2)

theorem gather_fragment {piece : VvToolCall} (hpiece : piece.id = "") (rest : List VvToolCall) :
    gather (piece :: rest) =
      ((piece.arguments ++ (gather rest).1.1, (gather rest).1.2.or piece.index),
        (gather rest).2) := by
  rw [gather, if_pos hpiece]

theorem gather_start {piece : VvToolCall} (hpiece : piece.id ≠ "") (rest : List VvToolCall) :
    gather (piece :: rest) =
      (("", none),
        { piece with
          arguments := piece.arguments ++ (gather rest).1.1
          index := (gather rest).1.2.or piece.index } :: (gather rest).2) := by
  rw [gather, if_neg hpiece]

/-- The starts among the pieces. -/
def starts (pieces : List VvToolCall) : List VvToolCall := pieces.filter (·.id ≠ "")

/-- A piece in a stream: the start of a call, or a fragment. -/
def Piece (piece : VvToolCall) : Prop :=
  piece.id = "" → piece.name = "" ∧ piece.extraContent = none

def VvToolCall.toParts (call : VvToolCall) : String × StreamingToolCallParts :=
  (call.id,
    { id := call.id, index := call.index, name := call.name, arguments := call.arguments
      extraContent := call.extraContent })

/-- The stream that has collected the calls. -/
def streamOf (calls : List VvToolCall) : ToolCallStream where
  slots := calls.map VvToolCall.toParts
  activeToolCallKey := calls.getLast?.map (·.id)

def VvToolCall.extend (call : VvToolCall) (text : String) (index : Option Nat) : VvToolCall :=
  { call with arguments := call.arguments ++ text, index := index.or call.index }

/-- What becomes of the calls when fragments and further calls are gathered. -/
def absorb (calls : List VvToolCall) (gathered : (String × Option Nat) × List VvToolCall) :
    List VvToolCall :=
  calls.dropLast ++ calls.getLast?.toList.map (·.extend gathered.1.1 gathered.1.2) ++ gathered.2

theorem VvToolCall.extend_nothing (call : VvToolCall) : call.extend "" none = call := by
  cases call
  simp [VvToolCall.extend]

theorem VvToolCall.extend_extend (call : VvToolCall) (text more : String)
    (index later : Option Nat) :
    (call.extend text index).extend more later = call.extend (text ++ more) (later.or index) := by
  unfold VvToolCall.extend
  rw [String.append_assoc, Option.or_assoc]

theorem absorb_concat (front : List VvToolCall) (last : VvToolCall)
    (gathered : (String × Option Nat) × List VvToolCall) :
    absorb (front ++ [last]) gathered =
      front ++ last.extend gathered.1.1 gathered.1.2 :: gathered.2 := by
  simp [absorb]

theorem absorb_calls (calls more : List VvToolCall) :
    absorb calls (("", none), more) = calls ++ more := by
  cases calls using List.reverseRecOn with
  | nil => rfl
  | append_singleton front last =>
      rw [absorb_concat, VvToolCall.extend_nothing, List.append_assoc, List.singleton_append]

@[simp]
theorem VvToolCall.toParts_fst (call : VvToolCall) : call.toParts.1 = call.id := rfl

@[simp]
theorem VvToolCall.toParts_toToolCall (call : VvToolCall) : call.toParts.2.toToolCall = call := rfl

theorem streamOf_concat (front : List VvToolCall) (last : VvToolCall) :
    streamOf (front ++ [last]) =
      { slots := front.map VvToolCall.toParts ++ [last.toParts], activeToolCallKey := some last.id } := by
  rw [streamOf, List.getLast?_concat, List.map_append, List.map_singleton]
  rfl

/-- A piece that belongs to the last call changes this one only. -/
theorem take_last {front : List VvToolCall} (slot : String × StreamingToolCallParts)
    (hlast : slot.1 ∉ front.map (·.id)) (delta : VvToolCall) :
    (front.map VvToolCall.toParts ++ [slot]).map (fun other =>
        if other.1 = slot.1 then (other.1, other.2.take delta) else other) =
      front.map VvToolCall.toParts ++ [(slot.1, slot.2.take delta)] := by
  rw [List.map_append, List.map_singleton, if_pos rfl]
  congr 1
  rw [List.map_map]
  refine List.map_congr_left fun call hcall => ?_
  have hne : call.id ≠ slot.1 := fun heq => hlast (heq ▸ List.mem_map_of_mem hcall)
  rw [Function.comp_apply, VvToolCall.toParts_fst, if_neg hne]

theorem push_start {calls : List VvToolCall} {piece : VvToolCall} (hstart : piece.id ≠ "")
    (hnew : piece.id ∉ calls.map (·.id)) (index : Nat) :
    (streamOf calls).push piece index = streamOf (calls ++ [piece]) := by
  have hkey : resolveStreamToolCallKey piece index (streamOf calls).activeToolCallKey = piece.id := by
    rw [resolveStreamToolCallKey, if_pos hstart]
  have hfresh : ¬ (streamOf calls).slots.any (·.1 = piece.id) = true := by
    intro hany
    obtain ⟨slot, hslot, heq⟩ := List.any_eq_true.mp hany
    obtain ⟨call, hcall, rfl⟩ := List.mem_map.mp hslot
    exact hnew (of_decide_eq_true heq ▸ List.mem_map_of_mem hcall)
  have htaken : (StreamingToolCallParts.take { id := piece.id, index := piece.index } piece) =
      piece.toParts.2 := by
    unfold StreamingToolCallParts.take VvToolCall.toParts
    rw [if_pos hstart, String.empty_append, Option.or_self]
    congr 1
    · exact ite_eq_left_iff.mpr fun hname => (not_not.mp hname).symm
    · cases piece.extraContent <;> rfl
  have htake := take_last (piece.id, { id := piece.id, index := piece.index }) hnew piece
  rw [htaken] at htake
  rw [streamOf_concat, ToolCallStream.push]
  simp only [hkey, if_neg hfresh, if_neg hstart]
  rw [ToolCallStream.mk.injEq]
  exact ⟨htake, rfl⟩

theorem push_fragment {front : List VvToolCall} {last piece : VvToolCall} (hpiece : Piece piece)
    (hfragment : piece.id = "") (hlast : last.id ∉ front.map (·.id)) (index : Nat) :
    (streamOf (front ++ [last])).push piece index =
      streamOf (front ++ [last.extend piece.arguments piece.index]) := by
  obtain ⟨hname, hextra⟩ := hpiece hfragment
  have hkey : resolveStreamToolCallKey piece index (some last.id) = last.id := by
    rw [resolveStreamToolCallKey, if_neg (not_not_intro hfragment), Option.getD_some]
  have hknown : (front.map VvToolCall.toParts ++ [last.toParts]).any (·.1 = last.id) = true :=
    List.any_eq_true.mpr
      ⟨last.toParts, List.mem_append_right _ (List.mem_singleton_self _), decide_eq_true rfl⟩
  have htaken : last.toParts.2.take piece =
      (last.extend piece.arguments piece.index).toParts.2 := by
    unfold StreamingToolCallParts.take VvToolCall.toParts VvToolCall.extend
    rewrite [if_neg (not_not_intro hfragment), if_neg (not_not_intro hname), hextra]
    cases last.extraContent <;> rfl
  have htake := take_last last.toParts hlast piece
  rw [htaken] at htake
  rw [streamOf_concat, streamOf_concat, ToolCallStream.push]
  simp only [hkey, if_pos hknown]
  rw [ToolCallStream.mk.injEq]
  exact ⟨htake, rfl⟩

/-- What a stream has collected after some more pieces. -/
theorem push_all (entries : List (VvToolCall × Nat)) (calls : List VvToolCall)
    (hpieces : ∀ entry ∈ entries, Piece entry.1)
    (hfirst : calls = [] → ∀ entry ∈ entries.head?, entry.1.id ≠ "")
    (hdistinct : (calls.map (·.id) ++ (starts (entries.map (·.1))).map (·.id)).Nodup) :
    entries.foldl (fun stream entry => stream.push entry.1 entry.2) (streamOf calls) =
      streamOf (absorb calls (gather (entries.map (·.1)))) := by
  induction entries generalizing calls with
  | nil =>
      rw [List.map_nil, gather, absorb_calls, List.append_nil]
      rfl
  | cons entry rest ih =>
      obtain ⟨piece, index⟩ := entry
      have hpiece : Piece piece := hpieces (piece, index) List.mem_cons_self
      have hrest : ∀ other ∈ rest, Piece other.1 := fun other hother =>
        hpieces other (List.mem_cons_of_mem _ hother)
      rw [List.foldl_cons, List.map_cons]
      by_cases hstart : piece.id = ""
      · have hne : calls ≠ [] := fun hnil => hfirst hnil (piece, index) rfl hstart
        obtain ⟨front, last, rfl⟩ : ∃ front last, calls = front ++ [last] :=
          ⟨calls.dropLast, calls.getLast hne, (List.dropLast_append_getLast hne).symm⟩
        have hstarts : starts (piece :: rest.map (·.1)) = starts (rest.map (·.1)) := by
          rw [starts, List.filter_cons_of_neg (by simpa using hstart), starts]
        rw [List.map_cons, hstarts] at hdistinct
        have hids : (front ++ [last.extend piece.arguments piece.index]).map (·.id) =
            (front ++ [last]).map (·.id) := by
          rw [List.map_append, List.map_append]
          rfl
        have hlast : last.id ∉ front.map (·.id) := by
          have hnodup := (List.nodup_append.mp hdistinct).1
          rw [List.map_append] at hnodup
          intro hmem
          exact (List.nodup_append.mp hnodup).2.2 _ hmem _ (List.mem_singleton_self _) rfl
        rw [push_fragment hpiece hstart hlast,
          ih _ hrest (fun hnil => absurd hnil (List.append_ne_nil_of_right_ne_nil _ (by simp)))
            (hids ▸ hdistinct),
          absorb_concat, absorb_concat, gather_fragment hstart, VvToolCall.extend_extend]
      · have hstarts : starts (piece :: rest.map (·.1)) = piece :: starts (rest.map (·.1)) := by
          rw [starts, List.filter_cons_of_pos (by simpa using hstart), starts]
        rw [List.map_cons, hstarts, List.map_cons] at hdistinct
        have hnew : piece.id ∉ calls.map (·.id) := fun hmem =>
          (List.nodup_append.mp hdistinct).2.2 _ hmem _ List.mem_cons_self rfl
        have hids : (calls ++ [piece]).map (·.id) ++ (starts (rest.map (·.1))).map (·.id) =
            calls.map (·.id) ++ piece.id :: (starts (rest.map (·.1))).map (·.id) := by
          rw [List.map_append, List.append_assoc]
          rfl
        rw [push_start hstart hnew,
          ih _ hrest (fun hnil => absurd hnil (List.append_ne_nil_of_right_ne_nil _ (by simp)))
            (hids ▸ hdistinct),
          absorb_concat, gather_start hstart, absorb_calls]
        rfl

/-! ### The state after a stream -/

theorem readStream_from {Usage : Type} (deltas : List (ChatStreamDelta Usage))
    (state : StreamState Usage) :
    deltas.foldl StreamState.push state =
      { content := state.content ++ String.join (deltas.map (·.content))
        reasoningContent := state.reasoningContent ++ String.join (deltas.map (·.reasoningContent))
        usage := (deltas.filterMap (·.usage)).getLast?.or state.usage
        toolCalls := (deltas.flatMap fun delta => delta.toolCalls.zipIdx).foldl
          (fun stream entry => stream.push entry.1 entry.2) state.toolCalls } := by
  induction deltas generalizing state with
  | nil =>
      rw [List.foldl_nil, List.map_nil, List.map_nil, String.join_nil, String.append_empty,
        String.append_empty]
      rfl
  | cons delta deltas ih =>
      have husage : ((delta :: deltas).filterMap (·.usage)).getLast?.or state.usage =
          (deltas.filterMap (·.usage)).getLast?.or (delta.usage.or state.usage) := by
        rw [← Option.or_assoc]
        congr 1
        cases h : delta.usage with
        | none => rw [List.filterMap_cons_none h, Option.or_none]
        | some usage =>
            rw [List.filterMap_cons_some h, List.getLast?_cons]
            cases (deltas.filterMap (·.usage)).getLast? <;> rfl
      rw [List.foldl_cons, ih, husage, List.flatMap_cons, List.foldl_append, List.map_cons,
        List.map_cons, String.join_cons, String.join_cons, ← String.append_assoc,
        ← String.append_assoc]
      rfl

/-! ### What the cut says of the pieces -/

section
variable {calls : List VvToolCall} {pieces : List (Nat × VvToolCall)}

theorem CutCalls.of_mem (hcut : CutCalls calls pieces) {owner : Nat} {piece : VvToolCall}
    (hmem : (owner, piece) ∈ pieces) :
    ∃ call, calls[owner]? = some call ∧ CutCall call (owned pieces owner) :=
  have hbound : owner < calls.length := hcut.bound _ hmem
  ⟨calls[owner], List.getElem?_eq_getElem hbound,
    hcut.cut owner calls[owner] (List.getElem?_eq_getElem hbound)⟩

/-- A piece is the opening of its call or a fragment. -/
theorem CutCall.cases {call piece : VvToolCall} {own : List VvToolCall} (hcut : CutCall call own)
    (hmem : piece ∈ own) :
    (∃ opening, piece = { call with arguments := opening }) ∨
      ∃ fragment, piece = { arguments := fragment, index := call.index } := by
  obtain ⟨opening, later, rfl, hlater⟩ := hcut.split
  rcases List.mem_cons.mp hmem with rfl | hmem
  · exact .inl ⟨opening, rfl⟩
  · exact .inr (hlater piece hmem)

theorem CutCalls.piece (hcut : CutCalls calls pieces) (hnamed : NamedCalls calls)
    {entry : Nat × VvToolCall} (hmem : entry ∈ pieces) : Piece entry.2 := by
  obtain ⟨owner, piece⟩ := entry
  obtain ⟨call, hcall, hown⟩ := hcut.of_mem hmem
  intro hid
  rcases hown.cases (mem_owned.mpr hmem) with ⟨opening, rfl⟩ | ⟨fragment, rfl⟩
  · exact absurd hid (hnamed.ids call (List.mem_of_getElem? hcall))
  · exact ⟨rfl, rfl⟩

/-- The start of a call has its id, its name and everything else. -/
theorem CutCalls.start (hcut : CutCalls calls pieces) {entry : Nat × VvToolCall}
    (hmem : entry ∈ pieces) (hstart : entry.2.id ≠ "") :
    ∃ call opening, calls[entry.1]? = some call ∧
      entry.2 = { call with arguments := opening } := by
  obtain ⟨owner, piece⟩ := entry
  obtain ⟨call, hcall, hown⟩ := hcut.of_mem hmem
  rcases hown.cases (mem_owned.mpr hmem) with ⟨opening, rfl⟩ | ⟨fragment, rfl⟩
  · exact ⟨call, opening, hcall, rfl⟩
  · exact absurd rfl hstart

theorem NamedCalls.eq_of_id (hnamed : NamedCalls calls) {first second : Nat}
    {call other : VvToolCall} (hfirst : calls[first]? = some call)
    (hsecond : calls[second]? = some other) (hid : call.id = other.id) : first = second := by
  have hbound : first < (calls.map (·.id)).length := by
    rw [List.length_map]
    exact (List.getElem?_eq_some_iff.mp hfirst).1
  apply (List.getElem?_inj hbound hnamed.distinct).mp
  rw [List.getElem?_map, List.getElem?_map, hfirst, hsecond, Option.map_some, Option.map_some, hid]

/-- The starting pieces, with their calls. -/
def starting (pieces : List (Nat × VvToolCall)) : List (Nat × VvToolCall) :=
  pieces.filter fun entry => entry.2.id ≠ ""

theorem starts_map (pieces : List (Nat × VvToolCall)) :
    starts (pieces.map (·.2)) = (starting pieces).map (·.2) := by
  rw [starts, starting, List.filter_map]
  rfl

/-- Every call is started once. -/
theorem CutCall.starts {call : VvToolCall} {own : List VvToolCall} (hcut : CutCall call own)
    (hid : call.id ≠ "") : ∃ opening, VvAgent.starts own = [{ call with arguments := opening }] := by
  obtain ⟨opening, later, rfl, hlater⟩ := hcut.split
  refine ⟨opening, ?_⟩
  rw [VvAgent.starts, List.filter_cons_of_pos (by simpa using hid),
    List.filter_eq_nil_iff.mpr fun piece hpiece => ?_]
  obtain ⟨fragment, rfl⟩ := hlater piece hpiece
  simp

theorem CutCalls.starting_nodup (hcut : CutCalls calls pieces) (hnamed : NamedCalls calls) :
    ((starting pieces).map (·.1)).Nodup := by
  apply List.nodup_iff_count_le_one.mpr
  intro owner
  have hcount : ((starting pieces).map (·.1)).count owner = (owned (starting pieces) owner).length := by
    rw [List.count, List.countP_map, List.countP_eq_length_filter, owned, List.length_map]
    rfl
  rw [hcount, starting,
    owned_filter (fun piece : VvToolCall => decide (piece.id ≠ "")) pieces owner]
  change (starts (owned pieces owner)).length ≤ 1
  cases hcall : calls[owner]? with
  | none =>
      have hnil : owned pieces owner = [] := by
        apply List.eq_nil_iff_forall_not_mem.mpr
        intro piece hpiece
        obtain ⟨call, hsome, _⟩ := hcut.of_mem (mem_owned.mp hpiece)
        rw [hcall] at hsome
        exact absurd hsome (Option.some_ne_none _).symm
      rw [hnil]
      exact Nat.zero_le _
  | some call =>
      obtain ⟨opening, hstarts⟩ :=
        (hcut.cut owner call hcall).starts (hnamed.ids call (List.mem_of_getElem? hcall))
      rw [hstarts]
      exact Nat.le_refl _

theorem CutCalls.ids_nodup (hcut : CutCalls calls pieces) (hnamed : NamedCalls calls) :
    ((starts (pieces.map (·.2))).map (·.id)).Nodup := by
  have howners := hcut.starting_nodup hnamed
  rw [starts_map, List.map_map]
  apply howners.of_map.map_on
  intro first hfirst second hsecond hid
  apply List.inj_on_of_nodup_map howners hfirst hsecond
  obtain ⟨hfirst, hstart⟩ := List.mem_filter.mp hfirst
  obtain ⟨hsecond, hother⟩ := List.mem_filter.mp hsecond
  obtain ⟨call, opening, hcall, hpiece⟩ := hcut.start hfirst (of_decide_eq_true hstart)
  obtain ⟨other, another, hsome, hnext⟩ := hcut.start hsecond (of_decide_eq_true hother)
  apply hnamed.eq_of_id hcall hsome
  rw [Function.comp_apply, Function.comp_apply, hpiece, hnext] at hid
  exact hid

/-- The first piece of all is the start of its call. -/
theorem CutCalls.head (hcut : CutCalls calls pieces) (hnamed : NamedCalls calls) :
    ∀ entry ∈ pieces.head?, entry.2.id ≠ "" := by
  intro entry hhead
  obtain ⟨owner, piece⟩ := entry
  obtain ⟨rest, rfl⟩ := List.head?_eq_some_iff.mp hhead
  obtain ⟨call, hcall, hown⟩ := hcut.of_mem List.mem_cons_self
  obtain ⟨opening, later, hsplit, _⟩ := hown.split
  rw [owned_cons, if_pos rfl, List.cons.injEq] at hsplit
  rw [hsplit.1]
  exact hnamed.ids call (List.mem_of_getElem? hcall)

/-! ### The calls that are collected -/

/-- A call without its text and its index. -/
def VvToolCall.bare (call : VvToolCall) : VvToolCall :=
  { call with arguments := "", index := none }

theorem gather_bare (pieces : List VvToolCall) :
    (gather pieces).2.map VvToolCall.bare = (starts pieces).map VvToolCall.bare := by
  induction pieces with
  | nil => rfl
  | cons piece rest ih =>
      by_cases hstart : piece.id = ""
      · rw [gather_fragment hstart, starts, List.filter_cons_of_neg (by simpa using hstart)]
        exact ih
      · rw [gather_start hstart, starts, List.filter_cons_of_pos (by simpa using hstart),
          List.map_cons, List.map_cons, ih]
        rfl

/-- The gathered calls are named as the calls that are started. -/
theorem gather_name {pieces : List VvToolCall} {call : VvToolCall}
    (hcall : call ∈ (gather pieces).2) : ∃ piece ∈ starts pieces, piece.name = call.name := by
  have hbare : call.bare ∈ (starts pieces).map VvToolCall.bare :=
    gather_bare pieces ▸ List.mem_map_of_mem hcall
  obtain ⟨piece, hpiece, heq⟩ := List.mem_map.mp hbare
  have hname : piece.bare.name = call.bare.name := by rw [heq]
  exact ⟨piece, hpiece, hname⟩

theorem gather_ids (pieces : List VvToolCall) :
    (gather pieces).2.map (·.id) = (starts pieces).map (·.id) := by
  have hids := congrArg (List.map VvToolCall.id) (gather_bare pieces)
  rw [List.map_map, List.map_map] at hids
  exact hids

theorem collected_streamOf {calls : List VvToolCall} (hnames : ∀ call ∈ calls, call.name ≠ "") :
    (streamOf calls).collected = calls := by
  have hkeep : (calls.map fun call => call.toParts.2).filter (·.name ≠ "") =
      calls.map fun call => call.toParts.2 := by
    apply List.filter_eq_self.mpr
    intro slot hslot
    obtain ⟨call, hcall, rfl⟩ := List.mem_map.mp hslot
    exact decide_eq_true (hnames call hcall)
  rw [ToolCallStream.collected, streamOf, List.map_map]
  change ((calls.map fun call => call.toParts.2).filter (·.name ≠ "")).map _ = calls
  rw [hkeep, List.map_map]
  exact List.map_id calls

/-- What is collected of the pieces, however they come in chunks. -/
theorem CutCalls.collected (hcut : CutCalls calls pieces) (hnamed : NamedCalls calls)
    {entries : List (VvToolCall × Nat)} (hentries : entries.map (·.1) = pieces.map (·.2)) :
    (entries.foldl (fun (stream : ToolCallStream) entry => stream.push entry.1 entry.2)
        {}).collected = (gather (pieces.map (·.2))).2 := by
  have hmem : ∀ entry ∈ entries, ∃ piece ∈ pieces, piece.2 = entry.1 := fun entry hentry =>
    List.mem_map.mp (hentries ▸ List.mem_map_of_mem hentry)
  have hpieces : ∀ entry ∈ entries, Piece entry.1 := by
    intro entry hentry
    obtain ⟨piece, hpiece, heq⟩ := hmem entry hentry
    exact heq ▸ hcut.piece hnamed hpiece
  have hfirst : ∀ entry ∈ entries.head?, entry.1.id ≠ "" := by
    intro entry hentry
    have hhead : (pieces.map (·.2)).head? = some entry.1 := by
      rw [← hentries, List.head?_map, Option.mem_def.mp hentry]
      rfl
    rw [List.head?_map] at hhead
    obtain ⟨piece, hpiece, heq⟩ := Option.map_eq_some_iff.mp hhead
    exact heq ▸ hcut.head hnamed piece hpiece
  have hall := push_all entries [] hpieces (fun _ => hfirst) (by
    rw [hentries]
    exact hcut.ids_nodup hnamed)
  have hnothing : streamOf [] = {} := rfl
  have hnames : ∀ call ∈ (gather (pieces.map (·.2))).2, call.name ≠ "" := by
    intro call hcall
    obtain ⟨piece, hpiece, heq⟩ := gather_name hcall
    rw [starts_map] at hpiece
    obtain ⟨entry, hentry, rfl⟩ := List.mem_map.mp hpiece
    obtain ⟨hentry, hstart⟩ := List.mem_filter.mp hentry
    obtain ⟨named, opening, hsome, hopening⟩ := hcut.start hentry (of_decide_eq_true hstart)
    rw [← heq, hopening]
    exact hnamed.names named (List.mem_of_getElem? hsome)
  have habsorb : absorb [] (gather (pieces.map (·.2))) = (gather (pieces.map (·.2))).2 := rfl
  rw [← hnothing, hall, hentries, habsorb, collected_streamOf hnames]

/-! ### Pieces in turn -/

/-- The pieces come sorted by their calls. -/
def InTurn (pieces : List (Nat × VvToolCall)) : Prop :=
  pieces.Pairwise fun first second => first.1 ≤ second.1

/-- A piece that starts a call or has a part of its arguments. -/
def VvToolCall.carries (piece : VvToolCall) : Bool := piece.id ≠ "" || piece.arguments ≠ ""

def carrying (pieces : List (Nat × VvToolCall)) : List (Nat × VvToolCall) :=
  pieces.filter fun entry => entry.2.carries

theorem gather_fragments (call : VvToolCall) (later rest : List VvToolCall)
    (hlater : ∀ piece ∈ later, ∃ fragment, piece = { arguments := fragment, index := call.index })
    (hrest : (gather rest).1 = ("", none)) :
    ∃ index : Option Nat, index.or call.index = call.index ∧
      gather (later ++ rest) = ((String.join (later.map (·.arguments)), index), (gather rest).2) := by
  induction later with
  | nil =>
      refine ⟨none, rfl, ?_⟩
      rw [List.nil_append, List.map_nil, String.join_nil, ← hrest]
  | cons piece later ih =>
      obtain ⟨index, hindex, hgather⟩ :=
        ih fun other hother => hlater other (List.mem_cons_of_mem _ hother)
      obtain ⟨fragment, hpiece⟩ := hlater piece List.mem_cons_self
      have hid : piece.id = "" := by rw [hpiece]
      refine ⟨index.or call.index, ?_, ?_⟩
      · rw [hindex, Option.or_self]
      · rw [List.cons_append, gather_fragment hid, hgather, List.map_cons, String.join_cons, hpiece]

/-- The pieces of one call, followed by another start or by nothing, are put together. -/
theorem CutCall.gather {call : VvToolCall} {own rest : List VvToolCall} (hcut : CutCall call own)
    (hid : call.id ≠ "") (hrest : (gather rest).1 = ("", none)) :
    VvAgent.gather (own ++ rest) = (("", none), call :: (VvAgent.gather rest).2) := by
  obtain ⟨opening, later, rfl, hlater⟩ := hcut.split
  have hargs := hcut.arguments
  obtain ⟨index, hindex, hgather⟩ := gather_fragments call later rest hlater hrest
  rw [List.map_cons, String.join_cons] at hargs
  have hopening : ({ call with arguments := opening } : VvToolCall).id ≠ "" := hid
  rw [List.cons_append, gather_start hopening, hgather]
  simp only [hargs, hindex]

theorem gather_cuts {calls : List VvToolCall} {cuts : List (List VvToolCall)}
    (hcuts : List.Forall₂ CutCall calls cuts) (hids : ∀ call ∈ calls, call.id ≠ "") :
    gather cuts.flatten = (("", none), calls) := by
  induction hcuts with
  | nil => rfl
  | cons hcut _ ih =>
      have hrest := ih fun call hcall => hids call (List.mem_cons_of_mem _ hcall)
      rw [List.flatten_cons, hcut.gather (hids _ List.mem_cons_self) (congrArg Prod.fst hrest), hrest]

theorem CutCalls.forall₂ (hcut : CutCalls calls pieces) :
    List.Forall₂ CutCall calls ((List.range calls.length).map (owned pieces)) := by
  apply List.forall₂_iff_get.mpr
  refine ⟨by rw [List.length_map, List.length_range], fun place hfirst hsecond => ?_⟩
  rw [List.get_eq_getElem, List.get_eq_getElem, List.getElem_map, List.getElem_range]
  exact hcut.cut place calls[place] (List.getElem?_eq_getElem hfirst)

/-- Pieces that come in turn are put together to the calls. -/
theorem CutCalls.gather_in_turn (hcut : CutCalls calls pieces)
    (hids : ∀ call ∈ calls, call.id ≠ "") (hturn : InTurn pieces) :
    gather (pieces.map (·.2)) = (("", none), calls) := by
  rw [eq_flatMap_owned hcut.bound hturn, List.flatMap_def]
  exact gather_cuts hcut.forall₂ hids

def VvToolCall.withoutIndex (call : VvToolCall) : VvToolCall := { call with index := none }

/-- Fragments without a text change nothing but the indices. -/
theorem gather_carrying (pieces : List VvToolCall) :
    (gather (pieces.filter (·.carries))).1.1 = (gather pieces).1.1 ∧
      (gather (pieces.filter (·.carries))).2.map VvToolCall.withoutIndex =
        (gather pieces).2.map VvToolCall.withoutIndex := by
  induction pieces with
  | nil => exact ⟨rfl, rfl⟩
  | cons piece rest ih =>
      obtain ⟨htext, hcalls⟩ := ih
      by_cases hstart : piece.id = ""
      · by_cases hargs : piece.arguments = ""
        · have hdrop : ¬ piece.carries = true := by
            simp [VvToolCall.carries, hstart, hargs]
          rw [List.filter_cons_of_neg hdrop, gather_fragment hstart, hargs, String.empty_append]
          exact ⟨htext, hcalls⟩
        · have hkeep : piece.carries = true := by
            simp [VvToolCall.carries, hargs]
          rw [List.filter_cons_of_pos hkeep, gather_fragment hstart, gather_fragment hstart]
          exact ⟨congrArg (piece.arguments ++ ·) htext, hcalls⟩
      · have hkeep : piece.carries = true := by
          simp [VvToolCall.carries, hstart]
        rw [List.filter_cons_of_pos hkeep, gather_start hstart, gather_start hstart, List.map_cons,
          List.map_cons, hcalls, htext]
        exact ⟨rfl, rfl⟩

theorem CutCall.carrying {call : VvToolCall} {own : List VvToolCall} (hcut : CutCall call own)
    (hid : call.id ≠ "") : CutCall call (own.filter (·.carries)) := by
  obtain ⟨opening, later, rfl, hlater⟩ := hcut.split
  have hkeep : ({ call with arguments := opening } : VvToolCall).carries = true := by
    simp [VvToolCall.carries, hid]
  refine ⟨⟨opening, later.filter (·.carries), List.filter_cons_of_pos hkeep, fun piece hpiece =>
    hlater piece (List.mem_filter.mp hpiece).1⟩, ?_⟩
  rw [← hcut.arguments]
  generalize ({ call with arguments := opening } : VvToolCall) :: later = all
  induction all with
  | nil => rfl
  | cons piece all ih =>
      by_cases hpiece : piece.carries = true
      · rw [List.filter_cons_of_pos hpiece, List.map_cons, List.map_cons, String.join_cons,
          String.join_cons, ih]
      · have hargs : piece.arguments = "" := by
          simp only [VvToolCall.carries, Bool.or_eq_true, decide_eq_true_eq, not_or, not_not] at hpiece
          exact hpiece.2
        rw [List.filter_cons_of_neg hpiece, List.map_cons, String.join_cons, hargs,
          String.empty_append, ih]

theorem CutCalls.carrying (hcut : CutCalls calls pieces)
    (hids : ∀ call ∈ calls, call.id ≠ "") : CutCalls calls (VvAgent.carrying pieces) := by
  refine ⟨fun piece hpiece => hcut.bound piece (List.mem_filter.mp hpiece).1, ?_⟩
  intro owner call hcall
  rw [VvAgent.carrying, owned_filter]
  exact (hcut.cut owner call hcall).carrying (hids call (List.mem_of_getElem? hcall))

/-- Where the pieces that carry something come in turn, the calls are those of the response up to
the provider's indices. -/
theorem CutCalls.gather_carrying_in_turn (hcut : CutCalls calls pieces)
    (hids : ∀ call ∈ calls, call.id ≠ "") (hturn : InTurn (VvAgent.carrying pieces)) :
    (gather (pieces.map (·.2))).2.map VvToolCall.withoutIndex =
      calls.map VvToolCall.withoutIndex := by
  have hgather := (hcut.carrying hids).gather_in_turn hids hturn
  have hmap : (VvAgent.carrying pieces).map (·.2) = (pieces.map (·.2)).filter (·.carries) := by
    rw [VvAgent.carrying, List.filter_map]
    rfl
  rw [← (gather_carrying (pieces.map (·.2))).2, ← hmap, hgather]

/-! ### Where the texts of the pieces go -/

/-- The pieces, each with the number of the calls that are started when it is put to one of them. -/
def placed (active : Nat) : List (Nat × VvToolCall) → List (Nat × Nat × VvToolCall)
  | [] => []
  | entry :: rest =>
      if entry.2.id = "" then (active, entry) :: placed active rest
      else (active + 1, entry) :: placed (active + 1) rest

theorem placed_map (active : Nat) (pieces : List (Nat × VvToolCall)) :
    (placed active pieces).map (·.2) = pieces := by
  induction pieces generalizing active with
  | nil => rfl
  | cons entry rest ih =>
      rw [placed]
      split_ifs <;> rw [List.map_cons, ih]

theorem placed_ge {active : Nat} {pieces : List (Nat × VvToolCall)} :
    ∀ place ∈ placed active pieces, active ≤ place.1 := by
  induction pieces generalizing active with
  | nil => exact fun place hplace => absurd hplace List.not_mem_nil
  | cons entry rest ih =>
      intro place hplace
      rw [placed] at hplace
      split_ifs at hplace
      · rcases List.mem_cons.mp hplace with rfl | hplace
        · exact Nat.le_refl _
        · exact ih place hplace
      · rcases List.mem_cons.mp hplace with rfl | hplace
        · exact Nat.le_succ _
        · exact Nat.le_trans (Nat.le_succ _) (ih place hplace)

theorem placed_sorted (active : Nat) (pieces : List (Nat × VvToolCall)) :
    (placed active pieces).Pairwise fun first second => first.1 ≤ second.1 := by
  induction pieces generalizing active with
  | nil => exact List.Pairwise.nil
  | cons entry rest ih =>
      rw [placed]
      split_ifs
      · exact List.pairwise_cons.mpr ⟨placed_ge, ih active⟩
      · exact List.pairwise_cons.mpr ⟨placed_ge, ih (active + 1)⟩

theorem placed_start {active : Nat} {pieces : List (Nat × VvToolCall)} :
    ∀ place ∈ placed active pieces, place.2.2.id ≠ "" →
      ∃ count, place.1 = active + count + 1 ∧ (starting pieces)[count]? = some place.2 := by
  induction pieces generalizing active with
  | nil => exact fun place hplace => absurd hplace List.not_mem_nil
  | cons entry rest ih =>
      intro place hplace hstart
      rw [placed] at hplace
      by_cases hid : entry.2.id = ""
      · rw [if_pos hid] at hplace
        have hskip : starting (entry :: rest) = starting rest := by
          rw [starting, List.filter_cons_of_neg (by simpa using hid), starting]
        rcases List.mem_cons.mp hplace with rfl | hplace
        · exact absurd hid hstart
        · rw [hskip]
          exact ih place hplace hstart
      · rw [if_neg hid] at hplace
        have htake : starting (entry :: rest) = entry :: starting rest := by
          rw [starting, List.filter_cons_of_pos (by simpa using hid), starting]
        rw [htake]
        rcases List.mem_cons.mp hplace with rfl | hplace
        · exact ⟨0, rfl, rfl⟩
        · obtain ⟨count, hcount, hget⟩ := ih place hplace hstart
          refine ⟨count + 1, by omega, ?_⟩
          rw [List.getElem?_cons_succ]
          exact hget

/-- The lengths of the texts of the calls, weighted by the places of the calls. -/
def weigh (first : Nat) : List VvToolCall → Nat
  | [] => 0
  | call :: rest => first * call.arguments.length + weigh (first + 1) rest

theorem weigh_withoutIndex (first : Nat) (calls : List VvToolCall) :
    weigh first (calls.map VvToolCall.withoutIndex) = weigh first calls := by
  induction calls generalizing first with
  | nil => rfl
  | cons call rest ih =>
      rw [List.map_cons, weigh, weigh, ih]
      rfl

theorem weigh_eq_sum (first : Nat) (calls : List VvToolCall) :
    weigh first calls = ∑ place ∈ Finset.range calls.length,
      (first + place) * ((calls[place]?.map (·.arguments)).getD "").length := by
  induction calls generalizing first with
  | nil => rfl
  | cons call rest ih =>
      rw [weigh, ih, List.length_cons, Finset.sum_range_succ', Nat.add_comm]
      congr 1
      refine Finset.sum_congr rfl fun place _ => ?_
      rw [List.getElem?_cons_succ]
      congr 1
      omega

/-- Every text is put to the call that is started last. -/
theorem placed_sum (active : Nat) (pieces : List (Nat × VvToolCall)) :
    ((placed active pieces).map fun place => place.1 * place.2.2.arguments.length).sum =
      active * (gather (pieces.map (·.2))).1.1.length +
        weigh (active + 1) (gather (pieces.map (·.2))).2 := by
  induction pieces generalizing active with
  | nil => rfl
  | cons entry rest ih =>
      rw [placed, List.map_cons]
      by_cases hid : entry.2.id = ""
      · rw [if_pos hid, gather_fragment hid, List.map_cons, List.sum_cons, ih]
        dsimp only
        rw [String.length_append, Nat.mul_add, Nat.add_assoc]
      · rw [if_neg hid, gather_start hid, List.map_cons, List.sum_cons, ih, weigh]
        dsimp only
        rw [String.length_append, Nat.mul_add, String.length_empty, Nat.mul_zero, Nat.zero_add,
          ← Nat.add_assoc]

theorem String.length_join (texts : List String) :
    (String.join texts).length = (texts.map (·.length)).sum := by
  induction texts with
  | nil => rfl
  | cons text texts ih =>
      rw [String.join_cons, String.length_append, List.map_cons, List.sum_cons, ih]

theorem CutCalls.owner_sum (hcut : CutCalls calls pieces) :
    (pieces.map fun entry => (entry.1 + 1) * entry.2.arguments.length).sum = weigh 1 calls := by
  rw [sum_owned hcut.bound (fun owner => owner + 1) fun piece => piece.arguments.length,
    weigh_eq_sum]
  refine Finset.sum_congr rfl fun owner howner => ?_
  have hbound : owner < calls.length := Finset.mem_range.mp howner
  have hcall : calls[owner]? = some calls[owner] := List.getElem?_eq_getElem hbound
  rw [hcall, Option.map_some, Option.getD_some, ← (hcut.cut owner _ hcall).arguments,
    String.length_join, List.map_map, Nat.add_comm 1]
  rfl

/-- Where the calls are collected in their order, a start is put to the place of its call. -/
theorem CutCalls.start_place (hcut : CutCalls calls pieces) (hnamed : NamedCalls calls)
    (hids : (gather (pieces.map (·.2))).2.map (·.id) = calls.map (·.id))
    {place : Nat × Nat × VvToolCall} (hplace : place ∈ placed 0 pieces)
    (hstart : place.2.2.id ≠ "") : place.1 = place.2.1 + 1 := by
  obtain ⟨count, hcount, hget⟩ := placed_start place hplace hstart
  have hmem : place.2 ∈ pieces := placed_map 0 pieces ▸ List.mem_map_of_mem hplace
  obtain ⟨call, opening, hcall, hpiece⟩ := hcut.start hmem hstart
  have hsame : ((starting pieces).map (·.2)).map (·.id) = calls.map (·.id) := by
    rw [← starts_map, ← gather_ids, hids]
  have hother : (calls[count]?).map (·.id) = some place.2.2.id := by
    rw [← List.getElem?_map, ← hsame, List.getElem?_map, List.getElem?_map, hget]
    rfl
  obtain ⟨other, hsome, heq⟩ := Option.map_eq_some_iff.mp hother
  rw [hpiece] at heq
  have hplaces := hnamed.eq_of_id hsome hcall heq
  omega

/-- No piece is put to a call before its own. -/
theorem CutCalls.place_ge (hcut : CutCalls calls pieces) (hnamed : NamedCalls calls)
    (hids : (gather (pieces.map (·.2))).2.map (·.id) = calls.map (·.id))
    {place : Nat × Nat × VvToolCall} (hplace : place ∈ placed 0 pieces) :
    place.2.1 + 1 ≤ place.1 := by
  by_cases hstart : place.2.2.id = ""
  · obtain ⟨front, back, hsplit⟩ := List.append_of_mem hplace
    have hpieces : pieces = front.map (·.2) ++ place.2 :: back.map (·.2) := by
      rw [← placed_map 0 pieces, hsplit, List.map_append, List.map_cons]
    have hmem : place.2 ∈ pieces := placed_map 0 pieces ▸ List.mem_map_of_mem hplace
    obtain ⟨call, hcall, hown⟩ := hcut.of_mem hmem
    have hid := hnamed.ids call (List.mem_of_getElem? hcall)
    obtain ⟨opening, later, hopening, _⟩ := hown.split
    have howned : owned pieces place.2.1 =
        owned (front.map (·.2)) place.2.1 ++ place.2.2 :: owned (back.map (·.2)) place.2.1 := by
      conv_lhs => rw [hpieces]
      rw [owned_append, owned_cons, if_pos rfl]
    rw [howned] at hopening
    cases hfront : owned (front.map (·.2)) place.2.1 with
    | nil =>
        rw [hfront, List.nil_append, List.cons.injEq] at hopening
        rw [hopening.1] at hstart
        exact absurd hstart hid
    | cons first rest =>
        rw [hfront, List.cons_append, List.cons.injEq] at hopening
        have hfirst : (place.2.1, first) ∈ front.map (·.2) :=
          mem_owned.mp (hfront ▸ List.mem_cons_self)
        obtain ⟨earlier, hearlier, heq⟩ := List.mem_map.mp hfirst
        have hin : earlier ∈ placed 0 pieces := hsplit ▸ List.mem_append_left _ hearlier
        have hstarted : earlier.2.2.id ≠ "" := by
          rw [heq, hopening.1]
          exact hid
        have hat := hcut.start_place hnamed hids hin hstarted
        have hsorted := placed_sorted 0 pieces
        rw [hsplit] at hsorted
        have hle := (List.pairwise_append.mp hsorted).2.2 earlier hearlier place List.mem_cons_self
        rw [heq] at hat
        omega
  · exact Nat.le_of_eq (hcut.start_place hnamed hids hplace hstart).symm

/-- Where the calls of the response are collected, all pieces that carry something came in turn. -/
theorem CutCalls.in_turn_of_gather (hcut : CutCalls calls pieces) (hnamed : NamedCalls calls)
    (hcalls : (gather (pieces.map (·.2))).2.map VvToolCall.withoutIndex =
      calls.map VvToolCall.withoutIndex) : InTurn (VvAgent.carrying pieces) := by
  have hids : (gather (pieces.map (·.2))).2.map (·.id) = calls.map (·.id) := by
    have hmap := congrArg (List.map VvToolCall.id) hcalls
    rw [List.map_map, List.map_map] at hmap
    exact hmap
  have hsums : ((placed 0 pieces).map fun place =>
        (place.2.1 + 1) * place.2.2.arguments.length).sum =
      ((placed 0 pieces).map fun place => place.1 * place.2.2.arguments.length).sum := by
    have howners := hcut.owner_sum
    rw [← placed_map 0 pieces, List.map_map] at howners
    refine howners.trans ?_
    rw [placed_sum, ← weigh_withoutIndex 1 calls, ← hcalls, weigh_withoutIndex, Nat.zero_mul,
      Nat.zero_add, Nat.zero_add]
  have hexact := eq_of_sum_eq (fun place hplace =>
    Nat.mul_le_mul_right _ (hcut.place_ge hnamed hids hplace)) hsums
  have hplaced : ∀ place ∈ placed 0 pieces, place.2.2.carries = true →
      place.1 = place.2.1 + 1 := by
    intro place hplace hcarries
    by_cases hstart : place.2.2.id = ""
    · have hargs : place.2.2.arguments ≠ "" := by
        simpa [VvToolCall.carries, hstart] using hcarries
      have hlength : 0 < place.2.2.arguments.length :=
        Nat.pos_of_ne_zero fun hzero => hargs (String.length_eq_zero_iff.mp hzero)
      exact (Nat.eq_of_mul_eq_mul_right hlength (hexact place hplace)).symm
    · exact hcut.start_place hnamed hids hplace hstart
  have hmap : VvAgent.carrying pieces =
      ((placed 0 pieces).filter fun place => place.2.2.carries).map (·.2) := by
    conv_lhs => rw [← placed_map 0 pieces]
    rw [VvAgent.carrying, List.filter_map]
    rfl
  rw [hmap, InTurn, List.pairwise_map]
  refine ((placed_sorted 0 pieces).filter _).imp_of_mem ?_
  intro first second hfirst hsecond hle
  obtain ⟨hfirst, hcarries⟩ := List.mem_filter.mp hfirst
  obtain ⟨hsecond, hother⟩ := List.mem_filter.mp hsecond
  have hat := hplaced first hfirst hcarries
  have hthere := hplaced second hsecond hother
  omega

end

/-! ### Agreement -/

section
variable [Texts] {Usage : Type} [UsageReader Usage]

/-- The streamed response is the complete one: content, reasoning, usage and tool calls, and these
with the same texts of their arguments. -/
structure Agrees (response : ChatResponse Usage) (deltas : List (ChatStreamDelta Usage))
    (model : String) (estimate : Option UsageEstimateContext) : Prop where
  content : (collectVvLlmStream model deltas estimate).content =
    (fromVvLlmResponse response estimate).content
  reasoning : (collectVvLlmStream model deltas estimate).raw.lookup "reasoning_content" =
    (fromVvLlmResponse response estimate).raw.lookup "reasoning_content"
  toolCalls : (collectVvLlmStream model deltas estimate).toolCalls =
    (fromVvLlmResponse response estimate).toolCalls
  texts : (readStream deltas).toolCalls.collected.map VvToolCall.withoutIndex =
    response.toolCalls.map VvToolCall.withoutIndex
  tokenUsage : (collectVvLlmStream model deltas estimate).tokenUsage =
    (fromVvLlmResponse response estimate).tokenUsage

/-- The index of a call is not translated. -/
theorem fromVvLlmToolCalls_withoutIndex (calls : List VvToolCall) :
    fromVvLlmToolCalls (calls.map VvToolCall.withoutIndex) = fromVvLlmToolCalls calls := by
  unfold fromVvLlmToolCalls
  apply List.ext_getElem?
  intro place
  rw [List.getElem?_mapIdx, List.getElem?_mapIdx, List.getElem?_map, Option.map_map]
  rfl

omit [Texts] in
theorem completionPayloadForUsage_nil (payload : String) :
    completionPayloadForUsage Usage payload [] = payload := rfl

variable {response : ChatResponse Usage} {deltas : List (ChatStreamDelta Usage)}
  {pieces : List (Nat × VvToolCall)}

omit [Texts] [UsageReader Usage] in
theorem CutResponse.readStream (hcut : CutResponse response deltas pieces) :
    VvAgent.readStream deltas =
      { content := response.content
        reasoningContent := response.reasoningContent.getD ""
        usage := response.usage
        toolCalls := (deltas.flatMap fun delta => delta.toolCalls.zipIdx).foldl
          (fun stream entry => stream.push entry.1 entry.2) {} } := by
  have husage : (deltas.filterMap (·.usage)).getLast?.or none = response.usage := by
    rw [hcut.usage, Option.or_none]
    cases response.usage <;> rfl
  rw [VvAgent.readStream, readStream_from, hcut.content, hcut.reasoning, husage,
    String.empty_append, String.empty_append]

omit [Texts] [UsageReader Usage] in
theorem CutResponse.collected (hcut : CutResponse response deltas pieces)
    (hnamed : NamedCalls response.toolCalls) :
    (VvAgent.readStream deltas).toolCalls.collected = (gather (pieces.map (·.2))).2 := by
  rw [hcut.readStream]
  apply hcut.calls.collected hnamed
  rw [List.map_flatMap, ← hcut.flat]
  exact List.flatMap_congr fun delta _ => List.zipIdx_map_fst 0 delta.toolCalls

theorem CutResponse.reasoning_lookup (hcut : CutResponse response deltas pieces) (model : String)
    (estimate : Option UsageEstimateContext) :
    (collectVvLlmStream model deltas estimate).raw.lookup "reasoning_content" =
      (fromVvLlmResponse response estimate).raw.lookup "reasoning_content" := by
  unfold collectVvLlmStream fromVvLlmResponse
  rw [hcut.readStream]
  cases response.reasoningContent with
  | none => simp [insertMembers, lookup_insertMember]
  | some text =>
      by_cases htext : text = "" <;> simp [insertMembers, lookup_insertMember, Option.filter, htext]

/-- The usage is the same where it is given or not estimated, and where the very calls of the
response are collected. -/
theorem CutResponse.tokenUsage (hcut : CutResponse response deltas pieces) (model : String)
    {estimate : Option UsageEstimateContext}
    (hsame : response.usage.isSome ∨ estimate = none ∨
      (VvAgent.readStream deltas).toolCalls.collected = response.toolCalls) :
    (collectVvLlmStream model deltas estimate).tokenUsage =
      (fromVvLlmResponse response estimate).tokenUsage := by
  have husage : (VvAgent.readStream deltas).usage = response.usage := by rw [hcut.readStream]
  have hcontent : (VvAgent.readStream deltas).content = response.content := by rw [hcut.readStream]
  unfold collectVvLlmStream fromVvLlmResponse
  dsimp only
  rw [husage, hcontent]
  rcases hsame with hgiven | rfl | hcalls
  · obtain ⟨usage, hsome⟩ := Option.isSome_iff_exists.mp hgiven
    rw [hsome, Option.map_some, Option.getD_some, Option.getD_some]
  · rfl
  · rw [hcalls]
    cases estimate with
    | none => rfl
    | some estimate =>
        unfold estimateMissingUsage
        dsimp only
        rw [completionPayloadForUsage_nil]

theorem CutResponse.agrees (hcut : CutResponse response deltas pieces) (model : String)
    {estimate : Option UsageEstimateContext}
    (htexts : (VvAgent.readStream deltas).toolCalls.collected.map VvToolCall.withoutIndex =
      response.toolCalls.map VvToolCall.withoutIndex)
    (hsame : response.usage.isSome ∨ estimate = none ∨
      (VvAgent.readStream deltas).toolCalls.collected = response.toolCalls) :
    Agrees response deltas model estimate where
  content := congrArg StreamState.content hcut.readStream
  reasoning := hcut.reasoning_lookup model estimate
  toolCalls := by
    change fromVvLlmToolCalls _ = fromVvLlmToolCalls response.toolCalls
    rw [← fromVvLlmToolCalls_withoutIndex, htexts, fromVvLlmToolCalls_withoutIndex]
  texts := htexts
  tokenUsage := hcut.tokenUsage model hsame

end

section
variable [Texts] {Usage : Type} [UsageReader Usage] {response : ChatResponse Usage}
  {deltas : List (ChatStreamDelta Usage)} {pieces : List (Nat × VvToolCall)}

/-- A streamed response is the complete one where all pieces of its tool calls come in turn, and
only where those that carry something do. The pieces without a text have a say in nothing but the
index of a call, which is read where the usage has to be estimated. -/
theorem stream_agrees_iff (hcut : CutResponse response deltas pieces)
    (hnamed : NamedCalls response.toolCalls) (model : String)
    (estimate : Option UsageEstimateContext) :
    ((response.usage.isSome ∨ estimate = none) →
      (Agrees response deltas model estimate ↔ InTurn (carrying pieces))) ∧
    (Agrees response deltas model estimate → InTurn (carrying pieces)) ∧
    (InTurn pieces → Agrees response deltas model estimate) := by
  have hcollected := hcut.collected hnamed
  have hturn : Agrees response deltas model estimate → InTurn (carrying pieces) := by
    intro hagrees
    have htexts := hagrees.texts
    rw [hcollected] at htexts
    exact hcut.calls.in_turn_of_gather hnamed htexts
  refine ⟨fun hgiven => ⟨hturn, fun hcarrying => ?_⟩, hturn, fun hall => ?_⟩
  · refine hcut.agrees model ?_ (hgiven.imp_right .inl)
    rw [hcollected]
    exact hcut.calls.gather_carrying_in_turn hnamed.ids hcarrying
  · have hcalls : (readStream deltas).toolCalls.collected = response.toolCalls := by
      rw [hcollected, hcut.calls.gather_in_turn hnamed.ids hall]
    exact hcut.agrees model (by rw [hcalls]) (.inr (.inr hcalls))

end

/-! ### Two calls in one response -/

namespace Sample

def readArguments : String := "\x7b\"path\":\"a.txt\"\x7d"

@[reducible]
def streamTexts : Texts where
  toPlatform := (runtime []).toPlatform
  parse text :=
    if text = readArguments then .ok (.obj [("path", .str "a.txt")])
    else .error "expected value at line 1 column 1"
  parseLeading _ := none
  canonicalText _ := "\x7b\x7d"
  normalizeSummaryOutput text := text

@[reducible]
def unmetered : UsageReader Unit where
  fromVvLlmUsage _ := {}
  toolCallsText _ := none
  countTokens text _ := text.length

def readCall : VvToolCall :=
  { id := "call_1", name := "read_file", arguments := readArguments, index := some 0 }

/-- A call without arguments. -/
def listCall : VvToolCall := { id := "call_2", name := "list_files", index := some 1 }

def twoCalls : ChatResponse Unit := { content := "Looking.", toolCalls := [readCall, listCall] }

def readStart : VvToolCall := { readCall with arguments := "" }

def readFragment : VvToolCall := { arguments := readArguments, index := some 0 }

/-- The calls, one after the other. -/
def piecesInTurn : List (Nat × VvToolCall) := [(0, readStart), (0, readFragment), (1, listCall)]

/-- The arguments of the first call come after the start of the second. -/
def piecesCrossed : List (Nat × VvToolCall) := [(0, readStart), (1, listCall), (0, readFragment)]

/-- A chunk for the text, and one for each piece. -/
def chunksOf (pieces : List (Nat × VvToolCall)) : List (ChatStreamDelta Unit) :=
  { content := "Looking." } :: pieces.map fun piece => { toolCalls := [piece.2] }

theorem twoCalls_named : NamedCalls twoCalls.toolCalls := ⟨by decide, by decide, by decide⟩

theorem readCall_cut : CutCall readCall [readStart, readFragment] where
  split := by
    refine ⟨"", [readFragment], rfl, fun piece hpiece => ?_⟩
    obtain rfl := List.mem_singleton.mp hpiece
    exact ⟨readArguments, rfl⟩
  arguments := by decide

theorem listCall_cut : CutCall listCall [listCall] where
  split := ⟨"", [], rfl, fun _ hpiece => absurd hpiece List.not_mem_nil⟩
  arguments := by decide

theorem twoCalls_cut {pieces : List (Nat × VvToolCall)}
    (hread : owned pieces 0 = [readStart, readFragment])
    (hlist : owned pieces 1 = [listCall]) (hbound : ∀ piece ∈ pieces, piece.1 < 2)
    (hcontent : String.join ((chunksOf pieces).map (·.content)) = "Looking.")
    (hreasoning : String.join ((chunksOf pieces).map (·.reasoningContent)) = "")
    (husage : (chunksOf pieces).filterMap (·.usage) = []) :
    CutResponse twoCalls (chunksOf pieces) pieces where
  content := hcontent
  reasoning := hreasoning
  usage := husage
  flat := by
    rw [chunksOf, List.flatMap_cons, List.flatMap_map, List.nil_append]
    exact List.map_eq_flatMap.symm
  calls := by
    refine ⟨hbound, fun owner call hcall => ?_⟩
    rcases owner with _ | _ | owner
    · obtain rfl := Option.some.inj hcall
      rw [hread]
      exact readCall_cut
    · obtain rfl := Option.some.inj hcall
      rw [hlist]
      exact listCall_cut
    · exact absurd hcall (Option.some_ne_none call).symm

end Sample

open Sample

/-- Two calls, one after the other, are collected as they are. -/
theorem calls_in_turn_agree :
    @Agrees streamTexts Unit unmetered twoCalls (chunksOf piecesInTurn) "model" none := by
  let _ : Texts := streamTexts
  let _ : UsageReader Unit := unmetered
  have hcut : CutResponse twoCalls (chunksOf piecesInTurn) piecesInTurn :=
    twoCalls_cut (by decide) (by decide) (by decide) (by decide) (by decide) (by decide)
  exact (stream_agrees_iff hcut twoCalls_named "model" none).2.2 (by simp [InTurn, piecesInTurn])

/-- Where the arguments of the first call come after the start of the second, they are given to
the second call, and the first call has none. -/
theorem crossed_calls_disagree :
    CutResponse twoCalls (chunksOf piecesCrossed) piecesCrossed ∧ NamedCalls twoCalls.toolCalls ∧
      (@fromVvLlmResponse streamTexts Unit unmetered twoCalls none).toolCalls =
        [⟨"call_1", "read_file", [("path", .str "a.txt")], none⟩,
          ⟨"call_2", "list_files", [], none⟩] ∧
      (@collectVvLlmStream streamTexts Unit unmetered "model" (chunksOf piecesCrossed)
          none).toolCalls =
        [⟨"call_1", "read_file", [], none⟩,
          ⟨"call_2", "list_files", [("path", .str "a.txt")], none⟩] := by
  refine ⟨twoCalls_cut ?_ ?_ ?_ ?_ ?_ ?_, twoCalls_named, ?_, ?_⟩ <;> decide +kernel

end VvAgent
