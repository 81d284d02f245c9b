import Mathlib.Algebra.GroupWithZero.Nat
import Mathlib.Data.List.TakeDrop
import VvAgent.Lib.Lossy
import VvAgent.Workspace.Artifacts
import VvAgent.Workspace.Streaming

/-!
Captured output as text. The bytes of a captured file are decoded as they are read, and what is
no text is replaced; of the decoded text, a preview keeps the start and the end, and a snapshot
everything but a character that has not come to its end.
-/

namespace VvAgent
open Lib Lib.Outcome

/-! ### `CapturedTextChunks` -/

def captureChunkBytes : Nat := 64 * 1024

/-- The chunks of an open file. What the reads of the file give is given by a list: some bytes, of
which a read takes at most as many as it has room for, or an error; no bytes are the end. -/
structure CapturedTextChunks where
  file : List (IoResult (List UInt8))
  pending : List UInt8 := []
  eof : Bool := false
  remaining : Option Nat := none
  finishPartial : Bool := true

/-- One turn of the loop in `next`. -/
inductive CaptureTurn where
  | ends
  | yields (item : IoResult String) (after : CapturedTextChunks)
  | goes (after : CapturedTextChunks)

/-- `File::read` with room for so many bytes. -/
def readCapturedBytes (limit : Nat) :
    List (IoResult (List UInt8)) → IoResult (List UInt8) × List (IoResult (List UInt8))
  | [] => (.ok [], [])
  | .error error :: file => (.error error, file)
  | .ok bytes :: file =>
      (.ok (bytes.take limit),
        if bytes.length ≤ limit then file else .ok (bytes.drop limit) :: file)

namespace CapturedTextChunks

def nextDecodedChunk (chunks : CapturedTextChunks) : Option (String × CapturedTextChunks) :=
  if chunks.pending = [] then none
  else
    let front := decodeFront chunks.pending.length chunks.pending
    if front.2 = [] then some (.ofList front.1, { chunks with pending := [] })
    else if front.1 ≠ [] then some (.ofList front.1, { chunks with pending := front.2 })
    else
      match errorLength chunks.pending with
      | some invalidLen =>
          some (.ofList [replacementChar],
            { chunks with pending := chunks.pending.drop invalidLen })
      | none => none

/-- The room for the next read. -/
def limit (chunks : CapturedTextChunks) : Nat :=
  (chunks.remaining.map (min · captureChunkBytes)).getD captureChunkBytes

def turn (chunks : CapturedTextChunks) : CaptureTurn :=
  match chunks.nextDecodedChunk with
  | some (text, after) => .yields (.ok text) after
  | none =>
      if chunks.eof then
        if chunks.pending = [] || !chunks.finishPartial then .ends
        else
          .yields (.ok (.ofList (fromUtf8Lossy chunks.pending))) { chunks with pending := [] }
      else
        match readCapturedBytes chunks.limit chunks.file with
        | (.error error, file) => .yields (.error error) { chunks with file }
        | (.ok bytes, file) =>
            if bytes = [] then .goes { chunks with file, eof := true }
            else
              .goes
                { chunks with
                  file
                  remaining := chunks.remaining.map (· - bytes.length)
                  pending := chunks.pending ++ bytes }

/-- A decoded chunk is the start of the text of all bytes, whatever is still to come, and the text
of the others is the rest of it. -/
theorem nextDecodedChunk_eq_some {chunks after : CapturedTextChunks} {text : String}
    (h : chunks.nextDecodedChunk = some (text, after)) :
    ∃ rest, after = { chunks with pending := rest } ∧ rest.length < chunks.pending.length ∧
      ∀ finish more, lossyText finish (chunks.pending ++ more) =
        text.toList ++ lossyText finish (rest ++ more) := by
  unfold nextDecodedChunk at h
  have happend := decodeFront_append chunks.pending.length chunks.pending
  have hfirst : firstChar (decodeFront chunks.pending.length chunks.pending).2 = none :=
    firstChar_decodeFront (Nat.le_refl _)
  dsimp only at h
  generalize decodeFront chunks.pending.length chunks.pending = front at h happend hfirst
  split_ifs at h with hpending hrest hfront
  · obtain ⟨rfl, rfl⟩ := Prod.mk.inj (Option.some.inj h)
    refine ⟨[], rfl, List.length_pos_of_ne_nil hpending, fun finish more => ?_⟩
    rw [hrest, List.append_nil] at happend
    rw [← happend, lossyText_text, String.toList_ofList, List.nil_append]
  · obtain ⟨rfl, rfl⟩ := Prod.mk.inj (Option.some.inj h)
    refine ⟨front.2, rfl, ?_, fun finish more => ?_⟩
    · obtain ⟨c, text, hcons⟩ := List.exists_cons_of_ne_nil hfront
      have hpositive := utf8EncodeChar_length_pos c
      rw [← happend, hcons, textBytes_cons, List.length_append, List.length_append]
      omega
    · rw [← happend, List.append_assoc, lossyText_text, String.toList_ofList]
  · have hnothing : front.1 = [] := not_not.mp hfront
    rw [hnothing, textBytes_nil, List.nil_append] at happend
    rw [happend] at hfirst
    cases herror : errorLength chunks.pending with
    | none => simp [herror] at h
    | some invalidLen =>
        simp only [herror] at h
        obtain ⟨rfl, rfl⟩ := Prod.mk.inj (Option.some.inj h)
        obtain ⟨hpositive, hbound⟩ := errorLength_bounds hpending herror
        refine ⟨chunks.pending.drop invalidLen, rfl, ?_, fun finish more => ?_⟩
        · rw [List.length_drop]
          omega
        · rw [lossyText_broken finish hfirst hpending herror, String.toList_ofList]
          rfl

theorem nextDecodedChunk_eq_none {chunks : CapturedTextChunks}
    (h : chunks.nextDecodedChunk = none) :
    chunks.pending = [] ∨ firstChar chunks.pending = none ∧ errorLength chunks.pending = none := by
  unfold nextDecodedChunk at h
  have happend := decodeFront_append chunks.pending.length chunks.pending
  have hfirst : firstChar (decodeFront chunks.pending.length chunks.pending).2 = none :=
    firstChar_decodeFront (Nat.le_refl _)
  dsimp only at h
  generalize decodeFront chunks.pending.length chunks.pending = front at h happend hfirst
  split_ifs at h with hpending hrest hfront
  · exact .inl hpending
  · have hnothing : front.1 = [] := not_not.mp hfront
    rw [hnothing, textBytes_nil, List.nil_append] at happend
    rw [happend] at hfirst
    cases herror : errorLength chunks.pending with
    | none => exact .inr ⟨hfirst, rfl⟩
    | some invalidLen => simp [herror] at h

/-- What is still to be done for the reads of a file. -/
def unreadWork (file : List (IoResult (List UInt8))) : Nat :=
  (file.map fun read => read.toOption.elim 1 fun bytes => 2 * bytes.length + 1).sum

theorem unreadWork_read (limit : Nat) (file : List (IoResult (List UInt8))) :
    match readCapturedBytes limit file with
    | (.error _, after) => unreadWork after < unreadWork file
    | (.ok bytes, after) => unreadWork after + 2 * bytes.length ≤ unreadWork file := by
  cases file with
  | nil => exact Nat.le_refl _
  | cons read file =>
      have hcons : ∀ (read : IoResult (List UInt8)) (file : List (IoResult (List UInt8))),
          unreadWork (read :: file) =
            (read.toOption.elim 1 fun bytes => 2 * bytes.length + 1) + unreadWork file :=
        fun _ _ => rfl
      cases read with
      | error error =>
          change unreadWork file < unreadWork (.error error :: file)
          rw [hcons]
          change unreadWork file < 1 + unreadWork file
          omega
      | ok bytes =>
          change unreadWork (if bytes.length ≤ limit then file else .ok (bytes.drop limit) :: file) +
            2 * (bytes.take limit).length ≤ unreadWork (.ok bytes :: file)
          have htake : (bytes.take limit).length = min limit bytes.length := List.length_take
          rw [hcons]
          change _ ≤ (2 * bytes.length + 1) + unreadWork file
          split_ifs with hlimit
          · omega
          · rw [hcons]
            change ((2 * (bytes.drop limit).length + 1) + unreadWork file) + _ ≤ _
            rw [List.length_drop]
            omega

/-- What is still to be done: to read and decode the bytes of the file, to decode those that wait,
and to find the end. -/
def work (chunks : CapturedTextChunks) : Nat :=
  unreadWork chunks.file + chunks.pending.length + if chunks.eof then 0 else 1

/-- Every turn does some of the work. -/
theorem turn_work (chunks : CapturedTextChunks) :
    (∀ item after, chunks.turn = .yields item after → after.work < chunks.work) ∧
      ∀ after, chunks.turn = .goes after → after.work < chunks.work := by
  unfold turn
  cases hdecoded : chunks.nextDecodedChunk with
  | some decoded =>
      obtain ⟨text, after⟩ := decoded
      obtain ⟨rest, rfl, hrest, _⟩ := nextDecodedChunk_eq_some hdecoded
      refine ⟨fun item after h => ?_, fun after h => by cases h⟩
      obtain ⟨-, rfl⟩ := CaptureTurn.yields.inj h
      unfold work
      dsimp only
      omega
  | none =>
      dsimp only
      by_cases heof : chunks.eof = true
      · rw [if_pos heof]
        by_cases hends : (chunks.pending = [] || !chunks.finishPartial) = true
        · rw [if_pos hends]
          exact ⟨(fun _ _ h => by cases h), (fun _ h => by cases h)⟩
        · rw [if_neg hends]
          refine ⟨fun item after h => ?_, fun after h => by cases h⟩
          obtain ⟨-, rfl⟩ := CaptureTurn.yields.inj h
          have hpending : chunks.pending ≠ [] := fun hnil => hends (by simp [hnil])
          have hpositive := List.length_pos_of_ne_nil hpending
          unfold work
          dsimp only [List.length_nil]
          omega
      · rw [if_neg heof]
        have hread := unreadWork_read chunks.limit chunks.file
        cases hresult : readCapturedBytes chunks.limit chunks.file with
        | mk result file =>
            rw [hresult] at hread
            cases result with
            | error error =>
                refine ⟨fun item after h => ?_, fun after h => by cases h⟩
                obtain ⟨-, rfl⟩ := CaptureTurn.yields.inj h
                dsimp only at hread
                unfold work
                dsimp only
                omega
            | ok bytes =>
                dsimp only at hread ⊢
                by_cases hbytes : bytes = []
                · rw [if_pos hbytes]
                  refine ⟨(fun _ _ h => by cases h), fun after h => ?_⟩
                  obtain rfl := CaptureTurn.goes.inj h
                  unfold work
                  rw [if_neg heof]
                  dsimp only
                  rw [if_pos rfl]
                  omega
                · rw [if_neg hbytes]
                  refine ⟨(fun _ _ h => by cases h), fun after h => ?_⟩
                  obtain rfl := CaptureTurn.goes.inj h
                  have hpositive := List.length_pos_of_ne_nil hbytes
                  unfold work
                  dsimp only
                  rw [List.length_append]
                  omega

/-- The chunks, one after the other. -/
def items (chunks : CapturedTextChunks) : List (IoResult String) :=
  match _hturn : chunks.turn with
  | .ends => []
  | .yields item after => item :: after.items
  | .goes after => after.items
termination_by chunks.work
decreasing_by
  · exact chunks.turn_work.1 item after _hturn
  · exact chunks.turn_work.2 after _hturn

/-! ### What the chunks are -/

/-- The bytes that are still to be read. -/
def unread (chunks : CapturedTextChunks) (reads : List (List UInt8)) : List UInt8 :=
  if chunks.eof then []
  else (chunks.remaining.map (reads.flatten.take ·)).getD reads.flatten

/-- All reads of the file succeed, and what waits and what comes is this text. -/
structure Holds (chunks : CapturedTextChunks) (finish : Bool) (text : List Char) : Prop where
  finishPartial : chunks.finishPartial = finish
  reading : ∃ reads : List (List UInt8), chunks.file = reads.map .ok ∧ (∀ read ∈ reads, read ≠ []) ∧
    text = lossyText finish (chunks.pending ++ chunks.unread reads)

theorem readCapturedBytes_reads (limit : Nat) {reads : List (List UInt8)}
    (hreads : ∀ read ∈ reads, read ≠ []) :
    ∃ (bytes : List UInt8) (after : List (List UInt8)),
      readCapturedBytes limit (reads.map .ok) = (.ok bytes, after.map .ok) ∧
      reads.flatten = bytes ++ after.flatten ∧ bytes.length ≤ limit ∧
      (∀ read ∈ after, read ≠ []) ∧ (bytes = [] → limit = 0 ∨ reads.flatten = []) := by
  cases reads with
  | nil => exact ⟨[], [], rfl, rfl, Nat.zero_le _, hreads, fun _ => .inr rfl⟩
  | cons read reads =>
      have hrest : ∀ other ∈ reads, other ≠ [] := fun other hother =>
        hreads other (List.mem_cons_of_mem _ hother)
      have hread : read ≠ [] := hreads read List.mem_cons_self
      by_cases hlimit : read.length ≤ limit
      · refine ⟨read, reads, ?_, List.flatten_cons, hlimit, hrest, fun hnil => absurd hnil hread⟩
        rw [List.map_cons, readCapturedBytes, if_pos hlimit, List.take_of_length_le hlimit]
      · refine ⟨read.take limit, read.drop limit :: reads, ?_, ?_, ?_, ?_, fun hnil => ?_⟩
        · rw [List.map_cons, readCapturedBytes, if_neg hlimit]
          rfl
        · rw [List.flatten_cons, List.flatten_cons, ← List.append_assoc, List.take_append_drop]
        · rw [List.length_take]
          omega
        · refine List.forall_mem_cons.mpr ⟨fun hnil => ?_, hrest⟩
          have hlength := congrArg List.length hnil
          rw [List.length_drop, List.length_nil] at hlength
          omega
        · rcases List.take_eq_nil_iff.mp hnil with hzero | hnone
          · exact .inl hzero
          · exact absurd hnone hread

theorem unread_eq_nil {chunks : CapturedTextChunks} {reads : List (List UInt8)}
    (h : chunks.limit = 0 ∨ reads.flatten = []) : chunks.unread reads = [] := by
  unfold unread
  split_ifs
  · rfl
  · rcases h with hzero | hnone
    · unfold limit at hzero
      cases hremaining : chunks.remaining with
      | none =>
          rw [hremaining] at hzero
          exact absurd hzero (by decide)
      | some remaining =>
          rw [hremaining] at hzero
          have hmin : min remaining captureChunkBytes = 0 := hzero
          have hbound : 0 < captureChunkBytes := by decide
          obtain rfl : remaining = 0 := by omega
          rfl
    · rw [hnone]
      cases chunks.remaining with
      | none => rfl
      | some remaining => exact List.take_nil

theorem unread_read {chunks : CapturedTextChunks} {reads later : List (List UInt8)}
    {bytes : List UInt8} (heof : ¬ chunks.eof = true)
    (hflatten : reads.flatten = bytes ++ later.flatten) (hlimit : bytes.length ≤ chunks.limit) :
    chunks.unread reads = bytes ++
      { chunks with
        file := later.map .ok
        remaining := chunks.remaining.map (· - bytes.length)
        pending := chunks.pending ++ bytes }.unread later := by
  unfold unread
  dsimp only
  rw [if_neg heof, if_neg heof, hflatten]
  cases hremaining : chunks.remaining with
  | none => rfl
  | some remaining =>
      have hbound : bytes.length ≤ remaining := by
        unfold limit at hlimit
        rw [hremaining] at hlimit
        exact Nat.le_trans hlimit (Nat.min_le_left _ _)
      change (bytes ++ later.flatten).take remaining =
        bytes ++ later.flatten.take (remaining - bytes.length)
      rw [List.take_append, List.take_of_length_le hbound]

/-- A turn yields the start of the text, or brings nothing but is not the last, or the text is at
its end. -/
theorem Holds.turn {chunks : CapturedTextChunks} {finish : Bool} {text : List Char}
    (h : chunks.Holds finish text) :
    (chunks.turn = .ends ∧ text = []) ∨
      (∃ (piece : String) (after : CapturedTextChunks) (rest : List Char),
        chunks.turn = .yields (.ok piece) after ∧ text = piece.toList ++ rest ∧
          after.Holds finish rest) ∨
      ∃ after, chunks.turn = .goes after ∧ after.Holds finish text := by
  obtain ⟨rfl, reads, hfile, hreads, htext⟩ := h
  unfold CapturedTextChunks.turn
  cases hdecoded : chunks.nextDecodedChunk with
  | some decoded =>
      obtain ⟨piece, after⟩ := decoded
      obtain ⟨rest, rfl, _, hrest⟩ := nextDecodedChunk_eq_some hdecoded
      refine .inr (.inl ⟨piece, _, _, rfl, htext.trans (hrest _ _), ?_⟩)
      exact ⟨rfl, reads, hfile, hreads, rfl⟩
  | none =>
      dsimp only
      by_cases heof : chunks.eof = true
      · have hnone : chunks.unread reads = [] := by rw [unread, if_pos heof]
        rw [hnone, List.append_nil] at htext
        rw [if_pos heof]
        by_cases hpending : chunks.pending = []
        · rw [if_pos (by simp [hpending])]
          refine .inl ⟨rfl, ?_⟩
          rw [htext, hpending, lossyText_nil]
        · cases hfinish : chunks.finishPartial with
          | false =>
              rw [if_pos (by simp)]
              refine .inl ⟨rfl, ?_⟩
              rw [htext, hfinish]
              rcases nextDecodedChunk_eq_none hdecoded with hnil | ⟨hfirst, hopen⟩
              · exact absurd hnil hpending
              · change (decodeLossy chunks.pending).1 = []
                rw [decodeLossy_open hfirst hopen]
          | true =>
              rw [if_neg (by simp [hpending])]
              refine .inr (.inl ⟨_, _, [], rfl, ?_, ?_⟩)
              · rw [htext, hfinish, String.toList_ofList, List.append_nil]
                rfl
              · refine ⟨rfl, reads, hfile, hreads, ?_⟩
                change [] = lossyText _ ([] ++ unread _ reads)
                rw [unread, if_pos heof, List.append_nil, lossyText_nil]
      · rw [if_neg heof]
        obtain ⟨bytes, later, hresult, hflatten, hlimit, hlater, hnothing⟩ :=
          readCapturedBytes_reads chunks.limit hreads
        rw [hfile, hresult]
        dsimp only
        refine .inr (.inr ?_)
        by_cases hbytes : bytes = []
        · rw [if_pos hbytes]
          refine ⟨_, rfl, rfl, later, rfl, hlater, ?_⟩
          have hleft : chunks.unread reads = [] :=
            unread_eq_nil (hnothing hbytes)
          rw [htext, hleft]
          rfl
        · rw [if_neg hbytes]
          refine ⟨_, rfl, rfl, later, rfl, hlater, ?_⟩
          have hleft := unread_read heof hflatten hlimit
          rw [htext, hleft, ← List.append_assoc]

theorem items_ends {chunks : CapturedTextChunks} (h : chunks.turn = .ends) : chunks.items = [] := by
  rw [items]
  split <;> simp_all

theorem items_yields {chunks after : CapturedTextChunks} {item : IoResult String}
    (h : chunks.turn = .yields item after) : chunks.items = item :: after.items := by
  rw [items]
  split <;> simp_all

theorem items_goes {chunks after : CapturedTextChunks} (h : chunks.turn = .goes after) :
    chunks.items = after.items := by
  rw [items]
  split <;> simp_all

/-- The chunks are the text, cut somehow. -/
theorem Holds.items {chunks : CapturedTextChunks} {finish : Bool} {text : List Char}
    (h : chunks.Holds finish text) :
    ∃ texts : List String, chunks.items = texts.map .ok ∧ (String.join texts).toList = text := by
  induction hwork : chunks.work using Nat.strongRecOn generalizing chunks text with
  | _ work ih =>
      rcases h.turn with ⟨hturn, rfl⟩ | ⟨piece, after, rest, hturn, rfl, hafter⟩ |
        ⟨after, hturn, hafter⟩
      · exact ⟨[], items_ends hturn, rfl⟩
      · have hless := chunks.turn_work.1 _ _ hturn
        obtain ⟨texts, hitems, hjoin⟩ := ih after.work (hwork ▸ hless) hafter rfl
        refine ⟨piece :: texts, ?_, ?_⟩
        · rw [items_yields hturn, hitems, List.map_cons]
        · rw [String.join_cons, String.toList_append, hjoin]
      · have hless := chunks.turn_work.2 _ hturn
        obtain ⟨texts, hitems, hjoin⟩ := ih after.work (hwork ▸ hless) hafter rfl
        exact ⟨texts, (items_goes hturn).trans hitems, hjoin⟩

end CapturedTextChunks

/-! ### What is made of the chunks -/

def boundedTextChars : Nat := 12000

def previewHeadChars : Nat := 6000

def previewTailChars : Nat := 5953

def previewMarker : String := "\n... output omitted; full text in artifact ...\n"

structure BoundedTextPreview where
  content : String
  originalBytes : Nat
  visibleBytes : Nat
  truncated : Bool
  jsonBytes : Nat
  deriving DecidableEq

def prefixChars (value : String) (count : Nat) : String := .ofList (value.toList.take count)

def retainTailChars (value : String) (count : Nat) : String :=
  .ofList (value.toList.drop (value.length - count))

/-- A character in a JSON text. -/
def escapeChar (c : Char) : List Char :=
  if c = '"' then ['\\', '"']
  else if c = '\\' then ['\\', '\\']
  else if c.toNat = 0x08 then ['\\', 'b']
  else if c.toNat = 0x09 then ['\\', 't']
  else if c.toNat = 0x0A then ['\\', 'n']
  else if c.toNat = 0x0C then ['\\', 'f']
  else if c.toNat = 0x0D then ['\\', 'r']
  else if c.toNat < 0x20 then
    ['\\', 'u', '0', '0', Nat.digitChar (c.toNat / 16), Nat.digitChar (c.toNat % 16)]
  else [c]

/-- `serde_json::to_string` of a string. -/
def jsonString (text : String) : String :=
  .ofList ('"' :: text.toList.flatMap escapeChar ++ ['"'])

/-- What the preview has kept so far. -/
structure PreviewScan where
  first : String := ""
  firstChars : Nat := 0
  tail : String := ""
  totalChars : Nat := 0
  originalBytes : Nat := 0
  jsonBytes : Nat := 2

def PreviewScan.push (scan : PreviewScan) (chunk : String) : PreviewScan :=
  let front := prefixChars chunk (boundedTextChars - scan.firstChars)
  let visible := scan.firstChars < boundedTextChars
  { first := if visible then scan.first ++ front else scan.first
    firstChars := if visible then scan.firstChars + front.length else scan.firstChars
    tail := retainTailChars (scan.tail ++ chunk) previewTailChars
    totalChars := scan.totalChars + chunk.length
    originalBytes := scan.originalBytes + chunk.utf8ByteSize
    jsonBytes := scan.jsonBytes + ((jsonString chunk).utf8ByteSize - 2) }

def PreviewScan.finish (scan : PreviewScan) : BoundedTextPreview :=
  if scan.totalChars ≤ boundedTextChars then
    { content := scan.first
      originalBytes := scan.originalBytes
      visibleBytes := scan.originalBytes
      truncated := false
      jsonBytes := scan.jsonBytes }
  else
    let content := prefixChars scan.first previewHeadChars ++ previewMarker ++ scan.tail
    { content
      originalBytes := scan.originalBytes
      visibleBytes := content.utf8ByteSize
      truncated := true
      jsonBytes := scan.jsonBytes }

/-- A loop over chunks that ends at the first that cannot be read. -/
def foldChunks {State : Type} (push : State → String → State) (state : State) :
    List (IoResult String) → IoResult State
  | [] => .ok state
  | .error error :: _ => .error error
  | .ok chunk :: items => foldChunks push (push state chunk) items

/-- `bounded_captured_text_preview` of a file, or of the error that opening it gave. -/
def boundedCapturedTextPreview (capture : IoResult (List (IoResult (List UInt8)))) :
    IoResult BoundedTextPreview := do
  let file ← capture
  let scan ← foldChunks PreviewScan.push {} (CapturedTextChunks.items { file })
  return scan.finish

/-- `snapshot_captured_text`: the bytes of the snapshot of a file that had so many bytes when it
was opened. -/
def snapshotCapturedText (capture : IoResult (List (IoResult (List UInt8))))
    (length : IoResult Nat) : IoResult (List UInt8) := do
  let file ← capture
  let remaining ← length
  foldChunks (fun output chunk => output ++ textBytes chunk.toList) []
    (CapturedTextChunks.items { file, remaining := some remaining, finishPartial := false })

/-- The loop of `read_captured_text_prefix`. -/
def readVisible (limitChars : Nat) (output : String) (visibleChars : Nat) :
    List (IoResult String) → String
  | [] => output
  | .error _ :: _ => ""
  | .ok chunk :: items =>
      let front := prefixChars chunk (limitChars - visibleChars)
      if visibleChars + front.length = limitChars then output ++ front
      else readVisible limitChars (output ++ front) (visibleChars + front.length) items

def readCapturedTextPrefix (capture : IoResult (List (IoResult (List UInt8))))
    (limitChars : Nat) : String :=
  if limitChars = 0 then ""
  else
    match capture with
    | .error _ => ""
    | .ok file => readVisible limitChars "" 0 (CapturedTextChunks.items { file })

/-! ### Chunks of a text -/

theorem foldChunks_ok {State : Type} (push : State → String → State) (state : State)
    (texts : List String) :
    foldChunks push state (texts.map .ok) = .ok (texts.foldl push state) := by
  induction texts generalizing state with
  | nil => rfl
  | cons text texts ih => exact ih (push state text)

@[simp]
theorem prefixChars_toList (value : String) (count : Nat) :
    (prefixChars value count).toList = value.toList.take count := by
  rw [prefixChars, String.toList_ofList]

@[simp]
theorem retainTailChars_toList (value : String) (count : Nat) :
    (retainTailChars value count).toList = value.toList.drop (value.length - count) := by
  rw [retainTailChars, String.toList_ofList]

/-- The end of a text is the end of its end and what is appended. -/
theorem drop_tail_append (first second : List Char) (count : Nat) :
    (first.drop (first.length - count) ++ second).drop
        ((first.drop (first.length - count) ++ second).length - count) =
      (first ++ second).drop ((first ++ second).length - count) := by
  by_cases hshort : first.length ≤ count
  · rw [Nat.sub_eq_zero_of_le hshort, List.drop_zero]
  · have hkept : (first.drop (first.length - count)).length = count := by
      rw [List.length_drop]
      omega
    have hleft : (first.drop (first.length - count) ++ second).length - count = second.length := by
      rw [List.length_append, hkept]
      omega
    have hright : (first ++ second).length - count = first.length - count + second.length := by
      rw [List.length_append]
      omega
    rw [hleft, hright, ← List.drop_drop, List.drop_append_of_le_length (Nat.sub_le _ _)]

/-- What a preview has kept of a text. -/
structure PreviewScan.Of (scan : PreviewScan) (text : String) : Prop where
  first : scan.first = prefixChars text boundedTextChars
  firstChars : scan.firstChars = min boundedTextChars text.length
  tail : scan.tail = retainTailChars text previewTailChars
  totalChars : scan.totalChars = text.length
  originalBytes : scan.originalBytes = text.utf8ByteSize
  jsonBytes : scan.jsonBytes = (jsonString text).utf8ByteSize

theorem utf8ByteSize_ofList_append (first second : List Char) :
    (String.ofList (first ++ second)).utf8ByteSize =
      (String.ofList first).utf8ByteSize + (String.ofList second).utf8ByteSize := by
  rw [String.ofList_append, String.utf8ByteSize_append]

/-- A JSON text has two quotes, and the characters as they are escaped. -/
theorem utf8ByteSize_jsonString (text : String) :
    (jsonString text).utf8ByteSize =
      2 + (text.toList.map fun c => (String.ofList (escapeChar c)).utf8ByteSize).sum := by
  have hbody : ∀ l : List Char, (String.ofList (l.flatMap escapeChar)).utf8ByteSize =
      (l.map fun c => (String.ofList (escapeChar c)).utf8ByteSize).sum := by
    intro l
    induction l with
    | nil => rfl
    | cons c l ih =>
        rw [List.flatMap_cons, utf8ByteSize_ofList_append, ih, List.map_cons, List.sum_cons]
  have hquote : (String.ofList ['"']).utf8ByteSize = 1 := rfl
  have hsplit : '"' :: text.toList.flatMap escapeChar ++ ['"'] =
      ['"'] ++ (text.toList.flatMap escapeChar ++ ['"']) := rfl
  rw [jsonString, hsplit, utf8ByteSize_ofList_append, utf8ByteSize_ofList_append, hbody, hquote]
  omega

theorem PreviewScan.Of.push {scan : PreviewScan} {text : String} (h : scan.Of text)
    (chunk : String) : (scan.push chunk).Of (text ++ chunk) := by
  have hlength : (text ++ chunk).length = text.length + chunk.length := String.length_append _ _
  have hfront : (prefixChars chunk (boundedTextChars - scan.firstChars)).length =
      min (boundedTextChars - scan.firstChars) chunk.length := by
    rw [← String.length_toList, prefixChars_toList, List.length_take, String.length_toList]
  have hfirst := h.first
  have hcount := h.firstChars
  refine ⟨?_, ?_, ?_, ?_, ?_, ?_⟩
  · unfold PreviewScan.push
    dsimp only
    split_ifs with hvisible
    · apply String.toList_inj.mp
      have hall : text.length ≤ boundedTextChars := by omega
      rw [String.toList_append, hfirst, prefixChars_toList, prefixChars_toList, prefixChars_toList,
        String.toList_append, List.take_append, String.length_toList, hcount]
      congr 2
      omega
    · apply String.toList_inj.mp
      rw [hfirst, prefixChars_toList, prefixChars_toList, String.toList_append,
        List.take_append_of_le_length]
      rw [String.length_toList]
      omega
  · unfold PreviewScan.push
    dsimp only
    split_ifs with hvisible
    · rw [hfront, hcount, hlength]
      omega
    · rw [hcount, hlength]
      omega
  · unfold PreviewScan.push
    dsimp only
    apply String.toList_inj.mp
    rw [h.tail, retainTailChars_toList, retainTailChars_toList, String.toList_append,
      retainTailChars_toList, String.toList_append, ← String.length_toList, ← String.length_toList,
      ← String.length_toList, String.toList_append, retainTailChars_toList, String.toList_append,
      ← String.length_toList]
    exact drop_tail_append _ _ _
  · rw [hlength, ← h.totalChars]
    rfl
  · rw [String.utf8ByteSize_append, ← h.originalBytes]
    rfl
  · have hjson := h.jsonBytes
    rw [utf8ByteSize_jsonString] at hjson ⊢
    change scan.jsonBytes + ((jsonString chunk).utf8ByteSize - 2) = _
    rw [hjson, utf8ByteSize_jsonString, String.toList_append, List.map_append, List.sum_append]
    omega

theorem PreviewScan.Of.foldl {scan : PreviewScan} {text : String} (h : scan.Of text)
    (texts : List String) : (texts.foldl PreviewScan.push scan).Of (text ++ String.join texts) := by
  induction texts generalizing scan text with
  | nil =>
      rw [String.join_nil, String.append_empty]
      exact h
  | cons chunk texts ih =>
      rw [List.foldl_cons, String.join_cons, ← String.append_assoc]
      exact ih (h.push chunk)

theorem PreviewScan.of_nothing : PreviewScan.Of {} "" :=
  ⟨rfl, rfl, rfl, rfl, rfl, rfl⟩

/-- The preview of a text. -/
def previewOf (text : String) : BoundedTextPreview where
  content :=
    if text.length ≤ boundedTextChars then text
    else prefixChars text previewHeadChars ++ previewMarker ++ retainTailChars text previewTailChars
  originalBytes := text.utf8ByteSize
  visibleBytes :=
    if text.length ≤ boundedTextChars then text.utf8ByteSize
    else
      (prefixChars text previewHeadChars ++ previewMarker ++
        retainTailChars text previewTailChars).utf8ByteSize
  truncated := decide (boundedTextChars < text.length)
  jsonBytes := (jsonString text).utf8ByteSize

theorem PreviewScan.Of.finish {scan : PreviewScan} {text : String} (h : scan.Of text) :
    scan.finish = previewOf text := by
  unfold PreviewScan.finish previewOf
  rw [h.totalChars, h.originalBytes, h.jsonBytes, h.first, h.tail]
  split_ifs with hshort
  · have hwhole : prefixChars text boundedTextChars = text := by
      apply String.toList_inj.mp
      rw [prefixChars_toList, List.take_of_length_le]
      rw [String.length_toList]
      exact hshort
    rw [hwhole, decide_eq_false (Nat.not_lt.mpr hshort)]
  · have hhead : prefixChars (prefixChars text boundedTextChars) previewHeadChars =
        prefixChars text previewHeadChars := by
      apply String.toList_inj.mp
      rw [prefixChars_toList, prefixChars_toList, prefixChars_toList, List.take_take]
      rfl
    rw [hhead, decide_eq_true (Nat.lt_of_not_le hshort)]

/-- A preview has 12 000 characters, or fewer where the text has. -/
theorem previewOf_length (text : String) :
    (previewOf text).content.length = min boundedTextChars text.length := by
  unfold previewOf
  dsimp only
  split_ifs with hshort
  · exact (Nat.min_eq_right hshort).symm
  · have hmarker : previewMarker.length = 47 := by decide
    have hhead : (prefixChars text previewHeadChars).length = previewHeadChars := by
      rw [← String.length_toList, prefixChars_toList, List.length_take, String.length_toList]
      unfold previewHeadChars boundedTextChars at *
      omega
    have htail : (retainTailChars text previewTailChars).length = previewTailChars := by
      rw [← String.length_toList, retainTailChars_toList, List.length_drop, String.length_toList]
      unfold previewTailChars boundedTextChars at *
      omega
    rw [String.length_append, String.length_append, hhead, hmarker, htail]
    unfold previewHeadChars previewTailChars boundedTextChars at *
    omega

/-! ### Reads of any lengths -/

namespace CapturedTextChunks

theorem holds_open {reads : List (List UInt8)} (hreads : ∀ read ∈ reads, read ≠ []) :
    Holds { file := reads.map .ok } true (fromUtf8Lossy reads.flatten) :=
  ⟨rfl, reads, rfl, hreads, rfl⟩

theorem holds_snapshot {reads : List (List UInt8)} (hreads : ∀ read ∈ reads, read ≠ [])
    (length : Nat) :
    Holds { file := reads.map .ok, remaining := some length, finishPartial := false } false
      (decodeLossy (reads.flatten.take length)).1 :=
  ⟨rfl, reads, rfl, hreads, rfl⟩

end CapturedTextChunks

theorem boundedCapturedTextPreview_reads {reads : List (List UInt8)}
    (hreads : ∀ read ∈ reads, read ≠ []) :
    boundedCapturedTextPreview (.ok (reads.map .ok)) =
      .ok (previewOf (.ofList (fromUtf8Lossy reads.flatten))) := by
  obtain ⟨texts, hitems, hjoin⟩ := (CapturedTextChunks.holds_open hreads).items
  have htext : String.join texts = .ofList (fromUtf8Lossy reads.flatten) := by
    rw [← hjoin, String.ofList_toList]
  have hscan := PreviewScan.of_nothing.foldl texts
  rw [String.empty_append, htext] at hscan
  unfold boundedCapturedTextPreview
  rw [ok_bind, hitems, foldChunks_ok, ok_bind, hscan.finish]
  rfl

theorem foldl_textBytes (texts : List String) (output : List UInt8) :
    texts.foldl (fun output chunk => output ++ textBytes chunk.toList) output =
      output ++ textBytes (String.join texts).toList := by
  induction texts generalizing output with
  | nil =>
      rw [String.join_nil]
      exact (List.append_nil output).symm
  | cons text texts ih =>
      rw [List.foldl_cons, ih, String.join_cons, String.toList_append, textBytes_append,
        List.append_assoc]

theorem snapshotCapturedText_reads {reads : List (List UInt8)}
    (hreads : ∀ read ∈ reads, read ≠ []) (length : Nat) :
    snapshotCapturedText (.ok (reads.map .ok)) (.ok length) =
      .ok (textBytes (decodeLossy (reads.flatten.take length)).1) := by
  obtain ⟨texts, hitems, hjoin⟩ := (CapturedTextChunks.holds_snapshot hreads length).items
  unfold snapshotCapturedText
  rw [ok_bind, ok_bind, hitems, foldChunks_ok, foldl_textBytes, hjoin, List.nil_append]

/-- What is read of the prefix is the start of the text. -/
theorem readVisible_texts {limitChars : Nat} (texts : List String) (output : String)
    (houtput : output.length < limitChars) :
    (readVisible limitChars output output.length (texts.map .ok)).toList =
      (output.toList ++ (String.join texts).toList).take limitChars := by
  have hout : output.toList.take limitChars = output.toList :=
    List.take_of_length_le (by rw [String.length_toList]; exact houtput.le)
  induction texts generalizing output with
  | nil => simp [readVisible, hout]
  | cons text texts ih =>
      have hfront : (prefixChars text (limitChars - output.length)).length =
          min (limitChars - output.length) text.length := by
        rw [← String.length_toList, prefixChars_toList, List.length_take, String.length_toList]
      rw [List.map_cons, readVisible]
      split_ifs with hfull
      · have hzero : limitChars - output.length - text.length = 0 := by omega
        simp [prefixChars_toList, List.take_append, hout, hzero, String.length_toList]
      · have hfits : text.length ≤ limitChars - output.length := by omega
        have hall : prefixChars text (limitChars - output.length) = text := by
          rw [prefixChars, List.take_of_length_le (text.length_toList ▸ hfits),
            String.ofList_toList]
        rw [hall, ← String.length_append, ih]
        · simp
        · rw [String.length_append]
          omega
        · simpa [List.take_append, hout, String.length_toList] using hfits

/-- However the file is read, its prefix is that of the text that it is decoded to. -/
theorem readCapturedTextPrefix_reads {reads : List (List UInt8)}
    (hreads : ∀ read ∈ reads, read ≠ []) (limitChars : Nat) :
    readCapturedTextPrefix (.ok (reads.map .ok)) limitChars =
      prefixChars (.ofList (fromUtf8Lossy reads.flatten)) limitChars := by
  obtain ⟨texts, hitems, hjoin⟩ := (CapturedTextChunks.holds_open hreads).items
  apply String.toList_inj.mp
  rw [readCapturedTextPrefix, prefixChars_toList, String.toList_ofList, ← hjoin]
  split_ifs with hlimit
  · rw [hlimit]
    rfl
  · rw [hitems]
    exact readVisible_texts texts "" (Nat.pos_of_ne_zero hlimit)

theorem readCapturedTextPrefix_reads_cut :
    readCapturedTextPrefix (.ok ([[0x61, 0xE4], [0xBD, 0xA0, 0x62]].map .ok)) 2 =
      .ofList ['a', '你'] := by
  rw [readCapturedTextPrefix_reads (by decide)]
  apply String.toList_inj.mp
  rw [prefixChars_toList]
  decide

/-! ### What a scan is fed -/

section
variable {Reader : Type} {consume : Reader → List Char → Reader}

/-- A scan has been fed the text at the front of the bytes, all of it; and it finds a file not to be
text when no character can start behind this text. -/
structure TextScan.Fed (consume : Reader → List Char → Reader) (start : Reader)
    (scan : TextScan Reader) (bytes : List UInt8) : Prop where
  reading : ∃ text rest, bytes = textBytes text ++ rest ∧ scan.reader = consume start text ∧
    firstChar rest = none ∧ (scan.validUtf8 = true → scan.pending = rest) ∧
    (scan.validUtf8 = false → rest ≠ [] ∧ ∀ more, firstChar (rest ++ more) = none)

theorem TextScan.Fed.chunk {start : Reader} {scan : TextScan Reader} {bytes : List UInt8}
    (h : scan.Fed consume start bytes)
    (hconsume : ∀ reader front back, consume (consume reader front) back =
      consume reader (front ++ back)) (chunk : List UInt8) :
    (scan.chunk consume chunk).Fed consume start (bytes ++ chunk) := by
  obtain ⟨text, rest, rfl, hreader, hrest, hvalid, hbroken⟩ := h
  cases hscan : scan.validUtf8 with
  | false =>
      obtain ⟨hne, hnone⟩ := hbroken hscan
      refine ⟨text, rest ++ chunk, List.append_assoc _ _ _, ?_, hnone chunk, ?_, fun _ => ⟨?_, ?_⟩⟩
      · simp [TextScan.chunk, hscan, hreader]
      · simp [TextScan.chunk, hscan]
      · exact List.append_ne_nil_of_left_ne_nil hne _
      · intro more
        rw [List.append_assoc]
        exact hnone (chunk ++ more)
  | true =>
      have hpending := hvalid hscan
      have happend := decodeFront_append (rest ++ chunk).length (rest ++ chunk)
      have hwhole : firstChar (decodeFront (rest ++ chunk).length (rest ++ chunk)).2 = none :=
        firstChar_decodeFront (Nat.le_refl _)
      have hnext : scan.chunk consume chunk =
          { digested := scan.digested ++ chunk
            sizeBytes := scan.sizeBytes + chunk.length
            pending := (decodeFront (rest ++ chunk).length (rest ++ chunk)).2
            validUtf8 := (decodeFront (rest ++ chunk).length (rest ++ chunk)).2.isEmpty ||
              completable (decodeFront (rest ++ chunk).length (rest ++ chunk)).2
            reader := consume scan.reader
              (decodeFront (rest ++ chunk).length (rest ++ chunk)).1 } := by
        simp [TextScan.chunk, hscan, hpending]
      rw [hnext]
      generalize decodeFront (rest ++ chunk).length (rest ++ chunk) = front at happend hwhole
      refine ⟨text ++ front.1, front.2, ?_, ?_, hwhole, fun _ => rfl, fun hinvalid => ?_⟩
      · rw [textBytes_append, List.append_assoc, List.append_assoc, happend]
      · rw [hreader, hconsume]
      · simp only [Bool.or_eq_false_iff, List.isEmpty_eq_false_iff] at hinvalid
        exact ⟨hinvalid.1, firstChar_append_of_broken hwhole hinvalid.1 hinvalid.2⟩

theorem TextScan.Fed.chunks {start : Reader} {scan : TextScan Reader} {bytes : List UInt8}
    (h : scan.Fed consume start bytes)
    (hconsume : ∀ reader front back, consume (consume reader front) back =
      consume reader (front ++ back)) (chunks : List (List UInt8)) :
    (chunks.foldl (TextScan.chunk consume) scan).Fed consume start (bytes ++ chunks.flatten) := by
  induction chunks generalizing scan bytes with
  | nil => simpa using h
  | cons chunk chunks ih =>
      rw [List.foldl_cons, List.flatten_cons, ← List.append_assoc]
      exact ih (h.chunk hconsume chunk)

/-- A scan feeds the longest text at the front of a file, and a file is text if nothing is behind
this. -/
theorem scanText_feeds (hnothing : ∀ reader, consume reader [] = reader)
    (hconsume : ∀ reader front back, consume (consume reader front) back =
      consume reader (front ++ back)) (reader : Reader) (chunks : List (List UInt8)) :
    ∃ text rest, chunks.flatten = textBytes text ++ rest ∧
      (scanText consume reader chunks).reader = consume reader text ∧
      (∀ other more, chunks.flatten = textBytes other ++ more → other <+: text) ∧
      ((scanText consume reader chunks).validUtf8 = true ↔ rest = []) := by
  have hstart : TextScan.Fed consume reader { reader } [] := by
    refine ⟨[], [], rfl, (hnothing reader).symm, ?_, fun _ => rfl, fun h => by cases h⟩
    have hempty : firstChar (decodeFront 0 []).2 = none := firstChar_decodeFront (Nat.le_refl _)
    exact hempty
  obtain ⟨text, rest, hbytes, hreader, hrest, hvalid, hbroken⟩ := hstart.chunks hconsume chunks
  rw [List.nil_append] at hbytes
  refine ⟨text, rest, hbytes, hreader, fun other more hother => ?_, ?_⟩
  · exact prefix_of_textBytes hrest (hbytes.symm.trans hother)
  · unfold scanText
    dsimp only
    rw [Bool.and_eq_true, List.isEmpty_iff]
    constructor
    · rintro ⟨hscan, hpending⟩
      rw [← hvalid hscan, hpending]
    · rintro rfl
      have hscan : (chunks.foldl (TextScan.chunk consume) { reader }).validUtf8 = true := by
        rw [← Bool.not_eq_false]
        intro hinvalid
        exact (hbroken hinvalid).1 rfl
      exact ⟨hscan, hvalid hscan⟩

end

/-- How bytes are cut into reads has no say in their text: neither in the decoded chunks and the
artifact, nor in the preview, the snapshot and what a scan is fed. -/
theorem decoding_independent_of_reads (reads : List (List UInt8))
    (hreads : ∀ read ∈ reads, read ≠ []) :
    (∃ texts : List String, CapturedTextChunks.items { file := reads.map .ok } = texts.map .ok ∧
      String.join texts = .ofList (fromUtf8Lossy reads.flatten)) ∧
    (boundedCapturedTextPreview (.ok (reads.map .ok)) =
        .ok (previewOf (.ofList (fromUtf8Lossy reads.flatten))) ∧
      ∀ text, (previewOf text).content.length = min boundedTextChars text.length) ∧
    (∀ chunks : List (List UInt8), ∃ text rest, chunks.flatten = textBytes text ++ rest ∧
      (scanText (· ++ ·) [] chunks).reader = text ∧
      (∀ other more, chunks.flatten = textBytes other ++ more → other <+: text) ∧
      ((scanText (· ++ ·) [] chunks).validUtf8 = true ↔
        ∃ other, textBytes other = chunks.flatten)) ∧
    ∀ length, ∃ front,
      reads.flatten.take length = front ++ unfinished (reads.flatten.take length) ∧
      (unfinished (reads.flatten.take length) = [] ∨
        completable (unfinished (reads.flatten.take length)) = true) ∧
      fromUtf8Lossy (reads.flatten.take length) = fromUtf8Lossy front ++
        (if unfinished (reads.flatten.take length) = [] then [] else [replacementChar]) ∧
      snapshotCapturedText (.ok (reads.map .ok)) (.ok length) =
        .ok (textBytes (fromUtf8Lossy front)) := by
  refine ⟨?_, ⟨boundedCapturedTextPreview_reads hreads, previewOf_length⟩, fun chunks => ?_,
    fun length => ?_⟩
  · obtain ⟨texts, hitems, hjoin⟩ := (CapturedTextChunks.holds_open hreads).items
    exact ⟨texts, hitems, by rw [← hjoin, String.ofList_toList]⟩
  · obtain ⟨text, rest, hbytes, hreader, hlongest, hvalid⟩ :=
      scanText_feeds (fun text => List.append_nil text) (fun start front back =>
        List.append_assoc start front back) [] chunks
    refine ⟨text, rest, hbytes, hreader, hlongest, hvalid.trans ⟨?_, ?_⟩⟩
    · rintro rfl
      exact ⟨text, by rw [hbytes, List.append_nil]⟩
    · rintro ⟨other, hother⟩
      obtain ⟨tail, rfl⟩ := hlongest other [] (by rw [hother, List.append_nil])
      rw [← hother, textBytes_append, List.append_assoc, List.self_eq_append_right] at hbytes
      exact (List.append_eq_nil_iff.mp hbytes).2
  · obtain ⟨front, hfront, htext, hopen⟩ := decodeLossy_split (reads.flatten.take length)
    refine ⟨front, hfront, hopen.imp_right And.right, ?_, ?_⟩
    · rw [← htext]
      rfl
    · rw [snapshotCapturedText_reads hreads, htext]

/-- A character cut by a read is decoded, a byte of no character is replaced, and so is a character
that has not come to its end. -/
theorem cut_character_preview :
    boundedCapturedTextPreview
        (.ok [.ok [0x61, 0xE4], .ok [0xBD, 0xA0], .ok [0xFF, 0x62, 0xF0, 0x90]]) =
      .ok (previewOf (.ofList ['a', '你', '\uFFFD', 'b', '\uFFFD'])) := by
  have hpreview := (decoding_independent_of_reads
    [[0x61, 0xE4], [0xBD, 0xA0], [0xFF, 0x62, 0xF0, 0x90]] (by decide)).2.1.1
  have htext : fromUtf8Lossy [[0x61, 0xE4], [0xBD, 0xA0], [0xFF, 0x62, 0xF0, 0x90]].flatten =
      ['a', '你', '\uFFFD', 'b', '\uFFFD'] := by decide
  rw [htext] at hpreview
  exact hpreview

end VvAgent
