import VvAgent.Lib.Utf8Stream
import VvAgent.Workspace.Baselines

/-!
Reading a file in chunks. The backend hands out the bytes of a file in pieces of its choice; a
scan digests them, decodes what is whole and keeps the rest for the next piece. However the bytes
are cut, the page that `read_file` returns is the one of the whole text, and a file that is not
text is found out.
-/

namespace VvAgent
open Lib Lib.Outcome

/-! ### A scan -/

/-- A scan on its way: the bytes that the digest has seen and their number, those that wait for
more, whether all was text so far, and what the reader has come to. -/
structure TextScan (Reader : Type) where
  digested : List UInt8 := []
  sizeBytes : Nat := 0
  pending : List UInt8 := []
  validUtf8 : Bool := true
  reader : Reader

section
variable {Reader : Type} (consume : Reader → List Char → Reader)

/-- One chunk of a scan. -/
def TextScan.chunk (scan : TextScan Reader) (chunk : List UInt8) : TextScan Reader :=
  let seen :=
    { scan with
      digested := scan.digested ++ chunk
      sizeBytes := scan.sizeBytes + chunk.length }
  if scan.validUtf8 then
    let bytes := scan.pending ++ chunk
    let front := decodeFront bytes.length bytes
    { seen with
      reader := consume scan.reader front.1
      pending := front.2
      validUtf8 := front.2.isEmpty || completable front.2 }
  else seen

/-- `scan_text`: a text must not end within a character. -/
def scanText (reader : Reader) (chunks : List (List UInt8)) : TextScan Reader :=
  let scanned := chunks.foldl (TextScan.chunk consume) { reader }
  { scanned with validUtf8 := scanned.validUtf8 && scanned.pending.isEmpty }

/-- What a scan holds of the bytes that have come: all of them are digested, and while they are
text, the reader has consumed it but for the bytes that wait. -/
structure TextScan.Holds (start : Reader) (scan : TextScan Reader) (bytes : List UInt8) : Prop where
  digested : scan.digested = bytes
  size : scan.sizeBytes = bytes.length
  text : scan.validUtf8 = true → ∃ text, textBytes text ++ scan.pending = bytes ∧
    scan.reader = consume start text
  whole : scan.validUtf8 = true → firstChar scan.pending = none
  /-- The bytes are no front of a text. -/
  broken : scan.validUtf8 = false → ∀ text more, textBytes text ≠ bytes ++ more

variable {consume}

theorem TextScan.Holds.chunk {start : Reader} {scan : TextScan Reader} {bytes : List UInt8}
    (h : scan.Holds consume start bytes)
    (hconsume : ∀ reader front back, consume (consume reader front) back =
      consume reader (front ++ back)) (chunk : List UInt8) :
    (scan.chunk consume chunk).Holds consume start (bytes ++ chunk) := by
  cases hvalid : scan.validUtf8 with
  | false =>
      have hbroken := h.broken hvalid
      refine ⟨?_, ?_, ?_, ?_, ?_⟩
      · simp [TextScan.chunk, hvalid, h.digested]
      · simp [TextScan.chunk, hvalid, h.size]
      · simp [TextScan.chunk, hvalid]
      · simp [TextScan.chunk, hvalid]
      · intro _ text more
        rw [List.append_assoc]
        exact hbroken text (chunk ++ more)
  | true =>
      obtain ⟨text, hbytes, hreader⟩ := h.text hvalid
      have hnext : scan.chunk consume chunk =
          { digested := scan.digested ++ chunk
            sizeBytes := scan.sizeBytes + chunk.length
            pending := (decodeFront (scan.pending ++ chunk).length (scan.pending ++ chunk)).2
            validUtf8 :=
              (decodeFront (scan.pending ++ chunk).length (scan.pending ++ chunk)).2.isEmpty ||
                completable (decodeFront (scan.pending ++ chunk).length (scan.pending ++ chunk)).2
            reader := consume scan.reader
              (decodeFront (scan.pending ++ chunk).length (scan.pending ++ chunk)).1 } := by
        simp [TextScan.chunk, hvalid]
      have happend := decodeFront_append (scan.pending ++ chunk).length (scan.pending ++ chunk)
      have hwhole : firstChar (decodeFront (scan.pending ++ chunk).length
          (scan.pending ++ chunk)).2 = none := firstChar_decodeFront (Nat.le_refl _)
      rw [hnext]
      generalize decodeFront (scan.pending ++ chunk).length (scan.pending ++ chunk) = front
        at happend hwhole
      have hall : textBytes (text ++ front.1) ++ front.2 = bytes ++ chunk := by
        rw [textBytes_append, List.append_assoc, happend, ← hbytes, List.append_assoc]
      refine ⟨by rw [h.digested], by rw [h.size, List.length_append], ?_, fun _ => hwhole, ?_⟩
      · intro _
        refine ⟨text ++ front.1, hall, ?_⟩
        rw [← hconsume, ← hreader]
      · intro hinvalid other more hother
        rw [← hall, List.append_assoc] at hother
        obtain ⟨tail, _, htail⟩ := textBytes_prefix _ _ _ hother
        simp only [Bool.or_eq_false_iff, List.isEmpty_eq_false_iff] at hinvalid
        rcases (rest_of_text htail.symm hwhole).1 with hnone | hmore
        · exact hinvalid.1 hnone
        · rw [hmore] at hinvalid
          cases hinvalid.2

theorem TextScan.Holds.start (hnothing : ∀ reader, consume reader [] = reader) (reader : Reader) :
    TextScan.Holds consume reader { reader } [] := by
  refine ⟨rfl, rfl, fun _ => ⟨[], rfl, (hnothing reader).symm⟩, fun _ => ?_, ?_⟩
  · have hempty : firstChar (decodeFront 0 []).2 = none := firstChar_decodeFront (Nat.le_refl _)
    exact hempty
  · intro hinvalid
    cases hinvalid

theorem TextScan.Holds.chunks {start : Reader} {scan : TextScan Reader} {bytes : List UInt8}
    (h : scan.Holds consume start bytes)
    (hconsume : ∀ reader front back, consume (consume reader front) back =
      consume reader (front ++ back)) (chunks : List (List UInt8)) :
    (chunks.foldl (TextScan.chunk consume) scan).Holds consume start (bytes ++ chunks.flatten) := by
  induction chunks generalizing scan bytes with
  | nil => simpa using h
  | cons chunk chunks ih =>
      rw [List.foldl_cons, List.flatten_cons, ← List.append_assoc]
      exact ih (h.chunk hconsume chunk)

/-- However a file is cut, a scan digests all of it, finds out whether it is text, and has the
reader consume the text. -/
theorem scanText_spec (hnothing : ∀ reader, consume reader [] = reader)
    (hconsume : ∀ reader front back, consume (consume reader front) back =
      consume reader (front ++ back)) (reader : Reader) (chunks : List (List UInt8)) :
    (scanText consume reader chunks).digested = chunks.flatten ∧
      (scanText consume reader chunks).sizeBytes = chunks.flatten.length ∧
      (∀ text, textBytes text = chunks.flatten →
        (scanText consume reader chunks).validUtf8 = true ∧
          (scanText consume reader chunks).reader = consume reader text) ∧
      ((scanText consume reader chunks).validUtf8 = true →
        ∃ text, textBytes text = chunks.flatten) := by
  have h := (TextScan.Holds.start hnothing reader).chunks hconsume chunks
  rw [List.nil_append] at h
  unfold scanText
  generalize chunks.foldl (TextScan.chunk consume) { reader } = scan at h
  refine ⟨h.digested, h.size, fun text htext => ?_, fun hvalid => ?_⟩
  · have hvalid : scan.validUtf8 = true := by
      rw [← Bool.not_eq_false]
      intro hinvalid
      exact h.broken hinvalid text [] (by rw [htext, List.append_nil])
    obtain ⟨found, hfound, hreader⟩ := h.text hvalid
    rw [← htext] at hfound
    obtain ⟨tail, rfl, htail⟩ := textBytes_prefix _ _ _ hfound.symm
    have hpending : scan.pending = [] := by
      have hcomplete : textBytes tail = scan.pending ++ [] := by rw [List.append_nil, htail]
      exact (rest_of_text hcomplete (h.whole hvalid)).2 rfl
    have hnone : tail = [] := by
      apply textBytes_inj
      rw [← htail, hpending]
      rfl
    simp [hvalid, hpending, hreader, hnone]
  · simp only [Bool.and_eq_true, List.isEmpty_iff] at hvalid
    obtain ⟨text, htext, _⟩ := h.text hvalid.1
    rw [hvalid.2, List.append_nil] at htext
    exact ⟨text, htext⟩

end

/-! ### `read_file` -/

namespace ReadPage

/-- The characters of one chunk; a byte order mark is left out if it is the first character of
all. -/
def consumeChunk (reader : Bool × ReadPage) (text : List Char) : Bool × ReadPage :=
  text.foldl
    (fun reader character =>
      (false, if reader.1 && character == '\uFEFF' then reader.2 else reader.2.step character))
    reader

theorem consumeChunk_nil (reader : Bool × ReadPage) : consumeChunk reader [] = reader := rfl

theorem consumeChunk_append (reader : Bool × ReadPage) (front back : List Char) :
    consumeChunk (consumeChunk reader front) back = consumeChunk reader (front ++ back) := by
  rw [consumeChunk, consumeChunk, consumeChunk, List.foldl_append]

theorem consumeChunk_false (page : ReadPage) (text : List Char) :
    consumeChunk (false, page) text = (false, text.foldl step page) := by
  induction text generalizing page with
  | nil => rfl
  | cons character text ih => exact ih (page.step character)

/-- A text in one chunk is consumed as a whole. -/
theorem consumeChunk_whole (page : ReadPage) (text : List Char) :
    (consumeChunk (true, page) text).2 = page.consume text := by
  cases text with
  | nil => rfl
  | cons character text =>
      by_cases hmark : character = '\uFEFF'
      · subst hmark
        have hchunk : consumeChunk (true, page) ('\uFEFF' :: text) =
            consumeChunk (false, page) text := rfl
        rw [hchunk, consumeChunk_false]
        rfl
      · have hchunk : consumeChunk (true, page) (character :: text) =
            consumeChunk (false, page.step character) text := by
          simp [consumeChunk, hmark]
        rw [hchunk, consumeChunk_false]
        unfold consume
        split
        · rename_i heq
          exact absurd (List.cons.inj heq).1 hmark
        · rfl

end ReadPage

/-- How a backend cuts the bytes of a file: into chunks that are these bytes. -/
structure Chunking where
  chunks : ByteArray → List (List UInt8)
  flatten_chunks : ∀ raw, (chunks raw).flatten = raw.data.toList

section
variable [Platform] [ContentDigest] {World : Type}

namespace ToolContext

/-- The plan of `read_file` over the chunks of the file. -/
def planReadChunks (chunking : Chunking) (backend : WorkspaceBackend World)
    (context : ToolContext World) (arguments : JsonObject) :
    Except ToolExecutionResult PlannedRead := do
  refuse (arguments.lookup "path").isNone missingPathError
  let path := stringArg (arguments.lookup "path") ""
  (backend.resolveWorkspacePath context.world path).mapError pathEscapesWorkspaceError
  requireFile backend context path
  let cursor ← readCursor arguments path
  refuse (cursor.isSome &&
      ((arguments.lookup "start_line").isSome || (arguments.lookup "end_line").isSome))
    (workspaceToolError "`cursor` is incompatible with `start_line` and `end_line`"
      "invalid_arguments" path)
  let startLine ← readLine arguments "start_line" path 1
  let endLine ← readLine arguments "end_line" path (startLine.getD 1)
  refuse (cursor.any fun cursor => normalizeCursorPath cursor.path != normalizeCursorPath path)
    (workspaceToolError "cursor path does not match requested path" "cursor_path_mismatch" path)
  let raw ← (backend.readBytes context.world path).mapError workspaceBackendError
  let scanned := scanText ReadPage.consumeChunk
    (true, ReadPage.new (startLine.getD 1) endLine (cursor.map (·.offsetChars))
      (boolArg (arguments.lookup "show_line_numbers") false)) (chunking.chunks raw)
  refuse (!scanned.validUtf8)
    (workspaceToolError "Unsupported file encoding for read_file." "unsupported_encoding" path)
  let page := scanned.reader.2
  let seen : ByteArray := ⟨scanned.digested.toArray⟩
  refuse (cursor.any fun cursor => cursor.sha256 != contentHash seen)
    (workspaceToolError "source changed after cursor was issued" "stale_cursor" path)
  refuse (cursor.any fun cursor => decide (page.offset < cursor.offsetChars))
    (workspaceToolError "cursor offset is outside the source" "cursor_offset_invalid" path)
  return {
    path
    raw := seen
    asksPart := startLine.getD 1 != 1 || endLine.isSome || cursor.isSome
    page }

/-- However the bytes are cut, the plan is that of the whole text. -/
theorem planReadChunks_eq (chunking : Chunking) (backend : WorkspaceBackend World)
    (context : ToolContext World) (arguments : JsonObject) :
    planReadChunks chunking backend context arguments = planRead backend context arguments := by
  unfold planReadChunks planRead
  refine bind_congr fun _ => ?_
  refine bind_congr fun _ => ?_
  refine bind_congr fun _ => ?_
  refine bind_congr fun cursor => ?_
  refine bind_congr fun _ => ?_
  refine bind_congr fun startLine => ?_
  refine bind_congr fun endLine => ?_
  refine bind_congr fun _ => ?_
  refine bind_congr fun raw => ?_
  obtain ⟨hdigested, _, htext, hvalid⟩ := scanText_spec ReadPage.consumeChunk_nil
    ReadPage.consumeChunk_append
    (true, ReadPage.new (startLine.getD 1) endLine (cursor.map (·.offsetChars))
      (boolArg (arguments.lookup "show_line_numbers") false)) (chunking.chunks raw)
  rw [chunking.flatten_chunks] at hdigested htext hvalid
  have hseen : (⟨(scanText ReadPage.consumeChunk (true, ReadPage.new (startLine.getD 1) endLine
      (cursor.map (·.offsetChars)) (boolArg (arguments.lookup "show_line_numbers") false))
        (chunking.chunks raw)).digested.toArray⟩ : ByteArray) = raw := by
    rw [hdigested]
  cases hdecoded : String.fromUTF8? raw with
  | none =>
      have hinvalid : (scanText ReadPage.consumeChunk (true, ReadPage.new (startLine.getD 1) endLine
          (cursor.map (·.offsetChars)) (boolArg (arguments.lookup "show_line_numbers") false))
            (chunking.chunks raw)).validUtf8 = false := by
        rw [← Bool.not_eq_true]
        intro hscan
        obtain ⟨text, hbytes⟩ := hvalid hscan
        have hraw : (String.ofList text).toUTF8 = raw := by
          apply ByteArray.ext
          rw [← Array.toList_inj, String.toUTF8, toByteArray_eq_textBytes, String.toList_ofList,
            hbytes]
        have hdecodes := decodes_toUTF8 (String.ofList text)
        rw [decodes, hraw, hdecoded] at hdecodes
        cases hdecodes
      simp only [hinvalid, Bool.not_false, refuse_true, error_bind, require_none]
  | some text =>
      have hbytes : textBytes text.toList = raw.data.toList := by
        rw [← toByteArray_eq_textBytes]
        unfold String.fromUTF8? at hdecoded
        split_ifs at hdecoded
        obtain rfl := Option.some.inj hdecoded
        rfl
      obtain ⟨hscan, hreader⟩ := htext text.toList hbytes
      simp only [hscan, hseen, hreader, ReadPage.consumeChunk_whole, Bool.not_true, refuse_false,
        ok_bind, require_some]

/-- `read_file` over the chunks of the file. -/
def readFileChunks (chunking : Chunking) (backend : WorkspaceBackend World)
    (context : ToolContext World) (arguments : JsonObject) :
    ToolExecutionResult × ToolContext World :=
  match planReadChunks chunking backend context arguments with
  | .error result => (result, context)
  | .ok plan =>
      let entry := baselineEntry (contentHash plan.raw) plan.raw.size plan.page.lineEnding
        plan.isPartial readFileBaselineSource
      (readTextResult plan,
        { context with sharedState := putFileBaseline context.sharedState plan.path entry })

theorem readFileChunks_eq (chunking : Chunking) (backend : WorkspaceBackend World)
    (context : ToolContext World) (arguments : JsonObject) :
    readFileChunks chunking backend context arguments = readFile backend context arguments := by
  unfold readFileChunks readFile
  rewrite [planReadChunks_eq]
  cases planRead backend context arguments <;> rfl

end ToolContext

end

end VvAgent
