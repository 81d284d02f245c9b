import VvAgent.Workspace.Edits
import VvAgent.Workspace.Streaming

/-!
The pages of a file. A page waits until the part that it is asked for begins, takes as many
characters as it has room for, and says where the next one begins; the pages that are read one
after the other, each from the cursor of the one before, are the text.
-/

namespace VvAgent
open Lib Lib.Outcome

/-! ### One page -/

/-- The lines of a text behind the first ones. -/
def dropLines : Nat → List Char → List Char
  | 0, text => text
  | _ + 1, [] => []
  | count + 1, character :: rest =>
      dropLines (if character = '\n' then count else count + 1) rest

namespace ReadPage
variable {page : ReadPage} {character : Char}

/-- What a page was asked for, and where it stands. -/
structure SameStand (page other : ReadPage) : Prop where
  start : other.startLine = page.startLine
  finish : other.endLine = page.endLine
  requested : other.requestedOffset = page.requestedOffset
  numbers : other.showLineNumbers = page.showLineNumbers
  offset : other.offset = page.offset
  line : other.line = page.line

theorem put_stand (page : ReadPage) (character : Char) : SameStand page (page.put character) := by
  unfold put
  dsimp only
  split_ifs <;> exact ⟨rfl, rfl, rfl, rfl, rfl, rfl⟩

theorem skip_stand (page : ReadPage) : SameStand page page.skip := by
  unfold skip
  split_ifs <;> exact ⟨rfl, rfl, rfl, rfl, rfl, rfl⟩

/-- A step advances by one character, whatever else it does. -/
theorem step_stand (page : ReadPage) (character : Char) :
    ∃ other, SameStand page other ∧ page.step character = other.advance character := by
  unfold step
  split_ifs
  · exact ⟨_, put_stand page character, rfl⟩
  · exact ⟨_, skip_stand page, rfl⟩

theorem step_request (page : ReadPage) (character : Char) :
    (page.step character).startLine = page.startLine ∧
      (page.step character).endLine = page.endLine ∧
      (page.step character).requestedOffset = page.requestedOffset ∧
      (page.step character).showLineNumbers = page.showLineNumbers := by
  obtain ⟨other, hsame, hstep⟩ := step_stand page character
  rw [hstep]
  exact ⟨hsame.start, hsame.finish, hsame.requested, hsame.numbers⟩

theorem step_offset (page : ReadPage) (character : Char) :
    (page.step character).offset = page.offset + 1 := by
  obtain ⟨other, hsame, hstep⟩ := step_stand page character
  rw [hstep, ← hsame.offset]
  rfl

theorem step_line (page : ReadPage) (character : Char) :
    (page.step character).line = if character = '\n' then page.line + 1 else page.line := by
  obtain ⟨other, hsame, hstep⟩ := step_stand page character
  rw [hstep, ← hsame.line]
  rfl

/-- A page that is asked for a text without line numbers, to its end. -/
structure Open (page : ReadPage) : Prop where
  finish : page.endLine = none
  numbers : page.showLineNumbers = false

theorem Open.step (h : page.Open) (character : Char) : (page.step character).Open := by
  obtain ⟨_, hfinish, _, hnumbers⟩ := step_request page character
  exact ⟨hfinish.trans h.finish, hnumbers.trans h.numbers⟩

/-- The part that is asked for has begun. -/
def Begun (page : ReadPage) : Prop :=
  (∀ offset, page.requestedOffset = some offset → offset ≤ page.offset) ∧
    (page.requestedOffset = none → page.startLine ≤ page.line)

theorem Begun.selects (hopen : page.Open) (h : page.Begun) (character : Char) :
    page.selects character = true := by
  unfold ReadPage.selects
  cases hoffset : page.requestedOffset with
  | some offset => simpa using h.1 offset hoffset
  | none => simpa [hopen.finish] using h.2 hoffset

theorem selects_eq_false (hopen : page.Open) (h : page.selects character = false) :
    page.requestedOffset = none → page.line < page.startLine := by
  intro hoffset
  simpa [ReadPage.selects, hoffset, hopen.finish] using h

theorem Begun.step (h : page.Begun) (character : Char) : (page.step character).Begun := by
  obtain ⟨hstart, _, hrequested, _⟩ := step_request page character
  constructor
  · intro offset hoffset
    rw [hrequested] at hoffset
    rw [step_offset]
    exact Nat.le_succ_of_le (h.1 offset hoffset)
  · intro hoffset
    rw [hrequested] at hoffset
    have hbegun := h.2 hoffset
    rw [hstart, step_line]
    split_ifs <;> omega

/-- A page before the part that it is asked for. -/
structure Waiting (page : ReadPage) (base : Nat) : Prop where
  output : page.output = []
  visible : page.visibleChars = 0
  lines : page.outputLines = 0
  bytes : page.originalBytes = 0
  room : page.truncated = false
  offset : page.offset = base
  next : page.nextOffset = page.requestedOffset.getD base

theorem Waiting.step {base : Nat} (hopen : page.Open) (h : page.Waiting base)
    (hskipped : page.selects character = false) : (page.step character).Waiting (base + 1) := by
  have hskip : page.step character = page.skip.advance character := by
    simp [ReadPage.step, hskipped]
  have hfields : page.skip.output = page.output ∧ page.skip.visibleChars = page.visibleChars ∧
      page.skip.outputLines = page.outputLines ∧ page.skip.originalBytes = page.originalBytes ∧
      page.skip.truncated = page.truncated ∧ page.skip.offset = page.offset ∧
      page.skip.requestedOffset = page.requestedOffset := by
    unfold skip
    split_ifs <;> exact ⟨rfl, rfl, rfl, rfl, rfl, rfl, rfl⟩
  obtain ⟨houtput, hvisible, hlines, hbytes, hroom, hoffset, hrequested⟩ := hfields
  rw [hskip]
  refine ⟨houtput.trans h.output, hvisible.trans h.visible, hlines.trans h.lines,
    hbytes.trans h.bytes, hroom.trans h.room, ?_, ?_⟩
  · change page.skip.offset + 1 = base + 1
    rw [hoffset, h.offset]
  · change page.skip.nextOffset = page.skip.requestedOffset.getD (base + 1)
    rw [hrequested]
    cases hrequest : page.requestedOffset with
    | some offset =>
        have hnext := h.next
        rw [hrequest] at hnext
        simpa [skip, hrequest] using hnext
    | none =>
        have hline := selects_eq_false hopen hskipped hrequest
        simp [skip, h.room, hrequest, hline, h.offset]

/-- A page that has met some characters of the part it is asked for: it has put out the first of
them, all as long as it has room. -/
structure Filling (page : ReadPage) (base : Nat) (met : List Char) : Prop where
  output : ∃ left, met = page.output ++ left ∧ (page.truncated = true ↔ left ≠ [])
  progress : met ≠ [] → page.output ≠ []
  visible : page.visibleChars = page.output.length
  limit : page.visibleChars ≤ readFileMaxChars
  lines : page.output = [] → page.outputLines = 0
  bytes : page.originalBytes = (textBytes met).length
  offset : page.offset = base + met.length
  next : page.nextOffset = base + page.output.length

theorem Waiting.filling {base : Nat} (h : page.Waiting base)
    (hoffset : ∀ offset, page.requestedOffset = some offset → offset = base) :
    page.Filling base [] := by
  refine ⟨⟨[], by rw [h.output]; rfl, by simp [h.room]⟩, by simp, by rw [h.visible, h.output]; rfl,
    by rw [h.visible]; exact Nat.zero_le _, fun _ => h.lines, by rw [h.bytes]; rfl, h.offset, ?_⟩
  rw [h.next, h.output]
  cases hrequest : page.requestedOffset with
  | some offset => simp [hoffset offset hrequest]
  | none => simp

theorem Filling.step {base : Nat} {met : List Char} (hopen : page.Open) (hbegun : page.Begun)
    (h : page.Filling base met) (character : Char) :
    (page.step character).Filling base (met ++ [character]) := by
  obtain ⟨left, hmet, hroom⟩ := h.output
  have hlead : page.linePrefix = [] := by simp [linePrefix, hopen.numbers]
  have hsize : (String.ofList [character]).utf8ByteSize = (textBytes [character]).length := by
    rw [utf8ByteSize_eq_textBytes, String.toList_ofList]
  have hbytes : page.originalBytes + (String.ofList [character]).utf8ByteSize =
      (textBytes (met ++ [character])).length := by
    rw [hsize, h.bytes, textBytes_append, List.length_append]
  have hoffset : page.offset + 1 = base + (met ++ [character]).length := by
    rw [h.offset, List.length_append, List.length_singleton, Nat.add_assoc]
  have hput : page.step character = (page.put character).advance character := by
    simp [ReadPage.step, hbegun.selects hopen]
  rw [hput]
  by_cases hfull : (page.truncated || decide (readFileMaxChars < page.visibleChars + 1) ||
      (page.atLineStart && decide (readFileMaxLines ≤ page.outputLines))) = true
  · have hcut : page.put character =
        { page with
          originalBytes := page.originalBytes + (String.ofList [character]).utf8ByteSize
          truncated := true } := by
      unfold put
      simp only [hlead, List.nil_append, List.length_nil, Nat.zero_add]
      rw [if_pos hfull]
    -- A page that is cut has put something out: an empty one has room.
    have hsome : page.output ≠ [] := by
      intro hnone
      have hmetNone : met = [] := by
        by_contra hmetSome
        exact h.progress hmetSome hnone
      have hopenRoom : page.truncated = false := by
        rw [← Bool.not_eq_true, hroom]
        rw [hmetNone, hnone] at hmet
        exact not_not_intro hmet.symm
      simp [hopenRoom, h.visible, hnone, h.lines hnone, readFileMaxChars, readFileMaxLines] at hfull
    rw [hcut]
    refine ⟨⟨left ++ [character], ?_, ?_⟩, fun _ => hsome, h.visible, h.limit, h.lines, hbytes,
      hoffset, h.next⟩
    · rw [hmet, List.append_assoc]
      rfl
    · simp [advance]
  · have hcut : page.put character =
        { page with
          originalBytes := page.originalBytes + (String.ofList [character]).utf8ByteSize
          output := page.output ++ [character]
          visibleChars := page.visibleChars + 1
          nextOffset := page.offset + 1
          outputLines := if character = '\n' then page.outputLines + 1 else page.outputLines } := by
      unfold put
      simp only [hlead, List.nil_append, List.append_nil, List.length_nil, Nat.zero_add]
      rw [if_neg hfull]
    simp only [Bool.or_eq_true, not_or, Bool.not_eq_true, decide_eq_false_iff_not] at hfull
    have hnone : left = [] := by
      by_contra hsome
      rw [hroom.mpr hsome] at hfull
      cases hfull.1.1
    rw [hnone, List.append_nil] at hmet
    rw [hcut]
    refine ⟨⟨[], ?_, ?_⟩, ?_, ?_, ?_, ?_, hbytes, hoffset, ?_⟩
    · rw [hmet, List.append_nil]
      rfl
    · simpa [advance] using hfull.1.1
    · simp [advance]
    · simp [advance, h.visible]
    · change page.visibleChars + 1 ≤ readFileMaxChars
      omega
    · simp [advance]
    · change page.offset + 1 = base + (page.output ++ [character]).length
      rw [hoffset, hmet]

theorem Filling.run {base : Nat} {met : List Char} (hopen : page.Open) (hbegun : page.Begun)
    (h : page.Filling base met) (text : List Char) :
    (text.foldl ReadPage.step page).Filling base (met ++ text) := by
  induction text generalizing page met with
  | nil => simpa using h
  | cons character text ih =>
      have hrest := ih (hopen.step character) (hbegun.step character)
        (h.step hopen hbegun character)
      rw [List.append_assoc] at hrest
      exact hrest

/-- What a page shows of a text from a place on: its front, cut if something is left of it, where
the next page begins. -/
structure Shows (page : ReadPage) (text : List Char) (start : Nat) : Prop where
  output : ∃ left, text.drop start = page.output ++ left ∧ (page.truncated = true ↔ left ≠ [])
  progress : text.drop start ≠ [] → page.output ≠ []
  limit : page.output.length ≤ readFileMaxChars
  bytes : page.originalBytes = (textBytes (text.drop start)).length
  offset : page.offset = text.length
  next : page.truncated = true → page.nextOffset = start + page.output.length

theorem Filling.shows {text : List Char} {start : Nat} (hstart : start ≤ text.length)
    (h : page.Filling start (text.drop start)) : page.Shows text start := by
  refine ⟨h.output, h.progress, ?_, h.bytes, ?_, fun _ => h.next⟩
  · rw [← h.visible]
    exact h.limit
  · rw [h.offset, List.length_drop]
    omega

/-- A page that is asked for nothing of a text shows nothing. -/
theorem Waiting.shows {text : List Char} (h : page.Waiting text.length) :
    page.Shows text text.length := by
  refine ⟨⟨[], by simp [h.output], by simp [h.room]⟩, by simp, by simp [h.output],
    by simp [h.bytes],
    h.offset, ?_⟩
  intro htruncated
  rw [h.room] at htruncated
  cases htruncated

/-! ### From an offset -/

theorem Waiting.run {base offset : Nat} (hopen : page.Open)
    (hrequest : page.requestedOffset = some offset) (h : page.Waiting base) {front : List Char}
    (hfront : base + front.length ≤ offset) :
    (front.foldl ReadPage.step page).Open ∧
      (front.foldl ReadPage.step page).requestedOffset = some offset ∧
      (front.foldl ReadPage.step page).Waiting (base + front.length) := by
  induction front generalizing page base with
  | nil => exact ⟨hopen, hrequest, h⟩
  | cons character front ih =>
      rw [List.length_cons] at hfront ⊢
      have hskipped : page.selects character = false := by
        simp only [selects, hrequest, h.offset, decide_eq_false_iff_not]
        omega
      have hrequested := (step_request page character).2.2.1.trans hrequest
      have hrest := ih (hopen.step character) hrequested (h.step hopen hskipped) (by omega)
      rw [Nat.add_assoc, Nat.add_comm 1] at hrest
      exact hrest

theorem new_waiting (startLine : Nat) (offset : Option Nat) :
    (ReadPage.new startLine none offset false).Waiting 0 := ⟨rfl, rfl, rfl, rfl, rfl, rfl, rfl⟩

theorem new_open (startLine : Nat) (offset : Option Nat) :
    (ReadPage.new startLine none offset false).Open := ⟨rfl, rfl⟩

/-- A page from an offset shows the text from there on. -/
theorem shows_from_offset {text : List Char} {offset : Nat} (hoffset : offset ≤ text.length) :
    (text.foldl ReadPage.step (ReadPage.new 1 none (some offset) false)).Shows text offset := by
  have hlength : (text.take offset).length = offset := List.length_take_of_le hoffset
  have hroom : 0 + (text.take offset).length ≤ offset := by omega
  obtain ⟨hopen, hrequest, hwaiting⟩ :=
    (new_waiting 1 (some offset)).run (new_open 1 _) rfl hroom
  rw [hlength, Nat.zero_add] at hwaiting
  have hbegun : ((text.take offset).foldl ReadPage.step
      (ReadPage.new 1 none (some offset) false)).Begun := by
    refine ⟨fun requested hrequested => ?_, fun hnone => ?_⟩
    · rw [hrequest] at hrequested
      rw [hwaiting.offset, ← Option.some.inj hrequested]
    · rw [hrequest] at hnone
      cases hnone
  have hfilling := hwaiting.filling fun requested hrequested => by
    rw [hrequest] at hrequested
    exact (Option.some.inj hrequested).symm
  have hshown := (hfilling.run hopen hbegun (text.drop offset)).shows hoffset
  rw [← List.foldl_append, List.take_append_drop] at hshown
  exact hshown

/-! ### From a line -/

theorem dropLines_nil (count : Nat) : dropLines count [] = [] := by
  cases count <;> rfl

theorem Waiting.runLines {base : Nat} (hopen : page.Open) (hrequest : page.requestedOffset = none)
    (h : page.Waiting base) {count : Nat} (hcount : page.startLine = page.line + count)
    (text : List Char) :
    ∃ front, text = front ++ dropLines count text ∧
      (front.foldl ReadPage.step page).Open ∧
      (front.foldl ReadPage.step page).requestedOffset = none ∧
      (front.foldl ReadPage.step page).Waiting (base + front.length) ∧
      (dropLines count text ≠ [] → (front.foldl ReadPage.step page).startLine ≤
        (front.foldl ReadPage.step page).line) := by
  induction text generalizing page base count with
  | nil =>
      rw [dropLines_nil]
      exact ⟨[], rfl, hopen, hrequest, h, fun hsome => absurd rfl hsome⟩
  | cons character text ih =>
      cases count with
      | zero => exact ⟨[], rfl, hopen, hrequest, h, fun _ => hcount.le⟩
      | succ count =>
          have hskipped : page.selects character = false := by
            simp only [selects, hrequest, hopen.finish, Bool.and_true, decide_eq_false_iff_not]
            omega
          obtain ⟨hstart, _, hrequested, _⟩ := step_request page character
          have hnext : (page.step character).startLine = (page.step character).line +
              (if character = '\n' then count else count + 1) := by
            rw [hstart, step_line]
            split_ifs <;> omega
          obtain ⟨front, htext, hfront⟩ := ih (hopen.step character) (hrequested.trans hrequest)
            (h.step hopen hskipped) hnext
          refine ⟨character :: front, ?_, ?_⟩
          · rw [dropLines, List.cons_append, ← htext]
          · rw [Nat.add_assoc, Nat.add_comm 1] at hfront
            exact hfront

/-- A page from a line on shows the text behind the lines before it. -/
theorem shows_from_line {startLine : Nat} (hline : 1 ≤ startLine) (text : List Char) :
    ∃ start, start ≤ text.length ∧ text.drop start = dropLines (startLine - 1) text ∧
      (text.foldl ReadPage.step (ReadPage.new startLine none none false)).Shows text start := by
  have hcount : (ReadPage.new startLine none none false).startLine =
      (ReadPage.new startLine none none false).line + (startLine - 1) := by
    change startLine = 1 + (startLine - 1)
    omega
  obtain ⟨front, htext, hopen, hrequest, hwaiting, hbegun⟩ :=
    (new_waiting startLine none).runLines (new_open startLine none) rfl hcount text
  generalize dropLines (startLine - 1) text = rest at htext hbegun ⊢
  rw [Nat.zero_add] at hwaiting
  refine ⟨front.length, by rw [htext, List.length_append]; exact Nat.le_add_right _ _,
    by rw [htext, List.drop_left], ?_⟩
  by_cases hnone : rest = []
  · rw [hnone, List.append_nil] at htext
    rw [htext]
    exact hwaiting.shows
  · have hfilling := hwaiting.filling fun requested hrequested => by
      rw [hrequest] at hrequested
      cases hrequested
    have hpage : (front.foldl ReadPage.step (ReadPage.new startLine none none false)).Begun := by
      refine ⟨fun requested hrequested => ?_, fun _ => hbegun hnone⟩
      rw [hrequest] at hrequested
      cases hrequested
    have hstarted := hfilling.run hopen hpage rest
    rw [← List.foldl_append, ← htext, List.nil_append] at hstarted
    apply Filling.shows
    · rw [htext, List.length_append]
      exact Nat.le_add_right _ _
    · have hdrop : text.drop front.length = rest := by rw [htext, List.drop_left]
      rw [hdrop]
      exact hstarted

end ReadPage

/-! ### One call -/

/-- The call that takes up a read at a cursor. -/
def cursorCall (path : String) (cursor : ToolResultCursor) : JsonObject :=
  [("cursor", cursor.toValue), ("path", .str path)]

/-- A call that asks for a text from a line on, without line numbers and to its end. -/
structure AsksFrom (arguments : JsonObject) (path : String) (startLine : Nat) : Prop where
  path : arguments.lookup "path" = some (.str path)
  cursor : arguments.lookup "cursor" = none
  finish : arguments.lookup "end_line" = none
  numbers : boolArg (arguments.lookup "show_line_numbers") false = false
  start : (arguments.lookup "start_line" = none ∧ startLine = 1) ∨
    ∃ value line, arguments.lookup "start_line" = some value ∧ integerArg value = some line ∧
      startLine = (max line 1).toNat

/-- A path whose form in a cursor is one: it is not blank, has no NUL and is taken as it is. -/
structure CursorPath (path : String) : Prop where
  visible : isBlank (normalizeCursorPath path) = false
  plain : '\x00' ∉ (normalizeCursorPath path).toList
  stable : normalizeCursorPath (normalizeCursorPath path) = normalizeCursorPath path

theorem mem_stripCurrentDir {fuel : Nat} {path : List Char} {character : Char}
    (h : character ∈ stripCurrentDir fuel path) : character ∈ path := by
  fun_induction stripCurrentDir fuel path with
  | case1 fuel rest ih => exact List.mem_cons_of_mem _ (List.mem_cons_of_mem _ (ih h))
  | case2 => exact h

theorem normalizeCursorPath_slashes (path : String) :
    '\\' ∉ (normalizeCursorPath path).toList := by
  intro hmember
  rw [normalizeCursorPath, String.toList_ofList] at hmember
  obtain ⟨character, _, hcharacter⟩ := List.mem_map.mp (mem_stripCurrentDir hmember)
  split_ifs at hcharacter with hslash
  · revert hcharacter
    decide
  · exact hslash hcharacter

section
variable [Platform] {World : Type} {backend : WorkspaceBackend World}

/-- There is a file under a path, with some bytes. -/
structure HasFile (backend : WorkspaceBackend World) (world : World) (path : String)
    (raw : ByteArray) : Prop where
  resolves : backend.resolveWorkspacePath world path = .ok ()
  file : ∃ info, backend.fileInfo world path = .ok (some info) ∧ info.isFile = true
  bytes : backend.readBytes world path = .ok raw

theorem HasFile.requireFile {context : ToolContext World} {path : String} {raw : ByteArray}
    (h : HasFile backend context.world path raw) :
    ToolContext.requireFile backend context path = .ok () := by
  obtain ⟨info, hinfo, hfile⟩ := h.file
  simp [ToolContext.requireFile, hinfo, hfile, Except.mapError]

omit [Platform] in
theorem mapError_ok {ε ε' α : Type} (f : ε → ε') (a : α) :
    (Except.ok a : Except ε α).mapError f = .ok a := rfl

omit [Platform] in
/-- The characters of a text behind its byte order mark are consumed. -/
theorem consume_decoded {raw : ByteArray} {text : String} {bom : Bool}
    (h : decodeWorkspaceText raw = some (text, bom)) :
    ∃ whole, String.fromUTF8? raw = some whole ∧
      ∀ page : ReadPage, page.consume whole.toList = text.toList.foldl ReadPage.step page := by
  simp only [decodeWorkspaceText, Option.bind_eq_bind, Option.bind_eq_some_iff] at h
  obtain ⟨whole, hwhole, htext⟩ := h
  refine ⟨whole, hwhole, fun page => ?_⟩
  unfold ReadPage.consume
  split at htext
  · rename_i rest heq
    simp only [Option.pure_def, Option.some.injEq, Prod.mk.injEq] at htext
    rw [← htext.1, String.toList_ofList]
  · simp only [Option.pure_def, Option.some.injEq, Prod.mk.injEq] at htext
    rw [← htext.1]

omit [Platform] in
/-- A text without a byte order mark is decoded as it is. -/
theorem decode_unmarked {text : String} (h : ∀ rest, text.toList ≠ '\uFEFF' :: rest) :
    decodeWorkspaceText text.toUTF8 = some (text, false) := by
  have hvalid : text.toUTF8.IsValidUTF8 := text.isValidUTF8
  have hwhole : String.fromUTF8? text.toUTF8 = some text := by
    rw [String.fromUTF8?, dif_pos hvalid]
    rfl
  unfold decodeWorkspaceText
  rw [hwhole, Option.bind_eq_bind, Option.bind_some]
  split
  · rename_i rest hmark
    exact absurd hmark (h rest)
  · rfl

variable [ContentDigest] {context : ToolContext World} {path : String} {raw : ByteArray}

theorem planRead_first {arguments : JsonObject} {startLine : Nat} {text : String} {bom : Bool}
    (hfile : HasFile backend context.world path raw) (hasks : AsksFrom arguments path startLine)
    (htext : decodeWorkspaceText raw = some (text, bom)) :
    ∃ plan, ToolContext.planRead backend context arguments = .ok plan ∧ plan.path = path ∧
      plan.raw = raw ∧
      plan.page = text.toList.foldl ReadPage.step (ReadPage.new startLine none none false) := by
  obtain ⟨whole, hwhole, hconsume⟩ := consume_decoded htext
  have hcursor : ToolContext.readCursor arguments path = .ok none := by
    simp [ToolContext.readCursor, hasks.cursor]
  have hfinish : ∀ atLeast, ToolContext.readLine arguments "end_line" path atLeast = .ok none := by
    intro atLeast
    simp [ToolContext.readLine, hasks.finish]
  obtain ⟨line, hline, hstart⟩ : ∃ line,
      ToolContext.readLine arguments "start_line" path 1 = .ok line ∧ line.getD 1 = startLine := by
    rcases hasks.start with ⟨hnone, rfl⟩ | ⟨value, line, hvalue, hinteger, rfl⟩
    · exact ⟨none, by simp [ToolContext.readLine, hnone], rfl⟩
    · exact ⟨some (max line 1).toNat, by simp [ToolContext.readLine, hvalue, hinteger], rfl⟩
  have hpath : stringArg (some (.str path)) "" = path := rfl
  refine ⟨{
    path
    raw
    asksPart := startLine != 1
    page := text.toList.foldl ReadPage.step (ReadPage.new startLine none none false) },
    ?_, rfl, rfl, rfl⟩
  unfold ToolContext.planRead
  simp only [hpath, hasks.path, hfile.resolves, hfile.requireFile, hcursor, hline, hfinish,
    hfile.bytes, hwhole, hconsume, hasks.numbers, hstart, mapError_ok, Option.isNone_some,
    Option.isSome_none, Option.any_none, Bool.false_and, refuse_false, require_some, ok_bind,
    Option.map_none, Bool.or_false, pure_ok]

omit [ContentDigest] in
theorem readCursor_cursorCall {cursor : ToolResultCursor} (h : cursor.validate = .ok ()) :
    ToolContext.readCursor (cursorCall path cursor) path = .ok (some cursor) := by
  have hread : ToolResultCursor.fromValue (.obj [("kind", .str cursor.kind),
      ("offset_chars", .nat cursor.offsetChars), ("path", .str cursor.path),
      ("sha256", .str cursor.sha256)]) = some cursor := ToolResultCursor.fromValue_toValue cursor
  simp [ToolContext.readCursor, cursorCall, ToolResultCursor.toValue, hread, h]

/-- What is left of a call with a cursor, when there is a file. -/
theorem planRead_cursorCall {cursor : ToolResultCursor} (hvalid : cursor.validate = .ok ())
    (hpath : normalizeCursorPath cursor.path = normalizeCursorPath path)
    (hfile : HasFile backend context.world path raw) :
    ToolContext.planRead backend context (cursorCall path cursor) = do
      let whole ← require (String.fromUTF8? raw)
        (workspaceToolError "Unsupported file encoding for read_file." "unsupported_encoding" path)
      let page := (ReadPage.new 1 none (some cursor.offsetChars) false).consume whole.toList
      refuse (cursor.sha256 != contentHash raw)
        (workspaceToolError "source changed after cursor was issued" "stale_cursor" path)
      refuse (decide (page.offset < cursor.offsetChars))
        (workspaceToolError "cursor offset is outside the source" "cursor_offset_invalid" path)
      return { path, raw, asksPart := true, page } := by
  have hgiven : (cursorCall path cursor).lookup "path" = some (.str path) := rfl
  have hstart : (cursorCall path cursor).lookup "start_line" = none := rfl
  have hfinish : (cursorCall path cursor).lookup "end_line" = none := rfl
  have hnumbers : (cursorCall path cursor).lookup "show_line_numbers" = none := rfl
  have hargument : stringArg (some (.str path)) "" = path := rfl
  have hline : ∀ name atLeast, (cursorCall path cursor).lookup name = none →
      ToolContext.readLine (cursorCall path cursor) name path atLeast = .ok none := by
    intro name atLeast hnone
    simp [ToolContext.readLine, hnone]
  have hsame : (normalizeCursorPath cursor.path != normalizeCursorPath path) = false := by
    simp [hpath]
  unfold ToolContext.planRead
  simp only [hargument, hgiven, hfile.resolves, hfile.requireFile, readCursor_cursorCall hvalid,
    hstart, hfinish, hnumbers, hline _ _ hstart, hline _ _ hfinish, hfile.bytes, hsame, mapError_ok,
    Option.isNone_some, Option.isSome_none, Option.isSome_some, Option.any_some, Bool.or_false,
    Bool.and_false, Bool.or_true, refuse_false, ok_bind, Option.map_some, Option.getD_none]
  rfl

/-- A cursor of the file reads on from its offset. -/
theorem planRead_next {cursor : ToolResultCursor} {text : String} {bom : Bool}
    (hvalid : cursor.validate = .ok ())
    (hpath : normalizeCursorPath cursor.path = normalizeCursorPath path)
    (hfile : HasFile backend context.world path raw)
    (htext : decodeWorkspaceText raw = some (text, bom)) (hdigest : cursor.sha256 = contentHash raw)
    (hoffset : cursor.offsetChars ≤ text.toList.length) :
    ∃ plan, ToolContext.planRead backend context (cursorCall path cursor) = .ok plan ∧
      plan.path = path ∧ plan.raw = raw ∧ plan.page.Shows text.toList cursor.offsetChars := by
  obtain ⟨whole, hwhole, hconsume⟩ := consume_decoded htext
  have hshows := ReadPage.shows_from_offset hoffset
  refine ⟨{
    path
    raw
    asksPart := true
    page := text.toList.foldl ReadPage.step
      (ReadPage.new 1 none (some cursor.offsetChars) false) }, ?_, rfl, rfl, hshows⟩
  have hinside : decide ((text.toList.foldl ReadPage.step
      (ReadPage.new 1 none (some cursor.offsetChars) false)).offset < cursor.offsetChars) =
        false := by
    rw [hshows.offset, decide_eq_false_iff_not]
    omega
  rw [planRead_cursorCall hvalid hpath hfile, hwhole, require_some, ok_bind]
  simp only [hconsume, hdigest, hinside, bne_self_eq_false, refuse_false, ok_bind, pure_ok]

/-- A cursor of other bytes is stale in a text. -/
theorem readFile_stale {cursor : ToolResultCursor} (hvalid : cursor.validate = .ok ())
    (hpath : normalizeCursorPath cursor.path = normalizeCursorPath path)
    (hfile : HasFile backend context.world path raw) (htext : decodes raw = true)
    (hdigest : cursor.sha256 ≠ contentHash raw) :
    (ToolContext.readFile backend context (cursorCall path cursor)).1.errorCode =
      some "stale_cursor" := by
  obtain ⟨whole, hwhole⟩ := Option.isSome_iff_exists.mp htext
  have hplan : ToolContext.planRead backend context (cursorCall path cursor) =
      .error (workspaceToolError "source changed after cursor was issued" "stale_cursor" path) := by
    rw [planRead_cursorCall hvalid hpath hfile, hwhole, require_some, ok_bind]
    simp only [bne_iff_ne.mpr hdigest, refuse_true, error_bind]
  rw [ToolContext.readFile, hplan]
  rfl

/-- Bytes that are no text are refused whatever the cursor says. -/
theorem readFile_unsupported {cursor : ToolResultCursor} (hvalid : cursor.validate = .ok ())
    (hpath : normalizeCursorPath cursor.path = normalizeCursorPath path)
    (hfile : HasFile backend context.world path raw) (htext : decodes raw = false) :
    (ToolContext.readFile backend context (cursorCall path cursor)).1.errorCode =
      some "unsupported_encoding" := by
  have hnone : String.fromUTF8? raw = none := by
    rw [decodes, Option.isSome_eq_false_iff, Option.isNone_iff_eq_none] at htext
    exact htext
  have hplan : ToolContext.planRead backend context (cursorCall path cursor) =
      .error (workspaceToolError "Unsupported file encoding for read_file." "unsupported_encoding"
        path) := by
    rw [planRead_cursorCall hvalid hpath hfile, hnone, require_none, error_bind]
  rw [ToolContext.readFile, hplan]
  rfl

/-! ### The result of a page -/

/-- A cursor of a file: it is one, and the path and the digest are those of the file. -/
structure CursorOf (path : String) (raw : ByteArray) (cursor : ToolResultCursor) : Prop where
  valid : cursor.validate = .ok ()
  path : normalizeCursorPath cursor.path = normalizeCursorPath path
  digest : cursor.sha256 = contentHash raw

omit [Platform] in
/-- A page that is cut names the place where the next one begins. -/
theorem cursor_of_page (hsha : ∀ raw, isSha256 (contentHash raw) = true) (hpath : CursorPath path)
    {plan : PlannedRead} (hplan : plan.path = path) (hraw : plan.raw = raw) {text : List Char}
    {start : Nat} (hshows : plan.page.Shows text start) (hlength : text.length ≤ maxWireInteger)
    (htruncated : plan.page.truncated = true) :
    ∃ cursor, (ToolContext.readTextResult plan).cursor = some cursor ∧ CursorOf path raw cursor ∧
      cursor.offsetChars = start + plan.page.output.length ∧
      start + plan.page.output.length < text.length := by
  obtain ⟨left, hdrop, hcut⟩ := hshows.output
  have hleft := List.length_pos_of_ne_nil (hcut.mp htruncated)
  have hdropped := congrArg List.length hdrop
  rw [List.length_drop, List.length_append] at hdropped
  have hinside : start + plan.page.output.length < text.length := by omega
  refine ⟨_, by rw [ToolContext.readTextResult, if_pos htruncated], ⟨?_, ?_, ?_⟩,
    hshows.next htruncated, hinside⟩
  · have hkind : (("read_file" : String) != "read_file") = false := by decide
    have hsmall : decide (maxWireInteger < plan.page.nextOffset) = false := by
      rw [hshows.next htruncated, decide_eq_false_iff_not]
      omega
    have hslash : (normalizeCursorPath plan.path).toList.contains '\\' = false := by
      simpa using normalizeCursorPath_slashes plan.path
    have hnull : (normalizeCursorPath plan.path).toList.contains '\x00' = false := by
      rw [hplan]
      simpa using hpath.plain
    rw [ToolResultCursor.validate, hkind, hsmall, hslash, hnull, hplan, hpath.visible, hsha]
    rfl
  · change normalizeCursorPath (normalizeCursorPath plan.path) = _
    rw [hplan, hpath.stable]
  · change contentHash plan.raw = _
    rw [hraw]

/-- A text that is longer than a page is cut at the first call. -/
theorem cursor_of_long (hsha : ∀ raw, isSha256 (contentHash raw) = true) (hpath : CursorPath path)
    (hfile : HasFile backend context.world path raw) {text : String} {bom : Bool}
    (htext : decodeWorkspaceText raw = some (text, bom))
    (hlong : readFileMaxChars < text.toList.length)
    (hlength : text.toList.length ≤ maxWireInteger) {arguments : JsonObject}
    (hasks : AsksFrom arguments path 1) :
    ∃ cursor, (ToolContext.readFile backend context arguments).1.cursor = some cursor ∧
      CursorOf path raw cursor := by
  obtain ⟨plan, hplan, hplanPath, hraw, hpage⟩ := planRead_first hfile hasks htext
  obtain ⟨start, _, hdrop, hshows⟩ := ReadPage.shows_from_line (Nat.le_refl 1) text.toList
  rw [← hpage] at hshows
  have htruncated : plan.page.truncated = true := by
    obtain ⟨left, houtput, hcut⟩ := hshows.output
    apply hcut.mpr
    rintro rfl
    have hlimit := hshows.limit
    have hwhole := congrArg List.length houtput
    rw [hdrop, List.append_nil, Nat.sub_self, dropLines] at hwhole
    omega
  obtain ⟨cursor, hcursor, hof, _⟩ :=
    cursor_of_page hsha hpath hplanPath hraw hshows hlength htruncated
  refine ⟨cursor, ?_, hof⟩
  simp only [ToolContext.readFile, hplan]
  exact hcursor

omit [Platform] in
/-- The result of a page passes the check of tool results. -/
theorem readTextResult_valid (hsha : ∀ raw, isSha256 (contentHash raw) = true)
    (hpath : CursorPath path) {plan : PlannedRead} (hplan : plan.path = path) {text : List Char}
    {start : Nat} (hshows : plan.page.Shows text start) (hlength : text.length ≤ maxWireInteger) :
    (ToolContext.readTextResult plan).validate = .ok () := by
  cases htruncated : plan.page.truncated with
  | false =>
      rw [ToolContext.readTextResult, if_neg (by simp [htruncated])]
      rfl
  | true =>
      obtain ⟨cursor, hcursor, hof, _⟩ :=
        cursor_of_page hsha hpath hplan rfl hshows hlength htruncated
      have hbytes : (decide (plan.page.originalBytes <
          (String.ofList plan.page.output).utf8ByteSize)) = false := by
        obtain ⟨left, hdrop, _⟩ := hshows.output
        rw [decide_eq_false_iff_not, hshows.bytes, hdrop, textBytes_append, List.length_append,
          utf8ByteSize_eq_textBytes, String.toList_ofList]
        omega
      have hresult : ToolContext.readTextResult plan =
          { toolCallId := ""
            content := String.ofList plan.page.output
            status := .success
            truncated := true
            truncationReason := some .readLimit
            originalBytes := some plan.page.originalBytes
            visibleBytes := some (String.ofList plan.page.output).utf8ByteSize
            cursor := some cursor } := by
        rw [ToolContext.readTextResult, if_pos htruncated] at hcursor ⊢
        rw [← hcursor]
      have hrecovery : (ToolContext.readTextResult plan).validateRecovery = .ok () := by
        rw [hresult]
        simp only [ToolExecutionResult.validateRecovery, require_some, ok_bind,
          bne_self_eq_false, Bool.false_or, hbytes, refuse_false, Option.isSome_none]
        exact hof.valid
      have hmetadata : ToolExecutionResult.validateMetadata
          (ToolContext.readTextResult plan).metadata = .ok () := by
        rw [hresult]
        rfl
      rw [ToolExecutionResult.validate, hmetadata, hrecovery, hresult]
      rfl

/-! ### Page after page -/

/-- The result, and what follows it as long as there are cursors. The chunkings are those of the
calls to come. -/
def followPages (chunkings : Nat → Chunking) (backend : WorkspaceBackend World) (path : String) :
    Nat → ToolContext World → ToolExecutionResult → Option (List ToolExecutionResult)
  | 0, _, _ => none
  | calls + 1, context, result =>
      match result.cursor with
      | none => some [result]
      | some cursor =>
          let next := ToolContext.readFileChunks (chunkings calls) backend context
            (cursorCall path cursor)
          (followPages chunkings backend path calls next.2 next.1).map (result :: ·)

/-- A read, and the calls with its cursors. -/
def readPages (chunkings : Nat → Chunking) (backend : WorkspaceBackend World)
    (context : ToolContext World) (path : String) (arguments : JsonObject) (calls : Nat) :
    Option (List ToolExecutionResult) :=
  let first := ToolContext.readFileChunks (chunkings calls) backend context arguments
  followPages chunkings backend path calls first.2 first.1

/-- A page of a file: a success that passes the check of tool results; its cursor is stale as
soon as the file is another text, and refused when it is none. -/
structure IsPage (backend : WorkspaceBackend World) (path : String) (raw : ByteArray)
    (result : ToolExecutionResult) : Prop where
  success : result.status = .success
  valid : result.validate = .ok ()
  stale : ∀ cursor, result.cursor = some cursor →
    ∀ (after : ToolContext World) (changed : ByteArray) (chunking : Chunking),
      HasFile backend after.world path changed → contentHash changed ≠ contentHash raw →
      (ToolContext.readFileChunks chunking backend after (cursorCall path cursor)).1.errorCode =
        some (if decodes changed then "stale_cursor" else "unsupported_encoding")

theorem readTextResult_isPage (hsha : ∀ raw, isSha256 (contentHash raw) = true)
    (hpath : CursorPath path) {plan : PlannedRead} (hplan : plan.path = path)
    (hraw : plan.raw = raw)
    {text : List Char} {start : Nat} (hshows : plan.page.Shows text start)
    (hlength : text.length ≤ maxWireInteger) :
    IsPage backend path raw (ToolContext.readTextResult plan) := by
  refine ⟨?_, readTextResult_valid hsha hpath hplan hshows hlength, ?_⟩
  · unfold ToolContext.readTextResult
    dsimp only
    split_ifs <;> rfl
  · intro cursor hcursor after changed chunking hfile hdigest
    cases htruncated : plan.page.truncated with
    | false =>
        rw [ToolContext.readTextResult, if_neg (by simp [htruncated])] at hcursor
        cases hcursor
    | true =>
        obtain ⟨given, hgiven, hof, _⟩ :=
          cursor_of_page hsha hpath hplan hraw hshows hlength htruncated
        obtain rfl := Option.some.inj (hgiven.symm.trans hcursor)
        rw [ToolContext.readFileChunks_eq]
        cases hdecodes : decodes changed with
        | true =>
            apply readFile_stale hof.valid hof.path hfile hdecodes
            rw [hof.digest]
            exact hdigest.symm
        | false => exact readFile_unsupported hof.valid hof.path hfile hdecodes

/-- A plan of a read depends on the files alone. -/
theorem planRead_world (sharedState sharedState' : JsonObject) (world : World)
    (arguments : JsonObject) :
    ToolContext.planRead backend { sharedState, world } arguments =
      ToolContext.planRead backend { sharedState := sharedState', world } arguments := rfl

/-- The pages that follow one of a file are the rest of its text. -/
theorem followPages_covers (hsha : ∀ raw, isSha256 (contentHash raw) = true)
    (hpath : CursorPath path) {world : World} (hfile : HasFile backend world path raw)
    {text : String} {bom : Bool} (htext : decodeWorkspaceText raw = some (text, bom))
    (hlength : text.toList.length ≤ maxWireInteger) {plan : PlannedRead} (hplan : plan.path = path)
    (hraw : plan.raw = raw) {start : Nat} (hstart : start ≤ text.toList.length)
    (hshows : plan.page.Shows text.toList start) :
    ∃ results, (∀ chunkings sharedState calls, text.toList.length < calls + start →
        followPages chunkings backend path calls { sharedState, world }
          (ToolContext.readTextResult plan) = some results) ∧
      (results.map (·.content.toList)).flatten = text.toList.drop start ∧
      (text.toList.drop start ≠ [] → ∀ result ∈ results, result.content ≠ "") ∧
      ∀ result ∈ results, IsPage backend path raw result := by
  obtain ⟨remaining, hremaining⟩ : ∃ remaining, text.toList.length < remaining + start :=
    ⟨text.toList.length + 1, by omega⟩
  -- Each page shows something, so less remains behind it.
  induction remaining generalizing plan start with
  | zero => omega
  | succ remaining ih =>
      have hpage : IsPage backend path raw (ToolContext.readTextResult plan) :=
        readTextResult_isPage hsha hpath hplan hraw hshows hlength
      have hcontent : (ToolContext.readTextResult plan).content =
          String.ofList plan.page.output := by
        unfold ToolContext.readTextResult
        dsimp only
        split_ifs <;> rfl
      obtain ⟨left, hdrop, hcut⟩ := hshows.output
      have hshown : text.toList.drop start ≠ [] →
          (ToolContext.readTextResult plan).content ≠ "" := by
        intro hsome hempty
        apply hshows.progress hsome
        rw [hcontent] at hempty
        simpa using congrArg String.toList hempty
      cases htruncated : plan.page.truncated with
      | false =>
          have hnone : (ToolContext.readTextResult plan).cursor = none := by
            rw [ToolContext.readTextResult, if_neg (by simp [htruncated])]
          have hleft : left = [] := by
            by_contra hsome
            rw [hcut.mpr hsome] at htruncated
            cases htruncated
          refine ⟨[ToolContext.readTextResult plan], ?_, ?_, ?_, ?_⟩
          · intro chunkings sharedState calls hcalls
            obtain ⟨rest, rfl⟩ := Nat.exists_eq_succ_of_ne_zero (by omega : calls ≠ 0)
            simp only [followPages, hnone]
          · rw [List.map_singleton, List.flatten_singleton, hcontent, String.toList_ofList, hdrop,
              hleft, List.append_nil]
          · simpa using hshown
          · simpa using hpage
      | true =>
          obtain ⟨cursor, hcursor, hof, hoffset, hinside⟩ :=
            cursor_of_page hsha hpath hplan hraw hshows hlength htruncated
          have hsome : text.toList.drop start ≠ [] := by
            rw [hdrop]
            exact List.append_ne_nil_of_right_ne_nil _ (hcut.mp htruncated)
          have hpositive := List.length_pos_of_ne_nil (hshows.progress hsome)
          have hread : ∃ next, ToolContext.planRead backend { sharedState := [], world }
              (cursorCall path cursor) = .ok next ∧ next.path = path ∧ next.raw = raw ∧
                next.page.Shows text.toList cursor.offsetChars :=
            planRead_next hof.valid hof.path hfile htext hof.digest (by omega)
          rw [hoffset] at hread
          obtain ⟨next, hnext, hnextPath, hnextRaw, hnextShows⟩ := hread
          obtain ⟨results, hresults, hflatten, hpages, hall⟩ :=
            ih hnextPath hnextRaw (by omega) hnextShows (by omega)
          refine ⟨ToolContext.readTextResult plan :: results, ?_, ?_, ?_, ?_⟩
          · intro chunkings sharedState calls hcalls
            obtain ⟨rest, rfl⟩ := Nat.exists_eq_succ_of_ne_zero (by omega : calls ≠ 0)
            have hplanned := (planRead_world sharedState [] world (cursorCall path cursor)).trans
              hnext
            simp only [followPages, hcursor, ToolContext.readFileChunks_eq, ToolContext.readFile,
              hplanned]
            rw [hresults _ _ _ (by omega)]
            rfl
          · rw [List.map_cons, List.flatten_cons, hflatten, hcontent, String.toList_ofList, hdrop,
              ← List.drop_drop, hdrop, List.drop_left]
          · intro _
            refine List.forall_mem_cons.mpr ⟨hshown hsome, hpages ?_⟩
            rw [← List.length_pos_iff, List.length_drop]
            omega
          · exact List.forall_mem_cons.mpr ⟨hpage, hall⟩

/-- The pages of a text file, read from a line on and then from cursor to cursor, are the text
from that line to its end, however the backend cuts the bytes at each call. None is empty unless
nothing was asked for, and each is a page of the file. -/
theorem pages_cover_text (hsha : ∀ raw, isSha256 (contentHash raw) = true)
    (hpath : CursorPath path) (hfile : HasFile backend context.world path raw) {text : String}
    {bom : Bool} (htext : decodeWorkspaceText raw = some (text, bom))
    (hlength : text.toList.length ≤ maxWireInteger) {arguments : JsonObject} {startLine : Nat}
    (hasks : AsksFrom arguments path startLine) :
    ∃ results, (∀ chunkings calls, text.toList.length < calls →
        readPages chunkings backend context path arguments calls = some results) ∧
      (results.map (·.content.toList)).flatten = dropLines (startLine - 1) text.toList ∧
      (dropLines (startLine - 1) text.toList ≠ [] → ∀ result ∈ results, result.content ≠ "") ∧
      ∀ result ∈ results, IsPage backend path raw result := by
  obtain ⟨sharedState, world⟩ := context
  obtain ⟨plan, hplan, hplanPath, hraw, hpage⟩ := planRead_first hfile hasks htext
  have hline : 1 ≤ startLine := by
    rcases hasks.start with ⟨_, rfl⟩ | ⟨_, line, _, _, rfl⟩
    · exact Nat.le_refl 1
    · omega
  obtain ⟨start, hstart, hdrop, hshows⟩ := ReadPage.shows_from_line hline text.toList
  rw [← hpage] at hshows
  obtain ⟨results, hresults, hcovered, hpages, hall⟩ :=
    followPages_covers hsha hpath hfile htext hlength hplanPath hraw hstart hshows
  rw [hdrop] at hcovered hpages
  refine ⟨results, ?_, hcovered, hpages, hall⟩
  intro chunkings calls hcalls
  simp only [readPages, ToolContext.readFileChunks_eq, ToolContext.readFile, hplan]
  exact hresults _ _ _ (by omega)

end

namespace Sample

theorem digestOfEdited_isSha256 (raw : ByteArray) : isSha256 (digestOfEdited raw) = true := by
  unfold digestOfEdited
  split_ifs <;> decide

theorem notesPath : CursorPath "notes.txt" := ⟨by decide, by decide, by decide⟩

/-- A workspace with one file. -/
def oneFile (raw : ByteArray) : MemoryWorkspace :=
  { files := (∅ : Table ByteArray).insert "notes.txt" raw }

theorem oneFile_hasFile (raw : ByteArray) :
    HasFile workspaceBackend (oneFile raw) "notes.txt" raw := by
  have hfile : (oneFile raw).files[normalizeWorkspacePath "notes.txt"]? = some raw := by
    have hkey : normalizeWorkspacePath "notes.txt" = "notes.txt" := by decide
    rw [hkey]
    simp [oneFile]
  refine ⟨rfl, ⟨⟨true, false⟩, ?_, rfl⟩, ?_⟩
  · change Except.ok (MemoryWorkspace.fileInfo (oneFile raw) "notes.txt") = _
    simp [MemoryWorkspace.fileInfo, hfile]
  · change MemoryWorkspace.readBytes (oneFile raw) "notes.txt" = _
    simp [MemoryWorkspace.readBytes, hfile]

theorem secondLine_asked :
    AsksFrom [("path", .str "notes.txt"), ("start_line", .nat 2)] "notes.txt" 2 :=
  ⟨rfl, rfl, rfl, rfl, .inr ⟨.nat 2, 2, rfl, rfl, rfl⟩⟩

theorem twoLines_decoded :
    decodeWorkspaceText "one\ntwo\n".toUTF8 = some ("one\ntwo\n", false) := by
  decide +kernel

/-- A text on one line. -/
def oneLine (length : Nat) : String := .ofList (List.replicate length 'a')

theorem oneLine_length (length : Nat) : (oneLine length).toList.length = length := by
  rw [oneLine, String.toList_ofList, List.length_replicate]

theorem oneLine_decoded (length : Nat) :
    decodeWorkspaceText (oneLine length).toUTF8 = some (oneLine length, false) := by
  apply decode_unmarked
  rw [oneLine, String.toList_ofList]
  intro rest hmark
  have hmember : '\uFEFF' ∈ List.replicate length 'a' := by
    rw [hmark]
    exact List.mem_cons_self
  have hsame := List.eq_of_mem_replicate hmember
  revert hsame
  decide

end Sample

theorem pages_cover_text_secondLine :
    ∃ results, (∀ chunkings calls, 8 < calls →
        @readPages (Sample.runtime []).toPlatform _ ⟨Sample.digestOfEdited⟩ chunkings
          Sample.workspaceBackend ⟨[], Sample.oneFile "one\ntwo\n".toUTF8⟩ "notes.txt"
          [("path", .str "notes.txt"), ("start_line", .nat 2)] calls = some results) ∧
      (results.map (·.content.toList)).flatten = "two\n".toList := by
  obtain ⟨results, hresults, hcovered, _⟩ :=
    @pages_cover_text (Sample.runtime []).toPlatform _ Sample.workspaceBackend
      ⟨Sample.digestOfEdited⟩ ⟨[], Sample.oneFile "one\ntwo\n".toUTF8⟩ "notes.txt"
      "one\ntwo\n".toUTF8 Sample.digestOfEdited_isSha256 Sample.notesPath
      (Sample.oneFile_hasFile _) "one\ntwo\n" false Sample.twoLines_decoded (by decide)
      [("path", .str "notes.txt"), ("start_line", .nat 2)] 2 Sample.secondLine_asked
  exact ⟨results, hresults, hcovered⟩

/-- A cursor of a page, and the file changed to bytes that are no text: the call is refused, and
not as stale. -/
theorem changed_to_bytes_unsupported :
    ∃ cursor, (@ToolContext.readFile (Sample.runtime []).toPlatform ⟨Sample.digestOfEdited⟩ _
        Sample.workspaceBackend ⟨[], Sample.oneFile (Sample.oneLine 12001).toUTF8⟩
        [("path", .str "notes.txt")]).1.cursor = some cursor ∧
      (@ToolContext.readFile (Sample.runtime []).toPlatform ⟨Sample.digestOfEdited⟩ _
        Sample.workspaceBackend ⟨[], Sample.oneFile ⟨#[0xFF]⟩⟩
        (cursorCall "notes.txt" cursor)).1.errorCode = some "unsupported_encoding" := by
  have hasks : AsksFrom [("path", .str "notes.txt")] "notes.txt" 1 :=
    ⟨rfl, rfl, rfl, rfl, .inl ⟨rfl, rfl⟩⟩
  have hlength := Sample.oneLine_length 12001
  obtain ⟨cursor, hcursor, hof⟩ :=
    @cursor_of_long (Sample.runtime []).toPlatform _ Sample.workspaceBackend
      ⟨Sample.digestOfEdited⟩ ⟨[], Sample.oneFile (Sample.oneLine 12001).toUTF8⟩ "notes.txt" _
      Sample.digestOfEdited_isSha256 Sample.notesPath (Sample.oneFile_hasFile _) _ false
      (Sample.oneLine_decoded 12001) (by rw [hlength]; decide) (by rw [hlength]; decide) _ hasks
  exact ⟨cursor, hcursor, @readFile_unsupported (Sample.runtime []).toPlatform _
    Sample.workspaceBackend ⟨Sample.digestOfEdited⟩ ⟨[], Sample.oneFile ⟨#[0xFF]⟩⟩ "notes.txt"
    ⟨#[0xFF]⟩ cursor (@CursorOf.valid ⟨Sample.digestOfEdited⟩ _ _ _ hof)
    (@CursorOf.path ⟨Sample.digestOfEdited⟩ _ _ _ hof) (Sample.oneFile_hasFile _)
    (by decide +kernel)⟩

end VvAgent
