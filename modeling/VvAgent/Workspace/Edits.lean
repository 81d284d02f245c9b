import VvAgent.Workspace.Replacing
import VvAgent.Workspace.Baselines

/-!
What `edit_file` does to a file. A successful edit writes the text of the file with one
occurrence of the old text replaced, or with all of them, behind the byte order mark that the
file had; a call that fails leaves everything as it was. The old text may still occur at a
second place that overlaps the first. A file with CRLF breaks keeps them if the new text breaks
its lines as the place it is put in asks for.
-/

namespace VvAgent
open Lib Lib.Outcome

/-! ### The arguments of an edit -/

def editPath (arguments : JsonObject) : String := stringArg (arguments.lookup "path") ""

def editOld (arguments : JsonObject) : String := stringArg (arguments.lookup "old_string") ""

def editNew (arguments : JsonObject) : String := stringArg (arguments.lookup "new_string") ""

def editEverywhere (arguments : JsonObject) : Bool :=
  boolArg (arguments.lookup "replace_all") false

/-- How many occurrences an edit takes at most. -/
def editLimit (arguments : JsonObject) (text : String) : Nat :=
  if editEverywhere arguments then text.toList.length else 1

/-- A text behind the byte order mark of its file. -/
def withMark (bom : Bool) (text : List Char) : String :=
  if bom then "\uFEFF" ++ .ofList text else .ofList text

/-! ### Refused calls -/

/-- A step that fails with an error result. -/
def Refuses {α : Type} (step : Except ToolExecutionResult α) : Prop :=
  ∀ result, step = .error result → result.status = .error

namespace Refuses
variable {α β : Type}

theorem bind {step : Except ToolExecutionResult α} {next : α → Except ToolExecutionResult β}
    (hstep : Refuses step) (hnext : ∀ a, Refuses (next a)) : Refuses (step >>= next) := by
  intro result h
  rw [bind_eq_error] at h
  rcases h with h | ⟨a, _, h⟩
  · exact hstep result h
  · exact hnext a result h

theorem ok (a : α) : Refuses (pure a) := by
  intro result h
  cases h

theorem refuse {bad : Bool} {error : ToolExecutionResult} (h : error.status = .error) :
    Refuses (Outcome.refuse bad error) := by
  intro result hbad
  rw [((refuse_eq_error bad error result).mp hbad).2]
  exact h

theorem require {value : Option α} {error : ToolExecutionResult} (h : error.status = .error) :
    Refuses (Outcome.require value error) := by
  intro result hnone
  cases value with
  | none =>
      obtain rfl := Except.error.inj hnone
      exact h
  | some a => cases hnone

theorem mapError {ε : Type} {step : Except ε α} {f : ε → ToolExecutionResult}
    (h : ∀ error, (f error).status = .error) : Refuses (step.mapError f) := by
  intro result hfailed
  cases step with
  | error error =>
      obtain rfl := Except.error.inj hfailed
      exact h error
  | ok a => cases hfailed

end Refuses

section
variable [Platform]

theorem workspaceBackendError_status (error : IoError) :
    (workspaceBackendError error).status = .error := by
  unfold workspaceBackendError
  split_ifs <;> rfl

variable [ContentDigest] {World : Type} {backend : WorkspaceBackend World}

omit [ContentDigest] in
theorem requireFile_refuses (context : ToolContext World) (path : String) :
    Refuses (ToolContext.requireFile backend context path) := by
  apply Refuses.bind (.mapError workspaceBackendError_status)
  exact fun _ => .refuse rfl

theorem planEdit_refuses (context : ToolContext World) (arguments : JsonObject) :
    Refuses (ToolContext.planEdit backend context arguments) := by
  unfold ToolContext.planEdit
  apply Refuses.bind (.refuse rfl)
  intro _
  apply Refuses.bind (.mapError fun _ => rfl)
  intro _
  apply Refuses.bind (requireFile_refuses context _)
  intro _
  apply Refuses.bind (.refuse rfl)
  intro _
  apply Refuses.bind (.refuse rfl)
  intro _
  apply Refuses.bind (.mapError workspaceBackendError_status)
  intro raw
  apply Refuses.bind (.require rfl)
  intro decoded
  apply Refuses.bind (.refuse rfl)
  intro _
  apply Refuses.bind (.refuse rfl)
  intro _
  apply Refuses.bind (.refuse rfl)
  exact fun _ => .ok _

/-! ### What a successful edit has done -/

/-- A planned edit: the file and its text, the two texts that are used, and the new content. -/
theorem planEdit_spec {context : ToolContext World} {arguments : JsonObject} {plan : PlannedEdit}
    (h : ToolContext.planEdit backend context arguments = .ok plan) :
    plan.path = editPath arguments ∧
      backend.readBytes context.world (editPath arguments) = .ok plan.raw ∧
      ∃ text bom, decodeWorkspaceText plan.raw = some (text, bom) ∧
        plan.lineEnding = detectLineEnding text ∧ editOld arguments ≠ "" ∧
        ∃ old new count,
          ToolContext.editTexts text (editOld arguments) (editNew arguments) = (old, new, count) ∧
          count ≠ 0 ∧ (editEverywhere arguments = false → count = 1) ∧
          plan.replacedCount = count ∧
          plan.content = withMark bom
            (replaceN old.toList new.toList (editLimit arguments text) text.toList) := by
  simp only [ToolContext.planEdit, bind_eq_ok, refuse_eq_ok, exists_const, require_eq_ok, pure_ok,
    Except.ok.injEq] at h
  obtain ⟨_, _, _, _, _, hsome, _, raw, hread, decoded, hdecoded, _, hfound, hunique, rfl⟩ := h
  obtain ⟨text, bom⟩ := decoded
  refine ⟨rfl, ToolContext.mapError_eq_ok hread, text, bom, hdecoded, rfl,
    by simpa [editOld] using hsome, ?_⟩
  cases htexts : ToolContext.editTexts text (editOld arguments) (editNew arguments) with
  | mk old rest =>
      obtain ⟨new, count⟩ := rest
      rw [editOld, editNew] at htexts
      simp only [htexts, beq_eq_false_iff_ne] at hfound hunique
      have hone : editEverywhere arguments = false → count = 1 := by
        intro hfalse
        rw [editEverywhere] at hfalse
        simp only [hfalse, Bool.not_false, Bool.and_true, decide_eq_false_iff_not] at hunique
        omega
      refine ⟨old, new, count, rfl, hfound, hone, ?_, ?_⟩
      · simp only [htexts]
        split_ifs with hall
        · rfl
        · exact (hone (by simpa [editEverywhere] using hall)).symm
      · cases hall : boolArg (arguments.lookup "replace_all") false <;>
          simp [withMark, editLimit, editEverywhere, replaceAll, htexts, hall]

/-- A call that does not succeed leaves everything as it was. -/
theorem editFile_failed (context : ToolContext World) (arguments : JsonObject)
    (h : (ToolContext.editFile backend context arguments).1.status ≠ .success) :
    (ToolContext.editFile backend context arguments).2 = context := by
  unfold ToolContext.editFile at h ⊢
  cases hplan : ToolContext.planEdit backend context arguments with
  | error result => rfl
  | ok plan =>
      simp only [hplan] at h ⊢
      cases hwrite : backend.writeText context.world plan.path plan.content false with
      | error error => rfl
      | ok written =>
          simp only [hwrite] at h
          exact absurd rfl h

theorem editFile_succeeded (hlawful : LawfulBackend backend) {context : ToolContext World}
    {arguments : JsonObject}
    (h : (ToolContext.editFile backend context arguments).1.status = .success) :
    ∃ plan, ToolContext.planEdit backend context arguments = .ok plan ∧
      (ToolContext.editFile backend context arguments).1 = ToolContext.editSuccessResult plan ∧
      backend.readBytes (ToolContext.editFile backend context arguments).2.world plan.path =
        .ok plan.content.toUTF8 := by
  unfold ToolContext.editFile at h ⊢
  cases hplan : ToolContext.planEdit backend context arguments with
  | error result =>
      have herror := planEdit_refuses context arguments result hplan
      simp only [hplan] at h
      rw [h] at herror
      cases herror
  | ok plan =>
      simp only [hplan] at h ⊢
      cases hwrite : backend.writeText context.world plan.path plan.content false with
      | error error =>
          simp only [hwrite] at h
          rw [workspaceBackendError_status] at h
          cases h
      | ok written =>
          obtain ⟨size, world⟩ := written
          exact ⟨plan, rfl, rfl, hlawful.overwrite hwrite⟩

omit [Platform] [ContentDigest] in
/-- The texts of an edit, with the count of the old one; a line break is adjusted only in a file
with CRLF breaks where the old text is not found as it was given. -/
theorem editTexts_cases {text oldString newString old new : String} {count : Nat}
    (h : ToolContext.editTexts text oldString newString = (old, new, count)) (hcount : count ≠ 0) :
    (matchCount text oldString ≠ 0 ∧ old = oldString ∧ new = newString ∧
        count = matchCount text oldString) ∨
      (matchCount text oldString = 0 ∧ matchCount oldString "\r\n" = 0 ∧
        old = replaceAll oldString "\n" "\r\n" ∧ new = replaceAll newString "\n" "\r\n" ∧
        count = matchCount text old) := by
  unfold ToolContext.editTexts at h
  dsimp only at h
  split_ifs at h with hadjusted
  · simp only [Prod.mk.injEq] at h
    obtain ⟨rfl, rfl, rfl⟩ := h
    exact .inr ⟨hadjusted.1, hadjusted.2.2, rfl, rfl, rfl⟩
  · simp only [Prod.mk.injEq] at h
    obtain ⟨rfl, rfl, rfl⟩ := h
    exact .inl ⟨hcount, rfl, rfl, rfl⟩

omit [Platform] [ContentDigest] in
theorem replaceAll_feeds (text : String) :
    (replaceAll text "\n" "\r\n").toList = withReturns text.toList := by
  rw [replaceAll, String.toList_ofList]
  exact replaceN_feeds (Nat.le_refl _)

omit [Platform] [ContentDigest] in
theorem withReturns_ne_nil {text : List Char} (h : text ≠ []) : withReturns text ≠ [] := by
  obtain ⟨c, rest, rfl⟩ := List.exists_cons_of_ne_nil h
  by_cases hfeed : c = '\n' <;> simp [withReturns, hfeed]

omit [Platform] [ContentDigest] in
theorem toList_ne_nil {text : String} (h : text ≠ "") : text.toList ≠ [] := by
  intro hnone
  exact h (String.toList_inj.mp hnone)

omit [Platform] [ContentDigest] in
/-- The old text of an edit is not empty, and it is counted in the whole text. -/
theorem editTexts_spec {text oldString newString old new : String} {count : Nat}
    (hold : oldString ≠ "")
    (h : ToolContext.editTexts text oldString newString = (old, new, count)) (hcount : count ≠ 0) :
    old.toList ≠ [] ∧ count = countMatches old.toList text.toList.length text.toList := by
  rcases editTexts_cases h hcount with ⟨_, rfl, _, rfl⟩ | ⟨_, _, rfl, _, rfl⟩
  · exact ⟨toList_ne_nil hold, rfl⟩
  · refine ⟨?_, rfl⟩
    rw [replaceAll_feeds]
    exact withReturns_ne_nil (toList_ne_nil hold)

/-! ### What is replaced -/

/-- All occurrences of a text that do not overlap are replaced, as many as are counted: the text
is pieces with the old text between them and in none of them. -/
def ReplacesAll (old new text newText : List Char) (count : Nat) : Prop :=
  ∃ pieces : List (List Char), pieces.length = count + 1 ∧ text = List.intercalate old pieces ∧
    newText = List.intercalate new pieces ∧
    ∀ piece ∈ pieces, ∀ before behind, piece ≠ before ++ old ++ behind

/-- The only occurrence of a text, overlapping ones counted, is replaced. -/
def ReplacesOnly (old new text newText : List Char) : Prop :=
  ∃ before behind, OccursOnce old text before behind ∧ newText = before ++ new ++ behind

omit [Platform] [ContentDigest] in
theorem replaceN_replacesAll {old : List Char} (hold : old ≠ []) (new text : List Char) :
    ReplacesAll old new text (replaceN old new text.length text)
      (countMatches old text.length text) := by
  obtain ⟨htext, hreplaced⟩ := intercalate_matchPieces hold new text.length text
  refine ⟨matchPieces old text.length text, length_matchPieces old _ _, htext.symm,
    hreplaced.symm, fun piece hpiece => ?_⟩
  exact (splitFirst_eq_none hold).mp (matchPieces_free hold (Nat.le_refl _) piece hpiece)

omit [Platform] [ContentDigest] in
/-- One replacement, where one occurrence is counted, is that of the only occurrence exactly if
no other one overlaps it. -/
theorem replaceN_one_iff {old : List Char} (hold : old ≠ []) (new text : List Char)
    (hcount : countMatches old text.length text = 1) :
    ReplacesOnly old new text (replaceN old new 1 text) ↔ OverlapFree old text := by
  cases hfound : splitFirst old text with
  | none =>
      rw [(countMatches_eq_zero_iff hold (Nat.le_refl _)).mpr hfound] at hcount
      cases hcount
  | some parts =>
      obtain ⟨before, behind⟩ := parts
      have hshorter := length_behind_lt hold hfound
      obtain ⟨bound, hbound⟩ := Nat.exists_eq_succ_of_ne_zero (by omega : text.length ≠ 0)
      rw [hbound] at hcount
      simp only [countMatches, hfound, Nat.add_eq_right] at hcount
      have hlast := (countMatches_eq_zero_iff hold (by omega)).mp hcount
      have honce := occursOnce_iff hold hfound hlast
      have hnew : replaceN old new 1 text = before ++ new ++ behind := by
        simp [replaceN, hfound]
      constructor
      · rintro ⟨front, back, hunique, _⟩
        obtain rfl := hunique.2 before behind (splitFirst_eq_some hold hfound).1
        have hback : back = behind := by
          have hsplit := hunique.1
          rw [(splitFirst_eq_some hold hfound).1] at hsplit
          exact (List.append_cancel_left hsplit).symm
        rw [hback] at hunique
        exact honce.mp hunique
      · intro hfree
        exact ⟨before, behind, honce.mpr hfree, hnew⟩

/-- An edit that fails leaves the files and the baselines as they were. One that succeeds writes
the text of the file, behind the mark it had, with all occurrences replaced that are counted, or
with one; that is the only one, overlapping ones counted, exactly if no two overlap. -/
theorem edit_replaces_named_iff (hlawful : LawfulBackend backend) (context : ToolContext World)
    (arguments : JsonObject) :
    ((ToolContext.editFile backend context arguments).1.status ≠ .success →
      (ToolContext.editFile backend context arguments).2 = context) ∧
    ((ToolContext.editFile backend context arguments).1.status = .success →
      ∃ plan text bom old new count newText,
        (ToolContext.editFile backend context arguments).1 = ToolContext.editSuccessResult plan ∧
        backend.readBytes context.world (editPath arguments) = .ok plan.raw ∧
        decodeWorkspaceText plan.raw = some (text, bom) ∧
        ToolContext.editTexts text (editOld arguments) (editNew arguments) = (old, new, count) ∧
        backend.readBytes (ToolContext.editFile backend context arguments).2.world
          (editPath arguments) = .ok (withMark bom newText).toUTF8 ∧
        (editEverywhere arguments = true →
          ReplacesAll old.toList new.toList text.toList newText plan.replacedCount) ∧
        (editEverywhere arguments = false → plan.replacedCount = 1 ∧
          (ReplacesOnly old.toList new.toList text.toList newText ↔
            OverlapFree old.toList text.toList))) := by
  refine ⟨editFile_failed context arguments, fun h => ?_⟩
  obtain ⟨plan, hplan, hresult, hwritten⟩ := editFile_succeeded hlawful h
  obtain ⟨hpath, hread, text, bom, hdecoded, _, hsome, old, new, count, htexts, hcount, hone,
    hreplaced, hcontent⟩ := planEdit_spec hplan
  obtain ⟨hold, hcounted⟩ := editTexts_spec hsome htexts hcount
  rw [hpath, hcontent] at hwritten
  refine ⟨plan, text, bom, old, new, count, _, hresult, hread, hdecoded, htexts, hwritten, ?_, ?_⟩
  · intro hall
    rw [editLimit, if_pos hall, hreplaced, hcounted]
    exact replaceN_replacesAll hold _ _
  · intro hsingle
    have hcount := hone hsingle
    rw [editLimit, if_neg (by simp [hsingle]), hreplaced]
    refine ⟨hcount, replaceN_one_iff hold _ _ ?_⟩
    rw [← hcounted, hcount]

end

namespace Sample

/-- The digests of the contents of the examples; others are spelled out. -/
def digestOfNotes (raw : ByteArray) : String :=
  (([("aaa", "9834876dcfb05cb167a5c24953eba58c4ac89b1adf57f28f2f9d09af107ee8f0"),
      ("ba", "970f519c2cadbcefb1e81694f904bc6229dd2a8300e98c6d0d4fc4bfca584140"),
      ("one\r\ntwo\r\n", "6f4792b265fe72790b344fd3ef5294701d9d087bed9fce815c0f4bbad6d2ed87"),
      ("one\r\n2\n3\r\n", "c134c09ee6ee3c11c371a31aefecdcc92cdac24e51c1e7c4dfc0c540435d131f"),
      ("one\r\n2\r\n3\r\n",
        "dddf15b7a2cc82db48e3c4a0ae3b0cef28f47f4e167306afc4baa8c55d6cab8c")].find?
    fun entry => decide (entry.1.toUTF8.data = raw.data)).map (·.2)).getD (spelled raw)

/-- A file that has been read. -/
def notesContext (content : String) : ToolContext MemoryWorkspace :=
  (run (@FileStep.exec (runtime []).toPlatform ⟨digestOfNotes⟩ _ workspaceBackend)
    [.outside { files := (∅ : Table ByteArray).insert "notes.txt" content.toUTF8 },
      .readFile [("path", .str "notes.txt")]] (.fresh [] {})).context

def editArguments (old new : String) : JsonObject :=
  [("new_string", .str new), ("old_string", .str old), ("path", .str "notes.txt")]

/-- An edit of a file that has been read. -/
def editNotes (content old new : String) : ToolExecutionResult × ToolContext MemoryWorkspace :=
  @ToolContext.editFile (runtime []).toPlatform ⟨digestOfNotes⟩ _ workspaceBackend
    (notesContext content) (editArguments old new)

theorem editNotes_overlapping : (editNotes "aaa" "aa" "b").1.status = .success := by
  decide +kernel

end Sample

theorem edit_replaces_named_aaa :
    ∃ plan, (Sample.editNotes "aaa" "aa" "b").1 =
      @ToolContext.editSuccessResult (Sample.runtime []).toPlatform plan ∧
        plan.replacedCount = 1 := by
  obtain ⟨plan, _, _, _, _, _, _, hresult, _, _, _, _, _, hsingle⟩ :=
    (@edit_replaces_named_iff (Sample.runtime []).toPlatform ⟨Sample.digestOfNotes⟩ _
      Sample.workspaceBackend (MemoryWorkspace.backend_lawful _) (Sample.notesContext "aaa")
      (Sample.editArguments "aa" "b")).2 Sample.editNotes_overlapping
  exact ⟨plan, hresult, (hsingle rfl).1⟩

/-- An edit succeeds although the old text occurs at two places of the file. -/
theorem overlapping_text_edited :
    (Sample.editNotes "aaa" "aa" "b").1.status = .success ∧
      ¬∃ before behind, OccursOnce "aa".toList "aaa".toList before behind := by
  refine ⟨Sample.editNotes_overlapping, ?_⟩
  rintro ⟨before, behind, _, honly⟩
  have hfirst := honly [] ['a'] rfl
  have hsecond := honly ['a'] [] rfl
  rw [← hfirst] at hsecond
  cases hsecond

section
variable [Platform] [ContentDigest] {World : Type} {backend : WorkspaceBackend World}

/-! ### Line breaks -/

/-- How the new text of an edit has to break its lines in a file with CRLF breaks: with CRLF, or,
behind the carriage return that a text starting with a line feed leaves, with a line feed and
CRLF after it; and with line feeds where the texts are adjusted. -/
def BreaksFit (text oldString newString : String) : Prop :=
  if matchCount text oldString = 0 then '\r' ∉ newString.toList
  else if startsWithFeed oldString.toList then
    ∃ rest, newString.toList = '\n' :: rest ∧ CrlfOnly rest
  else CrlfOnly newString.toList

omit [Platform] [ContentDigest] in
theorem no_return_of_matchCount {text : String} (h : OneKindOfBreaks text.toList)
    (hcount : matchCount text "\r\n" = 0) : '\r' ∉ text.toList := by
  rcases h with hnone | hcrlf
  · exact hnone
  · intro hreturn
    have hfeeds : countMatches ['\r', '\n'] text.toList.length text.toList = 0 := hcount
    rw [countMatches_crlf hcrlf (Nat.le_refl _), List.count_eq_zero] at hfeeds
    exact hfeeds (hcrlf.feed_of_return hreturn)

omit [Platform] [ContentDigest] in
/-- The line breaks of an edited text are all CRLF exactly if those of the new text fit. -/
theorem edited_crlfOnly_iff {text oldString newString old new : String} {count limit : Nat}
    (htext : CrlfOnly text.toList) (hsome : oldString ≠ "")
    (holdKind : OneKindOfBreaks oldString.toList) (hnewKind : OneKindOfBreaks newString.toList)
    (htexts : ToolContext.editTexts text oldString newString = (old, new, count))
    (hcount : count ≠ 0) (hlimit : 0 < limit) :
    CrlfOnly (replaceN old.toList new.toList limit text.toList) ↔
      BreaksFit text oldString newString := by
  obtain ⟨hold, hcounted⟩ := editTexts_spec hsome htexts hcount
  have hfound : splitFirst old.toList text.toList ≠ none := by
    intro hnone
    apply hcount
    rw [hcounted]
    exact (countMatches_eq_zero_iff hold (Nat.le_refl _)).mpr hnone
  rcases editTexts_cases htexts hcount with ⟨hgiven, rfl, rfl, _⟩ | ⟨hgiven, hpairs, rfl, rfl, _⟩
  · rw [crlfOnly_replaceN_iff hold holdKind (readBreaks_oneKind_missing hnewKind) htext hfound
      hlimit, BreaksFit, if_neg hgiven]
    cases hfeed : startsWithFeed old.toList with
    | true => rw [if_pos rfl, readBreaks_true_iff]
    | false => rw [if_neg (by simp), crlfOnly_iff_readBreaks]
  · have hreturns := withReturns_crlfOnly (no_return_of_matchCount holdKind hpairs)
    rw [replaceAll_feeds] at hold hfound ⊢
    have hfeed : startsWithFeed (withReturns oldString.toList) = false :=
      decide_eq_false (head_of_crlfOnly hreturns)
    have hnever : readBreaks false (withReturns newString.toList) ≠ some true := by
      by_cases hreturn : '\r' ∈ newString.toList
      · rw [readBreaks_withReturns (hnewKind.resolve_left (not_not_intro hreturn)) hreturn]
        exact (Option.some_ne_none true).symm
      · rw [readBreaks_of_crlfOnly (withReturns_crlfOnly hreturn)]
        simp
    have hiff : CrlfOnly (replaceN (withReturns oldString.toList) (withReturns newString.toList)
        limit text.toList) ↔ readBreaks (startsWithFeed (withReturns oldString.toList))
          (withReturns newString.toList) = some false :=
      crlfOnly_replaceN_iff hold (.inr hreturns)
        (fun hmissing => absurd (hfeed ▸ hmissing) hnever) htext hfound hlimit
    rw [replaceAll_feeds, hiff, hfeed, ← crlfOnly_iff_readBreaks,
      withReturns_crlfOnly_iff hnewKind, BreaksFit, if_pos hgiven]

omit [Platform] [ContentDigest] in
theorem crlfOnly_withMark (bom : Bool) (text : List Char) :
    CrlfOnly (withMark bom text).toList ↔ CrlfOnly text := by
  cases bom with
  | false => simp [withMark]
  | true =>
      have hchars : (withMark true text).toList = '\uFEFF' :: text := by simp [withMark]
      rw [hchars, crlfOnly_iff_readBreaks, crlfOnly_iff_readBreaks]
      rfl

omit [Platform] [ContentDigest] in
theorem detectLineEnding_crlf {text : String} (h : CrlfOnly text.toList)
    (hfeed : '\n' ∈ text.toList) : detectLineEnding text = "crlf" := by
  have hcount : matchCount text "\r\n" = text.toList.count '\n' :=
    countMatches_crlf h (Nat.le_refl _)
  have hpositive := List.count_pos_iff.mpr hfeed
  simp [detectLineEnding, hcount, hpositive]

/-- The file under a path has CRLF breaks only, and where there were breaks before, the reported
line ending is that. -/
def KeepsCrlf (backend : WorkspaceBackend World) (path : String) (text : String)
    (outcome : ToolExecutionResult × ToolContext World) : Prop :=
  ∃ newText : String, backend.readBytes outcome.2.world path = .ok newText.toUTF8 ∧
    CrlfOnly newText.toList ∧
    ('\n' ∈ text.toList → outcome.1.metadata.lookup "line_ending" = some (.str "crlf") ∧
      ('\n' ∈ newText.toList → detectLineEnding newText = "crlf"))

/-- A successful edit with texts of one kind of line breaks keeps the CRLF breaks of a file
exactly if the line breaks of the new text fit. -/
theorem edit_keeps_crlf_iff (hlawful : LawfulBackend backend) (context : ToolContext World)
    (arguments : JsonObject) {raw : ByteArray} {text : String} {bom : Bool}
    (hread : backend.readBytes context.world (editPath arguments) = .ok raw)
    (htext : decodeWorkspaceText raw = some (text, bom)) (hcrlf : CrlfOnly text.toList)
    (hold : OneKindOfBreaks (editOld arguments).toList)
    (hnew : OneKindOfBreaks (editNew arguments).toList)
    (hsuccess : (ToolContext.editFile backend context arguments).1.status = .success) :
    KeepsCrlf backend (editPath arguments) text (ToolContext.editFile backend context arguments) ↔
      BreaksFit text (editOld arguments) (editNew arguments) := by
  obtain ⟨plan, hplan, hresult, hwritten⟩ := editFile_succeeded hlawful hsuccess
  obtain ⟨hpath, hplanned, found, mark, hdecoded, hending, hsome, old, new, count, htexts, hcount,
    _, _, hcontent⟩ := planEdit_spec hplan
  rw [hread] at hplanned
  rw [← Except.ok.inj hplanned, htext] at hdecoded
  simp only [Option.some.injEq, Prod.mk.injEq] at hdecoded
  obtain ⟨rfl, rfl⟩ := hdecoded
  rw [hpath, hcontent] at hwritten
  have hlimit : 0 < editLimit arguments text := by
    obtain ⟨_, hcounted⟩ := editTexts_spec hsome htexts hcount
    unfold editLimit
    split_ifs
    · rw [Nat.pos_iff_ne_zero]
      intro hempty
      rw [hempty] at hcounted
      exact hcount hcounted
    · exact Nat.one_pos
  have hiff := edited_crlfOnly_iff hcrlf hsome hold hnew htexts hcount hlimit
  rw [← hiff]
  constructor
  · rintro ⟨newText, hafter, hbreaks, _⟩
    rw [hwritten] at hafter
    have hsame := String.toByteArray_inj.mp (Except.ok.inj hafter)
    rw [← hsame, crlfOnly_withMark] at hbreaks
    exact hbreaks
  · intro hbreaks
    have hmarked := (crlfOnly_withMark bom _).mpr hbreaks
    refine ⟨_, hwritten, hmarked, fun hfeed => ⟨?_, detectLineEnding_crlf hmarked⟩⟩
    rw [hresult]
    change some (Json.str plan.lineEnding) = _
    rw [hending, detectLineEnding_crlf hcrlf hfeed]

end

namespace Sample

theorem editNotes_broken : (editNotes "one\r\ntwo\r\n" "two" "2\n3").1.status = .success ∧
    (workspaceBackend.readBytes (editNotes "one\r\ntwo\r\n" "two" "2\n3").2.world
      "notes.txt").toOption.map (·.data) = some "one\r\n2\n3\r\n".toUTF8.data := by
  decide +kernel

theorem editNotes_kept : (editNotes "one\r\ntwo\r\n" "two" "2\r\n3").1.status = .success := by
  decide +kernel

theorem notes_crlfOnly : CrlfOnly "one\r\ntwo\r\n".toList :=
  (crlfOnly_iff_readBreaks _).mpr (by decide)

theorem notes_decoded :
    decodeWorkspaceText "one\r\ntwo\r\n".toUTF8 = some ("one\r\ntwo\r\n", false) := by
  decide +kernel

end Sample

theorem edit_keeps_crlf_notes :
    KeepsCrlf Sample.workspaceBackend "notes.txt" "one\r\ntwo\r\n"
      (Sample.editNotes "one\r\ntwo\r\n" "two" "2\r\n3") := by
  have hnew : CrlfOnly "2\r\n3".toList := (crlfOnly_iff_readBreaks _).mpr (by decide)
  apply (@edit_keeps_crlf_iff (Sample.runtime []).toPlatform ⟨Sample.digestOfNotes⟩ _
    Sample.workspaceBackend (MemoryWorkspace.backend_lawful _)
    (Sample.notesContext "one\r\ntwo\r\n") (Sample.editArguments "two" "2\r\n3")
    "one\r\ntwo\r\n".toUTF8 _ false rfl Sample.notes_decoded Sample.notes_crlfOnly
    (.inl (by decide)) (.inr hnew) Sample.editNotes_kept).mpr
  have hfound : matchCount "one\r\ntwo\r\n" "two" ≠ 0 := by decide
  have hfeed : startsWithFeed "two".toList = false := by decide
  change BreaksFit "one\r\ntwo\r\n" "two" "2\r\n3"
  rw [BreaksFit, if_neg hfound, hfeed]
  exact hnew

/-- A new text with a line feed, in the place of a text on one line, is written as it is into a
file with CRLF breaks. -/
theorem bare_feed_written :
    CrlfOnly "one\r\ntwo\r\n".toList ∧
      (Sample.editNotes "one\r\ntwo\r\n" "two" "2\n3").1.status = .success ∧
      ¬KeepsCrlf Sample.workspaceBackend "notes.txt" "one\r\ntwo\r\n"
        (Sample.editNotes "one\r\ntwo\r\n" "two" "2\n3") := by
  refine ⟨Sample.notes_crlfOnly, Sample.editNotes_broken.1, ?_⟩
  rintro ⟨newText, hread, hcrlf, _⟩
  have hdata := Sample.editNotes_broken.2
  rw [hread] at hdata
  have hbytes : newText.toUTF8 = "one\r\n2\n3\r\n".toUTF8 := ByteArray.ext (Option.some.inj hdata)
  rw [String.toByteArray_inj.mp hbytes, crlfOnly_iff_readBreaks] at hcrlf
  revert hcrlf
  decide

end VvAgent
