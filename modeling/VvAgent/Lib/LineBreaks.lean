import Mathlib.Data.List.Basic

/-!
Texts whose line breaks are all CRLF, with no other carriage return. A text is read character by
character, with a note whether a line feed is still missing; texts are put together from parts
that are read one after the other, so what a part may be replaced by depends on the note at its
start only.
-/

namespace VvAgent.Lib

/-- A text of characters that are no line breaks, and of CRLF pairs. -/
inductive CrlfOnly : List Char → Prop
  | nil : CrlfOnly []
  | char (c : Char) (rest : List Char) (hreturn : c ≠ '\r') (hfeed : c ≠ '\n')
      (hrest : CrlfOnly rest) : CrlfOnly (c :: rest)
  | pair (rest : List Char) (hrest : CrlfOnly rest) : CrlfOnly ('\r' :: '\n' :: rest)

/-- Whether a line feed is missing behind a text, given whether one is missing before it. -/
def readBreaks : Bool → List Char → Option Bool
  | missing, [] => some missing
  | missing, c :: rest =>
      if c = '\n' then (if missing then readBreaks false rest else none)
      else if missing then none
      else readBreaks (c = '\r') rest

@[simp]
theorem readBreaks_nil (missing : Bool) : readBreaks missing [] = some missing := rfl

theorem readBreaks_missing {c : Char} (h : c ≠ '\n') (rest : List Char) :
    readBreaks true (c :: rest) = none := by
  simp [readBreaks, h]

theorem readBreaks_char {c : Char} (h : c ≠ '\n') (rest : List Char) :
    readBreaks false (c :: rest) = readBreaks (c = '\r') rest := by
  simp [readBreaks, h]

theorem readBreaks_append (missing : Bool) (text text' : List Char) :
    readBreaks missing (text ++ text') =
      (readBreaks missing text).bind fun missing => readBreaks missing text' := by
  induction text generalizing missing with
  | nil => rfl
  | cons c text ih =>
      simp only [List.cons_append, readBreaks]
      split_ifs <;> first | rfl | exact ih _

theorem crlfOnly_iff_readBreaks (text : List Char) :
    CrlfOnly text ↔ readBreaks false text = some false := by
  constructor
  · intro h
    induction h with
    | nil => rfl
    | char c rest hreturn hfeed _ ih => simpa [readBreaks_char hfeed, hreturn] using ih
    | pair rest _ ih => exact ih
  · intro h
    -- Behind a carriage return the rest is read without its line feed.
    have hboth : ∀ text : List Char, (readBreaks false text = some false → CrlfOnly text) ∧
        (readBreaks true text = some false → ∃ rest, text = '\n' :: rest ∧ CrlfOnly rest) := by
      intro text
      induction text with
      | nil => exact ⟨fun _ => .nil, (by intro h; cases h)⟩
      | cons c rest ih =>
          by_cases hfeed : c = '\n'
          · subst hfeed
            exact ⟨(by intro h; cases h), fun h => ⟨rest, rfl, ih.1 h⟩⟩
          · rw [readBreaks_char hfeed, readBreaks_missing hfeed]
            refine ⟨fun h => ?_, (by intro h; cases h)⟩
            by_cases hreturn : c = '\r'
            · subst hreturn
              obtain ⟨behind, rfl, hbehind⟩ := ih.2 h
              exact .pair behind hbehind
            · rw [decide_eq_false hreturn] at h
              exact .char c rest hreturn hfeed (ih.1 h)
    exact (hboth text).1 h

theorem readBreaks_of_crlfOnly {text : List Char} (h : CrlfOnly text) :
    readBreaks false text = some false := (crlfOnly_iff_readBreaks text).mp h

/-- A text that starts where a line feed is missing starts with it. -/
theorem readBreaks_true_iff (text : List Char) :
    readBreaks true text = some false ↔ ∃ rest, text = '\n' :: rest ∧ CrlfOnly rest := by
  constructor
  · intro h
    cases text with
    | nil => cases h
    | cons c rest =>
        by_cases hfeed : c = '\n'
        · subst hfeed
          exact ⟨rest, rfl, (crlfOnly_iff_readBreaks rest).mpr h⟩
        · rw [readBreaks_missing hfeed] at h
          cases h
  · rintro ⟨rest, rfl, hrest⟩
    exact readBreaks_of_crlfOnly hrest

/-- A text with line feeds alone, or with CRLF alone, for its line breaks. -/
def OneKindOfBreaks (text : List Char) : Prop := '\r' ∉ text ∨ CrlfOnly text

/-- Without a carriage return no line feed is missing behind a text, and the text has one at its
start at most. -/
theorem readBreaks_of_no_return {text : List Char} (h : '\r' ∉ text) {missing after : Bool}
    (hread : readBreaks missing text = some after) (hsome : text ≠ []) :
    after = false ∧ missing = decide (text.head? = some '\n') := by
  have hrest : ∀ rest : List Char, '\r' ∉ rest → readBreaks false rest = some after →
      after = false := by
    intro rest
    induction rest with
    | nil => exact fun _ hread => (Option.some.inj hread).symm
    | cons c rest ih =>
        intro hnone hread
        rw [List.mem_cons, not_or] at hnone
        by_cases hfeed : c = '\n'
        · rw [hfeed] at hread
          cases hread
        · rw [readBreaks_char hfeed, decide_eq_false (Ne.symm hnone.1)] at hread
          exact ih hnone.2 hread
  cases text with
  | nil => exact absurd rfl hsome
  | cons c rest =>
      rw [List.mem_cons, not_or] at h
      by_cases hfeed : c = '\n'
      · subst hfeed
        cases missing with
        | true => exact ⟨hrest rest h.2 hread, by simp⟩
        | false => cases hread
      · cases missing with
        | true =>
            rw [readBreaks_missing hfeed] at hread
            cases hread
        | false =>
            rw [readBreaks_char hfeed, decide_eq_false (Ne.symm h.1)] at hread
            exact ⟨hrest rest h.2 hread, by simp [hfeed]⟩

theorem head_of_crlfOnly {text : List Char} (h : CrlfOnly text) : text.head? ≠ some '\n' := by
  cases h with
  | nil => simp
  | char c rest _ hfeed _ => simpa using hfeed
  | pair rest _ => simp

theorem CrlfOnly.feed_of_return {text : List Char} (h : CrlfOnly text) (hreturn : '\r' ∈ text) :
    '\n' ∈ text := by
  induction h with
  | nil => simp at hreturn
  | char c rest hother _ _ ih =>
      rcases List.mem_cons.mp hreturn with hsame | hrest
      · exact absurd hsame.symm hother
      · exact List.mem_cons_of_mem c (ih hrest)
  | pair rest _ _ => simp

/-- Where a text of one kind of breaks can be read, its first character says whether a line feed
is missing before it, and none is missing behind it. -/
theorem readBreaks_oneKind {text : List Char} (h : OneKindOfBreaks text) (hsome : text ≠ [])
    {missing after : Bool} (hread : readBreaks missing text = some after) :
    after = false ∧ missing = decide (text.head? = some '\n') := by
  rcases h with hnone | hcrlf
  · exact readBreaks_of_no_return hnone hread hsome
  · have hhead := head_of_crlfOnly hcrlf
    cases missing with
    | false =>
        rw [readBreaks_of_crlfOnly hcrlf] at hread
        exact ⟨(Option.some.inj hread).symm, (decide_eq_false hhead).symm⟩
    | true =>
        cases text with
        | nil => exact absurd rfl hsome
        | cons c rest =>
            rw [readBreaks_missing (by simpa using hhead)] at hread
            cases hread

/-! ### From LF to CRLF -/

/-- Every line feed with a carriage return before it. -/
def withReturns (text : List Char) : List Char :=
  text.flatMap fun c => if c = '\n' then ['\r', '\n'] else [c]

theorem withReturns_crlfOnly {text : List Char} (h : '\r' ∉ text) :
    CrlfOnly (withReturns text) := by
  induction text with
  | nil => exact .nil
  | cons c text ih =>
      rw [List.mem_cons, not_or] at h
      by_cases hfeed : c = '\n'
      · subst hfeed
        exact .pair _ (ih h.2)
      · have hcons : withReturns (c :: text) = c :: withReturns text := by
          simp [withReturns, hfeed]
        rw [hcons]
        exact .char c _ (Ne.symm h.1) hfeed (ih h.2)

/-- A text with CRLF breaks gets a carriage return too many. -/
theorem readBreaks_withReturns {text : List Char} (h : CrlfOnly text) (hreturn : '\r' ∈ text) :
    readBreaks false (withReturns text) = none := by
  induction h with
  | nil => simp at hreturn
  | char c rest hother hfeed _ ih =>
      have hcons : withReturns (c :: rest) = c :: withReturns rest := by
        simp [withReturns, hfeed]
      rw [hcons, readBreaks_char hfeed, decide_eq_false hother]
      apply ih
      rcases List.mem_cons.mp hreturn with hsame | hrest
      · exact absurd hsame.symm hother
      · exact hrest
  | pair rest _ _ => rfl

theorem withReturns_crlfOnly_iff {text : List Char} (h : OneKindOfBreaks text) :
    CrlfOnly (withReturns text) ↔ '\r' ∉ text := by
  constructor
  · intro hcrlf hreturn
    rcases h with hnone | hgiven
    · exact hnone hreturn
    · rw [crlfOnly_iff_readBreaks, readBreaks_withReturns hgiven hreturn] at hcrlf
      cases hcrlf
  · exact withReturns_crlfOnly

end VvAgent.Lib
