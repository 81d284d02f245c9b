import VvAgent.Lib.LineBreaks
import VvAgent.Workspace.FileTools

/-!
What the search and the replacements of an edit come to. The first occurrence of a text is found;
occurrences are counted and replaced from left to right and never overlap, so a text is its
pieces with the old text between them, and becomes its pieces with the new text between them. A
text that is counted once may still occur at two places that overlap.
-/

namespace VvAgent
open Lib

variable {old new text before behind : List Char}

/-! ### The first occurrence -/

theorem splitFirst_nil (hold : old ≠ []) : splitFirst old [] = none := if_neg hold

/-- What is found is the first occurrence. -/
theorem splitFirst_eq_some (hold : old ≠ []) (h : splitFirst old text = some (before, behind)) :
    text = before ++ old ++ behind ∧
      ∀ before' behind', text = before' ++ old ++ behind' → before.length ≤ before'.length := by
  induction text generalizing before with
  | nil =>
      rw [splitFirst_nil hold] at h
      cases h
  | cons c rest ih =>
      rw [splitFirst] at h
      split_ifs at h with hfront
      · simp only [Option.some.injEq, Prod.mk.injEq] at h
        obtain ⟨rfl, rfl⟩ := h
        have hprefix := List.isPrefixOf_iff_prefix.mp hfront
        refine ⟨?_, fun _ _ _ => Nat.zero_le _⟩
        rw [List.nil_append]
        exact (List.prefix_iff_eq_append.mp hprefix).symm
      · simp only [Option.map_eq_some_iff, Prod.mk.injEq] at h
        obtain ⟨⟨front, back⟩, hrest, rfl, rfl⟩ := h
        obtain ⟨hsplit, hfirst⟩ := ih hrest
        refine ⟨by simp [hsplit], fun before' behind' hother => ?_⟩
        cases before' with
        | nil =>
            apply absurd _ hfront
            rw [hother, List.isPrefixOf_iff_prefix]
            exact List.prefix_append old behind'
        | cons c' before' =>
            simp only [List.cons_append, List.cons.injEq] at hother
            apply Nat.succ_le_succ
            exact hfirst before' behind' hother.2

theorem splitFirst_eq_none (hold : old ≠ []) :
    splitFirst old text = none ↔ ∀ before behind, text ≠ before ++ old ++ behind := by
  constructor
  · intro h before behind hsplit
    induction text generalizing before with
    | nil => simp [hold] at hsplit
    | cons c rest ih =>
        rw [splitFirst] at h
        split_ifs at h with hfront
        cases before with
        | nil =>
            apply hfront
            rw [hsplit, List.isPrefixOf_iff_prefix]
            exact List.prefix_append old behind
        | cons c' before =>
            simp only [List.cons_append, List.cons.injEq] at hsplit
            exact ih (Option.map_eq_none_iff.mp h) before hsplit.2
  · intro h
    cases hfound : splitFirst old text with
    | none => rfl
    | some parts =>
        obtain ⟨before, behind⟩ := parts
        exact absurd (splitFirst_eq_some hold hfound).1 (h before behind)

/-- The rest behind an occurrence is shorter. -/
theorem length_behind_lt (hold : old ≠ []) (h : splitFirst old text = some (before, behind)) :
    behind.length < text.length := by
  have hsplit := (splitFirst_eq_some hold h).1
  have hlength := List.length_pos_of_ne_nil hold
  rw [hsplit, List.length_append, List.length_append]
  omega

/-! ### Pieces -/

/-- The parts of a text between its first occurrences of another one. -/
def matchPieces (old : List Char) : Nat → List Char → List (List Char)
  | 0, text => [text]
  | bound + 1, text =>
      match splitFirst old text with
      | none => [text]
      | some (before, behind) => before :: matchPieces old bound behind

theorem matchPieces_ne_nil (old : List Char) (bound : Nat) (text : List Char) :
    matchPieces old bound text ≠ [] := by
  cases bound with
  | zero => simp [matchPieces]
  | succ bound => cases hfound : splitFirst old text <;> simp [matchPieces, hfound]

/-- A text is its pieces with the old text between them; replacing puts the new one there. -/
theorem intercalate_matchPieces (hold : old ≠ []) (new : List Char) (bound : Nat)
    (text : List Char) :
    List.intercalate old (matchPieces old bound text) = text ∧
      List.intercalate new (matchPieces old bound text) = replaceN old new bound text := by
  induction bound generalizing text with
  | zero => exact ⟨by simp [matchPieces], by simp [matchPieces, replaceN]⟩
  | succ bound ih =>
      cases hfound : splitFirst old text with
      | none => exact ⟨by simp [matchPieces, hfound], by simp [matchPieces, replaceN, hfound]⟩
      | some parts =>
          obtain ⟨before, behind⟩ := parts
          have hpieces := matchPieces_ne_nil old bound behind
          simp only [matchPieces, replaceN, hfound, List.intercalate_cons_of_ne_nil hpieces,
            (ih behind).1, (ih behind).2]
          exact ⟨(splitFirst_eq_some hold hfound).1.symm, trivial⟩

theorem length_matchPieces (old : List Char) (bound : Nat) (text : List Char) :
    (matchPieces old bound text).length = countMatches old bound text + 1 := by
  induction bound generalizing text with
  | zero => rfl
  | succ bound ih =>
      cases hfound : splitFirst old text with
      | none => simp [matchPieces, countMatches, hfound]
      | some parts => simp [matchPieces, countMatches, hfound, ih]

/-- No piece holds the old text, if all occurrences are taken. -/
theorem matchPieces_free (hold : old ≠ []) {bound : Nat} (hbound : text.length ≤ bound) :
    ∀ piece ∈ matchPieces old bound text, splitFirst old piece = none := by
  induction bound generalizing text with
  | zero =>
      obtain rfl := List.length_eq_zero_iff.mp (Nat.le_zero.mp hbound)
      simpa [matchPieces] using splitFirst_nil hold
  | succ bound ih =>
      cases hfound : splitFirst old text with
      | none => simp [matchPieces, hfound]
      | some parts =>
          obtain ⟨before, behind⟩ := parts
          obtain ⟨hsplit, hfirst⟩ := splitFirst_eq_some hold hfound
          have hshorter := length_behind_lt hold hfound
          simp only [matchPieces, hfound, List.forall_mem_cons]
          refine ⟨?_, ih (by omega)⟩
          rw [splitFirst_eq_none hold]
          intro front back hbefore
          have hlength := hfirst front (back ++ old ++ behind) (by simp [hsplit, hbefore])
          have hpositive := List.length_pos_of_ne_nil hold
          simp only [hbefore, List.length_append] at hlength
          omega

theorem countMatches_eq_zero_iff (hold : old ≠ []) {bound : Nat} (hbound : text.length ≤ bound) :
    countMatches old bound text = 0 ↔ splitFirst old text = none := by
  cases bound with
  | zero =>
      obtain rfl := List.length_eq_zero_iff.mp (Nat.le_zero.mp hbound)
      exact ⟨fun _ => splitFirst_nil hold, fun _ => rfl⟩
  | succ bound => cases hfound : splitFirst old text <;> simp [countMatches, hfound]

/-! ### One place -/

/-- A text occurs at one place and at no other, overlapping ones counted. -/
def OccursOnce (old text before behind : List Char) : Prop :=
  text = before ++ old ++ behind ∧
    ∀ before' behind', text = before' ++ old ++ behind' → before' = before

/-- No two occurrences of a text overlap. -/
def OverlapFree (old text : List Char) : Prop :=
  ∀ before behind before' behind', text = before ++ old ++ behind →
    text = before' ++ old ++ behind' → before.length < before'.length →
      before.length + old.length ≤ before'.length

/-- An occurrence with none behind it is the only one, if none overlaps it. -/
theorem occursOnce_iff (hold : old ≠ []) (hfirst : splitFirst old text = some (before, behind))
    (hlast : splitFirst old behind = none) :
    OccursOnce old text before behind ↔ OverlapFree old text := by
  obtain ⟨hsplit, hleast⟩ := splitFirst_eq_some hold hfirst
  constructor
  · rintro ⟨_, honly⟩ front back front' back' hother hother' hlt
    rw [honly front back hother, honly front' back' hother'] at hlt
    exact absurd hlt (Nat.lt_irrefl _)
  · intro hfree
    refine ⟨hsplit, fun front back hother => ?_⟩
    have hle := hleast front back hother
    rw [splitFirst_eq_none hold] at hlast
    -- An occurrence further right lies behind the first one.
    by_cases hlt : before.length < front.length
    · have hbehind := hfree before behind front back hsplit hother hlt
      exfalso
      rw [hother] at hsplit
      have hdrop := congrArg (List.drop (before ++ old).length) hsplit
      rw [List.drop_left, List.append_assoc, List.drop_append_of_le_length
        (by rw [List.length_append]; omega)] at hdrop
      exact hlast _ back (by rw [← hdrop, List.append_assoc])
    · have hsame : front.length = before.length := by omega
      rw [hother, List.append_assoc, List.append_assoc] at hsplit
      exact (List.append_inj hsplit hsame).1

/-! ### Line breaks of what is replaced -/

/-- Whether a text starts with a line feed. -/
def startsWithFeed (text : List Char) : Bool := decide (text.head? = some '\n')

/-- A replacement that reads as what it replaces leaves a text readable. -/
theorem readBreaks_replaceN (hold : old ≠ []) (hkind : OneKindOfBreaks old)
    (hnew : readBreaks (startsWithFeed old) new = some false) (limit : Nat) {missing : Bool}
    (htext : readBreaks missing text = some false) :
    readBreaks missing (replaceN old new limit text) = some false := by
  induction limit generalizing missing text with
  | zero => exact htext
  | succ limit ih =>
      cases hfound : splitFirst old text with
      | none => simpa [replaceN, hfound] using htext
      | some parts =>
          obtain ⟨before, behind⟩ := parts
          rw [(splitFirst_eq_some hold hfound).1, readBreaks_append, readBreaks_append] at htext
          simp only [Option.bind_eq_some_iff] at htext
          obtain ⟨after, ⟨within, hbefore, hread⟩, hbehind⟩ := htext
          obtain ⟨rfl, rfl⟩ := readBreaks_oneKind hkind hold hread
          simp only [replaceN, hfound, readBreaks_append, hbefore, Option.bind_some]
          rw [← startsWithFeed, hnew, Option.bind_some]
          exact ih hbehind

/-- Where a line feed is missing, no replaced text follows that could be read without one. -/
theorem readBreaks_true_replaceN (hold : old ≠ []) (hfeed : startsWithFeed old = true)
    (limit : Nat) (htext : readBreaks false text = some false) :
    readBreaks true (replaceN old new limit text) ≠ some false := by
  have hstays : ∀ text : List Char, readBreaks false text = some false →
      readBreaks true text ≠ some false := by
    intro text hread hmissing
    obtain ⟨rest, rfl, _⟩ := (readBreaks_true_iff text).mp hmissing
    cases hread
  cases limit with
  | zero => exact hstays text htext
  | succ limit =>
      cases hfound : splitFirst old text with
      | none => simpa [replaceN, hfound] using hstays text htext
      | some parts =>
          obtain ⟨before, behind⟩ := parts
          rw [(splitFirst_eq_some hold hfound).1, List.append_assoc] at htext
          -- The text does not start with a line feed, so something stands before the old text.
          cases before with
          | nil =>
              obtain ⟨c, rest, rfl⟩ := List.exists_cons_of_ne_nil hold
              have hc : c = '\n' := by simpa [startsWithFeed] using hfeed
              rw [hc] at htext
              cases htext
          | cons c before =>
              have hc : c ≠ '\n' := by
                rintro rfl
                cases htext
              simp only [replaceN, hfound, List.cons_append]
              rw [readBreaks_missing hc]
              exact (Option.some_ne_none false).symm

/-- A text with CRLF breaks keeps them under replacements exactly if the new text can be read in
the place of the old one. -/
theorem crlfOnly_replaceN_iff (hold : old ≠ []) (hkind : OneKindOfBreaks old)
    (hnew : readBreaks (startsWithFeed old) new = some true → startsWithFeed old = true)
    (htext : CrlfOnly text) (hfound : splitFirst old text ≠ none) {limit : Nat}
    (hlimit : 0 < limit) :
    CrlfOnly (replaceN old new limit text) ↔
      readBreaks (startsWithFeed old) new = some false := by
  rw [crlfOnly_iff_readBreaks] at htext ⊢
  constructor
  · intro hreplaced
    obtain ⟨rest, rfl⟩ := Nat.exists_eq_succ_of_ne_zero hlimit.ne'
    cases hsplit : splitFirst old text with
    | none => exact absurd hsplit hfound
    | some parts =>
        obtain ⟨before, behind⟩ := parts
        rw [(splitFirst_eq_some hold hsplit).1, readBreaks_append, readBreaks_append] at htext
        simp only [Option.bind_eq_some_iff] at htext
        obtain ⟨after, ⟨within, hbefore, hread⟩, hbehind⟩ := htext
        obtain ⟨rfl, rfl⟩ := readBreaks_oneKind hkind hold hread
        simp only [replaceN, hsplit, readBreaks_append, hbefore, Option.bind_some,
          Option.bind_eq_some_iff] at hreplaced
        obtain ⟨missing, hmiddle, hrest⟩ := hreplaced
        rw [← startsWithFeed] at hmiddle
        cases missing with
        | false => exact hmiddle
        | true =>
            exact absurd hrest (readBreaks_true_replaceN hold (hnew hmiddle) rest hbehind)
  · exact fun hread => readBreaks_replaceN hold hkind hread limit htext

/-- Only nothing at all, in the place of a line feed, leaves one missing. -/
theorem readBreaks_oneKind_missing (hkind : OneKindOfBreaks new) {missing : Bool}
    (h : readBreaks missing new = some true) : missing = true := by
  by_cases hnone : new = []
  · subst hnone
    exact Option.some.inj h
  · cases (readBreaks_oneKind hkind hnone h).1

/-- `replace('\n', "\r\n")`. -/
theorem replaceN_feeds {limit : Nat} (hlimit : text.length ≤ limit) :
    replaceN ['\n'] ['\r', '\n'] limit text = withReturns text := by
  have hplain : ∀ l : List Char, splitFirst ['\n'] l = none → withReturns l = l := by
    intro l hnone
    rw [splitFirst_eq_none (by simp)] at hnone
    have hchars : ∀ c ∈ l, (if c = '\n' then ['\r', '\n'] else [c]) = [c] := by
      intro c hc
      apply if_neg
      rintro rfl
      obtain ⟨front, back, hl⟩ := List.append_of_mem hc
      exact hnone front back (by simpa using hl)
    rw [withReturns, List.flatMap_congr hchars]
    exact List.flatMap_singleton' l
  induction limit generalizing text with
  | zero =>
      obtain rfl := List.length_eq_zero_iff.mp (Nat.le_zero.mp hlimit)
      rfl
  | succ limit ih =>
      cases hfound : splitFirst ['\n'] text with
      | none => simp only [replaceN, hfound, hplain text hfound]
      | some parts =>
          obtain ⟨before, behind⟩ := parts
          obtain ⟨hsplit, hfirst⟩ := splitFirst_eq_some (by simp) hfound
          have hshorter := length_behind_lt (by simp) hfound
          have hbefore : splitFirst ['\n'] before = none := by
            rw [splitFirst_eq_none (by simp)]
            rintro front back rfl
            have hlength := hfirst front (back ++ ['\n'] ++ behind) (by simp [hsplit])
            simp only [List.length_append, List.length_singleton] at hlength
            omega
          simp only [replaceN, hfound]
          rw [ih (by omega), hsplit]
          simp only [withReturns, List.flatMap_append] at hplain ⊢
          rw [hplain before hbefore]
          rfl

theorem feed_of_crlfOnly (h : CrlfOnly text) (hfeed : '\n' ∈ text) :
    ∃ front back, text = front ++ ['\r', '\n'] ++ back := by
  induction h with
  | nil => simp at hfeed
  | char c rest _ hother _ ih =>
      rcases List.mem_cons.mp hfeed with hsame | hrest
      · exact absurd hsame.symm hother
      · obtain ⟨front, back, rfl⟩ := ih hrest
        exact ⟨c :: front, back, rfl⟩
  | pair rest _ _ => exact ⟨[], rest, rfl⟩

/-- The CRLF pairs of a text that has no other breaks are its line feeds. -/
theorem countMatches_crlf (h : CrlfOnly text) {bound : Nat} (hbound : text.length ≤ bound) :
    countMatches ['\r', '\n'] bound text = text.count '\n' := by
  have hpair : OneKindOfBreaks ['\r', '\n'] := .inr (.pair [] .nil)
  have hfree : ∀ l : List Char, CrlfOnly l → splitFirst ['\r', '\n'] l = none →
      l.count '\n' = 0 := by
    intro l hl hnone
    rw [List.count_eq_zero]
    intro hfeed
    obtain ⟨front, back, hsplit⟩ := feed_of_crlfOnly hl hfeed
    exact (splitFirst_eq_none (by simp)).mp hnone front back hsplit
  induction bound generalizing text with
  | zero =>
      obtain rfl := List.length_eq_zero_iff.mp (Nat.le_zero.mp hbound)
      rfl
  | succ bound ih =>
      cases hfound : splitFirst ['\r', '\n'] text with
      | none => simp [countMatches, hfound, hfree text h hfound]
      | some parts =>
          obtain ⟨before, behind⟩ := parts
          obtain ⟨hsplit, hfirst⟩ := splitFirst_eq_some (by simp) hfound
          have hshorter := length_behind_lt (by simp) hfound
          have hread := readBreaks_of_crlfOnly h
          rw [hsplit, readBreaks_append, readBreaks_append] at hread
          simp only [Option.bind_eq_some_iff] at hread
          obtain ⟨after, ⟨within, hbefore, hmiddle⟩, hbehind⟩ := hread
          obtain ⟨rfl, rfl⟩ := readBreaks_oneKind hpair (by simp) hmiddle
          have hnone : splitFirst ['\r', '\n'] before = none := by
            have hpieces : ∀ piece ∈ matchPieces ['\r', '\n'] (bound + 1) text,
                splitFirst ['\r', '\n'] piece = none := matchPieces_free (by simp) hbound
            exact hpieces before (by simp [matchPieces, hfound])
          have hcount := hfree before ((crlfOnly_iff_readBreaks before).mpr hbefore) hnone
          have hrest := ih ((crlfOnly_iff_readBreaks behind).mpr hbehind) (by omega)
          simp only [countMatches, hfound, hrest]
          rw [hsplit, List.count_append, List.count_append, hcount]
          simp [Nat.add_comm]

end VvAgent
