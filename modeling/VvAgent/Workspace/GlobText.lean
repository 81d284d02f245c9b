import VvAgent.Lib.Utf8Cut
import VvAgent.Lib.Wildcards
import VvAgent.Workspace.Glob

/-!
What a glob pattern means for a text, and how the matching of bytes compares with it. A pattern
is a row of wildcards, the longest one first. The matching cuts the bytes of a path along them,
so that a `?` takes one byte, and not one character.
-/

namespace VvAgent
open Lib

/-- The wildcards of a pattern, the longest one first. -/
def globTokens : List Char → List (Wildcard Char)
  | [] => []
  | '*' :: '*' :: '/' :: rest => .front :: globTokens rest
  | '*' :: '*' :: rest => .any :: globTokens rest
  | '*' :: rest => .run :: globTokens rest
  | '?' :: rest => .one :: globTokens rest
  | literal :: rest => .literal literal :: globTokens rest

/-- The wildcards for the bytes of a text. -/
def byteTokens : Wildcard Char → List (Wildcard UInt8)
  | .literal c => (String.utf8EncodeChar c).map .literal
  | .one => [.one]
  | .run => [.run]
  | .any => [.any]
  | .front => [.front]

/-- The pattern can be cut into wildcards that match consecutive parts of the path, character by
character. -/
def GlobMatches (path pattern : String) : Prop :=
  Wildcard.Cut '/' (globTokens pattern.toList) path.toList

/-- The same cut of the bytes of the path. -/
def GlobMatchesBytes (path pattern : String) : Prop :=
  Wildcard.Cut 47 ((globTokens pattern.toList).flatMap byteTokens) (textBytes path.toList)

/-! ### The matching cuts bytes -/

theorem mem_afterSlashes {path rest : List UInt8} :
    rest ∈ afterSlashes path ↔ ∃ before, path = before ++ 47 :: rest := by
  induction path with
  | nil => simp [afterSlashes]
  | cons byte path ih =>
      rw [afterSlashes]
      constructor
      · intro h
        split_ifs at h with hslash
        · rcases List.mem_cons.mp h with rfl | hmem
          · exact ⟨[], by rw [hslash]; rfl⟩
          · obtain ⟨before, rfl⟩ := ih.mp hmem
            exact ⟨byte :: before, rfl⟩
        · obtain ⟨before, rfl⟩ := ih.mp h
          exact ⟨byte :: before, rfl⟩
      · rintro ⟨before, heq⟩
        cases before with
        | nil =>
            obtain ⟨rfl, rfl⟩ := List.cons.inj heq
            simp
        | cons first before =>
            obtain ⟨rfl, rfl⟩ := List.cons.inj heq
            have hmem := ih.mpr ⟨before, rfl⟩
            split_ifs
            · exact List.mem_cons_of_mem _ hmem
            · exact hmem

theorem mem_withinSegment {path rest : List UInt8} :
    rest ∈ withinSegment path ↔ ∃ before, before ≠ [] ∧ 47 ∉ before ∧ path = before ++ rest := by
  induction path with
  | nil => simp [withinSegment]
  | cons byte path ih =>
      rw [withinSegment]
      constructor
      · intro h
        split_ifs at h with hslash
        · cases h
        · rcases List.mem_cons.mp h with rfl | hmem
          · exact ⟨[byte], by simp, by simpa using fun heq => hslash heq.symm, rfl⟩
          · obtain ⟨before, _, hfree, rfl⟩ := ih.mp hmem
            refine ⟨byte :: before, by simp, ?_, rfl⟩
            rw [List.mem_cons, not_or]
            exact ⟨fun heq => hslash heq.symm, hfree⟩
      · rintro ⟨before, hsome, hfree, heq⟩
        cases before with
        | nil => exact absurd rfl hsome
        | cons first before =>
            obtain ⟨rfl, rfl⟩ := List.cons.inj heq
            rw [List.mem_cons, not_or] at hfree
            rw [if_neg fun heq => hfree.1 heq.symm, List.mem_cons]
            cases before with
            | nil => exact .inl rfl
            | cons second before =>
                exact .inr (ih.mpr ⟨second :: before, by simp, hfree.2, rfl⟩)

theorem textBytes_star (rest : List Char) : textBytes ('*' :: rest) = 42 :: textBytes rest := rfl

theorem textBytes_slash (rest : List Char) : textBytes ('/' :: rest) = 47 :: textBytes rest := rfl

theorem textBytes_question (rest : List Char) : textBytes ('?' :: rest) = 63 :: textBytes rest :=
  rfl

/-- The bytes of a text start with an ASCII byte only where the text starts with its character. -/
theorem of_textBytes_cons {text : List Char} {c : Char} {byte : UInt8} {rest : List UInt8}
    (hc : String.utf8EncodeChar c = [byte]) (h : textBytes text = byte :: rest) :
    ∃ tail, text = c :: tail ∧ rest = textBytes tail := by
  have hfront : textBytes text = textBytes [c] ++ rest := by
    rw [textBytes_cons, hc, h]
    rfl
  obtain ⟨tail, rfl, htail⟩ := textBytes_prefix [c] text rest hfront
  exact ⟨tail, rfl, htail⟩

/-- A character that is no wildcard has no byte of one. -/
theorem utf8EncodeChar_plain {c : Char} (hstar : c ≠ '*') (hquestion : c ≠ '?') :
    ∀ byte ∈ String.utf8EncodeChar c, byte ≠ 42 ∧ byte ≠ 63 := by
  intro byte hbyte
  constructor
  · rintro rfl
    have hcode := mem_utf8EncodeChar_ascii (by decide) hbyte
    exact hstar (Char.toNat_inj.mp hcode)
  · rintro rfl
    have hcode := mem_utf8EncodeChar_ascii (by decide) hbyte
    exact hquestion (Char.toNat_inj.mp hcode)

theorem globMatchBytes_one (path rest : List UInt8) :
    globMatchBytes path (63 :: rest) = true ↔
      ∃ byte tail, byte ≠ 47 ∧ path = byte :: tail ∧ globMatchBytes tail rest = true := by
  cases path with
  | nil =>
      rw [globMatchBytes] <;> simp
  | cons byte path =>
      rw [globMatchBytes, Bool.and_eq_true, bne_iff_ne]
      constructor
      · rintro ⟨hslash, hmatch⟩
        exact ⟨byte, path, hslash, rfl, hmatch⟩
      · rintro ⟨first, tail, hslash, heq, hmatch⟩
        obtain ⟨rfl, rfl⟩ := List.cons.inj heq
        exact ⟨hslash, hmatch⟩

/-- The matching of bytes finds a cut of the bytes where there is one. -/
theorem globMatchBytes_iff (pattern : List Char) (path : List UInt8) :
    globMatchBytes path (textBytes pattern) = true ↔
      Wildcard.Cut 47 ((globTokens pattern).flatMap byteTokens) path := by
  fun_induction globTokens pattern generalizing path with
  | case1 =>
      rw [textBytes_nil, globMatchBytes, List.isEmpty_iff]
      exact Wildcard.cut_nil.symm
  | case2 rest ih =>
      rw [textBytes_star, textBytes_star, textBytes_slash, globMatchBytes, Bool.or_eq_true,
        List.any_eq_true, ih, List.flatMap_cons, byteTokens, List.singleton_append,
        Wildcard.cut_cons]
      constructor
      · rintro (hwhole | ⟨after, hafter, hmatch⟩)
        · exact ⟨[], path, .inl rfl, hwhole, rfl⟩
        · obtain ⟨before, rfl⟩ := mem_afterSlashes.mp hafter
          exact ⟨before ++ [47], after, .inr ⟨before, rfl⟩, (ih after).mp hmatch, by simp⟩
      · rintro ⟨part, after, rfl | ⟨before, rfl⟩, hcut, rfl⟩
        · exact .inl hcut
        · refine .inr ⟨after, mem_afterSlashes.mpr ⟨before, by simp⟩, (ih after).mpr hcut⟩
  | case3 rest hslash ih =>
      rw [textBytes_star, textBytes_star, globMatchBytes, List.any_eq_true, List.flatMap_cons,
        byteTokens, List.singleton_append, Wildcard.cut_cons]
      · constructor
        · rintro ⟨after, hafter, hmatch⟩
          obtain ⟨before, rfl⟩ := (List.mem_tails _ _).mp hafter
          exact ⟨before, after, trivial, (ih after).mp hmatch, rfl⟩
        · rintro ⟨before, after, _, hcut, rfl⟩
          exact ⟨after, (List.mem_tails _ _).mpr (List.suffix_append _ _), (ih after).mpr hcut⟩
      · intro tail heq
        obtain ⟨rest', rfl, _⟩ := of_textBytes_cons (c := '/') rfl heq
        exact hslash rest' rfl
  | case4 rest hfront hstar ih =>
      rw [textBytes_star, globMatchBytes, Bool.or_eq_true, List.any_eq_true, ih,
        List.flatMap_cons, byteTokens, List.singleton_append, Wildcard.cut_cons]
      · constructor
        · rintro (hwhole | ⟨after, hafter, hmatch⟩)
          · exact ⟨[], path, by simp [Wildcard.Takes], hwhole, rfl⟩
          · obtain ⟨before, _, hfree, rfl⟩ := mem_withinSegment.mp hafter
            exact ⟨before, after, hfree, (ih after).mp hmatch, rfl⟩
        · rintro ⟨before, after, hfree, hcut, rfl⟩
          by_cases hnone : before = []
          · rw [hnone]
            exact .inl hcut
          · exact .inr ⟨after, mem_withinSegment.mpr ⟨before, hnone, hfree, rfl⟩,
              (ih after).mpr hcut⟩
      · intro tail heq
        obtain ⟨rest', hrest, _⟩ := of_textBytes_cons (c := '*') rfl heq
        exact hstar rest' hrest
      · intro tail heq
        obtain ⟨rest', hrest, _⟩ := of_textBytes_cons (c := '*') rfl heq
        exact hstar rest' hrest
  | case5 rest ih =>
      rw [textBytes_question, globMatchBytes_one, List.flatMap_cons, byteTokens,
        List.singleton_append, Wildcard.cut_cons]
      constructor
      · rintro ⟨byte, tail, hslash, rfl, hmatch⟩
        exact ⟨[byte], tail, ⟨byte, hslash, rfl⟩, (ih tail).mp hmatch, rfl⟩
      · rintro ⟨_, tail, ⟨byte, hslash, rfl⟩, hcut, rfl⟩
        exact ⟨byte, tail, hslash, rfl, (ih tail).mpr hcut⟩
  | case6 literal rest hfront hstars hstar hquestion ih =>
      rw [textBytes_cons, globMatchBytes_append _ _ _ (utf8EncodeChar_plain hstar hquestion),
        List.flatMap_cons, byteTokens, Wildcard.cut_literals]
      constructor
      · rintro ⟨tail, rfl, hmatch⟩
        exact ⟨tail, (ih tail).mp hmatch, rfl⟩
      · rintro ⟨tail, hcut, rfl⟩
        exact ⟨tail, rfl, (ih tail).mpr hcut⟩

/-! ### Bytes and characters -/

/-- Nothing tells bytes from characters: the text is ASCII, or no wildcard takes a single one. -/
def ByteWise (tokens : List (Wildcard Char)) (text : List Char) : Prop :=
  .one ∉ tokens ∨ ∀ c ∈ text, c.toNat < 128

theorem slash_mem_textBytes {text : List Char} (h : '/' ∈ text) : 47 ∈ textBytes text :=
  List.mem_flatMap.mpr ⟨'/', h, by decide⟩

theorem slash_of_mem {c : Char} (h : 47 ∈ String.utf8EncodeChar c) : c = '/' :=
  Char.toNat_inj.mp (mem_utf8EncodeChar_ascii (by decide) h)

theorem slash_of_mem_textBytes {text : List Char} (h : 47 ∈ textBytes text) : '/' ∈ text := by
  obtain ⟨c, hc, hbyte⟩ := List.mem_flatMap.mp h
  rw [← slash_of_mem hbyte]
  exact hc

theorem ByteWise.tail {token : Wildcard Char} {tokens : List (Wildcard Char)} {text rest : List Char}
    (h : ByteWise (token :: tokens) text) (hrest : ∀ c ∈ rest, c ∈ text) : ByteWise tokens rest := by
  rcases h with hone | hascii
  · exact .inl fun hmem => hone (List.mem_cons_of_mem _ hmem)
  · exact .inr fun c hc => hascii c (hrest c hc)

/-- A cut of the characters is a cut of the bytes. -/
theorem bytes_of_cut {tokens : List (Wildcard Char)} {text : List Char} (hplain : ByteWise tokens text)
    (h : Wildcard.Cut '/' tokens text) :
    Wildcard.Cut 47 (tokens.flatMap byteTokens) (textBytes text) := by
  induction tokens generalizing text with
  | nil =>
      rw [Wildcard.cut_nil.mp h]
      exact Wildcard.cut_nil.mpr rfl
  | cons token tokens ih =>
      obtain ⟨part, rest, hpart, hrest, rfl⟩ := Wildcard.cut_cons.mp h
      have hlater := ih (hplain.tail fun c hc => List.mem_append_right _ hc) hrest
      rw [List.flatMap_cons, textBytes_append]
      cases token with
      | literal c =>
          obtain rfl : part = [c] := hpart
          exact Wildcard.cut_literals.mpr ⟨_, hlater, by simp [textBytes_cons]⟩
      | one =>
          obtain ⟨c, hslash, rfl⟩ := hpart
          obtain hone | hascii := hplain
          · simp at hone
          · have hbyte := utf8EncodeChar_ascii (hascii c (by simp))
            refine Wildcard.cut_cons.mpr ⟨textBytes [c], _, ⟨.ofNat c.toNat, ?_, ?_⟩, hlater, rfl⟩
            · intro heq
              rw [heq] at hbyte
              exact hslash (slash_of_mem (by simp [hbyte]))
            · rw [textBytes_cons, hbyte]
              rfl
      | run =>
          exact Wildcard.cut_cons.mpr
            ⟨_, _, fun hmem => hpart (slash_of_mem_textBytes hmem), hlater, rfl⟩
      | any => exact Wildcard.cut_cons.mpr ⟨_, _, trivial, hlater, rfl⟩
      | front =>
          refine Wildcard.cut_cons.mpr ⟨_, _, ?_, hlater, rfl⟩
          rcases hpart with rfl | ⟨before, rfl⟩
          · exact .inl rfl
          · exact .inr ⟨textBytes before, by rw [textBytes_append]; rfl⟩

/-- A cut that starts inside a character falls behind the remainder of it or inside another one. -/
theorem cut_behind {bytes part rest : List UInt8} {text : List Char}
    (h : bytes ++ textBytes text = part ++ rest) :
    (∃ back, bytes = part ++ back ∧ rest = back ++ textBytes text) ∨
      ∃ before c after front back, text = before ++ c :: after ∧ front ≠ [] ∧
        String.utf8EncodeChar c = front ++ back ∧ part = bytes ++ textBytes before ++ front ∧
        rest = back ++ textBytes after := by
  rcases List.append_eq_append_iff.mp h with ⟨later, rfl, hlater⟩ | ⟨back, rfl, rfl⟩
  · by_cases hnone : later = []
    · subst hnone
      exact .inl ⟨[], by simp, by simpa using hlater.symm⟩
    · obtain ⟨before, c, after, front, back, rfl, hfront, hc, rfl, rfl⟩ :=
        cut_textBytes hlater hnone
      exact .inr ⟨before, c, after, front, back, rfl, hfront, hc,
        by rw [List.append_assoc], rfl⟩
  · exact .inl ⟨back, rfl, rfl⟩

/-- A cut of the bytes behind the start of a character gives a cut of the characters behind it:
what a wildcard takes of a character, it takes whole. -/
theorem cut_of_bytes {tokens : List (Wildcard Char)} {text : List Char} {bytes : List UInt8}
    (hbytewise : .one ∉ tokens ∨ ((∀ c ∈ text, c.toNat < 128) ∧ bytes = []))
    (htail : Utf8Tail bytes)
    (h : Wildcard.Cut 47 (tokens.flatMap byteTokens) (bytes ++ textBytes text)) :
    Wildcard.Cut '/' tokens text := by
  induction tokens generalizing text bytes with
  | nil =>
      obtain ⟨_, htext⟩ := List.append_eq_nil_iff.mp (Wildcard.cut_nil.mp h)
      obtain rfl : text = [] := textBytes_inj htext
      exact Wildcard.cut_nil.mpr rfl
  | cons token tokens ih =>
      rw [List.flatMap_cons] at h
      -- the rest is cut behind the remainder, or behind the character that is cut
      have hinside : ∀ part back, bytes = part ++ back →
          Wildcard.Cut 47 (tokens.flatMap byteTokens) (back ++ textBytes text) →
          Wildcard.Cut '/' tokens text := by
        rintro part back rfl hcut
        refine ih ?_ htail.of_append hcut
        rcases hbytewise with hone | ⟨hascii, hnone⟩
        · exact .inl fun hmem => hone (List.mem_cons_of_mem _ hmem)
        · exact .inr ⟨hascii, (List.append_eq_nil_iff.mp hnone).2⟩
      have hbehind : ∀ before c after front back, text = before ++ c :: after → front ≠ [] →
          String.utf8EncodeChar c = front ++ back →
          Wildcard.Cut 47 (tokens.flatMap byteTokens) (back ++ textBytes after) →
          Wildcard.Cut '/' tokens after := by
        rintro before c after front back rfl hfront hc hcut
        refine ih ?_ ⟨c, front, hfront, hc⟩ hcut
        rcases hbytewise with hone | ⟨hascii, _⟩
        · exact .inl fun hmem => hone (List.mem_cons_of_mem _ hmem)
        · refine .inr ⟨fun d hd => hascii d (by simp [hd]), ?_⟩
          exact (ascii_cut (hascii c (by simp)) hc hfront).2
      cases token with
      | literal d =>
          obtain ⟨rest, hcut, heq⟩ := Wildcard.cut_literals.mp h
          obtain rfl := htail.eq_nil heq
          rw [List.nil_append] at heq
          obtain ⟨after, rfl, rfl⟩ := textBytes_prefix [d] text rest (by simpa [textBytes] using heq)
          have hlater := hbehind [] d after (String.utf8EncodeChar d) [] rfl
            String.utf8EncodeChar_ne_nil (List.append_nil _).symm hcut
          exact Wildcard.cut_cons.mpr ⟨[d], after, rfl, hlater, rfl⟩
      | one =>
          obtain hone | ⟨hascii, rfl⟩ := hbytewise
          · simp at hone
          obtain ⟨part, rest, ⟨byte, hslash, rfl⟩, hcut, heq⟩ := Wildcard.cut_cons.mp h
          rcases cut_behind heq with ⟨back, hback, _⟩ | ⟨before, c, after, front, back, rfl, hfront,
            hc, hpart, rfl⟩
          · simp at hback
          · have hlater := hbehind before c after front back rfl hfront hc hcut
            have hlength := congrArg List.length hpart
            have hpositive := List.length_pos_of_ne_nil hfront
            simp only [List.nil_append, List.length_singleton, List.length_append] at hlength
            have hnone : (textBytes before).length = 0 := by omega
            obtain rfl : before = [] := textBytes_inj (List.length_eq_zero_iff.mp hnone)
            refine Wildcard.cut_cons.mpr ⟨[c], after, ⟨c, ?_, rfl⟩, hlater, rfl⟩
            rintro rfl
            rw [List.nil_append, textBytes_nil, List.nil_append,
              (ascii_cut (by decide) hc hfront).1] at hpart
            exact hslash (List.cons.inj hpart).1
      | run =>
          obtain ⟨part, rest, hpart, hcut, heq⟩ := Wildcard.cut_cons.mp h
          rcases cut_behind heq with ⟨back, hback, rfl⟩ | ⟨before, c, after, front, back, rfl, hfront,
            hc, rfl, rfl⟩
          · exact Wildcard.cut_cons.mpr
              ⟨[], text, by simp [Wildcard.Takes], hinside part back hback hcut, rfl⟩
          · refine Wildcard.cut_cons.mpr ⟨before ++ [c], after, ?_,
              hbehind before c after front back rfl hfront hc hcut, by simp⟩
            intro hslash
            apply hpart
            rcases List.mem_append.mp hslash with hbefore | hmem
            · simp [slash_mem_textBytes hbefore]
            · obtain rfl := List.mem_singleton.mp hmem
              rw [(ascii_cut (by decide) hc hfront).1]
              exact List.mem_append_right _ (by decide)
      | any =>
          obtain ⟨part, rest, hpart, hcut, heq⟩ := Wildcard.cut_cons.mp h
          rcases cut_behind heq with ⟨back, hback, rfl⟩ | ⟨before, c, after, front, back, rfl, hfront,
            hc, rfl, rfl⟩
          · exact Wildcard.cut_cons.mpr ⟨[], text, trivial, hinside part back hback hcut, rfl⟩
          · exact Wildcard.cut_cons.mpr ⟨before ++ [c], after, trivial,
              hbehind before c after front back rfl hfront hc hcut, by simp⟩
      | front =>
          obtain ⟨_, rest, rfl | ⟨head, rfl⟩, hcut, heq⟩ := Wildcard.cut_cons.mp h
          · rw [List.nil_append] at heq
            rw [← heq] at hcut
            exact Wildcard.cut_cons.mpr ⟨[], text, .inl rfl, hinside [] bytes rfl hcut, rfl⟩
          · rcases cut_behind heq with ⟨back, rfl, _⟩ | ⟨before, c, after, front, back, rfl, hfront,
              hc, hpart, rfl⟩
            · exact absurd (by simp) (htail.not_ascii (by decide : (47 : UInt8).toNat < 128))
            · have hlast := congrArg List.getLast? hpart
              rw [List.getLast?_concat, List.getLast?_append_of_ne_nil _ hfront] at hlast
              obtain rfl : c = '/' := by
                apply slash_of_mem
                rw [hc]
                exact List.mem_append_left _ (List.mem_of_getLast? hlast.symm)
              exact Wildcard.cut_cons.mpr ⟨before ++ ['/'], after, .inr ⟨before, rfl⟩,
                hbehind before '/' after front back rfl hfront hc hcut, by simp⟩

/-! ### Where the matching is that of characters -/

theorem one_not_mem_globTokens {pattern : List Char} (h : '?' ∉ pattern) :
    .one ∉ globTokens pattern := by
  fun_induction globTokens pattern with
  | case1 => simp
  | case2 rest ih => simpa using ih (by simp_all)
  | case3 rest _ ih => simpa using ih (by simp_all)
  | case4 rest _ _ ih => simpa using ih (by simp_all)
  | case5 rest _ => simp at h
  | case6 literal rest _ _ _ _ ih => simpa using ih (by simp_all)

/-- The separators of a path, and a `?` for each other character. -/
def outline (path : List Char) : List Char := path.map fun c => if c = '/' then '/' else '?'

theorem globTokens_outline (path : List Char) :
    globTokens (outline path) =
      path.map fun c => if c = '/' then Wildcard.literal '/' else Wildcard.one := by
  induction path with
  | nil => rfl
  | cons c path ih =>
      unfold outline at ih ⊢
      rw [List.map_cons, List.map_cons]
      by_cases hslash : c = '/'
      · rw [if_pos hslash, if_pos hslash, globTokens, ih] <;> simp
      · rw [if_neg hslash, if_neg hslash, globTokens, ih]

theorem cut_outline (path : List Char) : Wildcard.Cut '/' (globTokens (outline path)) path := by
  rw [globTokens_outline]
  induction path with
  | nil => exact Wildcard.cut_nil.mpr rfl
  | cons c path ih =>
      rw [List.map_cons]
      refine Wildcard.cut_cons.mpr ⟨[c], path, ?_, ih, rfl⟩
      by_cases hslash : c = '/'
      · rw [if_pos hslash, hslash]
        rfl
      · rw [if_neg hslash]
        exact ⟨c, hslash, rfl⟩

theorem byteTokens_outline (path : List Char) :
    (globTokens (outline path)).flatMap byteTokens =
      path.map fun c => if c = '/' then Wildcard.literal 47 else Wildcard.one := by
  rw [globTokens_outline]
  induction path with
  | nil => rfl
  | cons c path ih =>
      rw [List.map_cons, List.map_cons, List.flatMap_cons, ih]
      split_ifs <;> rfl

/-- Each wildcard of an outline takes one byte. -/
theorem length_of_outline {path : List Char} {bytes : List UInt8}
    (h : Wildcard.Cut 47 ((globTokens (outline path)).flatMap byteTokens) bytes) :
    bytes.length = path.length := by
  rw [byteTokens_outline] at h
  rw [Wildcard.length_of_cut _ h, List.length_map]
  intro wildcard hmem
  obtain ⟨c, _, rfl⟩ := List.mem_map.mp hmem
  split_ifs
  · exact .inr ⟨47, rfl⟩
  · exact .inl rfl

/-- The matching is right about a path and a pattern exactly where a cut of the bytes says the
same as a cut of the characters. It is so for every ASCII path and for every pattern without a
`?`, and no other path has it for all patterns. -/
theorem glob_match_iff (path pattern : String) :
    ((globMatch path pattern = true ↔ GlobMatches path pattern) ↔
      (GlobMatchesBytes path pattern ↔ GlobMatches path pattern)) ∧
    (((∀ c ∈ path.toList, c.toNat < 128) ∨ '?' ∉ pattern.toList) →
      (globMatch path pattern = true ↔ GlobMatches path pattern)) ∧
    ((∀ other, globMatch path other = true ↔ GlobMatches path other) ↔
      ∀ c ∈ path.toList, c.toNat < 128) := by
  have hbytes : ∀ other, globMatch path other = true ↔ GlobMatchesBytes path other :=
    fun other => globMatchBytes_iff other.toList (textBytes path.toList)
  have hsame : ∀ other : String,
      ((∀ c ∈ path.toList, c.toNat < 128) ∨ '?' ∉ other.toList) →
      (globMatch path other = true ↔ GlobMatches path other) := by
    intro other hplain
    rw [hbytes]
    constructor
    · intro hcut
      refine cut_of_bytes ?_ utf8Tail_nil hcut
      rcases hplain with hascii | hquestion
      · exact .inr ⟨hascii, rfl⟩
      · exact .inl (one_not_mem_globTokens hquestion)
    · intro hcut
      refine bytes_of_cut ?_ hcut
      rcases hplain with hascii | hquestion
      · exact .inr hascii
      · exact .inl (one_not_mem_globTokens hquestion)
  refine ⟨by rw [hbytes], hsame pattern, ?_, fun hascii other => hsame other (.inl hascii)⟩
  intro hall
  apply ascii_of_length
  apply length_of_outline
  have hshape := hall (.ofList (outline path.toList))
  rw [hbytes, GlobMatchesBytes, GlobMatches, String.toList_ofList] at hshape
  exact hshape.mpr (cut_outline path.toList)

/-- A `?` does not take a character of two bytes. -/
theorem question_misses_character :
    ¬ ∀ path pattern : String, globMatch path pattern = true ↔ GlobMatches path pattern := by
  intro h
  have hcut : GlobMatches "é" "?" :=
    ⟨[['é']], .cons ⟨'é', by decide, rfl⟩ .nil, rfl⟩
  have hmatch : globMatch "é" "?" = false := by decide
  rw [(h "é" "?").mpr hcut] at hmatch
  cases hmatch

end VvAgent
