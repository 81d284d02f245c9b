import VvAgent.Workspace.Backend
import VvAgent.Lib.Utf8
import Mathlib.Data.List.Infix

/-!
Matching of workspace paths against glob patterns, byte by byte. A pattern that starts with
plain bytes takes them off the path. A pattern that starts with a wildcard matches the text of
its own front too, and a text that differs from that front where the wildcard stands.
-/

namespace VvAgent
open Lib

/-- What follows each separator of a path. -/
def afterSlashes : List UInt8 → List (List UInt8)
  | [] => []
  | byte :: rest => if byte = 47 then rest :: afterSlashes rest else afterSlashes rest

/-- What is left of a path after one or more bytes of its first segment. -/
def withinSegment : List UInt8 → List (List UInt8)
  | [] => []
  | byte :: rest => if byte = 47 then [] else rest :: withinSegment rest

/-- The bytes 42, 47 and 63 are `*`, `/` and `?`. -/
def globMatchBytes : List UInt8 → List UInt8 → Bool
  | path, [] => path.isEmpty
  | path, 42 :: 42 :: 47 :: rest =>
      globMatchBytes path rest || (afterSlashes path).any (globMatchBytes · rest)
  | path, 42 :: 42 :: rest => path.tails.any (globMatchBytes · rest)
  | path, 42 :: rest =>
      globMatchBytes path rest || (withinSegment path).any (globMatchBytes · rest)
  | [], _ => false
  | byte :: path, 63 :: rest => byte != 47 && globMatchBytes path rest
  | byte :: path, literal :: rest => byte == literal && globMatchBytes path rest
  termination_by structural _ pattern => pattern

def globMatch (path pattern : String) : Bool :=
  globMatchBytes (textBytes path.toList) (textBytes pattern.toList)

/-- The pattern a caller's glob stands for. -/
def normalizedGlobPattern (glob : String) : String :=
  let pattern := trimWhitespace glob.toList
  if pattern = [] then "**/*"
  else .ofList (pattern.map fun c => if c = '\\' then '/' else c)

theorem globMatchBytes_literal (byte : UInt8) (path rest : List UInt8) (hstar : byte ≠ 42)
    (hquestion : byte ≠ 63) :
    globMatchBytes path (byte :: rest) = true ↔
      ∃ tail, path = byte :: tail ∧ globMatchBytes tail rest = true := by
  cases path with
  | nil =>
      rw [globMatchBytes] <;> simp_all
  | cons first tail =>
      rw [globMatchBytes]
      · constructor
        · intro h
          simp only [Bool.and_eq_true, beq_iff_eq] at h
          exact ⟨tail, by rw [h.1], h.2⟩
        · rintro ⟨tail', heq, h⟩
          obtain ⟨rfl, rfl⟩ := List.cons.inj heq
          simp [h]
      all_goals simp_all

/-- Plain bytes at the front of a pattern stand at the front of every path it matches. -/
theorem globMatchBytes_append (front path rest : List UInt8)
    (hplain : ∀ byte ∈ front, byte ≠ 42 ∧ byte ≠ 63) :
    globMatchBytes path (front ++ rest) = true ↔
      ∃ tail, path = front ++ tail ∧ globMatchBytes tail rest = true := by
  induction front generalizing path with
  | nil => simp
  | cons byte front ih =>
      obtain ⟨hstar, hquestion⟩ := hplain byte (by simp)
      have hrest : ∀ byte ∈ front, byte ≠ 42 ∧ byte ≠ 63 := fun b hb => hplain b (by simp [hb])
      rw [List.cons_append, globMatchBytes_literal byte path _ hstar hquestion]
      constructor
      · rintro ⟨tail, rfl, h⟩
        obtain ⟨tail', rfl, hmatch⟩ := (ih tail hrest).mp h
        exact ⟨tail', rfl, hmatch⟩
      · rintro ⟨tail, rfl, h⟩
        exact ⟨front ++ tail, rfl, (ih _ hrest).mpr ⟨tail, rfl, h⟩⟩

theorem globMatchBytes_question (byte : UInt8) (path rest : List UInt8) (hslash : byte ≠ 47)
    (h : globMatchBytes path rest = true) :
    globMatchBytes (byte :: path) (63 :: rest) = true := by
  rw [globMatchBytes]
  simp [hslash, h]

/-- One byte of the path under a `*`, with the next byte of the pattern a plain one. -/
theorem globMatchBytes_star (byte : UInt8) (path rest : List UInt8) (hslash : byte ≠ 47)
    (hnext : rest.head? ≠ some 42) (h : globMatchBytes path rest = true) :
    globMatchBytes (byte :: path) (42 :: rest) = true := by
  rw [globMatchBytes]
  · simp [withinSegment, hslash, h]
  all_goals
    rintro tail rfl
    simp at hnext

/-- Two bytes of the path, or two and a separator, under a `**`. -/
theorem globMatchBytes_stars (first second : UInt8) (path front rest : List UInt8)
    (hfront : front ≠ [])
    (h : ∀ before, before <:+ front → globMatchBytes (before ++ path) (before ++ rest) = true) :
    globMatchBytes (first :: second :: (front ++ path)) (42 :: 42 :: (front ++ rest)) = true := by
  cases front with
  | nil => exact absurd rfl hfront
  | cons byte front =>
      by_cases hslash : byte = 47
      · subst hslash
        have hinner := h front (List.suffix_cons 47 front)
        rw [List.cons_append, List.cons_append, globMatchBytes]
        have hafter : front ++ path ∈ afterSlashes (first :: second :: 47 :: (front ++ path)) := by
          simp only [afterSlashes]
          split_ifs <;> simp
        simp only [Bool.or_eq_true, List.any_eq_true]
        exact Or.inr ⟨front ++ path, hafter, hinner⟩
      · have hinner := h (byte :: front) (List.suffix_refl _)
        rw [globMatchBytes]
        · have htail : byte :: front ++ path <:+ first :: second :: (byte :: front ++ path) :=
            (List.suffix_cons _ _).trans (List.suffix_cons _ _)
          rw [List.any_eq_true]
          exact ⟨byte :: front ++ path, (List.mem_tails _ _).mpr htail, hinner⟩
        · intro tail heq
          simp at heq
          exact hslash heq.1

/-- Any byte but a separator goes under a wildcard, also where a `**` stands. The front ends
with a separator, so that no wildcard of the rest joins one of the front. -/
theorem globMatchBytes_wild (byte wild : UInt8) (front path rest : List UInt8)
    (hwild : wild = 42 ∨ wild = 63) (hslash : byte ≠ 47)
    (h : ∀ before, before <:+ front ++ [47] →
      globMatchBytes (before ++ path) (before ++ rest) = true) :
    globMatchBytes (byte :: (front ++ [47] ++ path)) (wild :: (front ++ [47] ++ rest)) = true := by
  have hwhole := h _ (List.suffix_refl _)
  rcases hwild with rfl | rfl
  · cases front with
    | nil => exact globMatchBytes_star byte _ _ hslash (by simp) hwhole
    | cons next front =>
        by_cases hstar : next = 42
        · subst hstar
          refine globMatchBytes_stars byte 42 path (front ++ [47]) rest (by simp) ?_
          intro before hbefore
          exact h before (hbefore.trans (List.suffix_cons 42 (front ++ [47])))
        · exact globMatchBytes_star byte _ _ hslash (by simpa using hstar) hwhole
  · exact globMatchBytes_question byte _ _ hslash hwhole

/-- A text is matched by itself, read as a pattern, in front of whatever the rest matches. -/
theorem globMatchBytes_self (path rest : List UInt8) (h : globMatchBytes path rest = true)
    (front : List UInt8) : ∀ before, before <:+ front ++ [47] →
      globMatchBytes (before ++ path) (before ++ rest) = true := by
  induction front with
  | nil =>
      intro before hbefore
      rcases List.suffix_cons_iff.mp hbefore with rfl | hnil
      · exact (globMatchBytes_literal 47 _ rest (by decide) (by decide)).mpr ⟨path, rfl, h⟩
      · rw [List.suffix_nil.mp hnil]
        exact h
  | cons byte front ih =>
      intro before hbefore
      rcases List.suffix_cons_iff.mp hbefore with rfl | hsuffix
      · have hwhole := ih _ (List.suffix_refl _)
        by_cases hwild : byte = 42 ∨ byte = 63
        · have hslash : byte ≠ 47 := by
            rintro rfl
            revert hwild
            decide
          exact globMatchBytes_wild byte byte front path rest hwild hslash ih
        · rw [not_or] at hwild
          exact (globMatchBytes_literal byte _ _ hwild.1 hwild.2).mpr ⟨_, rfl, hwhole⟩
      · exact ih before hsuffix

/-- The text that a pattern's first wildcard makes it match besides itself. -/
theorem globMatchBytes_instance (plain front path rest : List UInt8) (byte wild : UInt8)
    (hplain : ∀ byte ∈ plain, byte ≠ 42 ∧ byte ≠ 63) (hwild : wild = 42 ∨ wild = 63)
    (hslash : byte ≠ 47) (h : globMatchBytes path rest = true) :
    globMatchBytes (plain ++ byte :: (front ++ 47 :: path))
      (plain ++ wild :: (front ++ 47 :: rest)) = true := by
  rw [globMatchBytes_append plain _ _ hplain]
  have hinner := globMatchBytes_wild byte wild front path rest hwild hslash
    (globMatchBytes_self path rest h front)
  simp only [List.append_assoc, List.singleton_append] at hinner
  exact ⟨_, rfl, hinner⟩

end VvAgent
