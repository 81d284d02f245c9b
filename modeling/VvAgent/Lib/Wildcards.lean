import Mathlib.Data.List.Forall2

/-!
Texts cut along a row of wildcards: each wildcard takes a part, and the parts in their order are
the text. The units of the text are left open, so that bytes and characters can be compared.
-/

namespace VvAgent.Lib

/-- `literal` takes itself, `one` a unit other than the separator, `run` units without a
separator, `any` any units, and `front` nothing or units up to a separator. -/
inductive Wildcard (α : Type) where
  | literal (unit : α)
  | one
  | run
  | any
  | front
  deriving DecidableEq

namespace Wildcard
variable {α : Type} (separator : α)

def Takes : Wildcard α → List α → Prop
  | literal unit, part => part = [unit]
  | one, part => ∃ unit, unit ≠ separator ∧ part = [unit]
  | run, part => separator ∉ part
  | any, _ => True
  | front, part => part = [] ∨ ∃ before, part = before ++ [separator]

/-- The text can be cut into parts that the wildcards take one after the other. -/
def Cut (wildcards : List (Wildcard α)) (text : List α) : Prop :=
  ∃ parts, List.Forall₂ (Takes separator) wildcards parts ∧ parts.flatten = text

variable {separator}

theorem cut_nil {text : List α} : Cut separator [] text ↔ text = [] := by
  constructor
  · rintro ⟨parts, hparts, rfl⟩
    cases hparts
    rfl
  · rintro rfl
    exact ⟨[], .nil, rfl⟩

theorem cut_cons {wildcard : Wildcard α} {wildcards : List (Wildcard α)} {text : List α} :
    Cut separator (wildcard :: wildcards) text ↔
      ∃ part rest, Takes separator wildcard part ∧ Cut separator wildcards rest ∧
        text = part ++ rest := by
  constructor
  · rintro ⟨parts, hparts, rfl⟩
    cases hparts with
    | cons hpart hrest => exact ⟨_, _, hpart, ⟨_, hrest, rfl⟩, rfl⟩
  · rintro ⟨part, rest, hpart, ⟨parts, hparts, rfl⟩, rfl⟩
    exact ⟨part :: parts, .cons hpart hparts, rfl⟩

/-- Literals in a row take themselves. -/
theorem cut_literals {units : List α} {wildcards : List (Wildcard α)} {text : List α} :
    Cut separator (units.map literal ++ wildcards) text ↔
      ∃ rest, Cut separator wildcards rest ∧ text = units ++ rest := by
  induction units generalizing text with
  | nil => simp
  | cons unit units ih =>
      rw [List.map_cons, List.cons_append, cut_cons]
      constructor
      · rintro ⟨part, rest, rfl, hrest, rfl⟩
        obtain ⟨rest, hcut, rfl⟩ := ih.mp hrest
        exact ⟨rest, hcut, rfl⟩
      · rintro ⟨rest, hcut, rfl⟩
        exact ⟨[unit], units ++ rest, rfl, ih.mpr ⟨rest, hcut, rfl⟩, rfl⟩

/-- Wildcards that take one unit each take as many units as they are. -/
theorem length_of_cut {wildcards : List (Wildcard α)} {text : List α}
    (hsingle : ∀ wildcard ∈ wildcards, wildcard = one ∨ ∃ unit, wildcard = literal unit)
    (h : Cut separator wildcards text) : text.length = wildcards.length := by
  induction wildcards generalizing text with
  | nil =>
      rw [cut_nil.mp h]
      rfl
  | cons wildcard wildcards ih =>
      obtain ⟨part, rest, hpart, hrest, rfl⟩ := cut_cons.mp h
      have hlength : part.length = 1 := by
        rcases hsingle wildcard (by simp) with rfl | ⟨unit, rfl⟩
        · obtain ⟨unit, _, rfl⟩ := hpart
          rfl
        · rw [hpart]
          rfl
      have hlater := ih (fun other hother => hsingle other (by simp [hother])) hrest
      rw [List.length_append, List.length_cons]
      omega

end Wildcard

end VvAgent.Lib
