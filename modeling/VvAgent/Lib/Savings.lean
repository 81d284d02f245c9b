import Mathlib.Algebra.BigOperators.Group.List.Basic
import Mathlib.Algebra.GroupWithZero.Nat
import Mathlib.Data.List.Basic
import Mathlib.Data.Nat.Init

/-!
Savings of replacements in a list. A pass over a list puts cheaper elements in the place of some
of its elements; what was saved before a place is the sum of the savings up to there, so that
replacements at later places do not change it.
-/

namespace VvAgent.Lib

variable {α : Type} (cost : α → Nat)

/-- What the replacements before a place save. -/
def savedBefore (old new : List α) (place : Nat) : Nat :=
  ((List.zipWith (fun a b => cost a - cost b) old new).take place).sum

theorem savedBefore_congr {old new other : List α} {place : Nat}
    (h : new.take place = other.take place) :
    savedBefore cost old new place = savedBefore cost old other place := by
  rw [savedBefore, savedBefore, List.take_zipWith, List.take_zipWith, h]

/-- A replacement at a place leaves alone what was saved before it. -/
theorem savedBefore_set {old new : List α} {place index : Nat} (h : place ≤ index) (a : α) :
    savedBefore cost old (new.set index a) place = savedBefore cost old new place := by
  apply savedBefore_congr
  exact List.take_set_of_le h

theorem savedBefore_succ {old new : List α} {place : Nat} {a b : α} (hold : old[place]? = some a)
    (hnew : new[place]? = some b) :
    savedBefore cost old new (place + 1) = savedBefore cost old new place + (cost a - cost b) := by
  simp [savedBefore, List.take_add_one, List.getElem?_zipWith, hold, hnew]

/-- Nothing is saved where the elements are the old ones. -/
theorem savedBefore_of_same {old new : List α} {place later : Nat} (hle : place ≤ later)
    (hsame : ∀ index, place ≤ index → new[index]? = old[index]?) :
    savedBefore cost old new later = savedBefore cost old new place := by
  induction later, hle using Nat.le_induction with
  | base => rfl
  | succ later hle ih =>
      cases hold : old[later]? with
      | none =>
          have hshort : (List.zipWith (fun a b => cost a - cost b) old new).length ≤ later := by
            rw [List.length_zipWith]
            have hlength := List.getElem?_eq_none_iff.mp hold
            omega
          rw [← ih, savedBefore, savedBefore, List.take_of_length_le hshort,
            List.take_of_length_le (Nat.le_succ_of_le hshort)]
      | some a =>
          have hnew : new[later]? = some a := (hsame later hle).trans hold
          rw [savedBefore_succ cost hold hnew, ih, Nat.sub_self, Nat.add_zero]

end VvAgent.Lib
