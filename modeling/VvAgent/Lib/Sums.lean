import Mathlib.Algebra.BigOperators.Group.List.Basic
import Mathlib.Algebra.GroupWithZero.Nat
import Mathlib.Tactic.Common

/-!
Running sums of values that may be missing, over machine integers. A sum is missing from the
first missing value on, and from the first addition on that reaches the bound. Since the
values are natural numbers, no order of the additions matters: the sum is there exactly when
every value is there and the exact total is below the bound.
-/

namespace VvAgent.Lib

/-- The sum of two values, when both are there and it stays below the bound. -/
def addBelow (bound : Nat) (left right : Option Nat) : Option Nat := do
  let first ← left
  let second ← right
  if first + second < bound then some (first + second) else none

/-- The values added to a start one after the other. -/
def sumBelow (bound : Nat) (start : Option Nat) (values : List (Option Nat)) : Option Nat :=
  values.foldl (addBelow bound) start

variable {bound : Nat}

@[simp]
theorem sumBelow_nil (start : Option Nat) : sumBelow bound start [] = start := rfl

@[simp]
theorem sumBelow_cons (start value : Option Nat) (values : List (Option Nat)) :
    sumBelow bound start (value :: values) = sumBelow bound (addBelow bound start value) values :=
  rfl

/-- A sum may be interrupted and taken up again. -/
theorem sumBelow_append (start : Option Nat) (earlier later : List (Option Nat)) :
    sumBelow bound start (earlier ++ later) =
      sumBelow bound (sumBelow bound start earlier) later :=
  List.foldl_append

theorem sumBelow_none (values : List (Option Nat)) : sumBelow bound none values = none := by
  induction values with
  | nil => rfl
  | cons value values ih => simpa [addBelow] using ih

theorem addBelow_eq_some_iff {left right : Option Nat} {total : Nat} :
    addBelow bound left right = some total ↔
      ∃ first second, left = some first ∧ right = some second ∧ total = first + second ∧
        total < bound := by
  constructor
  · intro h
    simp only [addBelow, Option.bind_eq_bind, Option.bind_eq_some_iff] at h
    obtain ⟨first, hfirst, second, hsecond, hsum⟩ := h
    split at hsum
    · rename_i hfits
      cases hsum
      exact ⟨first, second, hfirst, hsecond, rfl, hfits⟩
    · cases hsum
  · rintro ⟨first, second, rfl, rfl, rfl, hfits⟩
    simp [addBelow, hfits]

/-- A chain of additions gives the exact total, and gives it whenever it fits. -/
theorem sumBelow_eq_some_iff {start : Nat} (hstart : start < bound) (values : List (Option Nat))
    (total : Nat) :
    sumBelow bound (some start) values = some total ↔
      ∃ counts : List Nat, values = counts.map some ∧ total = start + counts.sum ∧
        total < bound := by
  induction values generalizing start with
  | nil =>
      rw [sumBelow_nil, Option.some.injEq]
      constructor
      · rintro rfl
        exact ⟨[], rfl, rfl, hstart⟩
      · rintro ⟨counts, hnone, rfl, _⟩
        rw [List.map_eq_nil_iff.mp hnone.symm, List.sum_nil, Nat.add_zero]
  | cons value values ih =>
      rw [sumBelow_cons]
      constructor
      · intro h
        cases hnext : addBelow bound (some start) value with
        | none =>
            rw [hnext, sumBelow_none] at h
            cases h
        | some next =>
            rw [hnext] at h
            obtain ⟨first, count, hfirst, rfl, rfl, hfits⟩ := addBelow_eq_some_iff.mp hnext
            cases hfirst
            obtain ⟨counts, rfl, rfl, htotal⟩ := (ih hfits).mp h
            refine ⟨count :: counts, rfl, ?_, htotal⟩
            rw [List.sum_cons, Nat.add_assoc]
      · rintro ⟨counts, hvalues, rfl, htotal⟩
        cases counts with
        | nil => cases hvalues
        | cons count counts =>
            obtain ⟨rfl, rfl⟩ := List.cons.inj hvalues
            have hsum : (count :: counts).sum = count + counts.sum := List.sum_cons
            have hfits : start + count < bound := by omega
            have hnext : addBelow bound (some start) (some count) = some (start + count) :=
              addBelow_eq_some_iff.mpr ⟨start, count, rfl, rfl, rfl, hfits⟩
            rw [hnext]
            apply (ih hfits).mpr
            exact ⟨counts, rfl, by omega, htotal⟩

/-- The exact total is at most the limit, unless there is none: a value is missing, or the
total reaches the bound. -/
def SumFits (bound limit : Nat) (start : Option Nat) (values : List (Option Nat)) : Prop :=
  ∀ (first : Nat) (counts : List Nat), start = some first → values = counts.map some →
    first + counts.sum ≤ limit ∨ bound ≤ first + counts.sum

/-- A running sum exceeds no limit exactly when the exact total fits. -/
theorem sumBelow_le_iff {limit : Nat} {start : Option Nat}
    (hstart : ∀ first, start = some first → first < bound) (values : List (Option Nat)) :
    (∀ total, sumBelow bound start values = some total → total ≤ limit) ↔
      SumFits bound limit start values := by
  constructor
  · intro h first counts hfirst hvalues
    subst hfirst
    by_contra hexceeds
    have hover : limit < first + counts.sum ∧ first + counts.sum < bound := by omega
    have htotal := h (first + counts.sum)
      ((sumBelow_eq_some_iff (hstart first rfl) values _).mpr ⟨counts, hvalues, rfl, hover.2⟩)
    omega
  · intro h total htotal
    cases start with
    | none =>
        rw [sumBelow_none] at htotal
        cases htotal
    | some first =>
        obtain ⟨counts, hvalues, rfl, hfits⟩ :=
          (sumBelow_eq_some_iff (hstart first rfl) values total).mp htotal
        rcases h first counts rfl hvalues with hle | hover
        · exact hle
        · omega

end VvAgent.Lib
