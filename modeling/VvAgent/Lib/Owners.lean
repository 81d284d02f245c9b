import Mathlib.Algebra.BigOperators.Group.Finset.Basic
import Mathlib.Algebra.BigOperators.Group.Finset.Piecewise
import Mathlib.Algebra.GroupWithZero.Nat
import Mathlib.Algebra.Order.BigOperators.Group.List
import Mathlib.Algebra.Order.Group.Nat
import VvAgent.Lib.Lists

/-!
Pieces with owners. The pieces of several owners come interleaved; where they are sorted by their
owners, they are the pieces of one owner after the other, and the sizes of the pieces tell how much
every owner has. Nothing here refers to a particular kind of piece.
-/

namespace VvAgent.Lib

variable {α : Type}

/-- The pieces of an owner, in their order. -/
def owned (pieces : List (Nat × α)) (owner : Nat) : List α :=
  (pieces.filter fun piece => piece.1 = owner).map (·.2)

@[simp]
theorem owned_nil (owner : Nat) : owned ([] : List (Nat × α)) owner = [] := rfl

theorem owned_cons (piece : Nat × α) (pieces : List (Nat × α)) (owner : Nat) :
    owned (piece :: pieces) owner =
      if piece.1 = owner then piece.2 :: owned pieces owner else owned pieces owner := by
  unfold owned
  by_cases h : piece.1 = owner
  · rw [List.filter_cons_of_pos (by simpa using h), List.map_cons, if_pos h]
  · rw [List.filter_cons_of_neg (by simpa using h), if_neg h]

theorem owned_append (front back : List (Nat × α)) (owner : Nat) :
    owned (front ++ back) owner = owned front owner ++ owned back owner := by
  unfold owned
  rw [List.filter_append, List.map_append]

theorem mem_owned {pieces : List (Nat × α)} {owner : Nat} {a : α} :
    a ∈ owned pieces owner ↔ (owner, a) ∈ pieces := by
  unfold owned
  simp only [List.mem_map, List.mem_filter, decide_eq_true_eq]
  constructor
  · rintro ⟨⟨other, b⟩, ⟨hmem, rfl⟩, rfl⟩
    exact hmem
  · intro hmem
    exact ⟨(owner, a), ⟨hmem, rfl⟩, rfl⟩

theorem owned_filter (keep : α → Bool) (pieces : List (Nat × α)) (owner : Nat) :
    owned (pieces.filter fun piece => keep piece.2) owner = (owned pieces owner).filter keep := by
  unfold owned
  rw [List.filter_filter, List.filter_map, List.filter_filter]
  congr 2
  funext piece
  exact Bool.and_comm _ _

/-- Sorted pieces are those of one owner after the other. -/
theorem eq_flatMap_owned {pieces : List (Nat × α)} {count : Nat}
    (hbound : ∀ piece ∈ pieces, piece.1 < count)
    (hsorted : pieces.Pairwise fun first second => first.1 ≤ second.1) :
    pieces.map (·.2) = (List.range count).flatMap (owned pieces) := by
  induction count generalizing pieces with
  | zero =>
      cases pieces with
      | nil => rfl
      | cons piece _ => exact absurd (hbound piece List.mem_cons_self) (Nat.not_lt_zero _)
  | succ count ih =>
      have hsplit := filter_append_filter_not (fun piece : Nat × α => decide (piece.1 < count))
        pieces (hsorted.imp fun hle hlt => by
          rw [decide_eq_true_eq] at hlt ⊢
          omega)
      have hlow : ∀ owner < count,
          owned (pieces.filter fun piece => decide (piece.1 < count)) owner = owned pieces owner := by
        intro owner howner
        unfold owned
        rw [List.filter_filter]
        congr 1
        refine List.filter_congr fun piece _ => ?_
        simp only [Bool.and_eq_left_iff_imp, decide_eq_true_eq]
        rintro rfl
        exact howner
      have hlast : (pieces.filter fun piece => !decide (piece.1 < count)).map (·.2) =
          owned pieces count := by
        unfold owned
        congr 1
        refine List.filter_congr fun piece hpiece => ?_
        have hlt := hbound piece hpiece
        rw [← decide_not, decide_eq_decide]
        omega
      have hbelow : ∀ piece ∈ pieces.filter fun piece => decide (piece.1 < count),
          piece.1 < count :=
        fun piece hpiece => by simpa using (List.mem_filter.mp hpiece).2
      have hfront := ih hbelow (hsorted.filter _)
      calc
        pieces.map (·.2) =
            (pieces.filter fun piece => decide (piece.1 < count)).map (·.2) ++
              (pieces.filter fun piece => !decide (piece.1 < count)).map (·.2) := by
          rw [← List.map_append, hsplit]
        _ = (List.range count).flatMap (owned pieces) ++ owned pieces count := by
          rw [hfront, hlast]
          congr 1
          exact List.flatMap_congr fun owner howner => hlow owner (List.mem_range.mp howner)
        _ = (List.range (count + 1)).flatMap (owned pieces) := by
          rw [List.range_succ, List.flatMap_append, List.flatMap_singleton]

/-- The sizes of all pieces, each weighted by its owner. -/
theorem sum_owned {pieces : List (Nat × α)} {count : Nat}
    (hbound : ∀ piece ∈ pieces, piece.1 < count) (weight : Nat → Nat) (size : α → Nat) :
    (pieces.map fun piece => weight piece.1 * size piece.2).sum =
      ∑ owner ∈ Finset.range count, weight owner * ((owned pieces owner).map size).sum := by
  induction pieces with
  | nil => simp
  | cons piece pieces ih =>
      have hpiece := hbound piece List.mem_cons_self
      have hrest := ih fun other hother => hbound other (List.mem_cons_of_mem _ hother)
      have hterm : ∀ owner, weight owner * ((owned (piece :: pieces) owner).map size).sum =
          (if piece.1 = owner then weight owner * size piece.2 else 0) +
            weight owner * ((owned pieces owner).map size).sum := by
        intro owner
        rw [owned_cons]
        split_ifs
        · rw [List.map_cons, List.sum_cons, Nat.mul_add]
        · rw [Nat.zero_add]
      rw [List.map_cons, List.sum_cons, hrest, Finset.sum_congr rfl fun owner _ => hterm owner,
        Finset.sum_add_distrib, Finset.sum_ite_eq, if_pos (Finset.mem_range.mpr hpiece)]

/-- Of two functions, one below the other, with the same sum. -/
theorem eq_of_sum_eq {l : List α} {lower upper : α → Nat} (hle : ∀ a ∈ l, lower a ≤ upper a)
    (hsum : (l.map lower).sum = (l.map upper).sum) : ∀ a ∈ l, lower a = upper a := by
  induction l with
  | nil => exact fun a ha => absurd ha List.not_mem_nil
  | cons first rest ih =>
      have hrest : ∀ a ∈ rest, lower a ≤ upper a := fun a ha => hle a (List.mem_cons_of_mem _ ha)
      have hfirst := hle first List.mem_cons_self
      have hbelow : (rest.map lower).sum ≤ (rest.map upper).sum := List.sum_le_sum hrest
      rw [List.map_cons, List.map_cons, List.sum_cons, List.sum_cons] at hsum
      intro a ha
      rcases List.mem_cons.mp ha with rfl | ha
      · omega
      · exact ih hrest (by omega) a ha

end VvAgent.Lib
