import Mathlib.Data.List.Forall2
import Mathlib.Data.List.Basic

/-!
Lists that are put together from segments: a head and a body that belongs to it. What may be a
segment is a parameter. Such a list stays one when whole segments are filtered out, when its
elements are replaced by others that form the same segments, and when it is cut at an index that
was moved to the start of its segment.
-/

namespace VvAgent.Lib

variable {α : Type} {opens : α → List α → Prop}

/-- A list of segments, one after the other. -/
inductive Segmented (opens : α → List α → Prop) : List α → Prop
  | nil : Segmented opens []
  | cons (head : α) (body rest : List α) (hopens : opens head body)
      (hrest : Segmented opens rest) : Segmented opens (head :: (body ++ rest))

namespace Segmented

theorem append {front back : List α} (hfront : Segmented opens front)
    (hback : Segmented opens back) : Segmented opens (front ++ back) := by
  induction hfront with
  | nil => exact hback
  | cons head body rest hopens _ ih =>
      rw [List.cons_append, List.append_assoc]
      exact .cons head body (rest ++ back) hopens ih

/-- Elements that are segments of their own. -/
theorem of_singles (l : List α) (h : ∀ a ∈ l, opens a []) : Segmented opens l := by
  induction l with
  | nil => exact .nil
  | cons a l ih => exact .cons a [] l (h a (by simp)) (ih fun b hb => h b (by simp [hb]))

/-- A predicate that takes whole segments keeps a list segmented. -/
theorem filter {l : List α} (h : Segmented opens l) (p : α → Bool)
    (hwhole : ∀ head body, head ∈ l → body ⊆ l → opens head body →
      (p head = true ∧ ∀ a ∈ body, p a = true) ∨ (p head = false ∧ body = [])) :
    Segmented opens (l.filter p) := by
  induction h with
  | nil => exact .nil
  | cons head body rest hopens hrest ih =>
      have htail := ih fun other others hother hothers =>
        hwhole other others (by simp [hother])
          (fun a ha => by simp [hothers ha])
      rcases hwhole head body (by simp) (fun a ha => by simp [ha]) hopens with
        ⟨hhead, hbody⟩ | ⟨hhead, rfl⟩
      · rw [List.filter_cons_of_pos hhead, List.filter_append, List.filter_eq_self.mpr hbody]
        exact .cons head body _ hopens htail
      · rw [List.filter_cons_of_neg (by simp [hhead]), List.nil_append]
        exact htail

/-- Elements may be replaced by others that open and fill the same segments. -/
theorem replaced {R : α → α → Prop} {l l' : List α} (h : Segmented opens l)
    (hsame : List.Forall₂ R l l')
    (hstable : ∀ {head head' body body'}, R head head' → List.Forall₂ R body body' →
      opens head body → opens head' body') : Segmented opens l' := by
  induction h generalizing l' with
  | nil =>
      cases hsame
      exact .nil
  | cons head body rest hopens _ ih =>
      cases hsame with
      | cons hhead htail =>
          have hbody := List.forall₂_take body.length htail
          have hrest := List.forall₂_drop body.length htail
          rw [List.take_left] at hbody
          rw [List.drop_left] at hrest
          rename_i head' tail'
          rw [← List.take_append_drop body.length tail']
          exact .cons head' _ _ (hstable hhead hbody hopens) (ih hrest)

end Segmented

/-! ### Cutting at the start of a segment -/

/-- Segments with the index of each and the one behind it, counted from a first index. -/
inductive SegmentedAt (opens : α → List α → Prop) : Nat → List (Nat × Nat) → List α → Prop
  | nil (start : Nat) : SegmentedAt opens start [] []
  | cons (start : Nat) (blocks : List (Nat × Nat)) (head : α) (body rest : List α)
      (hopens : opens head body)
      (hrest : SegmentedAt opens (start + 1 + body.length) blocks rest) :
      SegmentedAt opens start ((start, start + 1 + body.length) :: blocks) (head :: (body ++ rest))

/-- A cut inside of a block is moved to its start. -/
def moveCut (blocks : List (Nat × Nat)) (cut : Nat) : Nat :=
  blocks.foldl (fun cut block => if block.1 < cut ∧ cut < block.2 then block.1 else cut) cut

namespace SegmentedAt

theorem segmented {start : Nat} {blocks : List (Nat × Nat)} {l : List α}
    (h : SegmentedAt opens start blocks l) : Segmented opens l := by
  induction h with
  | nil => exact .nil
  | cons start blocks head body rest hopens _ ih => exact .cons head body rest hopens ih

theorem moveCut_before {start cut : Nat} {blocks : List (Nat × Nat)} {l : List α}
    (h : SegmentedAt opens start blocks l) (hcut : cut ≤ start) : moveCut blocks cut = cut := by
  induction h with
  | nil => rfl
  | cons start blocks head body rest _ _ ih =>
      rw [moveCut, List.foldl_cons, if_neg (by omega)]
      exact ih (by omega)

/-- The moved cut lies on or before the cut, and what follows it is segmented. -/
theorem moveCut_spec {start cut : Nat} {blocks : List (Nat × Nat)} {l : List α}
    (h : SegmentedAt opens start blocks l) (hlow : start ≤ cut) (hhigh : cut ≤ start + l.length) :
    start ≤ moveCut blocks cut ∧ moveCut blocks cut ≤ cut ∧
      Segmented opens (l.drop (moveCut blocks cut - start)) := by
  induction h with
  | nil start =>
      refine ⟨hlow, Nat.le_refl _, ?_⟩
      rw [List.drop_nil]
      exact .nil
  | cons start blocks head body rest hopens hrest ih =>
      have hwhole := Segmented.cons head body rest hopens hrest.segmented
      by_cases hinside : start < cut ∧ cut < start + 1 + body.length
      · have hmoved : moveCut ((start, start + 1 + body.length) :: blocks) cut = start := by
          rw [moveCut, List.foldl_cons, if_pos hinside]
          exact hrest.moveCut_before (by omega)
        rw [hmoved, Nat.sub_self, List.drop_zero]
        exact ⟨Nat.le_refl _, hlow, hwhole⟩
      · have hmoved : moveCut ((start, start + 1 + body.length) :: blocks) cut =
            moveCut blocks cut := by
          rw [moveCut, List.foldl_cons, if_neg hinside]
          rfl
        rw [hmoved]
        by_cases hfirst : cut = start
        · rw [hrest.moveCut_before (by omega), hfirst, Nat.sub_self, List.drop_zero]
          exact ⟨Nat.le_refl _, Nat.le_refl _, hwhole⟩
        · have hlength : (head :: (body ++ rest)).length = body.length + rest.length + 1 := by
            simp
          obtain ⟨hbehind, hbefore, hsegmented⟩ := ih (by omega) (by omega)
          refine ⟨by omega, hbefore, ?_⟩
          have hsplit : moveCut blocks cut - start =
              (moveCut blocks cut - (start + 1 + body.length) + body.length) + 1 := by omega
          rw [hsplit, List.drop_succ_cons, Nat.add_comm, ← List.drop_drop, List.drop_left]
          exact hsegmented

end SegmentedAt

/-! ### The places of the elements that satisfy a predicate -/

/-- The indices of the elements that satisfy a predicate, counted from a first index. -/
def placesFrom (p : α → Bool) (start : Nat) (l : List α) : List Nat :=
  ((l.zipIdx start).filter fun entry => p entry.1).map (·.2)

theorem length_placesFrom (p : α → Bool) (start : Nat) (l : List α) :
    (placesFrom p start l).length = (l.filter p).length := by
  induction l generalizing start with
  | nil => rfl
  | cons a l ih =>
      have hrest := ih (start + 1)
      cases ha : p a <;> simpa [placesFrom, List.zipIdx_cons, ha] using hrest

/-- From the place of the `n`th element on there are all but the first `n` elements. -/
theorem filter_drop_placesFrom (p : α → Bool) (l : List α) (start n place : Nat)
    (h : (placesFrom p start l)[n]? = some place) :
    start ≤ place ∧ place < start + l.length ∧
      (l.drop (place - start)).filter p = (l.filter p).drop n := by
  induction l generalizing start n with
  | nil => simp [placesFrom] at h
  | cons a l ih =>
      cases ha : p a with
      | false =>
          have hrest : (placesFrom p (start + 1) l)[n]? = some place := by
            simpa [placesFrom, List.zipIdx_cons, ha] using h
          obtain ⟨hlow, hhigh, hfilter⟩ := ih (start + 1) n hrest
          have hplace : place - start = (place - (start + 1)) + 1 := by omega
          refine ⟨by omega, by simp only [List.length_cons]; omega, ?_⟩
          rw [hplace, List.drop_succ_cons, hfilter, List.filter_cons_of_neg (by simp [ha])]
      | true =>
          cases n with
          | zero =>
              obtain rfl : start = place := by simpa [placesFrom, List.zipIdx_cons, ha] using h
              refine ⟨Nat.le_refl _, by simp, ?_⟩
              rw [Nat.sub_self, List.drop_zero, List.drop_zero]
          | succ n =>
              have hrest : (placesFrom p (start + 1) l)[n]? = some place := by
                simpa [placesFrom, List.zipIdx_cons, ha] using h
              obtain ⟨hlow, hhigh, hfilter⟩ := ih (start + 1) n hrest
              have hplace : place - start = (place - (start + 1)) + 1 := by omega
              refine ⟨by omega, by simp only [List.length_cons]; omega, ?_⟩
              rw [hplace, List.drop_succ_cons, hfilter, List.filter_cons_of_pos ha,
                List.drop_succ_cons]

end VvAgent.Lib
