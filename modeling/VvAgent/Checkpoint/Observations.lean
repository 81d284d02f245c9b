import VvAgent.Checkpoint.Transitions
import VvAgent.Types.Dictionaries

/-!
The observations of a terminal result. Those it carries are merged with those of the tools
that were just closed: a closed tool replaces what was said about it before, the list is
sorted by operation, and of two observations of one operation the first is kept. The lemmas
say what is found under each operation afterwards, and that merging nothing into a merged
list leaves it alone.
-/

namespace VvAgent
open Lib Lib.Outcome

/-! The order of operation keys. -/

theorem keyLe_total (left right : String × Nat × Nat) :
    ResumeObservation.keyLe left right = true ∨ ResumeObservation.keyLe right left = true := by
  obtain ⟨leftId, leftKind, leftCycle⟩ := left
  obtain ⟨rightId, rightKind, rightCycle⟩ := right
  simp only [ResumeObservation.keyLe, Bool.or_eq_true, Bool.and_eq_true, decide_eq_true_eq,
    beq_iff_eq]
  by_cases hlt : leftId < rightId
  · exact .inl (.inl hlt)
  by_cases hgt : rightId < leftId
  · exact .inr (.inl hgt)
  · obtain rfl : leftId = rightId :=
      String.le_antisymm (String.not_lt.mp hgt) (String.not_lt.mp hlt)
    have hrest : (leftKind < rightKind ∨ leftKind = rightKind ∧ leftCycle ≤ rightCycle) ∨
        rightKind < leftKind ∨ rightKind = leftKind ∧ rightCycle ≤ leftCycle := by
      omega
    rcases hrest with hrest | hrest
    · exact .inl (.inr ⟨rfl, hrest⟩)
    · exact .inr (.inr ⟨rfl, hrest⟩)

theorem keyLe_trans {first second third : String × Nat × Nat}
    (hfirst : ResumeObservation.keyLe first second = true)
    (hsecond : ResumeObservation.keyLe second third = true) :
    ResumeObservation.keyLe first third = true := by
  obtain ⟨firstId, firstKind, firstCycle⟩ := first
  obtain ⟨secondId, secondKind, secondCycle⟩ := second
  obtain ⟨thirdId, thirdKind, thirdCycle⟩ := third
  simp only [ResumeObservation.keyLe, Bool.or_eq_true, Bool.and_eq_true, decide_eq_true_eq,
    beq_iff_eq] at hfirst hsecond ⊢
  rcases hfirst with hid | ⟨rfl, hrest⟩
  · rcases hsecond with hid' | ⟨rfl, _⟩
    · exact .inl (String.lt_trans hid hid')
    · exact .inl hid
  · rcases hsecond with hid' | ⟨rfl, hrest'⟩
    · exact .inl hid'
    · refine .inr ⟨rfl, ?_⟩
      omega

/-- An operation strictly before another one. -/
def keyLt (left right : String × Nat × Nat) : Prop := ResumeObservation.keyLe right left = false

theorem keyLt_trans {first second third : String × Nat × Nat} (hfirst : keyLt first second)
    (hsecond : keyLt second third) : keyLt first third := by
  unfold keyLt at hfirst hsecond ⊢
  by_contra hback
  rw [Bool.not_eq_false] at hback
  have hle : ResumeObservation.keyLe first second = true := by
    rcases keyLe_total first second with h | h
    · exact h
    · rw [h] at hfirst
      cases hfirst
  rw [keyLe_trans hback hle] at hsecond
  cases hsecond

theorem observationKeyLe_total (left right : Option (String × Nat × Nat)) :
    (observationKeyLe left right || observationKeyLe right left) = true := by
  cases left with
  | none => rfl
  | some left =>
      cases right with
      | none => rfl
      | some right => exact (Bool.or_eq_true _ _).mpr (keyLe_total left right)

theorem observationKeyLe_trans {first second third : Option (String × Nat × Nat)}
    (hfirst : observationKeyLe first second = true)
    (hsecond : observationKeyLe second third = true) : observationKeyLe first third = true := by
  cases first with
  | none => rfl
  | some first =>
      cases second with
      | none => cases hfirst
      | some second =>
          cases third with
          | none => cases hsecond
          | some third => exact keyLe_trans hfirst hsecond

/-! Neighbours with one key. -/

section
variable {α κ : Type} [DecidableEq κ] (key : α → κ)

theorem dedupBy_sublist (l : List α) : (dedupBy key l).Sublist l := by
  induction l with
  | nil => exact List.Sublist.refl _
  | cons a rest ih =>
      rw [dedupBy]
      split
      · exact (List.nil_sublist rest).cons_cons a
      · rename_i b later hrest
        rw [hrest] at ih
        split
        · exact ((List.sublist_cons_self b later).trans ih).cons_cons a
        · exact ih.cons_cons a

/-- What is found first under a key stays. -/
theorem dedupBy_find? (p : κ → Bool) (l : List α) :
    (dedupBy key l).find? (fun a => p (key a)) = l.find? fun a => p (key a) := by
  induction l with
  | nil => rfl
  | cons a rest ih =>
      rw [dedupBy, List.find?_cons]
      split
      · rename_i hrest
        rw [hrest] at ih
        rw [← ih, List.find?_cons]
      · rename_i b later hrest
        rw [hrest] at ih
        split
        · rename_i hkey
          rw [← ih, List.find?_cons, List.find?_cons, ← hkey]
          cases p (key a) <;> rfl
        · rw [← ih, List.find?_cons]

/-- Neighbours with different keys are left alone. -/
theorem dedupBy_of_isChain {l : List α} (h : l.IsChain fun a b => key a ≠ key b) :
    dedupBy key l = l := by
  induction l with
  | nil => rfl
  | cons a rest ih =>
      cases rest with
      | nil => rfl
      | cons b later =>
          rw [List.isChain_cons_cons] at h
          rw [dedupBy, ih h.2]
          exact if_neg h.1

theorem dedupBy_isChain (l : List α) : (dedupBy key l).IsChain fun a b => key a ≠ key b := by
  induction l with
  | nil => exact .nil
  | cons a rest ih =>
      rw [dedupBy]
      split
      · exact .singleton a
      · rename_i b later hrest
        rw [hrest] at ih
        split
        · rename_i hkey
          cases later with
          | nil => exact .singleton a
          | cons c others =>
              rw [List.isChain_cons_cons] at ih
              rw [List.isChain_cons_cons, hkey]
              exact ih
        · rename_i hkey
          exact .cons_cons hkey ih

theorem dedupBy_map {β : Type} (f : β → α) (l : List β) :
    dedupBy key (l.map f) = (dedupBy (fun b => key (f b)) l).map f := by
  induction l with
  | nil => rfl
  | cons b rest ih =>
      rw [List.map_cons, dedupBy, dedupBy, ih]
      cases hrest : dedupBy (fun b => key (f b)) rest with
      | nil => rfl
      | cons c later =>
          simp only [List.map_cons]
          split <;> rfl

end

/-! Merging. -/

section
variable {α : Type} (key : α → Option (String × Nat × Nat))

/-- The order in which observations are listed. -/
abbrev listedLe (left right : α) : Bool := observationKeyLe (key left) (key right)

theorem listedLe_trans (first second third : α) (hfirst : listedLe key first second = true)
    (hsecond : listedLe key second third = true) : listedLe key first third = true :=
  observationKeyLe_trans hfirst hsecond

theorem listedLe_total (left right : α) : (listedLe key left right || listedLe key right left) = true :=
  observationKeyLe_total _ _

/-- Sorting keeps the order of the observations of one operation. -/
theorem mergeSort_filter (wanted : Option (String × Nat × Nat)) (l : List α) :
    (l.mergeSort (listedLe key)).filter (fun a => key a = wanted) =
      l.filter fun a => key a = wanted := by
  have hsame : (l.filter fun a => key a = wanted).Pairwise fun a b => listedLe key a b = true := by
    apply List.pairwise_of_forall_mem_list
    intro a ha b hb
    have hkeyA : key a = wanted := of_decide_eq_true (List.mem_filter.mp ha).2
    have hkeyB : key b = wanted := of_decide_eq_true (List.mem_filter.mp hb).2
    have htotal := listedLe_total key a a
    rw [Bool.or_self] at htotal
    rw [listedLe, hkeyB, ← hkeyA]
    exact htotal
  have hsub := (List.sublist_mergeSort (listedLe_trans key) (listedLe_total key) hsame
    List.filter_sublist).filter fun a => key a = wanted
  rw [List.filter_filter] at hsub
  simp only [Bool.and_self] at hsub
  refine (hsub.eq_of_length ?_).symm
  exact ((l.mergeSort_perm (listedLe key)).filter _).length_eq.symm

/-- Under the key of an operation, the observation of a closed tool is found, else the first
one that was given. -/
theorem find?_mergeObservations (observations closures : List α) (wanted : String × Nat × Nat) :
    (mergeObservations key observations closures).find? (fun a => key a = some wanted) =
      (closures ++ observations).find? fun a => key a = some wanted := by
  unfold mergeObservations
  dsimp only
  rw [dedupBy_find? key fun found => decide (found = some wanted)]
  rw [← List.head?_filter, mergeSort_filter, List.filter_append, List.find?_append,
    ← List.head?_filter, ← List.head?_filter, List.filter_filter]
  by_cases hclosed : some wanted ∈ closures.map key
  · have hnone : (observations.filter fun a => decide (key a = some wanted) &&
        ((key a).isNone || !(closures.map key).contains (key a))) = [] := by
      rw [List.filter_eq_nil_iff]
      intro a _ hboth
      rw [Bool.and_eq_true, decide_eq_true_eq] at hboth
      rw [hboth.1] at hboth
      simp [hclosed] at hboth
    rw [hnone, List.nil_append]
    obtain ⟨closure, hmem, hkey⟩ := List.mem_map.mp hclosed
    have hfound : closure ∈ closures.filter fun a => key a = some wanted :=
      List.mem_filter.mpr ⟨hmem, decide_eq_true hkey⟩
    cases hlist : closures.filter fun a => decide (key a = some wanted) with
    | nil =>
        rw [hlist] at hfound
        cases hfound
    | cons first rest => rfl
  · have hnone : (closures.filter fun a => decide (key a = some wanted)) = [] := by
      rw [List.filter_eq_nil_iff]
      intro a hmem hkey
      exact hclosed (List.mem_map.mpr ⟨a, hmem, of_decide_eq_true hkey⟩)
    have hkept : (observations.filter fun a => decide (key a = some wanted) &&
        ((key a).isNone || !(closures.map key).contains (key a))) =
        observations.filter fun a => decide (key a = some wanted) := by
      apply List.filter_congr
      intro a _
      by_cases hkey : key a = some wanted
      · rw [hkey]
        simp [hclosed]
      · simp [hkey]
    rw [hnone, hkept, List.append_nil]
    rfl

/-- Merging nothing into merged observations leaves them alone. -/
theorem mergeObservations_again (observations closures : List α) :
    mergeObservations key (mergeObservations key observations closures) [] =
      mergeObservations key observations closures := by
  have hsorted : (mergeObservations key observations closures).Pairwise
      fun a b => listedLe key a b = true :=
    (List.pairwise_mergeSort (listedLe_trans key) (listedLe_total key) _).sublist
      (dedupBy_sublist key _)
  have hall : ((mergeObservations key observations closures).filter fun a =>
      (key a).isNone || !(([] : List α).map key).contains (key a)) =
      mergeObservations key observations closures := by
    rw [List.filter_eq_self]
    intro a _
    simp
  rw [mergeObservations.eq_def key (mergeObservations key observations closures) []]
  dsimp only
  rw [hall, List.append_nil, List.mergeSort_of_pairwise hsorted]
  apply dedupBy_of_isChain
  exact dedupBy_isChain key _

theorem mergeObservations_map {β : Type} (f : β → α) (observations closures : List β) :
    mergeObservations key (observations.map f) (closures.map f) =
      (mergeObservations (fun b => key (f b)) observations closures).map f := by
  unfold mergeObservations
  dsimp only
  rw [List.filter_map, List.map_map, ← List.map_append, ← dedupBy_map]
  congr 1
  refine (List.map_mergeSort ?_).symm
  intro a _ b _
  rfl

end

end VvAgent
