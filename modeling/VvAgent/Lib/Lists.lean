import Mathlib.Data.List.Basic
import Mathlib.Data.List.DropRight
import Mathlib.Data.List.Forall2

/-!
Replacing the first element of a list that satisfies a predicate: the update behind
`position` followed by an indexed write. The one lemma that proofs need splits the list
at the replaced element. Filtering a list by a predicate that, once it fails, fails for the
rest of the list: the list is cut in two. Lists that are related place by place.
-/

namespace VvAgent.Lib

variable {α : Type}

/-- The list with the first element that satisfies `p` replaced by `new`. -/
def replaceFirst (p : α → Bool) (new : α) : List α → List α
  | [] => []
  | a :: rest => if p a then new :: rest else a :: replaceFirst p new rest

/-- A found element splits the list; replacing it changes that place only. -/
theorem replaceFirst_split (p : α → Bool) (new old : α) (l : List α)
    (hfound : l.find? p = some old) :
    ∃ before after, l = before ++ old :: after ∧ (∀ a ∈ before, p a = false) ∧ p old = true ∧
      replaceFirst p new l = before ++ new :: after := by
  induction l with
  | nil => simp at hfound
  | cons a rest ih =>
      by_cases ha : p a = true
      · have hold : a = old := by simpa [List.find?_cons, ha] using hfound
        subst hold
        exact ⟨[], rest, rfl, by simp, ha, by simp [replaceFirst, ha]⟩
      · have hrest : rest.find? p = some old := by simpa [List.find?_cons, ha] using hfound
        obtain ⟨before, after, hl, hbefore, hold, hreplaced⟩ := ih hrest
        refine ⟨a :: before, after, by simp [hl], ?_, hold, by simp [replaceFirst, ha, hreplaced]⟩
        intro b hb
        rcases List.mem_cons.mp hb with rfl | hb
        · simpa using ha
        · exact hbefore b hb

/-- A predicate that holds for everything before an element it holds for cuts a list in
two. -/
theorem filter_append_filter_not (p : α → Bool) (l : List α)
    (hdown : l.Pairwise fun a b => p b = true → p a = true) :
    l.filter p ++ l.filter (fun a => !p a) = l := by
  induction l with
  | nil => rfl
  | cons a rest ih =>
      obtain ⟨hfirst, hrest⟩ := List.pairwise_cons.mp hdown
      cases ha : p a with
      | true => simp [ha, ih hrest]
      | false =>
          have hnone : rest.filter p = [] := by
            rw [List.filter_eq_nil_iff]
            intro b hb hholds
            simp [hfirst b hb hholds] at ha
          have hrest := ih hrest
          rw [hnone, List.nil_append] at hrest
          simp [ha, hnone, hrest]

/-- For such a predicate, the elements from the front are all the elements. -/
theorem takeWhile_eq_filter (p : α → Bool) (l : List α)
    (hdown : l.Pairwise fun a b => p b = true → p a = true) : l.takeWhile p = l.filter p := by
  induction l with
  | nil => rfl
  | cons a rest ih =>
      obtain ⟨hfirst, hrest⟩ := List.pairwise_cons.mp hdown
      cases ha : p a with
      | true => simp [ha, ih hrest]
      | false =>
          have hnone : rest.filter p = [] := by
            rw [List.filter_eq_nil_iff]
            intro b hb hholds
            simp [hfirst b hb hholds] at ha
          simp [ha, hnone]

/-- A prefix of a list that starts with an element to keep loses nothing at its front. -/
theorem dropWhile_of_prefix {p : α → Bool} {front whole : List α} (h : front <+: whole)
    (hwhole : whole.dropWhile p = whole) : front.dropWhile p = front := by
  rw [List.dropWhile_eq_self_iff] at hwhole ⊢
  intro hfront
  have hlonger := hfront.trans_le h.length_le
  rw [h.getElem hfront]
  exact hwhole hlonger

section
variable {β : Type} {R : α → β → Prop}

theorem forall₂_set {as : List α} {bs : List β} {index : Nat} {a : α} {b : β}
    (h : List.Forall₂ R as bs) (ha : as[index]? = some a) (hab : R a b) :
    List.Forall₂ R as (bs.set index b) := by
  induction h generalizing index with
  | nil => simp at ha
  | cons hfirst hrest ih =>
      cases index with
      | zero =>
          rw [List.getElem?_cons_zero, Option.some.injEq] at ha
          subst ha
          exact .cons hab hrest
      | succ index => exact .cons hfirst (ih (by simpa using ha))

theorem forall₂_mem_right {as : List α} {bs : List β} {b : β} (h : List.Forall₂ R as bs)
    (hb : b ∈ bs) : ∃ a ∈ as, R a b := by
  induction h with
  | nil => simp at hb
  | cons hfirst _ ih =>
      rcases List.mem_cons.mp hb with rfl | hb
      · exact ⟨_, by simp, hfirst⟩
      · obtain ⟨a, ha, hab⟩ := ih hb
        exact ⟨a, by simp [ha], hab⟩

/-- What is related to a list with a last element has a last element. -/
theorem forall₂_concat {as : List α} {a : α} {bs : List β} (h : List.Forall₂ R (as ++ [a]) bs) :
    ∃ front b, bs = front ++ [b] ∧ List.Forall₂ R as front ∧ R a b := by
  have hreversed := List.forall₂_reverse_iff.mpr h
  rw [List.reverse_append, List.reverse_singleton, List.singleton_append] at hreversed
  obtain ⟨b, rest, hfirst, hrest, hbs⟩ := List.forall₂_cons_left_iff.mp hreversed
  refine ⟨rest.reverse, b, ?_, ?_, hfirst⟩
  · rw [← List.reverse_reverse bs, hbs, List.reverse_cons]
  · rwa [← List.forall₂_reverse_iff, List.reverse_reverse]

end

end VvAgent.Lib
