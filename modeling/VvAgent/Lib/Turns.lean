import Mathlib.Data.List.Basic
import Mathlib.Data.List.Nodup
import Mathlib.Data.List.TakeWhile
import Mathlib.Data.List.Zip
import VvAgent.Lib.Segments

/-!
Lists cut into turns, and the two sides of a turn matched with each other. A list is cut in
front of every element that does not satisfy a predicate: such an element is the head of a turn
and the elements that follow it and satisfy the predicate are its body. The questions and the
answers of a turn carry keys; they are matched in their order, as long as the keys agree and
occur only once on either side.
-/

namespace VvAgent.Lib

variable {α β κ : Type}

/-! ### Turns -/

/-- The elements in front of the first head, and the turns. -/
def headed (p : α → Bool) : List α → List α × List (α × List α)
  | [] => ([], [])
  | a :: l =>
      let rest := headed p l
      if p a then (a :: rest.1, rest.2) else ([], (a, rest.1) :: rest.2)

/-- Turns, one after the other. -/
def joinTurns (turns : List (α × List α)) : List α := turns.flatMap fun turn => turn.1 :: turn.2

/-- A turn of the cut: its head is one, and its body holds none. -/
def IsTurn (p : α → Bool) (turn : α × List α) : Prop :=
  p turn.1 = false ∧ ∀ a ∈ turn.2, p a = true

variable {p : α → Bool}

@[simp]
theorem joinTurns_nil : joinTurns ([] : List (α × List α)) = [] := rfl

@[simp]
theorem joinTurns_cons (turn : α × List α) (turns : List (α × List α)) :
    joinTurns (turn :: turns) = turn.1 :: (turn.2 ++ joinTurns turns) := rfl

theorem headed_cons_pos {a : α} (h : p a = true) (l : List α) :
    headed p (a :: l) = (a :: (headed p l).1, (headed p l).2) := by
  simp [headed, h]

theorem headed_cons_neg {a : α} (h : p a = false) (l : List α) :
    headed p (a :: l) = ([], (a, (headed p l).1) :: (headed p l).2) := by
  simp [headed, h]

/-- Nothing is lost. -/
theorem headed_append (p : α → Bool) (l : List α) :
    (headed p l).1 ++ joinTurns (headed p l).2 = l := by
  induction l with
  | nil => rfl
  | cons a l ih =>
      cases ha : p a with
      | true => rw [headed_cons_pos ha, List.cons_append, ih]
      | false => rw [headed_cons_neg ha, List.nil_append, joinTurns_cons, ih]

theorem headed_isTurn (p : α → Bool) (l : List α) :
    (∀ a ∈ (headed p l).1, p a = true) ∧ ∀ turn ∈ (headed p l).2, IsTurn p turn := by
  induction l with
  | nil => simp [headed]
  | cons a l ih =>
      cases ha : p a with
      | true =>
          rw [headed_cons_pos ha]
          exact ⟨List.forall_mem_cons.mpr ⟨ha, ih.1⟩, ih.2⟩
      | false =>
          rw [headed_cons_neg ha]
          exact ⟨by simp, List.forall_mem_cons.mpr ⟨⟨ha, ih.1⟩, ih.2⟩⟩

/-- The elements before the first head are those that satisfy the predicate. -/
theorem headed_fst (p : α → Bool) (l : List α) : (headed p l).1 = l.takeWhile p := by
  induction l with
  | nil => rfl
  | cons a l ih =>
      cases ha : p a with
      | true => rw [headed_cons_pos ha, List.takeWhile_cons_of_pos ha, ih]
      | false => rw [headed_cons_neg ha, List.takeWhile_cons_of_neg (by simp [ha])]

theorem headed_front {front : List α} (hfront : ∀ a ∈ front, p a = true) (l : List α) :
    headed p (front ++ l) = (front ++ (headed p l).1, (headed p l).2) := by
  induction front with
  | nil => rfl
  | cons a front ih =>
      rw [List.cons_append, headed_cons_pos (hfront a List.mem_cons_self),
        ih fun b hb => hfront b (List.mem_cons_of_mem a hb)]
      rfl

/-- Turns are cut as they were put together. -/
theorem headed_joinTurns {turns : List (α × List α)} (h : ∀ turn ∈ turns, IsTurn p turn) :
    headed p (joinTurns turns) = ([], turns) := by
  induction turns with
  | nil => rfl
  | cons turn turns ih =>
      obtain ⟨hhead, hbody⟩ := h turn List.mem_cons_self
      have hrest := ih fun other hother => h other (List.mem_cons_of_mem turn hother)
      rw [joinTurns_cons, headed_cons_neg hhead, headed_front hbody, hrest]
      simp

theorem joinTurns_append (turns turns' : List (α × List α)) :
    joinTurns (turns ++ turns') = joinTurns turns ++ joinTurns turns' := by
  simp [joinTurns]

/-- A list of segments is one of turns. -/
theorem segmented_iff_turns {opens : α → List α → Prop} {l : List α} :
    Segmented opens l ↔
      ∃ turns : List (α × List α), joinTurns turns = l ∧ ∀ turn ∈ turns, opens turn.1 turn.2 := by
  constructor
  · intro h
    induction h with
    | nil => exact ⟨[], rfl, by simp⟩
    | cons head body rest hopens _ ih =>
        obtain ⟨turns, rfl, hturns⟩ := ih
        exact ⟨(head, body) :: turns, rfl, List.forall_mem_cons.mpr ⟨hopens, hturns⟩⟩
  · rintro ⟨turns, rfl, hturns⟩
    induction turns with
    | nil => exact .nil
    | cons turn turns ih =>
        apply Segmented.cons _ _ _ (hturns turn List.mem_cons_self)
        exact ih fun other hother => hturns other (List.mem_cons_of_mem turn hother)

/-- An element of a body stands in one of the turns. -/
theorem of_joinTurns_eq {turns : List (α × List α)} (h : ∀ turn ∈ turns, IsTurn p turn)
    {before after : List α} {a : α} (ha : p a = true)
    (hsplit : joinTurns turns = before ++ a :: after) :
    ∃ earlier head front back later, turns = earlier ++ (head, front ++ a :: back) :: later ∧
      before = joinTurns earlier ++ head :: front ∧ after = back ++ joinTurns later := by
  induction turns generalizing before with
  | nil => simp at hsplit
  | cons turn turns ih =>
      obtain ⟨hhead, _⟩ := h turn List.mem_cons_self
      have hrest := fun other hother => h other (List.mem_cons_of_mem turn hother)
      rw [joinTurns_cons] at hsplit
      cases before with
      | nil =>
          obtain ⟨hfirst, _⟩ := List.cons.inj hsplit
          rw [hfirst, ha] at hhead
          cases hhead
      | cons first before =>
          obtain ⟨rfl, hbehind⟩ := List.cons.inj hsplit
          rcases List.append_eq_append_iff.mp hbehind with
            ⟨front, rfl, hlater⟩ | ⟨front, hbody, hback⟩
          · obtain ⟨earlier, head, front, back, later, rfl, rfl, rfl⟩ := ih hrest hlater
            exact ⟨turn :: earlier, head, front, back, later, rfl, by simp, rfl⟩
          · cases front with
            | nil =>
                have hnext : joinTurns turns = [] ++ a :: after := hback.symm
                obtain ⟨earlier, _, _, _, _, _, hnone, _⟩ := ih hrest hnext
                simp at hnone
            | cons other back =>
                obtain ⟨rfl, rfl⟩ := List.cons.inj hback
                refine ⟨[], turn.1, before, back, turns, ?_, rfl, rfl⟩
                rw [List.nil_append, ← hbody]

/-- The body of a turn ends at the next head. -/
theorem takeWhile_body {turns : List (α × List α)} (h : ∀ turn ∈ turns, IsTurn p turn)
    {body : List α} (hbody : ∀ a ∈ body, p a = true) :
    (body ++ joinTurns turns).takeWhile p = body := by
  rw [← headed_fst, headed_front hbody, headed_joinTurns h, List.append_nil]

/-- The last head and what follows it are determined. -/
theorem eq_of_append_cons {x x' y y' : List α} {a a' : α} (h : x ++ a :: y = x' ++ a' :: y')
    (ha : p a = false) (ha' : p a' = false) (hy : ∀ b ∈ y, p b = true)
    (hy' : ∀ b ∈ y', p b = true) : a = a' ∧ y = y' := by
  have hmiddle : ∀ {z y y' : List α} {a a' : α}, a :: y = z ++ a' :: y' → p a' = false →
      (∀ b ∈ y, p b = true) → a = a' ∧ y = y' := by
    intro z y y' a a' hz ha' hy
    cases z with
    | nil => exact List.cons.inj hz
    | cons c z =>
        obtain ⟨_, rfl⟩ := List.cons.inj hz
        have htrue := hy a' (by simp)
        rw [ha'] at htrue
        cases htrue
  rcases List.append_eq_append_iff.mp h with ⟨z, _, hz⟩ | ⟨z, _, hz⟩
  · exact hmiddle hz ha' hy
  · obtain ⟨hhead, hbody⟩ := hmiddle hz ha hy'
    exact ⟨hhead.symm, hbody.symm⟩

/-- Where the keys differ, an element is the only one with its key. -/
theorem filter_key_of_nodup [DecidableEq κ] {key : α → κ} {l : List α} (h : (l.map key).Nodup)
    {a : α} (ha : a ∈ l) : l.filter (fun b => key b = key a) = [a] := by
  induction l with
  | nil => simp at ha
  | cons b l ih =>
      rw [List.map_cons, List.nodup_cons] at h
      rcases List.mem_cons.mp ha with rfl | hrest
      · rw [List.filter_cons_of_pos (by simp), List.cons.injEq]
        refine ⟨rfl, List.filter_eq_nil_iff.mpr fun c hc => ?_⟩
        intro hkey
        apply h.1
        rw [← of_decide_eq_true hkey]
        exact List.mem_map_of_mem hc
      · rw [List.filter_cons_of_neg, ih h.2 hrest]
        intro hkey
        apply h.1
        rw [of_decide_eq_true hkey]
        exact List.mem_map_of_mem hrest

/-! ### Matching -/

/-- The questions and the answers with keys, matched in their order as long as the keys agree
and occur once on either side. -/
def matchUp [DecidableEq κ] (blank : κ) (keyOf : α → κ) (answerKey : β → κ) (questions : List α)
    (answers : List β) : List (α × β) :=
  ((questions.filter fun question => keyOf question ≠ blank).zip
    (answers.filter fun answer => answerKey answer ≠ blank)).takeWhile fun pair =>
      keyOf pair.1 = answerKey pair.2 ∧ (questions.map keyOf).count (keyOf pair.1) = 1 ∧
        (answers.map answerKey).count (answerKey pair.2) = 1

/-- What matched pairs have in common. -/
structure Matched (blank : κ) (keyOf : α → κ) (answerKey : β → κ) (pairs : List (α × β)) :
    Prop where
  same : ∀ pair ∈ pairs, keyOf pair.1 = answerKey pair.2
  present : ∀ pair ∈ pairs, answerKey pair.2 ≠ blank
  distinct : (pairs.map fun pair => answerKey pair.2).Nodup

section
variable [DecidableEq κ] {blank : κ} {keyOf : α → κ} {answerKey : β → κ}

theorem zip_fst_snd (pairs : List (α × β)) : (pairs.map (·.1)).zip (pairs.map (·.2)) = pairs := by
  induction pairs with
  | nil => rfl
  | cons pair pairs ih => simp [ih]

theorem zip_questions_front (l : List α) (l' : List β) : (l.zip l').map (·.1) <+: l := by
  induction l generalizing l' with
  | nil => simp
  | cons a l ih =>
      cases l' with
      | nil => simp
      | cons b l' => simpa using ih l'

theorem zip_answers_front (l : List α) (l' : List β) : (l.zip l').map (·.2) <+: l' := by
  induction l generalizing l' with
  | nil => simp
  | cons a l ih =>
      cases l' with
      | nil => simp
      | cons b l' => simpa using ih l'

/-- The matched pairs come first among the pairs with keys. -/
theorem matchUp_front (questions : List α) (answers : List β) :
    matchUp blank keyOf answerKey questions answers <+:
      (questions.filter fun question => keyOf question ≠ blank).zip
        (answers.filter fun answer => answerKey answer ≠ blank) :=
  List.takeWhile_prefix _

theorem matchUp_questions_front (questions : List α) (answers : List β) :
    (matchUp blank keyOf answerKey questions answers).map (·.1) <+:
      questions.filter fun question => keyOf question ≠ blank :=
  ((matchUp_front questions answers).map _).trans (zip_questions_front _ _)

theorem matchUp_answers_front (questions : List α) (answers : List β) :
    (matchUp blank keyOf answerKey questions answers).map (·.2) <+:
      answers.filter fun answer => answerKey answer ≠ blank :=
  ((matchUp_front questions answers).map _).trans (zip_answers_front _ _)

/-- The matched answers are answers, in their order. -/
theorem matchUp_snd_sublist (questions : List α) (answers : List β) :
    ((matchUp blank keyOf answerKey questions answers).map (·.2)).Sublist answers :=
  (matchUp_answers_front questions answers).sublist.trans List.filter_sublist

theorem of_mem_matchUp {questions : List α} {answers : List β} {pair : α × β}
    (h : pair ∈ matchUp blank keyOf answerKey questions answers) :
    keyOf pair.1 = answerKey pair.2 ∧ (questions.map keyOf).count (keyOf pair.1) = 1 ∧
      (answers.map answerKey).count (answerKey pair.2) = 1 := by
  unfold matchUp at h
  have hkept := List.mem_takeWhile_imp h
  exact of_decide_eq_true hkept

theorem matchUp_matched (questions : List α) (answers : List β) :
    Matched blank keyOf answerKey (matchUp blank keyOf answerKey questions answers) := by
  refine ⟨fun pair hpair => (of_mem_matchUp hpair).1, ?_, ?_⟩
  · intro pair hpair
    have hmem := (matchUp_answers_front questions answers).subset (List.mem_map_of_mem hpair)
    exact of_decide_eq_true (List.mem_filter.mp hmem).2
  · rw [List.nodup_iff_count_le_one]
    intro key
    by_cases hkey : key ∈ (matchUp blank keyOf answerKey questions answers).map
        fun pair => answerKey pair.2
    · obtain ⟨pair, hpair, rfl⟩ := List.mem_map.mp hkey
      have hsub : (((matchUp blank keyOf answerKey questions answers).map (·.2)).map
          answerKey).Sublist (answers.map answerKey) :=
        (matchUp_snd_sublist questions answers).map answerKey
      rw [List.map_map] at hsub
      exact (hsub.count_le _).trans (of_mem_matchUp hpair).2.2.le
    · rw [List.count_eq_zero.mpr hkey]
      exact Nat.zero_le 1

/-- Pairs are matched again among questions of which they are the first. -/
theorem matchUp_of_pairs {pairs : List (α × β)} (h : Matched blank keyOf answerKey pairs)
    {questions : List α}
    (hfirst : pairs.map (·.1) <+: questions.filter fun question => keyOf question ≠ blank)
    (hunique : ∀ pair ∈ pairs, (questions.map keyOf).count (keyOf pair.1) = 1) :
    matchUp blank keyOf answerKey questions (pairs.map (·.2)) = pairs := by
  have hanswers : (pairs.map (·.2)).filter (fun answer => answerKey answer ≠ blank) =
      pairs.map (·.2) := by
    rw [List.filter_eq_self]
    intro answer hanswer
    obtain ⟨pair, hpair, rfl⟩ := List.mem_map.mp hanswer
    exact decide_eq_true (h.present pair hpair)
  obtain ⟨others, hothers⟩ := hfirst
  have hzip : (questions.filter fun question => keyOf question ≠ blank).zip (pairs.map (·.2)) =
      pairs := by
    have hlength : (pairs.map (·.1)).length = (pairs.map (·.2)).length := by simp
    have happend : (pairs.map (·.1) ++ others).zip (pairs.map (·.2) ++ []) =
        (pairs.map (·.1)).zip (pairs.map (·.2)) ++ others.zip [] := List.zip_append hlength
    rw [List.append_nil, hothers, zip_fst_snd] at happend
    simpa using happend
  rw [matchUp, hanswers, hzip, List.takeWhile_eq_self_iff]
  intro pair hpair
  apply decide_eq_true
  refine ⟨h.same pair hpair, hunique pair hpair, ?_⟩
  rw [List.map_map]
  apply List.count_eq_one_of_mem h.distinct
  exact List.mem_map_of_mem hpair

/-- Matching again with the matched answers changes nothing. -/
theorem matchUp_again (questions : List α) (answers : List β) :
    matchUp blank keyOf answerKey questions
        ((matchUp blank keyOf answerKey questions answers).map (·.2)) =
      matchUp blank keyOf answerKey questions answers := by
  apply matchUp_of_pairs (matchUp_matched questions answers)
    (matchUp_questions_front questions answers)
  exact fun pair hpair => (of_mem_matchUp hpair).2.1

/-- Matched pairs match with each other. -/
theorem Matched.matchUp_self {pairs : List (α × β)} (h : Matched blank keyOf answerKey pairs) :
    matchUp blank keyOf answerKey (pairs.map (·.1)) (pairs.map (·.2)) = pairs := by
  have hkeys : (pairs.map (·.1)).map keyOf = pairs.map fun pair => answerKey pair.2 := by
    rw [List.map_map]
    apply List.map_congr_left
    exact h.same
  apply matchUp_of_pairs h
  · have hall : (pairs.map (·.1)).filter (fun question => keyOf question ≠ blank) =
        pairs.map (·.1) := by
      rw [List.filter_eq_self]
      intro question hquestion
      obtain ⟨pair, hpair, rfl⟩ := List.mem_map.mp hquestion
      apply decide_eq_true
      rw [h.same pair hpair]
      exact h.present pair hpair
    exact hall.symm ▸ List.prefix_refl _
  · intro pair hpair
    rw [hkeys]
    apply List.count_eq_one_of_mem h.distinct
    rw [h.same pair hpair]
    exact List.mem_map_of_mem hpair

end

end VvAgent.Lib
