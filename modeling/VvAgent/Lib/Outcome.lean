import Mathlib.Logic.Basic

/-!
Sequencing of fallible computations. A routine that may fail is an `Except`
program: guards, fallible reads and a final value, run in the order in which
they are written. The lemmas here take such a program apart: what a successful
run went through, guard by guard. Nothing in this module refers to a particular
error type or program.
-/

namespace VvAgent.Lib.Outcome

variable {ε α β : Type}

/-- Fail with `error` when `bad` holds, and continue otherwise. -/
def refuse (bad : Bool) (error : ε) : Except ε Unit :=
  if bad then .error error else .ok ()

/-- The value of an option, or `error` when there is none. -/
def require (value : Option α) (error : ε) : Except ε α :=
  match value with
  | some a => .ok a
  | none => .error error

/-- Run a check on every element, in order, stopping at the first failure. -/
def checkAll (check : α → Except ε Unit) : List α → Except ε Unit
  | [] => .ok ()
  | a :: rest => check a >>= fun _ => checkAll check rest

@[simp]
theorem refuse_eq_ok (bad : Bool) (error : ε) (u : Unit) :
    refuse bad error = .ok u ↔ bad = false := by
  cases bad <;> simp [refuse]

@[simp]
theorem refuse_false (error : ε) : refuse false error = .ok () := rfl

@[simp]
theorem refuse_true (error : ε) : refuse true error = .error error := rfl

theorem refuse_eq_error (bad : Bool) (error e : ε) :
    refuse bad error = .error e ↔ bad = true ∧ e = error := by
  cases bad <;> simp [refuse, eq_comm]

@[simp]
theorem require_eq_ok (value : Option α) (error : ε) (a : α) :
    require value error = .ok a ↔ value = some a := by
  cases value <;> simp [require]

@[simp]
theorem require_some (a : α) (error : ε) :
    require (some a) error = .ok a := rfl

@[simp]
theorem require_none (error : ε) :
    require (none : Option α) error = .error error := rfl

/-- A sequence succeeds exactly when both of its halves do. -/
theorem bind_eq_ok (x : Except ε α) (f : α → Except ε β) (b : β) :
    (x >>= f) = .ok b ↔ ∃ a, x = .ok a ∧ f a = .ok b := by
  cases x with
  | error e => simp [bind, Except.bind]
  | ok a => simp [bind, Except.bind]

@[simp]
theorem ok_bind (a : α) (f : α → Except ε β) :
    ((.ok a : Except ε α) >>= f) = f a := rfl

@[simp]
theorem error_bind (e : ε) (f : α → Except ε β) :
    ((.error e : Except ε α) >>= f) = .error e := rfl

theorem bind_eq_error (x : Except ε α) (f : α → Except ε β) (e : ε) :
    (x >>= f) = .error e ↔
      x = .error e ∨ ∃ a, x = .ok a ∧ f a = .error e := by
  cases x with
  | error e' => simp [bind, Except.bind]
  | ok a => simp [bind, Except.bind]

@[simp]
theorem pure_ok (a : α) : (pure a : Except ε α) = .ok a := rfl

theorem unit_guard_bind (x : Except ε Unit) (f : Unit → Except ε β) (b : β) :
    (x >>= f) = .ok b ↔ x = .ok () ∧ f () = .ok b := by
  cases x with
  | error e => simp [bind, Except.bind]
  | ok a => simp [bind, Except.bind]

@[simp]
theorem checkAll_eq_ok (check : α → Except ε Unit) (l : List α) (u : Unit) :
    checkAll check l = .ok u ↔ ∀ a ∈ l, check a = .ok () := by
  induction l with
  | nil => simp [checkAll]
  | cons a rest ih => simp [checkAll, unit_guard_bind, ih]

/-- Every value a program can end with satisfies `P`. -/
def Yields (x : Except ε α) (P : α → Prop) : Prop := ∀ a, x = .ok a → P a

theorem Yields.ok {P : α → Prop} {a : α} (h : P a) : Yields (.ok a : Except ε α) P := by
  rintro b ⟨⟩
  exact h

theorem Yields.pure {P : α → Prop} {a : α} (h : P a) : Yields (Pure.pure a : Except ε α) P :=
  Yields.ok h

theorem Yields.error {P : α → Prop} (e : ε) : Yields (.error e : Except ε α) P := by
  rintro a ⟨⟩

/-- A sequence ends where its second half ends. -/
theorem Yields.bind {P : β → Prop} {x : Except ε α} {f : α → Except ε β}
    (h : ∀ a, x = .ok a → Yields (f a) P) : Yields (x >>= f) P := by
  intro b hb
  obtain ⟨a, ha, hf⟩ := (bind_eq_ok x f b).mp hb
  exact h a ha b hf

/-- A program that ends with a check of its value only returns what passes it. -/
theorem Yields.checked (check : α → Except ε Unit) (a : α) :
    Yields (check a >>= fun _ => Pure.pure a) fun b => check b = .ok () := by
  intro b hb
  obtain ⟨_, hcheck, hpure⟩ := (bind_eq_ok _ _ _).mp hb
  cases hpure
  exact hcheck

/-- Two programs that end with the same value, or fail alike as far as `key` tells. -/
def AgreeBy {κ : Type} (key : ε → κ) : Except ε α → Except ε α → Prop
  | .ok a, .ok b => a = b
  | .error e, .error e' => key e = key e'
  | _, _ => False

theorem AgreeBy.refl {κ : Type} (key : ε → κ) (x : Except ε α) : AgreeBy key x x := by
  cases x with
  | ok a => exact rfl
  | error e => exact rfl

/-- Programs that agree step by step agree. -/
theorem AgreeBy.bind {κ : Type} {key : ε → κ} {x y : Except ε α} {f g : α → Except ε β}
    (hfirst : AgreeBy key x y) (hrest : ∀ a, x = .ok a → AgreeBy key (f a) (g a)) :
    AgreeBy key (x >>= f) (y >>= g) := by
  cases x with
  | error e =>
      cases y with
      | error e' => exact hfirst
      | ok b => exact hfirst.elim
  | ok a =>
      cases y with
      | error e' => exact hfirst.elim
      | ok b =>
          obtain rfl : a = b := hfirst
          exact hrest a rfl

end VvAgent.Lib.Outcome
