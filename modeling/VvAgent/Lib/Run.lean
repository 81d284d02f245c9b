import Mathlib.Logic.Basic

/-!
Runs of a machine whose steps are driven by a list of events, and the rules by which a
property of single steps becomes a property of whole runs. Nothing here refers to a
particular machine.
-/

namespace VvAgent.Lib

variable {σ ε : Type}

/-- The state after a list of events, the first one first. -/
def run (step : ε → σ → σ) : List ε → σ → σ
  | [], state => state
  | event :: rest, state => run step rest (step event state)

@[simp]
theorem run_nil (step : ε → σ → σ) (state : σ) : run step [] state = state := rfl

@[simp]
theorem run_cons (step : ε → σ → σ) (event : ε) (rest : List ε) (state : σ) :
    run step (event :: rest) state = run step rest (step event state) := rfl

theorem run_append (step : ε → σ → σ) (first second : List ε) (state : σ) :
    run step (first ++ second) state = run step second (run step first state) := by
  induction first generalizing state with
  | nil => rfl
  | cons event rest ih => exact ih (step event state)

/-- What every admissible event preserves, every admissible run preserves. -/
theorem run_preserves (step : ε → σ → σ) (Allowed : ε → Prop) (Holds : σ → Prop)
    (hstep : ∀ event state, Allowed event → Holds state → Holds (step event state))
    (events : List ε) (hallowed : ∀ event ∈ events, Allowed event) (state : σ)
    (hholds : Holds state) : Holds (run step events state) := by
  induction events generalizing state with
  | nil => exact hholds
  | cons event rest ih =>
      have hevent : Allowed event := hallowed event (by simp)
      have hrest : ∀ later ∈ rest, Allowed later := fun later hlater =>
        hallowed later (by simp [hlater])
      exact ih hrest (step event state) (hstep event state hevent hholds)

/-- Every event of a run is admissible in the state it meets. -/
def Along (step : ε → σ → σ) (Allowed : ε → σ → Prop) : List ε → σ → Prop
  | [], _ => True
  | event :: rest, state => Allowed event state ∧ Along step Allowed rest (step event state)

theorem along_and {step : ε → σ → σ} {First Second : ε → σ → Prop} {events : List ε} {state : σ}
    (hfirst : Along step First events state) (hsecond : Along step Second events state) :
    Along step (fun event state => First event state ∧ Second event state) events state := by
  induction events generalizing state with
  | nil => trivial
  | cons event rest ih => exact ⟨⟨hfirst.1, hsecond.1⟩, ih hfirst.2 hsecond.2⟩

theorem along_append {step : ε → σ → σ} {Allowed : ε → σ → Prop} (first second : List ε)
    (state : σ) : Along step Allowed (first ++ second) state ↔
      Along step Allowed first state ∧ Along step Allowed second (run step first state) := by
  induction first generalizing state with
  | nil => simp [Along]
  | cons event rest ih => rw [List.cons_append, Along, Along, ih, and_assoc, run_cons]

/-- What every event preserves in the states it is admissible in holds in every state of a
run along admissible events. -/
theorem along_preserves {step : ε → σ → σ} {Allowed : ε → σ → Prop} {Holds : σ → Prop}
    (hstep : ∀ event state, Allowed event state → Holds state → Holds (step event state))
    {events : List ε} {state : σ} (halong : Along step Allowed events state)
    (hholds : Holds state) (first rest : List ε) (hevents : events = first ++ rest) :
    Holds (run step first state) := by
  induction first generalizing events state with
  | nil => exact hholds
  | cons event first ih =>
      subst hevents
      obtain ⟨hallowed, hlater⟩ := halong
      exact ih hlater (hstep event state hallowed hholds) rfl

/-- A reflexive and transitive relation between the ends of every admissible step relates
the ends of every admissible run. -/
theorem run_relates (step : ε → σ → σ) (Allowed : ε → Prop) (Holds : σ → Prop)
    (Related : σ → σ → Prop) (hrefl : ∀ state, Related state state)
    (htrans : ∀ first second third, Related first second → Related second third →
      Related first third)
    (hkept : ∀ event state, Allowed event → Holds state → Holds (step event state))
    (hstep : ∀ event state, Allowed event → Holds state → Related state (step event state))
    (events : List ε) (hallowed : ∀ event ∈ events, Allowed event) (state : σ)
    (hholds : Holds state) : Related state (run step events state) := by
  induction events generalizing state with
  | nil => exact hrefl state
  | cons event rest ih =>
      have hevent : Allowed event := hallowed event (by simp)
      have hrest : ∀ later ∈ rest, Allowed later := fun later hlater =>
        hallowed later (by simp [hlater])
      exact htrans _ _ _ (hstep event state hevent hholds)
        (ih hrest (step event state) (hkept event state hevent hholds))

/-- Where an event keeps a property exactly if it is admissible, the runs in which the property
holds throughout are those along admissible events. -/
theorem holds_throughout_iff {step : ε → σ → σ} {Allowed : ε → σ → Prop} {Holds : σ → Prop}
    (hstep : ∀ event state, Holds state → (Holds (step event state) ↔ Allowed event state))
    (events : List ε) {state : σ} (hholds : Holds state) :
    (∀ first rest, events = first ++ rest → Holds (run step first state)) ↔
      Along step Allowed events state := by
  constructor
  · intro h
    induction events generalizing state with
    | nil => trivial
    | cons event events ih =>
        have hnext : Holds (step event state) := h [event] events rfl
        refine ⟨(hstep event state hholds).mp hnext, ih hnext ?_⟩
        intro first rest hevents
        exact h (event :: first) rest (by rw [hevents, List.cons_append])
  · intro halong first rest hevents
    exact along_preserves (fun event state hallowed hstate => (hstep event state hstate).mpr hallowed)
      halong hholds first rest hevents

end VvAgent.Lib
