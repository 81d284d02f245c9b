import Mathlib.Logic.Function.Basic
import VvAgent.Lib.Run

/-!
Machines side by side, one for every index. An event names the machine that takes it, and the
others stay as they are. Nothing here refers to a particular machine.
-/

namespace VvAgent.Lib

variable {ι ε σ : Type} [DecidableEq ι]

def family (step : ε → σ → σ) (event : ι × ε) (states : ι → σ) : ι → σ :=
  Function.update states event.1 (step event.2 (states event.1))

theorem family_self (step : ε → σ → σ) (i : ι) (event : ε) (states : ι → σ) :
    family step (i, event) states i = step event (states i) := by
  simp [family]

theorem family_other (step : ε → σ → σ) {i j : ι} (hne : j ≠ i) (event : ε) (states : ι → σ) :
    family step (i, event) states j = states j := by
  simp [family, hne]

theorem family_holds {step : ε → σ → σ} {Allowed : ε → σ → Prop} {Holds : σ → Prop}
    (hstep : ∀ event state, Allowed event state → Holds state → Holds (step event state))
    {event : ι × ε} {states : ι → σ} (hallowed : Allowed event.2 (states event.1))
    (hholds : ∀ i, Holds (states i)) (j : ι) : Holds (family step event states j) := by
  obtain ⟨i, event⟩ := event
  by_cases hj : j = i
  · subst hj
    rw [family_self]
    exact hstep event (states j) hallowed (hholds j)
  · rw [family_other step hj]
    exact hholds j

/-- What every event preserves in the states of one machine that it is admissible in holds of
every machine, in every state of a run along admissible events. -/
theorem family_preserves {step : ε → σ → σ} {Allowed : ε → σ → Prop} {Holds : σ → Prop}
    (hstep : ∀ event state, Allowed event state → Holds state → Holds (step event state))
    {events : List (ι × ε)} {states : ι → σ}
    (halong : Along (family step) (fun event states => Allowed event.2 (states event.1)) events
      states)
    (hholds : ∀ i, Holds (states i)) (first rest : List (ι × ε)) (hevents : events = first ++ rest) :
    ∀ i, Holds (run (family step) first states i) :=
  @along_preserves _ _ (family step) _ (fun states => ∀ i, Holds (states i))
    (fun _ _ hallowed hstates => family_holds hstep hallowed hstates) events states halong hholds
    first rest hevents

/-- What follows for an event from its being admissible in a state of one machine follows for
every event of a run along admissible events. -/
theorem family_along {step : ε → σ → σ} {Allowed Follows : ε → σ → Prop} {Holds : σ → Prop}
    (hstep : ∀ event state, Allowed event state → Holds state → Holds (step event state))
    (hfollows : ∀ event state, Allowed event state → Holds state → Follows event state)
    {events : List (ι × ε)} {states : ι → σ}
    (halong : Along (family step) (fun event states => Allowed event.2 (states event.1)) events
      states)
    (hholds : ∀ i, Holds (states i)) :
    Along (family step) (fun event states => Follows event.2 (states event.1)) events states := by
  induction events generalizing states with
  | nil => trivial
  | cons event rest ih =>
      exact ⟨hfollows event.2 (states event.1) halong.1 (hholds event.1),
        ih halong.2 (family_holds hstep halong.1 hholds)⟩

end VvAgent.Lib
