import VvAgent.Lib.Run

/-!
Machines that answer every event, the list of their answers over a run, and simulations between
two such machines. Nothing here refers to a particular machine.
-/

namespace VvAgent.Lib

variable {ε ρ σ τ : Type}

/-- The state of an answering machine after an event. -/
def next (step : ε → σ → ρ × σ) (event : ε) (state : σ) : σ := (step event state).2

/-- The answers to a list of events, the first one first. -/
def answers (step : ε → σ → ρ × σ) : List ε → σ → List ρ
  | [], _ => []
  | event :: rest, state => (step event state).1 :: answers step rest (next step event state)

@[simp]
theorem answers_nil (step : ε → σ → ρ × σ) (state : σ) : answers step [] state = [] := rfl

@[simp]
theorem answers_cons (step : ε → σ → ρ × σ) (event : ε) (rest : List ε) (state : σ) :
    answers step (event :: rest) state =
      (step event state).1 :: answers step rest (next step event state) := rfl

/-- States of a machine that stand for the states of another one: from related states, an event
that is allowed has one answer on both sides and leads to related states. -/
structure Simulation (concrete : ε → σ → ρ × σ) (abstract : ε → τ → ρ × τ)
    (Allowed : ε → τ → Prop) (Related : σ → τ → Prop) : Prop where
  answer : ∀ event state image, Allowed event image → Related state image →
    (concrete event state).1 = (abstract event image).1
  related : ∀ event state image, Allowed event image → Related state image →
    Related (next concrete event state) (next abstract event image)

namespace Simulation

variable {concrete : ε → σ → ρ × σ} {abstract : ε → τ → ρ × τ} {Allowed : ε → τ → Prop}
  {Related : σ → τ → Prop}

theorem run (h : Simulation concrete abstract Allowed Related) {events : List ε} {state : σ}
    {image : τ} (halong : Along (next abstract) Allowed events image)
    (hrelated : Related state image) :
    Related (Lib.run (next concrete) events state) (Lib.run (next abstract) events image) := by
  induction events generalizing state image with
  | nil => exact hrelated
  | cons event rest ih =>
      exact ih halong.2 (h.related event state image halong.1 hrelated)

theorem answers (h : Simulation concrete abstract Allowed Related) {events : List ε} {state : σ}
    {image : τ} (halong : Along (next abstract) Allowed events image)
    (hrelated : Related state image) :
    Lib.answers concrete events state = Lib.answers abstract events image := by
  induction events generalizing state image with
  | nil => rfl
  | cons event rest ih =>
      have hfirst := h.answer event state image halong.1 hrelated
      have hrest := ih halong.2 (h.related event state image halong.1 hrelated)
      rw [answers_cons, answers_cons, hfirst, hrest]

/-- What is allowed along a run is allowed along a run that it simulates. -/
theorem along (h : Simulation concrete abstract Allowed Related)
    {Permitted : ε → σ → Prop}
    (hpermitted : ∀ event state image, Related state image → Allowed event image →
      Permitted event state) {events : List ε} {state : σ} {image : τ}
    (halong : Along (next abstract) Allowed events image) (hrelated : Related state image) :
    Along (next concrete) Permitted events state := by
  induction events generalizing state image with
  | nil => trivial
  | cons event rest ih =>
      exact ⟨hpermitted event state image hrelated halong.1,
        ih halong.2 (h.related event state image halong.1 hrelated)⟩

/-- Every machine simulates itself. -/
theorem refl (step : ε → σ → ρ × σ) (Allowed : ε → σ → Prop) :
    Simulation step step Allowed fun state image => state = image := by
  constructor
  · rintro event state _ _ rfl
    rfl
  · rintro event state _ _ rfl
    rfl

end Simulation

end VvAgent.Lib
