import VvAgent.Lib.Run

/-!
Counters of a machine. A number that every admissible event leaves or raises by one never
falls along a run, and the run passes through every value between its ends.
-/

namespace VvAgent.Lib

variable {σ ε : Type} {step : ε → σ → σ} {Allowed : ε → σ → Prop} {Holds : σ → Prop}
  {count : σ → Nat}

/-- A run whose events are all admissible, whatever states they meet. -/
theorem along_of_forall {Wanted : ε → Prop} {events : List ε} {state : σ}
    (h : ∀ event ∈ events, Wanted event) : Along step (fun event _ => Wanted event) events state := by
  induction events generalizing state with
  | nil => trivial
  | cons event rest ih =>
      refine ⟨h event List.mem_cons_self, ih ?_⟩
      intro later hlater
      exact h later (List.mem_cons_of_mem _ hlater)

/-- A counter that is left or raised by one at a time never falls, and skips nothing. -/
theorem along_counts
    (hkept : ∀ event state, Allowed event state → Holds state → Holds (step event state))
    (hcount : ∀ event state, Allowed event state → Holds state →
      count (step event state) = count state ∨ count (step event state) = count state + 1)
    {events : List ε} {state : σ} (halong : Along step Allowed events state)
    (hholds : Holds state) :
    count state ≤ count (run step events state) ∧
      ∀ value, count state ≤ value → value ≤ count (run step events state) →
        ∃ first rest, events = first ++ rest ∧ count (run step first state) = value := by
  induction events generalizing state with
  | nil =>
      refine ⟨Nat.le_refl _, ?_⟩
      intro value hlow hhigh
      refine ⟨[], [], rfl, ?_⟩
      rw [run_nil] at hhigh ⊢
      omega
  | cons event rest ih =>
      obtain ⟨hallowed, hrest⟩ := halong
      obtain ⟨hmono, hpasses⟩ := ih hrest (hkept event state hallowed hholds)
      have hmoved := hcount event state hallowed hholds
      rw [run_cons]
      refine ⟨by omega, ?_⟩
      intro value hlow hhigh
      by_cases hhere : value = count state
      · exact ⟨[], event :: rest, rfl, hhere.symm⟩
      · have hnext : count (step event state) ≤ value := by omega
        obtain ⟨first, later, hsplit, hvalue⟩ := hpasses value hnext hhigh
        refine ⟨event :: first, later, ?_, hvalue⟩
        rw [hsplit, List.cons_append]

end VvAgent.Lib
