import Mathlib.Data.List.Basic
import Mathlib.Data.List.Infix
import Mathlib.Tactic.Common

namespace Refinement

variable {σ τ ι ρ : Type*}

/-- The results of the calls in order and the state after them, when none of the
calls is refused. -/
def run (step : σ → ι → Option (ρ × σ)) (state : σ) : List ι → Option (List ρ × σ)
  | [] => some ([], state)
  | call :: calls =>
    (step state call).bind fun next =>
      (run step next.2 calls).map fun last => (next.1 :: last.1, last.2)

/-- The concrete machine accepts the calls that the abstract one accepts, with the
same results, and its states are viewed as those of the abstract one. -/
structure Refines (concrete : σ → ι → Option (ρ × σ)) (abstract : τ → ι → Option (ρ × τ))
    (view : σ → τ) (Inv : σ → Prop) : Prop where
  keeps : ∀ {state call result next}, concrete state call = some (result, next) →
    Inv state → Inv next
  simulates : ∀ {state}, Inv state → ∀ call,
    (concrete state call).map (Prod.map id view) = abstract (view state) call

namespace Refines

variable {concrete : σ → ι → Option (ρ × σ)} {abstract : τ → ι → Option (ρ × τ)} {view : σ → τ}
  {Inv : σ → Prop}

theorem run_keeps (h : Refines concrete abstract view Inv) {state : σ} (hstate : Inv state)
    {calls : List ι} {results : List ρ} {last : σ}
    (hrun : run concrete state calls = some (results, last)) : Inv last := by
  induction calls generalizing state results with
  | nil =>
    cases hrun
    exact hstate
  | cons call calls ih =>
    obtain ⟨⟨result, next⟩, hstep, hrest⟩ := Option.bind_eq_some_iff.mp hrun
    obtain ⟨⟨rest, after⟩, hafter, heq⟩ := Option.map_eq_some_iff.mp hrest
    cases heq
    exact ih (h.keeps hstep hstate) hafter

/-- A step that a machine refines is refined over whole runs. -/
theorem run_simulates (h : Refines concrete abstract view Inv) {state : σ} (hstate : Inv state)
    (calls : List ι) :
    (run concrete state calls).map (Prod.map id view) = run abstract (view state) calls := by
  induction calls generalizing state with
  | nil => rfl
  | cons call calls ih =>
    rw [run, run, ← h.simulates hstate call]
    cases hstep : concrete state call with
    | none => rfl
    | some next =>
      obtain ⟨result, next⟩ := next
      have hrest := ih (h.keeps hstep hstate)
      simp only [Option.bind_some, Option.map_some, Prod.map_apply, id_eq, Option.map_map]
      rw [← hrest, Option.map_map]
      rfl

end Refines

end Refinement
