import SnakePosix.Foundation.GuardedRuns

/-! Runs of an abstract machine, whose labelled steps are a relation, and machines
that simulate it: every run of a step function is a run of the abstract machine seen
through an abstraction function. -/
namespace SnakePosix.Simulations
open GuardedRuns

/-- The steps of an abstract machine, one label after the other. -/
inductive Steps (step : α → ι → α → Prop) : α → List ι → α → Prop where
  | done : Steps step state [] state
  | next (first : step state label middle) (later : Steps step middle rest final) :
    Steps step state (label :: rest) final

/-- Guarded steps that go through, keep an invariant and are steps of the abstract
machine make guarded runs that go through and are runs of it. -/
theorem run_simulates {step : σ → ι → Except ε σ} {good : σ → ι → Prop} {abstractStep : α → ι → α → Prop}
    (abstraction : σ → α) (keeps : σ → Prop)
    (each : ∀ state input, keeps state → good state input →
      ∃ next, step state input = .ok next ∧ keeps next ∧ abstractStep (abstraction state) input (abstraction next))
    (inputs : List ι) (held : keeps state) (guarded : Guarded step good state inputs) :
    ∃ final, inputs.foldlM step state = .ok final ∧ keeps final ∧
      Steps abstractStep (abstraction state) inputs (abstraction final) := by
  induction inputs generalizing state with
  | nil => exact ⟨state, rfl, held, .done⟩
  | cons input rest ih =>
    obtain ⟨next, stepped, kept, abstracted⟩ := each state input held guarded.1
    obtain ⟨final, ran, last, steps⟩ := ih kept (guarded_tail guarded stepped)
    exact ⟨final, (run_cons_ok stepped).trans ran, last, .next abstracted steps⟩

end SnakePosix.Simulations
