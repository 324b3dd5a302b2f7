import SnakePosix.Foundation.GuardedRuns

/-! What the steps of a run give off, noted in their order by somebody who watches: a
history that no step reads, and the rule for invariants of a state and its history. -/
namespace SnakePosix.Histories
open GuardedRuns

/-- A step that fails ends the run and gives nothing off. -/
def history (step : σ → ι → Except ε σ) (gives : σ → ι → List α) : σ → List ι → List α
  | _, [] => []
  | state, input :: rest =>
    match step state input with
    | .ok next => gives state input ++ history step gives next rest
    | .error _ => []

theorem history_cons {step : σ → ι → Except ε σ} (gives : σ → ι → List α) (stepped : step state input = .ok next)
    (rest : List ι) :
    history step gives state (input :: rest) = gives state input ++ history step gives next rest := by
  rw [history, stepped]

/-- An invariant of the state and the history before it, kept by every guarded step with
what the step gives off, holds at the end of a guarded run with the whole history. -/
theorem run_history {step : σ → ι → Except ε σ} {good : σ → ι → Prop} {gives : σ → ι → List α}
    (keeps : List α → σ → Prop) (inputs : List ι)
    (each : ∀ before state input next, keeps before state → good state input → step state input = .ok next →
      keeps (before ++ gives state input) next)
    (held : keeps before state) (guarded : Guarded step good state inputs)
    (ran : inputs.foldlM step state = .ok final) : keeps (before ++ history step gives state inputs) final := by
  induction inputs generalizing before state with
  | nil =>
    cases ran
    simpa [history] using held
  | cons input rest ih =>
    obtain ⟨next, stepped, ran⟩ := run_cons.mp ran
    have later := ih (each before state input next held guarded.1 stepped) (guarded_tail guarded stepped) ran
    rw [history_cons gives stepped, ← List.append_assoc]
    exact later

end SnakePosix.Histories
