import Mathlib.Order.Basic

/-! Runs of a step function that may fail, over a list of inputs, and the rules
that carry an invariant along them. A run may be asked to meet a condition on
the state before each of its steps. -/
namespace SnakePosix.GuardedRuns

/-- The two parts of a computation that returns. -/
theorem bind_ok {first : Except ε α} {second : α → Except ε β} :
    (first >>= second) = .ok result ↔ ∃ value, first = .ok value ∧ second value = .ok result := by
  cases first with
  | error failure => simp [bind, Except.bind]
  | ok value => simp [bind, Except.bind]

/-- Whether a computation returns with a property is found by running it. -/
instance decidableReturns (result : Except ε σ) (holds : σ → Prop) [DecidablePred holds] :
    Decidable (∃ final, result = .ok final ∧ holds final) :=
  match result with
  | .ok final => decidable_of_iff (holds final)
      ⟨fun held => ⟨final, rfl, held⟩, fun ⟨_, same, held⟩ => Except.ok.inj same ▸ held⟩
  | .error _ => isFalse fun ⟨_, returned, _⟩ => nomatch returned

instance decidableReturnsAny (result : Except ε σ) : Decidable (∃ final, result = .ok final) :=
  match result with
  | .ok final => isTrue ⟨final, rfl⟩
  | .error _ => isFalse fun ⟨_, returned⟩ => nomatch returned

instance decidableFails [DecidableEq ε] (result : Except ε σ) (failure : ε) : Decidable (result = .error failure) :=
  match result with
  | .ok _ => isFalse nofun
  | .error other => decidable_of_iff (other = failure) ⟨congrArg Except.error, Except.error.inj⟩

/-- Every step of the run that is reached meets the condition. A failed step
ends the run, so nothing is asked after it. -/
def Guarded (step : σ → ι → Except ε σ) (good : σ → ι → Prop) : σ → List ι → Prop
  | _, [] => True
  | state, input :: rest => good state input ∧
    match step state input with
    | .ok next => Guarded step good next rest
    | .error _ => True

instance decidableGuarded (step : σ → ι → Except ε σ) (good : σ → ι → Prop)
    [each : ∀ state input, Decidable (good state input)] :
    ∀ state inputs, Decidable (Guarded step good state inputs)
  | _, [] => isTrue trivial
  | state, input :: rest =>
    match each state input with
    | isFalse unmet => isFalse fun held => unmet held.1
    | isTrue met =>
      match reached : step state input with
      | .ok next =>
        match decidableGuarded step good next rest with
        | isTrue later => isTrue ⟨met, by rw [reached]; exact later⟩
        | isFalse never => isFalse fun held => never (by simpa [Guarded, reached] using held.2)
      | .error _ => isTrue ⟨met, by rw [reached]; trivial⟩

theorem guarded_tail {step : σ → ι → Except ε σ} {good : σ → ι → Prop}
    (guarded : Guarded step good state (input :: rest)) (stepped : step state input = .ok next) :
    Guarded step good next rest := by
  simpa [Guarded, stepped] using guarded.2

theorem guarded_always {step : σ → ι → Except ε σ} {good : σ → ι → Prop}
    (always : ∀ state input, good state input) (state : σ) (inputs : List ι) :
    Guarded step good state inputs := by
  induction inputs generalizing state with
  | nil => trivial
  | cons input rest ih =>
    refine ⟨always state input, ?_⟩
    cases step state input with
    | error failure => trivial
    | ok next => exact ih next

theorem run_cons {step : σ → ι → Except ε σ} :
    (input :: rest).foldlM step state = .ok final ↔
      ∃ next, step state input = .ok next ∧ rest.foldlM step next = .ok final := by
  rw [List.foldlM_cons]
  exact bind_ok

theorem run_cons_ok {step : σ → ι → Except ε σ} (stepped : step state input = .ok next) :
    (input :: rest).foldlM step state = rest.foldlM step next := by
  rw [List.foldlM_cons, stepped]
  rfl

theorem run_append {step : σ → ι → Except ε σ} {first second : List ι} :
    (first ++ second).foldlM step state = .ok final ↔
      ∃ middle, first.foldlM step state = .ok middle ∧ second.foldlM step middle = .ok final := by
  rw [List.foldlM_append]
  exact bind_ok

/-- An invariant that guarded steps preserve holds after every guarded run. -/
theorem run_preserves {step : σ → ι → Except ε σ} {good : σ → ι → Prop} (keeps : σ → Prop)
    (inputs : List ι)
    (each : ∀ state, ∀ input ∈ inputs, ∀ next, keeps state → good state input →
      step state input = .ok next → keeps next)
    (held : keeps state) (guarded : Guarded step good state inputs)
    (ran : inputs.foldlM step state = .ok final) : keeps final := by
  induction inputs generalizing state with
  | nil =>
    cases ran
    exact held
  | cons input rest ih =>
    obtain ⟨next, stepped, ran⟩ := run_cons.mp ran
    exact ih (fun state input member => each state input (List.mem_cons_of_mem _ member))
      (each state input List.mem_cons_self next held guarded.1 stepped) (guarded_tail guarded stepped) ran

/-- The rule for a run that is asked to meet no condition. -/
theorem run_always (step : σ → ι → Except ε σ) (keeps : σ → Prop) (inputs : List ι)
    (each : ∀ state, ∀ input ∈ inputs, ∀ next, keeps state → step state input = .ok next → keeps next)
    (held : keeps state) (ran : inputs.foldlM step state = .ok final) : keeps final :=
  have guarded : Guarded step (fun _ _ => True) state inputs := guarded_always (fun _ _ => trivial) state inputs
  run_preserves keeps inputs
    (fun state input member next held _ stepped => each state input member next held stepped)
    held guarded ran

/-- A run that fails does so in a state of the invariant. -/
theorem run_fails (step : σ → ι → Except ε σ) (keeps : σ → Prop) (inputs : List ι)
    (each : ∀ state, ∀ input ∈ inputs, ∀ next, keeps state → step state input = .ok next → keeps next)
    (held : keeps state) {failure : ε} (failed : inputs.foldlM step state = .error failure) :
    ∃ last, ∃ input ∈ inputs, keeps last ∧ step last input = .error failure := by
  induction inputs generalizing state with
  | nil => cases failed
  | cons input rest ih =>
    cases stepped : step state input with
    | error other =>
      rw [List.foldlM_cons, stepped] at failed
      cases failed
      exact ⟨state, input, List.mem_cons_self, held, stepped⟩
    | ok next =>
      rw [run_cons_ok stepped] at failed
      obtain ⟨last, input', member, kept, failed⟩ :=
        ih (fun state input member => each state input (List.mem_cons_of_mem _ member))
          (each state input List.mem_cons_self next held stepped) failed
      exact ⟨last, input', List.mem_cons_of_mem _ member, kept, failed⟩

/-- When a step that does not meet the condition breaks the invariant for good, a run
is guarded exactly when the invariant holds at its end. -/
theorem guarded_iff {step : σ → ι → Except ε σ} {good : σ → ι → Prop} (keeps lost : σ → Prop)
    (each : ∀ state input next, keeps state → good state input → step state input = .ok next → keeps next)
    (breaks : ∀ state input next, keeps state → ¬ good state input → step state input = .ok next → lost next)
    (stays : ∀ state input next, lost state → step state input = .ok next → lost next)
    (apart : ∀ state, lost state → ¬ keeps state) (inputs : List ι) (held : keeps state)
    (ran : inputs.foldlM step state = .ok final) : Guarded step good state inputs ↔ keeps final := by
  constructor
  · intro guarded
    exact run_preserves keeps inputs (fun state input _ next => each state input next) held guarded ran
  · intro kept
    induction inputs generalizing state with
    | nil => trivial
    | cons input rest ih =>
      obtain ⟨next, stepped, later⟩ := run_cons.mp ran
      by_cases met : good state input
      · refine ⟨met, ?_⟩
        rw [stepped]
        exact ih (each state input next held met stepped) later
      · have gone : lost final := run_always step lost rest (fun state input _ next => stays state input next)
          (breaks state input next held met stepped) later
        exact absurd kept (apart final gone)

/-- When no guarded step fails from a state of the invariant, no guarded run
fails either. -/
theorem run_succeeds {step : σ → ι → Except ε σ} {good : σ → ι → Prop} (keeps : σ → Prop)
    (each : ∀ state input, keeps state → good state input →
      ∃ next, step state input = .ok next ∧ keeps next)
    (inputs : List ι) (held : keeps state) (guarded : Guarded step good state inputs) :
    ∃ final, inputs.foldlM step state = .ok final ∧ keeps final := by
  induction inputs generalizing state with
  | nil => exact ⟨state, rfl, held⟩
  | cons input rest ih =>
    obtain ⟨next, stepped, kept⟩ := each state input held guarded.1
    rw [run_cons_ok stepped]
    exact ih kept (guarded_tail guarded stepped)

/-! ## Steps that cannot fail -/

def total (step : σ → ι → σ) (state : σ) (input : ι) : Except Empty σ := .ok (step state input)

theorem run_total (step : σ → ι → σ) (state : σ) (inputs : List ι) :
    inputs.foldlM (total step) state = .ok (inputs.foldl step state) := by
  induction inputs generalizing state with
  | nil => rfl
  | cons input rest ih => exact (run_cons_ok rfl).trans (ih (step state input))

theorem total_preserves {step : σ → ι → σ} {good : σ → ι → Prop} (keeps : σ → Prop) (inputs : List ι)
    (each : ∀ state, ∀ input ∈ inputs, keeps state → good state input → keeps (step state input))
    (held : keeps state) (guarded : Guarded (total step) good state inputs) :
    keeps (inputs.foldl step state) := by
  refine run_preserves keeps inputs (fun state input member next kept met stepped => ?_) held guarded
    (run_total step state inputs)
  cases stepped
  exact each state input member kept met

/-! ## Loops over consecutive indices -/

private theorem range'_succeeds {step : σ → Nat → Except ε σ} {good : σ → Nat → Prop}
    (keeps : Nat → σ → Prop) (bound : Nat)
    (each : ∀ index state, index < bound → keeps index state → good state index →
      ∃ next, step state index = .ok next ∧ keeps (index + 1) next)
    (count start : Nat) (within : start + count = bound) (held : keeps start state)
    (guarded : Guarded step good state (List.range' start count)) :
    ∃ final, (List.range' start count).foldlM step state = .ok final ∧ keeps bound final := by
  induction count generalizing start state with
  | zero =>
    rw [show bound = start by omega]
    exact ⟨state, rfl, held⟩
  | succ count ih =>
    rw [List.range'_succ] at guarded ⊢
    obtain ⟨next, stepped, kept⟩ := each start state (by omega) held guarded.1
    rw [run_cons_ok stepped]
    exact ih (start + 1) (by omega) kept (guarded_tail guarded stepped)

/-- A loop `for i in [0, bound)` whose invariant mentions the index. -/
theorem range_succeeds {step : σ → Nat → Except ε σ} {good : σ → Nat → Prop}
    (keeps : Nat → σ → Prop) (bound : Nat)
    (each : ∀ index state, index < bound → keeps index state → good state index →
      ∃ next, step state index = .ok next ∧ keeps (index + 1) next)
    (held : keeps 0 state) (guarded : Guarded step good state (List.range bound)) :
    ∃ final, (List.range bound).foldlM step state = .ok final ∧ keeps bound final := by
  rw [List.range_eq_range'] at guarded ⊢
  exact range'_succeeds keeps bound each bound 0 (by omega) held guarded

/-- The same loop, of a run that is known to return. -/
theorem range_preserves (step : σ → Nat → Except ε σ) (keeps : Nat → σ → Prop) (bound : Nat)
    (each : ∀ index state next, index < bound → keeps index state → step state index = .ok next →
      keeps (index + 1) next)
    (held : keeps 0 state) (ran : (List.range bound).foldlM step state = .ok final) : keeps bound final := by
  induction bound generalizing final with
  | zero =>
    cases ran
    exact held
  | succ bound ih =>
    rw [List.range_succ] at ran
    obtain ⟨middle, ranFirst, ranLast⟩ := run_append.mp ran
    obtain ⟨next, stepped, returned⟩ := run_cons.mp ranLast
    cases returned
    have before := ih (fun index state next within => each index state next (Nat.lt_succ_of_lt within)) ranFirst
    exact each bound middle final (Nat.lt_succ_self bound) before stepped

/-- The loop as the sequence of states it passes through. -/
theorem range_trace (step : σ → Nat → Except ε σ) (bound : Nat)
    (ran : (List.range bound).foldlM step state = .ok final) :
    ∃ trace : Nat → σ, trace 0 = state ∧ trace bound = final ∧
      ∀ index < bound, step (trace index) index = .ok (trace (index + 1)) := by
  induction bound generalizing final with
  | zero =>
    cases ran
    exact ⟨fun _ => state, rfl, rfl, fun _ within => absurd within (Nat.not_lt_zero _)⟩
  | succ bound ih =>
    rw [List.range_succ] at ran
    obtain ⟨middle, ranFirst, ranLast⟩ := run_append.mp ran
    obtain ⟨next, stepped, returned⟩ := run_cons.mp ranLast
    cases returned
    obtain ⟨trace, first, last, each⟩ := ih ranFirst
    refine ⟨fun index => if index ≤ bound then trace index else final, ?_, ?_, fun index within => ?_⟩
    · exact (if_pos (Nat.zero_le _)).trans first
    · exact if_neg (Nat.not_succ_le_self _)
    · dsimp only
      rcases Nat.lt_succ_iff_lt_or_eq.mp within with earlier | rfl
      · rw [if_pos (Nat.le_of_lt earlier), if_pos (Nat.succ_le_of_lt earlier)]
        exact each index earlier
      · rw [if_pos (Nat.le_refl _), if_neg (Nat.not_succ_le_self _), last]
        exact stepped

end SnakePosix.GuardedRuns
