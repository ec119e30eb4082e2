import FurnitureAR.Library.Execution

/-!
# Observed executions

Some properties speak about what has happened on the way to a state. An observer keeps a record
of it beside the state, and has no influence on the steps that are taken.
-/
namespace Execution

variable {σ ε η γ : Type}

/-- A state with the record of its observer. -/
structure Observed (σ γ : Type) where
  state : σ
  record : γ

/-- After each step the record is brought up to date. -/
def observing (step : σ → ε → Except η σ) (observe : γ → σ → ε → σ → γ)
    (observed : Observed σ γ) (event : ε) : Except η (Observed σ γ) :=
  (step observed.state event).map fun next =>
    ⟨next, observe observed.record observed.state event next⟩

section Rules

variable {step : σ → ε → Except η σ} {observe : γ → σ → ε → σ → γ}

theorem observing_cases {observed next : Observed σ γ} {event : ε}
    (taken : observing step observe observed event = .ok next) :
    ∃ state, step observed.state event = .ok state ∧
      next = ⟨state, observe observed.record observed.state event state⟩ :=
  map_ok taken

theorem observing_ok {observed : Observed σ γ} {event : ε} {state : σ}
    (done : step observed.state event = .ok state) :
    observing step observe observed event =
      .ok ⟨state, observe observed.record observed.state event state⟩ := by
  unfold observing
  rw [done]
  rfl

/-- An observed execution is an execution. -/
theorem run_observing (observed : Observed σ γ) (events : List ε) :
    (run (observing step observe) observed events).map Observed.state =
      run step observed.state events := by
  induction events generalizing observed with
  | nil => rfl
  | cons event events ih =>
    rw [run_cons, run_cons]
    unfold observing
    cases step observed.state event with
    | error reason => rfl
    | ok next => exact ih ⟨next, _⟩

/-- The invariant rule, for what a step makes of the state and of the record. -/
theorem always_observing_of_invariant {Inv : Observed σ γ → Prop}
    (preserved : ∀ state record event next, Inv ⟨state, record⟩ → step state event = .ok next →
      Inv ⟨next, observe record state event next⟩)
    {observed : Observed σ γ} (initial : Inv observed) (events : List ε) :
    Always (observing step observe) Inv observed events := by
  apply always_of_invariant ?_ initial
  rintro ⟨state, record⟩ event after inv taken
  obtain ⟨next, done, rfl⟩ := observing_cases taken
  exact preserved state record event next inv done

/-- The rule for exact guards, likewise. -/
theorem always_observing_iff_guarded {Inv P : Observed σ γ → Prop} {guard : Observed σ γ → ε → Prop}
    (sound : ∀ observed, Inv observed → P observed)
    (preserved : ∀ state record event next, Inv ⟨state, record⟩ → guard ⟨state, record⟩ event →
      step state event = .ok next → Inv ⟨next, observe record state event next⟩)
    (broken : ∀ state record event next, Inv ⟨state, record⟩ → ¬ guard ⟨state, record⟩ event →
      step state event = .ok next → ¬ P ⟨next, observe record state event next⟩)
    {observed : Observed σ γ} (initial : Inv observed) (events : List ε) :
    Always (observing step observe) P observed events ↔
      Guarded (observing step observe) guard observed events := by
  apply always_iff_guarded sound ?_ ?_ initial
  · rintro ⟨state, record⟩ event after inv allowed taken
    obtain ⟨next, done, rfl⟩ := observing_cases taken
    exact preserved state record event next inv allowed done
  · rintro ⟨state, record⟩ event after inv refused taken
    obtain ⟨next, done, rfl⟩ := observing_cases taken
    exact broken state record event next inv refused done

/-- What always holds without an observer always holds with one. -/
theorem Always.observing {P : σ → Prop} {observed : Observed σ γ} {events : List ε}
    (always : Always step P observed.state events) :
    Always (observing step observe) (fun observed => P observed.state) observed events := by
  induction events generalizing observed with
  | nil => exact always
  | cons event events ih =>
    refine ⟨always.1, fun next taken => ?_⟩
    obtain ⟨state, done, rfl⟩ := observing_cases taken
    exact ih (always.2 state done)

end Rules

end Execution
