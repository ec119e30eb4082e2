import Mathlib.Order.WellFounded
import Mathlib.Tactic.Common

/-!
# Executions of a step function

A deterministic step function takes a state and an event, and answers with the next
state or with the reason why there is none. Finite executions follow a list of events
and end early at the first event that is refused; infinite traces never are.
-/
namespace Execution

variable {σ ε η : Type}

/-- Execute all events, or report why one of them could not be executed. -/
def run (step : σ → ε → Except η σ) (state : σ) (events : List ε) : Except η σ :=
  events.foldlM step state

/-- `P` holds in every state that the execution visits. -/
def Always (step : σ → ε → Except η σ) (P : σ → Prop) : σ → List ε → Prop
  | state, [] => P state
  | state, event :: events =>
    P state ∧ ∀ next, step state event = .ok next → Always step P next events

/-- Every step that the execution takes meets `guard` in the state before it. -/
def Guarded (step : σ → ε → Except η σ) (guard : σ → ε → Prop) : σ → List ε → Prop
  | _, [] => True
  | state, event :: events =>
    ∀ next, step state event = .ok next → guard state event ∧ Guarded step guard next events

/-- What a sequence of two computations has computed, the first one has computed a part of. -/
theorem bind_ok {α β : Type} {computed : Except η α} {continued : α → Except η β} {value : β}
    (done : computed.bind continued = .ok value) :
    ∃ part, computed = .ok part ∧ continued part = .ok value := by
  cases computed with
  | error reason => cases done
  | ok part => exact ⟨part, rfl, done⟩

theorem map_ok {α β : Type} {computed : Except η α} {f : α → β} {value : β}
    (done : computed.map f = .ok value) : ∃ part, computed = .ok part ∧ value = f part := by
  cases computed with
  | error reason => cases done
  | ok part => exact ⟨part, rfl, (Except.ok.inj done).symm⟩

section Rules

variable {step : σ → ε → Except η σ} {Inv P : σ → Prop} {guard : σ → ε → Prop}

theorem run_cons (state : σ) (event : ε) (events : List ε) :
    run step state (event :: events) = (step state event).bind fun next => run step next events :=
  rfl

theorem run_append (state : σ) (first second : List ε) :
    run step state (first ++ second) =
      (run step state first).bind fun middle => run step middle second :=
  List.foldlM_append

/-- An execution of one event after the other passes through a state between them. -/
theorem run_cons_ok {state final : σ} {event : ε} {events : List ε}
    (finished : run step state (event :: events) = .ok final) :
    ∃ next, step state event = .ok next ∧ run step next events = .ok final :=
  bind_ok finished

theorem run_append_ok {state final : σ} {first second : List ε}
    (finished : run step state (first ++ second) = .ok final) :
    ∃ middle, run step state first = .ok middle ∧ run step middle second = .ok final := by
  rw [run_append] at finished
  exact bind_ok finished

theorem Always.here {state : σ} {events : List ε} (always : Always step P state events) :
    P state := by
  cases events with
  | nil => exact always
  | cons event events => exact always.1

/-- What always holds, holds in the state that a finite execution ends in. -/
theorem Always.atEnd {state final : σ} {events : List ε} (always : Always step P state events)
    (finished : run step state events = .ok final) : P final := by
  induction events generalizing state with
  | nil =>
    cases finished
    exact always
  | cons event events ih =>
    obtain ⟨next, taken, rest⟩ := run_cons_ok finished
    exact ih (always.2 next taken) rest

theorem Always.mono {Q : σ → Prop} (weaker : ∀ state, P state → Q state) {state : σ}
    {events : List ε} (always : Always step P state events) : Always step Q state events := by
  induction events generalizing state with
  | nil => exact weaker state always
  | cons event events ih =>
    exact ⟨weaker state always.1, fun next taken => ih (always.2 next taken)⟩

/-- The invariant rule, for executions whose steps all meet a condition. -/
theorem always_of_guarded
    (preserved : ∀ state event next, Inv state → guard state event →
      step state event = .ok next → Inv next)
    {state : σ} {events : List ε} (initial : Inv state)
    (guarded : Guarded step guard state events) : Always step Inv state events := by
  induction events generalizing state with
  | nil => exact initial
  | cons event events ih =>
    refine ⟨initial, fun next taken => ?_⟩
    obtain ⟨allowed, rest⟩ := guarded next taken
    exact ih (preserved state event next initial allowed taken) rest

/-- The invariant rule. -/
theorem always_of_invariant
    (preserved : ∀ state event next, Inv state → step state event = .ok next → Inv next)
    {state : σ} (initial : Inv state) (events : List ε) : Always step Inv state events := by
  induction events generalizing state with
  | nil => exact initial
  | cons event events ih =>
    exact ⟨initial, fun next taken => ih (preserved state event next initial taken)⟩

/-- Steps that meet a guard keep an invariant, and with it they meet another guard. -/
theorem guarded_of_guarded {guard' : σ → ε → Prop}
    (preserved : ∀ state event next, Inv state → guard state event →
      step state event = .ok next → Inv next)
    (met : ∀ state event next, Inv state → guard state event →
      step state event = .ok next → guard' state event)
    {state : σ} {events : List ε} (initial : Inv state)
    (guarded : Guarded step guard state events) : Guarded step guard' state events := by
  induction events generalizing state with
  | nil => trivial
  | cons event events ih =>
    intro next taken
    obtain ⟨allowed, rest⟩ := guarded next taken
    exact ⟨met state event next initial allowed taken,
      ih (preserved state event next initial allowed taken) rest⟩

/-- What every step from a state with the invariant meets, all steps meet. -/
theorem guarded_of_invariant
    (preserved : ∀ state event next, Inv state → step state event = .ok next → Inv next)
    (met : ∀ state event next, Inv state → step state event = .ok next → guard state event)
    {state : σ} (initial : Inv state) (events : List ε) : Guarded step guard state events := by
  induction events generalizing state with
  | nil => trivial
  | cons event events ih =>
    intro next taken
    exact ⟨met state event next initial taken, ih (preserved state event next initial taken)⟩

/-- A guard is exact for `P` when, from states that satisfy an invariant, the steps that
meet it keep the invariant and every other step breaks `P`. Executions on which `P` always
holds are then the ones whose steps all meet the guard. -/
theorem always_iff_guarded
    (sound : ∀ state, Inv state → P state)
    (preserved : ∀ state event next, Inv state → guard state event →
      step state event = .ok next → Inv next)
    (broken : ∀ state event next, Inv state → ¬ guard state event →
      step state event = .ok next → ¬ P next)
    {state : σ} (initial : Inv state) (events : List ε) :
    Always step P state events ↔ Guarded step guard state events := by
  constructor
  · intro always
    induction events generalizing state with
    | nil => trivial
    | cons event events ih =>
      intro next taken
      have rest := always.2 next taken
      have allowed : guard state event := by
        by_contra refused
        exact broken state event next initial refused taken rest.here
      exact ⟨allowed, ih (preserved state event next initial allowed taken) rest⟩
  · intro guarded
    exact (always_of_guarded preserved initial guarded).mono sound

theorem guarded_cons {state next : σ} {event : ε} {events : List ε}
    (taken : step state event = .ok next) (allowed : guard state event)
    (rest : Guarded step guard next events) : Guarded step guard state (event :: events) := by
  intro other also
  cases taken.symm.trans also
  exact ⟨allowed, rest⟩

/-- Guards matter only for the steps that are taken, from states that satisfy an invariant. -/
theorem guarded_congr {guard' : σ → ε → Prop}
    (preserved : ∀ state event next, Inv state → step state event = .ok next → Inv next)
    (same : ∀ state event next, Inv state → step state event = .ok next →
      (guard state event ↔ guard' state event))
    {state : σ} (initial : Inv state) (events : List ε) :
    Guarded step guard state events ↔ Guarded step guard' state events := by
  induction events generalizing state with
  | nil => exact Iff.rfl
  | cons event events ih =>
    refine forall_congr' fun next => imp_congr_right fun taken => ?_
    rw [same state event next initial taken, ih (preserved state event next initial taken)]

/-- A guarded execution can be cut anywhere. -/
theorem guarded_append (state : σ) (first second : List ε) :
    Guarded step guard state (first ++ second) ↔
      Guarded step guard state first ∧
        ∀ middle, run step state first = .ok middle → Guarded step guard middle second := by
  induction first generalizing state with
  | nil =>
    simp only [List.nil_append, Guarded, true_and]
    constructor
    · intro guarded middle finished
      cases finished
      exact guarded
    · intro guarded
      exact guarded state rfl
  | cons event first ih =>
    simp only [List.cons_append, Guarded]
    constructor
    · intro guarded
      refine ⟨fun next taken => ?_, fun middle finished => ?_⟩
      · exact ⟨(guarded next taken).1, ((ih next).mp (guarded next taken).2).1⟩
      · obtain ⟨next, taken, rest⟩ := run_cons_ok finished
        exact ((ih next).mp (guarded next taken).2).2 middle rest
    · rintro ⟨guarded, after⟩ next taken
      refine ⟨(guarded next taken).1, (ih next).mpr ⟨(guarded next taken).2, ?_⟩⟩
      intro middle finished
      apply after middle
      rw [run_cons, taken]
      exact finished

end Rules

/-! ## Infinite traces -/

/-- An execution that goes on for ever. -/
structure Trace (step : σ → ε → Except η σ) where
  state : Nat → σ
  event : Nat → ε
  taken : ∀ n, step (state n) (event n) = .ok (state (n + 1))

namespace Trace

variable {step : σ → ε → Except η σ} (trace : Trace step) {P Q : σ → Prop}

theorem invariant {Inv : σ → Prop}
    (preserved : ∀ state event next, Inv state → step state event = .ok next → Inv next)
    (initial : Inv (trace.state 0)) (n : Nat) : Inv (trace.state n) := by
  induction n with
  | zero => exact initial
  | succ n ih => exact preserved _ _ _ ih (trace.taken n)

/-- What happens from a moment on. -/
def drop (n : Nat) : Trace step where
  state m := trace.state (n + m)
  event m := trace.event (n + m)
  taken m := trace.taken (n + m)

/-- From every moment at which `P` holds, a later moment is reached at which `Q` does. -/
def LeadsTo (P Q : σ → Prop) : Prop :=
  ∀ n, P (trace.state n) → ∃ later, n ≤ later ∧ Q (trace.state later)

theorem LeadsTo.trans {R : σ → Prop} (first : trace.LeadsTo P Q) (second : trace.LeadsTo Q R) :
    trace.LeadsTo P R := by
  intro n holds
  obtain ⟨middle, before, reached⟩ := first n holds
  obtain ⟨later, after, goal⟩ := second middle reached
  exact ⟨later, Nat.le_trans before after, goal⟩

/-- The rank rule: while `P` holds no step raises the rank, the helpful steps lower it, and
one of them always comes. -/
theorem leadsTo_of_rank (rank : σ → Nat) (helpful : σ → ε → Prop)
    (moves : ∀ n, P (trace.state n) → Q (trace.state (n + 1)) ∨
      P (trace.state (n + 1)) ∧ rank (trace.state (n + 1)) ≤ rank (trace.state n) ∧
        (helpful (trace.state n) (trace.event n) →
          rank (trace.state (n + 1)) < rank (trace.state n)))
    (fair : ∀ n, P (trace.state n) →
      ∃ later, n ≤ later ∧ helpful (trace.state later) (trace.event later)) :
    trace.LeadsTo P Q := by
  -- Until the next helpful step, `P` persists with a rank that is no larger.
  have persists : ∀ wait n, P (trace.state n) →
      (∃ later, n ≤ later ∧ Q (trace.state later)) ∨
        P (trace.state (n + wait)) ∧ rank (trace.state (n + wait)) ≤ rank (trace.state n) := by
    intro wait
    induction wait with
    | zero => exact fun n holds => .inr ⟨holds, Nat.le_refl _⟩
    | succ wait ih =>
      intro n holds
      rcases ih n holds with done | ⟨still, bound⟩
      · exact .inl done
      · rcases moves (n + wait) still with reached | ⟨next, lower, -⟩
        · exact .inl ⟨n + wait + 1, by omega, reached⟩
        · exact .inr ⟨next, Nat.le_trans lower bound⟩
  suffices bounded : ∀ bound n, rank (trace.state n) < bound → P (trace.state n) →
      ∃ later, n ≤ later ∧ Q (trace.state later) from
    fun n holds => bounded _ n (Nat.lt_succ_self _) holds
  intro bound
  induction bound with
  | zero => exact fun n small => absurd small (Nat.not_lt_zero _)
  | succ bound ih =>
    intro n small holds
    obtain ⟨later, after, helps⟩ := fair n holds
    obtain ⟨wait, rfl⟩ := Nat.exists_eq_add_of_le after
    rcases persists wait n holds with done | ⟨still, low⟩
    · exact done
    · rcases moves _ still with reached | ⟨next, -, drops⟩
      · exact ⟨n + wait + 1, by omega, reached⟩
      · have lower := drops helps
        obtain ⟨final, far, goal⟩ := ih (n + wait + 1) (by omega) next
        exact ⟨final, by omega, goal⟩

/-- One helpful step is enough. -/
theorem leadsTo_of_helpful (helpful : σ → ε → Prop)
    (moves : ∀ n, P (trace.state n) → Q (trace.state (n + 1)) ∨
      P (trace.state (n + 1)) ∧ ¬ helpful (trace.state n) (trace.event n))
    (fair : ∀ n, P (trace.state n) →
      ∃ later, n ≤ later ∧ helpful (trace.state later) (trace.event later)) :
    trace.LeadsTo P Q := by
  refine trace.leadsTo_of_rank (fun _ => 0) helpful (fun n holds => ?_) fair
  rcases moves n holds with reached | ⟨still, unhelpful⟩
  · exact .inl reached
  · exact .inr ⟨still, Nat.le_refl 0, fun helps => absurd helps unhelpful⟩

/-- When `P` always ends, what holds at all of its ends is reached from it. -/
theorem leadsTo_of_exit (ends : trace.LeadsTo P fun state => ¬ P state)
    (exits : ∀ n, P (trace.state n) → ¬ P (trace.state (n + 1)) → Q (trace.state (n + 1))) :
    trace.LeadsTo P Q := by
  intro n holds
  obtain ⟨later, after, ended⟩ := ends n holds
  obtain ⟨wait, rfl⟩ := Nat.exists_eq_add_of_le after
  clear after
  -- The first end is looked for, going forward from the moment at which `P` holds.
  induction wait generalizing n with
  | zero => exact absurd holds ended
  | succ wait ih =>
    by_cases still : P (trace.state (n + 1))
    · obtain ⟨final, far, goal⟩ := ih (n + 1) still (by
        rwa [Nat.add_right_comm, Nat.add_assoc])
      exact ⟨final, by omega, goal⟩
    · exact ⟨n + 1, by omega, exits n holds still⟩

end Trace

end Execution
