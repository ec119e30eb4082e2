import FurnitureAR.Library.Execution
import Mathlib.Algebra.Order.Ring.Int
import Mathlib.Data.List.Forall2
import Mathlib.Tactic.Linarith

/-!
# Throttles

A throttle counts ticks and fires at every tick that finds a full period counted. It can be forced
to fire at the next tick, which begins a new period. A sequence of marks tells which ticks fired
and when the throttle was forced; only the sequences that a throttle produces can be executed.
-/
open Execution

structure Throttle where
  counter : Int
  isForced : Bool

namespace Throttle

inductive Mark where
  | tick (fires : Bool)
  | force
  deriving DecidableEq

namespace Mark

def isTick : Mark → Bool
  | tick _ => true
  | force => false

def isFired : Mark → Bool
  | tick fires => fires
  | force => false

end Mark

inductive Refusal where
  /-- The throttle would have answered the tick in the other way. -/
  | otherAnswer

variable (period : Int)

def isDue (throttle : Throttle) : Bool := throttle.counter = period || throttle.isForced

def tick (throttle : Throttle) : Throttle :=
  if throttle.isDue period then ⟨1, false⟩
  else { throttle with counter := throttle.counter + 1 }

def force (throttle : Throttle) : Throttle := { throttle with isForced := true }

def step (throttle : Throttle) : Mark → Except Refusal Throttle
  | .tick fires =>
    if fires = throttle.isDue period then .ok (throttle.tick period) else .error .otherAnswer
  | .force => .ok throttle.force

/-- Before the first period the throttle is forced. -/
structure Good (throttle : Throttle) : Prop where
  nonneg : 0 ≤ throttle.counter
  bounded : throttle.counter ≤ period
  started : throttle.counter = 0 → throttle.isForced = true

/-- In how many ticks the throttle fires, if it is not forced before. -/
def remaining (throttle : Throttle) : Int :=
  if throttle.isForced then 1 else period - throttle.counter + 1

def ticks (marks : List Mark) : Nat := marks.countP Mark.isTick

def fired (marks : List Mark) : Nat := marks.countP Mark.isFired

variable {period} {throttle next final : Throttle} {mark : Mark} {marks : List Mark}

/-! ## What one mark does -/

theorem step_tick {fires : Bool} (taken : throttle.step period (.tick fires) = .ok next) :
    fires = throttle.isDue period ∧ next = throttle.tick period := by
  simp only [step] at taken
  split at taken
  next answer => exact ⟨answer, (Except.ok.inj taken).symm⟩
  · cases taken

theorem Good.tick (positive : 1 ≤ period) (good : Good period throttle) :
    Good period (throttle.tick period) := by
  obtain ⟨nonneg, bounded, started⟩ := good
  unfold Throttle.tick
  split
  · exact ⟨by decide, positive, by decide⟩
  next early =>
    simp only [isDue, Bool.or_eq_true, decide_eq_true_eq, not_or] at early
    exact ⟨by dsimp only; omega, by dsimp only; omega, fun zero => by dsimp only at zero; omega⟩

theorem Good.force (good : Good period throttle) : Good period throttle.force :=
  ⟨good.nonneg, good.bounded, fun _ => rfl⟩

theorem good_step (positive : 1 ≤ period) (good : Good period throttle)
    (taken : throttle.step period mark = .ok next) : Good period next := by
  cases mark with
  | tick fires =>
    rw [(step_tick taken).2]
    exact good.tick positive
  | force =>
    cases taken
    exact good.force

theorem Good.remaining_pos (good : Good period throttle) : 1 ≤ throttle.remaining period := by
  have bounded := good.bounded
  unfold remaining
  split <;> omega

theorem Good.remaining_le (positive : 1 ≤ period) (good : Good period throttle) :
    throttle.remaining period ≤ period := by
  have nonneg := good.nonneg
  unfold remaining
  split
  · exact positive
  next unforced =>
    have running : throttle.counter ≠ 0 := fun zero => unforced (good.started zero)
    omega

/-- A tick that is due is the last one before the throttle fires. -/
theorem remaining_due (due : throttle.isDue period = true) : throttle.remaining period = 1 := by
  simp only [isDue, Bool.or_eq_true, decide_eq_true_eq] at due
  unfold remaining
  split
  · rfl
  next unforced =>
    have full := due.resolve_right unforced
    omega

/-- It begins a whole period; every other tick is one of the remaining ones. -/
theorem remaining_tick : (throttle.tick period).remaining period =
    if throttle.isDue period then period else throttle.remaining period - 1 := by
  unfold tick
  split
  · simp [remaining]
  next early =>
    simp only [isDue, Bool.or_eq_true, decide_eq_true_eq, not_or] at early
    simp only [remaining, if_neg early.2]
    omega

theorem remaining_force : throttle.force.remaining period = 1 := rfl

/-! ## Whole runs -/

theorem good_run (positive : 1 ≤ period) (good : Good period throttle)
    (finished : run (step period) throttle marks = .ok final) : Good period final :=
  (always_of_invariant (fun _ _ _ good taken => good_step positive good taken) good marks).atEnd
    finished

/-- As many ticks as remain are enough for the throttle to fire. -/
theorem fired_pos (positive : 1 ≤ period) (good : Good period throttle)
    (finished : run (step period) throttle marks = .ok final)
    (enough : throttle.remaining period ≤ ticks marks) : 1 ≤ fired marks := by
  induction marks generalizing throttle with
  | nil =>
    have remains := good.remaining_pos
    simp only [ticks, List.countP_nil] at enough
    omega
  | cons mark marks ih =>
    obtain ⟨next, taken, rest⟩ := run_cons_ok finished
    have good' := good_step positive good taken
    cases mark with
    | tick fires =>
      obtain ⟨answer, rfl⟩ := step_tick taken
      cases due : throttle.isDue period with
      | true => simp [fired, answer, due, Mark.isFired]
      | false =>
        have later := ih good' rest (by
          rw [remaining_tick, due]
          simp only [ticks, List.countP_cons, Mark.isTick, if_true] at enough ⊢
          push_cast at enough
          simp only [Bool.false_eq_true, if_false]
          omega)
        simp only [fired, List.countP_cons] at later ⊢
        omega
    | force =>
      cases taken
      have later := ih good' rest (by
        rw [remaining_force]
        have remains := good.remaining_pos
        simp only [ticks, List.countP_cons, Mark.isTick] at enough ⊢
        simp only [Bool.false_eq_true, if_false, Nat.add_zero] at enough
        omega)
      simpa [fired, Mark.isFired] using later

/-- Between forced periods every tick is one of a whole period. -/
theorem ticks_add_remaining (finished : run (step period) throttle marks = .ok final)
    (unforced : Mark.force ∉ marks) :
    ticks marks + final.remaining period = throttle.remaining period + period * fired marks := by
  induction marks generalizing throttle with
  | nil =>
    cases finished
    simp [ticks, fired]
  | cons mark marks ih =>
    obtain ⟨next, taken, rest⟩ := run_cons_ok finished
    cases mark with
    | force => exact absurd List.mem_cons_self unforced
    | tick fires =>
      obtain ⟨answer, rfl⟩ := step_tick taken
      have later := ih rest fun forced => unforced (List.mem_cons_of_mem _ forced)
      rw [remaining_tick] at later
      simp only [ticks, fired, List.countP_cons, Mark.isTick, Mark.isFired, if_true] at later ⊢
      cases due : throttle.isDue period with
      | true =>
        rw [due] at answer later
        rw [remaining_due due, answer]
        simp only [if_true] at later ⊢
        push_cast
        linarith
      | false =>
        rw [due] at answer later
        rw [answer]
        simp only [Bool.false_eq_true, if_false, Nat.add_zero] at later ⊢
        push_cast
        linarith

/-- In a period's number of ticks the throttle fires. -/
theorem fires_in_period (positive : 1 ≤ period) (good : Good period throttle)
    (finished : run (step period) throttle marks = .ok final) (whole : ticks marks = period) :
    1 ≤ fired marks :=
  fired_pos positive good finished (whole.symm ▸ good.remaining_le positive)

/-- Unless it is forced, it fires once. -/
theorem fires_once (positive : 1 ≤ period) (good : Good period throttle)
    (finished : run (step period) throttle marks = .ok final) (whole : ticks marks = period)
    (unforced : Mark.force ∉ marks) : fired marks = 1 := by
  have balance := ticks_add_remaining finished unforced
  rw [whole] at balance
  have often := fires_in_period positive good finished whole
  have before := good.remaining_pos
  have after := (good_run positive good finished).remaining_le positive
  by_contra other
  -- Firing twice takes longer than the period.
  have twice : (2 : Int) ≤ fired marks := by omega
  have long : period * 2 ≤ period * fired marks :=
    mul_le_mul_of_nonneg_left twice (le_trans zero_le_one positive)
  linarith

theorem mem_of_fired_pos (often : 1 ≤ fired marks) : .tick true ∈ marks := by
  obtain ⟨mark, member, fires⟩ := List.countP_pos_iff.mp often
  cases mark with
  | tick answer =>
    cases fires
    exact member
  | force => cases fires

/-- The tick at which a throttle fires once, among those at which it does not. -/
theorem exists_of_fired_eq_one (once : fired marks = 1) :
    ∃ earlier later, marks = earlier ++ .tick true :: later ∧ .tick true ∉ earlier ∧
      .tick true ∉ later := by
  obtain ⟨earlier, later, rfl⟩ := List.append_of_mem (mem_of_fired_pos once.ge)
  simp only [fired, List.countP_append, List.countP_cons, Mark.isFired, if_true] at once
  have none_earlier : earlier.countP Mark.isFired = 0 := by omega
  have none_later : later.countP Mark.isFired = 0 := by omega
  exact ⟨earlier, later, rfl, fun member => List.countP_eq_zero.mp none_earlier _ member rfl,
    fun member => List.countP_eq_zero.mp none_later _ member rfl⟩

/-! ## Records of a throttle

Whether a tick has fired may only be seen from what happened at it.
-/

section Records

variable {α : Type} {Shows : Mark → α → Prop} {middle : Throttle} {first second : List α}

variable (period Shows) in
/-- The record shows an execution from one throttle to another, entry by entry. -/
def Recorded (throttle final : Throttle) (record : List α) : Prop :=
  ∃ marks, run (step period) throttle marks = .ok final ∧ List.Forall₂ Shows marks record

theorem Recorded.append (before : Recorded period Shows throttle middle first)
    (after : Recorded period Shows middle final second) :
    Recorded period Shows throttle final (first ++ second) := by
  obtain ⟨marks, finished, shown⟩ := before
  obtain ⟨rest, finished', shown'⟩ := after
  refine ⟨marks ++ rest, ?_, List.rel_append shown shown'⟩
  rw [run_append, finished]
  exact finished'

theorem Recorded.split (recorded : Recorded period Shows throttle final (first ++ second)) :
    ∃ middle, Recorded period Shows throttle middle first ∧
      Recorded period Shows middle final second := by
  obtain ⟨marks, finished, shown⟩ := recorded
  rw [← List.take_append_drop first.length marks] at finished
  obtain ⟨middle, finished, finished'⟩ := run_append_ok finished
  exact ⟨middle, ⟨_, finished, List.forall₂_take_append _ _ _ shown⟩,
    ⟨_, finished', List.forall₂_drop_append _ _ _ shown⟩⟩

theorem Recorded.good (positive : 1 ≤ period) (good : Good period throttle)
    (recorded : Recorded period Shows throttle final first) : Good period final := by
  obtain ⟨marks, finished, -⟩ := recorded
  exact good_run positive good finished

end Records

end Throttle
