import FurnitureAR.ARViewController
import Mathlib.Analysis.Real.Sqrt
import Mathlib.Data.Finset.Card

/-!
# The recognizer with a threshold

A pan recognizer that notices when its translation exceeds a threshold. The threshold is chosen
by the number of touches that moved in the last event, which need not be all the fingers that are
down. What UIKit does itself (it adds up displacements, assigns states and resets recognizers)
is part of the events.
-/
namespace FurnitureAR

open Execution

namespace CGPoint

instance : Add CGPoint := ⟨fun point other => ⟨point.x + other.x, point.y + other.y⟩⟩

noncomputable def length (point : CGPoint) : ℝ :=
  Real.sqrt ((point.x * point.x + point.y * point.y : ℚ) : ℝ)

/-- `length > bound`, without the square root. -/
def exceeds (point : CGPoint) (bound : ℚ) : Bool :=
  bound ^ 2 < point.x * point.x + point.y * point.y

theorem exceeds_iff {point : CGPoint} {bound : ℚ} (nonneg : 0 ≤ bound) :
    point.exceeds bound = true ↔ (bound : ℝ) < point.length := by
  have real : (0 : ℝ) ≤ bound := by exact_mod_cast nonneg
  rw [exceeds, decide_eq_true_iff, length, Real.lt_sqrt real]
  exact_mod_cast Iff.rfl

end CGPoint

abbrev TouchRef := Nat

structure ThresholdPanGesture where
  state : GestureState := .possible
  isThresholdExceeded : Bool := false
  translation : CGPoint := .zero
  /-- The fingers in the gesture. -/
  touches : Finset TouchRef := ∅

/-- A recognizer in one of these states gets no more touches until it is reset. -/
def GestureState.isOver : GestureState → Bool
  | .ended | .cancelled | .failed => true
  | .possible | .began | .changed => false

namespace ThresholdPanGesture

/-! ## The recognizer -/

/-- Assigning `state`, with its `didSet` observer. -/
def setState (gesture : ThresholdPanGesture) (state : GestureState) : ThresholdPanGesture :=
  match state with
  | .began | .changed => { gesture with state := state }
  -- Reset threshold check.
  | _ => { gesture with state := state, isThresholdExceeded := false }

/-- `threshold(forTouchCount:)` -/
def threshold (count : Nat) : ℚ :=
  match count with
  | 1 => 30
  | _ => 60

def setTranslation (gesture : ThresholdPanGesture) (translation : CGPoint) :
    ThresholdPanGesture :=
  { gesture with translation := translation }

/-- `super.touchesMoved` adds up the displacement of the fingers and may assign a state. -/
def superTouchesMoved (gesture : ThresholdPanGesture) (displacement : CGPoint)
    (state : Option GestureState) : ThresholdPanGesture :=
  let gesture := gesture.setTranslation (gesture.translation + displacement)
  match state with
  | some state => gesture.setState state
  | none => gesture

/-- `touches` are the ones that moved. -/
def touchesMoved (gesture : ThresholdPanGesture) (touches : Finset TouchRef)
    (displacement : CGPoint) (state : Option GestureState) : ThresholdPanGesture :=
  let gesture := gesture.superTouchesMoved displacement state
  let threshold := threshold touches.card
  if !gesture.isThresholdExceeded && gesture.translation.exceeds threshold then
    { gesture with isThresholdExceeded := true }.setTranslation .zero
  else gesture

/-! ## UIKit -/

inductive Event where
  | touchesBegan (touches : Finset TouchRef) (state : Option GestureState)
  | touchesMoved (touches : Finset TouchRef) (displacement : CGPoint)
      (state : Option GestureState)
  | touchesLifted (touches : Finset TouchRef) (state : Option GestureState)
  | stateChanged (state : GestureState)
  | setTranslation (translation : CGPoint)
  | reset

/-- UIKit assigns a state, if it does. Only a reset leads back to the first state. -/
def assign (gesture : ThresholdPanGesture) : Option GestureState → Except Halt ThresholdPanGesture
  | none => .ok gesture
  | some state =>
    if gesture.state.isOver || state = .possible then .error .notDelivered
    else .ok (gesture.setState state)

/-- Fingers that are moved begin a pan or change it. -/
def mayAssignMoving : Option GestureState → Bool
  | none | some .began | some .changed => true
  | _ => false

def step (gesture : ThresholdPanGesture) : Event → Except Halt ThresholdPanGesture
  | .touchesBegan touches state =>
    if gesture.state.isOver then .error .notDelivered
    else { gesture with touches := gesture.touches ∪ touches }.assign state
  | .touchesMoved touches displacement state =>
    if touches.Nonempty ∧ touches ⊆ gesture.touches ∧ gesture.state.isOver = false ∧
        mayAssignMoving state = true then
      .ok (gesture.touchesMoved touches displacement state)
    else .error .notDelivered
  | .touchesLifted touches state => do
    let gesture ← { gesture with touches := gesture.touches \ touches }.assign state
    -- The gesture is over when the last finger is lifted.
    if gesture.touches = ∅ ∧ gesture.state.isOver = false then .error .notDelivered
    else .ok gesture
  | .stateChanged state => gesture.assign (some state)
  | .setTranslation translation => .ok (gesture.setTranslation translation)
  | .reset =>
    if gesture.state.isOver then
      .ok ({ gesture with touches := ∅, translation := .zero }.setState .possible)
    else .error .notDelivered

/-! ## What the handlers can do -/

variable {gesture next : ThresholdPanGesture}

theorem setState_touches (state : GestureState) : (gesture.setState state).touches =
    gesture.touches := by
  cases state <;> rfl

theorem setState_state (state : GestureState) : (gesture.setState state).state = state := by
  cases state <;> rfl

theorem setState_translation (state : GestureState) : (gesture.setState state).translation =
    gesture.translation := by
  cases state <;> rfl

/-- Assigning a state resets the flag, or keeps it while the gesture goes on. -/
theorem setState_isThresholdExceeded (state : GestureState) :
    (gesture.setState state).isThresholdExceeded = gesture.isThresholdExceeded ∨
      (gesture.setState state).isThresholdExceeded = false ∧
        state ≠ .began ∧ state ≠ .changed := by
  cases state with
  | began | changed => exact .inl rfl
  | _ => exact .inr ⟨rfl, by decide, by decide⟩

theorem assign_cases {state : Option GestureState} (assigned : gesture.assign state = .ok next) :
    next = gesture ∨ ∃ after, gesture.state.isOver = false ∧ after ≠ .possible ∧
      next = gesture.setState after := by
  unfold assign at assigned
  split at assigned
  · exact .inl (Except.ok.inj assigned).symm
  next state =>
    split at assigned
    · cases assigned
    next allowed =>
      simp only [Bool.or_eq_true, decide_eq_true_eq, not_or, Bool.not_eq_true] at allowed
      exact .inr ⟨state, allowed.1, allowed.2, (Except.ok.inj assigned).symm⟩

/-- While fingers move, UIKit neither resets the flag nor sets it. -/
theorem superTouchesMoved_eq {displacement : CGPoint} {state : Option GestureState}
    (moving : mayAssignMoving state = true) :
    gesture.superTouchesMoved displacement state =
      { gesture with
        state := state.getD gesture.state
        translation := gesture.translation + displacement } := by
  unfold mayAssignMoving at moving
  split at moving
  · rfl
  · rfl
  · rfl
  · cases moving

theorem touchesMoved_eq {touches : Finset TouchRef} {displacement : CGPoint}
    {state : Option GestureState} (moving : mayAssignMoving state = true) :
    gesture.touchesMoved touches displacement state =
      if gesture.isThresholdExceeded = false ∧
          (gesture.translation + displacement).exceeds (threshold touches.card) = true then
        { gesture with
          state := state.getD gesture.state
          isThresholdExceeded := true
          translation := .zero }
      else
        { gesture with
          state := state.getD gesture.state
          translation := gesture.translation + displacement } := by
  simp only [touchesMoved, superTouchesMoved_eq moving, setTranslation, Bool.and_eq_true,
    Bool.not_eq_true']

theorem touchesMoved_cases {touches : Finset TouchRef} {displacement : CGPoint}
    {state : Option GestureState}
    (taken : gesture.step (.touchesMoved touches displacement state) = .ok next) :
    touches.Nonempty ∧ touches ⊆ gesture.touches ∧ gesture.state.isOver = false ∧
      mayAssignMoving state = true ∧ next = gesture.touchesMoved touches displacement state := by
  simp only [step] at taken
  split at taken
  next delivered =>
    obtain ⟨nonempty, inside, goesOn, moving⟩ := delivered
    exact ⟨nonempty, inside, goesOn, moving, (Except.ok.inj taken).symm⟩
  · cases taken

/-! ## The law of the threshold -/

/-- The threshold for the fingers in a gesture. -/
def lawfulThreshold (fingers : Nat) : ℚ := if fingers ≤ 1 then 30 else 60

/-- The flag is not set when the first finger is down, it is set only by a movement that exceeds
the threshold for the fingers in the gesture, and it stays set until the gesture is over. -/
structure Lawful (gesture : ThresholdPanGesture) (event : Event) (next : ThresholdPanGesture) :
    Prop where
  starts : ∀ touches state, event = .touchesBegan touches state → gesture.touches = ∅ →
    gesture.isThresholdExceeded = false ∧ next.isThresholdExceeded = false
  sets : gesture.isThresholdExceeded = false → next.isThresholdExceeded = true →
    ∃ touches displacement state, event = .touchesMoved touches displacement state ∧
      (lawfulThreshold gesture.touches.card : ℝ) < (gesture.translation + displacement).length
  latched : gesture.isThresholdExceeded = true → next.isThresholdExceeded = false →
    next.state ≠ .began ∧ next.state ≠ .changed

def StepsLawfully (gesture : ThresholdPanGesture) (event : Event) : Prop :=
  ∀ next, gesture.step event = .ok next → Lawful gesture event next

/-- When one of several fingers moves, the translation does not end up between the thresholds. -/
def MovesClearly (gesture : ThresholdPanGesture) : Event → Prop
  | .touchesMoved touches displacement _ =>
    gesture.isThresholdExceeded = false → touches.card = 1 → 2 ≤ gesture.touches.card →
      (30 : ℝ) < (gesture.translation + displacement).length →
        (60 : ℝ) < (gesture.translation + displacement).length
  | _ => True

/-- Without fingers the flag is not set, unless the gesture is over. -/
def Quiet (gesture : ThresholdPanGesture) : Prop :=
  gesture.touches = ∅ → gesture.state.isOver = false → gesture.isThresholdExceeded = false

theorem flag_assign {state : Option GestureState} (assigned : gesture.assign state = .ok next) :
    next.isThresholdExceeded = gesture.isThresholdExceeded ∨
      next.isThresholdExceeded = false ∧ next.state ≠ .began ∧ next.state ≠ .changed := by
  rcases assign_cases assigned with rfl | ⟨after, -, -, rfl⟩
  · exact .inl rfl
  · rw [setState_state]
    exact setState_isThresholdExceeded after

/-- Only moving fingers set the flag, and only the end of a gesture resets it. -/
theorem flag_step {event : Event}
    (notMoved : ∀ touches displacement state, event ≠ .touchesMoved touches displacement state)
    (taken : gesture.step event = .ok next) :
    next.isThresholdExceeded = gesture.isThresholdExceeded ∨
      next.isThresholdExceeded = false ∧ next.state ≠ .began ∧ next.state ≠ .changed := by
  cases event with
  | touchesBegan touches state =>
    simp only [step] at taken
    split at taken
    · cases taken
    · have flag := flag_assign taken
      exact flag
  | touchesMoved touches displacement state => exact absurd rfl (notMoved _ _ _)
  | touchesLifted touches state =>
    simp only [step, bind, Except.bind] at taken
    split at taken
    · cases taken
    next after assigned =>
      split at taken
      · cases taken
      · cases taken
        have flag := flag_assign assigned
        exact flag
  | stateChanged state =>
    have assigned : gesture.assign (some state) = .ok next := taken
    exact flag_assign assigned
  | setTranslation translation =>
    cases taken
    exact .inl rfl
  | reset =>
    simp only [step] at taken
    split at taken
    · cases taken
      exact .inr ⟨rfl, by simp [setState], by simp [setState]⟩
    · cases taken

theorem Quiet.assign {state : Option GestureState} (quiet : gesture.Quiet)
    (assigned : gesture.assign state = .ok next) : next.Quiet := by
  rcases assign_cases assigned with rfl | ⟨after, goesOn, -, rfl⟩
  · exact quiet
  · intro none _
    rw [setState_touches] at none
    rcases setState_isThresholdExceeded after with same | ⟨reset, -⟩
    · rw [same]
      exact quiet none goesOn
    · exact reset

theorem Quiet.step (event : Event) (quiet : gesture.Quiet)
    (taken : gesture.step event = .ok next) : next.Quiet := by
  cases event with
  | touchesBegan touches state =>
    simp only [ThresholdPanGesture.step] at taken
    split at taken
    · cases taken
    next goesOn =>
      have more : ({ gesture with touches := gesture.touches ∪ touches }).Quiet := by
        intro none going
        exact quiet (Finset.union_eq_empty.mp none).1 going
      exact more.assign taken
  | touchesMoved touches displacement state =>
    obtain ⟨nonempty, inside, -, moving, rfl⟩ := touchesMoved_cases taken
    intro none
    -- There are fingers, since some of them have moved.
    have same : (gesture.touchesMoved touches displacement state).touches = gesture.touches := by
      rw [touchesMoved_eq moving]
      split <;> rfl
    rw [same] at none
    rw [none, Finset.subset_empty] at inside
    exact absurd inside nonempty.ne_empty
  | touchesLifted touches state =>
    simp only [ThresholdPanGesture.step, bind, Except.bind] at taken
    split at taken
    · cases taken
    next after assigned =>
      split at taken
      · cases taken
      next allowed =>
        cases taken
        exact fun none going => absurd ⟨none, going⟩ allowed
  | stateChanged state =>
    have assigned : gesture.assign (some state) = .ok next := taken
    exact quiet.assign assigned
  | setTranslation translation =>
    cases taken
    exact quiet
  | reset =>
    simp only [ThresholdPanGesture.step] at taken
    split at taken
    · cases taken
      exact fun _ _ => rfl
    · cases taken

/-- A movement is counted with the threshold for the fingers that moved. -/
theorem stepsLawfully_of_moved {touches : Finset TouchRef} {displacement : CGPoint}
    {state : Option GestureState}
    (taken : gesture.step (.touchesMoved touches displacement state) = .ok next) :
    gesture.StepsLawfully (.touchesMoved touches displacement state) ↔
      gesture.MovesClearly (.touchesMoved touches displacement state) := by
  obtain ⟨nonempty, inside, -, moving, same⟩ := touchesMoved_cases taken
  have some : 0 < touches.card := Finset.card_pos.mpr nonempty
  have fewer : touches.card ≤ gesture.touches.card := Finset.card_le_card inside
  rw [touchesMoved_eq moving] at same
  constructor
  · intro lawful unset one several long
    have exceeds : (gesture.translation + displacement).exceeds 30 = true :=
      (CGPoint.exceeds_iff (by decide)).mpr (by exact_mod_cast long)
    have set : next.isThresholdExceeded = true := by
      rw [same, one, if_pos ⟨unset, exceeds⟩]
    obtain ⟨_, _, _, here, enough⟩ := (lawful next taken).sets unset set
    cases here
    rw [lawfulThreshold, if_neg (by omega)] at enough
    exact_mod_cast enough
  · intro clearly after done
    obtain rfl : after = next := Except.ok.inj (done.symm.trans taken)
    refine ⟨?_, fun unset set => ?_, fun set unset => ?_⟩
    · rintro _ _ ⟨⟩
    · refine ⟨touches, displacement, state, rfl, ?_⟩
      have long : (gesture.translation + displacement).exceeds (threshold touches.card) = true := by
        by_contra short
        rw [same, if_neg fun both => short both.2, unset] at set
        cases set
      by_cases one : touches.card = 1
      · rw [one] at long
        have beyond := (@CGPoint.exceeds_iff _ 30 (by decide)).mp long
        by_cases single : gesture.touches.card ≤ 1
        · rw [lawfulThreshold, if_pos single]
          exact_mod_cast beyond
        · rw [lawfulThreshold, if_neg single]
          exact_mod_cast clearly unset one (by omega) (by exact_mod_cast beyond)
      · -- Several fingers have moved, so there are several in the gesture.
        have higher : threshold touches.card = 60 := by
          unfold threshold
          split
          next single => exact absurd single one
          · rfl
        rw [higher] at long
        rw [lawfulThreshold, if_neg (by omega)]
        exact_mod_cast (CGPoint.exceeds_iff (by decide)).mp long
    · rw [same] at unset
      split at unset
      · cases unset
      · rw [set] at unset
        cases unset

/-- The law holds along a run exactly if no single one of several fingers moves the translation
to a length between 30 and 60 before the threshold is exceeded. -/
theorem thresholdLaw_iff (events : List Event) :
    Guarded step StepsLawfully {} events ↔ Guarded step MovesClearly {} events := by
  refine @guarded_congr _ _ _ step Quiet _ _ (fun _ event _ quiet taken => quiet.step event taken)
    ?_ {} (fun _ _ => rfl) events
  intro gesture event next quiet taken
  by_cases moved : ∃ touches displacement state, event = .touchesMoved touches displacement state
  · obtain ⟨touches, displacement, state, rfl⟩ := moved
    exact stepsLawfully_of_moved taken
  · have notMoved : ∀ touches displacement state,
        event ≠ .touchesMoved touches displacement state :=
      fun touches displacement state same => moved ⟨touches, displacement, state, same⟩
    have clearly : gesture.MovesClearly event := by
      cases event with
      | touchesMoved touches displacement state => exact absurd rfl (notMoved _ _ _)
      | _ => trivial
    refine iff_of_true (fun after done => ?_) clearly
    have flag := flag_step notMoved done
    refine ⟨?_, fun unset set => ?_, fun set unset => ?_⟩
    · rintro touches state rfl none
      have goesOn : gesture.state.isOver = false := by
        simp only [step] at done
        split at done
        · cases done
        next goesOn => simpa using goesOn
      have unset := quiet none goesOn
      refine ⟨unset, ?_⟩
      rcases flag with same | ⟨reset, -⟩
      · rw [same, unset]
      · exact reset
    · rcases flag with same | ⟨reset, -⟩
      · rw [same, unset] at set
        cases set
      · rw [reset] at set
        cases set
    · rcases flag with same | ⟨-, left⟩
      · rw [same, set] at unset
        cases unset
      · exact left

/-- Two fingers are down, and one of them moves by 40. -/
def oneOfTwoMoves : List Event :=
  [.touchesBegan {0, 1} none, .touchesMoved {0} ⟨40, 0⟩ (some .began)]

/-- The threshold for one finger is exceeded, and that for two is not. -/
theorem not_thresholdLaw : ¬ ∀ events : List Event, Guarded step StepsLawfully {} events := by
  intro lawful
  have first := (lawful oneOfTwoMoves) _ rfl
  have second := first.2 _ rfl
  have clearly := (stepsLawfully_of_moved rfl).mp second.1
  have beyond := (@CGPoint.exceeds_iff (.zero + ⟨40, 0⟩) 30 (by decide)).mp (by decide +kernel)
  have long := clearly rfl rfl (by decide) (by exact_mod_cast beyond)
  have exceeds : (CGPoint.zero + ⟨40, 0⟩).exceeds 60 = true :=
    (CGPoint.exceeds_iff (by decide)).mpr (by exact_mod_cast long)
  exact absurd exceeds (by decide +kernel)

end ThresholdPanGesture

end FurnitureAR
