import FurnitureAR.FocusSquareShape
import FurnitureAR.Library.Observation

/-!
# Dropped requests of the focus square

A request that comes during an animation is dropped. The next frame makes it again only if it
assigns another value: an equal value is ignored by the observer of the state, so a state that is
repeated keeps the wrong shape for as long as it lasts.
-/
namespace FurnitureAR

open Execution

namespace FocusSquare

/-- What is remembered of the assignments. -/
structure RequestRecord where
  /-- The state has been assigned since an animation finished last. -/
  isReassigned : Bool := false
  /-- The present value was first assigned during an animation towards the other shape. -/
  isDropped : Bool := false

/-- Whether a request for the state's shape would come during an animation towards the other. -/
def drops (square : FocusSquare) (state : State) : Bool :=
  square.isAnimating && (square.isOpen == state.isOnPlane)

def observeRequests (record : RequestRecord) (square : FocusSquare) (event : Event)
    (next : FocusSquare) : RequestRecord :=
  match event with
  | .setState state =>
    { isReassigned := true
      isDropped := if state = square.state then record.isDropped else square.drops state }
  | _ => { record with
      isReassigned := record.isReassigned && !(square.isAnimating && !next.isAnimating) }

abbrev RequestHistory := Observed FocusSquare RequestRecord

/-- At rest, with an assignment since the last animation, the shape is the state's. -/
def CatchesUp (history : RequestHistory) : Prop :=
  history.state.isAnimating = false → history.record.isReassigned = true →
    (history.state.isOpen = false ↔ history.state.state.isOnPlane = true)

/-- At rest, only a state whose request was not dropped is assigned unchanged. -/
def RepeatsServed (history : RequestHistory) (event : Event) : Prop :=
  event = .setState history.state.state → history.state.isAnimating = false →
    history.record.isDropped = false

/-- The record tells whether the square has, or will have, the wrong shape. -/
structure Recorded (history : RequestHistory) : Prop where
  inPhase : ∃ phase, InPhase history.state phase
  dropped : history.record.isDropped =
    (history.state.isOpen == history.state.state.isOnPlane)
  served : history.state.isAnimating = false → history.record.isReassigned = true →
    history.record.isDropped = false

variable {geometry : Geometry} {square next : FocusSquare} {record : RequestRecord}

/-- The shape is the state's exactly when the direction of the animation is. -/
theorem isServed_iff (isOpen isOnPlane : Bool) :
    (isOpen = false ↔ isOnPlane = true) ↔ (isOpen == isOnPlane) = false := by
  cases isOpen <;> simp

theorem Recorded.catchesUp {history : RequestHistory} (recorded : Recorded history) :
    CatchesUp history := by
  intro resting reassigned
  rw [isServed_iff, ← recorded.dropped]
  exact recorded.served resting reassigned

/-! ## What one event does -/

theorem state_setState (state : State) : (square.setState geometry state).state = state := by
  unfold setState
  dsimp only
  split
  · rfl
  · cases state with
    | initializing =>
      simp only [displayAsBillboard, performOpenAnimation, unhide, displayNodeHierarchyOnTop]
      split <;> split <;> rfl
    | detecting raycastResult camera =>
      dsimp only
      split
      · rw [displayAsClosed, (moved_setPosition _ raycastResult camera).state,
          performCloseAnimation]
        split <;> rfl
      · rw [displayAsOpen, (moved_setPosition _ raycastResult camera).state, performOpenAnimation]
        split <;> rfl

/-- An animation goes on, whatever is assigned. -/
theorem isAnimating_setState (inPhase : ∃ phase, InPhase square phase) {state : State}
    (animating : square.isAnimating = true) :
    (square.setState geometry state).isAnimating = true := by
  obtain ⟨phase, inPhase⟩ := inPhase
  rw [inPhase.isAnimating] at animating
  rw [(shape_setState inPhase state).isAnimating]
  split
  · exact animating
  · cases phase <;> cases state.isOnPlane <;> first | rfl | cases animating

/-- At rest a request is served, and during an animation it is dropped. -/
theorem isOpen_setState (inPhase : ∃ phase, InPhase square phase) {state : State}
    (changed : state ≠ square.state) :
    (square.setState geometry state).isOpen =
      if square.isAnimating then square.isOpen else !state.isOnPlane := by
  obtain ⟨phase, inPhase⟩ := inPhase
  rw [(shape_setState inPhase state).isOpen, if_neg changed, inPhase.isOpen, inPhase.isAnimating]
  cases phase <;> cases state.isOnPlane <;> rfl

theorem setState_same : square.setState geometry square.state = square := by
  simp [setState]

/-- The other events leave the state and the direction of the animation as they are. -/
theorem step_frame {event : Event} (other : ∀ state, event ≠ .setState state)
    (taken : square.step geometry event = .ok next) :
    next.state = square.state ∧ next.isOpen = square.isOpen := by
  cases event with
  | setState state => exact absurd rfl (other state)
  | setPosition raycastResult camera =>
    cases taken
    have moved := @moved_setPosition geometry square raycastResult camera
    exact ⟨moved.state, moved.isOpen⟩
  | hide =>
    cases taken
    unfold hide
    split <;> exact ⟨rfl, rfl⟩
  | unhide =>
    cases taken
    unfold unhide
    split <;> exact ⟨rfl, rfl⟩
  | fadeFinished key =>
    obtain rfl := fadeFinished_cases taken
    exact ⟨rfl, rfl⟩
  | completed index =>
    obtain ⟨completion, -, rfl⟩ := completed_cases taken
    cases completion <;> exact ⟨rfl, rfl⟩

/-! ## Whole runs -/

theorem Recorded.step (recorded : Recorded ⟨square, record⟩) {event : Event}
    (allowed : RepeatsServed ⟨square, record⟩ event)
    (taken : square.step geometry event = .ok next) :
    Recorded ⟨next, observeRequests record square event next⟩ := by
  obtain ⟨inPhase, dropped, served⟩ := recorded
  dsimp only at inPhase dropped served
  have inPhase' : ∃ phase, InPhase next phase := by
    obtain ⟨phase, inPhase⟩ := inPhase
    exact inPhase_step inPhase taken
  by_cases assigns : ∃ state, event = .setState state
  · obtain ⟨state, rfl⟩ := assigns
    by_cases same : state = square.state
    · subst same
      cases taken
      simp only [observeRequests, if_pos, setState_same]
      exact ⟨inPhase, dropped, fun resting _ => allowed rfl resting⟩
    · cases taken
      simp only [observeRequests, if_neg same]
      refine ⟨inPhase', ?_, fun resting _ => ?_⟩
      · dsimp only
        rw [isOpen_setState inPhase same, state_setState, drops]
        cases square.isAnimating <;> cases square.isOpen <;> cases state.isOnPlane <;> rfl
      · have still : square.isAnimating = false := by
          by_contra animating
          rw [isAnimating_setState inPhase (by simpa using animating)] at resting
          cases resting
        simp [drops, still]
  · have other : ∀ state, event ≠ .setState state := fun state same => assigns ⟨state, same⟩
    obtain ⟨sameState, sameOpen⟩ := step_frame other taken
    have record_eq : observeRequests record square event next = { record with
        isReassigned := record.isReassigned && !(square.isAnimating && !next.isAnimating) } := by
      cases event with
      | setState state => exact absurd rfl (other state)
      | _ => rfl
    rw [record_eq]
    refine ⟨inPhase', ?_, fun resting reassigned => ?_⟩
    · dsimp only
      rw [sameState, sameOpen, dropped]
    · dsimp only at resting
      simp only [resting, Bool.not_false, Bool.and_true, Bool.and_eq_true,
        Bool.not_eq_true'] at reassigned
      exact served reassigned.2 reassigned.1

/-- A dropped request that is repeated at rest is not served. -/
theorem not_catchesUp_of_repeated (recorded : Recorded ⟨square, record⟩) {event : Event}
    (refused : ¬ RepeatsServed ⟨square, record⟩ event)
    (taken : square.step geometry event = .ok next) :
    ¬ CatchesUp ⟨next, observeRequests record square event next⟩ := by
  simp only [RepeatsServed, Classical.not_imp, Bool.not_eq_false] at refused
  obtain ⟨rfl, resting, lost⟩ := refused
  cases taken
  rw [setState_same]
  intro catchesUp
  have served := (isServed_iff _ _).mp (catchesUp resting rfl)
  rw [← recorded.dropped, lost] at served
  cases served

theorem recorded_init : Recorded ⟨init geometry, {}⟩ where
  inPhase := ⟨.opening, inPhase_init⟩
  dropped := rfl
  served _ reassigned := nomatch reassigned

/-- The shape catches up with the state exactly in the runs in which no request that was dropped
is repeated at rest. -/
theorem catchesUp_iff_repeatsServed (geometry : Geometry) (events : List Event) :
    Always (observing (step geometry) observeRequests) CatchesUp ⟨init geometry, {}⟩ events ↔
      Guarded (observing (step geometry) observeRequests) RepeatsServed
        ⟨init geometry, {}⟩ events := by
  apply always_observing_iff_guarded (fun _ recorded => recorded.catchesUp) ?_ ?_ recorded_init
  · exact fun square record event next recorded allowed taken => recorded.step allowed taken
  · exact fun square record event next recorded refused taken =>
      not_catchesUp_of_repeated recorded refused taken

/-- A camera that is held level, one metre away. -/
def levelGeometry : Geometry where
  eulerAngleX _ := 0
  yaw _ := 0
  rotation _ := .identity
  upright := .measured (7 / 10, 7 / 10, 0, 0)
  distance _ _ := 1

def onFloor : State :=
  .detecting ⟨0, .identity, some 0⟩ (some ⟨0, .normal, ⟨⟨0, 1, 0⟩, .identity⟩⟩)

/-- The floor is found, and lost again while the square is being closed; and the next frame does
not find it either. -/
def lostWhileClosing : List Event :=
  [.completed 0, .setState onFloor, .setState .initializing, .completed 0, .completed 0,
    .setState .initializing]

/-- The square stays closed. -/
theorem not_catchesUp : ¬ ∀ (geometry : Geometry) (events : List Event),
    Always (observing (step geometry) observeRequests) CatchesUp ⟨init geometry, {}⟩ events := by
  intro catchesUp
  have reached : (run (observing (step levelGeometry) observeRequests) ⟨init levelGeometry, {}⟩
      lostWhileClosing).toOption.map (fun history => (history.state.isAnimating,
        history.record.isReassigned, history.state.isOpen, history.state.state)) =
      some (false, true, false, .initializing) := by
    decide +kernel
  cases finished : run (observing (step levelGeometry) observeRequests)
      ⟨init levelGeometry, {}⟩ lostWhileClosing with
  | error reason =>
    rw [finished] at reached
    cases reached
  | ok final =>
    rw [finished] at reached
    simp only [Except.toOption, Option.map_some, Option.some.injEq, Prod.mk.injEq] at reached
    obtain ⟨resting, reassigned, isOpen, state⟩ := reached
    have served := (catchesUp levelGeometry _).atEnd finished resting reassigned
    rw [state] at served
    cases served.mp isOpen

end FocusSquare

end FurnitureAR
