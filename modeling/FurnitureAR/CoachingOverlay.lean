import FurnitureAR.LoadSerialisation

/-!
# The controls during coaching

The overlay hides the controls when it becomes active and shows them afterwards. Frames respect
this, but the closure that a restart has left behind shows the upper controls whenever it runs.
-/
namespace FurnitureAR

open Execution

/-- The overlay, and what it hides. -/
structure Coaching where
  isActive : Bool
  isControlsViewHidden : Bool
  isButtonHidden : Bool

namespace ARViewController

def coaching (screen : ARViewController) : Coaching where
  isActive := screen.isCoachingOverlayActive
  isControlsViewHidden := screen.isUpperControlsViewHidden
  isButtonHidden := screen.addVirtualObjectButton.isHidden

/-- The ways in which an undisturbed event can change the overlay and what it hides. -/
inductive CoachingChange (before : Coaching) : Event → Coaching → Prop where
  | unchanged (event : Event) (other : event ≠ .coolDownElapsed) :
      CoachingChange before event before
  | activated : CoachingChange before .coachingOverlayWillActivate ⟨true, true, true⟩
  | deactivated : CoachingChange before .coachingOverlayDidDeactivate ⟨false, false, false⟩
  | cooledDown :
      CoachingChange before .coolDownElapsed { before with isControlsViewHidden := false }
  | framed (view : SceneView) (isHidden : Bool)
      (shown : isHidden = false → before.isActive = false ∨ before.isButtonHidden = false) :
      CoachingChange before (.mainQueue view) { before with isButtonHidden := isHidden }

/-- While coaching is going on, both the upper controls and the add button are hidden. -/
def ControlsHidden (screen : ARViewController) : Prop :=
  screen.isCoachingOverlayActive = true →
    screen.isUpperControlsViewHidden = true ∧ screen.addVirtualObjectButton.isHidden = true

/-- No restart has cooled down while the overlay is active. -/
def CoolsDownUncoached (screen : ARViewController) (event : Event) : Prop :=
  event = .coolDownElapsed → screen.isCoachingOverlayActive = false

variable {screen next : ARViewController}

/-- Frames show the button only when the overlay is not active. -/
theorem coaching_updateFocusSquare (screen : ARViewController) (isObjectVisible : Bool)
    (view : SceneView) : ∃ isHidden,
      (isHidden = false → screen.isCoachingOverlayActive = false ∨
        screen.addVirtualObjectButton.isHidden = false) ∧
      (screen.updateFocusSquare isObjectVisible view).coaching =
        { screen.coaching with isButtonHidden := isHidden } := by
  refine ⟨(screen.updateFocusSquare isObjectVisible view).addVirtualObjectButton.isHidden, ?_, ?_⟩
  · intro shown
    unfold updateFocusSquare at shown
    dsimp only at shown
    split at shown
    · cases active : screen.isCoachingOverlayActive with
      | false => exact .inl rfl
      | true =>
        right
        split at shown <;> simpa [active] using shown
    · split at shown <;> split at shown <;> first | exact .inr shown | cases shown
  · unfold updateFocusSquare
    dsimp only
    split <;> split <;> split <;> rfl

theorem coaching_runMain {view : SceneView} (taken : screen.runMain view = .ok next) :
    CoachingChange screen.coaching (.mainQueue view) next.coaching := by
  unfold runMain at taken
  split at taken
  · cases taken
  next closure rest head =>
    cases taken
    cases closure with
    | placeLoadedObject object =>
      simp only [placeVirtualObject]
      split <;> exact .unchanged _ (by simp)
    | updateFocusSquare isObjectVisible =>
      obtain ⟨isHidden, shown, same⟩ := coaching_updateFocusSquare
        { screen with dispatch := { screen.dispatch with mainQueue := rest } } isObjectVisible view
      dsimp only
      rw [same]
      exact .framed view isHidden shown
    | surfaceDetected => exact .unchanged _ (by simp)
    | displayErrorMessage => exact .unchanged _ (by simp)

theorem step_coaching {event : Event} (undisturbed : event.Undisturbed)
    (taken : step screen event = .ok next) :
    CoachingChange screen.coaching event next.coaching := by
  cases event with
  | addVirtualObject view meanwhile =>
    cases undisturbed
    rcases (addVirtualObject_cases taken).2 with ⟨-, -, rfl⟩ | ⟨object, -, -, rfl⟩ | ⟨-, rfl⟩ <;>
      exact .unchanged _ (by simp)
  | background event =>
    cases event with
    | loaded object content sceneOpens =>
      obtain ⟨-, rfl⟩ := loaded_cases taken
      exact .unchanged _ (by simp)
    | prepared object =>
      obtain ⟨-, rfl⟩ := prepared_cases taken
      exact .unchanged _ (by simp)
  | mainQueue view => exact coaching_runMain taken
  | updateQueue =>
    obtain ⟨scene, -, rfl⟩ := updateQueue_cases taken
    exact .unchanged _ (by simp)
  | coolDownElapsed =>
    obtain ⟨pending, -, rfl⟩ := coolDownElapsed_cases taken
    exact .cooledDown
  | trackedRaycastUpdated raycast results =>
    obtain ⟨object, scene, -, -, rfl⟩ := trackedRaycastUpdated_cases taken
    exact .unchanged _ (by simp)
  | pan gesture view =>
    rw [(pan_cases taken).same]
    exact .unchanged _ (by simp)
  | rotate gesture =>
    rw [(rotate_reshapes taken).same]
    exact .unchanged _ (by simp)
  | pinch gesture =>
    rw [(pinch_reshapes taken).same]
    exact .unchanged _ (by simp)
  | tap hitTestResults =>
    cases tap_cases taken
    exact .unchanged _ (by simp)
  | coachingOverlayWillActivate =>
    cases taken
    exact .activated
  | coachingOverlayDidDeactivate =>
    cases taken
    exact .deactivated
  | coachingOverlayDidRequestSessionReset =>
    cases taken
    -- The restart itself shows nothing: it leaves that to the closure.
    unfold restartExperience
    split <;> exact .unchanged _ (by simp)
  | cameraDidChangeTrackingState trackingState =>
    cases taken
    cases trackingState <;> exact .unchanged _ (by simp)
  | sessionDidFail isARError =>
    cases taken
    cases isARError <;> exact .unchanged _ (by simp)
  | restartSessionTapped =>
    cases restartSessionTapped_cases taken
    exact .unchanged _ (by simp)
  | rendererDidAdd isPlaneAnchor =>
    cases taken
    cases isPlaneAnchor <;> exact .unchanged _ (by simp)
  | timerFired timer =>
    obtain ⟨status, -, rfl⟩ := timerFired_cases taken
    exact .unchanged _ (by simp)
  | viewDidAppear | viewWillDisappear | sessionWasInterrupted | rendererUpdateAtTime
  | rendererDidUpdate =>
    cases taken
    exact .unchanged _ (by simp)

theorem controlsHidden_of_change {event : Event} (hidden : ControlsHidden screen)
    (allowed : CoolsDownUncoached screen event)
    (change : CoachingChange screen.coaching event next.coaching) : ControlsHidden next := by
  have hidden : screen.coaching.isActive = true → screen.coaching.isControlsViewHidden = true ∧
      screen.coaching.isButtonHidden = true := hidden
  have allowed : event = .coolDownElapsed → screen.coaching.isActive = false := allowed
  suffices next.coaching.isActive = true → next.coaching.isControlsViewHidden = true ∧
      next.coaching.isButtonHidden = true from this
  generalize next.coaching = after at change
  cases change with
  | unchanged other => exact hidden
  | activated => exact fun _ => ⟨rfl, rfl⟩
  | deactivated => exact fun active => nomatch active
  | cooledDown =>
    intro active
    simp [allowed rfl] at active
  | framed view isHidden shown =>
    intro active
    refine ⟨(hidden active).1, ?_⟩
    by_contra visible
    rcases shown (by simpa using visible) with inactive | before
    · exact absurd (inactive.symm.trans active) (by simp)
    · exact absurd (before.symm.trans (hidden active).2) (by simp)

theorem controlsHidden_step {event : Event} (hidden : ControlsHidden screen)
    (allowed : CoolsDownUncoached screen event) (taken : step screen event = .ok next) :
    ControlsHidden next := by
  apply @preserved_of_undisturbed ControlsHidden CoolsDownUncoached ?_ ?_ ?_ screen event next
    hidden allowed taken
  · exact fun _ _ _ _ impossible => nomatch impossible
  · exact fun _ _ _ impossible => nomatch impossible
  · exact fun screen event next undisturbed hidden allowed taken =>
      controlsHidden_of_change hidden allowed (step_coaching undisturbed taken)

/-- The controls are hidden during coaching exactly in the runs in which no restart has cooled
down while the overlay is active. -/
theorem controlsHidden_iff (opening : Opening) (events : List Event) :
    Always step ControlsHidden opening.screen events ↔
      Guarded step CoolsDownUncoached opening.screen events := by
  apply always_iff_guarded (fun _ hidden => hidden) ?_ ?_ (fun active => nomatch active)
  · exact fun screen event next hidden allowed taken => controlsHidden_step hidden allowed taken
  · intro screen event next hidden refused taken after
    simp only [CoolsDownUncoached, Classical.not_imp, Bool.not_eq_false] at refused
    obtain ⟨rfl, active⟩ := refused
    obtain ⟨pending, -, rfl⟩ := coolDownElapsed_cases taken
    -- The closure does not ask whether the overlay is active.
    exact absurd (after active).1 (by simp)

/-- The overlay asks for a reset, and is still active when this has cooled down. -/
def resetWhileCoached : List Event :=
  [.viewDidAppear, .coachingOverlayWillActivate, .coachingOverlayDidRequestSessionReset,
    .coolDownElapsed]

/-- The upper controls are shown over it. -/
theorem not_controlsHidden : ¬ ∀ (opening : Opening) (events : List Event),
    Always step ControlsHidden opening.screen events := by
  intro hidden
  have final := (hidden showroom resetWhileCoached).atEnd rfl
  exact absurd (final rfl).1 (by decide)

end ARViewController

end FurnitureAR
