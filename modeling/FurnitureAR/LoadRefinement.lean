import FurnitureAR.LoadCycle
import FurnitureAR.ScreenSteps

/-!
# The screen refines the loading cycle

Every step of the screen is a step of the loading cycle, so that what runs of the cycle
guarantee, runs of the screen guarantee too.
-/
namespace FurnitureAR

open Execution

/-- The object that a closure of the main queue is to place. -/
def MainClosure.placement : MainClosure → Option ObjectRef
  | .placeLoadedObject object => some object
  | _ => none

namespace ARViewController

def loadCycle (screen : ARViewController) : LoadCycle where
  loadedObjects := screen.scene.loader.loadedObjects
  isLoading := screen.scene.loader.isLoading
  loading := screen.dispatch.loading
  preparing := screen.dispatch.preparing
  placing := screen.dispatch.mainQueue.filterMap MainClosure.placement
  isEnabled := screen.addVirtualObjectButton.isEnabled
  image := screen.addVirtualObjectButton.image
  isRestartAvailable := screen.isRestartAvailable
  coolDowns := screen.dispatch.coolDowns

/-- What an undisturbed event is to the loading cycle. -/
def action (screen : ARViewController) : Event → LoadCycle.Action
  -- Both only reset tracking, which sets the image of the button.
  | .viewDidAppear => .reset
  | .restartSessionTapped => .reset
  | .viewWillDisappear => .close
  | .addVirtualObject _ _ =>
    if screen.scene.loader.loadedObjects.isEmpty then
      match screen.selectedVirtualObject with
      | some object => .start object
      | none => .other
    else .remove
  | .background (.loaded object _ _) => .finish object
  | .background (.prepared object) => .prepare object
  | .mainQueue _ =>
    match screen.dispatch.mainQueue with
    | .placeLoadedObject object :: _ =>
      if (screen.scene.placementQuery object).isSome then .place else .discard
    | _ => .other
  | .coolDownElapsed => .coolDown
  | .coachingOverlayDidRequestSessionReset => if screen.restartPasses then .restart else .other
  | _ => .other

theorem updateFocusSquare_loadCycle (screen : ARViewController) (isObjectVisible : Bool)
    (view : SceneView) :
    (screen.updateFocusSquare isObjectVisible view).loadCycle = screen.loadCycle := by
  unfold updateFocusSquare
  dsimp only
  split <;> split <;> split <;> rfl

private theorem loadCycle_of_same {cycle next : LoadCycle} {action : LoadCycle.Action}
    (other : action = .other) (same : next = cycle) : cycle.Step action next := by
  rw [other, same]
  exact .other

private theorem loadCycle_background {screen next : ARViewController} {event : BackgroundEvent}
    (taken : screen.background event = .ok next) :
    screen.loadCycle.Step (screen.action (.background event)) next.loadCycle := by
  cases event with
  | loaded object content sceneOpens =>
    obtain ⟨loading, rfl⟩ := loaded_cases taken
    exact .finish object loading
  | prepared object =>
    obtain ⟨preparing, rfl⟩ := prepared_cases taken
    -- The placement is dispatched to the end of the main queue.
    have prepared : screen.loadCycle.Step _ _ := .prepare object preparing
    simpa [loadCycle, MainClosure.placement, action] using prepared

private theorem loadCycle_addVirtualObject {screen next : ARViewController} {view : SceneView}
    (taken : screen.addVirtualObject view [] = .ok next) :
    screen.loadCycle.Step (screen.action (.addVirtualObject view [])) next.loadCycle := by
  obtain ⟨enabled, cases⟩ := addVirtualObject_cases taken
  rcases cases with ⟨empty, unselected, rfl⟩ | ⟨object, empty, selected, rfl⟩ | ⟨loaded, rfl⟩
  -- Furniture without a model only gets a message.
  · exact loadCycle_of_same (by simp [action, empty, unselected]) rfl
  · have started : screen.loadCycle.Step _ _ := .start object enabled empty
    simpa [action, empty, selected, loadCycle, startLoading, displayObjectLoadingUI,
      dispatchLoading, Scene.startLoading] using started
  · have removed : screen.loadCycle.Step _ _ := .remove enabled
    simpa [action, loaded, loadCycle, setAddButtonImages] using removed

private theorem loadCycle_runMain {screen next : ARViewController} {view : SceneView}
    (taken : screen.runMain view = .ok next) :
    screen.loadCycle.Step (screen.action (.mainQueue view)) next.loadCycle := by
  unfold runMain at taken
  split at taken
  · cases taken
  next closure rest queue =>
    cases taken
    cases closure with
    | placeLoadedObject object =>
      have head : screen.loadCycle.placing = object :: rest.filterMap MainClosure.placement := by
        simp [loadCycle, queue, MainClosure.placement]
      -- The button is enabled before the guard of the placement is looked at.
      cases guard : screen.scene.placementQuery object with
      | none =>
        simpa [action, queue, guard, loadCycle, placeVirtualObject, hideObjectLoadingUI,
          setCloseButtonImages] using LoadCycle.Step.discard object _ head
      | some query =>
        simpa [action, queue, guard, loadCycle, placeVirtualObject, hideObjectLoadingUI,
          setCloseButtonImages] using LoadCycle.Step.place object _ head
    -- The other closures show messages and move the focus square.
    | updateFocusSquare isObjectVisible =>
      refine loadCycle_of_same (by simp [action, queue]) ?_
      rw [updateFocusSquare_loadCycle]
      simp only [loadCycle, queue]
      rfl
    | surfaceDetected =>
      refine loadCycle_of_same (by simp [action, queue]) ?_
      simp only [loadCycle, queue]
      rfl
    | displayErrorMessage =>
      refine loadCycle_of_same (by simp [action, queue]) ?_
      simp only [loadCycle, queue]
      rfl

theorem loadCycle_of_pan {screen next : ARViewController} {gesture : PanGesture}
    {view : SceneView} (pans : Pans screen gesture view next) :
    next.loadCycle = screen.loadCycle := by
  rw [pans.same, pans.scene]
  simp [loadCycle]

private theorem loadCycle_of_reshapes {screen next : ARViewController} {kind : GestureKind}
    {state : GestureState} {touches : GestureTouches}
    (reshapes : Reshapes screen kind state touches next) : next.loadCycle = screen.loadCycle := by
  obtain ⟨-, -, reshaping, same⟩ := reshapes
  rw [same]
  simp only [loadCycle, reshaping.loader]

/-- The screen refines the loading cycle. -/
theorem step_loadCycle {screen next : ARViewController} {event : Event}
    (undisturbed : event.Undisturbed) (taken : step screen event = .ok next) :
    screen.loadCycle.Step (screen.action event) next.loadCycle := by
  cases event with
  | viewDidAppear =>
    cases taken
    exact .reset
  | viewWillDisappear =>
    cases taken
    have closed : screen.loadCycle.Step _ _ := .close
    simpa [action, loadCycle, prepareForClose] using closed
  | addVirtualObject view meanwhile =>
    cases undisturbed
    exact loadCycle_addVirtualObject taken
  | background event => exact loadCycle_background taken
  | mainQueue view => exact loadCycle_runMain taken
  | updateQueue =>
    obtain ⟨scene, ran, rfl⟩ := updateQueue_cases taken
    refine loadCycle_of_same rfl ?_
    simp only [loadCycle, Scene.runUpdate_loader ran]
  | coolDownElapsed =>
    obtain ⟨pending, left, rfl⟩ := coolDownElapsed_cases taken
    exact .coolDown pending left
  | trackedRaycastUpdated raycast results =>
    obtain ⟨object, scene, -, handled, rfl⟩ := trackedRaycastUpdated_cases taken
    refine loadCycle_of_same rfl ?_
    simp only [loadCycle, Scene.setVirtualObject3DPosition_loader handled]
  | pan gesture view => exact loadCycle_of_same rfl (loadCycle_of_pan (pan_cases taken))
  | rotate gesture => exact loadCycle_of_same rfl (loadCycle_of_reshapes (rotate_reshapes taken))
  | pinch gesture => exact loadCycle_of_same rfl (loadCycle_of_reshapes (pinch_reshapes taken))
  | tap hitTestResults =>
    cases tap_cases taken
    exact .other
  | coachingOverlayWillActivate =>
    cases taken
    exact .other
  | coachingOverlayDidDeactivate =>
    cases taken
    exact .other
  | coachingOverlayDidRequestSessionReset =>
    cases taken
    unfold restartExperience
    split
    next passes =>
      have guard : screen.isRestartAvailable = true ∧ screen.scene.loader.isLoading = false := by
        simpa using passes
      have restarted : screen.loadCycle.Step _ _ := .restart guard.1 guard.2
      simpa [action, restartPasses, guard, loadCycle, resetTracking, setAddButtonImages]
        using restarted
    next refused => exact loadCycle_of_same (by simp only [action, restartPasses, refused]; rfl) rfl
  | cameraDidChangeTrackingState trackingState =>
    cases taken
    refine loadCycle_of_same rfl ?_
    cases trackingState <;>
      simp [loadCycle, cameraDidChangeTrackingState, Scene.showVirtualContent]
  | sessionWasInterrupted =>
    cases taken
    refine loadCycle_of_same rfl ?_
    simp [loadCycle, Scene.hideVirtualContent]
  | sessionDidFail isARError =>
    cases taken
    refine loadCycle_of_same rfl ?_
    cases isARError <;>
      simp [loadCycle, sessionDidFail, sendToMainQueue, MainClosure.placement]
  | restartSessionTapped =>
    cases restartSessionTapped_cases taken
    exact .reset
  | rendererUpdateAtTime isInFrustum =>
    cases taken
    refine loadCycle_of_same rfl ?_
    simp [loadCycle, rendererUpdateAtTime, sendToMainQueue, MainClosure.placement]
  | rendererDidAdd isPlaneAnchor =>
    cases taken
    refine loadCycle_of_same rfl ?_
    cases isPlaneAnchor <;>
      simp [loadCycle, rendererDidAdd, sendToMainQueue, MainClosure.placement]
  | rendererDidUpdate anchor =>
    cases taken
    exact .other
  | timerFired timer =>
    obtain ⟨status, -, rfl⟩ := timerFired_cases taken
    exact .other

/-! ## Guarded runs of the cycle -/

section Guarded

variable {Inv P : LoadCycle → Prop} {Allowed : LoadCycle → LoadCycle.Action → Prop}

/-- The condition may refuse neither taps, nor the background work that they start and that
may overtake them. -/
structure AllowsTaps (Allowed : LoadCycle → LoadCycle.Action → Prop) : Prop where
  other : ∀ cycle, Allowed cycle .other
  start : ∀ cycle object, Allowed cycle (.start object)
  remove : ∀ cycle, Allowed cycle .remove
  finish : ∀ cycle object, cycle.isRestartAvailable = false → Allowed cycle (.finish object)
  prepare : ∀ cycle object, cycle.isRestartAvailable = false → Allowed cycle (.prepare object)

theorem AllowsTaps.addVirtualObject (taps : AllowsTaps Allowed) (screen : ARViewController)
    (view : SceneView) (meanwhile : List BackgroundEvent) :
    Allowed screen.loadCycle (screen.action (.addVirtualObject view meanwhile)) := by
  simp only [action]
  split
  · split
    · exact taps.start _ _
    · exact taps.other _
  · exact taps.remove _

theorem preserved_loadCycle (taps : AllowsTaps Allowed)
    (preserved : ∀ cycle action next, Inv cycle → Allowed cycle action →
      cycle.Step action next → Inv next)
    (screen : ARViewController) (event : Event) (next : ARViewController)
    (inv : Inv screen.loadCycle) (allowed : Allowed screen.loadCycle (screen.action event))
    (taken : step screen event = .ok next) : Inv next.loadCycle := by
  refine @preserved_of_undisturbed (fun screen => Inv screen.loadCycle)
    (fun screen event => Allowed screen.loadCycle (screen.action event))
    ?_ ?_ ?_ screen event next inv allowed taken
  · intro screen view meanwhile _
    exact taps.addVirtualObject screen view []
  · intro screen event unavailable
    cases event with
    | loaded object content sceneOpens => exact taps.finish _ _ unavailable
    | prepared object => exact taps.prepare _ _ unavailable
  · intro screen event next undisturbed inv allowed taken
    exact preserved _ _ _ inv allowed (step_loadCycle undisturbed taken)

/-- What holds exactly in the runs of the cycle that meet a condition, holds exactly in the
runs of the screen that meet it. -/
theorem always_loadCycle_iff (taps : AllowsTaps Allowed) (sound : ∀ cycle, Inv cycle → P cycle)
    (preserved : ∀ cycle action next, Inv cycle → Allowed cycle action →
      cycle.Step action next → Inv next)
    (broken : ∀ cycle action next, Inv cycle → ¬ Allowed cycle action →
      cycle.Step action next → ¬ P next)
    (initial : Inv LoadCycle.initial) (opening : Opening) (events : List Event) :
    Always step (fun screen => P screen.loadCycle) opening.screen events ↔
      Guarded step (fun screen event => Allowed screen.loadCycle (screen.action event))
        opening.screen events := by
  refine always_iff_guarded (fun screen inv => sound screen.loadCycle inv)
    (preserved_loadCycle taps preserved) ?_ ?_ events
  -- Taps are never refused, so the step that breaks the property is undisturbed.
  · intro screen event next inv refused taken
    have undisturbed : event.Undisturbed := by
      cases event with
      | addVirtualObject view meanwhile =>
        exact absurd (taps.addVirtualObject screen view meanwhile) refused
      | _ => trivial
    exact broken _ _ _ inv refused (step_loadCycle undisturbed taken)
  · exact initial

end Guarded

/-! ## Load serialisation -/

theorem serial_step (screen : ARViewController) (event : Event) (next : ARViewController)
    (serial : screen.loadCycle.Serial) (taken : step screen event = .ok next) :
    next.loadCycle.Serial := by
  have free : AllowsTaps fun _ _ => True := ⟨by simp, by simp, by simp, by simp, by simp⟩
  exact preserved_loadCycle free (fun _ _ _ serial _ taken => serial.step taken) screen event next
    serial trivial taken

theorem serial_always (opening : Opening) (events : List Event) :
    Always step (fun screen => screen.loadCycle.Serial) opening.screen events := by
  refine always_of_invariant serial_step ?_ events
  exact LoadCycle.serial_initial

/-- A tap cannot come, let alone be overtaken, while something is in progress. -/
theorem undisturbed_of_inProgress {screen next : ARViewController} {event : Event}
    (serial : screen.loadCycle.Serial) (busy : screen.loadCycle.inProgress ≠ [])
    (taken : step screen event = .ok next) : event.Undisturbed := by
  cases event with
  | addVirtualObject view meanwhile =>
    have disabled : screen.addVirtualObjectButton.isEnabled = false := by
      rw [← Bool.not_eq_true]
      exact fun enabled => busy (serial.isEnabled_iff.mp enabled)
    -- `UIButton` delivers no taps while it is disabled.
    simp [step, addVirtualObject, disabled] at taken
  | _ => trivial

/-! ## The main queue -/

/-- An undisturbed step runs the first closure of the main queue or adds closures to it. -/
theorem step_mainQueue {screen next : ARViewController} {event : Event}
    (undisturbed : event.Undisturbed) (taken : step screen event = .ok next) :
    (∃ closures, next.dispatch.mainQueue = screen.dispatch.mainQueue ++ closures) ∧
        (∀ view, event ≠ .mainQueue view) ∨
      ∃ view closure, event = .mainQueue view ∧
        screen.dispatch.mainQueue = closure :: next.dispatch.mainQueue := by
  have kept : next.dispatch.mainQueue = screen.dispatch.mainQueue →
      ∃ closures, next.dispatch.mainQueue = screen.dispatch.mainQueue ++ closures :=
    fun same => ⟨[], by rw [same, List.append_nil]⟩
  cases event with
  | addVirtualObject view meanwhile =>
    cases undisturbed
    refine .inl ⟨kept ?_, by simp⟩
    rcases (addVirtualObject_cases taken).2 with ⟨-, -, rfl⟩ | ⟨object, -, -, rfl⟩ | ⟨-, rfl⟩ <;>
      rfl
  | background event =>
    refine .inl ⟨?_, by simp⟩
    cases event with
    | loaded object content sceneOpens =>
      obtain ⟨-, rfl⟩ := loaded_cases taken
      exact kept rfl
    | prepared object =>
      obtain ⟨-, rfl⟩ := prepared_cases taken
      exact ⟨_, rfl⟩
  | mainQueue view =>
    obtain ⟨closure, queue⟩ := (runMain_cases taken).queue
    exact .inr ⟨view, closure, rfl, queue⟩
  | coolDownElapsed =>
    obtain ⟨pending, -, rfl⟩ := coolDownElapsed_cases taken
    exact .inl ⟨kept rfl, by simp⟩
  | updateQueue =>
    obtain ⟨scene, -, rfl⟩ := updateQueue_cases taken
    exact .inl ⟨kept rfl, by simp⟩
  | trackedRaycastUpdated raycast results =>
    obtain ⟨object, scene, -, -, rfl⟩ := trackedRaycastUpdated_cases taken
    exact .inl ⟨kept rfl, by simp⟩
  | pan gesture view =>
    refine .inl ⟨kept ?_, by simp⟩
    rw [(pan_cases taken).same]
  | rotate gesture =>
    refine .inl ⟨kept ?_, by simp⟩
    rw [(rotate_reshapes taken).same]
  | pinch gesture =>
    refine .inl ⟨kept ?_, by simp⟩
    rw [(pinch_reshapes taken).same]
  | coachingOverlayDidRequestSessionReset =>
    cases taken
    refine .inl ⟨kept ?_, by simp⟩
    unfold restartExperience
    split <;> rfl
  | cameraDidChangeTrackingState trackingState =>
    cases taken
    refine .inl ⟨kept ?_, by simp⟩
    cases trackingState <;> rfl
  | sessionDidFail isARError =>
    cases taken
    refine .inl ⟨?_, by simp⟩
    cases isARError with
    | true => exact ⟨_, rfl⟩
    | false => exact kept rfl
  | rendererUpdateAtTime isInFrustum =>
    cases taken
    exact .inl ⟨⟨_, rfl⟩, by simp⟩
  | rendererDidAdd isPlaneAnchor =>
    cases taken
    refine .inl ⟨?_, by simp⟩
    cases isPlaneAnchor with
    | true => exact ⟨_, rfl⟩
    | false => exact kept rfl
  | tap hitTestResults =>
    cases tap_cases taken
    exact .inl ⟨kept rfl, by simp⟩
  | timerFired timer =>
    obtain ⟨status, -, rfl⟩ := timerFired_cases taken
    exact .inl ⟨kept rfl, by simp⟩
  | restartSessionTapped =>
    cases restartSessionTapped_cases taken
    exact .inl ⟨kept rfl, by simp⟩
  | viewDidAppear | viewWillDisappear | coachingOverlayWillActivate | coachingOverlayDidDeactivate
  | sessionWasInterrupted | rendererDidUpdate =>
    cases taken
    exact .inl ⟨kept rfl, by simp⟩

end ARViewController

end FurnitureAR
