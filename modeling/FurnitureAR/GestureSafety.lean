import FurnitureAR.LoadSerialisation

/-!
# Rotating and scaling loaded objects

Rotation and scale are those of the first child node, which an object has only while it is
loaded. This module says exactly which steps unload an object under the fingers.
-/
namespace FurnitureAR

open Execution

/-- The actions that remove all objects while gestures go on. -/
def LoadCycle.Action.Removes : LoadCycle.Action → Prop
  | .remove | .restart | .discard => True
  | _ => False

namespace Scene

/-! ## Loaded objects stay loaded -/

theorem childNodes_modify {scene : Scene} {object other : ObjectRef}
    {f : VirtualObject → VirtualObject}
    (kept : (scene.objects other).childNodes ≠ [] → (f (scene.objects other)).childNodes ≠ [])
    (loaded : (scene.objects object).childNodes ≠ []) :
    ((scene.modify other f).objects object).childNodes ≠ [] := by
  rw [modify_objects]
  split
  next same =>
    rw [same] at loaded
    exact kept loaded
  · exact loaded

theorem childNodes_stopTrackedRaycast {scene : Scene} {object : ObjectRef} (other : ObjectRef)
    (loaded : (scene.objects object).childNodes ≠ []) :
    ((scene.stopTrackedRaycast other).objects object).childNodes ≠ [] := by
  rw [stopTrackedRaycast_eq]
  exact childNodes_modify id loaded

theorem childNodes_runUpdate {scene next : Scene} {object : ObjectRef}
    (ran : scene.runUpdate = some next) (loaded : (scene.objects object).childNodes ≠ []) :
    (next.objects object).childNodes ≠ [] := by
  obtain ⟨closure, rest, -, rfl⟩ := runUpdate_cases ran
  cases closure with
  | addOrUpdateAnchor other =>
    rw [execute, addOrUpdateAnchor_eq, withSession_objects]
    exact childNodes_modify id loaded
  | didUpdate anchor =>
    rw [execute]
    rcases (scene.withQueue rest).didUpdateAnchor_cases anchor with same | ⟨other, -, -, same⟩
    · rw [same]
      exact loaded
    · rw [same]
      exact childNodes_modify id loaded
  | setFocusSquare state => exact loaded

theorem childNodes_removeAllVirtualObjects {scene : Scene} {object : ObjectRef}
    (loaded : (scene.objects object).childNodes ≠ []) :
    (scene.removeAllVirtualObjects.objects object).childNodes ≠ [] ∨
      object ∈ scene.loader.loadedObjects := by
  by_cases member : object ∈ scene.loader.loadedObjects
  · exact .inr member
  · left
    rwa [removeAllVirtualObjects_objects, if_neg member]

end Scene

namespace ARViewController

/-- Loaded objects stay loaded, unless they are removed. -/
theorem SceneChange.childNodes {screen : ARViewController} {event : Event} {scene : Scene}
    (change : SceneChange screen event scene) {object : ObjectRef}
    (loaded : (screen.scene.objects object).childNodes ≠ []) :
    (scene.objects object).childNodes ≠ [] ∨ object ∈ screen.scene.loader.loadedObjects ∧
      (event = .viewWillDisappear ∨ (screen.action event).Removes) := by
  cases change with
  | unchanged event => exact .inl loaded
  | enqueued event closure noAnchor => exact .inl loaded
  | hidden event isHidden =>
    left
    rw [Scene.setVirtualContentHidden_eq]
    dsimp only
    split <;> exact loaded
  | reset event resets => exact .inl loaded
  | removed view meanwhile nonempty =>
    have removes : (screen.action (.addVirtualObject view meanwhile)).Removes := by
      simp [action, nonempty, LoadCycle.Action.Removes]
    exact (Scene.childNodes_removeAllVirtualObjects loaded).imp_right fun member =>
      ⟨member, .inr removes⟩
  | closed =>
    -- Closing the screen ends the gestures, so it is told apart from other removals.
    have kept := @Scene.childNodes_removeAllVirtualObjects
      { screen.scene with session := screen.scene.session.pause } object loaded
    exact kept.imp_right fun member => ⟨member, .inl rfl⟩
  | restarted passes =>
    have removes : (screen.action .coachingOverlayDidRequestSessionReset).Removes := by
      simp [action, passes, LoadCycle.Action.Removes]
    exact (Scene.childNodes_removeAllVirtualObjects loaded).imp_right fun member =>
      ⟨member, .inr removes⟩
  | startedLoading view other empty =>
    left
    obtain ⟨objects, same, only⟩ :=
      screen.scene.updateObjectAvailability_objects screen.availableObjects view
    obtain ⟨result, query, eq⟩ := only object
    rw [same]
    simp only [Scene.startLoading, eq]
    exact loaded
  -- `load()` keeps a model that is already there.
  | finishedLoading other content sceneOpens loading =>
    exact .inl (Scene.childNodes_modify
      (fun _ => VirtualObject.load_childNodes_ne_nil content _) loaded)
  | placementFailed view other rest head refused =>
    have removes : (screen.action (.mainQueue view)).Removes := by
      simp [action, head, refused, LoadCycle.Action.Removes]
    rw [Scene.discardPlacement_eq]
    exact (Scene.childNodes_removeAllVirtualObjects loaded).imp_right fun member =>
      ⟨member, .inr removes⟩
  | placed view other rest query head accepted =>
    obtain ⟨transform, same⟩ := screen.scene.placeAt_eq other query view
    rw [same]
    exact .inl (Scene.childNodes_modify id loaded)
  | updated scene ran => exact .inl (Scene.childNodes_runUpdate ran loaded)
  | positioned raycast results other scene live handled =>
    obtain ⟨transform, same⟩ := Scene.setVirtualObject3DPosition_eq handled
    rw [same, Scene.withQueue_objects]
    exact .inl (Scene.childNodes_modify id loaded)
  | translated gesture view other position state exceeded tracked =>
    obtain ⟨transform, same⟩ := screen.scene.translate_eq other
      screen.interaction.trackedObject position view
    rw [same]
    exact .inl (Scene.childNodes_modify id
      (Scene.childNodes_stopTrackedRaycast other loaded))
  | setDown gesture view other state tracked =>
    left
    generalize (screen.interaction.updatedTrackingPosition _ _ _ _).1 = position
    have stopped := Scene.childNodes_stopTrackedRaycast other loaded
    cases granted : view.grantsAt position with
    | true =>
      rw [Scene.setDown_granted granted]
      exact Scene.childNodes_modify id stopped
    | false =>
      rw [Scene.setDown_refused granted, Scene.anchorInPlace, Scene.enqueue,
        Scene.withQueue_objects]
      exact Scene.childNodes_modify id stopped
  | reshaped event other after same =>
    exact .inl (Scene.childNodes_modify (fun _ => same.stillLoaded) loaded)

theorem action_of_gesture (screen : ARViewController) {event : Event}
    {report : GestureKind × GestureState × GestureTouches}
    (gesture : event.gesture = some report) : screen.action event = .other := by
  cases event with
  | pan | rotate | pinch => rfl
  | _ => cases gesture

/-- A step that removes all objects does so in the middle of a gesture. -/
theorem step_of_removes {screen next : ARViewController} {event : Event}
    (removes : (screen.action event).Removes) (taken : step screen event = .ok next) :
    next.scene.objects = screen.scene.removeAllVirtualObjects.objects ∧
      next.interaction.trackedObject = screen.interaction.trackedObject ∧
      next.recognized = screen.recognized := by
  cases event with
  | addVirtualObject view meanwhile =>
    have nonempty : screen.scene.loader.loadedObjects.isEmpty = false := by
      by_contra empty
      simp only [Bool.not_eq_false] at empty
      simp only [action, empty, if_true] at removes
      cases selected : screen.selectedVirtualObject <;>
        simp [selected, LoadCycle.Action.Removes] at removes
    simp only [step, addVirtualObject, nonempty, Bool.false_eq_true, if_false] at taken
    split at taken <;> cases taken
    exact ⟨rfl, rfl, rfl⟩
  | mainQueue view =>
    simp only [step, runMain] at taken
    split at taken
    · cases taken
    next closure rest queue =>
      cases taken
      cases closure with
      | placeLoadedObject object =>
        cases guard : screen.scene.placementQuery object with
        | some query => simp [action, queue, guard, LoadCycle.Action.Removes] at removes
        | none =>
          simp only [placeVirtualObject, hideObjectLoadingUI, setCloseButtonImages, guard,
            Scene.discardPlacement_eq, Scene.withSession_objects, and_self]
      | _ => simp [action, queue, LoadCycle.Action.Removes] at removes
  | coachingOverlayDidRequestSessionReset =>
    have passes : screen.restartPasses = true := by
      by_contra refused
      simp [action, refused, LoadCycle.Action.Removes] at removes
    cases taken
    unfold restartExperience
    split
    · exact ⟨rfl, rfl, rfl⟩
    next refused => exact absurd passes refused
  | background event => cases event <;> exact absurd removes id
  | _ => exact absurd removes id

/-! ## The tracked object -/

/-- The object that a rotation or a pinch would change next is loaded. -/
def TracksLoaded (screen : ARViewController) : Prop :=
  screen.recognized = some .rotation ∨ screen.recognized = some .pinch →
    ∀ object, screen.interaction.trackedObject = some object →
      (screen.scene.objects object).childNodes ≠ []

/-- The step does not remove the object that is being rotated or scaled. -/
def SparesTracked (screen : ARViewController) (event : Event) : Prop :=
  (screen.action event).Removes →
    screen.recognized = some .rotation ∨ screen.recognized = some .pinch →
      ∀ object, screen.interaction.trackedObject = some object →
        object ∉ screen.scene.loader.loadedObjects

structure GestureSafe (screen : ARViewController) : Prop where
  loaded : screen.TracksLoaded
  idle : screen.recognized = none → screen.interaction.trackedObject = none

theorem GestureSafe.preserved {screen next : ARViewController} {event : Event}
    (undisturbed : event.Undisturbed) (safe : screen.GestureSafe)
    (spared : screen.SparesTracked event) (taken : step screen event = .ok next) :
    next.GestureSafe := by
  have change := step_scene undisturbed taken
  have tracking := step_tracking undisturbed taken
  -- The invariant carries over as long as the same object is tracked.
  have kept : ∀ object, event ≠ .viewWillDisappear →
      screen.recognized = some .rotation ∨ screen.recognized = some .pinch →
        screen.interaction.trackedObject = some object →
          (next.scene.objects object).childNodes ≠ [] := by
    intro object stays reshaping tracked
    rcases change.childNodes (safe.loaded reshaping object tracked) with
      still | ⟨member, closed | removes⟩
    · exact still
    · exact absurd closed stays
    · exact absurd member (spared removes reshaping object tracked)
  generalize trackedNext : next.interaction.trackedObject = tracked at tracking
  generalize recognizedNext : next.recognized = recognized at tracking
  cases tracking with
  | unchanged event other =>
    refine ⟨fun reshaping object found => ?_, by rw [trackedNext, recognizedNext]; exact safe.idle⟩
    rw [recognizedNext] at reshaping
    rw [trackedNext] at found
    exact kept object other.2 reshaping found
  | closed =>
    refine ⟨fun reshaping object found => ?_, fun _ => trackedNext⟩
    rw [trackedNext] at found
    cases found
  | began event kind touches gesture idle hittable =>
    refine ⟨fun reshaping object found => ?_, fun none => ?_⟩
    -- A new gesture starts with no object, so the one that it tracks was hit just now.
    · rw [trackedNext, safe.idle idle, Option.or_none] at found
      have loaded := (loaded_of_objectInteracting hittable found).2
      have quiet := action_of_gesture screen gesture
      rcases change.childNodes loaded with still | ⟨member, closed | removes⟩
      · exact still
      · rw [closed] at gesture
        cases gesture
      · rw [quiet] at removes
        exact absurd removes id
    · rw [recognizedNext] at none
      cases none
  | changed event kind touches gesture same =>
    refine ⟨fun reshaping object found => ?_, by rw [trackedNext, recognizedNext]; exact safe.idle⟩
    rw [recognizedNext] at reshaping
    rw [trackedNext] at found
    refine kept object ?_ reshaping found
    rintro rfl
    cases gesture
  | finished event kind state touches gesture lifted same =>
    refine ⟨fun reshaping object found => ?_, fun _ => trackedNext⟩
    rw [trackedNext] at found
    cases found

theorem GestureSafe.broken {screen next : ARViewController} {event : Event}
    (refused : ¬ screen.SparesTracked event) (taken : step screen event = .ok next) :
    ¬ next.TracksLoaded := by
  simp only [SparesTracked, not_forall, not_not] at refused
  obtain ⟨removes, reshaping, object, tracked, member⟩ := refused
  obtain ⟨objects, sameTracked, sameRecognized⟩ := step_of_removes removes taken
  intro loaded
  rw [← sameRecognized] at reshaping
  -- The gesture goes on with an object that has been unloaded.
  refine loaded reshaping object (sameTracked.trans tracked) ?_
  rw [objects, Scene.removeAllVirtualObjects_objects, if_pos member]
  rfl

/-- The object that is rotated or scaled has a child node, so that the handlers never stop the
program. -/
structure ReshapesSafely (screen : ARViewController) : Prop where
  loaded : screen.TracksLoaded
  rotation : ∀ gesture error, step screen (.rotate gesture) ≠ .error (.crashed error)
  pinch : ∀ gesture error, step screen (.pinch gesture) ≠ .error (.crashed error)

theorem TracksLoaded.reshapesSafely {screen : ARViewController} (loaded : screen.TracksLoaded) :
    screen.ReshapesSafely := by
  refine ⟨loaded, ?_, ?_⟩
  · intro gesture error crashed
    simp only [step, rotate] at crashed
    cases recognized : screen.recognizing .rotation gesture.state with
    -- An event that the recognizer does not report cannot crash.
    | error reason =>
      rw [recognizing_error recognized] at recognized
      simp [recognized, bind, Except.bind] at crashed
    | ok after =>
      have found : gesture.state = .changed → ∀ object,
          screen.interaction.trackedObject = some object →
            (screen.scene.objects object).childNodes ≠ [] := by
        intro changed
        rw [changed] at recognized
        exact loaded (.inl (recognized_of_changed recognized))
      obtain ⟨result, ok⟩ := VirtualObjectInteraction.didRotate_ok found
      simp only [recognized, ok, bind, Except.bind, orCrash] at crashed
      split at crashed <;> cases crashed
  · intro gesture error crashed
    simp only [step, ARViewController.pinch] at crashed
    cases recognized : screen.recognizing .pinch gesture.state with
    | error reason =>
      rw [recognizing_error recognized] at recognized
      simp [recognized, bind, Except.bind] at crashed
    | ok after =>
      have found : gesture.state = .changed → ∀ object,
          screen.interaction.trackedObject = some object →
            (screen.scene.objects object).childNodes ≠ [] := by
        intro changed
        rw [changed] at recognized
        exact loaded (.inr (recognized_of_changed recognized))
      obtain ⟨result, ok⟩ := VirtualObjectInteraction.scaleObject_ok found
      simp only [recognized, ok, bind, Except.bind, orCrash] at crashed
      split at crashed <;> cases crashed

/-- Rotation and pinch handlers find a loaded object exactly in the runs in which no tap on the
add button, restart or failed placement removes the object that is being rotated or scaled. -/
theorem reshaping_safe_iff (opening : Opening) (events : List Event) :
    Always step ReshapesSafely opening.screen events ↔
      Guarded step SparesTracked opening.screen events := by
  have initial : opening.screen.GestureSafe :=
    ⟨fun _ object tracked => (nomatch tracked), fun _ => rfl⟩
  refine always_iff_guarded (fun _ safe => safe.loaded.reshapesSafely) ?_
    (fun _ _ _ _ refused taken safe => GestureSafe.broken refused taken safe.loaded) initial
    events
  refine preserved_of_undisturbed ?_ ?_ ?_
  · intro screen view meanwhile spared
    exact spared
  -- Background work never removes objects.
  · intro screen event _ removes
    cases event <;> exact absurd removes id
  · intro screen event next undisturbed safe spared taken
    exact safe.preserved undisturbed spared taken

/-- Two fingers rotate the chair, and a third one taps the button to remove it. -/
def removedWhileRotated : List Event :=
  floorFound ++ chairPlaced ++ chairAttached ++
    [.rotate ⟨.began, 0, chairTouched⟩, .addVirtualObject showroomView []]

/-- When the fingers move on, `childNodes.first!` finds no child node. -/
theorem reshaping_not_safe : ¬ ∀ (opening : Opening) (events : List Event),
    Always step ReshapesSafely opening.screen events := by
  intro safe
  have final := (safe showroom removedWhileRotated).atEnd rfl
  exact final.rotation ⟨.changed, 1, {}⟩ _ rfl

end ARViewController

end FurnitureAR
