import FurnitureAR.Library.Observation
import FurnitureAR.PhantomObjects

/-!
# Content during an interruption

Interruptions hide the objects that are loaded at that moment, and normal tracking shows those
that are loaded then. In between nothing remembers the interruption: a placement shows its object,
and a tap or the end of a pan may bring back an object that has not been hidden.
-/
namespace FurnitureAR

open Execution

namespace Scene

def isHidden (scene : Scene) (object : ObjectRef) : Bool := (scene.objects object).isHidden

theorem isHidden_modify_same (scene : Scene) (object : ObjectRef)
    (f : VirtualObject → VirtualObject)
    (same : (f (scene.objects object)).isHidden = (scene.objects object).isHidden)
    (other : ObjectRef) : (scene.modify object f).isHidden other = scene.isHidden other :=
  scene.part_modify VirtualObject.isHidden object f same other

theorem isHidden_withQueue (scene : Scene) (updateQueue : List UpdateClosure)
    (object : ObjectRef) : (scene.withQueue updateQueue).isHidden object = scene.isHidden object :=
  rfl

theorem isHidden_withSession (scene : Scene) (session : ARSession) (object : ObjectRef) :
    (scene.withSession session).isHidden object = scene.isHidden object := rfl

theorem isHidden_removeAllVirtualObjects (scene : Scene) (object : ObjectRef) :
    scene.removeAllVirtualObjects.isHidden object = scene.isHidden object := by
  rw [isHidden, removeAllVirtualObjects_objects]
  split <;> rfl

theorem isHidden_updateObjectAvailability (scene : Scene) (availableObjects : List ObjectRef)
    (view : SceneView) (object : ObjectRef) :
    (scene.updateObjectAvailability availableObjects view).isHidden object =
      scene.isHidden object := by
  obtain ⟨objects, same, only⟩ := scene.updateObjectAvailability_objects availableObjects view
  obtain ⟨result, query, eq⟩ := only object
  rw [same]
  simp only [isHidden, eq]

theorem isHidden_setVirtualContentHidden (scene : Scene) (isHidden : Bool) (object : ObjectRef) :
    (scene.setVirtualContentHidden isHidden).isHidden object =
      if object ∈ scene.loader.loadedObjects then isHidden else scene.isHidden object := by
  rw [setVirtualContentHidden_eq]
  simp only [Scene.isHidden]
  split <;> rfl

theorem isHidden_finishLoading (scene : Scene) (loaded : ObjectRef) (content : ModelContent)
    (object : ObjectRef) :
    (scene.finishLoading loaded content).isHidden object = scene.isHidden object := by
  refine scene.isHidden_modify_same loaded (VirtualObject.load content) ?_ object
  unfold VirtualObject.load
  split <;> rfl

theorem isHidden_discardPlacement (scene : Scene) (discarded object : ObjectRef) :
    (scene.discardPlacement discarded).isHidden object = scene.isHidden object := by
  rw [discardPlacement_eq]
  exact scene.isHidden_removeAllVirtualObjects object

/-- A placement shows its object. -/
theorem isHidden_placeAt (scene : Scene) (placed : ObjectRef) (query : ARRaycastQuery)
    (view : SceneView) (object : ObjectRef) :
    (scene.placeAt placed query view).isHidden object =
      if object = placed then false else scene.isHidden object := by
  obtain ⟨transform, same⟩ := scene.placeAt_eq placed query view
  rw [same, isHidden, modify_objects]
  split <;> rfl

theorem isHidden_setVirtualObject3DPosition {scene next : Scene} {results : List ARRaycastResult}
    {moved : ObjectRef} (handled : scene.setVirtualObject3DPosition results moved = .ok next)
    (object : ObjectRef) : next.isHidden object = scene.isHidden object := by
  obtain ⟨transform, same⟩ := setVirtualObject3DPosition_eq handled
  rw [same, isHidden_withQueue, isHidden_modify_same _ _ _ rfl]

theorem isHidden_stopTrackedRaycast (scene : Scene) (stopped object : ObjectRef) :
    (scene.stopTrackedRaycast stopped).isHidden object = scene.isHidden object := by
  rw [stopTrackedRaycast_eq, isHidden_modify_same _ _ _ rfl]
  rfl

theorem isHidden_translate (scene : Scene) (moved : ObjectRef) (trackedObject : Option ObjectRef)
    (position : CGPoint) (view : SceneView) (object : ObjectRef) :
    (scene.translate moved trackedObject position view).isHidden object =
      scene.isHidden object := by
  obtain ⟨transform, same⟩ := scene.translate_eq moved trackedObject position view
  rw [same, isHidden_modify_same _ _ _ rfl, isHidden_stopTrackedRaycast]

theorem isHidden_setDown (scene : Scene) (moved : ObjectRef) (position : CGPoint)
    (view : SceneView) (object : ObjectRef) :
    (scene.setDown moved position view).isHidden object = scene.isHidden object := by
  by_cases same : object = moved
  · subst same
    simp only [isHidden, setDown_objects]
  · rw [isHidden, setDown_objects_of_ne scene same, isHidden]

theorem isHidden_runUpdate {scene next : Scene} (ran : scene.runUpdate = some next)
    (object : ObjectRef) : next.isHidden object = scene.isHidden object := by
  obtain ⟨closure, rest, -, rfl⟩ := runUpdate_cases ran
  cases closure with
  | addOrUpdateAnchor other =>
    rw [execute, addOrUpdateAnchor_eq, isHidden_withSession, isHidden_modify_same _ _ _ rfl,
      isHidden_withQueue]
  | didUpdate anchor =>
    rw [execute]
    rcases (scene.withQueue rest).didUpdateAnchor_cases anchor with same | ⟨other, -, -, same⟩
    · rw [same, isHidden_withQueue]
    · rw [same, isHidden_modify_same _ _ _ rfl, isHidden_withQueue]
  | setFocusSquare state => rfl

end Scene

/-! ## Steps -/

/-- The events that hide or show all loaded objects. -/
def Event.WritesHidden : Event → Prop
  | .sessionWasInterrupted => True
  | .cameraDidChangeTrackingState trackingState => trackingState = .normal
  | _ => False

namespace ARViewController

variable {screen next : ARViewController}

theorem isHidden_pan {gesture : PanGesture} {view : SceneView}
    (taken : screen.pan gesture view = .ok next) (object : ObjectRef) :
    next.scene.isHidden object = screen.scene.isHidden object := by
  rw [(pan_cases taken).scene]
  unfold VirtualObjectInteraction.didPan
  split
  · rfl
  · split
    · split
      · rfl
      · exact screen.scene.isHidden_translate _ _ _ _ object
    · rfl
  · split
    · rfl
    · exact screen.scene.isHidden_setDown _ _ _ object
  · rfl

theorem isHidden_reshapes {kind : GestureKind} {state : GestureState} {touches : GestureTouches}
    (reshapes : Reshapes screen kind state touches next) (object : ObjectRef) :
    next.scene.isHidden object = screen.scene.isHidden object := by
  obtain ⟨-, -, reshaping, -⟩ := reshapes
  generalize next.scene = scene, next.interaction = interaction at reshaping ⊢
  cases reshaping with
  | began => rfl
  | ignored untracked => rfl
  | changed moved after tracked reshaped =>
    exact screen.scene.isHidden_modify_same moved (fun _ => after) (by rw [reshaped.same]) object
  | finished lifted => rfl

theorem isHidden_runMain {view : SceneView} (taken : screen.runMain view = .ok next)
    (refused : ¬ screen.Places (.mainQueue view)) (object : ObjectRef) :
    next.scene.isHidden object = screen.scene.isHidden object := by
  unfold runMain at taken
  split at taken
  · cases taken
  next closure rest head =>
    cases taken
    cases closure with
    | placeLoadedObject placed =>
      simp only [placeVirtualObject, hideObjectLoadingUI, setCloseButtonImages]
      cases guard : screen.scene.placementQuery placed with
      | none => exact screen.scene.isHidden_discardPlacement placed object
      | some query => exact absurd ⟨view, placed, rest, query, rfl, head, guard⟩ refused
    | updateFocusSquare isObjectVisible =>
      obtain ⟨state, same⟩ := scene_updateFocusSquare
        { screen with dispatch := { screen.dispatch with mainQueue := rest } } isObjectVisible view
      dsimp only
      rw [same]
      rfl
    | surfaceDetected => rfl
    | displayErrorMessage => rfl

/-- Placements, interruptions and normal tracking apart, no step hides or shows an object. -/
theorem isHidden_kept {event : Event} (undisturbed : event.Undisturbed)
    (others : ¬ event.WritesHidden) (refused : ¬ screen.Places event)
    (taken : step screen event = .ok next) (object : ObjectRef) :
    next.scene.isHidden object = screen.scene.isHidden object := by
  cases event with
  | viewWillDisappear =>
    cases taken
    exact Scene.isHidden_removeAllVirtualObjects _ object
  | addVirtualObject view meanwhile =>
    cases undisturbed
    rcases (addVirtualObject_cases taken).2 with ⟨-, -, rfl⟩ | ⟨started, -, -, rfl⟩ | ⟨-, rfl⟩
    · rfl
    · exact screen.scene.isHidden_updateObjectAvailability screen.availableObjects view object
    · exact screen.scene.isHidden_removeAllVirtualObjects object
  | background event =>
    cases event with
    | loaded loaded content sceneOpens =>
      obtain ⟨-, rfl⟩ := loaded_cases taken
      exact screen.scene.isHidden_finishLoading loaded content object
    | prepared prepared =>
      obtain ⟨-, rfl⟩ := prepared_cases taken
      rfl
  | mainQueue view => exact isHidden_runMain taken refused object
  | updateQueue =>
    obtain ⟨scene, ran, rfl⟩ := updateQueue_cases taken
    exact Scene.isHidden_runUpdate ran object
  | coolDownElapsed =>
    obtain ⟨pending, -, rfl⟩ := coolDownElapsed_cases taken
    rfl
  | trackedRaycastUpdated raycast results =>
    obtain ⟨moved, scene, -, handled, rfl⟩ := trackedRaycastUpdated_cases taken
    exact Scene.isHidden_setVirtualObject3DPosition handled object
  | pan gesture view => exact isHidden_pan taken object
  | rotate gesture => exact isHidden_reshapes (rotate_reshapes taken) object
  | pinch gesture => exact isHidden_reshapes (pinch_reshapes taken) object
  | tap hitTestResults =>
    cases tap_cases taken
    rfl
  | coachingOverlayDidRequestSessionReset =>
    cases taken
    unfold restartExperience
    split
    · exact screen.scene.isHidden_removeAllVirtualObjects object
    · rfl
  | cameraDidChangeTrackingState trackingState =>
    cases taken
    cases trackingState with
    | normal => exact absurd rfl others
    | notAvailable | limited => rfl
  | sessionWasInterrupted => exact absurd trivial others
  | sessionDidFail isARError =>
    cases taken
    cases isARError <;> rfl
  | restartSessionTapped =>
    cases restartSessionTapped_cases taken
    rfl
  | rendererDidAdd isPlaneAnchor =>
    cases taken
    cases isPlaneAnchor <;> rfl
  | timerFired timer =>
    obtain ⟨status, -, rfl⟩ := timerFired_cases taken
    rfl
  | viewDidAppear | coachingOverlayWillActivate | coachingOverlayDidDeactivate
  | rendererUpdateAtTime | rendererDidUpdate =>
    cases taken
    rfl

/-! ## During an interruption -/

/-- Whatever is in the list and in the scene, or will get there, is hidden. -/
def Hides (screen : ARViewController) : Prop :=
  ∀ object ∈ screen.scene.ownership.loadedObjects, screen.scene.ownership.Present object →
    screen.scene.isHidden object = true

/-- No placement shows an object of the list that is in the scene or will get there, and neither a
tap nor the end of a pan makes one of an object that is not hidden. -/
def KeepsHidden (screen : ARViewController) : Event → Prop
  | .addVirtualObject _ _ =>
    screen.scene.loader.loadedObjects = [] →
      ∀ object, screen.selectedVirtualObject = some object →
        screen.scene.ownership.Present object → screen.scene.isHidden object = true
  | .mainQueue view =>
    ∀ object rest query, screen.dispatch.mainQueue = .placeLoadedObject object :: rest →
      screen.scene.placementQuery object = some query →
        object ∈ screen.scene.loader.loadedObjects →
          ¬ (view.grantsTrackedRaycast query = true ∨ screen.scene.ownership.Present object)
  | .pan gesture view => gesture.state = .ended →
    ∀ object, screen.interaction.trackedObject = some object →
      object ∈ screen.scene.loader.loadedObjects →
        view.grantsAt
            (screen.interaction.updatedTrackingPosition screen.scene object gesture view).1 = true →
          screen.scene.isHidden object = true
  | _ => True

/-- What is present after a step was present before it, or gets a raycast from a placement or at
the end of a pan. -/
theorem present_before {event : Event} (undisturbed : event.Undisturbed)
    (refused : ¬ screen.Places event)
    (notEnded : ∀ gesture view, event = .pan gesture view → gesture.state ≠ .ended)
    (taken : step screen event = .ok next) {object : ObjectRef}
    (present : next.scene.ownership.Present object) : screen.scene.ownership.Present object := by
  have change := step_ownership undisturbed taken
  generalize next.scene.ownership = ownership at change present
  cases change with
  | same event => exact present
  | loaded view other empty => exact present
  | removed event =>
    rcases present with attached | ⟨raycast, live⟩
    · left
      dsimp only [Ownership.removeAll] at attached
      split at attached
      · exact absurd rfl attached
      · exact attached
    · exact .inr ⟨raycast, (Lease.Registry.live_release.mp live).1⟩
  | placed view placed rest query head accepted =>
    exact absurd ⟨view, placed, rest, query, rfl, head, accepted⟩ refused
  | attached raycast results moved live =>
    rcases present with attached | tracked
    · dsimp only at attached
      rw [Function.update_apply] at attached
      split at attached
      -- Only a live raycast attaches.
      next same => exact .inr ⟨raycast, same ▸ live⟩
      · exact .inl attached
    · exact .inr tracked
  | dragged gesture view moved state =>
    rcases present with attached | ⟨raycast, live⟩
    · exact .inl attached
    · exact .inr ⟨raycast, (Lease.Registry.live_release.mp live).1⟩
  | setDown gesture view moved state tracked => exact absurd state (notEnded gesture view rfl)

/-- Only a tap makes the list longer. -/
theorem member_before {event : Event} (undisturbed : event.Undisturbed)
    (notTap : ∀ view, event ≠ .addVirtualObject view [])
    (taken : step screen event = .ok next) {object : ObjectRef}
    (member : object ∈ next.scene.ownership.loadedObjects) :
    object ∈ screen.scene.ownership.loadedObjects := by
  have change := step_ownership undisturbed taken
  generalize next.scene.ownership = ownership at change member
  cases change with
  | loaded view other empty => exact absurd rfl (notTap view)
  | removed event => cases member
  | same | placed | attached | dragged | setDown => exact member

theorem hides_tap {view : SceneView} (hides : screen.Hides)
    (allowed : screen.KeepsHidden (.addVirtualObject view []))
    (taken : step screen (.addVirtualObject view []) = .ok next) : next.Hides := by
  intro object member present
  rcases (addVirtualObject_cases taken).2 with
    ⟨-, -, rfl⟩ | ⟨started, empty, selected, rfl⟩ | ⟨-, rfl⟩
  · exact hides object member present
  · have same : (screen.startLoading view started).scene.ownership =
        { screen.scene.ownership with
          loadedObjects := screen.scene.ownership.loadedObjects ++ [started] } := by
      rw [← screen.scene.ownership_updateObjectAvailability screen.availableObjects view]
      rfl
    rw [same] at member present
    have nothing : screen.scene.ownership.loadedObjects = [] := empty
    rw [nothing, List.nil_append, List.mem_singleton] at member
    subst member
    have hidden := allowed empty object selected present
    rw [← hidden]
    exact screen.scene.isHidden_updateObjectAvailability screen.availableObjects view object
  · have nothing : screen.scene.removeAllVirtualObjects.ownership.loadedObjects = [] := by
      rw [Scene.ownership_removeAllVirtualObjects]
      rfl
    have removed : object ∈ screen.scene.removeAllVirtualObjects.ownership.loadedObjects := member
    rw [nothing] at removed
    cases removed

theorem hides_placement {view : SceneView} {placed : ObjectRef} {rest : List MainClosure}
    {query : ARRaycastQuery} (hides : screen.Hides)
    (allowed : screen.KeepsHidden (.mainQueue view))
    (head : screen.dispatch.mainQueue = .placeLoadedObject placed :: rest)
    (accepted : screen.scene.placementQuery placed = some query)
    (taken : step screen (.mainQueue view) = .ok next) : next.Hides := by
  intro object member present
  have undisturbed : (Event.mainQueue view).Undisturbed := trivial
  have loaded := member_before undisturbed (by simp) taken member
  by_cases same : object = placed
  · subst same
    have present' := (present_of_placement head accepted taken).mp present
    exact absurd present' (allowed object rest query head accepted loaded)
  · have scene := scene_of_placement head accepted taken
    rw [scene, Scene.isHidden_placeAt, if_neg same]
    apply hides object loaded
    rw [scene, Scene.ownership_placeAt] at present
    rcases present with attached | ⟨raycast, live⟩
    · exact .inl attached
    · dsimp only at live
      split at live
      · rw [Lease.Registry.live_grant] at live
        split at live
        · exact absurd live.symm same
        · exact .inr ⟨raycast, live⟩
      · exact .inr ⟨raycast, live⟩

theorem hides_panEnded {gesture : PanGesture} {view : SceneView}
    (numbered : screen.scene.ownership.raycasts.Numbered) (hides : screen.Hides)
    (allowed : screen.KeepsHidden (.pan gesture view)) (ended : gesture.state = .ended)
    (taken : step screen (.pan gesture view) = .ok next) : next.Hides := by
  intro object member present
  have undisturbed : (Event.pan gesture view).Undisturbed := trivial
  have loaded := member_before undisturbed (by simp) taken member
  rw [isHidden_pan taken]
  rcases (present_of_panOver numbered (.inl ended) taken object).mp present with
    attached | ⟨raycast, live, -⟩ | ⟨-, tracked, granted⟩
  · exact hides object loaded (.inl attached)
  · exact hides object loaded (.inr ⟨raycast, live⟩)
  · exact allowed ended object tracked loaded granted

theorem hides_interrupted (screen : ARViewController) :
    Hides { screen with scene := screen.scene.hideVirtualContent } := by
  intro object member present
  rw [Scene.hideVirtualContent, Scene.ownership_setVirtualContentHidden] at member
  have loaded : object ∈ screen.scene.loader.loadedObjects := member
  rw [Scene.hideVirtualContent, Scene.isHidden_setVirtualContentHidden, if_pos loaded]

/-- Until tracking is normal, a step that meets the condition leaves everything hidden. -/
theorem hides_of_undisturbed {event : Event} (undisturbed : event.Undisturbed)
    (numbered : screen.scene.ownership.raycasts.Numbered) (hides : screen.Hides)
    (allowed : screen.KeepsHidden event)
    (interrupted : event ≠ .cameraDidChangeTrackingState .normal)
    (taken : step screen event = .ok next) : next.Hides := by
  by_cases tap : ∃ view, event = .addVirtualObject view []
  · obtain ⟨view, rfl⟩ := tap
    exact hides_tap hides allowed taken
  by_cases places : screen.Places event
  · obtain ⟨view, placed, rest, query, rfl, head, accepted⟩ := places
    exact hides_placement hides allowed head accepted taken
  by_cases ends : ∃ gesture view, event = .pan gesture view ∧ gesture.state = .ended
  · obtain ⟨gesture, view, rfl, ended⟩ := ends
    exact hides_panEnded numbered hides allowed ended taken
  by_cases again : event = .sessionWasInterrupted
  · subst again
    cases taken
    exact hides_interrupted screen
  · have others : ¬ event.WritesHidden := by
      cases event with
      | cameraDidChangeTrackingState trackingState =>
        exact fun normal => interrupted (by rw [show trackingState = .normal from normal])
      | sessionWasInterrupted => exact fun _ => again rfl
      | _ => exact id
    intro object member present
    rw [isHidden_kept undisturbed others places taken]
    apply hides object
    · exact member_before undisturbed (fun view same => tap ⟨view, same⟩) taken member
    · exact present_before undisturbed places
        (fun gesture view same ended => ends ⟨gesture, view, same, ended⟩) taken present

/-! ## Interruptions -/

/-- An interruption lasts until tracking is normal. -/
inductive Interruption where
  | calm
  | interrupted
  /-- The last event has ended an interruption. -/
  | resumed
  deriving DecidableEq

def observeInterruption (interruption : Interruption) (_ : ARViewController) (event : Event)
    (_ : ARViewController) : Interruption :=
  match event with
  | .sessionWasInterrupted => .interrupted
  | .cameraDidChangeTrackingState .normal =>
    if interruption = .interrupted then .resumed else .calm
  | _ => if interruption = .interrupted then .interrupted else .calm

abbrev InterruptionHistory := Observed ARViewController Interruption

/-- During an interruption, what is in the list is hidden if it is in the scene or will be
attached to it; when tracking becomes normal, everything in the list is visible. -/
structure ContentHidden (history : InterruptionHistory) : Prop where
  hidden : history.record = .interrupted →
    ∀ object ∈ history.state.scene.loader.loadedObjects,
      (history.state.scene.objects object).parent ≠ none ∨ history.state.WillAttach object →
        (history.state.scene.objects object).isHidden = true
  visible : history.record = .resumed →
    ∀ object ∈ history.state.scene.loader.loadedObjects,
      (history.state.scene.objects object).isHidden = false

/-- During an interruption the condition is met. -/
def KeepsInterruption (history : InterruptionHistory) (event : Event) : Prop :=
  history.record = .interrupted → history.state.KeepsHidden event

/-- Raycasts are numbered, so that those that end pans are new. -/
structure Interrupting (history : InterruptionHistory) : Prop where
  numbered : history.state.scene.ownership.raycasts.Numbered
  content : ContentHidden history

theorem hides_iff : screen.Hides ↔ ∀ object ∈ screen.scene.loader.loadedObjects,
    (screen.scene.objects object).parent ≠ none ∨ screen.WillAttach object →
      (screen.scene.objects object).isHidden = true := by
  simp only [willAttach_iff]
  exact Iff.rfl

variable {record : Interruption}

theorem numbered_kept {event : Event} (numbered : screen.scene.ownership.raycasts.Numbered)
    (taken : step screen event = .ok next) : next.scene.ownership.raycasts.Numbered :=
  @preserved_of_undisturbed (fun screen => screen.scene.ownership.raycasts.Numbered)
    (fun _ _ => True) (fun _ _ _ _ => trivial) (fun _ _ _ => trivial)
    (fun _ _ _ undisturbed numbered _ taken => numbered_step undisturbed numbered taken)
    screen event next numbered trivial taken

theorem hides_step {event : Event} (numbered : screen.scene.ownership.raycasts.Numbered)
    (hides : screen.Hides) (allowed : screen.KeepsHidden event)
    (interrupted : event ≠ .cameraDidChangeTrackingState .normal)
    (taken : step screen event = .ok next) : next.Hides := by
  refine (@preserved_of_undisturbed
    (fun screen => screen.scene.ownership.raycasts.Numbered ∧ screen.Hides)
    (fun screen event => screen.KeepsHidden event ∧
      event ≠ .cameraDidChangeTrackingState .normal) ?_ ?_ ?_
    screen event next ⟨numbered, hides⟩ ⟨allowed, interrupted⟩ taken).2
  · exact fun screen view meanwhile allowed => ⟨allowed.1, by simp⟩
  · exact fun screen event _ => ⟨trivial, by simp⟩
  · rintro screen event next undisturbed ⟨numbered, hides⟩ ⟨allowed, interrupted⟩ taken
    exact ⟨numbered_step undisturbed numbered taken,
      hides_of_undisturbed undisturbed numbered hides allowed interrupted taken⟩

/-- An interruption has just begun, or goes on. -/
theorem interrupted_cases (screen next : ARViewController) {event : Event}
    (interrupted : observeInterruption record screen event next = .interrupted) :
    event = .sessionWasInterrupted ∨
      record = .interrupted ∧ event ≠ .cameraDidChangeTrackingState .normal := by
  unfold observeInterruption at interrupted
  split at interrupted
  · exact .inl rfl
  · split at interrupted <;> cases interrupted
  next notNormal =>
    split at interrupted
    next before => exact .inr ⟨before, notNormal⟩
    · cases interrupted

theorem resumed_cases (screen next : ARViewController) {event : Event}
    (resumed : observeInterruption record screen event next = .resumed) :
    event = .cameraDidChangeTrackingState .normal := by
  unfold observeInterruption at resumed
  split at resumed
  · cases resumed
  · rfl
  · split at resumed <;> cases resumed

/-- Normal tracking shows everything in the list. -/
theorem visible_of_normal (taken : step screen (.cameraDidChangeTrackingState .normal) = .ok next) :
    ∀ object ∈ next.scene.loader.loadedObjects, next.scene.isHidden object = false := by
  cases taken
  intro object member
  have same : (screen.cameraDidChangeTrackingState .normal).scene =
      screen.scene.setVirtualContentHidden false := rfl
  rw [same, Scene.setVirtualContentHidden_loader] at member
  rw [same, Scene.isHidden_setVirtualContentHidden, if_pos member]

theorem Interrupting.step (inv : Interrupting ⟨screen, record⟩) {event : Event}
    (allowed : KeepsInterruption ⟨screen, record⟩ event) (taken : step screen event = .ok next) :
    Interrupting ⟨next, observeInterruption record screen event next⟩ := by
  refine ⟨numbered_kept inv.numbered taken, fun interrupted => ?_, fun resumed => ?_⟩
  · apply hides_iff.mp
    rcases interrupted_cases screen next interrupted with rfl | ⟨before, notNormal⟩
    · cases taken
      exact hides_interrupted screen
    · have hides : screen.Hides := hides_iff.mpr (inv.content.hidden before)
      exact hides_step inv.numbered hides (allowed before) notNormal taken
  · obtain rfl := resumed_cases screen next resumed
    exact visible_of_normal taken

/-! ## What breaks an interruption -/

/-- Background work makes no object appear or disappear. -/
theorem present_behind (behind : InBackground screen next) (object : ObjectRef) :
    next.scene.ownership.Present object ↔ screen.scene.ownership.Present object := by
  unfold Ownership.Present Scene.ownership
  dsimp only
  rw [behind.session, behind.objects object]

theorem not_hides_of_refused {event : Event}
    (numbered : screen.scene.ownership.raycasts.Numbered) (refused : ¬ screen.KeepsHidden event)
    (taken : step screen event = .ok next) : ¬ next.Hides := by
  intro hides
  cases event with
  | addVirtualObject view meanwhile =>
    simp only [KeepsHidden, not_forall] at refused
    obtain ⟨empty, object, selected, present, shown⟩ := refused
    obtain ⟨middle, first, behind⟩ := InBackground.of_addVirtualObject taken
    rcases (addVirtualObject_cases first).2 with
      ⟨-, unselected, -⟩ | ⟨started, -, same, rfl⟩ | ⟨loaded, -⟩
    · rw [selected] at unselected
      cases unselected
    · obtain rfl : object = started := Option.some.inj (selected.symm.trans same)
      have available :=
        screen.scene.ownership_updateObjectAvailability screen.availableObjects view
      have member : object ∈ next.scene.ownership.loadedObjects := by
        rw [show next.scene.ownership.loadedObjects = _ from behind.loadedObjects]
        exact List.mem_append_right _ List.mem_cons_self
      have present' : next.scene.ownership.Present object := by
        rw [present_behind behind]
        rw [← available] at present
        exact present
      have hidden := hides object member present'
      rw [Scene.isHidden, behind.objects object] at hidden
      have kept := screen.scene.isHidden_updateObjectAvailability screen.availableObjects view
        object
      exact shown (kept.symm.trans hidden)
    · exact absurd empty loaded
  | mainQueue view =>
    simp only [KeepsHidden, not_forall, not_not] at refused
    obtain ⟨object, rest, query, head, accepted, loaded, present⟩ := refused
    have scene := scene_of_placement head accepted taken
    have hidden := hides object ?_ ((present_of_placement head accepted taken).mpr present)
    · rw [scene, Scene.isHidden_placeAt, if_pos rfl] at hidden
      cases hidden
    · rw [scene, Scene.ownership_placeAt]
      exact loaded
  | pan gesture view =>
    simp only [KeepsHidden, not_forall] at refused
    obtain ⟨ended, object, tracked, loaded, granted, shown⟩ := refused
    apply shown
    rw [← isHidden_pan taken]
    apply hides object
    · rw [scene_of_panEnded ended tracked taken, Scene.ownership_setDown]
      exact loaded
    · exact (present_of_panOver numbered (.inl ended) taken object).mpr
        (.inr (.inr ⟨ended, tracked, granted⟩))
  | _ => exact absurd trivial refused

/-- A step that shows something goes on with the interruption. -/
theorem interrupted_of_refused (next : ARViewController) {event : Event}
    (refused : ¬ screen.KeepsHidden event) :
    observeInterruption .interrupted screen event next = .interrupted := by
  cases event with
  | addVirtualObject | mainQueue | pan => rfl
  | _ => exact absurd trivial refused

/-- Content stays hidden through interruptions exactly in the runs in which, while one lasts, no
placement shows an object of the list that is in the scene or will get there, and neither a tap nor
the end of a pan brings one there that is not hidden. -/
theorem contentHidden_iff (opening : Opening) (events : List Event) :
    Always (observing step observeInterruption) ContentHidden ⟨opening.screen, .calm⟩ events ↔
      Guarded (observing step observeInterruption) KeepsInterruption
        ⟨opening.screen, .calm⟩ events := by
  have initial : Interrupting ⟨opening.screen, .calm⟩ :=
    ⟨fun raycast object live => (nomatch live), fun impossible => (nomatch impossible),
      fun impossible => (nomatch impossible)⟩
  apply always_observing_iff_guarded (fun _ inv => inv.content) ?_ ?_ initial
  · exact fun screen record event next inv allowed taken => inv.step allowed taken
  · intro screen record event next inv refused taken content
    simp only [KeepsInterruption, Classical.not_imp] at refused
    obtain ⟨rfl, refused⟩ := refused
    apply not_hides_of_refused inv.numbered refused taken
    exact hides_iff.mpr (content.hidden (interrupted_of_refused next refused))

/-- A phone call comes in while the chair is being loaded. -/
def interruptedWhileLoading : List Event :=
  floorFound ++ [.addVirtualObject showroomView [], .sessionWasInterrupted,
    .background (.loaded 0 chairModel true), .background (.prepared 0), .mainQueue showroomView,
    .trackedRaycastUpdated 0 [⟨1, .identity, none⟩]]

/-- The chair appears in the middle of it. -/
theorem not_contentHidden : ¬ ∀ (opening : Opening) (events : List Event),
    Always (observing step observeInterruption) ContentHidden ⟨opening.screen, .calm⟩ events := by
  intro content
  have final := ((content showroom interruptedWhileLoading).atEnd rfl).hidden rfl
  exact absurd (final 0 (by decide) (.inl (by decide))) (by decide)

end ARViewController

end FurnitureAR
