import FurnitureAR.ModelShape
import FurnitureAR.StaleHints

/-!
# The object that a screen is opened for

All screens share the objects. A screen is opened for the furniture with one id, and this module
shows that whatever happens on it, it loads, places, selects, moves and anchors the one object that
belongs to the id. The other objects are only ever told where they could be placed.
-/
namespace FurnitureAR

open Execution

/-- Nothing has happened to an object but that a place has been looked for. -/
def VirtualObject.UpToAvailability (before after : VirtualObject) : Prop :=
  ∃ result query, after = { before with
    mostRecentInitialPlacementResult := result, raycastQuery := query }

theorem VirtualObject.UpToAvailability.refl (object : VirtualObject) :
    object.UpToAvailability object :=
  ⟨_, _, rfl⟩

/-! ## The loading cycle -/

/-- Whatever the loading cycle deals with, it has been started with. -/
theorem LoadCycle.Step.owned {own : ObjectRef → Prop} {cycle next : LoadCycle}
    {action : LoadCycle.Action} (taken : cycle.Step action next)
    (starts : ∀ object, action = .start object → own object)
    (loaded : ∀ object ∈ cycle.loadedObjects, own object)
    (progress : ∀ object ∈ cycle.inProgress, own object) :
    (∀ object ∈ next.loadedObjects, own object) ∧ ∀ object ∈ next.inProgress, own object := by
  cases taken with
  | other => exact ⟨loaded, progress⟩
  -- An object enters the cycle only here; later steps hand it on or drop it.
  | start object enabled empty =>
    have own' : own object := starts object rfl
    refine ⟨by simpa using own', fun other member => ?_⟩
    simp only [inProgress, List.mem_append, List.mem_singleton] at member
    rcases member with ((before | rfl) | before) | before
    · exact progress other (by simp [inProgress, before])
    · exact own'
    · exact progress other (by simp [inProgress, before])
    · exact progress other (by simp [inProgress, before])
  | finish object member =>
    refine ⟨loaded, fun other after => progress other ?_⟩
    simp only [inProgress, List.mem_append, List.mem_singleton] at after ⊢
    rcases after with (erased | before | rfl) | before
    · exact .inl (.inl (List.mem_of_mem_erase erased))
    · exact .inl (.inr before)
    · exact .inl (.inl member)
    · exact .inr before
  | prepare object member =>
    refine ⟨loaded, fun other after => progress other ?_⟩
    simp only [inProgress, List.mem_append, List.mem_singleton] at after ⊢
    rcases after with (before | erased) | before | rfl
    · exact .inl (.inl before)
    · exact .inl (.inr (List.mem_of_mem_erase erased))
    · exact .inr before
    · exact .inl (.inr member)
  | place object rest head =>
    refine ⟨loaded, fun other after => progress other ?_⟩
    simp only [inProgress, head, List.mem_append, List.mem_cons] at after ⊢
    exact after.imp_right .inr
  | discard object rest head =>
    refine ⟨by simp, fun other after => progress other ?_⟩
    simp only [inProgress, head, List.mem_append, List.mem_cons] at after ⊢
    exact after.imp_right .inr
  | remove enabled => exact ⟨by simp, progress⟩
  | close => exact ⟨by simp, progress⟩
  | reset => exact ⟨loaded, progress⟩
  | restart available idle => exact ⟨by simp, progress⟩
  | coolDown pending left => exact ⟨loaded, progress⟩

/-! ## What the operations may do -/

namespace Scene

variable {own : ObjectRef → Prop} {objects : ObjectRef → VirtualObject} {scene next : Scene}

/-- The scene works on its own objects only. -/
structure Confined (own : ObjectRef → Prop) (objects : ObjectRef → VirtualObject) (scene : Scene) :
    Prop where
  names : ∀ object, (scene.objects object).referenceName = (objects object).referenceName
  others : ∀ object, ¬ own object → (objects object).UpToAvailability (scene.objects object)
  raycasts : ∀ raycast object, scene.session.raycasts raycast = some object → own object
  anchoring : ∀ object, .addOrUpdateAnchor object ∈ scene.updateQueue → own object

namespace Confined

theorem modify (confined : Confined own objects scene) {object : ObjectRef}
    {f : VirtualObject → VirtualObject} (owned : own object)
    (name : (f (scene.objects object)).referenceName = (scene.objects object).referenceName) :
    Confined own objects (scene.modify object f) where
  names other :=
    (part_modify VirtualObject.referenceName scene object f name other).trans
      (confined.names other)
  others other stranger := by
    rw [modify_objects, if_neg]
    · exact confined.others other stranger
    · rintro rfl
      exact stranger owned
  raycasts := confined.raycasts
  anchoring := confined.anchoring

theorem withSession (confined : Confined own objects scene) {session : ARSession}
    (raycasts : ∀ raycast object, session.raycasts raycast = some object → own object) :
    Confined own objects (scene.withSession session) :=
  ⟨confined.names, confined.others, raycasts, confined.anchoring⟩

theorem withQueue (confined : Confined own objects scene) {updateQueue : List UpdateClosure}
    (anchoring : ∀ object, .addOrUpdateAnchor object ∈ updateQueue → own object) :
    Confined own objects (scene.withQueue updateQueue) :=
  ⟨confined.names, confined.others, confined.raycasts, anchoring⟩

theorem without (confined : Confined own objects scene) (stopped : RaycastRef → Prop)
    [DecidablePred stopped] (raycast : RaycastRef) (object : ObjectRef)
    (live : (scene.session.without stopped).raycasts raycast = some object) : own object := by
  simp only [ARSession.without] at live
  split at live
  · cases live
  · exact confined.raycasts raycast object live

/-- A tracked raycast belongs to the object that asks for it. -/
theorem trackedRaycast (confined : Confined own objects scene) {object : ObjectRef}
    (owned : own object) (granted : Bool) (raycast : RaycastRef) (other : ObjectRef)
    (live : (scene.session.trackedRaycast object granted).2.raycasts raycast = some other) :
    own other := by
  cases granted with
  | false => exact confined.raycasts raycast other live
  | true =>
    simp only [ARSession.trackedRaycast, if_true, Function.update_apply] at live
    split at live
    · rwa [← Option.some.inj live]
    · exact confined.raycasts raycast other live

theorem stopTrackedRaycast (confined : Confined own objects scene) {object : ObjectRef}
    (owned : own object) : Confined own objects (scene.stopTrackedRaycast object) := by
  rw [stopTrackedRaycast_eq]
  have stopped : Confined own objects (scene.withSession _) :=
    confined.withSession (confined.without fun raycast =>
      (scene.objects object).raycast = some raycast)
  exact stopped.modify owned rfl

theorem removeAllVirtualObjects (confined : Confined own objects scene)
    (loaded : ∀ object ∈ scene.loader.loadedObjects, own object) :
    Confined own objects scene.removeAllVirtualObjects := by
  rw [removeAllVirtualObjects_eq]
  refine ⟨fun object => ?_, fun object stranger => ?_, fun raycast object live => ?_,
    confined.anchoring⟩
  · rw [← confined.names object]
    dsimp only
    split <;> rfl
  · dsimp only
    -- Whatever is removed has been loaded, so it is no stranger.
    rw [if_neg fun member => stranger (loaded object member)]
    exact confined.others object stranger
  · exact confined.without _ raycast object live

theorem setVirtualContentHidden (confined : Confined own objects scene)
    (loaded : ∀ object ∈ scene.loader.loadedObjects, own object) (isHidden : Bool) :
    Confined own objects (scene.setVirtualContentHidden isHidden) := by
  rw [setVirtualContentHidden_eq]
  refine ⟨fun object => ?_, fun object stranger => ?_, confined.raycasts, confined.anchoring⟩
  · rw [← confined.names object]
    dsimp only
    split <;> rfl
  · dsimp only
    rw [if_neg fun member => stranger (loaded object member)]
    exact confined.others object stranger

theorem updateObjectAvailability (confined : Confined own objects scene)
    (availableObjects : List ObjectRef) (view : SceneView) :
    Confined own objects (scene.updateObjectAvailability availableObjects view) := by
  obtain ⟨after, same, only⟩ := scene.updateObjectAvailability_objects availableObjects view
  rw [same]
  refine ⟨fun object => ?_, fun object stranger => ?_, confined.raycasts, confined.anchoring⟩
  · obtain ⟨result, query, eq⟩ := only object
    rw [← confined.names object]
    change (after object).referenceName = _
    rw [eq]
  · obtain ⟨result, query, eq⟩ := only object
    obtain ⟨_, _, before⟩ := confined.others object stranger
    refine ⟨result, query, eq.trans ?_⟩
    rw [before]

theorem translate (confined : Confined own objects scene) {object : ObjectRef}
    (owned : own object) (trackedObject : Option ObjectRef) (position : CGPoint)
    (view : SceneView) :
    Confined own objects (scene.translate object trackedObject position view) := by
  obtain ⟨transform, same⟩ := scene.translate_eq object trackedObject position view
  rw [same]
  exact (confined.stopTrackedRaycast owned).modify owned rfl

theorem enqueueAnchoring (confined : Confined own objects scene) {object : ObjectRef}
    (owned : own object) : Confined own objects (scene.enqueue (.addOrUpdateAnchor object)) := by
  refine confined.withQueue fun other member => ?_
  rcases List.mem_append.mp member with before | new
  · exact confined.anchoring other before
  · cases List.mem_singleton.mp new
    exact owned

theorem setDown (confined : Confined own objects scene) {object : ObjectRef} (owned : own object)
    (position : CGPoint) (view : SceneView) :
    Confined own objects (scene.setDown object position view) := by
  have stopped := confined.stopTrackedRaycast owned
  cases granted : view.grantsAt position with
  | true =>
    rw [setDown_granted granted]
    exact (stopped.withSession (stopped.trackedRaycast owned true)).modify owned rfl
  | false =>
    rw [setDown_refused granted, anchorInPlace]
    have anchored : Confined own objects ((scene.stopTrackedRaycast object).modify object
        fun virtualObject => { virtualObject with shouldUpdateAnchor := false }) :=
      stopped.modify owned rfl
    exact anchored.enqueueAnchoring owned

theorem setVirtualObject3DPosition (confined : Confined own objects scene)
    {results : List ARRaycastResult} {object : ObjectRef} (owned : own object)
    (handled : scene.setVirtualObject3DPosition results object = .ok next) :
    Confined own objects next := by
  obtain ⟨transform, same⟩ := setVirtualObject3DPosition_eq handled
  rw [same]
  have moved := @Confined.modify _ _ _ confined object (fun virtualObject =>
    { virtualObject with
      simdWorldTransform := transform, parent := some .rootNode, shouldUpdateAnchor := false })
    owned rfl
  refine moved.withQueue fun other member => ?_
  rcases List.mem_append.mp member with before | new
  · exact confined.anchoring other before
  -- Its anchor is updated only if the object says so.
  · split at new
    · cases List.mem_singleton.mp new
      exact owned
    · cases new

theorem runUpdate (confined : Confined own objects scene)
    (loaded : ∀ object ∈ scene.loader.loadedObjects, own object)
    (ran : scene.runUpdate = some next) : Confined own objects next := by
  obtain ⟨closure, rest, queue, rfl⟩ := runUpdate_cases ran
  have later : Confined own objects (scene.withQueue rest) :=
    confined.withQueue fun object member =>
      confined.anchoring object (queue ▸ List.mem_cons_of_mem _ member)
  cases closure with
  | addOrUpdateAnchor object =>
    have owned : own object := confined.anchoring object (queue ▸ List.mem_cons_self)
    rw [execute, addOrUpdateAnchor_eq]
    refine Confined.withSession (later.modify owned rfl) ?_
    exact fun raycast other live => confined.raycasts raycast other live
  | didUpdate anchor =>
    rw [execute]
    rcases (scene.withQueue rest).didUpdateAnchor_cases anchor with same | ⟨object, member, -, same⟩
    · rw [same]
      exact later
    · rw [same]
      exact later.modify (loaded object member) rfl
  | setFocusSquare state => exact ⟨later.names, later.others, later.raycasts, later.anchoring⟩

end Confined

end Scene

/-! ## What one event may do -/

namespace ARViewController

variable {screen next : ARViewController} {own : ObjectRef → Prop}
  {objects : ObjectRef → VirtualObject} {event : Event}

/-- The screen deals with its own objects only, in whatever stage. -/
structure Confined (own : ObjectRef → Prop) (objects : ObjectRef → VirtualObject)
    (screen : ARViewController) : Prop where
  scene : screen.scene.Confined own objects
  loaded : ∀ object ∈ screen.loadCycle.loadedObjects, own object
  progress : ∀ object ∈ screen.loadCycle.inProgress, own object
  tracked : ∀ object, screen.interaction.trackedObject = some object → own object
  selected : ∀ object, screen.interaction.selectedObject = some object → own object

/-- Nobody else's nodes are loaded, removed or reshaped. -/
theorem Confined.nodes (confined : screen.Confined own objects) (undisturbed : event.Undisturbed)
    (taken : step screen event = .ok next) {object : ObjectRef} (stranger : ¬ own object) :
    next.scene.nodes object = screen.scene.nodes object := by
  have stays : ¬ screen.Unloads next object := fun unloads =>
    stranger (confined.loaded object unloads.1)
  -- Gestures reshape nothing but the tracked object.
  have untracked : ∀ state reshape,
      screen.interaction.reshapeOf state reshape object = {} := by
    intro state reshape
    rw [VirtualObjectInteraction.reshapeOf, if_neg]
    exact fun both => stranger (confined.tracked object both.2)
  have still : screen.reshapeBy object event = {} := by
    cases event with
    | rotate gesture => exact untracked _ _
    | pinch gesture => exact untracked _ _
    | _ => rfl
  rw [nodes_step taken, nodesAfter, if_neg stays, still, Reshape.applyFirst_identity]
  cases event with
  | addVirtualObject view meanwhile =>
    cases undisturbed
    simp [backgroundWork]
  | background event =>
    cases event with
    | loaded other content sceneOpens =>
      -- The model belongs to an object that the cycle was started for.
      have owned : own other := confined.progress other (by
        have loading := (loaded_cases taken).1
        simp [LoadCycle.inProgress, loadCycle, loading])
      have different : ¬ (other = object ∧ screen.scene.nodes object = []) := by
        rintro ⟨rfl, -⟩
        exact stranger owned
      exact if_neg different
    | prepared other => rfl
  | _ => rfl

theorem Confined.scene_step (confined : screen.Confined own objects)
    (undisturbed : event.Undisturbed) (taken : step screen event = .ok next) :
    next.scene.Confined own objects := by
  have change := step_scene undisturbed taken
  have nodes : ∀ object, ¬ own object → next.scene.nodes object = screen.scene.nodes object :=
    fun object stranger => confined.nodes undisturbed taken stranger
  have kept := confined.scene
  generalize next.scene = scene at change nodes
  cases change with
  | unchanged event => exact kept
  | enqueued event closure noAnchor =>
    refine kept.withQueue fun object member => ?_
    rcases List.mem_append.mp member with before | new
    · exact kept.anchoring object before
    · exact absurd (List.mem_singleton.mp new).symm (noAnchor object)
  | hidden event isHidden => exact kept.setVirtualContentHidden confined.loaded isHidden
  | reset event resets => exact kept.withSession kept.raycasts
  | removed view meanwhile nonempty => exact kept.removeAllVirtualObjects confined.loaded
  | closed =>
    have paused : (screen.scene.withSession screen.scene.session.pause).Confined own objects :=
      kept.withSession kept.raycasts
    exact paused.removeAllVirtualObjects confined.loaded
  | restarted passes =>
    have removed := kept.removeAllVirtualObjects confined.loaded
    exact removed.withSession removed.raycasts
  | startedLoading view object empty =>
    have available := kept.updateObjectAvailability screen.availableObjects view
    exact ⟨available.names, available.others, available.raycasts, available.anchoring⟩
  | finishedLoading object content sceneOpens loading =>
    have owned : own object := confined.progress object (by
      simp [LoadCycle.inProgress, loadCycle, loading])
    have loaded := kept.modify (f := VirtualObject.load content) owned (by
      unfold VirtualObject.load
      split <;> rfl)
    exact ⟨loaded.names, loaded.others, loaded.raycasts, loaded.anchoring⟩
  | placementFailed view object rest head refused =>
    rw [Scene.discardPlacement_eq]
    have removed := kept.removeAllVirtualObjects confined.loaded
    exact removed.withSession removed.raycasts
  -- What waits for its placement comes out of the cycle.
  | placed view object rest query head accepted =>
    have owned : own object := confined.progress object (by
      simp [LoadCycle.inProgress, loadCycle, head, MainClosure.placement])
    obtain ⟨transform, same⟩ := screen.scene.placeAt_eq object query view
    rw [same]
    exact (kept.withSession (kept.trackedRaycast owned _)).modify owned rfl
  | updated scene ran => exact kept.runUpdate confined.loaded ran
  -- A tracked raycast calls back about the object that asked for it.
  | positioned raycast results object scene live handled =>
    exact kept.setVirtualObject3DPosition (kept.raycasts raycast object live) handled
  | translated gesture view object position state exceeded tracked =>
    exact kept.translate (confined.tracked object tracked) _ position view
  | setDown gesture view object state tracked =>
    exact kept.setDown (confined.tracked object tracked) _ view
  | reshaped event object after same =>
    by_cases owned : own object
    · refine kept.modify owned ?_
      rw [same.same]
    -- Reshaping changes nothing but nodes, and those of a stranger have not been changed.
    · have unchanged : after.childNodes = (screen.scene.objects object).childNodes := by
        have here := nodes object owned
        rwa [Scene.nodes, Scene.modify_objects, if_pos rfl] at here
      have whole : after = screen.scene.objects object := by
        rw [same.same, unchanged]
      rw [Scene.modify_id _ _ _ whole]
      exact kept

/-- What the screen is for never changes. -/
theorem step_constants (undisturbed : event.Undisturbed) (taken : step screen event = .ok next) :
    next.virtualObjectId = screen.virtualObjectId ∧
      next.availableObjects = screen.availableObjects := by
  cases event with
  | addVirtualObject view meanwhile =>
    cases undisturbed
    rcases (addVirtualObject_cases taken).2 with ⟨-, -, rfl⟩ | ⟨object, -, -, rfl⟩ | ⟨-, rfl⟩ <;>
      exact ⟨rfl, rfl⟩
  | background event =>
    cases event with
    | loaded object content sceneOpens =>
      obtain ⟨-, rfl⟩ := loaded_cases taken
      exact ⟨rfl, rfl⟩
    | prepared object =>
      obtain ⟨-, rfl⟩ := prepared_cases taken
      exact ⟨rfl, rfl⟩
  | mainQueue view =>
    simp only [step, runMain] at taken
    split at taken
    · cases taken
    next closure rest head =>
      cases taken
      cases closure with
      | placeLoadedObject object =>
        simp only [placeVirtualObject]
        split <;> exact ⟨rfl, rfl⟩
      | updateFocusSquare isObjectVisible =>
        dsimp only [updateFocusSquare]
        split <;> split <;> split <;> exact ⟨rfl, rfl⟩
      | surfaceDetected => exact ⟨rfl, rfl⟩
      | displayErrorMessage => exact ⟨rfl, rfl⟩
  | updateQueue =>
    obtain ⟨scene, -, rfl⟩ := updateQueue_cases taken
    exact ⟨rfl, rfl⟩
  | coolDownElapsed =>
    obtain ⟨pending, -, rfl⟩ := coolDownElapsed_cases taken
    exact ⟨rfl, rfl⟩
  | trackedRaycastUpdated raycast results =>
    obtain ⟨object, scene, -, -, rfl⟩ := trackedRaycastUpdated_cases taken
    exact ⟨rfl, rfl⟩
  | pan gesture view =>
    rw [(pan_cases taken).same]
    exact ⟨rfl, rfl⟩
  | rotate gesture =>
    rw [(rotate_reshapes taken).same]
    exact ⟨rfl, rfl⟩
  | pinch gesture =>
    rw [(pinch_reshapes taken).same]
    exact ⟨rfl, rfl⟩
  | tap hitTestResults =>
    cases tap_cases taken
    exact ⟨rfl, rfl⟩
  | coachingOverlayDidRequestSessionReset =>
    cases taken
    unfold restartExperience
    split <;> exact ⟨rfl, rfl⟩
  | cameraDidChangeTrackingState trackingState =>
    cases taken
    cases trackingState <;> exact ⟨rfl, rfl⟩
  | sessionDidFail isARError =>
    cases taken
    cases isARError <;> exact ⟨rfl, rfl⟩
  | restartSessionTapped =>
    cases restartSessionTapped_cases taken
    exact ⟨rfl, rfl⟩
  | rendererDidAdd isPlaneAnchor =>
    cases taken
    cases isPlaneAnchor <;> exact ⟨rfl, rfl⟩
  | timerFired timer =>
    obtain ⟨status, -, rfl⟩ := timerFired_cases taken
    exact ⟨rfl, rfl⟩
  | viewDidAppear | viewWillDisappear | coachingOverlayWillActivate | coachingOverlayDidDeactivate
  | sessionWasInterrupted | rendererUpdateAtTime | rendererDidUpdate =>
    cases taken
    exact ⟨rfl, rfl⟩

/-- Which object belongs to the id depends on the names only. -/
theorem selected_congr {opening : Opening} (id : screen.virtualObjectId = opening.virtualObjectId)
    (available : screen.availableObjects = opening.availableObjects)
    (names : ∀ object, (screen.scene.objects object).referenceName =
      (opening.objects object).referenceName) :
    screen.selectedVirtualObject = opening.screen.selectedVirtualObject := by
  -- Ids are looked up among the names.
  have same : ∀ objectId, VirtualObject.byId screen.scene.objects opening.availableObjects
      objectId = VirtualObject.byId opening.objects opening.availableObjects objectId := by
    intro objectId
    unfold VirtualObject.byId VirtualObject.hasId VirtualObject.modelName
    simp only [names]
  unfold selectedVirtualObject
  rw [id, available]
  cases objectId : opening.virtualObjectId with
  | none => simp [Opening.screen, objectId]
  | some objectId => simp [Opening.screen, objectId, same]

/-- An object in the scene is no stranger: strangers were not there when the screen was opened. -/
theorem Confined.own_of_attached {opening : Opening}
    (confined : screen.Confined own opening.objects) {object : ObjectRef}
    (attached : (screen.scene.objects object).parent ≠ none) : own object := by
  by_contra stranger
  obtain ⟨_, _, same⟩ := confined.scene.others object stranger
  rw [same] at attached
  exact attached (opening.unplaced object).1

/-- A gesture finds no object that is not in the scene. -/
theorem Confined.tracked_step {opening : Opening} (confined : screen.Confined own opening.objects)
    (undisturbed : event.Undisturbed) (taken : step screen event = .ok next) :
    ∀ object, next.interaction.trackedObject = some object → own object := by
  have change := step_tracking undisturbed taken
  generalize next.interaction.trackedObject = tracked, next.recognized = recognized at change ⊢
  cases change with
  | unchanged event other => exact confined.tracked
  | closed => simp
  | began event kind touches gesture idle hittable =>
    intro object found
    cases hit : objectInteracting touches with
    | none =>
      rw [hit] at found
      exact confined.tracked object found
    | some other =>
      rw [hit] at found
      cases found
      exact confined.own_of_attached (loaded_of_objectInteracting hittable hit).1
  | changed event kind touches gesture same => exact confined.tracked
  | finished event kind state touches gesture lifted same => simp

/-! ## The selection -/

/-- How an object comes to be the selected one. -/
inductive Selects (screen : ARViewController) : Event → ObjectRef → Prop where
  | before (event : Event) (object : ObjectRef)
      (selected : screen.interaction.selectedObject = some object) : Selects screen event object
  | placed (view : SceneView) (object : ObjectRef) (rest : List MainClosure)
      (head : screen.dispatch.mainQueue = .placeLoadedObject object :: rest) :
      Selects screen (.mainQueue view) object
  | hit (event : Event) (object : ObjectRef)
      (attached : (screen.scene.objects object).parent ≠ none) : Selects screen event object

/-- What all gesture handlers make of the selection. -/
def selectedAfter (selected : Option ObjectRef) (touches : GestureTouches) :
    GestureState → Option ObjectRef
  | .began => (objectInteracting touches).or selected
  | _ => selected

theorem selectedObject_trackObject (interaction : VirtualObjectInteraction)
    (touches : GestureTouches) : (interaction.trackObject touches).selectedObject =
      (objectInteracting touches).or interaction.selectedObject := by
  unfold VirtualObjectInteraction.trackObject
  cases objectInteracting touches <;> rfl

theorem selectedObject_didPan (interaction : VirtualObjectInteraction) (scene : Scene)
    (gesture : PanGesture) (view : SceneView) :
    (interaction.didPan scene gesture view).2.1.selectedObject =
      selectedAfter interaction.selectedObject gesture.touches gesture.state := by
  unfold VirtualObjectInteraction.didPan
  cases gesture.state with
  | began => exact selectedObject_trackObject interaction gesture.touches
  | changed =>
    dsimp only
    split
    · split <;> rfl
    · rfl
  -- Where the tracking ends, the selection stays.
  | ended =>
    dsimp only
    split <;> rfl
  | _ => rfl

theorem selectedObject_reshaping {interaction after : VirtualObjectInteraction}
    {scene next : Scene} {touches : GestureTouches} {state : GestureState}
    (reshaping : interaction.Reshaping scene touches state next after) :
    after.selectedObject = selectedAfter interaction.selectedObject touches state := by
  cases reshaping with
  | began => exact selectedObject_trackObject interaction touches
  | ignored untracked => rfl
  | changed object after tracked reshaped => rfl
  | finished state lifted =>
    cases state with
    | began => exact absurd rfl lifted.1
    | _ => rfl

theorem selects_of_gesture {touches : GestureTouches} {state : GestureState}
    (hittable : touches.areHittable screen.scene = true) {object : ObjectRef}
    (selected :
      selectedAfter screen.interaction.selectedObject touches state = some object) :
    Selects screen event object := by
  cases state with
  | began =>
    rcases Option.or_eq_some_iff.mp selected with found | ⟨-, before⟩
    · exact .hit event object (loaded_of_objectInteracting hittable found).1
    · exact .before event object before
  | _ => exact .before event object selected

theorem interaction_updateFocusSquare (screen : ARViewController) (isObjectVisible : Bool)
    (view : SceneView) :
    (screen.updateFocusSquare isObjectVisible view).interaction = screen.interaction := by
  unfold updateFocusSquare
  dsimp only
  split <;> split <;> split <;> rfl

/-- What the main queue runs selects the object that it places. -/
theorem selects_of_runMain {view : SceneView} (taken : screen.runMain view = .ok next)
    {object : ObjectRef} (selected : next.interaction.selectedObject = some object) :
    Selects screen (.mainQueue view) object := by
  unfold runMain at taken
  split at taken
  · cases taken
  next closure rest head =>
    cases taken
    cases closure with
    | placeLoadedObject other =>
      simp only [placeVirtualObject] at selected
      split at selected
      · cases selected
        exact .placed view object rest head
      · cases selected
    | updateFocusSquare isObjectVisible =>
      rw [interaction_updateFocusSquare] at selected
      exact .before _ object selected
    | surfaceDetected => exact .before _ object selected
    | displayErrorMessage => exact .before _ object selected

theorem step_selects (undisturbed : event.Undisturbed) (taken : step screen event = .ok next)
    {object : ObjectRef} (selected : next.interaction.selectedObject = some object) :
    Selects screen event object := by
  cases event with
  | mainQueue view => exact selects_of_runMain taken selected
  | pan gesture view =>
    have pans := pan_cases taken
    rw [pans.interaction, selectedObject_didPan] at selected
    exact selects_of_gesture pans.hittable selected
  | rotate gesture =>
    obtain ⟨hittable, -, reshaping, -⟩ := rotate_reshapes taken
    rw [selectedObject_reshaping reshaping] at selected
    exact selects_of_gesture hittable selected
  | pinch gesture =>
    obtain ⟨hittable, -, reshaping, -⟩ := pinch_reshapes taken
    rw [selectedObject_reshaping reshaping] at selected
    exact selects_of_gesture hittable selected
  | tap hitTestResults =>
    simp only [step, tap] at taken
    split at taken
    next hittable =>
      cases taken
      dsimp only [VirtualObjectInteraction.didTap] at selected
      split at selected
      next other found =>
        cases selected
        exact .hit _ object
          (Scene.loaded_of_virtualObjectAt (List.all_eq_true.mp hittable) found).1
      · exact .before _ object selected
    · cases taken
  | addVirtualObject view meanwhile =>
    cases undisturbed
    rcases (addVirtualObject_cases taken).2 with ⟨-, -, rfl⟩ | ⟨other, -, -, rfl⟩ | ⟨-, rfl⟩ <;>
      exact .before _ object selected
  | background event =>
    cases event with
    | loaded other content sceneOpens =>
      obtain ⟨-, rfl⟩ := loaded_cases taken
      exact .before _ object selected
    | prepared other =>
      obtain ⟨-, rfl⟩ := prepared_cases taken
      exact .before _ object selected
  | updateQueue =>
    obtain ⟨scene, -, rfl⟩ := updateQueue_cases taken
    exact .before _ object selected
  | coolDownElapsed =>
    obtain ⟨pending, -, rfl⟩ := coolDownElapsed_cases taken
    exact .before _ object selected
  | trackedRaycastUpdated raycast results =>
    obtain ⟨other, scene, -, -, rfl⟩ := trackedRaycastUpdated_cases taken
    exact .before _ object selected
  | timerFired timer =>
    obtain ⟨status, -, rfl⟩ := timerFired_cases taken
    exact .before _ object selected
  | cameraDidChangeTrackingState trackingState =>
    cases taken
    cases trackingState <;> exact .before _ object selected
  | sessionDidFail isARError =>
    cases taken
    cases isARError <;> exact .before _ object selected
  | rendererDidAdd isPlaneAnchor =>
    cases taken
    cases isPlaneAnchor <;> exact .before _ object selected
  | coachingOverlayWillActivate | coachingOverlayDidDeactivate | sessionWasInterrupted
  | rendererUpdateAtTime | rendererDidUpdate =>
    cases taken
    exact .before _ object selected
  -- The others take the selection away, if they do anything.
  | coachingOverlayDidRequestSessionReset =>
    cases taken
    unfold restartExperience at selected
    split at selected
    · cases selected
    · exact .before _ object selected
  | restartSessionTapped =>
    cases restartSessionTapped_cases taken
    cases selected
  | viewDidAppear | viewWillDisappear =>
    cases taken
    cases selected

/-- Whatever gets selected is being placed or in the scene. -/
theorem Confined.selected_step {opening : Opening} (confined : screen.Confined own opening.objects)
    (undisturbed : event.Undisturbed) (taken : step screen event = .ok next) :
    ∀ object, next.interaction.selectedObject = some object → own object := by
  intro object selected
  cases step_selects undisturbed taken selected with
  | before _ _ selected => exact confined.selected object selected
  | placed view _ rest head =>
    exact confined.progress object (by
      simp [LoadCycle.inProgress, loadCycle, head, MainClosure.placement])
  | hit _ _ attached => exact confined.own_of_attached attached

end ARViewController

/-! ## Whole runs -/

/-- The screen is opened for this object. -/
def Opening.IsOwn (opening : Opening) (object : ObjectRef) : Prop :=
  opening.screen.selectedVirtualObject = some object

namespace ARViewController

variable {opening : Opening} {screen next : ARViewController} {event : Event}

/-- The screen looks for its object only, and works on it only. -/
structure StaysWithOwn (opening : Opening) (screen : ARViewController) : Prop where
  id : screen.virtualObjectId = opening.virtualObjectId
  available : screen.availableObjects = opening.availableObjects
  confined : screen.Confined opening.IsOwn opening.objects

theorem StaysWithOwn.selected (stays : StaysWithOwn opening screen) :
    screen.selectedVirtualObject = opening.screen.selectedVirtualObject :=
  selected_congr stays.id stays.available stays.confined.scene.names

theorem StaysWithOwn.undisturbed (stays : StaysWithOwn opening screen)
    (undisturbed : event.Undisturbed) (taken : step screen event = .ok next) :
    StaysWithOwn opening next := by
  obtain ⟨id, available⟩ := step_constants undisturbed taken
  have starts : ∀ object, screen.action event = .start object → opening.IsOwn object := by
    intro object start
    obtain ⟨_, _, -, selected⟩ := tap_of_start start
    exact stays.selected.symm.trans selected
  obtain ⟨loaded, progress⟩ := (step_loadCycle undisturbed taken).owned starts
    stays.confined.loaded stays.confined.progress
  exact ⟨id.trans stays.id, available.trans stays.available,
    stays.confined.scene_step undisturbed taken, loaded, progress,
    stays.confined.tracked_step undisturbed taken,
    stays.confined.selected_step undisturbed taken⟩

theorem StaysWithOwn.preserved (screen : ARViewController) (event : Event)
    (next : ARViewController) (stays : StaysWithOwn opening screen)
    (taken : step screen event = .ok next) : StaysWithOwn opening next := by
  refine @preserved_of_undisturbed (StaysWithOwn opening) (fun _ _ => True) ?_ ?_ ?_ screen event
    next stays trivial taken
  · exact fun _ _ _ _ => trivial
  · exact fun _ _ _ => trivial
  · exact fun _ _ _ alone stays _ taken => stays.undisturbed alone taken

theorem staysWithOwn_opening (opening : Opening) : StaysWithOwn opening opening.screen where
  id := rfl
  available := rfl
  confined :=
    { scene :=
        { names := fun _ => rfl
          others := fun object _ => .refl _
          raycasts := fun _ _ live => nomatch live
          anchoring := fun _ waiting => nomatch waiting }
      loaded := by simp [Opening.screen, loadCycle]
      progress := by simp [Opening.screen, loadCycle, LoadCycle.inProgress]
      tracked := by simp [Opening.screen]
      selected := by simp [Opening.screen] }

/-- Nothing has happened to the object, and nothing is about to. -/
structure LeftAlone (opening : Opening) (screen : ARViewController) (object : ObjectRef) :
    Prop where
  unchanged : (opening.objects object).UpToAvailability (screen.scene.objects object)
  unlisted : object ∉ screen.scene.loader.loadedObjects
  idle : object ∉ screen.loadCycle.inProgress
  untracked : ∀ raycast, screen.scene.session.raycasts raycast ≠ some object
  unanchored : .addOrUpdateAnchor object ∉ screen.scene.updateQueue
  untouched : screen.interaction.trackedObject ≠ some object
  unselected : screen.interaction.selectedObject ≠ some object

theorem StaysWithOwn.leftAlone (stays : StaysWithOwn opening screen) {object : ObjectRef}
    (stranger : ¬ opening.IsOwn object) : LeftAlone opening screen object where
  unchanged := stays.confined.scene.others object stranger
  unlisted listed := stranger (stays.confined.loaded object listed)
  idle progress := stranger (stays.confined.progress object progress)
  untracked raycast live := stranger (stays.confined.scene.raycasts raycast object live)
  unanchored waiting := stranger (stays.confined.scene.anchoring object waiting)
  untouched tracked := stranger (stays.confined.tracked object tracked)
  unselected selected := stranger (stays.confined.selected object selected)

/-- In every run of a screen the objects that it was not opened for are left alone. -/
theorem others_left_alone (opening : Opening) (events : List Event) :
    Always step (fun screen => ∀ object, ¬ opening.IsOwn object →
      LeftAlone opening screen object) opening.screen events := by
  have stays : Always step (StaysWithOwn opening) opening.screen events :=
    always_of_invariant StaysWithOwn.preserved (staysWithOwn_opening opening) events
  refine stays.mono fun screen stays object stranger => ?_
  exact StaysWithOwn.leftAlone stays stranger

end ARViewController

end FurnitureAR
