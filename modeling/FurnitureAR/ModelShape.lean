import FurnitureAR.GestureSafety
import FurnitureAR.Library.Observation
import Mathlib.Tactic.Ring

/-!
# The shape of a model

The nodes below an object come from its model file, and gestures turn and scale the first of them
in many small steps. Whatever else happens on the screen, the steps add up in exact arithmetic, and
nothing but loading, unloading and the gestures on an object has any influence on its nodes.
-/
namespace FurnitureAR

open Execution

/-- What gestures do to a node: they turn it, and scale its axes alike. -/
structure Reshape where
  rotation : ℚ := 0
  scale : ℚ := 1

namespace Reshape

def apply (reshape : Reshape) (child : ChildNode) : ChildNode where
  eulerAngleY := child.eulerAngleY - reshape.rotation
  scale := (reshape.scale * child.scale.1, reshape.scale * child.scale.2.1,
    reshape.scale * child.scale.2.2)

def andThen (first second : Reshape) : Reshape where
  rotation := first.rotation + second.rotation
  scale := first.scale * second.scale

variable (child : ChildNode)

theorem apply_identity : ({} : Reshape).apply child = child := by
  simp [apply]

theorem apply_andThen (first second : Reshape) :
    (first.andThen second).apply child = second.apply (first.apply child) := by
  simp only [apply, andThen, ChildNode.mk.injEq, Prod.mk.injEq]
  constructor
  · ring
  · refine ⟨?_, ?_, ?_⟩ <;> ring

/-- Only the first node of an object is ever reshaped. -/
def applyFirst (reshape : Reshape) : List ChildNode → List ChildNode
  | [] => []
  | first :: others => reshape.apply first :: others

theorem applyFirst_identity (nodes : List ChildNode) : ({} : Reshape).applyFirst nodes = nodes := by
  cases nodes with
  | nil => rfl
  | cons first others => rw [applyFirst, apply_identity]

end Reshape

/-- The model that has been loaded below an object, and all that gestures have done to it. -/
structure LoadedModel where
  content : ModelContent
  reshape : Reshape := {}

namespace LoadedModel

def nodes (model : LoadedModel) : List ChildNode :=
  model.reshape.apply model.content.first :: model.content.others

def reshaped (reshape : Reshape) (model : LoadedModel) : LoadedModel :=
  { model with reshape := model.reshape.andThen reshape }

/-- The nodes that an object has been left with. -/
def ofNodes : List ChildNode → Option LoadedModel
  | [] => none
  | first :: others => some { content := ⟨first, others⟩ }

def nodesOf (model : Option LoadedModel) : List ChildNode := (model.map nodes).getD []

theorem nodesOf_ofNodes (nodes : List ChildNode) : nodesOf (ofNodes nodes) = nodes := by
  cases nodes with
  | nil => rfl
  | cons first others =>
    simp only [nodesOf, ofNodes, Option.map_some, Option.getD_some, LoadedModel.nodes,
      Reshape.apply_identity]

theorem nodesOf_reshaped (reshape : Reshape) (model : Option LoadedModel) :
    nodesOf (model.map (reshaped reshape)) = reshape.applyFirst (nodesOf model) := by
  cases model with
  | none => rfl
  | some model =>
    simp only [nodesOf, Option.map_some, Option.getD_some, LoadedModel.nodes, reshaped,
      Reshape.applyFirst, Reshape.apply_andThen]

/-- Background work loads a model only where there is none. -/
def loadedBy (object : ObjectRef) (model : Option LoadedModel) :
    BackgroundEvent → Option LoadedModel
  | .loaded loaded content _ => if loaded = object then model.or (some { content }) else model
  | .prepared _ => model

end LoadedModel

open LoadedModel (nodesOf)

/-! ## What reshaping does -/

namespace VirtualObject

theorem rotate_childNodes {object after : VirtualObject} {rotation : ℚ}
    (rotated : object.rotate rotation = .ok after) :
    after.childNodes = ({ rotation } : Reshape).applyFirst object.childNodes := by
  cases nodes : object.childNodes with
  -- Without a node the force unwrap crashes, and nothing is rotated.
  | nil =>
    simp [rotate, objectRotation, firstChild, nodes, bind, Except.bind, Except.map] at rotated
  | cons first others =>
    simp only [rotate, objectRotation, setObjectRotation, firstChild, setFirstChild, nodes, bind,
      Except.bind, Except.map] at rotated
    cases rotated
    simp [Reshape.applyFirst, Reshape.apply]

theorem pinch_childNodes {object after : VirtualObject} {scale : ℚ}
    (pinched : object.pinch scale = .ok after) :
    after.childNodes = ({ scale } : Reshape).applyFirst object.childNodes := by
  cases nodes : object.childNodes with
  | nil => simp [pinch, objectScale, firstChild, nodes, bind, Except.bind, Except.map] at pinched
  | cons first others =>
    simp only [pinch, objectScale, setObjectScale, firstChild, setFirstChild, nodes, bind,
      Except.bind, Except.map] at pinched
    cases pinched
    simp [Reshape.applyFirst, Reshape.apply]

end VirtualObject

namespace VirtualObjectInteraction

variable {interaction after : VirtualObjectInteraction} {scene next : Scene}

/-- What a handler in this state does to an object, if it does so much to the tracked one. -/
def reshapeOf (interaction : VirtualObjectInteraction) (state : GestureState) (reshape : Reshape)
    (object : ObjectRef) : Reshape :=
  if state = .changed ∧ interaction.trackedObject = some object then reshape else {}

theorem childNodes_modify_reshaped {object other : ObjectRef} {reshaped : VirtualObject}
    {reshape : Reshape} (tracked : interaction.trackedObject = some other)
    (nodes : reshaped.childNodes = reshape.applyFirst (scene.objects other).childNodes) :
    ((scene.modify other fun _ => reshaped).objects object).childNodes =
      (interaction.reshapeOf .changed reshape object).applyFirst
        (scene.objects object).childNodes := by
  rw [Scene.modify_objects, reshapeOf, tracked]
  by_cases same : object = other
  · subst same
    rw [if_pos rfl, if_pos ⟨rfl, rfl⟩, nodes]
  · rw [if_neg same, if_neg (by simp [Ne.symm same]), Reshape.applyFirst_identity]

theorem didRotate_childNodes {gesture left : RotationGesture}
    (handled : interaction.didRotate scene gesture = .ok (next, after, left))
    (object : ObjectRef) : (next.objects object).childNodes =
      (interaction.reshapeOf gesture.state { rotation := gesture.rotation } object).applyFirst
        (scene.objects object).childNodes := by
  unfold didRotate at handled
  split at handled
  -- Neither the beginning nor the end of a gesture reshapes anything.
  next began =>
    cases handled
    rw [began, reshapeOf, if_neg (by simp), Reshape.applyFirst_identity]
  next changed =>
    rw [changed]
    split at handled
    next untracked =>
      cases handled
      rw [reshapeOf, untracked, if_neg (by simp), Reshape.applyFirst_identity]
    next tracked =>
      obtain ⟨rotated, done, handled⟩ := bind_ok handled
      cases handled
      exact childNodes_modify_reshaped tracked (VirtualObject.rotate_childNodes done)
  next notBegan notChanged =>
    cases handled
    rw [reshapeOf, if_neg (fun both => notChanged both.1), Reshape.applyFirst_identity]

theorem scaleObject_childNodes {gesture left : PinchGesture}
    (handled : interaction.scaleObject scene gesture = .ok (next, after, left))
    (object : ObjectRef) : (next.objects object).childNodes =
      (interaction.reshapeOf gesture.state { scale := gesture.scale } object).applyFirst
        (scene.objects object).childNodes := by
  unfold scaleObject at handled
  split at handled
  next began =>
    cases handled
    rw [began, reshapeOf, if_neg (by simp), Reshape.applyFirst_identity]
  next changed =>
    rw [changed]
    split at handled
    next untracked =>
      cases handled
      rw [reshapeOf, untracked, if_neg (by simp), Reshape.applyFirst_identity]
    next tracked =>
      obtain ⟨scaled, done, handled⟩ := bind_ok handled
      cases handled
      exact childNodes_modify_reshaped tracked (VirtualObject.pinch_childNodes done)
  next notBegan notChanged =>
    cases handled
    rw [reshapeOf, if_neg (fun both => notChanged both.1), Reshape.applyFirst_identity]

end VirtualObjectInteraction

/-! ## What the other operations do -/

namespace Scene

def nodes (scene : Scene) (object : ObjectRef) : List ChildNode := (scene.objects object).childNodes

variable (scene : Scene) (object : ObjectRef)

theorem nodes_modify_same (other : ObjectRef) (f : VirtualObject → VirtualObject)
    (same : (f (scene.objects other)).childNodes = (scene.objects other).childNodes) :
    (scene.modify other f).nodes object = scene.nodes object :=
  part_modify VirtualObject.childNodes scene other f same object

theorem nodes_stopTrackedRaycast (other : ObjectRef) :
    (scene.stopTrackedRaycast other).nodes object = scene.nodes object := by
  rw [stopTrackedRaycast_eq, nodes_modify_same _ _ _ _ rfl]
  rfl

theorem nodes_removeAllVirtualObjects : scene.removeAllVirtualObjects.nodes object =
    if object ∈ scene.loader.loadedObjects then [] else scene.nodes object := by
  unfold nodes
  rw [removeAllVirtualObjects_objects]
  split <;> rfl

theorem nodes_updateObjectAvailability (availableObjects : List ObjectRef) (view : SceneView) :
    (scene.updateObjectAvailability availableObjects view).nodes object = scene.nodes object := by
  obtain ⟨objects, same, only⟩ := scene.updateObjectAvailability_objects availableObjects view
  obtain ⟨result, query, eq⟩ := only object
  rw [same]
  change (objects object).childNodes = _
  rw [eq]
  rfl

theorem nodes_setVirtualContentHidden (isHidden : Bool) :
    (scene.setVirtualContentHidden isHidden).nodes object = scene.nodes object := by
  rw [setVirtualContentHidden_eq]
  unfold nodes
  dsimp only
  split <;> rfl

theorem nodes_discardPlacement (discarded : ObjectRef) :
    (scene.discardPlacement discarded).nodes object =
      if object ∈ scene.loader.loadedObjects then [] else scene.nodes object := by
  rw [discardPlacement_eq, ← nodes_removeAllVirtualObjects]
  rfl

theorem nodes_placeAt (placed : ObjectRef) (query : ARRaycastQuery) (view : SceneView) :
    (scene.placeAt placed query view).nodes object = scene.nodes object := by
  obtain ⟨transform, same⟩ := scene.placeAt_eq placed query view
  rw [same, nodes_modify_same _ _ _ _ rfl]
  rfl

theorem nodes_translate (moved : ObjectRef) (trackedObject : Option ObjectRef)
    (position : CGPoint) (view : SceneView) :
    (scene.translate moved trackedObject position view).nodes object = scene.nodes object := by
  obtain ⟨transform, same⟩ := scene.translate_eq moved trackedObject position view
  rw [same, nodes_modify_same _ _ _ _ rfl, nodes_stopTrackedRaycast]

theorem nodes_setDown (moved : ObjectRef) (position : CGPoint) (view : SceneView) :
    (scene.setDown moved position view).nodes object = scene.nodes object := by
  unfold nodes
  by_cases same : object = moved
  · rw [same, setDown_objects]
  · rw [setDown_objects_of_ne scene same]

theorem nodes_finishLoading (loaded : ObjectRef) (content : ModelContent) :
    (scene.finishLoading loaded content).nodes object =
      if loaded = object ∧ scene.nodes object = [] then content.nodes else scene.nodes object := by
  unfold nodes
  simp only [finishLoading, modify_objects]
  by_cases same : object = loaded
  · subst same
    rw [if_pos rfl, VirtualObject.load]
    -- Nodes that are there already are not loaded again.
    cases nodes : (scene.objects object).childNodes <;> simp [nodes]
  · rw [if_neg same, if_neg (fun both => same both.1.symm)]

variable {scene} {next : Scene}

theorem nodes_setVirtualObject3DPosition {results : List ARRaycastResult} {moved : ObjectRef}
    (handled : scene.setVirtualObject3DPosition results moved = .ok next) :
    next.nodes object = scene.nodes object := by
  obtain ⟨transform, same⟩ := setVirtualObject3DPosition_eq handled
  rw [same, nodes, withQueue_objects]
  exact nodes_modify_same _ _ _ _ rfl

theorem nodes_runUpdate (ran : scene.runUpdate = some next) :
    next.nodes object = scene.nodes object := by
  obtain ⟨closure, rest, -, rfl⟩ := runUpdate_cases ran
  -- All closures are about anchors and the square.
  cases closure with
  | addOrUpdateAnchor other =>
    rw [execute, addOrUpdateAnchor_eq, nodes, withSession_objects]
    exact nodes_modify_same _ _ _ _ rfl
  | didUpdate anchor =>
    rw [execute]
    rcases (scene.withQueue rest).didUpdateAnchor_cases anchor with same | ⟨other, -, -, same⟩
    · rw [same]
      rfl
    · rw [same]
      exact nodes_modify_same _ _ _ _ rfl
  | setFocusSquare state => rfl

end Scene

/-! ## What one event does -/

/-- Nodes below an object when background work is done. -/
def BackgroundEvent.nodesAfter (object : ObjectRef) (nodes : List ChildNode) :
    BackgroundEvent → List ChildNode
  | .loaded other content _ => if other = object ∧ nodes = [] then content.nodes else nodes
  | .prepared _ => nodes

theorem LoadedModel.nodesOf_loadedBy (object : ObjectRef) (model : Option LoadedModel)
    (event : BackgroundEvent) :
    nodesOf (loadedBy object model event) = event.nodesAfter object (nodesOf model) := by
  cases event with
  | loaded loaded content sceneOpens =>
    simp only [loadedBy, BackgroundEvent.nodesAfter]
    by_cases same : loaded = object
    · cases model with
      | none =>
        simp [same, nodesOf, LoadedModel.nodes, Reshape.apply_identity, ModelContent.nodes]
      | some model => simp [same, nodesOf, LoadedModel.nodes]
    · rw [if_neg same, if_neg (fun both => same both.1)]
  | prepared prepared => rfl

theorem LoadedModel.nodesOf_foldl (object : ObjectRef) (model : Option LoadedModel)
    (events : List BackgroundEvent) : nodesOf (events.foldl (loadedBy object) model) =
      events.foldl (BackgroundEvent.nodesAfter object) (nodesOf model) := by
  induction events generalizing model with
  | nil => rfl
  | cons event events ih => rw [List.foldl_cons, ih, nodesOf_loadedBy, List.foldl_cons]

namespace ARViewController

variable {screen next : ARViewController} {object : ObjectRef} {event : Event}

/-- What the gesture of an event does to an object. -/
def reshapeBy (screen : ARViewController) (object : ObjectRef) : Event → Reshape
  | .rotate gesture =>
    screen.interaction.reshapeOf gesture.state { rotation := gesture.rotation } object
  | .pinch gesture => screen.interaction.reshapeOf gesture.state { scale := gesture.scale } object
  | _ => {}

/-- A tap on the button would load the object that the screen is for. -/
def loadsOnTap (screen : ARViewController) : Bool :=
  screen.scene.loader.loadedObjects.isEmpty && screen.selectedVirtualObject.isSome

/-- The background work that is done in an event. -/
def backgroundWork (screen : ARViewController) : Event → List BackgroundEvent
  | .background event => [event]
  -- Only the handler of a tap that starts loading can be overtaken.
  | .addVirtualObject _ meanwhile => if screen.loadsOnTap then meanwhile else []
  | _ => []

/-- The object leaves the loader's list. -/
def Unloads (screen next : ARViewController) (object : ObjectRef) : Prop :=
  object ∈ screen.scene.loader.loadedObjects ∧ object ∉ next.scene.loader.loadedObjects

instance (screen next : ARViewController) (object : ObjectRef) :
    Decidable (Unloads screen next object) :=
  inferInstanceAs (Decidable (_ ∧ _))

/-- The nodes below an object after an event. -/
def nodesAfter (screen : ARViewController) (event : Event) (next : ARViewController)
    (object : ObjectRef) : List ChildNode :=
  if screen.Unloads next object then []
  else (screen.backgroundWork event).foldl (BackgroundEvent.nodesAfter object)
    ((screen.reshapeBy object event).applyFirst (screen.scene.nodes object))

theorem not_unloads
    (same : next.scene.loader.loadedObjects = screen.scene.loader.loadedObjects) :
    ¬ screen.Unloads next object := by
  rintro ⟨before, after⟩
  exact after (same ▸ before)

/-- Without background work or a gesture, an event that leaves the loader's list alone has to
leave the nodes alone. -/
theorem nodesAfter_of_kept (idle : screen.backgroundWork event = [])
    (still : screen.reshapeBy object event = {})
    (loader : next.scene.loader.loadedObjects = screen.scene.loader.loadedObjects)
    (same : next.scene.nodes object = screen.scene.nodes object) :
    next.scene.nodes object = screen.nodesAfter event next object := by
  rw [same, nodesAfter, if_neg (not_unloads loader), idle, still, Reshape.applyFirst_identity]
  rfl

/-- And one that empties the list has to unload what was in it. -/
theorem nodesAfter_of_removed (idle : screen.backgroundWork event = [])
    (still : screen.reshapeBy object event = {})
    (empty : next.scene.loader.loadedObjects = [])
    (gone : next.scene.nodes object =
      if object ∈ screen.scene.loader.loadedObjects then [] else screen.scene.nodes object) :
    next.scene.nodes object = screen.nodesAfter event next object := by
  have unloads : screen.Unloads next object ↔ object ∈ screen.scene.loader.loadedObjects := by
    simp [Unloads, empty]
  simp only [gone, nodesAfter, unloads, idle, still, Reshape.applyFirst_identity, List.foldl_nil]

theorem nodesAfter_of_reshaped (idle : screen.backgroundWork event = [])
    (loader : next.scene.loader = screen.scene.loader)
    (reshaped : next.scene.nodes object =
      (screen.reshapeBy object event).applyFirst (screen.scene.nodes object)) :
    next.scene.nodes object = screen.nodesAfter event next object := by
  rw [reshaped, nodesAfter, if_neg (not_unloads (by rw [loader])), idle]
  rfl

theorem nodes_rotate {gesture : RotationGesture} (taken : screen.rotate gesture = .ok next) :
    next.scene.nodes object = screen.nodesAfter (.rotate gesture) next object := by
  have loader : next.scene.loader = screen.scene.loader :=
    (rotate_reshapes taken).reshaping.loader
  obtain ⟨after, -, taken⟩ := bind_ok taken
  split at taken
  · obtain ⟨result, handled, taken⟩ := bind_ok taken
    cases taken
    exact nodesAfter_of_reshaped rfl loader
      (VirtualObjectInteraction.didRotate_childNodes (orCrash_ok handled) object)
  · cases taken

theorem nodes_pinch {gesture : PinchGesture} (taken : screen.pinch gesture = .ok next) :
    next.scene.nodes object = screen.nodesAfter (.pinch gesture) next object := by
  have loader : next.scene.loader = screen.scene.loader :=
    (pinch_reshapes taken).reshaping.loader
  obtain ⟨after, -, taken⟩ := bind_ok taken
  split at taken
  · obtain ⟨result, handled, taken⟩ := bind_ok taken
    cases taken
    exact nodesAfter_of_reshaped rfl loader
      (VirtualObjectInteraction.scaleObject_childNodes (orCrash_ok handled) object)
  · cases taken

theorem nodes_background {event : BackgroundEvent} (taken : screen.background event = .ok next) :
    next.scene.nodes object = event.nodesAfter object (screen.scene.nodes object) := by
  cases event with
  | loaded other content sceneOpens =>
    obtain ⟨-, rfl⟩ := loaded_cases taken
    exact Scene.nodes_finishLoading ..
  | prepared other =>
    obtain ⟨-, rfl⟩ := prepared_cases taken
    rfl

theorem nodes_runBackground {final : ARViewController} {events : List BackgroundEvent}
    (finished : run background screen events = .ok final) :
    final.scene.nodes object =
      events.foldl (BackgroundEvent.nodesAfter object) (screen.scene.nodes object) := by
  induction events generalizing screen with
  | nil =>
    cases finished
    rfl
  | cons event events ih =>
    obtain ⟨next, taken, rest⟩ := run_cons_ok finished
    rw [ih rest, nodes_background taken, List.foldl_cons]

/-- Work that overtakes the handler of a tap is done below the object that the tap loads. -/
theorem nodes_addVirtualObject {view : SceneView} {meanwhile : List BackgroundEvent}
    (taken : screen.addVirtualObject view meanwhile = .ok next) :
    next.scene.nodes object =
      screen.nodesAfter (.addVirtualObject view meanwhile) next object := by
  unfold addVirtualObject at taken
  split at taken
  · cases taken
  · split at taken
    next empty =>
      -- Nothing has been loaded, so nothing is unloaded either.
      have nothing : ∀ next, ¬ screen.Unloads next object := by
        rintro next ⟨before, -⟩
        rw [List.isEmpty_iff.mp empty] at before
        cases before
      cases selected : screen.selectedVirtualObject with
      | none =>
        simp only [selected] at taken
        cases taken
        exact nodesAfter_of_kept (by simp [backgroundWork, loadsOnTap, selected]) rfl rfl rfl
      | some loaded =>
        simp only [selected] at taken
        obtain ⟨final, finished, rfl⟩ := map_ok taken
        have work : screen.backgroundWork (.addVirtualObject view meanwhile) = meanwhile := by
          simp [backgroundWork, loadsOnTap, empty, selected]
        have still : screen.reshapeBy object (.addVirtualObject view meanwhile) = {} := rfl
        rw [nodesAfter, if_neg (nothing _), work, still, Reshape.applyFirst_identity]
        -- The tap itself only looks for places, and then the work goes on.
        refine (nodes_runBackground finished).trans ?_
        congr 1
        exact Scene.nodes_updateObjectAvailability ..
    next loaded =>
      cases taken
      refine nodesAfter_of_removed ?_ rfl (by simp [setAddButtonImages])
        (Scene.nodes_removeAllVirtualObjects ..)
      simp [backgroundWork, loadsOnTap, loaded]

theorem nodes_pan {gesture : PanGesture} {view : SceneView}
    (taken : screen.pan gesture view = .ok next) :
    next.scene.nodes object = screen.scene.nodes object := by
  rw [(pan_cases taken).scene]
  unfold VirtualObjectInteraction.didPan
  split
  · rfl
  · split
    · split
      · rfl
      · exact Scene.nodes_translate ..
    · rfl
  · split
    · rfl
    · exact Scene.nodes_setDown ..
  · rfl

theorem nodes_mainQueue {view : SceneView} (taken : step screen (.mainQueue view) = .ok next) :
    next.scene.nodes object = screen.nodesAfter (.mainQueue view) next object := by
  have kept := @nodesAfter_of_kept screen next object (.mainQueue view) rfl rfl
  have removed := @nodesAfter_of_removed screen next object (.mainQueue view) rfl rfl
  simp only [step, runMain] at taken
  split at taken
  · cases taken
  next closure rest head =>
    cases taken
    cases closure with
    | placeLoadedObject placed =>
      simp only [placeVirtualObject, hideObjectLoadingUI, setCloseButtonImages] at kept removed ⊢
      cases guard : screen.scene.placementQuery placed with
      | some query =>
        simp only [guard] at kept ⊢
        exact kept (by simp) (Scene.nodes_placeAt ..)
      | none =>
        -- A placement that fails removes all objects.
        simp only [guard] at removed ⊢
        exact removed (by simp) (Scene.nodes_discardPlacement ..)
    | updateFocusSquare isObjectVisible =>
      obtain ⟨state, same⟩ := scene_updateFocusSquare
        { screen with dispatch := { screen.dispatch with mainQueue := rest } } isObjectVisible view
      dsimp only at kept ⊢
      rw [same] at kept ⊢
      exact kept rfl rfl
    | surfaceDetected => exact kept rfl rfl
    | displayErrorMessage => exact kept rfl rfl

/-- An event does to the nodes of an object what its gesture and its background work say. -/
theorem nodes_step (taken : step screen event = .ok next) (object : ObjectRef) :
    next.scene.nodes object = screen.nodesAfter event next object := by
  have kept := @nodesAfter_of_kept screen next object event
  cases event with
  | viewWillDisappear =>
    cases taken
    exact nodesAfter_of_removed rfl rfl (by simp [prepareForClose])
      (Scene.nodes_removeAllVirtualObjects ..)
  | addVirtualObject view meanwhile => exact nodes_addVirtualObject taken
  -- Background work never shortens the list of the loader.
  | background event =>
    have loader := (InBackground.of_background taken).loadedObjects
    have still : screen.reshapeBy object (.background event) = {} := rfl
    rw [nodesAfter, if_neg (not_unloads loader), still, Reshape.applyFirst_identity]
    exact nodes_background taken
  | mainQueue view => exact nodes_mainQueue taken
  | updateQueue =>
    obtain ⟨scene, ran, rfl⟩ := updateQueue_cases taken
    exact kept rfl rfl (by rw [Scene.runUpdate_loader ran]) (Scene.nodes_runUpdate object ran)
  | coolDownElapsed =>
    obtain ⟨pending, -, rfl⟩ := coolDownElapsed_cases taken
    exact kept rfl rfl rfl rfl
  | trackedRaycastUpdated raycast results =>
    obtain ⟨moved, scene, -, handled, rfl⟩ := trackedRaycastUpdated_cases taken
    exact kept rfl rfl (by rw [Scene.setVirtualObject3DPosition_loader handled])
      (Scene.nodes_setVirtualObject3DPosition object handled)
  | pan gesture view =>
    refine kept rfl rfl ?_ (nodes_pan taken)
    rw [(pan_cases taken).scene, VirtualObjectInteraction.didPan_loader]
  | rotate gesture => exact nodes_rotate taken
  | pinch gesture => exact nodes_pinch taken
  | tap hitTestResults =>
    cases tap_cases taken
    exact kept rfl rfl rfl rfl
  | coachingOverlayDidRequestSessionReset =>
    cases taken
    unfold restartExperience at kept ⊢
    split at kept
    next passes =>
      rw [if_pos passes]
      exact nodesAfter_of_removed rfl rfl (by simp [resetTracking, setAddButtonImages])
        (Scene.nodes_removeAllVirtualObjects ..)
    next refused =>
      rw [if_neg refused]
      exact kept rfl rfl rfl rfl
  | cameraDidChangeTrackingState trackingState =>
    cases taken
    cases trackingState with
    | notAvailable => exact kept rfl rfl rfl rfl
    | limited reason => exact kept rfl rfl rfl rfl
    | normal =>
      exact kept rfl rfl (by simp [cameraDidChangeTrackingState, Scene.showVirtualContent])
        (Scene.nodes_setVirtualContentHidden ..)
  | sessionWasInterrupted =>
    cases taken
    exact kept rfl rfl (by simp [Scene.hideVirtualContent])
      (Scene.nodes_setVirtualContentHidden ..)
  | sessionDidFail isARError =>
    cases taken
    cases isARError <;> exact kept rfl rfl rfl rfl
  | restartSessionTapped =>
    cases restartSessionTapped_cases taken
    exact kept rfl rfl rfl rfl
  | rendererDidAdd isPlaneAnchor =>
    cases taken
    cases isPlaneAnchor <;> exact kept rfl rfl rfl rfl
  | timerFired timer =>
    obtain ⟨status, -, rfl⟩ := timerFired_cases taken
    exact kept rfl rfl rfl rfl
  | viewDidAppear | coachingOverlayWillActivate | coachingOverlayDidDeactivate
  | rendererUpdateAtTime | rendererDidUpdate =>
    cases taken
    exact kept rfl rfl rfl rfl

/-! ## Whole runs -/

abbrev ModelHistory := Observed ARViewController (ObjectRef → Option LoadedModel)

/-- The models that have been loaded since the objects were unloaded last, and what gestures have
done to them since. -/
def observeModels (models : ObjectRef → Option LoadedModel) (screen : ARViewController)
    (event : Event) (next : ARViewController) (object : ObjectRef) : Option LoadedModel :=
  if screen.Unloads next object then none
  else (screen.backgroundWork event).foldl (LoadedModel.loadedBy object)
    ((models object).map (LoadedModel.reshaped (screen.reshapeBy object event)))

/-- The nodes of all objects are those of their models, reshaped by all gestures together. -/
def ShapedExactly (history : ModelHistory) : Prop :=
  ∀ object, (history.state.scene.objects object).childNodes = nodesOf (history.record object)

theorem nodesOf_observed (models : ObjectRef → Option LoadedModel)
    (shaped : ShapedExactly ⟨screen, models⟩) (object : ObjectRef) :
    nodesOf (observeModels models screen event next object) =
      screen.nodesAfter event next object := by
  unfold observeModels nodesAfter
  split
  · rfl
  · rw [LoadedModel.nodesOf_foldl, LoadedModel.nodesOf_reshaped, ← shaped object]
    rfl

/-- Whatever happens on the screen, every object has the nodes of the model that was loaded below
it last, of which the first is turned by the sum and scaled by the product of all that gestures on
this object have reported since, in exact arithmetic; an object that has been removed has none. -/
theorem models_reshaped_exactly (opening : Opening) (events : List Event) :
    Always (observing step observeModels) ShapedExactly
      ⟨opening.screen, fun object => LoadedModel.ofNodes (opening.objects object).childNodes⟩
      events := by
  apply always_observing_of_invariant
  · intro screen models event next shaped taken object
    exact (nodes_step taken object).trans (nodesOf_observed models shaped object).symm
  · intro object
    exact (LoadedModel.nodesOf_ofNodes _).symm

/-- The chair is turned by 1 and then by 2, and made twice as large. -/
example : (run step showroom.screen (floorFound ++ chairPlaced ++ chairAttached ++
    [.rotate ⟨.began, 0, chairTouched⟩, .rotate ⟨.changed, 1, {}⟩, .rotate ⟨.changed, 2, {}⟩,
      .rotate ⟨.ended, 0, {}⟩, .pinch ⟨.began, 1, chairTouched⟩,
      .pinch ⟨.changed, 2, {}⟩])).toOption.map
      (fun screen => (screen.scene.objects 0).childNodes) = some [⟨-3, (2, 2, 2)⟩] := by
  decide +kernel

end ARViewController

end FurnitureAR
