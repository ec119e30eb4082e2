import FurnitureAR.VirtualObject

/-!
# The shared scene

The objects, the session, the loader's list and the queue on which nodes and anchors are
updated. The loader, the gestures, the placement code and ARKit's callbacks all work on
these; each of their operations is a function on `Scene` here.
-/
namespace FurnitureAR

/-- What the focus square currently stands for. -/
inductive FocusSquare.State where
  | initializing
  | detecting (raycastResult : ARRaycastResult) (camera : Option ARCamera)
  deriving DecidableEq

/-- The closures that are sent to `updateQueue`. -/
inductive UpdateClosure where
  | addOrUpdateAnchor (object : ObjectRef)
  | didUpdate (anchor : ARAnchor)
  | setFocusSquare (state : FocusSquare.State)
  deriving DecidableEq

structure VirtualObjectLoader where
  loadedObjects : List ObjectRef := []
  isLoading : Bool := false

structure Scene where
  objects : ObjectRef → VirtualObject
  session : ARSession := {}
  loader : VirtualObjectLoader := {}
  focusSquare : FocusSquare.State := .initializing
  updateQueue : List UpdateClosure := []

/-- What the frameworks answer while one event is handled. -/
structure SceneView where
  screenCenter : CGPoint
  projectPoint : SIMD3 → CGPoint
  raycastQuery : CGPoint → TargetAlignment → Option ARRaycastQuery
  raycast : ARRaycastQuery → List ARRaycastResult
  grantsTrackedRaycast : ARRaycastQuery → Bool
  camera : Option ARCamera

/-- `getRaycastQuery(for:)` and `castRay(for:)` from the center of the screen. -/
def SceneView.centerRaycast (view : SceneView) (alignment : TargetAlignment) :
    Option (ARRaycastQuery × ARRaycastResult) := do
  let query ← view.raycastQuery view.screenCenter alignment
  let result ← (view.raycast query).head?
  return (query, result)

/-- The surface below the center of the screen, looked for only while tracking is normal. -/
def SceneView.surface (view : SceneView) : Option (ARRaycastResult × ARCamera) :=
  match view.camera with
  | some camera =>
    if camera.trackingState = .normal then
      (view.centerRaycast .any).map fun (_, result) => (result, camera)
    else none
  | none => none

/-- Whether ARKit gives a tracked raycast from this point of the screen. -/
def SceneView.grantsAt (view : SceneView) (position : CGPoint) : Bool :=
  match view.raycastQuery position .horizontal with
  | some query => view.grantsTrackedRaycast query
  | none => false

namespace Scene

def modify (scene : Scene) (object : ObjectRef) (f : VirtualObject → VirtualObject) : Scene :=
  { scene with objects := Function.update scene.objects object (f (scene.objects object)) }

def withSession (scene : Scene) (session : ARSession) : Scene := { scene with session := session }

def withQueue (scene : Scene) (updateQueue : List UpdateClosure) : Scene :=
  { scene with updateQueue := updateQueue }

def enqueue (scene : Scene) (closure : UpdateClosure) : Scene :=
  scene.withQueue (scene.updateQueue ++ [closure])

@[simp]
theorem withSession_objects (scene : Scene) (session : ARSession) :
    (scene.withSession session).objects = scene.objects := rfl

@[simp]
theorem withQueue_objects (scene : Scene) (updateQueue : List UpdateClosure) :
    (scene.withQueue updateQueue).objects = scene.objects := rfl

theorem modify_objects (scene : Scene) (object other : ObjectRef)
    (f : VirtualObject → VirtualObject) : (scene.modify object f).objects other =
      if other = object then f (scene.objects object) else scene.objects other :=
  Function.update_apply _ _ _ _

/-- A change keeps the parts of all objects that it keeps of the changed one. -/
theorem part_modify {α : Type} (part : VirtualObject → α) (scene : Scene) (object : ObjectRef)
    (f : VirtualObject → VirtualObject)
    (same : part (f (scene.objects object)) = part (scene.objects object)) (other : ObjectRef) :
    part ((scene.modify object f).objects other) = part (scene.objects other) := by
  rw [modify_objects]
  split
  next here => rw [same, here]
  · rfl

theorem modify_id (scene : Scene) (object : ObjectRef) (f : VirtualObject → VirtualObject)
    (same : f (scene.objects object) = scene.objects object) : scene.modify object f = scene := by
  simp only [modify, same, Function.update_eq_self]

theorem modify_modify (scene : Scene) (object : ObjectRef) (f g : VirtualObject → VirtualObject) :
    (scene.modify object f).modify object g = scene.modify object fun o => g (f o) := by
  simp only [modify, Function.update_self, Function.update_idem]

/-- A loop that changes every object of a list, in a way that is not undone or repeated
when an object occurs twice. -/
theorem foldl_modify (f : VirtualObject → VirtualObject) (once : ∀ object, f (f object) = f object)
    (objects : List ObjectRef) (scene : Scene) :
    objects.foldl (fun scene object => scene.modify object f) scene =
      { scene with objects := fun object =>
          if object ∈ objects then f (scene.objects object) else scene.objects object } := by
  -- Every object is changed at most once for good, since `f` does nothing the second time.
  induction objects generalizing scene with
  | nil => simp
  | cons first rest ih =>
    simp only [List.foldl_cons, ih, modify_objects]
    simp only [modify, Scene.mk.injEq, and_true]
    funext object
    by_cases same : object = first
    · subst same
      by_cases again : object ∈ rest <;> simp [again, once]
    · simp [same]

/-! ## `VirtualObject` and `VirtualObjectLoader` -/

def stopTrackedRaycast (scene : Scene) (object : ObjectRef) : Scene :=
  match (scene.objects object).raycast with
  | some raycast =>
    { scene with session := scene.session.stopTracking raycast }.modify object
      fun virtualObject => { virtualObject with raycast := none }
  -- `raycast?.stopTracking()` has nothing to stop, and `raycast` is nil already.
  | none => scene

theorem stopTrackedRaycast_eq (scene : Scene) (object : ObjectRef) :
    scene.stopTrackedRaycast object =
      { scene with
        session := scene.session.without fun raycast =>
          (scene.objects object).raycast = some raycast }.modify object
        fun virtualObject => { virtualObject with raycast := none } := by
  cases stored : (scene.objects object).raycast with
  | none =>
    have same : { scene.objects object with raycast := none } = scene.objects object := by
      rw [← stored]
    simp [stopTrackedRaycast, stored, modify, same, ARSession.without]
  | some raycast =>
    simp only [stopTrackedRaycast, stored, ARSession.stopTracking_eq, Option.some.injEq]

/-- The part of `loadVirtualObject` that runs before the background work is dispatched. -/
def startLoading (scene : Scene) (object : ObjectRef) : Scene :=
  { scene with loader :=
      { loadedObjects := scene.loader.loadedObjects ++ [object], isLoading := true } }

/-- The background work of `loadVirtualObject`. -/
def finishLoading (scene : Scene) (object : ObjectRef) (content : ModelContent) : Scene :=
  let scene := scene.modify object (VirtualObject.load content)
  { scene with loader := { scene.loader with isLoading := false } }

def removeVirtualObject (scene : Scene) (index : Nat) : Scene :=
  -- `guard loadedObjects.indices.contains(index)`
  match scene.loader.loadedObjects[index]? with
  | none => scene
  | some object =>
    -- The object keeps its anchor, and nothing tells the gestures about its removal.
    let scene := scene.stopTrackedRaycast object
    let scene := scene.modify object VirtualObject.removeFromParentNode
    let scene := scene.modify object VirtualObject.unload
    { scene with loader :=
        { scene.loader with loadedObjects := scene.loader.loadedObjects.eraseIdx index } }

/-- The loop over `loadedObjects.indices.reversed()`. -/
def removeAllVirtualObjects (scene : Scene) : Scene :=
  (List.range scene.loader.loadedObjects.length).reverse.foldl removeVirtualObject scene

/-- An object after its removal. Its anchor and its transform are what they were. -/
def removed (virtualObject : VirtualObject) : VirtualObject :=
  { virtualObject with raycast := none, parent := none, childNodes := [] }

private theorem removeVirtualObject_last (scene : Scene) (objects : List ObjectRef)
    (last : ObjectRef) (loaded : scene.loader.loadedObjects = objects ++ [last]) :
    scene.removeVirtualObject objects.length =
      { scene with
        objects := Function.update scene.objects last (removed (scene.objects last))
        session := scene.session.without fun raycast =>
          (scene.objects last).raycast = some raycast
        loader := { scene.loader with loadedObjects := objects } } := by
  have found : scene.loader.loadedObjects[objects.length]? = some last := by
    simp [loaded]
  have erased : scene.loader.loadedObjects.eraseIdx objects.length = objects := by
    rw [loaded, List.eraseIdx_append_of_length_le (Nat.le_refl _), Nat.sub_self,
      List.eraseIdx_cons_zero, List.append_nil]
  simp only [removeVirtualObject, found, stopTrackedRaycast_eq, modify_modify]
  simp only [modify, erased]
  rfl

/-- Removing all objects takes every loaded object out of the scene, unloads it and stops
the raycast that it stores; anchors stay. -/
theorem removeAllVirtualObjects_eq (scene : Scene) : scene.removeAllVirtualObjects =
    { scene with
      objects := fun object =>
        if object ∈ scene.loader.loadedObjects then removed (scene.objects object)
        else scene.objects object
      session := scene.session.without fun raycast =>
        ∃ object ∈ scene.loader.loadedObjects, (scene.objects object).raycast = some raycast
      loader := { scene.loader with loadedObjects := [] } } := by
  unfold removeAllVirtualObjects
  generalize loaded : scene.loader.loadedObjects = objects
  -- The loop removes the last object first, so the induction takes objects off the end.
  induction objects using List.reverseRecOn generalizing scene with
  | nil =>
    obtain ⟨objects, session, ⟨loadedObjects, isLoading⟩, focusSquare, updateQueue⟩ := scene
    simp only at loaded
    simp [loaded, ARSession.without]
  | append_singleton objects last ih =>
    rw [List.length_append, List.length_singleton, List.range_succ, List.reverse_append,
      List.reverse_singleton, List.singleton_append, List.foldl_cons,
      removeVirtualObject_last scene objects last loaded, ih _ rfl]
    simp only [Scene.mk.injEq, ARSession.without, ARSession.mk.injEq, true_and, and_true]
    constructor
    · funext object
      by_cases same : object = last
      · subst same
        by_cases again : object ∈ objects <;> simp [again, removed]
      · simp [same]
    · funext raycast
      by_cases stored : (scene.objects last).raycast = some raycast
      · simp [stored]
      -- The raycasts that the other objects store are what they were.
      · have unaffected : ∀ object, (Function.update scene.objects last
            (removed (scene.objects last)) object).raycast = some raycast ↔
              object ≠ last ∧ (scene.objects object).raycast = some raycast := by
          intro object
          by_cases same : object = last
          · subst same
            simp [removed]
          · simp [same]
        have same : (∃ object ∈ objects, object ≠ last ∧
            (scene.objects object).raycast = some raycast) ↔
              ∃ object ∈ objects ++ [last], (scene.objects object).raycast = some raycast := by
          constructor
          · rintro ⟨object, member, -, holds⟩
            exact ⟨object, List.mem_append_left _ member, holds⟩
          · rintro ⟨object, member, holds⟩
            have other : object ≠ last := by
              rintro rfl
              exact stored holds
            exact ⟨object, by simpa [other] using member, other, holds⟩
        simp only [unaffected, stored, if_false, same]

theorem removeAllVirtualObjects_objects (scene : Scene) (object : ObjectRef) :
    scene.removeAllVirtualObjects.objects object =
      if object ∈ scene.loader.loadedObjects then removed (scene.objects object)
      else scene.objects object := by
  rw [removeAllVirtualObjects_eq]

/-! ## `VirtualObjectARView` -/

def addOrUpdateAnchor (scene : Scene) (object : ObjectRef) : Scene :=
  -- If the anchor is not nil, it is removed from the session first.
  let session := match (scene.objects object).anchor with
    | some anchor => scene.session.remove anchor
    | none => scene.session
  let (newAnchor, session) := session.makeAnchor (scene.objects object).simdWorldTransform
  let scene := scene.modify object fun virtualObject =>
    { virtualObject with anchor := some newAnchor }
  { scene with session := session.add newAnchor }

theorem addOrUpdateAnchor_eq (scene : Scene) (object : ObjectRef) :
    scene.addOrUpdateAnchor object =
      (scene.modify object fun virtualObject =>
        { virtualObject with
          anchor := some ⟨scene.session.nextAnchor, virtualObject.simdWorldTransform⟩ }).withSession
        { scene.session with
          anchors := scene.session.anchors.filter (fun identifier =>
            some identifier ≠ (scene.objects object).anchor.map ARAnchor.identifier) ++
              [scene.session.nextAnchor]
          nextAnchor := scene.session.nextAnchor + 1 } := by
  unfold addOrUpdateAnchor
  cases (scene.objects object).anchor with
  | none => simp [ARSession.makeAnchor, ARSession.add, modify, withSession]
  | some anchor => simp [ARSession.makeAnchor, ARSession.add, ARSession.remove, modify, withSession]

/-! ## `ARViewController+ObjectSelection` -/

def setTransform (scene : Scene) (object : ObjectRef) (result : ARRaycastResult) : Scene :=
  scene.modify object fun virtualObject =>
    { virtualObject with simdWorldTransform := result.worldTransform }

def updateObjectAvailability (scene : Scene) (availableObjects : List ObjectRef)
    (view : SceneView) : Scene :=
  availableObjects.foldl (fun scene object =>
    scene.modify object fun virtualObject =>
      -- The query is kept only together with a first result of its cast.
      match view.centerRaycast virtualObject.allowedAlignment with
      | some (query, result) =>
        { virtualObject with
          mostRecentInitialPlacementResult := some result, raycastQuery := some query }
      | none =>
        { virtualObject with mostRecentInitialPlacementResult := none, raycastQuery := none })
    scene

theorem updateObjectAvailability_objects (scene : Scene) (availableObjects : List ObjectRef)
    (view : SceneView) : ∃ objects,
      scene.updateObjectAvailability availableObjects view = { scene with objects := objects } ∧
        ∀ object, ∃ result query, objects object =
          { scene.objects object with
            mostRecentInitialPlacementResult := result, raycastQuery := query } := by
  unfold updateObjectAvailability
  induction availableObjects generalizing scene with
  | nil => exact ⟨scene.objects, rfl, fun object => ⟨_, _, rfl⟩⟩
  | cons first rest ih =>
    obtain ⟨objects, same, only⟩ := ih (scene.modify first fun virtualObject =>
      match view.centerRaycast virtualObject.allowedAlignment with
      | some (query, result) =>
        { virtualObject with
          mostRecentInitialPlacementResult := some result, raycastQuery := some query }
      | none =>
        { virtualObject with mostRecentInitialPlacementResult := none, raycastQuery := none })
    refine ⟨objects, same, fun object => ?_⟩
    obtain ⟨result, query, eq⟩ := only object
    rw [eq, modify_objects]
    split
    next first =>
      subst first
      split <;> exact ⟨result, query, rfl⟩
    next => exact ⟨result, query, rfl⟩

def createTrackedRaycastAndSet3DPosition (scene : Scene) (object : ObjectRef)
    (query : ARRaycastQuery) (initialResult : Option ARRaycastResult) (view : SceneView) :
    Option RaycastRef × Scene :=
  let scene := match initialResult with
    | some result => scene.setTransform object result
    | none => scene
  let (raycast, session) := scene.session.trackedRaycast object (view.grantsTrackedRaycast query)
  (raycast, { scene with session := session })

def createRaycastAndUpdate3DPosition (scene : Scene) (object : ObjectRef)
    (trackedObject : Option ObjectRef) (query : ARRaycastQuery) (view : SceneView) : Scene :=
  match (view.raycast query).head? with
  | none => scene
  | some result =>
    -- An object that is aligned to a surface is dragged smoothly: its translation is applied
    -- at once, its orientation by a tenth.
    if (scene.objects object).allowedAlignment = .any ∧ trackedObject = some object then
      scene.modify object fun virtualObject =>
        { virtualObject with simdWorldTransform :=
            { translation := result.worldTransform.translation
              orientation := .slerp virtualObject.simdWorldTransform.orientation
                result.worldTransform.orientation (1 / 10) } }
    else scene.setTransform object result

/-- The guard of `placeVirtualObject`: the query that it places the object with. -/
def placementQuery (scene : Scene) (object : ObjectRef) : Option ARRaycastQuery :=
  -- Both conditions of the guard: the focus square is placed, and the object has a query.
  if scene.focusSquare = .initializing then none else (scene.objects object).raycastQuery

/-- `placeVirtualObject` when its guard holds. -/
def placeAt (scene : Scene) (object : ObjectRef) (query : ARRaycastQuery) (view : SceneView) :
    Scene :=
  let (trackedRaycast, scene) := scene.createTrackedRaycastAndSet3DPosition object query
    (scene.objects object).mostRecentInitialPlacementResult view
  scene.modify object fun virtualObject =>
    -- `raycast` is assigned whether ARKit granted one or not.
    { virtualObject with raycast := trackedRaycast, isHidden := false }

/-- Placing changes the object and its raycast, and nothing else. -/
theorem placeAt_eq (scene : Scene) (object : ObjectRef) (query : ARRaycastQuery)
    (view : SceneView) : ∃ transform, scene.placeAt object query view =
      (scene.withSession
        (scene.session.trackedRaycast object (view.grantsTrackedRaycast query)).2).modify object
        fun virtualObject =>
        { virtualObject with
          simdWorldTransform := transform
          raycast :=
            (scene.session.trackedRaycast object (view.grantsTrackedRaycast query)).1
          isHidden := false } := by
  simp only [placeAt, createTrackedRaycastAndSet3DPosition]
  cases (scene.objects object).mostRecentInitialPlacementResult with
  | none =>
    refine ⟨(scene.objects object).simdWorldTransform, ?_⟩
    simp only [modify, withSession]
  | some result =>
    refine ⟨result.worldTransform, ?_⟩
    simp only [setTransform, modify, withSession, Function.update_self, Function.update_idem]

/-- `placeVirtualObject` when its guard fails. -/
def discardPlacement (scene : Scene) (object : ObjectRef) : Scene :=
  -- The session gives up the anchor, but the object still refers to it.
  let scene := scene.removeAllVirtualObjects
  match (scene.objects object).anchor with
  | some anchor => { scene with session := scene.session.remove anchor }
  | none => scene

theorem discardPlacement_eq (scene : Scene) (object : ObjectRef) :
    scene.discardPlacement object = scene.removeAllVirtualObjects.withSession
      { scene.removeAllVirtualObjects.session with
        anchors := scene.session.anchors.filter fun identifier =>
          some identifier ≠ (scene.objects object).anchor.map ARAnchor.identifier } := by
  -- Removal keeps the anchor, so the guard reads the anchor from before it.
  have kept : (scene.removeAllVirtualObjects.objects object).anchor =
      (scene.objects object).anchor := by
    rw [removeAllVirtualObjects_objects]
    split <;> rfl
  have session : scene.removeAllVirtualObjects.session.anchors = scene.session.anchors := by
    rw [removeAllVirtualObjects_eq]
    rfl
  unfold discardPlacement
  dsimp only
  rw [kept]
  cases (scene.objects object).anchor with
  | none => simp [withSession, ← session]
  | some anchor => simp [withSession, ARSession.remove, session]

/-- The update handler of a tracked raycast. -/
def setVirtualObject3DPosition (scene : Scene) (results : List ARRaycastResult)
    (object : ObjectRef) : Except FatalError Scene :=
  match results with
  -- "the update handler is always supposed to return at least one result"
  | [] => .error .noRaycastResult
  | result :: _ =>
    let scene := scene.setTransform object result
    -- An object that is not in the scene yet is added to it, and gets an anchor.
    let scene := if (scene.objects object).parent = none then
        scene.modify object fun virtualObject =>
          { virtualObject with parent := some .rootNode, shouldUpdateAnchor := true }
      else scene
    .ok <| if (scene.objects object).shouldUpdateAnchor then
        (scene.modify object fun virtualObject =>
          { virtualObject with shouldUpdateAnchor := false }).enqueue (.addOrUpdateAnchor object)
      else scene

/-- The update handler attaches the object, and sees to it that it is anchored. -/
theorem setVirtualObject3DPosition_eq {scene next : Scene} {results : List ARRaycastResult}
    {object : ObjectRef} (handled : scene.setVirtualObject3DPosition results object = .ok next) :
    ∃ transform,
      next = (scene.modify object fun virtualObject =>
        { virtualObject with
          simdWorldTransform := transform
          parent := some .rootNode
          shouldUpdateAnchor := false }).withQueue
        (scene.updateQueue ++
          if (scene.objects object).parent = none ∨ (scene.objects object).shouldUpdateAnchor = true
          then [.addOrUpdateAnchor object] else []) := by
  unfold setVirtualObject3DPosition at handled
  split at handled
  · cases handled
  next result results =>
    cases handled
    refine ⟨result.worldTransform, ?_⟩
    cases parent : (scene.objects object).parent with
    | none => simp [setTransform, modify, parent, enqueue, withQueue]
    | some root =>
      cases root
      cases update : (scene.objects object).shouldUpdateAnchor with
      | true => simp [setTransform, modify, parent, update, enqueue, withQueue]
      | false => simp [setTransform, modify, parent, update, withQueue]

/-! ## `VirtualObjectInteraction` -/

def translate (scene : Scene) (object : ObjectRef) (trackedObject : Option ObjectRef)
    (screenPos : CGPoint) (view : SceneView) : Scene :=
  -- The raycast is given up for good: only setting the object down asks for another one.
  let scene := scene.stopTrackedRaycast object
  match view.raycastQuery screenPos (scene.objects object).allowedAlignment with
  | some query => scene.createRaycastAndUpdate3DPosition object trackedObject query view
  | none => scene

/-- Dragging stops the raycast of the object and moves it. -/
theorem translate_eq (scene : Scene) (object : ObjectRef) (trackedObject : Option ObjectRef)
    (screenPos : CGPoint) (view : SceneView) :
    ∃ transform, scene.translate object trackedObject screenPos view =
      (scene.stopTrackedRaycast object).modify object fun virtualObject =>
        { virtualObject with simdWorldTransform := transform } := by
  have still : ∀ scene : Scene, ∃ transform, scene = scene.modify object fun virtualObject =>
      { virtualObject with simdWorldTransform := transform } :=
    fun scene => ⟨_, (scene.modify_id object _ rfl).symm⟩
  unfold translate
  dsimp only
  split
  · unfold createRaycastAndUpdate3DPosition
    split
    · exact still _
    next result cast =>
      split
      · exact ⟨_, rfl⟩
      · exact ⟨result.worldTransform, rfl⟩
  · exact still _

/-- The fallback of `setDown`: anchor the object where it is. -/
def anchorInPlace (scene : Scene) (object : ObjectRef) : Scene :=
  (scene.modify object fun virtualObject =>
    { virtualObject with shouldUpdateAnchor := false }).enqueue (.addOrUpdateAnchor object)

def setDown (scene : Scene) (object : ObjectRef) (screenPos : CGPoint) (view : SceneView) :
    Scene :=
  -- The anchor is to be updated at the next callback of the new raycast.
  let scene := scene.stopTrackedRaycast object
  let scene := scene.modify object fun virtualObject =>
    { virtualObject with shouldUpdateAnchor := true }
  match view.raycastQuery screenPos (scene.objects object).allowedAlignment with
  | some query =>
    match scene.createTrackedRaycastAndSet3DPosition object query none view with
    | (some raycast, scene) =>
      scene.modify object fun virtualObject => { virtualObject with raycast := some raycast }
    -- Without a tracked raycast there will be no callback, so the anchor is updated at once.
    | (none, scene) => scene.anchorInPlace object
  | none => scene.anchorInPlace object

theorem setDown_granted {scene : Scene} {object : ObjectRef} {position : CGPoint}
    {view : SceneView} (granted : view.grantsAt position = true) :
    scene.setDown object position view =
      ((scene.stopTrackedRaycast object).withSession
        ((scene.stopTrackedRaycast object).session.trackedRaycast object true).2).modify object
        fun virtualObject =>
        { virtualObject with
          shouldUpdateAnchor := true
          raycast := some (scene.stopTrackedRaycast object).session.nextRaycast } := by
  unfold SceneView.grantsAt at granted
  cases query : view.raycastQuery position .horizontal with
  | none => simp [query] at granted
  | some query =>
    simp only [query] at granted
    simp only [setDown, VirtualObject.allowedAlignment, query, granted,
      createTrackedRaycastAndSet3DPosition, ARSession.trackedRaycast, if_true]
    simp only [modify, withSession, Function.update_self, Function.update_idem]

theorem setDown_refused {scene : Scene} {object : ObjectRef} {position : CGPoint}
    {view : SceneView} (refused : view.grantsAt position = false) :
    scene.setDown object position view =
      (scene.stopTrackedRaycast object).anchorInPlace object := by
  -- The flag that was set for the callback is cleared again.
  have once : ((scene.stopTrackedRaycast object).modify object fun virtualObject =>
      { virtualObject with shouldUpdateAnchor := true }).anchorInPlace object =
        (scene.stopTrackedRaycast object).anchorInPlace object := by
    simp only [anchorInPlace, modify_modify]
  unfold SceneView.grantsAt at refused
  cases query : view.raycastQuery position .horizontal with
  | none => simpa only [setDown, VirtualObject.allowedAlignment, query] using once
  | some query =>
    simp only [query] at refused
    simpa only [setDown, VirtualObject.allowedAlignment, query, refused,
      createTrackedRaycastAndSet3DPosition, ARSession.trackedRaycast, Bool.false_eq_true,
      if_false] using once

/-! ## What dragging does to the objects -/

theorem stopTrackedRaycast_objects (scene : Scene) (object other : ObjectRef) :
    (scene.stopTrackedRaycast object).objects other =
      if other = object then { scene.objects object with raycast := none }
      else scene.objects other := by
  rw [stopTrackedRaycast_eq, modify_objects]

@[simp]
theorem stopTrackedRaycast_updateQueue (scene : Scene) (object : ObjectRef) :
    (scene.stopTrackedRaycast object).updateQueue = scene.updateQueue := by
  rw [stopTrackedRaycast_eq]
  rfl

theorem translate_objects_of_ne (scene : Scene) {object other : ObjectRef}
    (different : other ≠ object) (trackedObject : Option ObjectRef) (screenPos : CGPoint)
    (view : SceneView) :
    (scene.translate object trackedObject screenPos view).objects other = scene.objects other := by
  obtain ⟨transform, same⟩ := scene.translate_eq object trackedObject screenPos view
  rw [same, modify_objects, if_neg different, stopTrackedRaycast_objects, if_neg different]

theorem setDown_objects_of_ne (scene : Scene) {object other : ObjectRef}
    (different : other ≠ object) (position : CGPoint) (view : SceneView) :
    (scene.setDown object position view).objects other = scene.objects other := by
  cases granted : view.grantsAt position with
  | true =>
    rw [setDown_granted granted, modify_objects, if_neg different, withSession_objects,
      stopTrackedRaycast_objects, if_neg different]
  | false =>
    rw [setDown_refused granted, anchorInPlace, enqueue, withQueue_objects, modify_objects,
      if_neg different, stopTrackedRaycast_objects, if_neg different]

/-- Setting an object down replaces its raycast, or has it anchored where it is. -/
theorem setDown_objects {scene : Scene} {object : ObjectRef} (position : CGPoint)
    (view : SceneView) :
    (scene.setDown object position view).objects object =
      { scene.objects object with
        raycast := if view.grantsAt position then some scene.session.nextRaycast else none
        shouldUpdateAnchor := view.grantsAt position } := by
  have stopped : (scene.stopTrackedRaycast object).objects object =
      { scene.objects object with raycast := none } := by
    rw [stopTrackedRaycast_objects, if_pos rfl]
  cases granted : view.grantsAt position with
  | true =>
    have next : (scene.stopTrackedRaycast object).session.nextRaycast =
        scene.session.nextRaycast := by
      rw [stopTrackedRaycast_eq]
      rfl
    rw [setDown_granted granted, modify_objects, if_pos rfl, next]
    simp only [withSession_objects, stopped, if_true]
  | false =>
    rw [setDown_refused granted, anchorInPlace, enqueue, withQueue_objects, modify_objects,
      if_pos rfl, stopped]
    rfl

/-- The refreshes of the object's anchor that wait in the update queue. -/
def pendingRefreshes (scene : Scene) (object : ObjectRef) : Nat :=
  scene.updateQueue.count (.addOrUpdateAnchor object)

/-- An object that gets no raycast has its anchor refreshed. -/
theorem pendingRefreshes_setDown (scene : Scene) {object : ObjectRef} {position : CGPoint}
    {view : SceneView} (refused : view.grantsAt position = false) :
    (scene.setDown object position view).pendingRefreshes object =
      scene.pendingRefreshes object + 1 := by
  have queue : (scene.setDown object position view).updateQueue =
      scene.updateQueue ++ [.addOrUpdateAnchor object] := by
    rw [setDown_refused refused, ← scene.stopTrackedRaycast_updateQueue object]
    rfl
  rw [pendingRefreshes, queue, List.count_append, List.count_singleton_self]
  rfl

/-! ## `ARViewController+SceneRender` and `ARViewController+Session` -/

/-- The closure that `renderer(_:didUpdate:for:)` sends to `updateQueue`. -/
def didUpdateAnchor (scene : Scene) (anchor : ARAnchor) : Scene :=
  -- `first(where:)` compares anchors, which compares their identifiers.
  match scene.loader.loadedObjects.find? fun object =>
      (scene.objects object).anchor.map ARAnchor.identifier = some anchor.identifier with
  | some objectAtAnchor =>
    scene.modify objectAtAnchor fun virtualObject =>
      { virtualObject with
        simdWorldTransform :=
          { virtualObject.simdWorldTransform with translation := anchor.transform.translation }
        anchor := some anchor }
  | none => scene

/-- An anchor's update moves the loaded object that has the anchor, if there is one. -/
theorem didUpdateAnchor_cases (scene : Scene) (anchor : ARAnchor) :
    scene.didUpdateAnchor anchor = scene ∨
      ∃ object ∈ scene.loader.loadedObjects,
        (scene.objects object).anchor.map ARAnchor.identifier = some anchor.identifier ∧
        scene.didUpdateAnchor anchor = scene.modify object fun virtualObject =>
          { virtualObject with
            simdWorldTransform :=
              { virtualObject.simdWorldTransform with translation := anchor.transform.translation }
            anchor := some anchor } := by
  unfold didUpdateAnchor
  split
  next object found =>
    exact .inr ⟨object, List.mem_of_find?_eq_some found,
      by simpa using List.find?_some found, rfl⟩
  next => exact .inl rfl

def setVirtualContentHidden (scene : Scene) (isHidden : Bool) : Scene :=
  scene.loader.loadedObjects.foldl (fun scene object =>
    scene.modify object fun virtualObject => { virtualObject with isHidden := isHidden }) scene

theorem setVirtualContentHidden_eq (scene : Scene) (isHidden : Bool) :
    scene.setVirtualContentHidden isHidden =
      { scene with objects := fun object =>
          if object ∈ scene.loader.loadedObjects then
            { scene.objects object with isHidden := isHidden }
          else scene.objects object } :=
  foldl_modify (fun virtualObject => { virtualObject with isHidden := isHidden })
    (fun _ => rfl) _ scene

def showVirtualContent (scene : Scene) : Scene := scene.setVirtualContentHidden false

def hideVirtualContent (scene : Scene) : Scene := scene.setVirtualContentHidden true

def execute (scene : Scene) : UpdateClosure → Scene
  | .addOrUpdateAnchor object => scene.addOrUpdateAnchor object
  | .didUpdate anchor => scene.didUpdateAnchor anchor
  | .setFocusSquare state => { scene with focusSquare := state }

/-- Run the first closure of `updateQueue`, which is serial. -/
def runUpdate (scene : Scene) : Option Scene :=
  match scene.updateQueue with
  | [] => none
  | closure :: rest => some ({ scene with updateQueue := rest }.execute closure)

theorem runUpdate_cases {scene next : Scene} (ran : scene.runUpdate = some next) :
    ∃ closure rest, scene.updateQueue = closure :: rest ∧
      next = (scene.withQueue rest).execute closure := by
  unfold runUpdate at ran
  split at ran
  · cases ran
  next closure rest queue =>
    cases ran
    exact ⟨closure, rest, queue, rfl⟩

/-! ## The loader's list

Only loading and removing objects changes it.
-/

@[simp]
theorem modify_loader (scene : Scene) (object : ObjectRef) (f : VirtualObject → VirtualObject) :
    (scene.modify object f).loader = scene.loader := rfl

@[simp]
theorem withSession_loader (scene : Scene) (session : ARSession) :
    (scene.withSession session).loader = scene.loader := rfl

@[simp]
theorem withQueue_loader (scene : Scene) (updateQueue : List UpdateClosure) :
    (scene.withQueue updateQueue).loader = scene.loader := rfl

@[simp]
theorem enqueue_loader (scene : Scene) (closure : UpdateClosure) :
    (scene.enqueue closure).loader = scene.loader := rfl

@[simp]
theorem removeAllVirtualObjects_loader (scene : Scene) :
    scene.removeAllVirtualObjects.loader = { scene.loader with loadedObjects := [] } := by
  rw [removeAllVirtualObjects_eq]

@[simp]
theorem updateObjectAvailability_loader (scene : Scene) (availableObjects : List ObjectRef)
    (view : SceneView) :
    (scene.updateObjectAvailability availableObjects view).loader = scene.loader := by
  obtain ⟨objects, same, -⟩ := scene.updateObjectAvailability_objects availableObjects view
  rw [same]

@[simp]
theorem setVirtualContentHidden_loader (scene : Scene) (isHidden : Bool) :
    (scene.setVirtualContentHidden isHidden).loader = scene.loader := by
  rw [setVirtualContentHidden_eq]

@[simp]
theorem stopTrackedRaycast_loader (scene : Scene) (object : ObjectRef) :
    (scene.stopTrackedRaycast object).loader = scene.loader := by
  rw [stopTrackedRaycast_eq, modify_loader]

@[simp]
theorem createTrackedRaycast_loader (scene : Scene) (object : ObjectRef) (query : ARRaycastQuery)
    (initialResult : Option ARRaycastResult) (view : SceneView) :
    (scene.createTrackedRaycastAndSet3DPosition object query initialResult view).2.loader =
      scene.loader := by
  cases initialResult <;> rfl

@[simp]
theorem placeAt_loader (scene : Scene) (object : ObjectRef) (query : ARRaycastQuery)
    (view : SceneView) : (scene.placeAt object query view).loader = scene.loader := by
  simp only [placeAt, modify_loader, createTrackedRaycast_loader]

@[simp]
theorem discardPlacement_loader (scene : Scene) (object : ObjectRef) :
    (scene.discardPlacement object).loader = { scene.loader with loadedObjects := [] } := by
  unfold discardPlacement
  dsimp only
  split <;> rw [removeAllVirtualObjects_loader]

theorem setVirtualObject3DPosition_loader {scene next : Scene} {results : List ARRaycastResult}
    {object : ObjectRef} (handled : scene.setVirtualObject3DPosition results object = .ok next) :
    next.loader = scene.loader := by
  unfold setVirtualObject3DPosition at handled
  split at handled
  · cases handled
  · cases handled
    split <;> split <;> rfl

@[simp]
theorem translate_loader (scene : Scene) (object : ObjectRef) (trackedObject : Option ObjectRef)
    (position : CGPoint) (view : SceneView) :
    (scene.translate object trackedObject position view).loader = scene.loader := by
  unfold translate
  dsimp only
  split
  · unfold createRaycastAndUpdate3DPosition
    split
    · rw [stopTrackedRaycast_loader]
    · split <;> simp only [modify_loader, setTransform, stopTrackedRaycast_loader]
  · rw [stopTrackedRaycast_loader]

@[simp]
theorem anchorInPlace_loader (scene : Scene) (object : ObjectRef) :
    (scene.anchorInPlace object).loader = scene.loader := rfl

@[simp]
theorem setDown_loader (scene : Scene) (object : ObjectRef) (position : CGPoint)
    (view : SceneView) : (scene.setDown object position view).loader = scene.loader := by
  cases granted : view.grantsAt position with
  | true =>
    rw [setDown_granted granted, modify_loader, withSession_loader, stopTrackedRaycast_loader]
  | false => rw [setDown_refused granted, anchorInPlace_loader, stopTrackedRaycast_loader]

theorem runUpdate_loader {scene next : Scene} (ran : scene.runUpdate = some next) :
    next.loader = scene.loader := by
  obtain ⟨closure, rest, -, rfl⟩ := runUpdate_cases ran
  cases closure with
  | addOrUpdateAnchor object => rfl
  | didUpdate anchor =>
    dsimp only [execute, didUpdateAnchor]
    split <;> rfl
  | setFocusSquare state => rfl

end Scene

end FurnitureAR
