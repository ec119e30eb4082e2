import FurnitureAR.CancelledDrag

/-!
# Who moves a dragged object

A drag stops the tracked raycast of its object, but its anchor stays registered, and closures that
were sent earlier still run. This module says exactly which steps move the object from under the
finger.
-/
namespace FurnitureAR

open Execution

namespace Scene

def position (scene : Scene) (object : ObjectRef) : SIMD3 :=
  (scene.objects object).simdWorldTransform.translation

/-- The loaded object that an update of the anchor is for. -/
def objectAtAnchor (scene : Scene) (anchor : ARAnchor) : Option ObjectRef :=
  scene.loader.loadedObjects.find? fun object =>
    (scene.objects object).anchor.map ARAnchor.identifier = some anchor.identifier

theorem position_modify (scene : Scene) (object : ObjectRef) (f : VirtualObject → VirtualObject)
    (other : ObjectRef) : (scene.modify object f).position other =
      if other = object then (f (scene.objects object)).simdWorldTransform.translation
      else scene.position other := by
  rw [position, modify_objects]
  split <;> rfl

theorem position_withSession (scene : Scene) (session : ARSession) (object : ObjectRef) :
    (scene.withSession session).position object = scene.position object := rfl

theorem position_enqueue (scene : Scene) (closure : UpdateClosure) (object : ObjectRef) :
    (scene.enqueue closure).position object = scene.position object := rfl

/-- Most changes of an object leave it where it is. -/
theorem position_modify_same (scene : Scene) (object : ObjectRef)
    (f : VirtualObject → VirtualObject)
    (same : (f (scene.objects object)).simdWorldTransform =
      (scene.objects object).simdWorldTransform) (other : ObjectRef) :
    (scene.modify object f).position other = scene.position other :=
  scene.part_modify (·.simdWorldTransform.translation) object f (by rw [same]) other

theorem position_removeAllVirtualObjects (scene : Scene) (object : ObjectRef) :
    scene.removeAllVirtualObjects.position object = scene.position object := by
  rw [position, removeAllVirtualObjects_objects]
  split <;> rfl

theorem position_setVirtualContentHidden (scene : Scene) (isHidden : Bool) (object : ObjectRef) :
    (scene.setVirtualContentHidden isHidden).position object = scene.position object := by
  rw [setVirtualContentHidden_eq]
  simp only [position]
  split <;> rfl

theorem position_updateObjectAvailability (scene : Scene) (availableObjects : List ObjectRef)
    (view : SceneView) (object : ObjectRef) :
    (scene.updateObjectAvailability availableObjects view).position object =
      scene.position object := by
  obtain ⟨objects, same, only⟩ := scene.updateObjectAvailability_objects availableObjects view
  obtain ⟨result, query, eq⟩ := only object
  rw [same]
  simp only [position, eq]

theorem position_discardPlacement (scene : Scene) (discarded object : ObjectRef) :
    (scene.discardPlacement discarded).position object = scene.position object := by
  rw [discardPlacement_eq]
  exact scene.position_removeAllVirtualObjects object

theorem position_setTransform (scene : Scene) (moved : ObjectRef) (result : ARRaycastResult)
    (object : ObjectRef) :
    (scene.setTransform moved result).position object =
      (if moved = object then some result.worldTransform.translation else none).getD
        (scene.position object) := by
  rw [setTransform, position_modify]
  by_cases same : object = moved
  · rw [if_pos same, if_pos same.symm]
    rfl
  · rw [if_neg same, if_neg (Ne.symm same)]
    rfl

theorem position_placeAt (scene : Scene) (placed : ObjectRef) (query : ARRaycastQuery)
    (view : SceneView) (object : ObjectRef) :
    (scene.placeAt placed query view).position object =
      (if placed = object then
        (scene.objects object).mostRecentInitialPlacementResult.map
          (·.worldTransform.translation)
      else none).getD (scene.position object) := by
  have kept : ∀ other : Scene, ∀ session,
      ({ other with session := session }).position object = other.position object :=
    fun _ _ => rfl
  simp only [placeAt, createTrackedRaycastAndSet3DPosition]
  rw [position_modify_same _ _ _ rfl, kept]
  split
  next result initial =>
    rw [position_setTransform]
    by_cases same : placed = object
    · rw [if_pos same, if_pos same, ← same, initial]
      rfl
    · rw [if_neg same, if_neg same]
  next initial =>
    by_cases same : placed = object
    · rw [if_pos same, ← same, initial]
      rfl
    · rw [if_neg same]
      rfl

theorem position_setVirtualObject3DPosition {scene next : Scene} {results : List ARRaycastResult}
    {moved : ObjectRef} (handled : scene.setVirtualObject3DPosition results moved = .ok next)
    (object : ObjectRef) :
    next.position object =
      (if moved = object then results.head?.map (·.worldTransform.translation) else none).getD
        (scene.position object) := by
  unfold setVirtualObject3DPosition at handled
  split at handled
  · cases handled
  next result results =>
    cases handled
    rw [List.head?_cons, Option.map_some, ← position_setTransform]
    -- Attaching the object and anchoring it leave it where the result has put it.
    split <;> split
    · rw [position_enqueue, position_modify_same _ _ _ rfl, position_modify_same _ _ _ rfl]
    · rw [position_modify_same _ _ _ rfl]
    · rw [position_enqueue, position_modify_same _ _ _ rfl]
    · rfl

theorem position_didUpdateAnchor (scene : Scene) (anchor : ARAnchor) (object : ObjectRef) :
    (scene.didUpdateAnchor anchor).position object =
      (if scene.objectAtAnchor anchor = some object then some anchor.transform.translation
      else none).getD (scene.position object) := by
  unfold didUpdateAnchor
  split
  next found first =>
    have here : scene.objectAtAnchor anchor = some found := first
    rw [here, position_modify]
    by_cases same : object = found
    · rw [if_pos same, if_pos (by rw [same])]
      rfl
    · rw [if_neg same, if_neg fun also => same (Option.some.inj also).symm]
      rfl
  next none =>
    have nowhere : scene.objectAtAnchor anchor = Option.none := none
    rw [nowhere, if_neg (by simp)]
    rfl

theorem position_setDown (scene : Scene) (object other : ObjectRef) (position' : CGPoint)
    (view : SceneView) :
    (scene.setDown object position' view).position other = scene.position other := by
  by_cases same : other = object
  · subst same
    simp only [position, setDown_objects]
  · rw [position, setDown_objects_of_ne scene same, position]

end Scene

/-! ## Steps -/

/-- The events whose handlers may write positions. -/
def Event.WritesPositions : Event → Prop
  | .updateQueue | .mainQueue _ | .trackedRaycastUpdated _ _ => True
  | .pan gesture _ => gesture.state = .changed
  | _ => False

namespace ARViewController

/-- The observer remembers the object that a pan drags, from its first translation on until the
pan is over. -/
def observeDrag (dragged : Option ObjectRef) (screen : ARViewController) (event : Event)
    (_ : ARViewController) : Option ObjectRef :=
  match event with
  | .pan gesture _ =>
    match gesture.state with
    | .changed =>
      if gesture.isThresholdExceeded then screen.interaction.trackedObject.or dragged else dragged
    | _ => none
  | _ => dragged

/-- A screen with the object that is being dragged. -/
abbrev DragHistory := Observed ARViewController (Option ObjectRef)

/-- The position that an event other than a pan's writes to the object: an anchor's update, the
initial result of a placement, or the result of a tracked raycast. -/
def positionWritten (screen : ARViewController) (object : ObjectRef) : Event → Option SIMD3
  | .updateQueue =>
    match screen.scene.updateQueue with
    | .didUpdate anchor :: _ =>
      if screen.scene.objectAtAnchor anchor = some object then some anchor.transform.translation
      else none
    | _ => none
  | .mainQueue _ =>
    match screen.dispatch.mainQueue with
    | .placeLoadedObject placed :: _ =>
      if placed = object ∧ screen.scene.placementQuery placed ≠ none then
        (screen.scene.objects object).mostRecentInitialPlacementResult.map
          (·.worldTransform.translation)
      else none
    | _ => none
  | .trackedRaycastUpdated raycast results =>
    if screen.scene.session.raycasts raycast = some object then
      results.head?.map (·.worldTransform.translation)
    else none
  | _ => none

variable {screen next : ARViewController}

theorem position_runUpdate {scene : Scene} (ran : screen.scene.runUpdate = some scene)
    (object : ObjectRef) :
    scene.position object =
      (screen.positionWritten object .updateQueue).getD (screen.scene.position object) := by
  obtain ⟨closure, rest, head, rfl⟩ := Scene.runUpdate_cases ran
  simp only [positionWritten, head]
  cases closure with
  | addOrUpdateAnchor other =>
    rw [Scene.execute, Scene.addOrUpdateAnchor_eq, Scene.position_withSession,
      Scene.position_modify_same _ _ _ rfl]
    rfl
  | didUpdate anchor => exact (screen.scene.withQueue rest).position_didUpdateAnchor anchor object
  | setFocusSquare state => rfl

theorem position_runMain {view : SceneView} (taken : step screen (.mainQueue view) = .ok next)
    (object : ObjectRef) :
    next.scene.position object =
      (screen.positionWritten object (.mainQueue view)).getD (screen.scene.position object) := by
  simp only [step, runMain] at taken
  split at taken
  · cases taken
  next closure rest head =>
    simp only [positionWritten, head]
    cases taken
    cases closure with
    | placeLoadedObject placed =>
      simp only [placeVirtualObject, hideObjectLoadingUI, setCloseButtonImages]
      cases guard : screen.scene.placementQuery placed with
      | none =>
        rw [if_neg fun accepted => accepted.2 rfl]
        exact screen.scene.position_discardPlacement placed object
      | some query =>
        simp only [ne_eq, reduceCtorEq, not_false_eq_true, and_true]
        exact screen.scene.position_placeAt placed query view object
    | updateFocusSquare isObjectVisible =>
      obtain ⟨state, same⟩ := scene_updateFocusSquare
        { screen with dispatch := { screen.dispatch with mainQueue := rest } } isObjectVisible view
      simp only [same]
      rfl
    | surfaceDetected => rfl
    | displayErrorMessage => rfl

theorem position_kept {event : Event} (undisturbed : event.Undisturbed)
    (others : ¬ event.WritesPositions) (taken : step screen event = .ok next)
    (object : ObjectRef) : next.scene.position object = screen.scene.position object := by
  have change := step_scene undisturbed taken
  generalize next.scene = scene at change ⊢
  cases change with
  | unchanged event => rfl
  | enqueued event closure noAnchor => rfl
  | hidden event isHidden => exact screen.scene.position_setVirtualContentHidden isHidden object
  | reset event resets => rfl
  | removed view meanwhile loaded => exact screen.scene.position_removeAllVirtualObjects object
  | closed => exact Scene.position_removeAllVirtualObjects _ object
  | restarted passes => exact screen.scene.position_removeAllVirtualObjects object
  | startedLoading view loaded empty =>
    exact screen.scene.position_updateObjectAvailability screen.availableObjects view object
  | finishedLoading loaded content sceneOpens loading =>
    refine screen.scene.position_modify_same loaded (VirtualObject.load content) ?_ object
    unfold VirtualObject.load
    split <;> rfl
  | setDown gesture view moved state tracked =>
    exact screen.scene.position_setDown moved object _ view
  | reshaped event moved after same =>
    refine screen.scene.position_modify_same moved _ ?_ object
    rw [same.same]
  | translated gesture view moved position state exceeded tracked => exact absurd state others
  | placementFailed => exact absurd trivial others
  | placed => exact absurd trivial others
  | updated => exact absurd trivial others
  | positioned => exact absurd trivial others

/-- Without a translation by the pan, a step moves an object to the position that is written to
it, and leaves it where it is when there is none. -/
theorem position_of_undisturbed {event : Event} (undisturbed : event.Undisturbed)
    (notMoved : ∀ gesture view, event = .pan gesture view → gesture.state ≠ .changed)
    (taken : step screen event = .ok next) (object : ObjectRef) :
    next.scene.position object =
      (screen.positionWritten object event).getD (screen.scene.position object) := by
  cases event with
  | updateQueue =>
    obtain ⟨scene, ran, rfl⟩ := updateQueue_cases taken
    exact position_runUpdate ran object
  | mainQueue view => exact position_runMain taken object
  | trackedRaycastUpdated raycast results =>
    obtain ⟨moved, scene, live, handled, rfl⟩ := trackedRaycastUpdated_cases taken
    simp only [positionWritten, live, Option.some.injEq]
    exact Scene.position_setVirtualObject3DPosition handled object
  | pan gesture view => exact position_kept undisturbed (notMoved gesture view rfl) taken object
  | _ => exact position_kept undisturbed id taken object

/-- Background work that overtakes a tap moves nothing. -/
theorem position_step {event : Event}
    (notMoved : ∀ gesture view, event = .pan gesture view → gesture.state ≠ .changed)
    (taken : step screen event = .ok next) (object : ObjectRef) :
    next.scene.position object =
      (screen.positionWritten object event).getD (screen.scene.position object) := by
  revert notMoved
  apply of_undisturbed _ _ taken
  · exact fun event next alone taken notMoved =>
      position_of_undisturbed alone notMoved taken object
  · intro view meanwhile middle next same first _
    have kept : next.scene.position object = middle.scene.position object := by
      rw [Scene.position, same.objects, Scene.position]
    rw [kept]
    exact first (by simp)

/-- Only the pan's own translations change the position of the object that is dragged. -/
def OnlyFingerMoves (history : DragHistory) (event : Event) : Prop :=
  ∀ next, step history.state event = .ok next →
    (∀ gesture view, event = .pan gesture view → gesture.state ≠ .changed) →
      ∀ object, history.record = some object →
        next.scene.position object = history.state.scene.position object

/-- Whatever else is written to the dragged object is the position that it has. -/
def NothingElseWrites (history : DragHistory) (event : Event) : Prop :=
  ∀ object, history.record = some object →
    ∀ position, history.state.positionWritten object event = some position →
      position = history.state.scene.position object

theorem onlyFingerMoves_iff {history : DragHistory} {event : Event}
    (taken : step history.state event = .ok next) :
    OnlyFingerMoves history event ↔ NothingElseWrites history event := by
  constructor
  · intro onlyFinger object dragged position written
    -- A pan writes nothing, so the event is none of a pan's.
    have notMoved : ∀ gesture view, event = .pan gesture view → gesture.state ≠ .changed := by
      rintro gesture view rfl
      cases written
    have same := onlyFinger next taken notMoved object dragged
    rw [position_step notMoved taken object, written] at same
    exact same
  · intro nothing next taken notMoved object dragged
    rw [position_step notMoved taken object]
    cases written : history.state.positionWritten object event with
    | none => rfl
    | some position => exact nothing object dragged position written

/-- From the first translation of a pan until the pan is over, only the pan moves its object,
exactly in the runs in which no anchor update, placement or tracked raycast writes another
position to the object that is dragged. -/
theorem onlyFingerMoves_iff_nothingElseWrites (opening : Opening) (events : List Event) :
    Guarded (observing step observeDrag) OnlyFingerMoves ⟨opening.screen, none⟩ events ↔
      Guarded (observing step observeDrag) NothingElseWrites ⟨opening.screen, none⟩ events := by
  refine @guarded_congr _ _ _ (observing step observeDrag) (fun _ => True) _ _
    (fun _ _ _ _ _ => trivial) (fun history event after _ observed => ?_) _ trivial events
  obtain ⟨next, taken, -⟩ := observing_cases observed
  exact onlyFingerMoves_iff taken

/-- The chair is dragged while ARKit reports an update of its anchor. -/
def updatedWhileDragged : List Event :=
  floorFound ++ chairPlaced ++ chairAttached ++
    [.pan ⟨.began, false, .zero, chairTouched⟩ aside,
      .pan ⟨.changed, true, ⟨40, 0⟩, chairTouched⟩ aside, .rendererDidUpdate ⟨0, .identity⟩]

/-- The update moves it back to where the anchor is. -/
theorem not_onlyFingerMoves : ¬ ∀ (opening : Opening) (events : List Event),
    Guarded (observing step observeDrag) OnlyFingerMoves ⟨opening.screen, none⟩ events := by
  intro onlyFinger
  have cut := (guarded_append _ updatedWhileDragged [.updateQueue]).mp (onlyFinger showroom _)
  have moved := (cut.2 _ rfl _ rfl).1 _ rfl (fun _ _ impossible => nomatch impossible) 0 rfl
  exact absurd moved (by decide)

end ARViewController

end FurnitureAR
