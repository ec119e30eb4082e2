import FurnitureAR.Library.Lease
import FurnitureAR.LoadSerialisation

/-!
# Who owns the nodes and the tracked raycasts

A node is in the scene, or is brought there by its tracked raycast, only for as long as its
object is in the loader's list. This module says exactly which steps make ghosts: nodes or
raycasts that nothing will ever remove.
-/
namespace FurnitureAR

open Execution

/-- The part of the scene that ownership is about. Tracked raycasts are leases of objects. -/
structure Ownership where
  loadedObjects : List ObjectRef
  parent : ObjectRef → Option ParentNode
  raycasts : Lease.Registry ObjectRef

/-- Everything in the list leaves it, is detached and gives up its raycast. -/
def Ownership.removeAll (ownership : Ownership) : Ownership where
  loadedObjects := []
  parent object := if object ∈ ownership.loadedObjects then none else ownership.parent object
  raycasts := ownership.raycasts.release ownership.loadedObjects

namespace Scene

def ownership (scene : Scene) : Ownership where
  loadedObjects := scene.loader.loadedObjects
  parent object := (scene.objects object).parent
  raycasts :=
    { held := fun object => (scene.objects object).raycast
      live := scene.session.raycasts
      next := scene.session.nextRaycast }

/-! ## What the operations do to ownership -/

@[simp]
theorem ownership_withQueue (scene : Scene) (updateQueue : List UpdateClosure) :
    (scene.withQueue updateQueue).ownership = scene.ownership := rfl

/-- Anchors and the state of the session are none of its tracked raycasts. -/
theorem ownership_withSession (scene : Scene) (session : ARSession)
    (raycasts : session.raycasts = scene.session.raycasts)
    (next : session.nextRaycast = scene.session.nextRaycast) :
    (scene.withSession session).ownership = scene.ownership := by
  simp only [ownership, withSession, raycasts, next]

theorem ownership_modify (scene : Scene) (object : ObjectRef) (f : VirtualObject → VirtualObject) :
    (scene.modify object f).ownership =
      { scene.ownership with
        parent := Function.update scene.ownership.parent object (f (scene.objects object)).parent
        raycasts := { scene.ownership.raycasts with
          held := Function.update scene.ownership.raycasts.held object
            (f (scene.objects object)).raycast } } := by
  simp only [ownership, modify_objects, modify_loader, Ownership.mk.injEq, true_and]
  constructor
  · funext other
    rw [Function.update_apply]
    split <;> rfl
  · congr 1
    funext other
    rw [Function.update_apply]
    split <;> rfl

/-- Most changes of an object are none of its ownership. -/
theorem ownership_modify_same (scene : Scene) (object : ObjectRef)
    (f : VirtualObject → VirtualObject)
    (parent : (f (scene.objects object)).parent = (scene.objects object).parent)
    (raycast : (f (scene.objects object)).raycast = (scene.objects object).raycast) :
    (scene.modify object f).ownership = scene.ownership := by
  have sameParent : scene.ownership.parent object = (scene.objects object).parent := rfl
  have sameHeld : scene.ownership.raycasts.held object = (scene.objects object).raycast := rfl
  rw [ownership_modify, parent, raycast, ← sameParent, ← sameHeld, Function.update_eq_self,
    Function.update_eq_self]

theorem ownership_stopTrackedRaycast (scene : Scene) (object : ObjectRef) :
    (scene.stopTrackedRaycast object).ownership =
      { scene.ownership with raycasts := scene.ownership.raycasts.release [object] } := by
  rw [stopTrackedRaycast_eq, ownership_modify]
  simp only [ownership, ARSession.without, Lease.Registry.release, List.mem_singleton,
    exists_eq_left, Ownership.mk.injEq, true_and]
  constructor
  · exact Function.update_eq_self object _
  · congr 1
    funext other
    rw [Function.update_apply]

theorem ownership_removeAllVirtualObjects (scene : Scene) :
    scene.removeAllVirtualObjects.ownership = scene.ownership.removeAll := by
  rw [removeAllVirtualObjects_eq]
  simp only [ownership, Ownership.removeAll, ARSession.without, Lease.Registry.release,
    Ownership.mk.injEq, true_and]
  constructor
  · funext object
    by_cases member : object ∈ scene.loader.loadedObjects <;> simp [member, removed]
  · congr 1
    funext object
    by_cases member : object ∈ scene.loader.loadedObjects <;> simp [member, removed]

theorem ownership_updateObjectAvailability (scene : Scene) (availableObjects : List ObjectRef)
    (view : SceneView) :
    (scene.updateObjectAvailability availableObjects view).ownership = scene.ownership := by
  obtain ⟨objects, same, only⟩ := scene.updateObjectAvailability_objects availableObjects view
  have kept : ∀ object, (objects object).parent = (scene.objects object).parent ∧
      (objects object).raycast = (scene.objects object).raycast := by
    intro object
    obtain ⟨result, query, eq⟩ := only object
    rw [eq]
    exact ⟨rfl, rfl⟩
  rw [same]
  simp only [ownership, fun object => (kept object).1, fun object => (kept object).2]

theorem ownership_setVirtualContentHidden (scene : Scene) (isHidden : Bool) :
    (scene.setVirtualContentHidden isHidden).ownership = scene.ownership := by
  rw [setVirtualContentHidden_eq]
  simp only [ownership, Ownership.mk.injEq, true_and]
  constructor
  · funext object
    split <;> rfl
  · congr 1
    funext object
    split <;> rfl

/-- ARKit grants a tracked raycast, and the object remembers it. -/
theorem ownership_grant (scene : Scene) (object : ObjectRef) (f : VirtualObject → VirtualObject)
    (parent : (f (scene.objects object)).parent = (scene.objects object).parent)
    (raycast : (f (scene.objects object)).raycast = some scene.session.nextRaycast) :
    ((scene.withSession (scene.session.trackedRaycast object true).2).modify object f).ownership =
      { scene.ownership with raycasts := scene.ownership.raycasts.grant object } := by
  rw [ownership_modify]
  simp only [withSession, parent, raycast, ownership, ARSession.trackedRaycast, if_true,
    Lease.Registry.grant, Ownership.mk.injEq, true_and, and_true]
  exact Function.update_eq_self object _

theorem ownership_placeAt (scene : Scene) (object : ObjectRef) (query : ARRaycastQuery)
    (view : SceneView) :
    (scene.placeAt object query view).ownership =
      { scene.ownership with
        raycasts :=
          if view.grantsTrackedRaycast query then scene.ownership.raycasts.grant object
          else scene.ownership.raycasts.forget object } := by
  obtain ⟨transform, same⟩ := scene.placeAt_eq object query view
  rw [same]
  cases view.grantsTrackedRaycast query with
  | true => exact ownership_grant scene object _ rfl rfl
  | false =>
    rw [ownership_modify]
    simp only [withSession, ownership, ARSession.trackedRaycast, Bool.false_eq_true, if_false,
      Lease.Registry.forget, Ownership.mk.injEq, true_and, and_true]
    exact Function.update_eq_self object _

theorem ownership_discardPlacement (scene : Scene) (object : ObjectRef) :
    (scene.discardPlacement object).ownership = scene.removeAllVirtualObjects.ownership := by
  rw [discardPlacement_eq, ownership_withSession] <;> rfl

theorem ownership_setVirtualObject3DPosition {scene next : Scene} {results : List ARRaycastResult}
    {object : ObjectRef} (handled : scene.setVirtualObject3DPosition results object = .ok next) :
    next.ownership =
      { scene.ownership with
        parent := Function.update scene.ownership.parent object (some .rootNode) } := by
  obtain ⟨transform, same⟩ := setVirtualObject3DPosition_eq handled
  have kept : Function.update scene.ownership.raycasts.held object (scene.objects object).raycast =
      scene.ownership.raycasts.held := Function.update_eq_self object _
  rw [same, ownership_withQueue, ownership_modify]
  simp only [kept]

theorem ownership_translate (scene : Scene) (object : ObjectRef)
    (trackedObject : Option ObjectRef) (position : CGPoint) (view : SceneView) :
    (scene.translate object trackedObject position view).ownership =
      { scene.ownership with raycasts := scene.ownership.raycasts.release [object] } := by
  obtain ⟨transform, same⟩ := scene.translate_eq object trackedObject position view
  rw [same, ownership_modify_same _ _ _ rfl rfl, ownership_stopTrackedRaycast]

theorem ownership_setDown (scene : Scene) (object : ObjectRef) (position : CGPoint)
    (view : SceneView) :
    (scene.setDown object position view).ownership =
      { scene.ownership with
        raycasts :=
          if view.grantsAt position then (scene.ownership.raycasts.release [object]).grant object
          else scene.ownership.raycasts.release [object] } := by
  have stopped := scene.ownership_stopTrackedRaycast object
  cases granted : view.grantsAt position with
  | true =>
    rw [setDown_granted granted, ownership_grant _ _ _ rfl rfl, stopped]
    rfl
  | false =>
    rw [setDown_refused granted, anchorInPlace, enqueue, ownership_withQueue,
      ownership_modify_same _ _ _ rfl rfl, stopped]
    rfl

theorem ownership_runUpdate {scene next : Scene} (ran : scene.runUpdate = some next) :
    next.ownership = scene.ownership := by
  obtain ⟨closure, rest, -, rfl⟩ := runUpdate_cases ran
  cases closure with
  | addOrUpdateAnchor object =>
    rw [execute, addOrUpdateAnchor_eq, ownership_withSession, ownership_modify_same,
      ownership_withQueue] <;> rfl
  | didUpdate anchor =>
    rw [execute]
    rcases (scene.withQueue rest).didUpdateAnchor_cases anchor with same | ⟨object, -, -, same⟩
    · rw [same, ownership_withQueue]
    · rw [same, ownership_modify_same _ _ _ rfl rfl, ownership_withQueue]
  | setFocusSquare state => rfl

end Scene

namespace Ownership

/-- Whatever is in the scene or tracked is in the loader's list, and the one raycast that
tracks an object is the one that the object stores. -/
structure NoGhosts (ownership : Ownership) : Prop where
  attached : ∀ object, ownership.parent object ≠ none → object ∈ ownership.loadedObjects
  tracked : ∀ raycast object, ownership.raycasts.live raycast = some object →
    object ∈ ownership.loadedObjects
  stored : ∀ raycast object, ownership.raycasts.live raycast = some object →
    ownership.raycasts.held object = some raycast

/-- What also holds, so that it goes on like that: nothing else is stored. -/
structure Owned (ownership : Ownership) : Prop where
  attached : ∀ object, ownership.parent object ≠ none → object ∈ ownership.loadedObjects
  tracked : ∀ raycast object, ownership.raycasts.live raycast = some object →
    object ∈ ownership.loadedObjects
  consistent : ownership.raycasts.Consistent

namespace Owned

variable {ownership : Ownership}

theorem noGhosts (owned : ownership.Owned) : ownership.NoGhosts :=
  ⟨owned.attached, owned.tracked, fun _ _ live => owned.consistent.remembered live⟩

theorem load (owned : ownership.Owned) (object : ObjectRef) :
    { ownership with loadedObjects := ownership.loadedObjects ++ [object] }.Owned :=
  ⟨fun other attached => List.mem_append_left _ (owned.attached other attached),
    fun raycast other live => List.mem_append_left _ (owned.tracked raycast other live),
    owned.consistent⟩

theorem release (owned : ownership.Owned) (objects : List ObjectRef) :
    { ownership with raycasts := ownership.raycasts.release objects }.Owned :=
  ⟨owned.attached,
    fun raycast object live =>
      owned.tracked raycast object (Lease.Registry.live_release.mp live).1,
    owned.consistent.release objects⟩

/-- Removing everything that is in the list leaves nothing. -/
theorem removeAll (owned : ownership.Owned) : ownership.removeAll.Owned := by
  refine ⟨fun object attached => ?_, fun raycast object live => ?_,
    owned.consistent.release _⟩
  · dsimp only [Ownership.removeAll] at attached
    split at attached
    · exact absurd rfl attached
    next outside => exact absurd (owned.attached object attached) outside
  -- Each live raycast is remembered by its object, which is in the list, so it is released.
  · obtain ⟨live, kept⟩ := Lease.Registry.live_release.mp live
    exact absurd (owned.consistent.remembered live)
      (kept object (owned.tracked raycast object live))

theorem attach (owned : ownership.Owned) {object : ObjectRef}
    (member : object ∈ ownership.loadedObjects) (parent : Option ParentNode) :
    { ownership with parent := Function.update ownership.parent object parent }.Owned := by
  refine ⟨fun other attached => ?_, owned.tracked, owned.consistent⟩
  simp only [Function.update_apply] at attached
  split at attached
  next same => exact same ▸ member
  · exact owned.attached other attached

theorem grant (owned : ownership.Owned) {object : ObjectRef}
    (member : object ∈ ownership.loadedObjects) (free : ownership.raycasts.held object = none) :
    { ownership with raycasts := ownership.raycasts.grant object }.Owned := by
  refine ⟨owned.attached, fun raycast other live => ?_, owned.consistent.grant free⟩
  rw [Lease.Registry.live_grant] at live
  split at live
  · exact live ▸ member
  · exact owned.tracked raycast other live

theorem forget (owned : ownership.Owned) {object : ObjectRef}
    (free : ownership.raycasts.held object = none) :
    { ownership with raycasts := ownership.raycasts.forget object }.Owned :=
  ⟨owned.attached, owned.tracked, owned.consistent.forget free⟩

end Owned

end Ownership

/-! ## Steps -/

namespace ARViewController

/-- The ways in which an undisturbed event can change ownership. -/
inductive OwnershipChange (screen : ARViewController) : Event → Ownership → Prop where
  | same (event : Event) : OwnershipChange screen event screen.scene.ownership
  | loaded (view : SceneView) (object : ObjectRef)
      (empty : screen.scene.loader.loadedObjects = []) :
      OwnershipChange screen (.addVirtualObject view [])
        { screen.scene.ownership with
          loadedObjects := screen.scene.ownership.loadedObjects ++ [object] }
  | removed (event : Event) :
      OwnershipChange screen event screen.scene.ownership.removeAll
  | placed (view : SceneView) (object : ObjectRef) (rest : List MainClosure)
      (query : ARRaycastQuery)
      (head : screen.dispatch.mainQueue = .placeLoadedObject object :: rest)
      (accepted : screen.scene.placementQuery object = some query) :
      OwnershipChange screen (.mainQueue view)
        { screen.scene.ownership with
          raycasts :=
            if view.grantsTrackedRaycast query then
              screen.scene.ownership.raycasts.grant object
            else screen.scene.ownership.raycasts.forget object }
  | attached (raycast : RaycastRef) (results : List ARRaycastResult) (object : ObjectRef)
      (live : screen.scene.ownership.raycasts.live raycast = some object) :
      OwnershipChange screen (.trackedRaycastUpdated raycast results)
        { screen.scene.ownership with
          parent := Function.update screen.scene.ownership.parent object (some .rootNode) }
  | dragged (gesture : PanGesture) (view : SceneView) (object : ObjectRef)
      (state : gesture.state = .changed) :
      OwnershipChange screen (.pan gesture view)
        { screen.scene.ownership with
          raycasts := screen.scene.ownership.raycasts.release [object] }
  | setDown (gesture : PanGesture) (view : SceneView) (object : ObjectRef)
      (state : gesture.state = .ended)
      (tracked : screen.interaction.trackedObject = some object) :
      OwnershipChange screen (.pan gesture view)
        { screen.scene.ownership with
          raycasts :=
            if view.grantsAt
                (screen.interaction.updatedTrackingPosition screen.scene object gesture view).1 then
              (screen.scene.ownership.raycasts.release [object]).grant object
            else screen.scene.ownership.raycasts.release [object] }

/-- A step changes ownership in one of the listed ways. -/
theorem step_ownership {screen next : ARViewController} {event : Event}
    (undisturbed : event.Undisturbed) (taken : step screen event = .ok next) :
    OwnershipChange screen event next.scene.ownership := by
  have change := step_scene undisturbed taken
  generalize next.scene = scene at change ⊢
  cases change with
  | unchanged event => exact .same event
  | enqueued event closure noAnchor => exact .same event
  | hidden event isHidden =>
    rw [Scene.ownership_setVirtualContentHidden]
    exact .same event
  | reset event resets => exact .same event
  | removed view meanwhile nonempty =>
    rw [Scene.ownership_removeAllVirtualObjects]
    exact .removed _
  | closed =>
    rw [Scene.ownership_removeAllVirtualObjects]
    exact .removed _
  | restarted passes =>
    have removed : screen.OwnershipChange .coachingOverlayDidRequestSessionReset _ := .removed _
    rw [← Scene.ownership_removeAllVirtualObjects] at removed
    exact removed
  | startedLoading view object empty =>
    have same := screen.scene.ownership_updateObjectAvailability screen.availableObjects view
    have loaded : screen.OwnershipChange (.addVirtualObject view []) _ := .loaded view object empty
    rw [← same] at loaded
    exact loaded
  | finishedLoading object content sceneOpens loading =>
    have same : (screen.scene.modify object (VirtualObject.load content)).ownership =
        screen.scene.ownership := by
      refine screen.scene.ownership_modify_same object _ ?_ ?_
      · unfold VirtualObject.load
        split <;> rfl
      · unfold VirtualObject.load
        split <;> rfl
    have kept : screen.OwnershipChange (.background (.loaded object content sceneOpens)) _ :=
      .same _
    rw [← same] at kept
    exact kept
  | placementFailed view object rest head refused =>
    rw [Scene.ownership_discardPlacement, Scene.ownership_removeAllVirtualObjects]
    exact .removed _
  | placed view object rest query head accepted =>
    rw [Scene.ownership_placeAt]
    exact .placed view object rest query head accepted
  | updated scene ran =>
    rw [Scene.ownership_runUpdate ran]
    exact .same _
  | positioned raycast results object scene live handled =>
    rw [Scene.ownership_setVirtualObject3DPosition handled]
    exact .attached raycast results object live
  | translated gesture view object position state exceeded tracked =>
    rw [Scene.ownership_translate]
    exact .dragged gesture view object state
  | setDown gesture view object state tracked =>
    rw [Scene.ownership_setDown]
    exact .setDown gesture view object state tracked
  | reshaped event object after same =>
    rw [Scene.ownership_modify_same]
    · exact .same event
    · rw [same.same]
    · rw [same.same]

/-- What releasing, granting and forgetting keep, every step keeps. -/
theorem raycasts_step {Kept : Lease.Registry ObjectRef → Prop}
    (release : ∀ {registry} owners, Kept registry → Kept (registry.release owners))
    (grant : ∀ {registry} owner, Kept registry → Kept (registry.grant owner))
    (forget : ∀ {registry} owner, Kept registry → Kept (registry.forget owner))
    {screen next : ARViewController} {event : Event} (undisturbed : event.Undisturbed)
    (kept : Kept screen.scene.ownership.raycasts) (taken : step screen event = .ok next) :
    Kept next.scene.ownership.raycasts := by
  have change := step_ownership undisturbed taken
  generalize next.scene.ownership = ownership at change ⊢
  cases change with
  | same event => exact kept
  | loaded view object empty => exact kept
  | removed event => exact release _ kept
  | placed view object rest query head accepted =>
    dsimp only
    split
    · exact grant object kept
    · exact forget object kept
  | attached raycast results object live => exact kept
  | dragged gesture view object state => exact release [object] kept
  | setDown gesture view object state tracked =>
    dsimp only
    split
    · exact grant object (release [object] kept)
    · exact release [object] kept

/-- A stored raycast is live, in whatever way the object got it. -/
theorem sound_step {screen next : ARViewController} {event : Event}
    (undisturbed : event.Undisturbed) (sound : screen.scene.ownership.raycasts.Sound)
    (taken : step screen event = .ok next) : next.scene.ownership.raycasts.Sound :=
  raycasts_step (fun owners sound => sound.release owners) (fun owner sound => sound.grant owner)
    (fun owner sound => sound.forget owner) undisturbed sound taken

/-- An object gets a tracked raycast only while it is in the loader's list, and a placement
gets it none while it stores another one. -/
def KeepsOwnership (screen : ARViewController) : Event → Prop
  | .pan gesture view => gesture.state = .ended →
    ∀ object, screen.interaction.trackedObject = some object →
      view.grantsAt
          (screen.interaction.updatedTrackingPosition screen.scene object gesture view).1 = true →
        object ∈ screen.scene.loader.loadedObjects
  | .mainQueue view =>
    ∀ object rest query, screen.dispatch.mainQueue = .placeLoadedObject object :: rest →
      screen.scene.placementQuery object = some query →
        (screen.scene.objects object).raycast = none ∧
        (view.grantsTrackedRaycast query = true → object ∈ screen.scene.loader.loadedObjects)
  | _ => True

theorem owned_step {screen next : ARViewController} {event : Event}
    (undisturbed : event.Undisturbed) (owned : screen.scene.ownership.Owned)
    (allowed : screen.KeepsOwnership event) (taken : step screen event = .ok next) :
    next.scene.ownership.Owned := by
  have change := step_ownership undisturbed taken
  generalize next.scene.ownership = ownership at change ⊢
  cases change with
  | same event => exact owned
  | loaded view object empty => exact owned.load object
  | removed event => exact owned.removeAll
  | placed view object rest query head accepted =>
    obtain ⟨free, member⟩ := allowed object rest query head accepted
    split
    next granted => exact owned.grant (member granted) free
    next refused => exact owned.forget free
  -- Only live raycasts attach, and those belong to objects in the list.
  | attached raycast results object live => exact owned.attach (owned.tracked raycast object live) _
  | dragged gesture view object state => exact owned.release [object]
  | setDown gesture view object state tracked =>
    -- The old raycast is stopped first, so that a new one overwrites nothing.
    have released := owned.release [object]
    split
    next granted =>
      exact released.grant (allowed state object tracked granted)
        (by simp [Lease.Registry.release])
    next refused => exact released

/-- A step that breaks the condition makes a ghost. -/
theorem noGhosts_broken {screen next : ARViewController} {event : Event}
    (owned : screen.scene.ownership.Owned) (refused : ¬ screen.KeepsOwnership event)
    (taken : step screen event = .ok next) : ¬ next.scene.ownership.NoGhosts := by
  intro noGhosts
  cases event with
  | pan gesture view =>
    simp only [KeepsOwnership, not_forall] at refused
    obtain ⟨ended, object, tracked, granted, outside⟩ := refused
    rw [scene_of_panEnded ended tracked taken, Scene.ownership_setDown, if_pos granted] at noGhosts
    exact outside (noGhosts.tracked _ object (Lease.Registry.live_grant_self object))
  | mainQueue view =>
    simp only [KeepsOwnership, not_forall] at refused
    obtain ⟨object, rest, query, head, accepted, wrong⟩ := refused
    rw [scene_of_placement head accepted taken, Scene.ownership_placeAt] at noGhosts
    -- A placement stops no raycast: a stored one is overwritten while it is live.
    cases stored : (screen.scene.objects object).raycast with
    | some raycast =>
      have held : screen.scene.ownership.raycasts.held object = some raycast := stored
      split at noGhosts
      · obtain ⟨live, forgotten⟩ := owned.consistent.overwritten_grant held
        exact forgotten (noGhosts.stored raycast object live)
      · obtain ⟨live, forgotten⟩ := owned.consistent.overwritten_forget held
        exact forgotten (noGhosts.stored raycast object live)
    | none =>
      simp only [stored, true_and, not_forall] at wrong
      obtain ⟨granted, outside⟩ := wrong
      rw [if_pos granted] at noGhosts
      exact outside (noGhosts.tracked _ object (Lease.Registry.live_grant_self object))
  | _ => exact refused trivial

theorem owned_opening (opening : Opening) : opening.screen.scene.ownership.Owned where
  attached object attached := absurd (opening.unplaced object).1 attached
  tracked raycast object live := nomatch live
  consistent :=
    { remembered := fun live => nomatch live
      alive := fun {lease object} held => by
        have none : (opening.objects object).raycast = none := (opening.unplaced object).2
        exact absurd (none.symm.trans held) (by simp)
      numbered := fun raycast object live => nomatch live }

theorem sound_preserved (screen : ARViewController) (event : Event) (next : ARViewController)
    (sound : screen.scene.ownership.raycasts.Sound) (taken : step screen event = .ok next) :
    next.scene.ownership.raycasts.Sound := by
  refine @preserved_of_undisturbed (fun screen => screen.scene.ownership.raycasts.Sound)
    (fun _ _ => True) ?_ ?_ ?_ screen event next sound trivial taken
  · exact fun _ _ _ _ => trivial
  · exact fun _ _ _ => trivial
  · exact fun screen event next undisturbed sound _ taken => sound_step undisturbed sound taken

theorem sound_always (opening : Opening) (events : List Event) :
    Always step (fun screen => screen.scene.ownership.raycasts.Sound) opening.screen events :=
  always_of_invariant sound_preserved (owned_opening opening).consistent.sound events

/-- There are no ghosts exactly in the runs in which objects get tracked raycasts only while
they are in the loader's list, and are placed only while they store no raycast. -/
theorem noGhosts_iff (opening : Opening) (events : List Event) :
    Always step (fun screen =>
        (∀ object, (screen.scene.objects object).parent ≠ none ∨
            (∃ raycast, screen.scene.session.raycasts raycast = some object) →
          object ∈ screen.scene.loader.loadedObjects) ∧
        ∀ object raycast, screen.scene.session.raycasts raycast = some object →
          (screen.scene.objects object).raycast = some raycast ∧
          ∀ other, screen.scene.session.raycasts other = some object → other = raycast)
        opening.screen events ↔
      Guarded step KeepsOwnership opening.screen events := by
  refine @always_iff_guarded _ _ _ step (fun screen => screen.scene.ownership.Owned) _ _
    ?_ ?_ ?_ _ ?_ events
  · intro screen owned
    have noGhosts := owned.noGhosts
    constructor
    · rintro object (attached | ⟨raycast, live⟩)
      · exact noGhosts.attached object attached
      · exact noGhosts.tracked raycast object live
    · intro object raycast live
      exact ⟨noGhosts.stored raycast object live,
        fun other also => owned.consistent.unique also live⟩
  · refine preserved_of_undisturbed ?_ ?_ ?_
    · exact fun screen view meanwhile _ => trivial
    · exact fun screen event _ => trivial
    · exact fun screen event next undisturbed owned allowed taken =>
        owned_step undisturbed owned allowed taken
  · intro screen event next owned refused taken holds
    exact noGhosts_broken owned refused taken
      ⟨fun object attached => holds.1 object (.inl attached),
        fun raycast object live => holds.1 object (.inr ⟨raycast, live⟩),
        fun raycast object live => (holds.2 object raycast live).1⟩
  · exact owned_opening opening

/-- The chair is removed while it is dragged, and then set down. -/
def removedWhileDragged : List Event :=
  floorFound ++ chairPlaced ++ chairAttached ++
    [.pan ⟨.began, false, .zero, chairTouched⟩ showroomView, .addVirtualObject showroomView [],
      .pan ⟨.ended, false, .zero, {}⟩ showroomView]

/-- Setting it down gets it a tracked raycast, which puts it back into the scene. -/
theorem not_noGhosts : ¬ ∀ (opening : Opening) (events : List Event),
    Always step (fun screen =>
      (∀ object, (screen.scene.objects object).parent ≠ none ∨
          (∃ raycast, screen.scene.session.raycasts raycast = some object) →
        object ∈ screen.scene.loader.loadedObjects) ∧
      ∀ object raycast, screen.scene.session.raycasts raycast = some object →
        (screen.scene.objects object).raycast = some raycast ∧
        ∀ other, screen.scene.session.raycasts other = some object → other = raycast)
      opening.screen events := by
  intro noGhosts
  have final := (noGhosts showroom removedWhileDragged).atEnd rfl
  -- The second raycast of the run tracks the chair, which is out of the list.
  have member := final.1 0 (.inr ⟨1, rfl⟩)
  exact absurd member (by decide)

end ARViewController

end FurnitureAR
