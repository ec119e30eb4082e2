import FurnitureAR.GestureSafety

/-!
# Who owns the anchors

Anchors are made on the update queue, for objects that the main queue may have removed by then,
and no removal takes the anchor away from its object. This module says under which condition
the anchors in the session are those of the loaded objects all the same.
-/
namespace FurnitureAR

open Execution

/-- The part of the scene that anchoring is about. -/
structure Anchoring where
  loadedObjects : List ObjectRef
  anchors : ObjectRef → Option AnchorIdentifier
  session : List AnchorIdentifier
  next : AnchorIdentifier
  updateQueue : List UpdateClosure

namespace Scene

def anchoring (scene : Scene) : Anchoring where
  loadedObjects := scene.loader.loadedObjects
  anchors object := (scene.objects object).anchor.map ARAnchor.identifier
  session := scene.session.anchors
  next := scene.session.nextAnchor
  updateQueue := scene.updateQueue

/-! ## What the operations do to anchoring -/

@[simp]
theorem anchoring_withQueue (scene : Scene) (updateQueue : List UpdateClosure) :
    (scene.withQueue updateQueue).anchoring =
      { scene.anchoring with updateQueue := updateQueue } := rfl

theorem anchoring_withSession (scene : Scene) (session : ARSession) :
    (scene.withSession session).anchoring =
      { scene.anchoring with session := session.anchors, next := session.nextAnchor } := rfl

theorem anchoring_modify (scene : Scene) (object : ObjectRef) (f : VirtualObject → VirtualObject) :
    (scene.modify object f).anchoring =
      { scene.anchoring with
        anchors := Function.update scene.anchoring.anchors object
          ((f (scene.objects object)).anchor.map ARAnchor.identifier) } := by
  simp only [anchoring, modify_loader, modify_objects]
  congr 1
  funext other
  rw [Function.update_apply]
  split <;> rfl

/-- Most changes of an object keep its anchor. -/
theorem anchoring_modify_same (scene : Scene) (object : ObjectRef)
    (f : VirtualObject → VirtualObject)
    (anchor : (f (scene.objects object)).anchor.map ARAnchor.identifier =
      (scene.objects object).anchor.map ARAnchor.identifier) :
    (scene.modify object f).anchoring = scene.anchoring := by
  have same : scene.anchoring.anchors object =
      (scene.objects object).anchor.map ARAnchor.identifier := rfl
  rw [anchoring_modify, anchor, ← same, Function.update_eq_self]

theorem anchoring_stopTrackedRaycast (scene : Scene) (object : ObjectRef) :
    (scene.stopTrackedRaycast object).anchoring = scene.anchoring := by
  rw [stopTrackedRaycast_eq, anchoring_modify_same] <;> rfl

theorem anchoring_removeAllVirtualObjects (scene : Scene) :
    scene.removeAllVirtualObjects.anchoring = { scene.anchoring with loadedObjects := [] } := by
  rw [removeAllVirtualObjects_eq]
  simp only [anchoring, ARSession.without]
  congr 1
  funext object
  by_cases member : object ∈ scene.loader.loadedObjects <;> simp [member, removed]

theorem anchoring_updateObjectAvailability (scene : Scene) (availableObjects : List ObjectRef)
    (view : SceneView) :
    (scene.updateObjectAvailability availableObjects view).anchoring = scene.anchoring := by
  obtain ⟨objects, same, only⟩ := scene.updateObjectAvailability_objects availableObjects view
  have kept : ∀ object, (objects object).anchor = (scene.objects object).anchor := by
    intro object
    obtain ⟨result, query, eq⟩ := only object
    rw [eq]
  rw [same]
  simp only [anchoring, kept]

theorem anchoring_setVirtualContentHidden (scene : Scene) (isHidden : Bool) :
    (scene.setVirtualContentHidden isHidden).anchoring = scene.anchoring := by
  rw [setVirtualContentHidden_eq]
  simp only [anchoring]
  congr 1
  funext object
  split <;> rfl

theorem anchoring_discardPlacement (scene : Scene) (object : ObjectRef) :
    ∃ session, session ⊆ scene.session.anchors ∧
      (scene.discardPlacement object).anchoring =
        { scene.anchoring with loadedObjects := [], session := session } := by
  refine ⟨(scene.discardPlacement object).session.anchors, ?_, ?_⟩
  · rw [discardPlacement_eq]
    exact List.filter_sublist.subset
  · rw [discardPlacement_eq, anchoring_withSession, anchoring_removeAllVirtualObjects,
      removeAllVirtualObjects_eq]
    rfl

theorem anchoring_placeAt (scene : Scene) (object : ObjectRef) (query : ARRaycastQuery)
    (view : SceneView) : (scene.placeAt object query view).anchoring = scene.anchoring := by
  obtain ⟨transform, same⟩ := scene.placeAt_eq object query view
  rw [same, anchoring_modify_same _ _ _ rfl, anchoring_withSession]
  cases view.grantsTrackedRaycast query <;> rfl

theorem anchoring_setVirtualObject3DPosition {scene next : Scene} {results : List ARRaycastResult}
    {object : ObjectRef} (handled : scene.setVirtualObject3DPosition results object = .ok next) :
    ∃ closures, next.anchoring =
      { scene.anchoring with updateQueue := scene.updateQueue ++ closures } := by
  obtain ⟨transform, same⟩ := setVirtualObject3DPosition_eq handled
  rw [same, anchoring_withQueue, anchoring_modify_same _ _ _ rfl]
  exact ⟨_, rfl⟩

theorem anchoring_translate (scene : Scene) (object : ObjectRef)
    (trackedObject : Option ObjectRef) (position : CGPoint) (view : SceneView) :
    (scene.translate object trackedObject position view).anchoring = scene.anchoring := by
  obtain ⟨transform, same⟩ := scene.translate_eq object trackedObject position view
  rw [same, anchoring_modify_same _ _ _ rfl, anchoring_stopTrackedRaycast]

theorem anchoring_setDown (scene : Scene) (object : ObjectRef) (position : CGPoint)
    (view : SceneView) : ∃ closures, (scene.setDown object position view).anchoring =
      { scene.anchoring with updateQueue := scene.updateQueue ++ closures } := by
  have stopped := scene.anchoring_stopTrackedRaycast object
  cases granted : view.grantsAt position with
  | true =>
    have session : (scene.stopTrackedRaycast object).session.anchors = scene.session.anchors :=
      congrArg Anchoring.session stopped
    have next : (scene.stopTrackedRaycast object).session.nextAnchor = scene.session.nextAnchor :=
      congrArg Anchoring.next stopped
    refine ⟨[], ?_⟩
    rw [setDown_granted granted, anchoring_modify_same _ _ _ rfl, anchoring_withSession, stopped,
      List.append_nil]
    simp only [ARSession.trackedRaycast, if_true, session, next]
    rfl
  | false =>
    have queue : (scene.stopTrackedRaycast object).updateQueue = scene.updateQueue :=
      congrArg Anchoring.updateQueue stopped
    refine ⟨[.addOrUpdateAnchor object], ?_⟩
    rw [setDown_refused granted, anchorInPlace, enqueue, anchoring_withQueue,
      anchoring_modify_same _ _ _ rfl, stopped]
    simp only [modify, queue]

theorem anchoring_addOrUpdateAnchor (scene : Scene) (object : ObjectRef) :
    (scene.addOrUpdateAnchor object).anchoring =
      { scene.anchoring with
        anchors := Function.update scene.anchoring.anchors object (some scene.session.nextAnchor)
        session := scene.session.anchors.filter
          (fun identifier => some identifier ≠ scene.anchoring.anchors object) ++
            [scene.session.nextAnchor]
        next := scene.session.nextAnchor + 1 } := by
  rw [addOrUpdateAnchor_eq, anchoring_withSession, anchoring_modify]
  rfl

theorem anchoring_didUpdateAnchor (scene : Scene) (anchor : ARAnchor) :
    (scene.didUpdateAnchor anchor).anchoring = scene.anchoring := by
  rcases scene.didUpdateAnchor_cases anchor with same | ⟨object, -, anchored, same⟩
  · rw [same]
  · rw [same, anchoring_modify_same]
    exact anchored.symm

end Scene

namespace Anchoring

/-- The anchors in the session are those of the loaded objects, except for those that a reset
has cleared and a pending closure will replace. -/
structure Anchored (anchoring : Anchoring) : Prop where
  outside : ∀ object, object ∉ anchoring.loadedObjects → anchoring.anchors object = none
  owned : ∀ identifier ∈ anchoring.session,
    ∃ object ∈ anchoring.loadedObjects, anchoring.anchors object = some identifier
  present : ∀ object identifier, anchoring.anchors object = some identifier →
    identifier ∈ anchoring.session ∨ .addOrUpdateAnchor object ∈ anchoring.updateQueue
  unshared : ∀ object other identifier, anchoring.anchors object = some identifier →
    anchoring.anchors other = some identifier → object = other
  numbered : ∀ object identifier, anchoring.anchors object = some identifier →
    identifier < anchoring.next

namespace Anchored

variable {anchoring : Anchoring}

theorem enqueue (anchored : anchoring.Anchored) (closures : List UpdateClosure) :
    { anchoring with updateQueue := anchoring.updateQueue ++ closures }.Anchored where
  outside := anchored.outside
  owned := anchored.owned
  present object identifier held :=
    (anchored.present object identifier held).imp_right (List.mem_append_left _)
  unshared := anchored.unshared
  numbered := anchored.numbered

theorem load (anchored : anchoring.Anchored) (object : ObjectRef) :
    { anchoring with loadedObjects := anchoring.loadedObjects ++ [object] }.Anchored where
  outside other outside := anchored.outside other fun member =>
    outside (List.mem_append_left _ member)
  owned identifier member := by
    obtain ⟨other, loaded, held⟩ := anchored.owned identifier member
    exact ⟨other, List.mem_append_left _ loaded, held⟩
  present := anchored.present
  unshared := anchored.unshared
  numbered := anchored.numbered

/-- Objects without anchors can be removed. -/
theorem remove (anchored : anchoring.Anchored) {session : List AnchorIdentifier}
    (fewer : session ⊆ anchoring.session)
    (free : ∀ object ∈ anchoring.loadedObjects, anchoring.anchors object = none) :
    { anchoring with loadedObjects := [], session := session }.Anchored := by
  have none : ∀ object, anchoring.anchors object = none := by
    intro object
    by_cases member : object ∈ anchoring.loadedObjects
    · exact free object member
    · exact anchored.outside object member
  refine ⟨fun object _ => none object, fun identifier member => ?_, ?_, anchored.unshared,
    anchored.numbered⟩
  · obtain ⟨object, -, held⟩ := anchored.owned identifier (fewer member)
    simp [none] at held
  · intro object identifier held
    simp [none] at held

/-- The session can be reset when all anchors are about to be replaced. -/
theorem reset (anchored : anchoring.Anchored)
    (pending : ∀ object ∈ anchoring.loadedObjects, anchoring.anchors object = none ∨
      .addOrUpdateAnchor object ∈ anchoring.updateQueue) :
    { anchoring with session := [] }.Anchored where
  outside := anchored.outside
  owned identifier member := nomatch member
  present object identifier held := by
    right
    -- Objects that hold an anchor are in the list.
    have member : object ∈ anchoring.loadedObjects := by
      by_contra outside
      simp [anchored.outside object outside] at held
    rcases pending object member with none | waiting
    · simp [none] at held
    · exact waiting
  unshared := anchored.unshared
  numbered := anchored.numbered

/-- Closures that make no anchor change nothing. -/
theorem execute (anchored : anchoring.Anchored) {closure : UpdateClosure}
    {rest : List UpdateClosure} (head : anchoring.updateQueue = closure :: rest)
    (other : ∀ object, closure ≠ .addOrUpdateAnchor object) :
    { anchoring with updateQueue := rest }.Anchored where
  outside := anchored.outside
  owned := anchored.owned
  present object identifier held := by
    refine (anchored.present object identifier held).imp_right fun waiting => ?_
    rw [head, List.mem_cons] at waiting
    exact waiting.resolve_left fun same => other object same.symm
  unshared := anchored.unshared
  numbered := anchored.numbered

/-- A loaded object can get a new anchor. -/
theorem anchor (anchored : anchoring.Anchored) {object : ObjectRef}
    {rest : List UpdateClosure} (head : anchoring.updateQueue = .addOrUpdateAnchor object :: rest)
    (loaded : object ∈ anchoring.loadedObjects) :
    { anchoring with
      anchors := Function.update anchoring.anchors object (some anchoring.next)
      session := anchoring.session.filter
        (fun identifier => some identifier ≠ anchoring.anchors object) ++ [anchoring.next]
      next := anchoring.next + 1
      updateQueue := rest }.Anchored := by
  have old : ∀ {other identifier}, anchoring.anchors other = some identifier →
      identifier ≠ anchoring.next :=
    fun held => Nat.ne_of_lt (anchored.numbered _ _ held)
  refine ⟨fun other outside => ?_, fun identifier member => ?_, fun other identifier held => ?_,
    fun first second identifier one two => ?_, fun other identifier held => ?_⟩
  · have different : other ≠ object := by
      rintro rfl
      exact outside loaded
    simpa only [Function.update_of_ne different] using anchored.outside other outside
  · simp only [List.mem_append, List.mem_filter, decide_eq_true_eq, List.mem_singleton] at member
    rcases member with ⟨member, kept⟩ | new
    · obtain ⟨other, also, held⟩ := anchored.owned identifier member
      have different : other ≠ object := by
        rintro rfl
        exact kept held.symm
      exact ⟨other, also, by simpa only [Function.update_of_ne different] using held⟩
    · exact ⟨object, loaded, by rw [new]; exact Function.update_self _ _ _⟩
  · simp only [Function.update_apply] at held
    split at held
    next same =>
      cases held
      exact .inl (List.mem_append_right _ (List.mem_singleton_self _))
    next different =>
      rcases anchored.present other identifier held with member | waiting
      · have kept : some identifier ≠ anchoring.anchors object := fun also =>
          different (anchored.unshared other object identifier held also.symm)
        exact .inl (List.mem_append_left _ (List.mem_filter.mpr ⟨member, by simpa using kept⟩))
      · rw [head, List.mem_cons, UpdateClosure.addOrUpdateAnchor.injEq] at waiting
        exact .inr (waiting.resolve_left different)
  · simp only [Function.update_apply] at one two
    split at one
    next firstSame =>
      cases one
      split at two
      next secondSame => rw [firstSame, secondSame]
      -- A new anchor is nobody else's, since numbers are not used again.
      next => exact absurd rfl (old two)
    next =>
      split at two
      next =>
        cases two
        exact absurd rfl (old one)
      next => exact anchored.unshared first second identifier one two
  · simp only [Function.update_apply] at held
    split at held
    · cases held
      exact Nat.lt_succ_self _
    · exact Nat.lt_succ_of_lt (anchored.numbered other identifier held)

end Anchored

end Anchoring

/-! ## Steps -/

namespace ARViewController

/-- The ways in which an undisturbed event can change anchoring. -/
inductive AnchoringChange (screen : ARViewController) : Event → Anchoring → Prop where
  | same (event : Event) : AnchoringChange screen event screen.scene.anchoring
  | enqueued (event : Event) (closures : List UpdateClosure) :
      AnchoringChange screen event
        { screen.scene.anchoring with
          updateQueue := screen.scene.anchoring.updateQueue ++ closures }
  | reset (event : Event) (resets : event.ResetsOnly) :
      AnchoringChange screen event { screen.scene.anchoring with session := [] }
  | removed (event : Event) (session : List AnchorIdentifier)
      (fewer : session ⊆ screen.scene.anchoring.session)
      (removes : event = .viewWillDisappear ∨ (screen.action event).Removes) :
      AnchoringChange screen event
        { screen.scene.anchoring with loadedObjects := [], session := session }
  | loaded (view : SceneView) (object : ObjectRef)
      (empty : screen.scene.loader.loadedObjects = []) :
      AnchoringChange screen (.addVirtualObject view [])
        { screen.scene.anchoring with
          loadedObjects := screen.scene.anchoring.loadedObjects ++ [object] }
  | anchored (object : ObjectRef) (rest : List UpdateClosure)
      (head : screen.scene.anchoring.updateQueue = .addOrUpdateAnchor object :: rest) :
      AnchoringChange screen .updateQueue
        { screen.scene.anchoring with
          anchors := Function.update screen.scene.anchoring.anchors object
            (some screen.scene.anchoring.next)
          session := screen.scene.anchoring.session.filter
            (fun identifier => some identifier ≠ screen.scene.anchoring.anchors object) ++
              [screen.scene.anchoring.next]
          next := screen.scene.anchoring.next + 1
          updateQueue := rest }
  | executed (closure : UpdateClosure) (rest : List UpdateClosure)
      (head : screen.scene.anchoring.updateQueue = closure :: rest)
      (other : ∀ object, closure ≠ .addOrUpdateAnchor object) :
      AnchoringChange screen .updateQueue { screen.scene.anchoring with updateQueue := rest }

private theorem anchoring_runUpdate {screen : ARViewController} {scene : Scene}
    (ran : screen.scene.runUpdate = some scene) :
    AnchoringChange screen .updateQueue scene.anchoring := by
  obtain ⟨closure, rest, head, rfl⟩ := Scene.runUpdate_cases ran
  cases closure with
  | addOrUpdateAnchor object =>
    rw [Scene.execute, Scene.anchoring_addOrUpdateAnchor]
    exact .anchored object rest head
  | didUpdate anchor =>
    rw [Scene.execute, Scene.anchoring_didUpdateAnchor]
    exact .executed _ rest head (by simp)
  | setFocusSquare state => exact .executed _ rest head (by simp)

/-- A step changes anchoring in one of the listed ways. -/
theorem step_anchoring {screen next : ARViewController} {event : Event}
    (undisturbed : event.Undisturbed) (taken : step screen event = .ok next) :
    AnchoringChange screen event next.scene.anchoring := by
  have change := step_scene undisturbed taken
  generalize next.scene = scene at change ⊢
  cases change with
  | unchanged event => exact .same event
  | enqueued event closure noAnchor => exact .enqueued event [closure]
  | hidden event isHidden =>
    rw [Scene.anchoring_setVirtualContentHidden]
    exact .same event
  | reset event resets => exact .reset event resets
  | removed view meanwhile nonempty =>
    rw [Scene.anchoring_removeAllVirtualObjects]
    refine .removed _ _ (List.Subset.refl _) (.inr ?_)
    simp [action, nonempty, LoadCycle.Action.Removes]
  | closed =>
    rw [Scene.anchoring_removeAllVirtualObjects]
    exact .removed _ _ (List.Subset.refl _) (.inl rfl)
  | restarted passes =>
    have removed := screen.scene.anchoring_removeAllVirtualObjects
    have same : (screen.scene.removeAllVirtualObjects.withSession
        screen.scene.removeAllVirtualObjects.session.runResettingTracking).anchoring =
          { screen.scene.anchoring with loadedObjects := [], session := [] } := by
      rw [Scene.anchoring_withSession, removed]
      simp only [ARSession.runResettingTracking, Anchoring.mk.injEq, true_and, and_true]
      exact congrArg Anchoring.next removed
    refine same.symm ▸ .removed _ [] (List.nil_subset _) (.inr ?_)
    simp [action, passes, LoadCycle.Action.Removes]
  | startedLoading view object empty =>
    have same := screen.scene.anchoring_updateObjectAvailability screen.availableObjects view
    have loaded : screen.AnchoringChange (.addVirtualObject view []) _ := .loaded view object empty
    rw [← same] at loaded
    exact loaded
  | finishedLoading object content sceneOpens loading =>
    have same : (screen.scene.modify object (VirtualObject.load content)).anchoring =
        screen.scene.anchoring := by
      refine screen.scene.anchoring_modify_same object _ ?_
      unfold VirtualObject.load
      split <;> rfl
    have kept : screen.AnchoringChange (.background (.loaded object content sceneOpens)) _ :=
      .same _
    rw [← same] at kept
    exact kept
  | placementFailed view object rest head refused =>
    obtain ⟨session, fewer, same⟩ := screen.scene.anchoring_discardPlacement object
    rw [same]
    refine .removed _ session fewer (.inr ?_)
    simp [action, head, refused, LoadCycle.Action.Removes]
  | placed view object rest query head accepted =>
    rw [Scene.anchoring_placeAt]
    exact .same _
  | updated scene ran => exact anchoring_runUpdate ran
  | positioned raycast results object scene live handled =>
    obtain ⟨closures, same⟩ := Scene.anchoring_setVirtualObject3DPosition handled
    rw [same]
    exact .enqueued _ closures
  | translated gesture view object position state exceeded tracked =>
    rw [Scene.anchoring_translate]
    exact .same _
  | setDown gesture view object state tracked =>
    obtain ⟨closures, same⟩ := screen.scene.anchoring_setDown object
      (screen.interaction.updatedTrackingPosition screen.scene object gesture view).1 view
    rw [same]
    exact .enqueued _ closures
  | reshaped event object after same =>
    rw [Scene.anchoring_modify_same]
    · exact .same event
    · rw [same.same]

/-- Objects are removed before they get their anchors, anchors are made only for objects in the
list, and the session is reset only when all anchors are about to be replaced. -/
def KeepsAnchors (screen : ARViewController) : Event → Prop
  | .updateQueue =>
    ∀ object rest, screen.scene.updateQueue = .addOrUpdateAnchor object :: rest →
      object ∈ screen.scene.loader.loadedObjects
  | .viewDidAppear | .restartSessionTapped =>
    ∀ object ∈ screen.scene.loader.loadedObjects, (screen.scene.objects object).anchor = none ∨
      .addOrUpdateAnchor object ∈ screen.scene.updateQueue
  | .viewWillDisappear =>
    ∀ object ∈ screen.scene.loader.loadedObjects, (screen.scene.objects object).anchor = none
  | event => (screen.action event).Removes →
    ∀ object ∈ screen.scene.loader.loadedObjects, (screen.scene.objects object).anchor = none

theorem KeepsAnchors.free {screen : ARViewController} {event : Event}
    (allowed : screen.KeepsAnchors event)
    (removes : event = .viewWillDisappear ∨ (screen.action event).Removes) :
    ∀ object ∈ screen.scene.loader.loadedObjects, (screen.scene.objects object).anchor = none := by
  rcases removes with rfl | removes
  · exact allowed
  · cases event with
    | updateQueue | viewDidAppear | restartSessionTapped | viewWillDisappear =>
      exact absurd removes id
    | _ => exact allowed removes

theorem anchored_step {screen next : ARViewController} {event : Event}
    (undisturbed : event.Undisturbed) (anchored : screen.scene.anchoring.Anchored)
    (allowed : screen.KeepsAnchors event) (taken : step screen event = .ok next) :
    next.scene.anchoring.Anchored := by
  have change := step_anchoring undisturbed taken
  generalize next.scene.anchoring = anchoring at change ⊢
  cases change with
  | same event => exact anchored
  | enqueued event closures => exact anchored.enqueue closures
  | reset event resets =>
    refine anchored.reset fun object member => ?_
    have pending : (screen.scene.objects object).anchor = none ∨
        .addOrUpdateAnchor object ∈ screen.scene.updateQueue := by
      cases event with
      | viewDidAppear | restartSessionTapped => exact allowed object member
      | _ => exact absurd resets id
    exact pending.imp_left fun none => by simp [Scene.anchoring, none]
  | removed event session fewer removes =>
    refine anchored.remove fewer fun object member => ?_
    simp [Scene.anchoring, allowed.free removes object member]
  | loaded view object empty => exact anchored.load object
  | anchored object rest head => exact anchored.anchor head (allowed object rest head)
  | executed closure rest head other => exact anchored.execute head other

/-! ## Anchors of removed objects -/

/-- The object has no anchor, or one that is newer than `bound`. -/
structure Renewed (anchoring : Anchoring) (object : ObjectRef) (bound : AnchorIdentifier) :
    Prop where
  newer : ∀ identifier, anchoring.anchors object = some identifier → bound ≤ identifier
  next : bound ≤ anchoring.next

/-- Objects never get old anchors. -/
theorem renewed_step {object : ObjectRef} {bound : AnchorIdentifier} (screen : ARViewController)
    (event : Event) (next : ARViewController)
    (renewed : Renewed screen.scene.anchoring object bound)
    (taken : step screen event = .ok next) : Renewed next.scene.anchoring object bound := by
  refine @preserved_of_undisturbed (fun screen => Renewed screen.scene.anchoring object bound)
    (fun _ _ => True) ?_ ?_ ?_ screen event next renewed trivial taken
  · exact fun _ _ _ _ => trivial
  · exact fun _ _ _ => trivial
  · intro screen event next undisturbed renewed _ taken
    have change := step_anchoring undisturbed taken
    generalize next.scene.anchoring = anchoring at change ⊢
    cases change with
    | anchored other rest head =>
      -- The one change that gives anchors gives new ones.
      refine ⟨fun identifier held => ?_, Nat.le_succ_of_le renewed.next⟩
      simp only [Function.update_apply] at held
      split at held
      · cases held
        exact renewed.next
      · exact renewed.newer identifier held
    | _ => exact ⟨renewed.newer, renewed.next⟩

/-- An anchor that is older than the object's own does not move the object. -/
theorem didUpdateAnchor_of_renewed {scene : Scene} {object : ObjectRef} {bound : AnchorIdentifier}
    (renewed : Renewed scene.anchoring object bound) {anchor : ARAnchor}
    (older : anchor.identifier < bound) :
    (scene.didUpdateAnchor anchor).objects object = scene.objects object := by
  rcases scene.didUpdateAnchor_cases anchor with same | ⟨other, -, anchored, same⟩
  · rw [same]
  · have different : object ≠ other := by
      rintro rfl
      exact absurd (renewed.newer _ anchored) (Nat.not_le_of_lt older)
    rw [same, Scene.modify_objects, if_neg different]

/-- The anchors in the session are exactly those of the objects in the list, no two objects
share one, and no other object has one. -/
structure AnchorsOwned (scene : Scene) : Prop where
  session : ∀ identifier, identifier ∈ scene.session.anchors ↔
    ∃ object ∈ scene.loader.loadedObjects,
      (scene.objects object).anchor.map ARAnchor.identifier = some identifier
  unshared : ∀ object other identifier,
    (scene.objects object).anchor.map ARAnchor.identifier = some identifier →
      (scene.objects other).anchor.map ARAnchor.identifier = some identifier → object = other
  outside : ∀ object, object ∉ scene.loader.loadedObjects → (scene.objects object).anchor = none

theorem anchorsOwned_of_anchored {scene : Scene} (anchored : scene.anchoring.Anchored)
    (idle : scene.updateQueue = []) : AnchorsOwned scene where
  session identifier := by
    refine ⟨anchored.owned identifier, ?_⟩
    rintro ⟨object, -, held⟩
    refine (anchored.present object identifier held).resolve_right fun waiting => ?_
    rw [show scene.anchoring.updateQueue = [] from idle] at waiting
    cases waiting
  unshared := anchored.unshared
  outside object outside := Option.map_eq_none_iff.mp (anchored.outside object outside)

theorem anchored_opening {opening : Opening}
    (unanchored : ∀ object, (opening.objects object).anchor = none) :
    opening.screen.scene.anchoring.Anchored := by
  have none : ∀ object, opening.screen.scene.anchoring.anchors object = none := fun object =>
    Option.map_eq_none_iff.mpr (unanchored object)
  refine ⟨fun object _ => none object, fun identifier member => (nomatch member), ?_, ?_, ?_⟩
  all_goals
    intro object
    simp [none]

/-- In a run in which no object comes with an anchor of an earlier screen, objects are removed
before they get their anchors, anchors are made only for objects in the list, and the session is
reset only when all anchors are about to be replaced, the anchors in the session are those of the
objects in the list whenever the update queue is empty. Anchors that were made before an object was
out of the list never move it. -/
theorem anchorsOwned_of_guarded (opening : Opening)
    (unanchored : ∀ object, (opening.objects object).anchor = none) (events : List Event)
    (guarded : Guarded step KeepsAnchors opening.screen events) :
    Always step (fun screen => screen.scene.updateQueue = [] → AnchorsOwned screen.scene)
        opening.screen events ∧
      ∀ first second middle final, events = first ++ second →
        run step opening.screen first = .ok middle → run step middle second = .ok final →
          ∀ object, object ∉ middle.scene.loader.loadedObjects → ∀ anchor : ARAnchor,
            anchor.identifier < middle.scene.session.nextAnchor →
              (final.scene.didUpdateAnchor anchor).objects object = final.scene.objects object := by
  have preserved : ∀ screen event next, screen.scene.anchoring.Anchored →
      screen.KeepsAnchors event → step screen event = .ok next →
        next.scene.anchoring.Anchored := by
    refine preserved_of_undisturbed ?_ ?_ ?_
    · exact fun screen view meanwhile allowed => allowed
    · intro screen event _ removes
      cases event <;> exact absurd removes id
    · exact fun screen event next undisturbed anchored allowed taken =>
        anchored_step undisturbed anchored allowed taken
  have initial := anchored_opening unanchored
  constructor
  · exact (always_of_guarded preserved initial guarded).mono fun screen anchored =>
      anchorsOwned_of_anchored anchored
  · intro first second middle final cut reached finished object outside anchor older
    subst cut
    have before := ((guarded_append _ first second).mp guarded).1
    have anchored := (always_of_guarded preserved initial before).atEnd reached
    -- Out of the list it has no anchor, and from then on it gets only newer ones.
    have renewed : Renewed middle.scene.anchoring object middle.scene.session.nextAnchor := by
      refine ⟨fun identifier held => ?_, Nat.le_refl _⟩
      simp [anchored.outside object outside] at held
    have later := (always_of_invariant renewed_step renewed second).atEnd finished
    exact didUpdateAnchor_of_renewed later older

/-- The chair is placed and anchored, which meets the condition. -/
theorem guarded_chairAttached :
    Guarded step KeepsAnchors showroom.screen (floorFound ++ chairPlaced ++ chairAttached) := by
  have harmless : ∀ {screen : ARViewController} {event : Event},
      ¬ (screen.action event).Removes → (screen.action event).Removes →
        ∀ object ∈ screen.scene.loader.loadedObjects, (screen.scene.objects object).anchor = none :=
    fun none removes => absurd removes none
  refine guarded_cons rfl (fun _ member => (nomatch member)) ?_
  refine guarded_cons rfl (harmless id) ?_
  refine guarded_cons rfl (harmless id) ?_
  refine guarded_cons rfl (fun _ _ head => (nomatch head)) ?_
  refine guarded_cons rfl (harmless id) ?_
  refine guarded_cons rfl (harmless id) ?_
  refine guarded_cons rfl (harmless id) ?_
  refine guarded_cons rfl (harmless id) ?_
  refine guarded_cons rfl (harmless id) ?_
  refine guarded_cons rfl (fun object rest head => ?_) trivial
  cases head
  exact List.mem_singleton_self 0

/-- At the end of it the session has the anchor of the chair. -/
theorem anchorsOwned_chairAttached : ∃ final,
    run step showroom.screen (floorFound ++ chairPlaced ++ chairAttached) = .ok final ∧
      AnchorsOwned final.scene ∧ final.scene.session.anchors = [0] :=
  ⟨_, rfl,
    (anchorsOwned_of_guarded showroom (fun _ => rfl) _ guarded_chairAttached).1.atEnd rfl rfl, rfl⟩

/-- The chair is placed, anchored and removed. -/
theorem not_anchorsOwned : ¬ ∀ (opening : Opening) (events : List Event),
    Always step (fun screen => screen.scene.updateQueue = [] → AnchorsOwned screen.scene)
      opening.screen events := by
  intro owned
  have final := (owned showroom (floorFound ++ chairPlaced ++ chairAttached ++
    [.addVirtualObject showroomView []])).atEnd rfl
  -- Removal leaves the anchor in the session, where no object owns it.
  obtain ⟨object, member, -⟩ := ((final rfl).session 0).mp (by decide)
  cases member

end ARViewController

end FurnitureAR
