import FurnitureAR.SelectedObject

/-!
# Where a loaded object is placed

A tap looks for a place at the center of the screen and stores it in the object, whose model is
then loaded on other queues. When the main queue places the object in the end, the stored place
is still the one that this tap has found.
-/
namespace FurnitureAR

open Execution

/-- The place that an object remembers from the last look at its availability. -/
def VirtualObject.initialPlacement (object : VirtualObject) :
    Option ARRaycastQuery × Option ARRaycastResult :=
  (object.raycastQuery, object.mostRecentInitialPlacementResult)

/-- The place below the center of the screen. -/
def SceneView.initialPlacement (view : SceneView) :
    Option ARRaycastQuery × Option ARRaycastResult :=
  ((view.centerRaycast .horizontal).map Prod.fst, (view.centerRaycast .horizontal).map Prod.snd)

/-! ## The operations of the scene -/

namespace Scene

variable {scene next : Scene} {object : ObjectRef}

def initialPlacement (scene : Scene) (object : ObjectRef) :
    Option ARRaycastQuery × Option ARRaycastResult :=
  (scene.objects object).initialPlacement

@[simp]
theorem initialPlacement_withSession (scene : Scene) (session : ARSession) (object : ObjectRef) :
    (scene.withSession session).initialPlacement object = scene.initialPlacement object := rfl

@[simp]
theorem initialPlacement_withQueue (scene : Scene) (updateQueue : List UpdateClosure)
    (object : ObjectRef) :
    (scene.withQueue updateQueue).initialPlacement object = scene.initialPlacement object := rfl

theorem initialPlacement_modify_same (scene : Scene) (modified object : ObjectRef)
    (f : VirtualObject → VirtualObject)
    (same : ∀ virtualObject, (f virtualObject).initialPlacement = virtualObject.initialPlacement) :
    (scene.modify modified f).initialPlacement object = scene.initialPlacement object :=
  part_modify VirtualObject.initialPlacement scene modified f (same _) object

/-- The object remembers this place. -/
def remembering (place : Option ARRaycastQuery × Option ARRaycastResult)
    (object : VirtualObject) : VirtualObject :=
  { object with raycastQuery := place.1, mostRecentInitialPlacementResult := place.2 }

theorem updateObjectAvailability_eq (scene : Scene) (availableObjects : List ObjectRef)
    (view : SceneView) : scene.updateObjectAvailability availableObjects view =
      { scene with objects := fun object =>
          if object ∈ availableObjects then
            remembering view.initialPlacement (scene.objects object)
          else scene.objects object } := by
  -- All objects ask for the same alignment, so they all get the same answer.
  have answered : scene.updateObjectAvailability availableObjects view =
      availableObjects.foldl (fun scene object =>
        scene.modify object (remembering view.initialPlacement)) scene := by
    unfold updateObjectAvailability SceneView.initialPlacement VirtualObject.allowedAlignment
    cases view.centerRaycast .horizontal <;> rfl
  rw [answered]
  exact foldl_modify (remembering view.initialPlacement) (fun _ => rfl) availableObjects scene

theorem initialPlacement_updateObjectAvailability {availableObjects : List ObjectRef}
    (available : object ∈ availableObjects) (view : SceneView) :
    (scene.updateObjectAvailability availableObjects view).initialPlacement object =
      view.initialPlacement := by
  rw [initialPlacement, updateObjectAvailability_eq]
  simp only [available, if_true]
  rfl

theorem initialPlacement_removeAllVirtualObjects (scene : Scene) (object : ObjectRef) :
    scene.removeAllVirtualObjects.initialPlacement object = scene.initialPlacement object := by
  rw [initialPlacement, removeAllVirtualObjects_objects]
  split <;> rfl

theorem initialPlacement_runUpdate (ran : scene.runUpdate = some next) (object : ObjectRef) :
    next.initialPlacement object = scene.initialPlacement object := by
  obtain ⟨closure, rest, -, rfl⟩ := runUpdate_cases ran
  cases closure with
  | addOrUpdateAnchor anchored =>
    rw [execute, addOrUpdateAnchor_eq, initialPlacement_withSession, initialPlacement_modify_same]
    · exact scene.initialPlacement_withQueue rest object
    · exact fun _ => rfl
  | didUpdate anchor =>
    rw [execute]
    rcases (scene.withQueue rest).didUpdateAnchor_cases anchor with same | ⟨moved, -, -, same⟩
    · rw [same]
      rfl
    · rw [same, initialPlacement_modify_same]
      · exact scene.initialPlacement_withQueue rest object
      · exact fun _ => rfl
  | setFocusSquare state => rfl

theorem initialPlacement_stopTrackedRaycast (scene : Scene) (stopped object : ObjectRef) :
    (scene.stopTrackedRaycast stopped).initialPlacement object = scene.initialPlacement object := by
  rw [stopTrackedRaycast_eq, initialPlacement_modify_same]
  · rfl
  · exact fun _ => rfl

theorem initialPlacement_setDown (scene : Scene) (moved object : ObjectRef) (position : CGPoint)
    (view : SceneView) :
    (scene.setDown moved position view).initialPlacement object =
      scene.initialPlacement object := by
  unfold initialPlacement
  by_cases same : object = moved
  · subst same
    rw [setDown_objects]
    rfl
  · rw [setDown_objects_of_ne scene same]

/-- A placement whose guard holds, in terms of the place that the object remembers. -/
theorem placeAt_of_remembered {query : ARRaycastQuery} {result : ARRaycastResult}
    (remembered : scene.initialPlacement object = (some query, some result)) (view : SceneView) :
    scene.placeAt object query view =
      (scene.withSession
        (scene.session.trackedRaycast object (view.grantsTrackedRaycast query)).2).modify object
        fun virtualObject =>
        { virtualObject with
          simdWorldTransform := result.worldTransform
          raycast :=
            (scene.session.trackedRaycast object (view.grantsTrackedRaycast query)).1
          isHidden := false } := by
  have initial : (scene.objects object).mostRecentInitialPlacementResult = some result :=
    congrArg Prod.snd remembered
  simp only [placeAt, createTrackedRaycastAndSet3DPosition, initial, setTransform, modify,
    withSession, Function.update_self, Function.update_idem]

end Scene

/-! ## What a step does to the place -/

namespace ARViewController

variable {screen next : ARViewController} {event : Event} {object : ObjectRef} {scene : Scene}

/-- Only a tap on the button looks for a place. -/
theorem SceneChange.initialPlacement (change : SceneChange screen event scene)
    (noTap : ∀ view meanwhile, event ≠ .addVirtualObject view meanwhile) (object : ObjectRef) :
    scene.initialPlacement object = screen.scene.initialPlacement object := by
  cases change with
  | unchanged event => rfl
  | enqueued event closure noAnchor => rfl
  | hidden event isHidden =>
    rw [Scene.setVirtualContentHidden_eq]
    simp only [Scene.initialPlacement]
    split <;> rfl
  | reset event resets => rfl
  | removed view meanwhile nonempty =>
    exact screen.scene.initialPlacement_removeAllVirtualObjects object
  | closed => exact Scene.initialPlacement_removeAllVirtualObjects _ object
  | restarted passes => exact screen.scene.initialPlacement_removeAllVirtualObjects object
  | startedLoading view started empty => exact absurd rfl (noTap view [])
  | finishedLoading loaded content sceneOpens loading =>
    refine Scene.part_modify VirtualObject.initialPlacement screen.scene loaded _ ?_ object
    unfold VirtualObject.load
    split <;> rfl
  | placementFailed view discarded rest head refused =>
    rw [Scene.discardPlacement_eq]
    exact screen.scene.initialPlacement_removeAllVirtualObjects object
  | placed view placed rest query head accepted =>
    obtain ⟨transform, same⟩ := screen.scene.placeAt_eq placed query view
    rw [same, Scene.initialPlacement_modify_same]
    · exact screen.scene.initialPlacement_withSession _ object
    · exact fun _ => rfl
  | updated scene ran => exact Scene.initialPlacement_runUpdate ran object
  | positioned raycast results moved scene live handled =>
    obtain ⟨transform, same⟩ := Scene.setVirtualObject3DPosition_eq handled
    rw [same, Scene.initialPlacement_withQueue, Scene.initialPlacement_modify_same]
    exact fun _ => rfl
  | translated gesture view moved position state exceeded tracked =>
    obtain ⟨transform, same⟩ := screen.scene.translate_eq moved _ position view
    rw [same, Scene.initialPlacement_modify_same]
    · exact screen.scene.initialPlacement_stopTrackedRaycast moved object
    · exact fun _ => rfl
  | setDown gesture view moved state tracked =>
    exact screen.scene.initialPlacement_setDown moved object _ view
  | reshaped event moved after same =>
    refine Scene.part_modify VirtualObject.initialPlacement screen.scene moved _ ?_ object
    rw [same.same]
    rfl

/-- Background work can overtake the handler only of a tap that loads. -/
theorem addVirtualObject_of_not_loadsOnTap (idle : screen.loadsOnTap = false) (view : SceneView)
    (meanwhile : List BackgroundEvent) :
    screen.addVirtualObject view meanwhile = screen.addVirtualObject view [] := by
  unfold addVirtualObject
  split
  · rfl
  · split
    next empty =>
      have unselected : screen.selectedVirtualObject = none := by
        simpa [loadsOnTap, empty] using idle
      rw [unselected]
    · rfl

/-- A tap that does not load forgets no place. -/
theorem initialPlacement_tap (idle : screen.loadsOnTap = false) {view : SceneView}
    {meanwhile : List BackgroundEvent}
    (taken : screen.addVirtualObject view meanwhile = .ok next) (object : ObjectRef) :
    next.scene.initialPlacement object = screen.scene.initialPlacement object := by
  rw [addVirtualObject_of_not_loadsOnTap idle] at taken
  rcases (addVirtualObject_cases taken).2 with
    ⟨-, -, rfl⟩ | ⟨started, empty, selected, -⟩ | ⟨-, rfl⟩
  · rfl
  · simp [loadsOnTap, empty, selected] at idle
  · exact screen.scene.initialPlacement_removeAllVirtualObjects object

/-- A tap that loads looks for a place for the object. -/
theorem initialPlacement_loadingTap (loads : screen.loadsOnTap = true) {view : SceneView}
    {meanwhile : List BackgroundEvent}
    (taken : screen.addVirtualObject view meanwhile = .ok next) {object : ObjectRef}
    (selected : screen.selectedVirtualObject = some object) :
    next.scene.initialPlacement object = view.initialPlacement := by
  -- What overtakes the handler leaves all places alone.
  obtain ⟨middle, first, behind⟩ := InBackground.of_addVirtualObject taken
  have kept : next.scene.initialPlacement object = middle.scene.initialPlacement object := by
    rw [Scene.initialPlacement, behind.objects]
    rfl
  rw [kept]
  have empty : screen.scene.loader.loadedObjects = [] := by
    simp only [loadsOnTap, Bool.and_eq_true, List.isEmpty_iff] at loads
    exact loads.1
  rcases (addVirtualObject_cases first).2 with
    ⟨-, unselected, -⟩ | ⟨started, -, started', rfl⟩ | ⟨loaded, -⟩
  · cases unselected.symm.trans selected
  · have same : started = object := Option.some.inj (started'.symm.trans selected)
    have available : object ∈ screen.availableObjects := by
      unfold selectedVirtualObject at selected
      obtain ⟨objectId, -, found⟩ := Option.bind_eq_some_iff.mp selected
      exact List.mem_of_find?_eq_some found
    exact Scene.initialPlacement_updateObjectAvailability available view
  · exact absurd empty loaded

end ARViewController

/-! ## Work in progress -/

/-- Only the start of a load brings work to an idle cycle. -/
theorem LoadCycle.Step.starts_of_idle {cycle next : LoadCycle} {action : LoadCycle.Action}
    (taken : cycle.Step action next) (idle : cycle.inProgress = []) :
    next.inProgress = [] ∨ ∃ object, action = .start object := by
  have stages := idle
  simp only [inProgress, List.append_eq_nil_iff] at stages
  obtain ⟨⟨noLoading, noPreparing⟩, noPlacing⟩ := stages
  cases taken with
  | start object enabled empty => exact .inr ⟨object, rfl⟩
  | finish object member => simp [noLoading] at member
  | prepare object member => simp [noPreparing] at member
  | place object rest head => simp [noPlacing] at head
  | discard object rest head => simp [noPlacing] at head
  | other | remove | close | reset | restart | coolDown => exact .inl idle

namespace ARViewController

variable {screen next : ARViewController} {event : Event}

theorem idle_kept (idle : screen.loadCycle.inProgress = [])
    (noLoad : ∀ view meanwhile, event = .addVirtualObject view meanwhile →
      screen.loadsOnTap = false) (taken : step screen event = .ok next) :
    next.loadCycle.inProgress = [] := by
  have alone : ∃ event', event'.Undisturbed ∧ step screen event' = .ok next ∧
      ∀ object, screen.action event' ≠ .start object := by
    cases event with
    | addVirtualObject view meanwhile =>
      have still := noLoad view meanwhile rfl
      -- A tap that does not load behaves as if nothing overtook it.
      refine ⟨.addVirtualObject view [], rfl, ?_, fun object start => ?_⟩
      · rw [← taken]
        exact (addVirtualObject_of_not_loadsOnTap still view meanwhile).symm
      · simp only [action] at start
        split at start
        next empty =>
          split at start
          next other selected => simp [loadsOnTap, empty, selected] at still
          · cases start
        · cases start
    | _ =>
      refine ⟨_, by trivial, taken, fun object start => ?_⟩
      obtain ⟨view, meanwhile, tap, -⟩ := tap_of_start start
      cases tap
  obtain ⟨event', undisturbed, same, noStart⟩ := alone
  rcases (step_loadCycle undisturbed same).starts_of_idle idle with still | ⟨object, start⟩
  · exact still
  · exact absurd start (noStart object)

/-! ## Whole runs -/

/-- The observer remembers what the frameworks answered to the last tap that started loading. -/
def observeTap (tapped : Option SceneView) (screen : ARViewController) (event : Event)
    (_ : ARViewController) : Option SceneView :=
  match event with
  | .addVirtualObject view _ => if screen.loadsOnTap then some view else tapped
  | _ => tapped

abbrev TapHistory := Observed ARViewController (Option SceneView)

/-- The object of the screen still remembers the place that the last such tap has found. -/
structure RemembersTap (opening : Opening) (history : TapHistory) : Prop where
  stays : StaysWithOwn opening history.state
  idle : history.record = none → history.state.loadCycle.inProgress = []
  remembered : ∀ tapped, history.record = some tapped → ∀ object, opening.IsOwn object →
    history.state.scene.initialPlacement object = tapped.initialPlacement

theorem RemembersTap.preserved {opening : Opening} {tapped : Option SceneView}
    (inv : RemembersTap opening ⟨screen, tapped⟩) (taken : step screen event = .ok next) :
    RemembersTap opening ⟨next, observeTap tapped screen event next⟩ := by
  have stays := inv.stays.preserved screen event next taken
  have kept : (∀ view meanwhile, event = .addVirtualObject view meanwhile →
      screen.loadsOnTap = false) → ∀ object,
      next.scene.initialPlacement object = screen.scene.initialPlacement object := by
    intro noLoad object
    cases event with
    | addVirtualObject view meanwhile =>
      exact initialPlacement_tap (noLoad view meanwhile rfl) taken object
    | _ => exact (step_scene (by trivial) taken).initialPlacement (by simp) object
  -- A tap that loads renews the place, and everything else keeps it.
  by_cases loading : (∃ view meanwhile, event = .addVirtualObject view meanwhile) ∧
      screen.loadsOnTap = true
  · obtain ⟨⟨view, meanwhile, rfl⟩, loads⟩ := loading
    refine ⟨stays, by simp [observeTap, loads], fun answered recorded object own => ?_⟩
    have same : answered = view := by
      simpa [observeTap, loads, eq_comm] using recorded
    rw [same]
    exact initialPlacement_loadingTap loads taken (inv.stays.selected.trans own)
  · have noLoad : ∀ view meanwhile, event = .addVirtualObject view meanwhile →
        screen.loadsOnTap = false := by
      intro view meanwhile tap
      rw [← Bool.not_eq_true]
      exact fun loads => loading ⟨⟨view, meanwhile, tap⟩, loads⟩
    have same : observeTap tapped screen event next = tapped := by
      cases event with
      | addVirtualObject view meanwhile => simp [observeTap, noLoad view meanwhile rfl]
      | _ => rfl
    rw [same]
    exact ⟨stays, fun none => idle_kept (inv.idle none) noLoad taken,
      fun answered recorded object own =>
        (kept noLoad object).trans (inv.remembered answered recorded object own)⟩

/-- The end of a load, in terms of what the frameworks answered when it was started and of what
they answer now. -/
def EndsAsTapped (tapped view : SceneView) (object : ObjectRef) (scene next : Scene) : Prop :=
  match tapped.centerRaycast .horizontal with
  | some (query, result) =>
    if scene.focusSquare = .initializing then next = scene.discardPlacement object
    else
      let (raycast, session) :=
        scene.session.trackedRaycast object (view.grantsTrackedRaycast query)
      next = (scene.withSession session).modify object fun virtualObject =>
        { virtualObject with
          simdWorldTransform := result.worldTransform, raycast := raycast, isHidden := false }
  -- Without a place at the time of the tap there is none later.
  | none => next = scene.discardPlacement object

theorem endsAsTapped {tapped view : SceneView} {object : ObjectRef} {rest : List MainClosure}
    (head : screen.dispatch.mainQueue = .placeLoadedObject object :: rest)
    (remembered : screen.scene.initialPlacement object = tapped.initialPlacement)
    (taken : step screen (.mainQueue view) = .ok next) :
    EndsAsTapped tapped view object screen.scene next.scene := by
  have query : (screen.scene.objects object).raycastQuery =
      (tapped.centerRaycast .horizontal).map Prod.fst := congrArg Prod.fst remembered
  -- Without a query the guard of `placeVirtualObject` fails.
  have discarded : screen.scene.placementQuery object = none →
      next.scene = screen.scene.discardPlacement object := by
    intro refused
    simp only [step, runMain, head] at taken
    cases taken
    simp only [placeVirtualObject, hideObjectLoadingUI, setCloseButtonImages, refused]
  unfold EndsAsTapped
  cases found : tapped.centerRaycast .horizontal with
  | none =>
    apply discarded
    rw [Scene.placementQuery, query, found]
    split <;> rfl
  | some place =>
    dsimp only
    split
    next initializing =>
      apply discarded
      rw [Scene.placementQuery, if_pos initializing]
    next detecting =>
      have accepted : screen.scene.placementQuery object = some place.1 := by
        rw [Scene.placementQuery, if_neg detecting, query, found]
        rfl
      rw [scene_of_placement head accepted taken]
      apply Scene.placeAt_of_remembered
      rw [remembered, SceneView.initialPlacement, found]
      rfl

/-- Whenever a load ends, its object is placed where the tap that started it pointed, or the
placement is discarded. -/
def PlacesWhereTapped (opening : Opening) (history : TapHistory) (event : Event) : Prop :=
  ∀ view object rest next, event = .mainQueue view →
    history.state.dispatch.mainQueue = .placeLoadedObject object :: rest →
      step history.state event = .ok next → opening.IsOwn object ∧
        ∃ tapped, history.record = some tapped ∧
          EndsAsTapped tapped view object history.state.scene next.scene

theorem loads_placed_where_tapped (opening : Opening) (events : List Event) :
    Guarded (observing step observeTap) (PlacesWhereTapped opening) ⟨opening.screen, none⟩
      events := by
  have initial : RemembersTap opening ⟨opening.screen, none⟩ :=
    ⟨staysWithOwn_opening opening, fun _ => rfl, fun _ recorded => nomatch recorded⟩
  refine guarded_of_invariant ?_ ?_ initial events
  · rintro ⟨screen, tapped⟩ event after inv taken
    obtain ⟨next, done, rfl⟩ := observing_cases taken
    exact inv.preserved done
  · rintro ⟨screen, tapped⟩ event after inv - view object rest next rfl head done
    have head : screen.dispatch.mainQueue = .placeLoadedObject object :: rest := head
    have progress : object ∈ screen.loadCycle.inProgress := by
      simp [LoadCycle.inProgress, loadCycle, head, MainClosure.placement]
    have own := inv.stays.confined.progress object progress
    refine ⟨own, ?_⟩
    cases recorded : tapped with
    | none =>
      -- Nothing is placed before the first tap that loads.
      rw [inv.idle recorded] at progress
      cases progress
    | some answered =>
      exact ⟨answered, rfl, endsAsTapped head (inv.remembered answered recorded object own) done⟩

end ARViewController

end FurnitureAR
