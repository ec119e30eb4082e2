import FurnitureAR.ARViewController

/-!
# What a step of the screen can do

Every step is taken apart once: into what it does to the shared scene, and, in
`FurnitureAR.LoadCycle`, into what it does to the loading cycle. Background work that
overtakes a tap is shown to be as good as background work that follows it.
-/
namespace FurnitureAR

open Execution

/-! ## What accepted events do

The program never sees the others: each handler is taken apart here, and nowhere else.
-/

namespace ARViewController

variable {screen next : ARViewController}

theorem loaded_cases {object : ObjectRef} {content : ModelContent} {sceneOpens : Bool}
    (taken : screen.background (.loaded object content sceneOpens) = .ok next) :
    object ∈ screen.dispatch.loading ∧
      next = { screen with
        scene := screen.scene.finishLoading object content
        dispatch := { screen.dispatch with
          loading := screen.dispatch.loading.erase object
          preparing := screen.dispatch.preparing ++ [object] } } := by
  simp only [background] at taken
  split at taken
  next loading =>
    split at taken
    · exact ⟨loading, (Except.ok.inj taken).symm⟩
    -- A scene that does not open stops the program.
    · cases taken
  · cases taken

theorem prepared_cases {object : ObjectRef}
    (taken : screen.background (.prepared object) = .ok next) :
    object ∈ screen.dispatch.preparing ∧
      next = { screen with
        dispatch := { screen.dispatch with
          preparing := screen.dispatch.preparing.erase object
          mainQueue := screen.dispatch.mainQueue ++ [.placeLoadedObject object] } } := by
  simp only [background] at taken
  split at taken
  next preparing => exact ⟨preparing, (Except.ok.inj taken).symm⟩
  · cases taken

theorem updateQueue_cases (taken : screen.runUpdate = .ok next) :
    ∃ scene, screen.scene.runUpdate = some scene ∧ next = { screen with scene := scene } := by
  unfold runUpdate at taken
  split at taken
  next scene ran => exact ⟨scene, ran, (Except.ok.inj taken).symm⟩
  · cases taken

theorem coolDownElapsed_cases (taken : screen.coolDownElapsed = .ok next) :
    ∃ pending, screen.dispatch.coolDowns = pending + 1 ∧
      next = { screen with
        dispatch := { screen.dispatch with coolDowns := pending }
        isRestartAvailable := true
        isUpperControlsViewHidden := false } := by
  unfold coolDownElapsed at taken
  split at taken
  · cases taken
  next pending left => exact ⟨pending, left, (Except.ok.inj taken).symm⟩

theorem tap_cases {hitTestResults : List SceneNode}
    (taken : screen.tap hitTestResults = .ok next) :
    next = { screen with interaction := screen.interaction.didTap hitTestResults } := by
  unfold tap at taken
  split at taken
  · exact (Except.ok.inj taken).symm
  -- Nodes that have been removed are not found by hit tests.
  · cases taken

theorem restartSessionTapped_cases (taken : screen.restartSessionTapped = .ok next) :
    next = { screen with isErrorPresented := false }.resetTracking := by
  unfold restartSessionTapped at taken
  split at taken
  · exact (Except.ok.inj taken).symm
  · cases taken

theorem timerFired_cases {timer : TimerRef} (taken : screen.timerFired timer = .ok next) :
    ∃ status, screen.statusViewController.timerFired timer = some status ∧
      next = { screen with statusViewController := status } := by
  unfold timerFired at taken
  split at taken
  next status fired => exact ⟨status, fired, (Except.ok.inj taken).symm⟩
  · cases taken

theorem orCrash_ok {α : Type} {computed : Except FatalError α} {value : α}
    (done : orCrash computed = .ok value) : computed = .ok value := by
  cases computed with
  | error error => cases done
  | ok result =>
    cases done
    rfl

theorem trackedRaycastUpdated_cases {raycast : RaycastRef} {results : List ARRaycastResult}
    (taken : screen.trackedRaycastUpdated raycast results = .ok next) :
    ∃ object scene, screen.scene.session.raycasts raycast = some object ∧
      screen.scene.setVirtualObject3DPosition results object = .ok scene ∧
      next = { screen with scene := scene } := by
  unfold trackedRaycastUpdated at taken
  split at taken
  · cases taken
  next object live =>
    obtain ⟨scene, handled, taken⟩ := bind_ok taken
    exact ⟨object, scene, live, orCrash_ok handled, (Except.ok.inj taken).symm⟩

/-- The recognizer and the hit tests let a pan event through to its handler. -/
structure Pans (screen : ARViewController) (gesture : PanGesture) (view : SceneView)
    (next : ARViewController) : Prop where
  recognized : screen.recognizing .pan gesture.state = .ok next.recognized
  hittable : gesture.touches.areHittable screen.scene = true
  scene : next.scene = (screen.interaction.didPan screen.scene gesture view).1
  interaction : next.interaction = (screen.interaction.didPan screen.scene gesture view).2.1
  same : next = { screen with
    scene := next.scene, interaction := next.interaction, recognized := next.recognized }

theorem pan_cases {gesture : PanGesture} {view : SceneView}
    (taken : screen.pan gesture view = .ok next) : Pans screen gesture view next := by
  obtain ⟨after, recognized, taken⟩ := bind_ok taken
  split at taken
  next hittable =>
    cases taken
    exact ⟨recognized, hittable, rfl, rfl, rfl⟩
  · cases taken

/-- The effect of a tap that starts loading, before any of the background work is done. -/
def startLoading (screen : ARViewController) (view : SceneView) (object : ObjectRef) :
    ARViewController :=
  let screen := { screen with
    scene := screen.scene.updateObjectAvailability screen.availableObjects view }
  (screen.dispatchLoading object).displayObjectLoadingUI

/-- A tap on the enabled button finds no furniture to load, starts loading, or removes. -/
theorem addVirtualObject_cases {view : SceneView}
    (taken : screen.addVirtualObject view [] = .ok next) :
    screen.addVirtualObjectButton.isEnabled = true ∧
      (screen.scene.loader.loadedObjects = [] ∧ screen.selectedVirtualObject = none ∧
          next = { screen with
            statusViewController := screen.statusViewController.showMessage
              "Не виявлено ідентифікаційного номера" true } ∨
        (∃ object, screen.scene.loader.loadedObjects = [] ∧
          screen.selectedVirtualObject = some object ∧ next = screen.startLoading view object) ∨
        screen.scene.loader.loadedObjects ≠ [] ∧
          next = { screen with
            scene := screen.scene.removeAllVirtualObjects }.setAddButtonImages) := by
  unfold addVirtualObject at taken
  split at taken
  · cases taken
  next pressed =>
    refine ⟨by simpa using pressed, ?_⟩
    split at taken
    next empty =>
      have nothing : screen.scene.loader.loadedObjects = [] := by simpa using empty
      split at taken
      next unselected => exact .inl ⟨nothing, unselected, (Except.ok.inj taken).symm⟩
      next object selected =>
        exact .inr (.inl ⟨object, nothing, selected, (Except.ok.inj taken).symm⟩)
    next loaded => exact .inr (.inr ⟨by simpa using loaded, (Except.ok.inj taken).symm⟩)

end ARViewController

/-! ## Background work during a tap -/

namespace ARViewController

theorem background_displayObjectLoadingUI (screen : ARViewController) (event : BackgroundEvent) :
    (screen.background event).map displayObjectLoadingUI =
      screen.displayObjectLoadingUI.background event := by
  cases event with
  | loaded object content sceneOpens =>
    by_cases loading : object ∈ screen.dispatch.loading <;> cases sceneOpens <;>
      simp [background, displayObjectLoadingUI, loading, Except.map]
  | prepared object =>
    by_cases preparing : object ∈ screen.dispatch.preparing <;>
      simp [background, displayObjectLoadingUI, preparing, Except.map]

theorem run_displayObjectLoadingUI (screen : ARViewController) (events : List BackgroundEvent) :
    (run background screen events).map displayObjectLoadingUI =
      run background screen.displayObjectLoadingUI events := by
  induction events generalizing screen with
  | nil => rfl
  | cons event events ih =>
    rw [run_cons, run_cons, ← background_displayObjectLoadingUI]
    cases screen.background event with
    | error reason => rfl
    | ok next => exact ih next

theorem background_isRestartAvailable {screen next : ARViewController} {event : BackgroundEvent}
    (taken : screen.background event = .ok next) :
    next.isRestartAvailable = screen.isRestartAvailable := by
  cases event with
  | loaded object content sceneOpens => rw [(loaded_cases taken).2]
  | prepared object => rw [(prepared_cases taken).2]

/-- Work that overtakes the handler of a tap leads to the same state as work that follows
it, so that a tap that starts loading may be taken to run undisturbed. -/
theorem addVirtualObject_meanwhile {screen next : ARViewController} {view : SceneView}
    {meanwhile : List BackgroundEvent}
    (taken : screen.addVirtualObject view meanwhile = .ok next) :
    ∃ middle, screen.addVirtualObject view [] = .ok middle ∧
      (next = middle ∨
        middle.isRestartAvailable = false ∧ run background middle meanwhile = .ok next) := by
  unfold addVirtualObject at taken ⊢
  split at taken
  · cases taken
  next enabled =>
    rw [if_neg enabled]
    split at taken
    next empty =>
      rw [if_pos empty]
      cases selected : screen.selectedVirtualObject with
      | none =>
        simp only [selected] at taken
        exact ⟨next, taken, .inl rfl⟩
      | some object =>
        simp only [selected, loadVirtualObject, run_displayObjectLoadingUI] at taken ⊢
        exact ⟨_, rfl, .inr ⟨rfl, taken⟩⟩
    next loaded =>
      rw [if_neg loaded]
      exact ⟨next, taken, .inl rfl⟩

end ARViewController

/-- The first closure of the main queue runs. It leaves the gestures as they are, apart from the
selected object. -/
structure RunsMain (screen : ARViewController) (next : ARViewController) : Prop where
  queue : ∃ closure, screen.dispatch.mainQueue = closure :: next.dispatch.mainQueue
  recognized : next.recognized = screen.recognized
  trackedObject : next.interaction.trackedObject = screen.interaction.trackedObject
  position :
    next.interaction.currentTrackingPosition = screen.interaction.currentTrackingPosition

theorem ARViewController.runMain_cases {screen next : ARViewController} {view : SceneView}
    (taken : screen.runMain view = .ok next) : RunsMain screen next := by
  unfold runMain at taken
  split at taken
  · cases taken
  next closure rest queue =>
    cases taken
    cases closure with
    | placeLoadedObject object =>
      simp only [placeVirtualObject]
      split <;> exact ⟨⟨_, queue⟩, rfl, rfl, rfl⟩
    | updateFocusSquare isObjectVisible =>
      dsimp only [updateFocusSquare]
      split <;> split <;> split <;> exact ⟨⟨_, queue⟩, rfl, rfl, rfl⟩
    | surfaceDetected => exact ⟨⟨_, queue⟩, rfl, rfl, rfl⟩
    | displayErrorMessage => exact ⟨⟨_, queue⟩, rfl, rfl, rfl⟩

/-- What is the same after background work: it loads models below their objects, and sends
placements to the main queue. -/
structure InBackground (before after : ARViewController) : Prop where
  objects : ∀ object, after.scene.objects object =
    { before.scene.objects object with childNodes := (after.scene.objects object).childNodes }
  session : after.scene.session = before.scene.session
  updateQueue : after.scene.updateQueue = before.scene.updateQueue
  loadedObjects : after.scene.loader.loadedObjects = before.scene.loader.loadedObjects
  mainQueue : ∃ placements : List ObjectRef, after.dispatch.mainQueue =
    before.dispatch.mainQueue ++ placements.map .placeLoadedObject
  interaction : after.interaction = before.interaction
  recognized : after.recognized = before.recognized
  statusViewController : after.statusViewController = before.statusViewController

namespace InBackground

theorem refl (screen : ARViewController) : InBackground screen screen :=
  ⟨fun _ => rfl, rfl, rfl, rfl, ⟨[], (List.append_nil _).symm⟩, rfl, rfl, rfl⟩

theorem trans {first second third : ARViewController} (one : InBackground first second)
    (other : InBackground second third) : InBackground first third where
  objects object := by rw [other.objects, one.objects]
  session := other.session.trans one.session
  updateQueue := other.updateQueue.trans one.updateQueue
  loadedObjects := other.loadedObjects.trans one.loadedObjects
  mainQueue := by
    obtain ⟨early, before⟩ := one.mainQueue
    obtain ⟨late, after⟩ := other.mainQueue
    exact ⟨early ++ late, by rw [after, before, List.append_assoc, List.map_append]⟩
  interaction := other.interaction.trans one.interaction
  recognized := other.recognized.trans one.recognized
  statusViewController := other.statusViewController.trans one.statusViewController

theorem of_background {screen next : ARViewController} {event : BackgroundEvent}
    (taken : screen.background event = .ok next) : InBackground screen next := by
  cases event with
  | loaded object content sceneOpens =>
    obtain ⟨-, rfl⟩ := ARViewController.loaded_cases taken
    refine ⟨fun other => ?_, rfl, rfl, rfl, ⟨[], (List.append_nil _).symm⟩, rfl, rfl, rfl⟩
    simp only [Scene.finishLoading, Scene.modify_objects, VirtualObject.load]
    split
    next same =>
      rw [same]
      split <;> rfl
    next => rfl
  | prepared object =>
    obtain ⟨-, rfl⟩ := ARViewController.prepared_cases taken
    exact ⟨fun _ => rfl, rfl, rfl, rfl, ⟨[object], rfl⟩, rfl, rfl, rfl⟩

theorem of_run {screen final : ARViewController} {events : List BackgroundEvent}
    (finished : run ARViewController.background screen events = .ok final) :
    InBackground screen final := by
  have always : Always ARViewController.background (InBackground screen) screen events :=
    always_of_invariant (fun _ _ _ same taken => same.trans (of_background taken))
      (refl screen) events
  exact always.atEnd finished

/-- Work that overtakes a tap adds nothing else to it. -/
theorem of_addVirtualObject {screen next : ARViewController} {view : SceneView}
    {meanwhile : List BackgroundEvent}
    (taken : screen.addVirtualObject view meanwhile = .ok next) :
    ∃ middle, screen.addVirtualObject view [] = .ok middle ∧ InBackground middle next := by
  obtain ⟨middle, first, rfl | ⟨-, rest⟩⟩ := ARViewController.addVirtualObject_meanwhile taken
  · exact ⟨next, first, refl next⟩
  · exact ⟨middle, first, of_run rest⟩

end InBackground

/-- No background work overtakes the handler of the event. -/
def Event.Undisturbed : Event → Prop
  | .addVirtualObject _ meanwhile => meanwhile = []
  | _ => True

/-- To see what a step leads to, look at handlers that background work does not overtake, and at
what that work adds. -/
theorem ARViewController.of_undisturbed {screen : ARViewController}
    {P : Event → ARViewController → Prop}
    (alone : ∀ event next, event.Undisturbed → step screen event = .ok next → P event next)
    (behind : ∀ view meanwhile middle next, InBackground middle next →
      P (.addVirtualObject view []) middle → P (.addVirtualObject view meanwhile) next)
    {event : Event} {next : ARViewController} (taken : step screen event = .ok next) :
    P event next := by
  cases event with
  | addVirtualObject view meanwhile =>
    obtain ⟨middle, first, same⟩ := InBackground.of_addVirtualObject taken
    exact behind view meanwhile middle next same (alone _ middle rfl first)
  | _ => exact alone _ next (by trivial) taken

/-- To see that steps preserve an invariant, look at handlers that background work does not
overtake, provided that the guard lets background work happen after a tap. -/
theorem ARViewController.preserved_of_undisturbed {Inv : ARViewController → Prop}
    {guard : ARViewController → Event → Prop}
    (sameGuard : ∀ screen view meanwhile, guard screen (.addVirtualObject view meanwhile) →
      guard screen (.addVirtualObject view []))
    (free : ∀ screen event, screen.isRestartAvailable = false → guard screen (.background event))
    (undisturbed : ∀ screen event next, event.Undisturbed → Inv screen → guard screen event →
      step screen event = .ok next → Inv next)
    (screen : ARViewController) (event : Event) (next : ARViewController) (inv : Inv screen)
    (allowed : guard screen event) (taken : step screen event = .ok next) : Inv next := by
  -- A disturbed tap is an undisturbed one, followed by the work that overtook it.
  by_cases alone : event.Undisturbed
  · exact undisturbed screen event next alone inv allowed taken
  · cases event with
    | addVirtualObject view meanwhile =>
      obtain ⟨middle, first, overtaken⟩ := addVirtualObject_meanwhile taken
      have between : Inv middle := undisturbed screen (.addVirtualObject view []) _ rfl inv
        (sameGuard screen view meanwhile allowed) first
      rcases overtaken with same | ⟨unavailable, rest⟩
      · rw [same]
        exact between
      · have preserved : ∀ screen event next,
            Inv screen ∧ screen.isRestartAvailable = false → background screen event = .ok next →
              Inv next ∧ next.isRestartAvailable = false := by
          rintro screen event next ⟨inv, unavailable⟩ done
          exact ⟨undisturbed screen (.background event) next trivial inv
            (free screen event unavailable) done,
            (background_isRestartAvailable done).trans unavailable⟩
        exact ((always_of_invariant preserved ⟨between, unavailable⟩ meanwhile).atEnd rest).1
    | _ => exact absurd trivial alone

/-! ## The shared scene -/

/-- Events that reset the session and do nothing to the objects. -/
def Event.ResetsOnly : Event → Prop
  | .viewDidAppear => True
  | .restartSessionTapped => True
  | _ => False

namespace ARViewController

/-- The guard of `restartExperience`. -/
def restartPasses (screen : ARViewController) : Bool :=
  screen.isRestartAvailable && !screen.scene.loader.isLoading

/-- The ways in which an undisturbed event can change the scene. -/
inductive SceneChange (screen : ARViewController) : Event → Scene → Prop where
  | unchanged (event : Event) : SceneChange screen event screen.scene
  | enqueued (event : Event) (closure : UpdateClosure)
      (noAnchor : ∀ object, closure ≠ .addOrUpdateAnchor object) :
      SceneChange screen event (screen.scene.enqueue closure)
  | hidden (event : Event) (isHidden : Bool) :
      SceneChange screen event (screen.scene.setVirtualContentHidden isHidden)
  | reset (event : Event) (resets : event.ResetsOnly) :
      SceneChange screen event
        { screen.scene with session := screen.scene.session.runResettingTracking }
  | removed (view : SceneView) (meanwhile : List BackgroundEvent)
      (loaded : screen.scene.loader.loadedObjects ≠ []) :
      SceneChange screen (.addVirtualObject view meanwhile) screen.scene.removeAllVirtualObjects
  | closed :
      SceneChange screen .viewWillDisappear
        { screen.scene with session := screen.scene.session.pause }.removeAllVirtualObjects
  | restarted (passes : screen.restartPasses = true) :
      SceneChange screen .coachingOverlayDidRequestSessionReset
        { screen.scene.removeAllVirtualObjects with
          session := screen.scene.removeAllVirtualObjects.session.runResettingTracking }
  | startedLoading (view : SceneView) (object : ObjectRef)
      (empty : screen.scene.loader.loadedObjects = []) :
      SceneChange screen (.addVirtualObject view [])
        ((screen.scene.updateObjectAvailability screen.availableObjects view).startLoading object)
  | finishedLoading (object : ObjectRef) (content : ModelContent) (sceneOpens : Bool)
      (loading : object ∈ screen.dispatch.loading) :
      SceneChange screen (.background (.loaded object content sceneOpens))
        (screen.scene.finishLoading object content)
  | placementFailed (view : SceneView) (object : ObjectRef) (rest : List MainClosure)
      (head : screen.dispatch.mainQueue = .placeLoadedObject object :: rest)
      (refused : screen.scene.placementQuery object = none) :
      SceneChange screen (.mainQueue view) (screen.scene.discardPlacement object)
  | placed (view : SceneView) (object : ObjectRef) (rest : List MainClosure)
      (query : ARRaycastQuery)
      (head : screen.dispatch.mainQueue = .placeLoadedObject object :: rest)
      (accepted : screen.scene.placementQuery object = some query) :
      SceneChange screen (.mainQueue view) (screen.scene.placeAt object query view)
  | updated (scene : Scene) (ran : screen.scene.runUpdate = some scene) :
      SceneChange screen .updateQueue scene
  | positioned (raycast : RaycastRef) (results : List ARRaycastResult) (object : ObjectRef)
      (scene : Scene) (live : screen.scene.session.raycasts raycast = some object)
      (handled : screen.scene.setVirtualObject3DPosition results object = .ok scene) :
      SceneChange screen (.trackedRaycastUpdated raycast results) scene
  | translated (gesture : PanGesture) (view : SceneView) (object : ObjectRef)
      (position : CGPoint) (state : gesture.state = .changed)
      (exceeded : gesture.isThresholdExceeded = true)
      (tracked : screen.interaction.trackedObject = some object) :
      SceneChange screen (.pan gesture view)
        (screen.scene.translate object screen.interaction.trackedObject position view)
  | setDown (gesture : PanGesture) (view : SceneView) (object : ObjectRef)
      (state : gesture.state = .ended)
      (tracked : screen.interaction.trackedObject = some object) :
      SceneChange screen (.pan gesture view)
        (screen.scene.setDown object
          (screen.interaction.updatedTrackingPosition screen.scene object gesture view).1 view)
  | reshaped (event : Event) (object : ObjectRef) (after : VirtualObject)
      (same : VirtualObject.Reshaped (screen.scene.objects object) after) :
      SceneChange screen event (screen.scene.modify object fun _ => after)

theorem scene_updateFocusSquare (screen : ARViewController) (isObjectVisible : Bool)
    (view : SceneView) : ∃ state, (screen.updateFocusSquare isObjectVisible view).scene =
      screen.scene.enqueue (.setFocusSquare state) := by
  unfold updateFocusSquare
  dsimp only
  split
  next result camera surface =>
    refine ⟨.detecting result (some camera), ?_⟩
    split <;> split <;> rfl
  next nothing =>
    refine ⟨.initializing, ?_⟩
    split <;> split <;> rfl

private theorem scene_runMain {screen next : ARViewController} {view : SceneView}
    (taken : screen.runMain view = .ok next) : SceneChange screen (.mainQueue view) next.scene := by
  unfold runMain at taken
  split at taken
  · cases taken
  next closure rest head =>
    cases taken
    cases closure with
    | placeLoadedObject object =>
      simp only [placeVirtualObject, hideObjectLoadingUI, setCloseButtonImages]
      -- The same guard decides here as in the source: state, query and result of the object.
      cases guard : screen.scene.placementQuery object with
      | none => exact .placementFailed view object rest head guard
      | some query => exact .placed view object rest query head guard
    | updateFocusSquare isObjectVisible =>
      obtain ⟨state, same⟩ := scene_updateFocusSquare
        { screen with dispatch := { screen.dispatch with mainQueue := rest } } isObjectVisible view
      rw [same]
      exact .enqueued _ _ (by simp)
    | surfaceDetected => exact .unchanged _
    | displayErrorMessage => exact .unchanged _

private theorem scene_background {screen next : ARViewController} {event : BackgroundEvent}
    (taken : screen.background event = .ok next) :
    SceneChange screen (.background event) next.scene := by
  cases event with
  | loaded object content sceneOpens =>
    obtain ⟨loading, rfl⟩ := loaded_cases taken
    -- The model is in, but the object waits for the main queue to be placed.
    exact .finishedLoading object content sceneOpens loading
  | prepared object =>
    obtain ⟨-, rfl⟩ := prepared_cases taken
    exact .unchanged _

/-- What is left of a rotation or pinch event when its handler is taken out. -/
structure Reshapes (screen : ARViewController) (kind : GestureKind) (state : GestureState)
    (touches : GestureTouches) (next : ARViewController) : Prop where
  hittable : touches.areHittable screen.scene = true
  recognized : screen.recognizing kind state = .ok next.recognized
  reshaping : screen.interaction.Reshaping screen.scene touches state next.scene next.interaction
  same : next = { screen with
    scene := next.scene, interaction := next.interaction, recognized := next.recognized }

theorem rotate_reshapes {screen next : ARViewController} {gesture : RotationGesture}
    (taken : screen.rotate gesture = .ok next) :
    Reshapes screen .rotation gesture.state gesture.touches next := by
  obtain ⟨after, recognized, taken⟩ := bind_ok taken
  split at taken
  next hittable =>
    obtain ⟨result, handled, taken⟩ := bind_ok taken
    cases taken
    have reshaping := VirtualObjectInteraction.didRotate_reshaping (orCrash_ok handled)
    exact ⟨hittable, recognized, reshaping, rfl⟩
  · cases taken

theorem pinch_reshapes {screen next : ARViewController} {gesture : PinchGesture}
    (taken : screen.pinch gesture = .ok next) :
    Reshapes screen .pinch gesture.state gesture.touches next := by
  obtain ⟨after, recognized, taken⟩ := bind_ok taken
  split at taken
  next hittable =>
    obtain ⟨result, handled, taken⟩ := bind_ok taken
    cases taken
    have reshaping := VirtualObjectInteraction.scaleObject_reshaping (orCrash_ok handled)
    exact ⟨hittable, recognized, reshaping, rfl⟩
  · cases taken

private theorem scene_of_reshapes {screen next : ARViewController} {kind : GestureKind}
    {state : GestureState} {touches : GestureTouches} (event : Event)
    (reshapes : Reshapes screen kind state touches next) :
    SceneChange screen event next.scene := by
  obtain ⟨-, -, reshaping, -⟩ := reshapes
  generalize next.scene = scene, next.interaction = interaction at reshaping ⊢
  cases reshaping with
  | began => exact .unchanged event
  | ignored untracked => exact .unchanged event
  | changed object after tracked reshaped => exact .reshaped event object after reshaped
  | finished lifted => exact .unchanged event

private theorem scene_pan {screen next : ARViewController} {gesture : PanGesture}
    {view : SceneView} (taken : screen.pan gesture view = .ok next) :
    SceneChange screen (.pan gesture view) next.scene := by
  rw [(pan_cases taken).scene]
  unfold VirtualObjectInteraction.didPan
  split
  · exact .unchanged _
  next changed =>
    split
    next exceeded =>
      split
      · exact .unchanged _
      next object tracked => exact .translated gesture view object _ changed exceeded tracked
    -- Below the threshold the object stays where it is.
    · exact .unchanged _
  next ended =>
    split
    · exact .unchanged _
    next object tracked => exact .setDown gesture view object ended tracked
  -- A cancelled pan only loses its object, and nothing sets that down.
  · exact .unchanged _

theorem recognizing_error {screen : ARViewController} {kind : GestureKind}
    {state : GestureState} {reason : Halt}
    (refused : screen.recognizing kind state = .error reason) : reason = .notDelivered := by
  unfold recognizing at refused
  split at refused
  all_goals
    first
    | cases refused; rfl
    | split at refused <;> cases refused; rfl

theorem recognized_of_changed {screen : ARViewController} {kind : GestureKind}
    {after : Option GestureKind} (accepted : screen.recognizing kind .changed = .ok after) :
    screen.recognized = some kind := by
  simp only [recognizing] at accepted
  split at accepted
  next same => exact same
  · cases accepted

/-- A pan that is over without setting anything down changes nothing in the scene. -/
theorem scene_of_panOver {screen next : ARViewController} {gesture : PanGesture}
    {view : SceneView} (lifted : gesture.state = .cancelled ∨
      gesture.state = .ended ∧ screen.interaction.trackedObject = none)
    (taken : step screen (.pan gesture view) = .ok next) : next.scene = screen.scene := by
  rw [(pan_cases taken).scene]
  rcases lifted with cancelled | ⟨ended, untracked⟩
  · simp only [VirtualObjectInteraction.didPan, cancelled]
  · simp only [VirtualObjectInteraction.didPan, ended, untracked]

/-- A pan that ends sets the tracked object down. -/
theorem scene_of_panEnded {screen next : ARViewController} {gesture : PanGesture}
    {view : SceneView} {object : ObjectRef} (ended : gesture.state = .ended)
    (tracked : screen.interaction.trackedObject = some object)
    (taken : step screen (.pan gesture view) = .ok next) :
    next.scene = screen.scene.setDown object
      (screen.interaction.updatedTrackingPosition screen.scene object gesture view).1 view := by
  rw [(pan_cases taken).scene]
  simp only [VirtualObjectInteraction.didPan, ended, tracked]

/-- A placement whose guard holds places the object. -/
theorem scene_of_placement {screen next : ARViewController} {view : SceneView}
    {object : ObjectRef} {rest : List MainClosure} {query : ARRaycastQuery}
    (head : screen.dispatch.mainQueue = .placeLoadedObject object :: rest)
    (accepted : screen.scene.placementQuery object = some query)
    (taken : step screen (.mainQueue view) = .ok next) :
    next.scene = screen.scene.placeAt object query view := by
  simp only [step, runMain, head] at taken
  cases taken
  simp only [placeVirtualObject, hideObjectLoadingUI, setCloseButtonImages, accepted]

/-- A step changes the scene in one of the listed ways. -/
theorem step_scene {screen next : ARViewController} {event : Event}
    (undisturbed : event.Undisturbed) (taken : step screen event = .ok next) :
    SceneChange screen event next.scene := by
  cases event with
  | viewDidAppear =>
    cases taken
    exact .reset _ trivial
  | viewWillDisappear =>
    cases taken
    exact .closed
  | addVirtualObject view meanwhile =>
    cases undisturbed
    rcases (addVirtualObject_cases taken).2 with
      ⟨-, -, rfl⟩ | ⟨object, empty, -, rfl⟩ | ⟨loaded, rfl⟩
    · exact .unchanged _
    · exact .startedLoading view object empty
    · exact .removed view [] loaded
  | background event => exact scene_background taken
  | mainQueue view => exact scene_runMain taken
  | updateQueue =>
    obtain ⟨scene, ran, rfl⟩ := updateQueue_cases taken
    exact .updated scene ran
  | coolDownElapsed =>
    obtain ⟨pending, -, rfl⟩ := coolDownElapsed_cases taken
    exact .unchanged _
  | trackedRaycastUpdated raycast results =>
    obtain ⟨object, scene, live, handled, rfl⟩ := trackedRaycastUpdated_cases taken
    exact .positioned raycast results object scene live handled
  | pan gesture view => exact scene_pan taken
  | rotate gesture => exact scene_of_reshapes _ (rotate_reshapes taken)
  | pinch gesture => exact scene_of_reshapes _ (pinch_reshapes taken)
  | tap hitTestResults =>
    cases tap_cases taken
    exact .unchanged _
  | coachingOverlayWillActivate =>
    cases taken
    exact .unchanged _
  | coachingOverlayDidDeactivate =>
    cases taken
    exact .unchanged _
  | coachingOverlayDidRequestSessionReset =>
    cases taken
    unfold restartExperience
    split
    -- A refused request changes nothing at all.
    next passes => exact .restarted passes
    next => exact .unchanged _
  | cameraDidChangeTrackingState trackingState =>
    cases taken
    cases trackingState with
    | notAvailable => exact .unchanged _
    | limited reason => exact .unchanged _
    | normal => exact .hidden _ false
  | sessionWasInterrupted =>
    cases taken
    -- Interruptions hide the content until tracking is normal again.
    exact .hidden _ true
  | sessionDidFail isARError =>
    cases taken
    cases isARError <;> exact .unchanged _
  | restartSessionTapped =>
    cases restartSessionTapped_cases taken
    exact .reset _ trivial
  | rendererUpdateAtTime isInFrustum =>
    cases taken
    exact .unchanged _
  | rendererDidAdd isPlaneAnchor =>
    cases taken
    cases isPlaneAnchor <;> exact .unchanged _
  | rendererDidUpdate anchor =>
    cases taken
    exact .enqueued _ _ (by simp)
  | timerFired timer =>
    obtain ⟨status, -, rfl⟩ := timerFired_cases taken
    exact .unchanged _

end ARViewController

/-! ## The tracked object -/

/-- What a gesture recognizer reports with the event. -/
def Event.gesture : Event → Option (GestureKind × GestureState × GestureTouches)
  | .pan gesture _ => some (.pan, gesture.state, gesture.touches)
  | .rotate gesture => some (.rotation, gesture.state, gesture.touches)
  | .pinch gesture => some (.pinch, gesture.state, gesture.touches)
  | _ => none

/-- Neither a gesture nor the end of the screen. -/
def Event.LeavesGestures (event : Event) : Prop :=
  event.gesture = none ∧ event ≠ .viewWillDisappear

namespace ARViewController

/-- The ways in which an event can change the tracked object and the recognized gesture. -/
inductive TrackingChange (screen : ARViewController) :
    Event → Option ObjectRef → Option GestureKind → Prop where
  | unchanged (event : Event) (other : event.LeavesGestures) :
      TrackingChange screen event screen.interaction.trackedObject screen.recognized
  | closed : TrackingChange screen .viewWillDisappear none screen.recognized
  | began (event : Event) (kind : GestureKind) (touches : GestureTouches)
      (gesture : event.gesture = some (kind, .began, touches)) (idle : screen.recognized = none)
      (hittable : touches.areHittable screen.scene = true) :
      TrackingChange screen event
        ((objectInteracting touches).or screen.interaction.trackedObject) (some kind)
  | changed (event : Event) (kind : GestureKind) (touches : GestureTouches)
      (gesture : event.gesture = some (kind, .changed, touches))
      (recognized : screen.recognized = some kind) :
      TrackingChange screen event screen.interaction.trackedObject screen.recognized
  | finished (event : Event) (kind : GestureKind) (state : GestureState)
      (touches : GestureTouches) (gesture : event.gesture = some (kind, state, touches))
      (lifted : state = .ended ∨ state = .cancelled) (recognized : screen.recognized = some kind) :
      TrackingChange screen event none none

/-- What all gesture handlers make of the tracked object. -/
def trackedAfter (tracked : Option ObjectRef) (touches : GestureTouches) :
    GestureState → Option ObjectRef
  | .began => (objectInteracting touches).or tracked
  | .changed => tracked
  | _ => none

theorem trackedObject_trackObject (interaction : VirtualObjectInteraction)
    (touches : GestureTouches) : (interaction.trackObject touches).trackedObject =
      (objectInteracting touches).or interaction.trackedObject := by
  unfold VirtualObjectInteraction.trackObject
  cases objectInteracting touches <;> rfl

/-- A recognizer's event, once it is accepted, changes both in one way. -/
private theorem tracking_of_gesture {screen next : ARViewController} {event : Event}
    {kind : GestureKind} {state : GestureState} {touches : GestureTouches}
    (gesture : event.gesture = some (kind, state, touches))
    (recognized : screen.recognizing kind state = .ok next.recognized)
    (hittable : touches.areHittable screen.scene = true)
    (tracked : next.interaction.trackedObject =
      trackedAfter screen.interaction.trackedObject touches state) :
    TrackingChange screen event next.interaction.trackedObject next.recognized := by
  rw [tracked]
  cases state with
  | began =>
    simp only [recognizing] at recognized
    split at recognized
    next idle =>
      rw [← Except.ok.inj recognized]
      exact .began event kind touches gesture idle hittable
    · cases recognized
  | changed =>
    simp only [recognizing] at recognized
    split at recognized
    next same =>
      rw [← Except.ok.inj recognized, ← same]
      exact .changed event kind touches gesture same
    · cases recognized
  | ended =>
    simp only [recognizing] at recognized
    split at recognized
    next same =>
      rw [← Except.ok.inj recognized]
      exact .finished event kind .ended touches gesture (.inl rfl) same
    · cases recognized
  | cancelled =>
    simp only [recognizing] at recognized
    split at recognized
    next same =>
      rw [← Except.ok.inj recognized]
      exact .finished event kind .cancelled touches gesture (.inr rfl) same
    · cases recognized
  -- No handler runs in these two states.
  | possible => cases recognized
  | failed => cases recognized

private theorem trackedObject_didPan (interaction : VirtualObjectInteraction) (scene : Scene)
    (gesture : PanGesture) (view : SceneView) :
    (interaction.didPan scene gesture view).2.1.trackedObject =
      trackedAfter interaction.trackedObject gesture.touches gesture.state := by
  unfold VirtualObjectInteraction.didPan
  cases gesture.state with
  -- `trackObject` keeps the old object where the touches find none.
  | began => exact trackedObject_trackObject interaction gesture.touches
  | changed =>
    dsimp only
    split
    · split <;> rfl
    · rfl
  | ended =>
    dsimp only
    split
    next untracked => exact untracked
    · rfl
  | _ => rfl

private theorem trackedObject_reshaping {interaction after : VirtualObjectInteraction}
    {scene next : Scene} {touches : GestureTouches} {state : GestureState}
    (reshaping : interaction.Reshaping scene touches state next after) :
    after.trackedObject = trackedAfter interaction.trackedObject touches state := by
  cases reshaping with
  | began => exact trackedObject_trackObject interaction touches
  | ignored untracked => rfl
  | changed object after tracked reshaped => rfl
  | finished state lifted =>
    cases state with
    | began => exact absurd rfl lifted.1
    | changed => exact absurd rfl lifted.2
    | _ => rfl

/-- A step changes the tracked object and the recognized gesture in one of the listed ways. -/
theorem step_tracking {screen next : ARViewController} {event : Event}
    (undisturbed : event.Undisturbed) (taken : step screen event = .ok next) :
    TrackingChange screen event next.interaction.trackedObject next.recognized := by
  cases event with
  | viewWillDisappear =>
    cases taken
    exact .closed
  | addVirtualObject view meanwhile =>
    cases undisturbed
    rcases (addVirtualObject_cases taken).2 with ⟨-, -, rfl⟩ | ⟨object, -, -, rfl⟩ | ⟨-, rfl⟩ <;>
      exact .unchanged _ ⟨rfl, by simp⟩
  | background event =>
    cases event with
    | loaded object content sceneOpens =>
      obtain ⟨-, rfl⟩ := loaded_cases taken
      exact .unchanged _ ⟨rfl, by simp⟩
    | prepared object =>
      obtain ⟨-, rfl⟩ := prepared_cases taken
      exact .unchanged _ ⟨rfl, by simp⟩
  | mainQueue view =>
    have runs := runMain_cases taken
    rw [runs.trackedObject, runs.recognized]
    exact .unchanged _ ⟨rfl, by simp⟩
  | updateQueue =>
    obtain ⟨scene, -, rfl⟩ := updateQueue_cases taken
    exact .unchanged _ ⟨rfl, by simp⟩
  | coolDownElapsed =>
    obtain ⟨pending, -, rfl⟩ := coolDownElapsed_cases taken
    exact .unchanged _ ⟨rfl, by simp⟩
  | trackedRaycastUpdated raycast results =>
    obtain ⟨object, scene, -, -, rfl⟩ := trackedRaycastUpdated_cases taken
    exact .unchanged _ ⟨rfl, by simp⟩
  | pan gesture view =>
    have pans := pan_cases taken
    have tracked := trackedObject_didPan screen.interaction screen.scene gesture view
    rw [← pans.interaction] at tracked
    exact tracking_of_gesture rfl pans.recognized pans.hittable tracked
  | rotate gesture =>
    obtain ⟨hittable, recognized, reshaping, -⟩ := rotate_reshapes taken
    exact tracking_of_gesture rfl recognized hittable (trackedObject_reshaping reshaping)
  | pinch gesture =>
    obtain ⟨hittable, recognized, reshaping, -⟩ := pinch_reshapes taken
    exact tracking_of_gesture rfl recognized hittable (trackedObject_reshaping reshaping)
  | tap hitTestResults =>
    cases tap_cases taken
    have same : (screen.interaction.didTap hitTestResults).trackedObject =
        screen.interaction.trackedObject := by
      -- A tap selects an object, but does not track it.
      unfold VirtualObjectInteraction.didTap
      split <;> rfl
    simp only [same]
    exact .unchanged _ ⟨rfl, by simp⟩
  | coachingOverlayDidRequestSessionReset =>
    cases taken
    unfold restartExperience
    split <;> exact .unchanged _ ⟨rfl, by simp⟩
  | cameraDidChangeTrackingState trackingState =>
    cases taken
    cases trackingState <;> exact .unchanged _ ⟨rfl, by simp⟩
  | sessionDidFail isARError =>
    cases taken
    cases isARError <;> exact .unchanged _ ⟨rfl, by simp⟩
  | restartSessionTapped =>
    cases restartSessionTapped_cases taken
    exact .unchanged _ ⟨rfl, by simp⟩
  | rendererDidAdd isPlaneAnchor =>
    cases taken
    cases isPlaneAnchor <;> exact .unchanged _ ⟨rfl, by simp⟩
  | timerFired timer =>
    obtain ⟨status, -, rfl⟩ := timerFired_cases taken
    exact .unchanged _ ⟨rfl, by simp⟩
  | viewDidAppear | coachingOverlayWillActivate | coachingOverlayDidDeactivate
  | sessionWasInterrupted | rendererUpdateAtTime | rendererDidUpdate =>
    cases taken
    exact .unchanged _ ⟨rfl, by simp⟩

end ARViewController

end FurnitureAR
