import FurnitureAR.FocusSquareAnimations
import FurnitureAR.FocusSquarePosition
import FurnitureAR.InitialPlacement

/-!
# The focus square on the screen

The screen drives its focus square from two queues: frames hide and unhide it on the main queue,
and send what they have found to the update queue, where it is assigned. This module puts the screen
and the square together, and shows that the square stands for what the frames have found.
-/
namespace FurnitureAR

open Execution

/-- What a frame finds, as the state of the focus square. -/
def SceneView.found (view : SceneView) : FocusSquare.State :=
  match view.surface with
  | some (result, camera) => .detecting result (some camera)
  | none => .initializing

/-- The state that a closure of `updateQueue` assigns. -/
def UpdateClosure.focusRequest : UpdateClosure → Option FocusSquare.State
  | .setFocusSquare state => some state
  | _ => none

/-! ## What a sequence of states makes of the square -/

namespace FocusSquare

open SlidingWindow

variable {geometry : Geometry} {square next : FocusSquare}

namespace State

def planeAnchor : State → Option AnchorIdentifier
  | .initializing => none
  | .detecting raycastResult _ => raycastResult.planeAnchor

/-- The position that the square is moved to when the state comes after `previous`. -/
def positionAfter (previous : State) : State → Option SIMD3
  | .initializing => none
  | .detecting raycastResult camera =>
    -- Assigning the state that the square has already moves nothing.
    if .detecting raycastResult camera = previous then none
    else some raycastResult.worldTransform.translation

/-- The positions that a sequence of states moves the square to. -/
def positions (previous : State) : List State → List SIMD3
  | [] => []
  | state :: states => (positionAfter previous state).toList ++ positions state states

theorem positions_concat (previous : State) (states : List State) (state : State) :
    positions previous (states ++ [state]) =
      positions previous states ++ (positionAfter (states.getLastD previous) state).toList := by
  induction states generalizing previous with
  | nil => simp [positions]
  | cons first states ih =>
    rw [List.cons_append, positions, ih, positions, List.append_assoc, List.getLastD_cons]

theorem positionAfter_self (state : State) : positionAfter state state = none := by
  cases state with
  | initializing => rfl
  | detecting raycastResult camera => simp [positionAfter]

end State

/-- The states that have been assigned determine where the square is and what it knows. -/
structure StandsFor (states : List State) (square : FocusSquare) : Prop where
  state : square.state = states.getLastD .initializing
  recent : square.recentFocusSquarePositions =
    latest windowSize (State.positions .initializing states)
  translation : square.simdTransform.translation =
    if square.state = .initializing then ⟨0, 0, -8 / 10⟩
    else SIMD3.average (latest windowSize (State.positions .initializing states))
  visited : ∀ plane, plane ∈ square.anchorsOfVisitedPlanes ↔
    ∃ state ∈ states, state.planeAnchor = some plane

/-- Nothing that the states determine has changed. -/
structure SameStand (before after : FocusSquare) : Prop where
  state : after.state = before.state
  place : StaysPut before after
  visited : after.anchorsOfVisitedPlanes = before.anchorsOfVisitedPlanes

theorem SameStand.refl (square : FocusSquare) : SameStand square square :=
  ⟨rfl, ⟨rfl, rfl⟩, rfl⟩

theorem SameStand.standsFor {states : List State} (same : SameStand square next)
    (stands : StandsFor states square) : StandsFor states next := by
  refine ⟨same.state.trans stands.state, same.place.recent.trans stands.recent, ?_, ?_⟩
  · rw [same.place.translation, same.state]
    exact stands.translation
  · rw [same.visited]
    exact stands.visited

theorem sameStand_hide : SameStand square square.hide := by
  refine ⟨?_, staysPut_hide, keepsVisits_hide.visited⟩
  unfold hide
  split <;> rfl

theorem sameStand_unhide : SameStand square square.unhide := by
  refine ⟨?_, staysPut_unhide, keepsVisits_unhide.visited⟩
  unfold unhide
  split <;> rfl

theorem sameStand_fadeFinished {key : FadeKey}
    (taken : square.step geometry (.fadeFinished key) = .ok next) : SameStand square next := by
  obtain rfl := fadeFinished_cases taken
  exact ⟨rfl, ⟨rfl, rfl⟩, rfl⟩

theorem sameStand_completed {index : Nat}
    (taken : square.step geometry (.completed index) = .ok next) : SameStand square next := by
  obtain ⟨completion, -, rfl⟩ := completed_cases taken
  cases completion <;> exact ⟨rfl, ⟨rfl, rfl⟩, rfl⟩

theorem translation_setState_initializing (new : State.initializing ≠ square.state) :
    (square.setState geometry .initializing).simdTransform.translation = ⟨0, 0, -8 / 10⟩ := by
  unfold setState displayAsBillboard
  dsimp only
  rw [if_neg new, staysPut_performOpenAnimation.translation, staysPut_unhide.translation]

theorem visited_setState (state : State) (new : state ≠ square.state) :
    (square.setState geometry state).anchorsOfVisitedPlanes =
      match state.planeAnchor with
      | some plane => square.anchorsOfVisitedPlanes.insert plane
      | none => square.anchorsOfVisitedPlanes := by
  have visits := @visit_step geometry square _ (.setState state) rfl
  cases state with
  | initializing =>
    obtain ⟨plane, atRest, visit, -⟩ | ⟨-, keeps⟩ := visits
    · cases visit
    · exact keeps.visited
  | detecting raycastResult camera =>
    simp only [visit, if_neg new, State.planeAnchor] at visits ⊢
    cases planeAnchor : raycastResult.planeAnchor with
    | some plane =>
      rw [planeAnchor] at visits
      obtain ⟨plane', atRest, visit, visits⟩ | ⟨visit, -⟩ := visits
      · cases visit
        exact visits.visited
      · cases visit
    | none =>
      rw [planeAnchor] at visits
      obtain ⟨plane', atRest, visit, -⟩ | ⟨-, keeps⟩ := visits
      · cases visit
      · exact keeps.visited

/-- One more state is assigned. -/
theorem StandsFor.setState {states : List State} (stands : StandsFor states square)
    (state : State) : StandsFor (states ++ [state]) (square.setState geometry state) := by
  have last : (states ++ [state]).getLastD .initializing = state := List.getLastD_concat ..
  by_cases repeated : state = square.state
  · -- Repeating a state is no change, and gives no new position.
    have same : State.positions .initializing (states ++ [state]) =
        State.positions .initializing states := by
      rw [State.positions_concat, ← stands.state, repeated, State.positionAfter_self]
      exact List.append_nil _
    constructor
    · rw [last, state_setState]
    · rw [same, repeated, setState_same]
      exact stands.recent
    · rw [same, repeated, setState_same]
      exact stands.translation
    · intro plane
      rw [repeated, setState_same, stands.visited]
      constructor
      · rintro ⟨earlier, member, visits⟩
        exact ⟨earlier, List.mem_append_left _ member, visits⟩
      · rintro ⟨earlier, member, visits⟩
        rcases List.mem_append.mp member with before | now
        · exact ⟨earlier, before, visits⟩
        · obtain rfl := List.mem_singleton.mp now
          rw [stands.state] at visits
          refine ⟨_, ?_, visits⟩
          -- The plane is that of the last state, so there is one.
          cases states with
          | nil => cases visits
          | cons first rest =>
            rw [List.getLastD_cons]
            exact List.getLastD_mem_cons
  · have visited := @visited_setState geometry square state repeated
    have planes : ∀ plane,
        plane ∈ (square.setState geometry state).anchorsOfVisitedPlanes ↔
          ∃ earlier ∈ states ++ [state], earlier.planeAnchor = some plane := by
      intro plane
      rw [visited]
      cases shown : state.planeAnchor with
      | some plane' => simp [stands.visited, shown, or_comm, eq_comm]
      | none => simp [stands.visited, shown]
    cases state with
    | initializing =>
      have same : State.positions .initializing (states ++ [.initializing]) =
          State.positions .initializing states := by
        rw [State.positions_concat]
        exact List.append_nil _
      constructor
      · rw [last, state_setState]
      · rw [same, recent_setState_initializing]
        exact stands.recent
      · rw [state_setState, if_pos rfl]
        exact translation_setState_initializing repeated
      · exact planes
    | detecting raycastResult camera =>
      have moved := @movedTo_setState geometry square raycastResult camera repeated
      have more : State.positions .initializing (states ++ [.detecting raycastResult camera]) =
          State.positions .initializing states ++ [raycastResult.worldTransform.translation] := by
        rw [State.positions_concat, ← stands.state, State.positionAfter, if_neg repeated]
        rfl
      -- What the window of the square has lost, the window of all positions has lost as well.
      obtain ⟨recent, translation⟩ := moved
      rw [stands.recent, latest_latest_append, ← more] at recent translation
      constructor
      · rw [last, state_setState]
      · exact recent
      · rw [state_setState, if_neg (by simp)]
        exact translation
      · exact planes

theorem standsFor_init : StandsFor [] (init geometry) := by
  -- The square before the initializer makes it a billboard.
  let square : FocusSquare := {
    segments := initialSegments
    positioningScale := size * scaleForClosedSquare
    isOnTop := true
    simdTransform := ⟨⟨0, 0, -8 / 10⟩, geometry.upright⟩ }
  have opened := @staysPut_performOpenAnimation square.unhide
  have visits := @keepsVisits_performOpenAnimation square.unhide
  constructor
  · rfl
  · exact opened.recent
  · exact opened.translation
  · intro plane
    simp only [List.not_mem_nil, false_and, exists_false, iff_false]
    exact List.not_mem_nil

end FocusSquare

/-! ## What the screen does about the square -/

namespace Scene

variable {scene next : Scene}

/-- The state of the square and the assignments that are under way. -/
def focus (scene : Scene) : FocusSquare.State × List FocusSquare.State :=
  (scene.focusSquare, scene.updateQueue.filterMap UpdateClosure.focusRequest)

theorem focus_enqueue (scene : Scene) (closure : UpdateClosure) :
    (scene.enqueue closure).focus =
      (scene.focus.1, scene.focus.2 ++ closure.focusRequest.toList) := by
  cases closure <;> simp [focus, enqueue, withQueue, UpdateClosure.focusRequest]

theorem focus_removeAllVirtualObjects (scene : Scene) :
    scene.removeAllVirtualObjects.focus = scene.focus := by
  rw [removeAllVirtualObjects_eq]
  rfl

theorem focus_setVirtualContentHidden (scene : Scene) (isHidden : Bool) :
    (scene.setVirtualContentHidden isHidden).focus = scene.focus := by
  rw [setVirtualContentHidden_eq]
  rfl

theorem focus_stopTrackedRaycast (scene : Scene) (object : ObjectRef) :
    (scene.stopTrackedRaycast object).focus = scene.focus := by
  rw [stopTrackedRaycast_eq]
  rfl

theorem focus_placeAt (scene : Scene) (object : ObjectRef) (query : ARRaycastQuery)
    (view : SceneView) : (scene.placeAt object query view).focus = scene.focus := by
  obtain ⟨transform, same⟩ := scene.placeAt_eq object query view
  rw [same]
  rfl

theorem focus_discardPlacement (scene : Scene) (object : ObjectRef) :
    (scene.discardPlacement object).focus = scene.focus := by
  rw [discardPlacement_eq]
  exact scene.focus_removeAllVirtualObjects

theorem focus_translate (scene : Scene) (object : ObjectRef) (trackedObject : Option ObjectRef)
    (position : CGPoint) (view : SceneView) :
    (scene.translate object trackedObject position view).focus = scene.focus := by
  obtain ⟨transform, same⟩ := scene.translate_eq object trackedObject position view
  rw [same]
  exact scene.focus_stopTrackedRaycast object

theorem focus_setDown (scene : Scene) (object : ObjectRef) (position : CGPoint)
    (view : SceneView) : (scene.setDown object position view).focus = scene.focus := by
  cases granted : view.grantsAt position with
  | true =>
    rw [setDown_granted granted]
    exact scene.focus_stopTrackedRaycast object
  | false =>
    rw [setDown_refused granted, anchorInPlace, focus_enqueue]
    -- Anchors are put into the same queue, and are no requests to the square.
    have stopped := scene.focus_stopTrackedRaycast object
    simpa [UpdateClosure.focusRequest, focus, modify] using stopped

theorem focus_setVirtualObject3DPosition {results : List ARRaycastResult} {object : ObjectRef}
    (handled : scene.setVirtualObject3DPosition results object = .ok next) :
    next.focus = scene.focus := by
  obtain ⟨transform, same⟩ := setVirtualObject3DPosition_eq handled
  rw [same]
  simp only [focus, withQueue, List.filterMap_append, modify]
  split <;> simp [UpdateClosure.focusRequest]

/-- The update queue is first in, first out. -/
theorem focus_runUpdate (ran : scene.runUpdate = some next) :
    ∃ closure rest, scene.updateQueue = closure :: rest ∧
      next.focus = (closure.focusRequest.getD scene.focusSquare,
        rest.filterMap UpdateClosure.focusRequest) := by
  obtain ⟨closure, rest, queue, rfl⟩ := runUpdate_cases ran
  refine ⟨closure, rest, queue, ?_⟩
  -- Only the assignment of a state is about the square.
  cases closure with
  | addOrUpdateAnchor object =>
    rw [execute, addOrUpdateAnchor_eq]
    rfl
  | didUpdate anchor =>
    rw [execute]
    rcases (scene.withQueue rest).didUpdateAnchor_cases anchor with same | ⟨object, -, -, same⟩
    · rw [same]
      rfl
    · rw [same]
      rfl
  | setFocusSquare state => rfl

end Scene

namespace ARViewController

variable {screen next : ARViewController}

/-- A frame is the next thing that the main queue deals with. -/
def handlesFrame (screen : ARViewController) : Option Bool :=
  match screen.dispatch.mainQueue with
  | .updateFocusSquare isObjectVisible :: _ => some isObjectVisible
  | _ => none

theorem focus_updateFocusSquare (screen : ARViewController) (isObjectVisible : Bool)
    (view : SceneView) : (screen.updateFocusSquare isObjectVisible view).scene.focus =
      (screen.scene.focus.1, screen.scene.focus.2 ++ [view.found]) := by
  have request : ∀ state, (screen.scene.enqueue (.setFocusSquare state)).focus =
      (screen.scene.focus.1, screen.scene.focus.2 ++ [state]) :=
    fun state => screen.scene.focus_enqueue (.setFocusSquare state)
  unfold updateFocusSquare SceneView.found
  cases view.surface with
  | some found =>
    dsimp only
    split <;> split <;> exact request _
  | none =>
    dsimp only
    split <;> split <;> exact request _

theorem focus_mainQueue {view : SceneView} (taken : screen.runMain view = .ok next) :
    next.scene.focus = match screen.handlesFrame with
      | some _ => (screen.scene.focus.1, screen.scene.focus.2 ++ [view.found])
      | none => screen.scene.focus := by
  unfold runMain at taken
  unfold handlesFrame
  split at taken
  · cases taken
  next closure rest head =>
    cases taken
    cases closure with
    | placeLoadedObject object =>
      simp only [head, placeVirtualObject, hideObjectLoadingUI, setCloseButtonImages]
      split
      · exact screen.scene.focus_placeAt object _ view
      · exact screen.scene.focus_discardPlacement object
    | updateFocusSquare isObjectVisible =>
      simp only [head]
      exact focus_updateFocusSquare
        { screen with dispatch := { screen.dispatch with mainQueue := rest } } isObjectVisible view
    | surfaceDetected =>
      simp only [head]
      rfl
    | displayErrorMessage => simp only [head]

theorem focus_pan {gesture : PanGesture} {view : SceneView}
    (taken : screen.pan gesture view = .ok next) : next.scene.focus = screen.scene.focus := by
  rw [(pan_cases taken).scene]
  unfold VirtualObjectInteraction.didPan
  split
  · rfl
  · split
    · split
      · rfl
      · exact screen.scene.focus_translate _ _ _ _
    · rfl
  · split
    · rfl
    · exact screen.scene.focus_setDown _ _ _
  · rfl

theorem focus_reshapes {kind : GestureKind} {state : GestureState} {touches : GestureTouches}
    (reshapes : Reshapes screen kind state touches next) :
    next.scene.focus = screen.scene.focus := by
  obtain ⟨-, -, reshaping, -⟩ := reshapes
  generalize next.scene = scene, next.interaction = interaction at reshaping ⊢
  cases reshaping <;> rfl

/-- Apart from the two queues, no step deals with the square. -/
theorem focus_of_undisturbed {event : Event} (undisturbed : event.Undisturbed)
    (notMain : ∀ view, event ≠ .mainQueue view) (notUpdate : event ≠ .updateQueue)
    (taken : step screen event = .ok next) : next.scene.focus = screen.scene.focus := by
  cases event with
  | mainQueue view => exact absurd rfl (notMain view)
  | updateQueue => exact absurd rfl notUpdate
  | viewWillDisappear =>
    cases taken
    exact Scene.focus_removeAllVirtualObjects _
  | addVirtualObject view meanwhile =>
    cases undisturbed
    rcases (addVirtualObject_cases taken).2 with ⟨-, -, rfl⟩ | ⟨started, -, -, rfl⟩ | ⟨-, rfl⟩
    · rfl
    · simp only [startLoading, Scene.updateObjectAvailability_eq]
      rfl
    · exact screen.scene.focus_removeAllVirtualObjects
  | background event =>
    cases event with
    | loaded object content sceneOpens =>
      obtain ⟨-, rfl⟩ := loaded_cases taken
      rfl
    | prepared object =>
      obtain ⟨-, rfl⟩ := prepared_cases taken
      rfl
  | coolDownElapsed =>
    obtain ⟨pending, -, rfl⟩ := coolDownElapsed_cases taken
    rfl
  | trackedRaycastUpdated raycast results =>
    obtain ⟨object, scene, -, handled, rfl⟩ := trackedRaycastUpdated_cases taken
    exact Scene.focus_setVirtualObject3DPosition handled
  | pan gesture view => exact focus_pan taken
  | rotate gesture => exact focus_reshapes (rotate_reshapes taken)
  | pinch gesture => exact focus_reshapes (pinch_reshapes taken)
  | tap hitTestResults =>
    cases tap_cases taken
    rfl
  | coachingOverlayDidRequestSessionReset =>
    cases taken
    unfold restartExperience
    split
    · exact screen.scene.focus_removeAllVirtualObjects
    · rfl
  | cameraDidChangeTrackingState trackingState =>
    cases taken
    cases trackingState with
    | normal => exact screen.scene.focus_setVirtualContentHidden false
    | notAvailable | limited => rfl
  | sessionWasInterrupted =>
    cases taken
    exact screen.scene.focus_setVirtualContentHidden true
  | sessionDidFail isARError =>
    cases taken
    cases isARError <;> rfl
  | restartSessionTapped =>
    cases restartSessionTapped_cases taken
    rfl
  | rendererDidAdd isPlaneAnchor =>
    cases taken
    cases isPlaneAnchor <;> rfl
  | rendererDidUpdate anchor =>
    cases taken
    -- The anchor waits in the same queue, and is no request either.
    change (screen.scene.enqueue (.didUpdate anchor)).focus = screen.scene.focus
    rw [Scene.focus_enqueue]
    simp [UpdateClosure.focusRequest]
  | timerFired timer =>
    obtain ⟨status, -, rfl⟩ := timerFired_cases taken
    rfl
  | viewDidAppear | coachingOverlayWillActivate | coachingOverlayDidDeactivate
  | rendererUpdateAtTime =>
    cases taken
    rfl

/-- The same for taps that background work overtakes. -/
theorem focus_kept {event : Event} (notMain : ∀ view, event ≠ .mainQueue view)
    (notUpdate : event ≠ .updateQueue) (taken : step screen event = .ok next) :
    next.scene.focus = screen.scene.focus := by
  refine @preserved_of_undisturbed (fun next => next.scene.focus = screen.scene.focus)
    (fun _ event => (∀ view, event ≠ .mainQueue view) ∧ event ≠ .updateQueue) ?_ ?_ ?_ screen event
    next rfl ⟨notMain, notUpdate⟩ taken
  · exact fun _ _ _ _ => ⟨by simp, by simp⟩
  · exact fun _ _ _ => ⟨by simp, by simp⟩
  · exact fun _ _ _ alone same others taken =>
      (focus_of_undisturbed alone others.1 others.2 taken).trans same

/-- What an event of the screen asks of the square at once. -/
def asksSquare (screen : ARViewController) : Event → Option FocusSquare.Event
  | .mainQueue _ => screen.handlesFrame.map fun isObjectVisible =>
    if isObjectVisible || !screen.scene.loader.loadedObjects.isEmpty then .hide else .unhide
  | .updateQueue =>
    (screen.scene.updateQueue.head?.bind UpdateClosure.focusRequest).map FocusSquare.Event.setState
  | _ => none

end ARViewController

/-! ## The screen with its square -/

/-- The node that the square hangs from. -/
inductive SquareParent where
  | rootNode
  | pointOfView
  deriving DecidableEq

structure FocusedScreen where
  screen : ARViewController
  focusSquare : FocusSquare
  parent : SquareParent := .rootNode

/-- The square is added to the scene when the view has been loaded. -/
def Opening.focusedScreen (opening : Opening) (geometry : Geometry) : FocusedScreen where
  screen := opening.screen
  focusSquare := FocusSquare.init geometry

inductive FocusedEvent where
  | screen (event : Event)
  | fadeFinished (key : FocusSquare.FadeKey)
  | completed (index : Nat)

namespace FocusedScreen

open FocusSquare.State SlidingWindow

variable (geometry : Geometry) (focused : FocusedScreen)

def setState (state : FocusSquare.State) : FocusedScreen :=
  { focused with
    focusSquare := focused.focusSquare.setState geometry state
    parent := match state with
      -- Without a surface the square moves with the camera.
      | .initializing => .pointOfView
      | .detecting _ _ => .rootNode }

def ask : FocusSquare.Event → Except Halt FocusedScreen
  | .setState state => .ok (focused.setState geometry state)
  | event =>
    match focused.focusSquare.step geometry event with
    | .ok focusSquare => .ok { focused with focusSquare := focusSquare }
    | .error _ => .error .notDelivered

def step : FocusedEvent → Except Halt FocusedScreen
  | .screen event => do
    let screen ← focused.screen.step event
    let asked ← match focused.screen.asksSquare event with
      | some request => focused.ask geometry request
      | none => .ok focused
    .ok { asked with screen := screen }
  | .fadeFinished key => focused.ask geometry (.fadeFinished key)
  | .completed index => focused.ask geometry (.completed index)

variable {geometry focused} {next : FocusedScreen}

/-- A step of the screen, and what it asks of the square. -/
theorem screen_cases {event : Event} (taken : focused.step geometry (.screen event) = .ok next) :
    ∃ screen, focused.screen.step event = .ok screen ∧
      match focused.screen.asksSquare event with
      | some request => ∃ asked, focused.ask geometry request = .ok asked ∧
        next = { asked with screen := screen }
      | none => next = { focused with screen := screen } := by
  obtain ⟨screen, moved, rest⟩ := bind_ok taken
  refine ⟨screen, moved, ?_⟩
  cases asks : focused.screen.asksSquare event with
  | some request =>
    simp only [asks] at rest
    obtain ⟨asked, done, same⟩ := bind_ok rest
    exact ⟨asked, done, (Except.ok.inj same).symm⟩
  | none =>
    simp only [asks] at rest
    exact (Except.ok.inj rest).symm

/-- Requests other than states reach only the square itself. -/
theorem ask_cases {event : FocusSquare.Event} (other : ∀ state, event ≠ .setState state)
    (asked : focused.ask geometry event = .ok next) :
    ∃ focusSquare, focused.focusSquare.step geometry event = .ok focusSquare ∧
      next = { focused with focusSquare := focusSquare } := by
  unfold ask at asked
  split at asked
  next state => exact absurd rfl (other state)
  · split at asked
    next focusSquare taken => exact ⟨focusSquare, taken, (Except.ok.inj asked).symm⟩
    · cases asked

/-! ## The square follows the frames -/

/-- What the event finds, if it deals with a frame. -/
def frameFound (focused : FocusedScreen) : FocusedEvent → Option FocusSquare.State
  | .screen (.mainQueue view) => focused.screen.handlesFrame.map fun _ => view.found
  | _ => none

/-- The observer keeps what all frames have found. -/
def observeFrames (frames : List FocusSquare.State) (focused : FocusedScreen)
    (event : FocusedEvent) (_ : FocusedScreen) : List FocusSquare.State :=
  frames ++ (focused.frameFound event).toList

abbrev FrameHistory := Observed FocusedScreen (List FocusSquare.State)

/-- The square shows the frames that have reached it, and hangs from the camera while there is no
surface. -/
structure Shows (reached : List FocusSquare.State) (focused : FocusedScreen) : Prop where
  known : focused.screen.scene.focusSquare = focused.focusSquare.state
  stands : focused.focusSquare.StandsFor reached
  parent : reached ≠ [] → focused.parent =
    if focused.focusSquare.state = .initializing then .pointOfView else .rootNode

/-- The frames have reached the square in order, except for the last ones, which are under way. -/
def FollowsFrames (history : FrameHistory) : Prop :=
  ∃ reached, Shows reached history.state ∧
    history.record = reached ++ history.state.screen.scene.focus.2

/-- The state that the event assigns to the square. -/
def assigned (focused : FocusedScreen) : FocusedEvent → Option FocusSquare.State
  | .screen .updateQueue =>
    focused.screen.scene.updateQueue.head?.bind UpdateClosure.focusRequest
  | _ => none

/-- What a step is to the square: a frame requests an assignment, the update queue makes the one
that has been requested first, and everything else leaves the square where it stands. -/
inductive SquareStep (geometry : Geometry) (focused : FocusedScreen) :
    FocusedEvent → FocusedScreen → Prop where
  | requested (view : SceneView) (next : FocusedScreen)
      (handles : focused.screen.handlesFrame.isSome)
      (same : focused.focusSquare.SameStand next.focusSquare)
      (parent : next.parent = focused.parent)
      (queued : next.screen.scene.focus =
        (focused.screen.scene.focus.1, focused.screen.scene.focus.2 ++ [view.found])) :
      SquareStep geometry focused (.screen (.mainQueue view)) next
  | assigned (state : FocusSquare.State) (rest : List FocusSquare.State)
      (screen : ARViewController) (told : focused.assigned (.screen .updateQueue) = some state)
      (head : focused.screen.scene.focus.2 = state :: rest)
      (left : screen.scene.focus = (state, rest)) :
      SquareStep geometry focused (.screen .updateQueue)
        { focused.setState geometry state with screen := screen }
  | elsewhere (event : FocusedEvent) (next : FocusedScreen)
      (unseen : focused.frameFound event = none) (unassigned : focused.assigned event = none)
      (same : focused.focusSquare.SameStand next.focusSquare)
      (parent : next.parent = focused.parent)
      (kept : next.screen.scene.focus = focused.screen.scene.focus) :
      SquareStep geometry focused event next

theorem squareStep_mainQueue {view : SceneView}
    (taken : focused.step geometry (.screen (.mainQueue view)) = .ok next) :
    SquareStep geometry focused (.screen (.mainQueue view)) next := by
  obtain ⟨screen, moved, rest⟩ := screen_cases taken
  have focus := ARViewController.focus_mainQueue moved
  unfold ARViewController.asksSquare at rest
  cases frame : focused.screen.handlesFrame with
  | none =>
    rw [frame] at rest focus
    obtain rfl : next = { focused with screen := screen } := rest
    have unseen : focused.frameFound (.screen (.mainQueue view)) = none := by
      unfold frameFound
      rw [frame]
      rfl
    exact .elsewhere _ _ unseen rfl (.refl _) rfl focus
  | some isObjectVisible =>
    rw [frame] at rest focus
    obtain ⟨asked, done, rfl⟩ := rest
    have handles : focused.screen.handlesFrame.isSome := by
      rw [frame]
      rfl
    -- Hiding and showing the square are not about where it stands.
    dsimp only at done
    split at done
    · cases done
      exact .requested view _ handles FocusSquare.sameStand_hide rfl focus
    · cases done
      exact .requested view _ handles FocusSquare.sameStand_unhide rfl focus

theorem squareStep_updateQueue
    (taken : focused.step geometry (.screen .updateQueue) = .ok next) :
    SquareStep geometry focused (.screen .updateQueue) next := by
  obtain ⟨screen, moved, rest⟩ := screen_cases taken
  obtain ⟨scene, ran, rfl⟩ := ARViewController.updateQueue_cases moved
  obtain ⟨closure, queue, queued, focus⟩ := Scene.focus_runUpdate ran
  -- The head of the queue is the next assignment, unless it is about an anchor.
  have before : focused.screen.scene.focus.2 =
      closure.focusRequest.toList ++ queue.filterMap UpdateClosure.focusRequest := by
    rw [Scene.focus, queued]
    cases request : closure.focusRequest <;> simp [request]
  have told : focused.assigned (.screen .updateQueue) = closure.focusRequest := by
    unfold FocusedScreen.assigned
    rw [queued]
    rfl
  unfold ARViewController.asksSquare at rest
  simp only [queued, List.head?_cons, Option.bind_some] at rest
  cases request : closure.focusRequest with
  | none =>
    rw [request] at rest focus before told
    obtain rfl := rest
    exact .elsewhere _ _ rfl told (.refl _) rfl (focus.trans (Prod.ext rfl before.symm))
  | some state =>
    rw [request] at rest focus before told
    obtain ⟨asked, done, rfl⟩ := rest
    cases done
    exact .assigned state _ _ told before focus

/-- A step is one of the three things to the square. -/
theorem square_step {event : FocusedEvent} (taken : focused.step geometry event = .ok next) :
    SquareStep geometry focused event next := by
  cases event with
  | fadeFinished key =>
    have asked : focused.ask geometry (.fadeFinished key) = .ok next := taken
    obtain ⟨focusSquare, done, rfl⟩ := ask_cases (by simp) asked
    exact .elsewhere _ _ rfl rfl (FocusSquare.sameStand_fadeFinished done) rfl rfl
  | completed index =>
    have asked : focused.ask geometry (.completed index) = .ok next := taken
    obtain ⟨focusSquare, done, rfl⟩ := ask_cases (by simp) asked
    exact .elsewhere _ _ rfl rfl (FocusSquare.sameStand_completed done) rfl rfl
  | screen event =>
    by_cases main : ∃ view, event = .mainQueue view
    · obtain ⟨view, rfl⟩ := main
      exact squareStep_mainQueue taken
    by_cases update : event = .updateQueue
    · subst update
      exact squareStep_updateQueue taken
    have notMain : ∀ view, event ≠ .mainQueue view := fun view same => main ⟨view, same⟩
    obtain ⟨screen, moved, rest⟩ := screen_cases taken
    obtain ⟨asksNothing, unseen, unassigned⟩ : focused.screen.asksSquare event = none ∧
        focused.frameFound (.screen event) = none ∧ focused.assigned (.screen event) = none := by
      cases event with
      | mainQueue view => exact absurd rfl (notMain view)
      | updateQueue => exact absurd rfl update
      | _ => exact ⟨rfl, rfl, rfl⟩
    rw [asksNothing] at rest
    obtain rfl := rest
    exact .elsewhere _ _ unseen unassigned (.refl _) rfl
      (ARViewController.focus_kept notMain update moved)

theorem parent_setState (state : FocusSquare.State) : (focused.setState geometry state).parent =
    if state = .initializing then .pointOfView else .rootNode := by
  cases state with
  | initializing => exact (if_pos rfl).symm
  | detecting raycastResult camera => exact (if_neg (by simp)).symm

theorem Shows.setState {reached : List FocusSquare.State} (shows : Shows reached focused)
    (state : FocusSquare.State) {screen : ARViewController}
    (known : screen.scene.focusSquare = state) :
    Shows (reached ++ [state]) { focused.setState geometry state with screen := screen } where
  known := known.trans (FocusSquare.state_setState _).symm
  stands := shows.stands.setState state
  parent _ := by
    change (focused.setState geometry state).parent =
      if (focused.focusSquare.setState geometry state).state = .initializing then _ else _
    rw [parent_setState, FocusSquare.state_setState]

theorem Shows.of_sameStand {reached : List FocusSquare.State} (shows : Shows reached focused)
    (same : focused.focusSquare.SameStand next.focusSquare) (parent : next.parent = focused.parent)
    (known : next.screen.scene.focusSquare = focused.screen.scene.focusSquare) :
    Shows reached next where
  known := known.trans (shows.known.trans same.state.symm)
  stands := same.standsFor shows.stands
  parent some := by
    rw [parent, same.state]
    exact shows.parent some

theorem FollowsFrames.step {frames : List FocusSquare.State} {event : FocusedEvent}
    (follows : FollowsFrames ⟨focused, frames⟩) (taken : focused.step geometry event = .ok next) :
    FollowsFrames ⟨next, observeFrames frames focused event next⟩ := by
  obtain ⟨reached, shows, (record : frames = reached ++ focused.screen.scene.focus.2)⟩ := follows
  unfold observeFrames
  cases square_step taken with
  -- A frame joins those that are under way, and the first of them reaches the square.
  | requested view _ handles same parent queued =>
    refine ⟨reached, shows.of_sameStand same parent (congrArg Prod.fst queued), ?_⟩
    have seen : focused.frameFound (.screen (.mainQueue view)) = some view.found := by
      obtain ⟨isObjectVisible, frame⟩ := Option.isSome_iff_exists.mp handles
      unfold frameFound
      rw [frame]
      rfl
    rw [seen, queued, record, List.append_assoc]
    rfl
  | assigned state rest screen told head left =>
    refine ⟨reached ++ [state], shows.setState state (congrArg Prod.fst left), ?_⟩
    change frames ++ [] = reached ++ [state] ++ screen.scene.focus.2
    rw [List.append_nil, left, record, head, List.append_assoc]
    rfl
  | elsewhere _ _ unseen unassigned same parent kept =>
    refine ⟨reached, shows.of_sameStand same parent (congrArg Prod.fst kept), ?_⟩
    rw [unseen, Option.toList_none, List.append_nil, kept]
    exact record

theorem followsFrames_opening (opening : Opening) (geometry : Geometry) :
    FollowsFrames ⟨opening.focusedScreen geometry, []⟩ :=
  ⟨[], ⟨rfl, FocusSquare.standsFor_init, fun some => absurd rfl some⟩, rfl⟩

/-- In every run the frames alone decide where the square is: those that the update queue has
dealt with determine its state, its position, the planes it has visited and the node it hangs
from, whatever gestures, loads, interruptions and animations happen in between. -/
theorem square_follows_frames (opening : Opening) (geometry : Geometry)
    (events : List FocusedEvent) :
    Always (observing (step geometry) observeFrames) FollowsFrames
      ⟨opening.focusedScreen geometry, []⟩ events :=
  always_observing_of_invariant (fun _ _ _ _ follows taken => follows.step taken)
    (followsFrames_opening opening geometry) events

end FocusedScreen

end FurnitureAR
