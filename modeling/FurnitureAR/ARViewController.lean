import FurnitureAR.Library.Execution
import FurnitureAR.StatusViewController
import FurnitureAR.VirtualObjectInteraction

/-!
# The AR screen

The state of `ARViewController` with the work that it has handed to other queues, its
handlers, and the events that call them. Every handler runs to its end before the next
event of its queue; only the tap on the add button spells out the background work that may
finish while the handler is still running.
-/
namespace FurnitureAR

inductive ImageProvider where
  | add
  | buttonring
  | chair
  | lamp
  | restart
  | vase
  | close
  deriving DecidableEq

structure AddButton where
  image : ImageProvider := .add
  imageEdgeInset : ℚ := 0
  isEnabled : Bool := true
  isHidden : Bool := false

/-- The closures that are sent to the main queue. -/
inductive MainClosure where
  | placeLoadedObject (object : ObjectRef)
  | updateFocusSquare (isObjectVisible : Bool)
  | surfaceDetected
  | displayErrorMessage
  deriving DecidableEq

/-- Work in other hands: models being loaded on the global queue, scenes being prepared,
closures waiting for the main queue, cool-downs of restarts that have not elapsed. -/
structure Dispatch where
  loading : List ObjectRef := []
  preparing : List ObjectRef := []
  mainQueue : List MainClosure := []
  coolDowns : Nat := 0

structure ARViewController where
  virtualObjectId : Option Int
  availableObjects : List ObjectRef
  scene : Scene
  interaction : VirtualObjectInteraction := {}
  statusViewController : StatusViewController := {}
  addVirtualObjectButton : AddButton := {}
  isActivityIndicatorAnimating : Bool := false
  isUpperControlsViewHidden : Bool := false
  isCoachingOverlayActive : Bool := false
  isRestartAvailable : Bool := true
  isErrorPresented : Bool := false
  /-- The one gesture that is being recognized; gestures exclude each other. -/
  recognized : Option GestureKind := none
  dispatch : Dispatch := {}

/-- Why an event has no next state. -/
inductive Halt where
  | notDelivered
  | crashed (error : FatalError)
  deriving DecidableEq

/-- What happens on background queues to an object that is being loaded. -/
inductive BackgroundEvent where
  | loaded (object : ObjectRef) (content : ModelContent) (sceneOpens : Bool)
  | prepared (object : ObjectRef)

namespace ARViewController

def orCrash {α : Type} : Except FatalError α → Except Halt α
  | .ok value => .ok value
  | .error error => .error (.crashed error)

/-! ## Buttons and loading indicator -/

def setAddButtonImages (screen : ARViewController) : ARViewController :=
  { screen with addVirtualObjectButton :=
      { screen.addVirtualObjectButton with imageEdgeInset := 0, image := .add } }

def setCloseButtonImages (screen : ARViewController) : ARViewController :=
  { screen with addVirtualObjectButton :=
      { screen.addVirtualObjectButton with imageEdgeInset := 10, image := .close } }

def displayObjectLoadingUI (screen : ARViewController) : ARViewController :=
  { screen with
    isActivityIndicatorAnimating := true
    addVirtualObjectButton :=
      { screen.addVirtualObjectButton with image := .buttonring, isEnabled := false }
    isRestartAvailable := false }

def hideObjectLoadingUI (screen : ARViewController) : ARViewController :=
  let screen := { screen with isActivityIndicatorAnimating := false }
  -- The close image is shown before the placement has succeeded, and the restart is
  -- available again whether or not an earlier one still cools down.
  let screen := screen.setCloseButtonImages
  { screen with
    addVirtualObjectButton := { screen.addVirtualObjectButton with isEnabled := true }
    isRestartAvailable := true }

/-! ## Session management -/

def resetTracking (screen : ARViewController) : ARViewController :=
  let screen := { screen with interaction := { screen.interaction with selectedObject := none } }
  let screen := { screen with scene :=
    { screen.scene with session := screen.scene.session.runResettingTracking } }
  let status := screen.statusViewController.scheduleMessage
    "Знайдіть поверхню, щоб розмістити об'єкт" 7.5 .planeEstimation
  -- The image is set without a look at the loaded objects.
  { screen with statusViewController := status }.setAddButtonImages

def restartExperience (screen : ARViewController) : ARViewController :=
  -- `isLoading` ends with `load()`, long before the object is placed.
  if screen.isRestartAvailable && !screen.scene.loader.isLoading then
    let screen := { screen with isRestartAvailable := false }
    let screen := { screen with
      statusViewController := screen.statusViewController.cancelAllScheduledMessages }
    let screen := { screen with scene := screen.scene.removeAllVirtualObjects }
    let screen := screen.resetTracking
    { screen with dispatch := { screen.dispatch with coolDowns := screen.dispatch.coolDowns + 1 } }
  else screen

/-- The closure that `restartExperience` schedules five seconds ahead. -/
def coolDownElapsed (screen : ARViewController) : Except Halt ARViewController :=
  match screen.dispatch.coolDowns with
  | 0 => .error .notDelivered
  | pending + 1 =>
    .ok { screen with
      dispatch := { screen.dispatch with coolDowns := pending }
      -- The flag is set whatever has happened in the last five seconds.
      isRestartAvailable := true
      isUpperControlsViewHidden := false }

def prepareForClose (screen : ARViewController) : ARViewController :=
  let screen := { screen with scene := { screen.scene with session := screen.scene.session.pause } }
  let screen := { screen with
    statusViewController := screen.statusViewController.cancelAllScheduledMessages }
  let screen := { screen with scene := screen.scene.removeAllVirtualObjects }
  -- Only here the gestures lose the object that they track.
  { screen with interaction :=
      { screen.interaction.setTrackedObject none with selectedObject := none } }

/-! ## Placing and loading objects -/

def placeVirtualObject (screen : ARViewController) (object : ObjectRef) (view : SceneView) :
    ARViewController :=
  match screen.scene.placementQuery object with
  | some query =>
    { screen with
      scene := screen.scene.placeAt object query view
      interaction := { screen.interaction with selectedObject := some object } }
  | none =>
    -- The failed placement removes all objects, but leaves the image of the button.
    let status := screen.statusViewController.showMessage
      "Неможливо розмістити об'єкт\nСпробуйте рухатися вправо і вліво" true
    { screen with
      statusViewController := status
      scene := screen.scene.discardPlacement object
      interaction := { screen.interaction with selectedObject := none } }

def background (screen : ARViewController) : BackgroundEvent → Except Halt ARViewController
  | .loaded object content sceneOpens =>
    if object ∈ screen.dispatch.loading then
      if sceneOpens then
        .ok { screen with
          scene := screen.scene.finishLoading object content
          dispatch := { screen.dispatch with
            loading := screen.dispatch.loading.erase object
            preparing := screen.dispatch.preparing ++ [object] } }
      -- "Failed to load SCNScene from object.referenceURL"
      else .error (.crashed .sceneNotLoaded)
    else .error .notDelivered
  | .prepared object =>
    if object ∈ screen.dispatch.preparing then
      .ok { screen with
        dispatch := { screen.dispatch with
          preparing := screen.dispatch.preparing.erase object
          mainQueue := screen.dispatch.mainQueue ++ [.placeLoadedObject object] } }
    else .error .notDelivered

/-- `virtualObjectLoader.loadVirtualObject`, up to the dispatch of the background work. -/
def dispatchLoading (screen : ARViewController) (object : ObjectRef) : ARViewController :=
  { screen with
    scene := screen.scene.startLoading object
    dispatch := { screen.dispatch with loading := screen.dispatch.loading ++ [object] } }

/-- `meanwhile` is the background work that happens before the loading UI is displayed. -/
def loadVirtualObject (screen : ARViewController) (object : ObjectRef)
    (meanwhile : List BackgroundEvent) : Except Halt ARViewController :=
  (Execution.run background (screen.dispatchLoading object) meanwhile).map displayObjectLoadingUI

def selectedVirtualObject (screen : ARViewController) : Option ObjectRef := do
  let objectId ← screen.virtualObjectId
  VirtualObject.byId screen.scene.objects screen.availableObjects objectId

/-- A tap on the button, which it gets only while it is enabled. -/
def addVirtualObject (screen : ARViewController) (view : SceneView)
    (meanwhile : List BackgroundEvent) : Except Halt ARViewController :=
  if !screen.addVirtualObjectButton.isEnabled then .error .notDelivered
  else if screen.scene.loader.loadedObjects.isEmpty then
    match screen.selectedVirtualObject with
    | none =>
      let status := screen.statusViewController.showMessage
        "Не виявлено ідентифікаційного номера" true
      .ok { screen with statusViewController := status }
    | some object =>
      let screen := { screen with
        scene := screen.scene.updateObjectAvailability screen.availableObjects view }
      screen.loadVirtualObject object meanwhile
  -- With an object in the list the same button removes it.
  else
    let screen := { screen with scene := screen.scene.removeAllVirtualObjects }
    .ok screen.setAddButtonImages

/-! ## Frames -/

def updateFocusSquare (screen : ARViewController) (isObjectVisible : Bool) (view : SceneView) :
    ARViewController :=
  let screen :=
    -- The hint to move around is for an empty room only.
    if isObjectVisible || !screen.scene.loader.loadedObjects.isEmpty then screen
    else
      let status := screen.statusViewController.scheduleMessage
        "Спробуйте рухатися вліво і вправо" 5 .focusSquare
      { screen with statusViewController := status }
  match view.surface with
  | some (result, camera) =>
    let screen := { screen with
      scene := screen.scene.enqueue (.setFocusSquare (.detecting result (some camera))) }
    let screen := if screen.isCoachingOverlayActive then screen
      else { screen with addVirtualObjectButton :=
        { screen.addVirtualObjectButton with isHidden := false } }
    { screen with statusViewController :=
        screen.statusViewController.cancelScheduledMessage .focusSquare }
  | none =>
    let screen := { screen with scene := screen.scene.enqueue (.setFocusSquare .initializing) }
    -- Without a surface there is nothing to add to, but removing stays possible.
    if screen.addVirtualObjectButton.image ≠ ImageProvider.close then
      { screen with addVirtualObjectButton :=
          { screen.addVirtualObjectButton with isHidden := true } }
    else screen

def sendToMainQueue (screen : ARViewController) (closure : MainClosure) : ARViewController :=
  { screen with dispatch :=
      { screen.dispatch with mainQueue := screen.dispatch.mainQueue ++ [closure] } }

def rendererUpdateAtTime (screen : ARViewController) (isInFrustum : ObjectRef → Bool) :
    ARViewController :=
  screen.sendToMainQueue (.updateFocusSquare (screen.scene.loader.loadedObjects.any isInFrustum))

def rendererDidAdd (screen : ARViewController) (isPlaneAnchor : Bool) : ARViewController :=
  if isPlaneAnchor then screen.sendToMainQueue .surfaceDetected else screen

def rendererDidUpdate (screen : ARViewController) (anchor : ARAnchor) : ARViewController :=
  { screen with scene := screen.scene.enqueue (.didUpdate anchor) }

/-- The closure of `renderer(_:didAdd:for:)`. -/
def surfaceDetected (screen : ARViewController) : ARViewController :=
  let status := screen.statusViewController.cancelScheduledMessage .planeEstimation
  let status := status.showMessage "Розпізнано поверхню" true
  { screen with statusViewController :=
      if screen.scene.loader.loadedObjects.isEmpty then
        status.scheduleMessage "Натисніть \"+\" щоб добавити об'єкт" 7.5 .contentPlacement
      else status }

/-- Run the first closure of the main queue. -/
def runMain (screen : ARViewController) (view : SceneView) : Except Halt ARViewController :=
  match screen.dispatch.mainQueue with
  | [] => .error .notDelivered
  | closure :: rest =>
    let screen := { screen with dispatch := { screen.dispatch with mainQueue := rest } }
    .ok <| match closure with
      -- The loading UI goes first, then the object is placed.
      | .placeLoadedObject object => screen.hideObjectLoadingUI.placeVirtualObject object view
      | .updateFocusSquare isObjectVisible => screen.updateFocusSquare isObjectVisible view
      | .surfaceDetected => screen.surfaceDetected
      | .displayErrorMessage => { screen with isErrorPresented := true }

def runUpdate (screen : ARViewController) : Except Halt ARViewController :=
  match screen.scene.runUpdate with
  | some scene => .ok { screen with scene := scene }
  | none => .error .notDelivered

/-! ## ARKit's callbacks -/

/-- The update handler of a tracked raycast, which is called only while that is live. -/
def trackedRaycastUpdated (screen : ARViewController) (raycast : RaycastRef)
    (results : List ARRaycastResult) : Except Halt ARViewController :=
  match screen.scene.session.raycasts raycast with
  | none => .error .notDelivered
  | some object => do
    let scene ← orCrash (screen.scene.setVirtualObject3DPosition results object)
    .ok { screen with scene := scene }

def cameraDidChangeTrackingState (screen : ARViewController) (trackingState : TrackingState) :
    ARViewController :=
  let status := screen.statusViewController.showTrackingQualityInfo trackingState true
  match trackingState with
  | .notAvailable | .limited _ =>
    { screen with statusViewController := status.escalateFeedback trackingState 3 }
  | .normal =>
    { screen with
      statusViewController := status.cancelScheduledMessage .trackingStateEscalation
      scene := screen.scene.showVirtualContent }

def sessionDidFail (screen : ARViewController) (isARError : Bool) : ARViewController :=
  if isARError then screen.sendToMainQueue .displayErrorMessage else screen

/-- The action of the error alert. -/
def restartSessionTapped (screen : ARViewController) : Except Halt ARViewController :=
  if screen.isErrorPresented then
    -- The action resets the session, and leaves the objects and the flags of a restart.
    .ok { screen with isErrorPresented := false }.resetTracking
  else .error .notDelivered

def coachingOverlayWillActivate (screen : ARViewController) : ARViewController :=
  { screen with
    isCoachingOverlayActive := true
    isUpperControlsViewHidden := true
    addVirtualObjectButton := { screen.addVirtualObjectButton with isHidden := true } }

def coachingOverlayDidDeactivate (screen : ARViewController) : ARViewController :=
  { screen with
    isCoachingOverlayActive := false
    isUpperControlsViewHidden := false
    addVirtualObjectButton := { screen.addVirtualObjectButton with isHidden := false } }

/-! ## Gestures -/

/-- Whether a recognizer may report `state` now, and which gesture is recognized after it. -/
def recognizing (screen : ARViewController) (kind : GestureKind) :
    GestureState → Except Halt (Option GestureKind)
  -- `shouldRecognizeSimultaneouslyWith` answers false, so another gesture has to end first.
  | .began => if screen.recognized = none then .ok (some kind) else .error .notDelivered
  | .changed =>
    if screen.recognized = some kind then .ok (some kind) else .error .notDelivered
  | .ended | .cancelled =>
    if screen.recognized = some kind then .ok none else .error .notDelivered
  | .possible | .failed => .error .notDelivered

def pan (screen : ARViewController) (gesture : PanGesture) (view : SceneView) :
    Except Halt ARViewController := do
  let recognized ← screen.recognizing .pan gesture.state
  -- Nodes that have been removed are not found by hit tests.
  if gesture.touches.areHittable screen.scene then
    let (scene, interaction, _) := screen.interaction.didPan screen.scene gesture view
    .ok { screen with scene := scene, interaction := interaction, recognized := recognized }
  else .error .notDelivered

def rotate (screen : ARViewController) (gesture : RotationGesture) :
    Except Halt ARViewController := do
  let recognized ← screen.recognizing .rotation gesture.state
  if gesture.touches.areHittable screen.scene then
    let (scene, interaction, _) ← orCrash (screen.interaction.didRotate screen.scene gesture)
    .ok { screen with scene := scene, interaction := interaction, recognized := recognized }
  else .error .notDelivered

def pinch (screen : ARViewController) (gesture : PinchGesture) :
    Except Halt ARViewController := do
  let recognized ← screen.recognizing .pinch gesture.state
  if gesture.touches.areHittable screen.scene then
    let (scene, interaction, _) ← orCrash (screen.interaction.scaleObject screen.scene gesture)
    .ok { screen with scene := scene, interaction := interaction, recognized := recognized }
  else .error .notDelivered

def tap (screen : ARViewController) (hitTestResults : List SceneNode) :
    Except Halt ARViewController :=
  if hitTestResults.all screen.scene.isHittable then
    .ok { screen with interaction := screen.interaction.didTap hitTestResults }
  else .error .notDelivered

def timerFired (screen : ARViewController) (timer : TimerRef) : Except Halt ARViewController :=
  match screen.statusViewController.timerFired timer with
  | some status => .ok { screen with statusViewController := status }
  | none => .error .notDelivered

end ARViewController

/-! ## Events -/

inductive Event where
  | viewDidAppear
  | viewWillDisappear
  | addVirtualObject (view : SceneView) (meanwhile : List BackgroundEvent)
  | background (event : BackgroundEvent)
  | mainQueue (view : SceneView)
  | updateQueue
  | coolDownElapsed
  | trackedRaycastUpdated (raycast : RaycastRef) (results : List ARRaycastResult)
  | pan (gesture : PanGesture) (view : SceneView)
  | rotate (gesture : RotationGesture)
  | pinch (gesture : PinchGesture)
  | tap (hitTestResults : List SceneNode)
  | coachingOverlayWillActivate
  | coachingOverlayDidDeactivate
  | coachingOverlayDidRequestSessionReset
  | cameraDidChangeTrackingState (trackingState : TrackingState)
  | sessionWasInterrupted
  | sessionDidFail (isARError : Bool)
  | restartSessionTapped
  | rendererUpdateAtTime (isInFrustum : ObjectRef → Bool)
  | rendererDidAdd (isPlaneAnchor : Bool)
  | rendererDidUpdate (anchor : ARAnchor)
  | timerFired (timer : TimerRef)

namespace ARViewController

def step (screen : ARViewController) : Event → Except Halt ARViewController
  | .viewDidAppear => .ok screen.resetTracking
  | .viewWillDisappear => .ok screen.prepareForClose
  | .addVirtualObject view meanwhile => screen.addVirtualObject view meanwhile
  | .background event => screen.background event
  | .mainQueue view => screen.runMain view
  | .updateQueue => screen.runUpdate
  | .coolDownElapsed => screen.coolDownElapsed
  | .trackedRaycastUpdated raycast results => screen.trackedRaycastUpdated raycast results
  | .pan gesture view => screen.pan gesture view
  | .rotate gesture => screen.rotate gesture
  | .pinch gesture => screen.pinch gesture
  | .tap hitTestResults => screen.tap hitTestResults
  | .coachingOverlayWillActivate => .ok screen.coachingOverlayWillActivate
  | .coachingOverlayDidDeactivate => .ok screen.coachingOverlayDidDeactivate
  | .coachingOverlayDidRequestSessionReset => .ok screen.restartExperience
  | .cameraDidChangeTrackingState trackingState =>
    .ok (screen.cameraDidChangeTrackingState trackingState)
  | .sessionWasInterrupted => .ok { screen with scene := screen.scene.hideVirtualContent }
  | .sessionDidFail isARError => .ok (screen.sessionDidFail isARError)
  | .restartSessionTapped => screen.restartSessionTapped
  | .rendererUpdateAtTime isInFrustum => .ok (screen.rendererUpdateAtTime isInFrustum)
  | .rendererDidAdd isPlaneAnchor => .ok (screen.rendererDidAdd isPlaneAnchor)
  | .rendererDidUpdate anchor => .ok (screen.rendererDidUpdate anchor)
  | .timerFired timer => screen.timerFired timer

end ARViewController

/-- What a screen is opened with. The objects are shared by all screens, so they may come with
leftovers of earlier ones, even with anchors, but not in the scene or tracked. -/
structure Opening where
  virtualObjectId : Option Int
  availableObjects : List ObjectRef
  objects : ObjectRef → VirtualObject
  /-- The first identifier that no anchor has had yet. -/
  nextAnchor : AnchorIdentifier := 0
  unplaced : ∀ object, (objects object).parent = none ∧ (objects object).raycast = none
  used : ∀ object anchor, (objects object).anchor = some anchor → anchor.identifier < nextAnchor

/-- The screen when its view has been loaded. -/
def Opening.screen (opening : Opening) : ARViewController where
  virtualObjectId := opening.virtualObjectId
  availableObjects := opening.availableObjects
  scene := { objects := opening.objects, session := { nextAnchor := opening.nextAnchor } }

end FurnitureAR
