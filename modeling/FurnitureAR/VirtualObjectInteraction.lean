import FurnitureAR.Scene

/-!
# Gestures on virtual objects

The handlers of the pan, rotation, pinch and tap recognizers. They get the recognizer's
current values and give back what they leave in it.
-/
namespace FurnitureAR

inductive GestureState where
  | possible
  | began
  | changed
  | ended
  | cancelled
  | failed
  deriving DecidableEq

inductive GestureKind where
  | pan
  | rotation
  | pinch
  deriving DecidableEq

/-! ## Hit tests -/

/-- A node of the scene graph by the way up to the root. -/
inductive SceneNode where
  | rootNode
  | virtualObject (object : ObjectRef)
  | child (parent : SceneNode)
  deriving DecidableEq

namespace Scene

/-- There are nodes below this one: planes and the focus square below the root, the loaded
content below an object that is in the scene. -/
def hasChildren (scene : Scene) : SceneNode → Bool
  | .rootNode => true
  | .virtualObject object =>
    (scene.objects object).parent.isSome && !(scene.objects object).childNodes.isEmpty
  -- A child is in the scene exactly when the object above it is, and loaded.
  | .child parent => scene.hasChildren parent

/-- Hit tests find geometry. The root and the reference nodes themselves have none. -/
def isHittable (scene : Scene) : SceneNode → Bool
  | .rootNode => false
  | .virtualObject _ => false
  | .child parent => scene.hasChildren parent

end Scene

def existingObjectContainingNode : SceneNode → Option ObjectRef
  | .virtualObject object => some object
  | .rootNode => none
  | .child parent => existingObjectContainingNode parent

/-- `virtualObject(at:)`, given what the hit test at that point finds, nearest first. -/
def virtualObjectAt (hitTestResults : List SceneNode) : Option ObjectRef :=
  hitTestResults.findSome? existingObjectContainingNode

theorem Scene.loaded_of_hasChildren {scene : Scene} {node : SceneNode} {object : ObjectRef}
    (children : scene.hasChildren node = true)
    (found : existingObjectContainingNode node = some object) :
    (scene.objects object).parent ≠ none ∧ (scene.objects object).childNodes ≠ [] := by
  -- On the way up from a child, the first object that is met is the one whose content it is.
  induction node with
  | rootNode => cases found
  | virtualObject other =>
    cases found
    simpa [hasChildren, Option.isSome_iff_ne_none] using children
  | child parent ih => exact ih children found

/-- An object that a hit test finds is in the scene and loaded. -/
theorem Scene.loaded_of_virtualObjectAt {scene : Scene} {nodes : List SceneNode}
    {object : ObjectRef} (hittable : ∀ node ∈ nodes, scene.isHittable node = true)
    (found : virtualObjectAt nodes = some object) :
    (scene.objects object).parent ≠ none ∧ (scene.objects object).childNodes ≠ [] := by
  obtain ⟨node, member, contains⟩ := List.exists_of_findSome?_eq_some found
  have hit := hittable node member
  cases node with
  | rootNode => cases contains
  | virtualObject other => cases hit
  | child parent => exact Scene.loaded_of_hasChildren hit contains

/-! ## Recognizers -/

/-- What lies under the touches of a gesture, and under their center. -/
structure GestureTouches where
  underTouches : List (List SceneNode) := []
  underCenter : List SceneNode := []

/-- Every node is one that hit tests can find. -/
def GestureTouches.areHittable (touches : GestureTouches) (scene : Scene) : Bool :=
  (touches.underCenter :: touches.underTouches).all fun nodes => nodes.all scene.isHittable

/-- The first object under a touch, or else the one under the center of the touches. -/
def objectInteracting (touches : GestureTouches) : Option ObjectRef :=
  -- The touches in their order, and as a last resort the center between them.
  match touches.underTouches.findSome? virtualObjectAt with
  | some object => some object
  | none => if touches.underTouches.isEmpty then none else virtualObjectAt touches.underCenter

theorem loaded_of_objectInteracting {scene : Scene} {touches : GestureTouches}
    {object : ObjectRef} (hittable : touches.areHittable scene = true)
    (found : objectInteracting touches = some object) :
    (scene.objects object).parent ≠ none ∧ (scene.objects object).childNodes ≠ [] := by
  simp only [GestureTouches.areHittable, List.all_eq_true] at hittable
  unfold objectInteracting at found
  split at found
  next other under =>
    cases found
    obtain ⟨nodes, member, contains⟩ := List.exists_of_findSome?_eq_some under
    exact Scene.loaded_of_virtualObjectAt (hittable nodes (List.mem_cons_of_mem _ member)) contains
  next =>
    split at found
    · cases found
    · exact Scene.loaded_of_virtualObjectAt (hittable _ List.mem_cons_self) found

structure PanGesture where
  state : GestureState
  isThresholdExceeded : Bool
  translation : CGPoint
  touches : GestureTouches

structure RotationGesture where
  state : GestureState
  rotation : ℚ
  touches : GestureTouches

structure PinchGesture where
  state : GestureState
  scale : ℚ
  touches : GestureTouches

/-! ## Handlers -/

structure VirtualObjectInteraction where
  selectedObject : Option ObjectRef := none
  trackedObject : Option ObjectRef := none
  currentTrackingPosition : Option CGPoint := none

namespace VirtualObjectInteraction

/-- Assigning `trackedObject`, with its `didSet` observer. -/
def setTrackedObject (interaction : VirtualObjectInteraction) (object : Option ObjectRef) :
    VirtualObjectInteraction :=
  match object with
  | some object =>
    { interaction with trackedObject := some object, selectedObject := some object }
  -- The observer returns early, so the selection stays.
  | none => { interaction with trackedObject := none }

/-- The `.began` case, which the three handlers share. -/
def trackObject (interaction : VirtualObjectInteraction) (touches : GestureTouches) :
    VirtualObjectInteraction :=
  match objectInteracting touches with
  | some object => interaction.setTrackedObject (some object)
  | none => interaction

def updatedTrackingPosition (interaction : VirtualObjectInteraction) (scene : Scene)
    (object : ObjectRef) (gesture : PanGesture) (view : SceneView) :
    CGPoint × VirtualObjectInteraction :=
  -- The first event of a pan starts from where the object is on the screen.
  let currentPosition := interaction.currentTrackingPosition.getD
    (view.projectPoint (scene.objects object).simdWorldTransform.translation)
  let updatedPosition : CGPoint :=
    ⟨currentPosition.x + gesture.translation.x, currentPosition.y + gesture.translation.y⟩
  (updatedPosition, { interaction with currentTrackingPosition := some updatedPosition })

/-- The `default` case of `didPan`. -/
def resetTrackingPosition (interaction : VirtualObjectInteraction) : VirtualObjectInteraction :=
  { interaction with currentTrackingPosition := none }.setTrackedObject none

def didPan (interaction : VirtualObjectInteraction) (scene : Scene) (gesture : PanGesture)
    (view : SceneView) : Scene × VirtualObjectInteraction × PanGesture :=
  match gesture.state with
  | .began => (scene, interaction.trackObject gesture.touches, gesture)
  | .changed =>
    if gesture.isThresholdExceeded then
      match interaction.trackedObject with
      | none => (scene, interaction, gesture)
      | some object =>
        let (position, interaction) :=
          interaction.updatedTrackingPosition scene object gesture view
        (scene.translate object interaction.trackedObject position view, interaction,
          { gesture with translation := .zero })
    -- The pan is ignored until the displacement threshold is exceeded.
    else (scene, interaction, gesture)
  | .ended =>
    match interaction.trackedObject with
    -- `break` leaves the switch, so the tracking position is not reset here.
    | none => (scene, interaction, gesture)
    | some object =>
      let (position, interaction) := interaction.updatedTrackingPosition scene object gesture view
      (scene.setDown object position view, interaction.resetTrackingPosition, gesture)
  -- A cancelled pan ends here as well: nothing sets its object down.
  | _ => (scene, interaction.resetTrackingPosition, gesture)

def didRotate (interaction : VirtualObjectInteraction) (scene : Scene)
    (gesture : RotationGesture) :
    Except FatalError (Scene × VirtualObjectInteraction × RotationGesture) :=
  match gesture.state with
  | .began => .ok (scene, interaction.trackObject gesture.touches, gesture)
  | .changed =>
    match interaction.trackedObject with
    -- `trackedObject?` skips the assignment only, the recognizer is reset all the same.
    | none => .ok (scene, interaction, { gesture with rotation := 0 })
    | some object => do
      let rotated ← (scene.objects object).rotate gesture.rotation
      .ok (scene.modify object fun _ => rotated, interaction, { gesture with rotation := 0 })
  | _ => .ok (scene, interaction.setTrackedObject none, gesture)

def scaleObject (interaction : VirtualObjectInteraction) (scene : Scene)
    (gesture : PinchGesture) :
    Except FatalError (Scene × VirtualObjectInteraction × PinchGesture) :=
  match gesture.state with
  | .began => .ok (scene, interaction.trackObject gesture.touches, gesture)
  | .changed =>
    match interaction.trackedObject with
    -- Here the guard returns before the recognizer is reset.
    | none => .ok (scene, interaction, gesture)
    | some object => do
      let scaled ← (scene.objects object).pinch gesture.scale
      .ok (scene.modify object fun _ => scaled, interaction, { gesture with scale := 1 })
  | _ => .ok (scene, interaction.setTrackedObject none, gesture)

/-- What the rotation and the pinch handler have in common: all that they can do to the
scene and to the interaction. -/
inductive Reshaping (interaction : VirtualObjectInteraction) (scene : Scene)
    (touches : GestureTouches) : GestureState → Scene → VirtualObjectInteraction → Prop where
  | began : Reshaping interaction scene touches .began scene (interaction.trackObject touches)
  | ignored (untracked : interaction.trackedObject = none) :
      Reshaping interaction scene touches .changed scene interaction
  | changed (object : ObjectRef) (after : VirtualObject)
      (tracked : interaction.trackedObject = some object)
      (reshaped : VirtualObject.Reshaped (scene.objects object) after) :
      Reshaping interaction scene touches .changed (scene.modify object fun _ => after)
        interaction
  | finished (state : GestureState) (lifted : state ≠ .began ∧ state ≠ .changed) :
      Reshaping interaction scene touches state scene (interaction.setTrackedObject none)

theorem Reshaping.loader {interaction after : VirtualObjectInteraction} {scene next : Scene}
    {touches : GestureTouches} {state : GestureState}
    (reshaping : interaction.Reshaping scene touches state next after) :
    next.loader = scene.loader := by
  cases reshaping <;> rfl

@[simp]
theorem didPan_loader (interaction : VirtualObjectInteraction) (scene : Scene)
    (gesture : PanGesture) (view : SceneView) :
    (interaction.didPan scene gesture view).1.loader = scene.loader := by
  unfold didPan
  split
  · rfl
  · split
    · split
      · rfl
      · exact Scene.translate_loader ..
    · rfl
  · split
    · rfl
    · exact Scene.setDown_loader ..
  · rfl

theorem didRotate_reshaping {interaction after : VirtualObjectInteraction} {scene next : Scene}
    {gesture left : RotationGesture}
    (handled : interaction.didRotate scene gesture = .ok (next, after, left)) :
    Reshaping interaction scene gesture.touches gesture.state next after := by
  unfold didRotate at handled
  split at handled
  next began =>
    cases handled
    rw [began]
    exact .began
  next changed =>
    rw [changed]
    split at handled
    next untracked =>
      cases handled
      exact .ignored untracked
    next object tracked =>
      cases rotated : (scene.objects object).rotate gesture.rotation with
      | error reason => simp [rotated, bind, Except.bind] at handled
      | ok reshaped =>
        simp only [rotated, bind, Except.bind] at handled
        cases handled
        exact .changed object reshaped tracked (VirtualObject.rotate_reshaped rotated)
  next notBegan notChanged =>
    cases handled
    exact .finished _ ⟨notBegan, notChanged⟩

/-- The handler succeeds if the object that it is about to rotate has a child node. -/
theorem didRotate_ok {interaction : VirtualObjectInteraction} {scene : Scene}
    {gesture : RotationGesture} (loaded : gesture.state = .changed →
      ∀ object, interaction.trackedObject = some object →
        (scene.objects object).childNodes ≠ []) :
    ∃ result, interaction.didRotate scene gesture = .ok result := by
  unfold didRotate
  split
  · exact ⟨_, rfl⟩
  next changed =>
    split
    · exact ⟨_, rfl⟩
    next object tracked =>
      obtain ⟨rotated, ok⟩ := VirtualObject.rotate_ok (loaded changed object tracked)
        gesture.rotation
      rw [ok]
      exact ⟨_, rfl⟩
  · exact ⟨_, rfl⟩

theorem scaleObject_reshaping {interaction after : VirtualObjectInteraction} {scene next : Scene}
    {gesture left : PinchGesture}
    (handled : interaction.scaleObject scene gesture = .ok (next, after, left)) :
    Reshaping interaction scene gesture.touches gesture.state next after := by
  unfold scaleObject at handled
  split at handled
  next began =>
    cases handled
    rw [began]
    exact .began
  next changed =>
    rw [changed]
    split at handled
    next untracked =>
      cases handled
      exact .ignored untracked
    next object tracked =>
      cases pinched : (scene.objects object).pinch gesture.scale with
      | error reason => simp [pinched, bind, Except.bind] at handled
      | ok reshaped =>
        simp only [pinched, bind, Except.bind] at handled
        cases handled
        exact .changed object reshaped tracked (VirtualObject.pinch_reshaped pinched)
  next notBegan notChanged =>
    cases handled
    exact .finished _ ⟨notBegan, notChanged⟩

theorem scaleObject_ok {interaction : VirtualObjectInteraction} {scene : Scene}
    {gesture : PinchGesture} (loaded : gesture.state = .changed →
      ∀ object, interaction.trackedObject = some object →
        (scene.objects object).childNodes ≠ []) :
    ∃ result, interaction.scaleObject scene gesture = .ok result := by
  unfold scaleObject
  split
  · exact ⟨_, rfl⟩
  next changed =>
    split
    · exact ⟨_, rfl⟩
    next object tracked =>
      obtain ⟨scaled, ok⟩ := VirtualObject.pinch_ok (loaded changed object tracked) gesture.scale
      rw [ok]
      exact ⟨_, rfl⟩
  · exact ⟨_, rfl⟩

def didTap (interaction : VirtualObjectInteraction) (hitTestResults : List SceneNode) :
    VirtualObjectInteraction :=
  match virtualObjectAt hitTestResults with
  | some tappedObject => { interaction with selectedObject := some tappedObject }
  | none => interaction

end VirtualObjectInteraction

end FurnitureAR
