import FurnitureAR.FocusSquareSegment
import FurnitureAR.Library.Execution
import FurnitureAR.Scene
import Mathlib.Algebra.Order.Group.Abs
import Mathlib.Algebra.Order.Ring.Rat

/-!
# The focus square

Every assignment to its state displays it as a billboard, open or closed, and moves it. Animations
end in completion blocks, which are called at some later moment; a request that comes while the
square is being opened or closed is dropped.
-/
namespace FurnitureAR

namespace SIMD3

def add (vector other : SIMD3) : SIMD3 :=
  ⟨vector.x + other.x, vector.y + other.y, vector.z + other.z⟩

def div (vector : SIMD3) (divisor : ℚ) : SIMD3 :=
  ⟨vector.x / divisor, vector.y / divisor, vector.z / divisor⟩

end SIMD3

/-- What SceneKit and simd compute of cameras and positions. -/
structure Geometry where
  eulerAngleX : ARCamera → ℚ
  /-- `atan2f(camera.transform.columns.0.x, camera.transform.columns.1.x)` -/
  yaw : ARCamera → ℚ
  /-- `simd_quatf(angle: yaw, axis: [0, 1, 0])` -/
  rotation : ℚ → Orientation
  /-- The orientation with `eulerAngles.x = .pi / 2`. -/
  upright : Orientation
  /-- `simd_length` of the difference. -/
  distance : SIMD3 → SIMD3 → ℚ

namespace FocusSquare

/-- The completion blocks of the transactions. -/
inductive Completion where
  /-- The segments have been opened. -/
  | opened
  /-- The square has been dimmed before its segments are closed. -/
  | dimmed
  /-- The segments have been closed. -/
  | closed
  /-- The square has been turned while the camera points downwards. -/
  | turned
  deriving DecidableEq

/-- The keys of the actions that fade the square out and in. -/
inductive FadeKey where
  | hide
  | unhide
  deriving DecidableEq

end FocusSquare

structure FocusSquare where
  state : FocusSquare.State := .initializing
  isOpen : Bool := false
  isAnimating : Bool := false
  isChangingOrientation : Bool := false
  isPointingDownwards : Bool := true
  recentFocusSquarePositions : List SIMD3 := []
  anchorsOfVisitedPlanes : List AnchorIdentifier := []
  segments : List FocusSquare.Segment := []
  counterToNextOrientationUpdate : Int := 0
  simdTransform : Transform := .identity
  simdScale : ℚ := 1
  /-- The positioning node, with its action "pulse". -/
  positioningScale : ℚ := 1
  positioningOpacity : ℚ := 1
  isPulsing : Bool := false
  isOnTop : Bool := false
  /-- The actions that have not finished. -/
  fades : List FocusSquare.FadeKey := []
  /-- How often the square has flashed. -/
  flashes : Nat := 0
  /-- The completion blocks that have not been called yet. -/
  completions : List FocusSquare.Completion := []

namespace FocusSquare

variable (geometry : Geometry) (square : FocusSquare)

def size : ℚ := 17 / 100

def thickness : ℚ := 18 / 1000

def scaleForClosedSquare : ℚ := 97 / 100

/-! ## Animations -/

def performOpenAnimation : FocusSquare :=
  if !square.isOpen && !square.isAnimating then
    { square with
      isOpen := true
      isAnimating := true
      positioningOpacity := 1
      segments := square.segments.map Segment.openSegment
      completions := square.completions ++ [.opened]
      positioningScale := size }
  -- The request is forgotten.
  else square

def performCloseAnimation (flash : Bool) : FocusSquare :=
  if square.isOpen && !square.isAnimating then
    { square with
      isOpen := false
      isAnimating := true
      isPulsing := false
      positioningOpacity := 99 / 100
      completions := square.completions ++ [.dimmed]
      flashes := if flash then square.flashes + 1 else square.flashes }
  else square

/-- The completion blocks. -/
def complete : Completion → FocusSquare
  | .opened => { square with isPulsing := true, isAnimating := false }
  -- Only now the segments are closed, in a transaction of its own.
  | .dimmed => { square with
      segments := square.segments.map Segment.closeSegment
      completions := square.completions ++ [.closed] }
  | .closed => { square with isAnimating := false }
  | .turned => { square with isChangingOrientation := false, isPointingDownwards := true }

/-! ## Position and orientation -/

/-- `.pi / 2 * 0.75`, in single precision. -/
def tiltThreshold : ℚ := 9882596 / 8388608

def isTilted (camera : ARCamera) : Bool := tiltThreshold < |geometry.eulerAngleX camera|

def scaleBasedOnDistance (camera : Option ARCamera) : ℚ :=
  match camera with
  | none => 1
  | some camera =>
    -- The parent is the root node, so the position is that in the world.
    let distanceFromCamera :=
      geometry.distance square.simdTransform.translation camera.transform.translation
    if distanceFromCamera < 7 / 10 then distanceFromCamera / (7 / 10)
    else 1 / 4 * distanceFromCamera + 825 / 1000

/-- Whether a call with a level camera updates the orientation. -/
def isOrientationDue : Bool :=
  square.counterToNextOrientationUpdate = 30 || square.isPointingDownwards

def updateOrientation (raycastResult : ARRaycastResult) : FocusSquare :=
  { square with simdTransform :=
      { square.simdTransform with orientation := raycastResult.worldTransform.orientation } }

/-- The branch of `updateTransform` for a camera that points downwards. -/
def updateTilted (camera : ARCamera) : FocusSquare :=
  if square.isChangingOrientation then square
  else
    { square with
      isChangingOrientation := true
      simdTransform := { square.simdTransform with
        orientation := geometry.rotation (geometry.yaw camera) }
      completions := square.completions ++ [.turned] }

/-- The branch of `updateTransform` for a level camera. -/
def updateLevel (raycastResult : ARRaycastResult) : FocusSquare :=
  let square :=
    if square.isOrientationDue then
      { square with
        counterToNextOrientationUpdate := 0
        isPointingDownwards := false }.updateOrientation raycastResult
    else square
  { square with
    counterToNextOrientationUpdate := square.counterToNextOrientationUpdate + 1 }

/-- The average of several most recent positions, and the scale that belongs to it. -/
def updatePosition (camera : Option ARCamera) : FocusSquare :=
  let recent := square.recentFocusSquarePositions.drop
    (square.recentFocusSquarePositions.length - 10)
  let average := (recent.foldl SIMD3.add ⟨0, 0, 0⟩).div recent.length
  let square := { square with
    recentFocusSquarePositions := recent
    simdTransform := { square.simdTransform with translation := average } }
  { square with simdScale := square.scaleBasedOnDistance geometry camera }

def updateTransform (raycastResult : ARRaycastResult) (camera : Option ARCamera) : FocusSquare :=
  let square := square.updatePosition geometry camera
  match camera with
  | none => square
  | some camera =>
    if isTilted geometry camera then square.updateTilted geometry camera
    else square.updateLevel raycastResult

def setPosition (raycastResult : ARRaycastResult) (camera : Option ARCamera) : FocusSquare :=
  let position := raycastResult.worldTransform.translation
  { square with
    recentFocusSquarePositions :=
      square.recentFocusSquarePositions ++ [position] }.updateTransform geometry
    raycastResult camera

/-! ## Appearance -/

def displayNodeHierarchyOnTop (isOnTop : Bool) : FocusSquare :=
  { square with isOnTop := isOnTop }

def hide : FocusSquare :=
  if .hide ∈ square.fades then square
  else { square.displayNodeHierarchyOnTop false with fades := square.fades ++ [.hide] }

def unhide : FocusSquare :=
  if .unhide ∈ square.fades then square
  else { square.displayNodeHierarchyOnTop true with fades := square.fades ++ [.unhide] }

def displayAsBillboard : FocusSquare :=
  -- The transform is reset as a whole, which resets the scale too.
  let square := { square with
    simdTransform := ⟨⟨0, 0, -8 / 10⟩, geometry.upright⟩
    simdScale := 1 }
  square.unhide.performOpenAnimation

def displayAsOpen (raycastResult : ARRaycastResult) (camera : Option ARCamera) : FocusSquare :=
  square.performOpenAnimation.setPosition geometry raycastResult camera

def displayAsClosed (raycastResult : ARRaycastResult) (planeAnchor : AnchorIdentifier)
    (camera : Option ARCamera) : FocusSquare :=
  let square := square.performCloseAnimation
    (!decide (planeAnchor ∈ square.anchorsOfVisitedPlanes))
  let square := { square with
    anchorsOfVisitedPlanes := square.anchorsOfVisitedPlanes.insert planeAnchor }
  square.setPosition geometry raycastResult camera

/-- An assignment to `state`, with its observer. -/
def setState (state : State) : FocusSquare :=
  let oldValue := square.state
  let square := { square with state := state }
  if state = oldValue then square
  else
    match state with
    | .initializing => square.displayAsBillboard geometry
    | .detecting raycastResult camera =>
      match raycastResult.planeAnchor with
      | some planeAnchor => square.displayAsClosed geometry raycastResult planeAnchor camera
      | none => square.displayAsOpen geometry raycastResult camera

/-- The segments `s1` to `s8`, as `init` places them. -/
def initialSegments : List Segment :=
  let sl := 1 / 2
  -- The correction that aligns the lines.
  let c := thickness / 2
  [{ Segment.init .topLeft .horizontal with position := ⟨-(sl / 2 - c), -(sl - c), 0⟩ },
    { Segment.init .topRight .horizontal with position := ⟨sl / 2 - c, -(sl - c), 0⟩ },
    { Segment.init .topLeft .vertical with position := ⟨-sl, -sl / 2, 0⟩ },
    { Segment.init .topRight .vertical with position := ⟨sl, -sl / 2, 0⟩ },
    { Segment.init .bottomLeft .vertical with position := ⟨-sl, sl / 2, 0⟩ },
    { Segment.init .bottomRight .vertical with position := ⟨sl, sl / 2, 0⟩ },
    { Segment.init .bottomLeft .horizontal with position := ⟨-(sl / 2 - c), sl - c, 0⟩ },
    { Segment.init .bottomRight .horizontal with position := ⟨sl / 2 - c, sl - c, 0⟩ }]

def init : FocusSquare :=
  let square : FocusSquare := {
    segments := initialSegments
    positioningScale := size * scaleForClosedSquare }
  -- The square starts as a billboard, so it is being opened from the beginning.
  (square.displayNodeHierarchyOnTop true).displayAsBillboard geometry

/-! ## Events -/

inductive Event where
  | setState (state : State)
  | setPosition (raycastResult : ARRaycastResult) (camera : Option ARCamera)
  | hide
  | unhide
  | fadeFinished (key : FadeKey)
  | completed (index : Nat)

inductive Refusal where
  | notPending

def step : Event → Except Refusal FocusSquare
  | .setState state => .ok (square.setState geometry state)
  | .setPosition raycastResult camera => .ok (square.setPosition geometry raycastResult camera)
  | .hide => .ok square.hide
  | .unhide => .ok square.unhide
  | .fadeFinished key =>
    if key ∈ square.fades then .ok { square with fades := square.fades.erase key }
    else .error .notPending
  -- The completion blocks may be called in any order.
  | .completed index =>
    match square.completions[index]? with
    | some completion =>
      .ok ({ square with completions := square.completions.eraseIdx index }.complete completion)
    | none => .error .notPending

variable {geometry square} {next : FocusSquare}

theorem fadeFinished_cases {key : FadeKey}
    (taken : square.step geometry (.fadeFinished key) = .ok next) :
    next = { square with fades := square.fades.erase key } := by
  simp only [step] at taken
  split at taken
  · exact (Except.ok.inj taken).symm
  · cases taken

/-- Only a pending completion block can be called. -/
theorem completed_cases {index : Nat}
    (taken : square.step geometry (.completed index) = .ok next) :
    ∃ completion, square.completions[index]? = some completion ∧
      next = { square with completions := square.completions.eraseIdx index }.complete
        completion := by
  simp only [step] at taken
  split at taken
  next completion found => exact ⟨completion, found, (Except.ok.inj taken).symm⟩
  · cases taken

end FocusSquare

end FurnitureAR
