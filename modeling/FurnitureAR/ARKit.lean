import Mathlib.Data.Rat.Defs
import Mathlib.Logic.Function.Basic

/-!
# What the screen uses of ARKit and SceneKit

Values that the frameworks hand to the program, and the part of `ARSession` that the
program changes: its object anchors and its tracked raycasts. Coordinates are exact.
-/
namespace FurnitureAR

structure CGPoint where
  x : ℚ
  y : ℚ
  deriving DecidableEq

namespace CGPoint

def zero : CGPoint := ⟨0, 0⟩

end CGPoint

structure SIMD3 where
  x : ℚ
  y : ℚ
  z : ℚ
  deriving DecidableEq

/-- Orientations are only ever copied or interpolated, so they stay symbolic. -/
inductive Orientation where
  | identity
  | measured (quaternion : ℚ × ℚ × ℚ × ℚ)
  | slerp (start finish : Orientation) (amount : ℚ)
  deriving DecidableEq

structure Transform where
  translation : SIMD3
  orientation : Orientation
  deriving DecidableEq

def Transform.identity : Transform := ⟨⟨0, 0, 0⟩, .identity⟩

inductive TargetAlignment where
  | any
  | horizontal
  | vertical
  deriving DecidableEq

structure ARRaycastQuery where
  point : CGPoint
  alignment : TargetAlignment
  deriving DecidableEq

abbrev AnchorIdentifier := Nat

/-- Anchors are equal when their identifiers are. -/
structure ARAnchor where
  identifier : AnchorIdentifier
  transform : Transform
  deriving DecidableEq

/-- Results are reference objects: `reference` tells apart two that carry equal values. -/
structure ARRaycastResult where
  reference : Nat
  worldTransform : Transform
  planeAnchor : Option AnchorIdentifier
  deriving DecidableEq

inductive TrackingStateReason where
  | initializing
  | excessiveMotion
  | insufficientFeatures
  | relocalizing
  deriving DecidableEq

inductive TrackingState where
  | notAvailable
  | limited (reason : TrackingStateReason)
  | normal
  deriving DecidableEq

structure ARCamera where
  reference : Nat
  trackingState : TrackingState
  transform : Transform
  deriving DecidableEq

/-- A reference to one of the shared `VirtualObject` nodes. -/
abbrev ObjectRef := Nat

/-- A reference to an `ARTrackedRaycast`. -/
abbrev RaycastRef := Nat

/-- The session as the program drives it. A tracked raycast is live from its creation to
`stopTracking`; while it lives, its update handler moves the object that it captured. -/
structure ARSession where
  isRunning : Bool := false
  anchors : List AnchorIdentifier := []
  nextAnchor : AnchorIdentifier := 0
  raycasts : RaycastRef → Option ObjectRef := fun _ => none
  nextRaycast : RaycastRef := 0

namespace ARSession

/-- `run(_:options:)` with `[.resetTracking, .removeExistingAnchors]`. -/
def runResettingTracking (session : ARSession) : ARSession :=
  -- Tracked raycasts live until they are stopped, so only the anchors go.
  { session with isRunning := true, anchors := [] }

def pause (session : ARSession) : ARSession := { session with isRunning := false }

def add (session : ARSession) (anchor : ARAnchor) : ARSession :=
  { session with anchors := session.anchors ++ [anchor.identifier] }

def remove (session : ARSession) (anchor : ARAnchor) : ARSession :=
  { session with anchors := session.anchors.filter (· ≠ anchor.identifier) }

/-- `ARAnchor(transform:)` makes an anchor that no other anchor is equal to. -/
def makeAnchor (session : ARSession) (transform : Transform) : ARAnchor × ARSession :=
  -- Two anchors are equal when their identifiers are, so a fresh number stands for the UUID.
  (⟨session.nextAnchor, transform⟩, { session with nextAnchor := session.nextAnchor + 1 })

/-- `trackedRaycast(_:updateHandler:)` may give nothing; `granted` is ARKit's choice. -/
def trackedRaycast (session : ARSession) (object : ObjectRef) (granted : Bool) :
    Option RaycastRef × ARSession :=
  if granted then
    (some session.nextRaycast,
      { session with
        raycasts := Function.update session.raycasts session.nextRaycast (some object)
        nextRaycast := session.nextRaycast + 1 })
  else (none, session)

def stopTracking (session : ARSession) (raycast : RaycastRef) : ARSession :=
  { session with raycasts := Function.update session.raycasts raycast none }

/-- The session when some raycasts have been stopped. -/
def without (session : ARSession) (stopped : RaycastRef → Prop) [DecidablePred stopped] :
    ARSession :=
  { session with
    raycasts := fun raycast => if stopped raycast then none else session.raycasts raycast }

theorem stopTracking_eq (session : ARSession) (raycast : RaycastRef) :
    session.stopTracking raycast = session.without (raycast = ·) := by
  simp only [stopTracking, without, mk.injEq, true_and, and_true]
  funext other
  simp [Function.update_apply, eq_comm]

end ARSession

end FurnitureAR
