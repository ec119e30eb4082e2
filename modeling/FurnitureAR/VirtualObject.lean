import FurnitureAR.ARKit
import Mathlib.Data.List.Infix

/-!
# Virtual objects

`VirtualObject` is a reference node: its model file is loaded below it as child nodes and
unloaded again, while the object itself, being static, outlives every placement.
-/
namespace FurnitureAR

/-- The unwrapped `nil`s and `fatalError`s that the modelled code can run into. -/
inductive FatalError where
  | unexpectedlyFoundNil
  | noRaycastResult
  | sceneNotLoaded
  deriving DecidableEq

/-- A child node, as far as the gestures change it. -/
structure ChildNode where
  eulerAngleY : ℚ
  scale : ℚ × ℚ × ℚ
  deriving DecidableEq

/-- What a model file holds; there is at least one node in it. -/
structure ModelContent where
  first : ChildNode
  others : List ChildNode

def ModelContent.nodes (content : ModelContent) : List ChildNode :=
  content.first :: content.others

inductive ParentNode where
  | rootNode
  deriving DecidableEq

structure VirtualObject where
  /-- The last path component of `referenceURL`. -/
  referenceName : String
  childNodes : List ChildNode := []
  parent : Option ParentNode := none
  isHidden : Bool := false
  simdWorldTransform : Transform := .identity
  anchor : Option ARAnchor := none
  raycastQuery : Option ARRaycastQuery := none
  raycast : Option RaycastRef := none
  mostRecentInitialPlacementResult : Option ARRaycastResult := none
  shouldUpdateAnchor : Bool := false

namespace VirtualObject

/-! ## Names -/

/-- `replacingOccurrences(of: target, with: "")`, leftmost occurrences first; `skip`
counts the characters of the current occurrence that are still to be dropped. -/
def removingOccurrences (target : List Char) : Nat → List Char → List Char
  | _, [] => []
  | skip + 1, _ :: rest => removingOccurrences target skip rest
  | 0, c :: rest =>
    -- The matched character is dropped here, and `skip` drops the rest of the occurrence.
    if target.isPrefixOf (c :: rest) then removingOccurrences target (target.length - 1) rest
    else c :: removingOccurrences target 0 rest

def modelName (object : VirtualObject) : List Char :=
  removingOccurrences ".scn".toList 0 object.referenceName.toList

/-- `modelName.contains("\(id)")` -/
def hasId (object : VirtualObject) (id : Int) : Bool :=
  decide ((toString id).toList <:+: object.modelName)

/-- The first of the available objects whose name contains the digits of `id`. -/
def byId (objects : ObjectRef → VirtualObject) (availableObjects : List ObjectRef) (id : Int) :
    Option ObjectRef :=
  availableObjects.find? fun object => (objects object).hasId id

def allowedAlignment (_ : VirtualObject) : TargetAlignment := .horizontal

/-! ## The reference node -/

/-- `SCNReferenceNode.load()` does nothing when the content is already loaded. -/
def load (content : ModelContent) (object : VirtualObject) : VirtualObject :=
  -- A loaded reference node ignores `load()`, whichever file it was loaded from.
  if object.childNodes.isEmpty then { object with childNodes := content.nodes } else object

def unload (object : VirtualObject) : VirtualObject := { object with childNodes := [] }

def removeFromParentNode (object : VirtualObject) : VirtualObject := { object with parent := none }

theorem load_childNodes_ne_nil (content : ModelContent) (object : VirtualObject) :
    (object.load content).childNodes ≠ [] := by
  unfold load
  split
  · exact List.cons_ne_nil _ _
  next loaded => simpa using loaded

/-! ## The first child node

`childNodes.first!` stops the program when the object is not loaded.
-/

def firstChild (object : VirtualObject) : Except FatalError ChildNode :=
  match object.childNodes with
  | [] => .error .unexpectedlyFoundNil
  | first :: _ => .ok first

def setFirstChild (object : VirtualObject) (child : ChildNode) : Except FatalError VirtualObject :=
  match object.childNodes with
  | [] => .error .unexpectedlyFoundNil
  | _ :: others => .ok { object with childNodes := child :: others }

def objectRotation (object : VirtualObject) : Except FatalError ℚ :=
  object.firstChild.map ChildNode.eulerAngleY

def setObjectRotation (object : VirtualObject) (rotation : ℚ) :
    Except FatalError VirtualObject := do
  let child ← object.firstChild
  object.setFirstChild { child with eulerAngleY := rotation }

def objectScale (object : VirtualObject) : Except FatalError (ℚ × ℚ × ℚ) :=
  object.firstChild.map ChildNode.scale

def setObjectScale (object : VirtualObject) (scale : ℚ × ℚ × ℚ) :
    Except FatalError VirtualObject := do
  let child ← object.firstChild
  object.setFirstChild { child with scale := scale }

/-- `objectRotation -= rotation` -/
def rotate (object : VirtualObject) (rotation : ℚ) : Except FatalError VirtualObject := do
  let current ← object.objectRotation
  object.setObjectRotation (current - rotation)

/-- The body of `scaleObject`: every axis is scaled by the same factor. -/
def pinch (object : VirtualObject) (scale : ℚ) : Except FatalError VirtualObject := do
  let (x, y, z) ← object.objectScale
  object.setObjectScale (scale * x, scale * y, scale * z)

/-- Reshaping the first child touches nothing else, and needs that there is one. -/
structure Reshaped (before after : VirtualObject) : Prop where
  loaded : before.childNodes ≠ []
  stillLoaded : after.childNodes ≠ []
  same : after = { before with childNodes := after.childNodes }

theorem setFirstChild_reshaped {object after : VirtualObject} {child : ChildNode}
    (set : object.setFirstChild child = .ok after) : Reshaped object after := by
  unfold setFirstChild at set
  split at set
  · cases set
  next nodes =>
    cases set
    exact ⟨by simp [nodes], by simp, rfl⟩

theorem rotate_reshaped {object after : VirtualObject} {rotation : ℚ}
    (rotated : object.rotate rotation = .ok after) : Reshaped object after := by
  cases first : object.firstChild with
  | error reason => simp [rotate, objectRotation, first, bind, Except.bind, Except.map] at rotated
  | ok child =>
    simp only [rotate, objectRotation, setObjectRotation, first, bind, Except.bind,
      Except.map] at rotated
    exact setFirstChild_reshaped rotated

theorem pinch_reshaped {object after : VirtualObject} {scale : ℚ}
    (pinched : object.pinch scale = .ok after) : Reshaped object after := by
  cases first : object.firstChild with
  | error reason => simp [pinch, objectScale, first, bind, Except.bind, Except.map] at pinched
  | ok child =>
    simp only [pinch, objectScale, setObjectScale, first, bind, Except.bind,
      Except.map] at pinched
    exact setFirstChild_reshaped pinched

theorem rotate_ok {object : VirtualObject} (loaded : object.childNodes ≠ []) (rotation : ℚ) :
    ∃ after, object.rotate rotation = .ok after := by
  cases nodes : object.childNodes with
  | nil => exact absurd nodes loaded
  | cons first others =>
    simp [rotate, objectRotation, setObjectRotation, firstChild, setFirstChild, nodes, bind,
      Except.bind, Except.map]

theorem pinch_ok {object : VirtualObject} (loaded : object.childNodes ≠ []) (scale : ℚ) :
    ∃ after, object.pinch scale = .ok after := by
  cases nodes : object.childNodes with
  | nil => exact absurd nodes loaded
  | cons first others =>
    simp [pinch, objectScale, setObjectScale, firstChild, setFirstChild, nodes, bind,
      Except.bind, Except.map]

end VirtualObject

end FurnitureAR
