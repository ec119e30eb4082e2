import FurnitureAR.ARKit
import Mathlib.Tactic.Common

/-!
# Segments of the focus square

The eight lines of the focus square. To open it each of them is shortened and moved to its corner;
to close it each of them is lengthened again and moved back. Lengths are exact here.
-/
namespace FurnitureAR

namespace FocusSquare

inductive Corner where
  | topLeft
  | topRight
  | bottomRight
  | bottomLeft
  deriving DecidableEq

inductive Alignment where
  | horizontal
  | vertical
  deriving DecidableEq

inductive Direction where
  | up
  | down
  | left
  | right
  deriving DecidableEq

def Direction.reversed : Direction → Direction
  | .up => .down
  | .down => .up
  | .left => .right
  | .right => .left

/-- A segment with the size of its plane. -/
structure Segment where
  corner : Corner
  alignment : Alignment
  planeWidth : ℚ
  planeHeight : ℚ
  position : SIMD3 := ⟨0, 0, 0⟩
  deriving DecidableEq

namespace Segment

def thickness : ℚ := 18 / 1000

def length : ℚ := 1 / 2

def openLength : ℚ := 1 / 5

def init (corner : Corner) (alignment : Alignment) : Segment :=
  match alignment with
  | .vertical => { corner, alignment, planeWidth := thickness, planeHeight := length }
  | .horizontal => { corner, alignment, planeWidth := length, planeHeight := thickness }

def openDirection (segment : Segment) : Direction :=
  match segment.corner, segment.alignment with
  | .topLeft, .horizontal => .left
  | .topLeft, .vertical => .up
  | .topRight, .horizontal => .right
  | .topRight, .vertical => .up
  | .bottomLeft, .horizontal => .left
  | .bottomLeft, .vertical => .down
  | .bottomRight, .horizontal => .right
  | .bottomRight, .vertical => .down

def updatePosition (segment : Segment) (offset : ℚ) (direction : Direction) : Segment :=
  let position := segment.position
  { segment with position :=
      match direction with
      | .left => { position with x := position.x - offset }
      | .right => { position with x := position.x + offset }
      | .up => { position with y := position.y - offset }
      | .down => { position with y := position.y + offset } }

/-- `open()` -/
def openSegment (segment : Segment) : Segment :=
  let segment :=
    if segment.alignment = .horizontal then { segment with planeWidth := openLength }
    else { segment with planeHeight := openLength }
  -- The offset is that of a closed segment, whatever the length has been.
  let offset := length / 2 - openLength / 2
  segment.updatePosition offset segment.openDirection

/-- `close()` -/
def closeSegment (segment : Segment) : Segment :=
  let (oldLength, segment) :=
    if segment.alignment = .horizontal then
      (segment.planeWidth, { segment with planeWidth := length })
    else (segment.planeHeight, { segment with planeHeight := length })
  let offset := length / 2 - oldLength / 2
  segment.updatePosition offset segment.openDirection.reversed

/-- The length of the line, which lies along the alignment. -/
def extent (segment : Segment) : ℚ :=
  match segment.alignment with
  | .horizontal => segment.planeWidth
  | .vertical => segment.planeHeight

def withExtent (segment : Segment) (extent : ℚ) : Segment :=
  match segment.alignment with
  | .horizontal => { segment with planeWidth := extent }
  | .vertical => { segment with planeHeight := extent }

/-- How far segments are moved to be open. -/
def openOffset : ℚ := length / 2 - openLength / 2

/-- A segment of the open square, and the one of the closed square that it has been. -/
structure OpenOf (closed segment : Segment) : Prop where
  corner : segment.corner = closed.corner
  alignment : segment.alignment = closed.alignment
  extent : segment.extent = openLength
  position : segment.position = (closed.updatePosition openOffset closed.openDirection).position

variable (segment : Segment)

theorem openSegment_eq : segment.openSegment =
    (segment.withExtent openLength).updatePosition openOffset segment.openDirection := by
  unfold openSegment withExtent
  cases segment with
  | mk corner alignment planeWidth planeHeight position => cases alignment <;> rfl

theorem closeSegment_eq : segment.closeSegment =
    (segment.withExtent length).updatePosition (length / 2 - segment.extent / 2)
      segment.openDirection.reversed := by
  unfold closeSegment withExtent extent
  cases segment with
  | mk corner alignment planeWidth planeHeight position => cases alignment <;> rfl

@[simp]
theorem extent_withExtent (extent : ℚ) : (segment.withExtent extent).extent = extent := by
  unfold withExtent Segment.extent
  cases alignment : segment.alignment <;> simp

@[simp]
theorem openDirection_withExtent (extent : ℚ) :
    (segment.withExtent extent).openDirection = segment.openDirection := by
  unfold withExtent
  split <;> rfl

theorem withExtent_withExtent (first second : ℚ) :
    (segment.withExtent first).withExtent second = segment.withExtent second := by
  unfold withExtent
  cases alignment : segment.alignment <;> simp

theorem withExtent_extent : segment.withExtent segment.extent = segment := by
  unfold withExtent extent
  cases segment with
  | mk corner alignment planeWidth planeHeight position => cases alignment <;> rfl

@[simp]
theorem extent_updatePosition (offset : ℚ) (direction : Direction) :
    (segment.updatePosition offset direction).extent = segment.extent := rfl

@[simp]
theorem openDirection_updatePosition (offset : ℚ) (direction : Direction) :
    (segment.updatePosition offset direction).openDirection = segment.openDirection := rfl

theorem withExtent_updatePosition (offset : ℚ) (direction : Direction) (extent : ℚ) :
    (segment.updatePosition offset direction).withExtent extent =
      (segment.withExtent extent).updatePosition offset direction := by
  unfold withExtent
  cases segment with
  | mk corner alignment planeWidth planeHeight position => cases alignment <;> rfl

theorem updatePosition_reversed (offset : ℚ) (direction : Direction) :
    (segment.updatePosition offset direction).updatePosition offset direction.reversed =
      segment := by
  cases direction <;> simp [updatePosition, Direction.reversed]

/-- Opening moves a segment once, by the open offset in its open direction. -/
theorem openOf_openSegment : OpenOf segment segment.openSegment := by
  rw [openSegment_eq]
  refine ⟨?_, ?_, by simp, ?_⟩ <;> unfold withExtent <;> split <;> rfl

/-- Closing undoes what opening has done to a segment of full length. -/
theorem closeSegment_openSegment (full : segment.extent = length) :
    segment.openSegment.closeSegment = segment := by
  -- The amount that it is moved back by is computed from the open length.
  have moved : segment.openSegment.extent = openLength := (openOf_openSegment segment).extent
  rw [closeSegment_eq, moved, ← openOffset, openSegment_eq, withExtent_updatePosition,
    withExtent_withExtent, ← full, withExtent_extent, openDirection_updatePosition,
    openDirection_withExtent, updatePosition_reversed]

end Segment

end FocusSquare

end FurnitureAR
