import FurnitureAR.FocusSquare
import Mathlib.Data.List.Forall2

/-!
# The phases of the focus square

Whatever is assigned and whenever the completion blocks are called, the square goes round one
circle of five phases. A phase determines all that the animations change, so the segments never
drift.
-/
namespace FurnitureAR

open Execution

namespace FocusSquare

/-- The blocks that end an animation, or a part of it. -/
def Completion.isAnimation : Completion → Bool
  | .opened | .dimmed | .closed => true
  | .turned => false

/-- What the animations change. -/
structure Shape where
  isOpen : Bool
  isAnimating : Bool
  isPulsing : Bool
  segments : List Segment
  pending : List Completion

def shape (square : FocusSquare) : Shape where
  isOpen := square.isOpen
  isAnimating := square.isAnimating
  isPulsing := square.isPulsing
  segments := square.segments
  pending := square.completions.filter Completion.isAnimation

inductive Phase where
  | opening
  | opened
  | dimming
  | closing
  | closed

def openSegments : List Segment := initialSegments.map Segment.openSegment

namespace Phase

def shape : Phase → Shape
  | opening => ⟨true, true, false, openSegments, [.opened]⟩
  | opened => ⟨true, false, true, openSegments, []⟩
  | dimming => ⟨false, true, false, openSegments, [.dimmed]⟩
  | closing => ⟨false, true, false, initialSegments, [.closed]⟩
  | closed => ⟨false, false, false, initialSegments, []⟩

/-- Only a closed square is opened. -/
def performOpen : Phase → Phase
  | closed => opening
  | phase => phase

/-- Only an open square is closed. -/
def performClose : Phase → Phase
  | opened => dimming
  | phase => phase

/-- The pending completion block is called. -/
def complete : Phase → Phase
  | opening => opened
  | dimming => closing
  | closing => closed
  | phase => phase

end Phase

/-- The animations have left the square in one of the phases. -/
def InPhase (square : FocusSquare) (phase : Phase) : Prop := square.shape = phase.shape

/-- Without a drift: one chain of completion blocks at most, and apart from the animations the
segments of the closed square, or these opened once. -/
structure DriftFree (square : FocusSquare) : Prop where
  single : (square.completions.filter Completion.isAnimation).length ≤ 1
  pending : square.completions.filter Completion.isAnimation ≠ [] ↔ square.isAnimating = true
  closed : square.isAnimating = false → square.isOpen = false →
    square.segments = initialSegments
  opened : square.isAnimating = false → square.isOpen = true →
    List.Forall₂ Segment.OpenOf initialSegments square.segments
  pulsing : square.isPulsing = true ↔ square.isOpen = true ∧ square.isAnimating = false

variable {geometry : Geometry} {square next : FocusSquare} {phase : Phase}

theorem InPhase.isOpen (inPhase : InPhase square phase) : square.isOpen = phase.shape.isOpen :=
  congrArg Shape.isOpen inPhase

theorem InPhase.isAnimating (inPhase : InPhase square phase) :
    square.isAnimating = phase.shape.isAnimating :=
  congrArg Shape.isAnimating inPhase

/-! ## Segments -/

theorem extent_initialSegments : ∀ segment ∈ initialSegments, segment.extent = Segment.length := by
  simp [initialSegments, Segment.init, Segment.extent]

theorem openOf_openSegments : List.Forall₂ Segment.OpenOf initialSegments openSegments := by
  rw [openSegments, List.forall₂_map_right_iff]
  exact List.forall₂_same.mpr fun segment _ => segment.openOf_openSegment

theorem closeSegment_openSegments :
    openSegments.map Segment.closeSegment = initialSegments := by
  calc openSegments.map Segment.closeSegment
      = initialSegments.map (Segment.closeSegment ∘ Segment.openSegment) := by
        rw [openSegments, List.map_map]
    _ = initialSegments.map id :=
        List.map_congr_left fun segment member =>
          segment.closeSegment_openSegment (extent_initialSegments segment member)
    _ = initialSegments := List.map_id _

/-! ## What one event does -/

theorem shape_performOpenAnimation (inPhase : InPhase square phase) :
    InPhase square.performOpenAnimation phase.performOpen := by
  unfold InPhase shape at inPhase ⊢
  unfold performOpenAnimation
  cases phase with
  | closed =>
    simp only [Phase.shape, Shape.mk.injEq] at inPhase
    obtain ⟨isOpen, isAnimating, isPulsing, segments, pending⟩ := inPhase
    simp only [isOpen, isAnimating, Bool.not_false, Bool.and_self, if_true, isPulsing, segments,
      List.filter_append, pending]
    rfl
  -- An open or moving square ignores the request.
  | opening | opened | dimming | closing =>
    rw [if_neg]
    · exact inPhase
    · simp only [Phase.shape, Shape.mk.injEq] at inPhase
      simp [inPhase.1, inPhase.2.1]

theorem shape_performCloseAnimation (inPhase : InPhase square phase) (flash : Bool) :
    InPhase (square.performCloseAnimation flash) phase.performClose := by
  unfold InPhase shape at inPhase ⊢
  unfold performCloseAnimation
  cases phase with
  | opened =>
    simp only [Phase.shape, Shape.mk.injEq] at inPhase
    obtain ⟨isOpen, isAnimating, isPulsing, segments, pending⟩ := inPhase
    simp only [isOpen, isAnimating, Bool.not_false, Bool.and_self, if_true, segments,
      List.filter_append, pending]
    rfl
  | opening | dimming | closing | closed =>
    rw [if_neg]
    · exact inPhase
    · simp only [Phase.shape, Shape.mk.injEq] at inPhase
      simp [inPhase.1, inPhase.2.1]

/-- What is the same after the square has been moved and turned. -/
structure Moved (before after : FocusSquare) : Prop where
  state : after.state = before.state
  isOpen : after.isOpen = before.isOpen
  isAnimating : after.isAnimating = before.isAnimating
  isPulsing : after.isPulsing = before.isPulsing
  segments : after.segments = before.segments
  completions : after.completions = before.completions ∨
    after.completions = before.completions ++ [.turned]

theorem moved_setPosition (square : FocusSquare) (raycastResult : ARRaycastResult)
    (camera : Option ARCamera) :
    Moved square (square.setPosition geometry raycastResult camera) := by
  unfold setPosition updateTransform
  dsimp only
  split
  · exact ⟨rfl, rfl, rfl, rfl, rfl, .inl rfl⟩
  next camera =>
    split
    · unfold updateTilted
      split
      · exact ⟨rfl, rfl, rfl, rfl, rfl, .inl rfl⟩
      -- Only the turn for a camera that points downwards has a completion block.
      · exact ⟨rfl, rfl, rfl, rfl, rfl, .inr rfl⟩
    · unfold updateLevel
      dsimp only
      split <;> exact ⟨rfl, rfl, rfl, rfl, rfl, .inl rfl⟩

/-- Moving and turning the square does not touch its shape. -/
theorem shape_setPosition (raycastResult : ARRaycastResult) (camera : Option ARCamera) :
    (square.setPosition geometry raycastResult camera).shape = square.shape := by
  obtain ⟨-, isOpen, isAnimating, isPulsing, segments, completions⟩ :=
    square.moved_setPosition raycastResult camera
  unfold shape
  rw [isOpen, isAnimating, isPulsing, segments]
  rcases completions with same | turned
  · rw [same]
  · rw [turned, List.filter_append]
    congr 1
    exact List.append_nil _

theorem shape_unhide : square.unhide.shape = square.shape := by
  unfold unhide
  split <;> rfl

theorem shape_hide : square.hide.shape = square.shape := by
  unfold hide
  split <;> rfl

theorem shape_displayAsBillboard (inPhase : InPhase square phase) :
    InPhase (square.displayAsBillboard geometry) phase.performOpen := by
  apply shape_performOpenAnimation
  rw [InPhase, shape_unhide]
  exact inPhase

/-- Whether the state asks for a closed square. -/
def State.isOnPlane : State → Bool
  | .initializing => false
  | .detecting raycastResult _ => raycastResult.planeAnchor.isSome

/-- An assignment of another value asks for one of the two shapes. -/
theorem shape_setState (inPhase : InPhase square phase) (state : State) :
    InPhase (square.setState geometry state)
      (if state = square.state then phase
        else if state.isOnPlane then phase.performClose else phase.performOpen) := by
  have assigned : InPhase { square with state := state } phase := inPhase
  unfold setState
  dsimp only
  split
  · exact inPhase
  · cases state with
    | initializing => exact shape_displayAsBillboard assigned
    | detecting raycastResult camera =>
      dsimp only
      cases plane : raycastResult.planeAnchor with
      | some planeAnchor =>
        have onPlane : State.isOnPlane (.detecting raycastResult camera) = true := by
          simp [State.isOnPlane, plane]
        rw [if_pos onPlane]
        dsimp only
        rw [InPhase, displayAsClosed, shape_setPosition]
        exact shape_performCloseAnimation assigned _
      | none =>
        have offPlane : ¬ State.isOnPlane (.detecting raycastResult camera) = true := by
          simp [State.isOnPlane, plane]
        rw [if_neg offPlane]
        dsimp only
        rw [InPhase, displayAsOpen, shape_setPosition]
        exact shape_performOpenAnimation assigned

/-- A completion block that is called is no longer pending, the others are. -/
theorem filter_eraseIdx {completions : List Completion} {index : Nat} {completion : Completion}
    (found : completions[index]? = some completion) : ∃ before after,
      completions.filter Completion.isAnimation =
        before ++ [completion].filter Completion.isAnimation ++ after ∧
      (completions.eraseIdx index).filter Completion.isAnimation = before ++ after := by
  obtain ⟨inside, rfl⟩ := List.getElem?_eq_some_iff.mp found
  refine ⟨(completions.take index).filter Completion.isAnimation,
    (completions.drop (index + 1)).filter Completion.isAnimation, ?_, ?_⟩
  · rw [← List.filter_append, ← List.filter_append, List.append_assoc, List.singleton_append,
      List.getElem_cons_drop, List.take_append_drop]
  · rw [List.eraseIdx_eq_take_drop_succ, List.filter_append]

/-- Only one completion block of an animation is ever pending. -/
theorem Phase.pending_eq {completion : Completion} {before after : List Completion}
    (pending : phase.shape.pending = before ++ [completion] ++ after) :
    before = [] ∧ after = [] ∧ phase.shape.pending = [completion] := by
  have few : phase.shape.pending.length ≤ 1 := by cases phase <;> simp [Phase.shape]
  have lengths := congrArg List.length pending
  simp only [List.length_append, List.length_singleton] at lengths
  obtain rfl : before = [] := List.eq_nil_of_length_eq_zero (by omega)
  obtain rfl : after = [] := List.eq_nil_of_length_eq_zero (by omega)
  exact ⟨rfl, rfl, pending⟩

theorem shape_complete (inPhase : InPhase square phase) {index : Nat} {completion : Completion}
    (found : square.completions[index]? = some completion) :
    InPhase ({ square with completions := square.completions.eraseIdx index }.complete completion)
      (if completion.isAnimation then phase.complete else phase) := by
  obtain ⟨before, after, all, rest⟩ := filter_eraseIdx found
  have pending := congrArg Shape.pending inPhase
  rw [show square.shape.pending = _ from all] at pending
  cases completion with
  | turned =>
    rw [if_neg (by simp [Completion.isAnimation])]
    unfold InPhase shape at inPhase ⊢
    rw [← inPhase, all]
    simp only [complete, rest]
    simp [Completion.isAnimation]
  | opened | dimmed | closed =>
    obtain ⟨rfl, rfl, only⟩ := Phase.pending_eq pending.symm
    simp only [List.append_nil] at rest
    unfold InPhase shape at inPhase ⊢
    cases phase <;> simp only [Phase.shape, List.cons.injEq, reduceCtorEq, false_and,
      List.nil_eq, List.cons_ne_self] at only
    simp only [Phase.shape, Shape.mk.injEq] at inPhase
    obtain ⟨isOpen, isAnimating, isPulsing, segments, -⟩ := inPhase
    simp only [complete, rest, List.filter_append, isOpen, isAnimating, isPulsing, segments,
      closeSegment_openSegments]
    rfl

/-! ## Whole runs -/

theorem inPhase_init : InPhase (init geometry) .opening := by
  have closed : InPhase { segments := initialSegments, positioningScale :=
      size * scaleForClosedSquare } .closed := rfl
  exact shape_displayAsBillboard closed

theorem inPhase_step (inPhase : InPhase square phase) {event : Event}
    (taken : square.step geometry event = .ok next) : ∃ after, InPhase next after := by
  cases event with
  | setState state =>
    cases taken
    exact ⟨_, shape_setState inPhase state⟩
  | setPosition raycastResult camera =>
    cases taken
    exact ⟨phase, (shape_setPosition raycastResult camera).trans inPhase⟩
  | hide =>
    cases taken
    exact ⟨phase, shape_hide.trans inPhase⟩
  | unhide =>
    cases taken
    exact ⟨phase, shape_unhide.trans inPhase⟩
  | fadeFinished key =>
    obtain rfl := fadeFinished_cases taken
    exact ⟨phase, inPhase⟩
  | completed index =>
    obtain ⟨completion, found, rfl⟩ := completed_cases taken
    exact ⟨_, shape_complete inPhase found⟩

theorem InPhase.driftFree (inPhase : InPhase square phase) : DriftFree square := by
  unfold InPhase shape at inPhase
  cases phase <;>
    · simp only [Phase.shape, Shape.mk.injEq] at inPhase
      obtain ⟨isOpen, isAnimating, isPulsing, segments, pending⟩ := inPhase
      constructor <;> simp [*, openOf_openSegments]

/-- Opening and closing always alternate, so the shifts of the segments cancel. -/
theorem segments_never_drift (geometry : Geometry) (events : List Event) :
    Always (step geometry) DriftFree (init geometry) events := by
  have always : Always (step geometry) (fun square => ∃ phase, InPhase square phase)
      (init geometry) events := by
    apply always_of_invariant ?_ ⟨.opening, inPhase_init⟩
    rintro square event next ⟨phase, inPhase⟩ taken
    exact inPhase_step inPhase taken
  exact always.mono fun square ⟨phase, inPhase⟩ => inPhase.driftFree

end FocusSquare

end FurnitureAR
