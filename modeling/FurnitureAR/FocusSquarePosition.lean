import FurnitureAR.FocusSquareRequests
import FurnitureAR.Library.SlidingWindow

/-!
# The position of the focus square

The square is displayed at the average of the most recent positions to avoid jitter. Positions from
before the last time without a surface count as well, because nothing ever empties the window. The
average is the exact one, without the rounding of its sums.
-/
namespace FurnitureAR

open Execution
open SlidingWindow

namespace SIMD3

def average (positions : List SIMD3) : SIMD3 :=
  (positions.foldl add ⟨0, 0, 0⟩).div positions.length

def scale (factor : ℚ) (vector : SIMD3) : SIMD3 :=
  ⟨factor * vector.x, factor * vector.y, factor * vector.z⟩

/-- In a box with these corners. -/
structure Within (vector low high : SIMD3) : Prop where
  x : low.x ≤ vector.x ∧ vector.x ≤ high.x
  y : low.y ≤ vector.y ∧ vector.y ≤ high.y
  z : low.z ≤ vector.z ∧ vector.z ≤ high.z

/-- Sums are taken axis by axis. -/
theorem foldl_add (coordinate : SIMD3 → ℚ)
    (additive : ∀ vector other,
      coordinate (vector.add other) = coordinate vector + coordinate other)
    (positions : List SIMD3) (start : SIMD3) :
    coordinate (positions.foldl add start) =
      coordinate start + (positions.map coordinate).sum := by
  induction positions generalizing start with
  | nil => simp
  | cons first rest ih =>
    rw [List.foldl_cons, ih, additive, List.map_cons, List.sum_cons, add_assoc]

theorem average_eq (positions : List SIMD3) :
    average positions =
      { x := mean (positions.map SIMD3.x)
        y := mean (positions.map SIMD3.y)
        z := mean (positions.map SIMD3.z) } := by
  simp only [average, div, mean, List.length_map, SIMD3.mk.injEq]
  refine ⟨?_, ?_, ?_⟩
  · rw [foldl_add SIMD3.x fun _ _ => rfl, zero_add]
  · rw [foldl_add SIMD3.y fun _ _ => rfl, zero_add]
  · rw [foldl_add SIMD3.z fun _ _ => rfl, zero_add]

theorem within_average {low high : SIMD3} {positions : List SIMD3} (some : positions ≠ [])
    (within : ∀ position ∈ positions, position.Within low high) :
    (average positions).Within low high := by
  have between : ∀ coordinate : SIMD3 → ℚ,
      (∀ position ∈ positions, coordinate low ≤ coordinate position ∧
        coordinate position ≤ coordinate high) →
      coordinate low ≤ mean (positions.map coordinate) ∧
        mean (positions.map coordinate) ≤ coordinate high := by
    intro coordinate inside
    apply mean_between
    · simpa using some
    · intro value mapped
      obtain ⟨position, member, rfl⟩ := List.mem_map.mp mapped
      exact inside position member
  rw [average_eq]
  constructor
  · exact between SIMD3.x fun position member => (within position member).x
  · exact between SIMD3.y fun position member => (within position member).y
  · exact between SIMD3.z fun position member => (within position member).z

/-- One new position moves the average by a fraction of its distance to the oldest one. -/
theorem average_replace (oldest position : SIMD3) (rest : List SIMD3) :
    average (rest ++ [position]) = (average (oldest :: rest)).add
      (scale (1 / (rest.length + 1 : Nat)) (position.add (scale (-1) oldest))) := by
  simp only [average_eq, add, scale, List.map_append, List.map_cons, List.map_nil, SIMD3.mk.injEq]
  refine ⟨?_, ?_, ?_⟩
  · rw [mean_replace oldest.x, List.length_map]
    ring
  · rw [mean_replace oldest.y, List.length_map]
    ring
  · rw [mean_replace oldest.z, List.length_map]
    ring

end SIMD3

namespace FocusSquare

variable {geometry : Geometry} {square next : FocusSquare}

/-! ## What one event does -/

/-- The position that the square is moved to, if the event moves it on a surface. -/
def positionGiven (square : FocusSquare) : Event → Option SIMD3
  | .setPosition raycastResult _ => some raycastResult.worldTransform.translation
  | .setState (.detecting raycastResult camera) =>
    if .detecting raycastResult camera = square.state then none
    else some raycastResult.worldTransform.translation
  | _ => none

/-- How many positions are averaged. -/
def windowSize : Nat := 10

/-- The square has been moved to one more position. -/
structure MovedTo (position : SIMD3) (before after : FocusSquare) : Prop where
  recent : after.recentFocusSquarePositions =
    latest windowSize (before.recentFocusSquarePositions ++ [position])
  translation : after.simdTransform.translation =
    SIMD3.average (latest windowSize (before.recentFocusSquarePositions ++ [position]))

/-- The square is where it was. -/
structure StaysPut (before after : FocusSquare) : Prop where
  recent : after.recentFocusSquarePositions = before.recentFocusSquarePositions
  translation : after.simdTransform.translation = before.simdTransform.translation

/-- Turning the square leaves it where it is. -/
theorem movedTo_setPosition (raycastResult : ARRaycastResult) (camera : Option ARCamera) :
    MovedTo raycastResult.worldTransform.translation square
      (square.setPosition geometry raycastResult camera) := by
  unfold setPosition updateTransform
  cases camera with
  | none => exact ⟨rfl, rfl⟩
  | some camera =>
    dsimp only
    split
    · unfold updateTilted
      split <;> exact ⟨rfl, rfl⟩
    · unfold updateLevel
      dsimp only
      split <;> exact ⟨rfl, rfl⟩

theorem staysPut_performOpenAnimation : StaysPut square square.performOpenAnimation := by
  unfold performOpenAnimation
  split <;> exact ⟨rfl, rfl⟩

theorem staysPut_performCloseAnimation (flash : Bool) :
    StaysPut square (square.performCloseAnimation flash) := by
  unfold performCloseAnimation
  split <;> exact ⟨rfl, rfl⟩

theorem staysPut_unhide : StaysPut square square.unhide := by
  unfold unhide
  split <;> exact ⟨rfl, rfl⟩

theorem staysPut_hide : StaysPut square square.hide := by
  unfold hide
  split <;> exact ⟨rfl, rfl⟩

theorem MovedTo.after_stay {middle : FocusSquare} {position : SIMD3}
    (stays : StaysPut square middle) (moved : MovedTo position middle next) :
    MovedTo position square next := by
  obtain ⟨recent, translation⟩ := moved
  rw [stays.recent] at recent translation
  exact ⟨recent, translation⟩

theorem movedTo_setState {raycastResult : ARRaycastResult} {camera : Option ARCamera}
    (new : State.detecting raycastResult camera ≠ square.state) :
    MovedTo raycastResult.worldTransform.translation square
      (square.setState geometry (.detecting raycastResult camera)) := by
  let assigned : FocusSquare := { square with state := .detecting raycastResult camera }
  have closed := fun flash => @staysPut_performCloseAnimation assigned flash
  have opened := @staysPut_performOpenAnimation assigned
  unfold setState
  dsimp only
  rw [if_neg new]
  -- On a plane the square closes and elsewhere it opens; both happen before it is moved.
  split
  · apply MovedTo.after_stay _ (movedTo_setPosition raycastResult camera)
    exact ⟨(closed _).recent, (closed _).translation⟩
  · apply MovedTo.after_stay _ (movedTo_setPosition raycastResult camera)
    exact ⟨opened.recent, opened.translation⟩

/-- A billboard keeps the window of the surface that has been lost. -/
theorem recent_setState_initializing :
    (square.setState geometry .initializing).recentFocusSquarePositions =
      square.recentFocusSquarePositions := by
  unfold setState displayAsBillboard
  dsimp only
  split
  · rfl
  · rw [staysPut_performOpenAnimation.recent, staysPut_unhide.recent]

/-- An event gives the square a position, or leaves it where it is, or makes it a billboard. -/
theorem step_position {event : Event} (taken : square.step geometry event = .ok next) :
    (∃ position, square.positionGiven event = some position ∧ MovedTo position square next) ∨
      square.positionGiven event = none ∧
        next.recentFocusSquarePositions = square.recentFocusSquarePositions ∧
        (next.state = .initializing ∨
          next.state = square.state ∧
            next.simdTransform.translation = square.simdTransform.translation) := by
  have still : StaysPut square next → next.state = square.state →
      next.recentFocusSquarePositions = square.recentFocusSquarePositions ∧
        (next.state = .initializing ∨ next.state = square.state ∧
          next.simdTransform.translation = square.simdTransform.translation) :=
    fun stays same => ⟨stays.recent, .inr ⟨same, stays.translation⟩⟩
  cases event with
  | setState state =>
    cases taken
    cases state with
    | initializing => exact .inr ⟨rfl, recent_setState_initializing, .inl (state_setState _)⟩
    | detecting raycastResult camera =>
      -- A repeated state is no change and moves nothing.
      by_cases repeated : State.detecting raycastResult camera = square.state
      · refine .inr ⟨by simp [positionGiven, repeated], ?_⟩
        rw [repeated, setState_same]
        exact ⟨rfl, .inr ⟨rfl, rfl⟩⟩
      · exact .inl ⟨_, by simp [positionGiven, repeated], movedTo_setState repeated⟩
  | setPosition raycastResult camera =>
    cases taken
    exact .inl ⟨_, rfl, movedTo_setPosition raycastResult camera⟩
  | hide =>
    cases taken
    refine .inr ⟨rfl, still staysPut_hide ?_⟩
    unfold hide
    split <;> rfl
  | unhide =>
    cases taken
    refine .inr ⟨rfl, still staysPut_unhide ?_⟩
    unfold unhide
    split <;> rfl
  | fadeFinished key =>
    obtain rfl := fadeFinished_cases taken
    exact .inr ⟨rfl, rfl, .inr ⟨rfl, rfl⟩⟩
  | completed index =>
    obtain ⟨completion, -, rfl⟩ := completed_cases taken
    cases completion <;> exact .inr ⟨rfl, rfl, .inr ⟨rfl, rfl⟩⟩

/-! ## Whole runs -/

/-- The observer keeps all positions that the square has been moved to. -/
def observePositions (positions : List SIMD3) (square : FocusSquare) (event : Event)
    (_ : FocusSquare) : List SIMD3 :=
  positions ++ (square.positionGiven event).toList

abbrev PositionHistory := Observed FocusSquare (List SIMD3)

/-- On a surface the square is at the average of the most recent positions. -/
structure Averaged (history : PositionHistory) : Prop where
  recent : history.state.recentFocusSquarePositions = latest windowSize history.record
  translation : history.state.state ≠ .initializing →
    history.record ≠ [] ∧ history.state.simdTransform.translation =
      SIMD3.average (latest windowSize history.record)

theorem Averaged.step {positions : List SIMD3} (averaged : Averaged ⟨square, positions⟩)
    {event : Event} (taken : square.step geometry event = .ok next) :
    Averaged ⟨next, observePositions positions square event next⟩ := by
  have window : square.recentFocusSquarePositions = latest windowSize positions := averaged.recent
  unfold observePositions
  rcases step_position taken with ⟨position, given, recent, translation⟩ | ⟨none, recent, stays⟩
  -- The new position comes into the window of all positions, too.
  · rw [window, latest_latest_append] at recent translation
    rw [given]
    exact ⟨recent, fun _ => ⟨by simp, translation⟩⟩
  · rw [none, Option.toList_none, List.append_nil]
    refine ⟨recent.trans window, fun detecting => ?_⟩
    -- A square that stays on its surface has been on it before the step.
    rcases stays with initializing | ⟨same, translation⟩
    · exact absurd initializing detecting
    · have before := averaged.translation (same ▸ detecting)
      exact ⟨before.1, translation.trans before.2⟩

/-- A box around the latest positions is one around the square. -/
def StaysAmongRecent (history : PositionHistory) : Prop :=
  history.state.state ≠ .initializing → ∀ low high : SIMD3,
    (∀ position ∈ latest windowSize history.record, position.Within low high) →
      history.state.simdTransform.translation.Within low high

theorem Averaged.staysAmongRecent {history : PositionHistory} (averaged : Averaged history) :
    StaysAmongRecent history := by
  intro detecting low high within
  obtain ⟨some, translation⟩ := averaged.translation detecting
  rw [translation]
  apply SIMD3.within_average _ within
  rw [← List.length_pos_iff] at some ⊢
  rw [length_latest, windowSize]
  omega

/-- On a surface, when the window is full, a new position moves the square by a tenth of the way
from the oldest position to the new one. -/
def MovesByTenth (geometry : Geometry) (history : PositionHistory) (event : Event) : Prop :=
  ∀ position next, history.state.step geometry event = .ok next →
    history.state.positionGiven event = some position → history.state.state ≠ .initializing →
    windowSize ≤ history.record.length → ∃ oldest,
      (latest windowSize history.record).head? = some oldest ∧
        next.simdTransform.translation = history.state.simdTransform.translation.add
          (.scale (1 / 10) (position.add (.scale (-1) oldest)))

theorem Averaged.movesByTenth {history : PositionHistory} (averaged : Averaged history)
    (event : Event) : MovesByTenth geometry history event := by
  intro position next taken given detecting full
  obtain ⟨oldest, head, split, replaced⟩ :=
    latest_concat_of_full (by decide : 0 < windowSize) full position
  refine ⟨oldest, head, ?_⟩
  -- The event gives this very position.
  have moved : MovedTo position history.state next := by
    rcases step_position taken with ⟨other, given', moved⟩ | ⟨none, -⟩
    · cases given'.symm.trans given
      exact moved
    · cases none.symm.trans given
  have size := length_latest windowSize history.record
  rw [split, List.length_cons, Nat.min_eq_left full] at size
  rw [moved.translation, averaged.recent, latest_latest_append, replaced,
    SIMD3.average_replace oldest, ← split, ← (averaged.translation detecting).2, size]
  norm_num [windowSize]

/-- In every run the square is at the exact average of the ten most recent positions while there is
a surface, and so it neither leaves their neighbourhood nor follows a single one quickly. -/
theorem positions_averaged (geometry : Geometry) (events : List Event) :
    Always (observing (step geometry) observePositions)
        (fun history => Averaged history ∧ StaysAmongRecent history) ⟨init geometry, []⟩ events ∧
      Guarded (observing (step geometry) observePositions) (MovesByTenth geometry)
        ⟨init geometry, []⟩ events := by
  have preserved : ∀ history event after, Averaged history →
      observing (step geometry) observePositions history event = .ok after → Averaged after := by
    rintro ⟨square, positions⟩ event after averaged taken
    obtain ⟨next, done, rfl⟩ := observing_cases taken
    exact averaged.step done
  have initial : Averaged ⟨init geometry, []⟩ := by
    have opened := @staysPut_performOpenAnimation
    constructor
    -- The square starts as a billboard, with an empty window.
    · unfold init displayAsBillboard
      rw [opened.recent, staysPut_unhide.recent]
      rfl
    · exact fun detecting => absurd rfl detecting
  constructor
  · apply (always_of_invariant preserved initial events).mono
    exact fun history averaged => ⟨averaged, averaged.staysAmongRecent⟩
  · apply guarded_of_invariant preserved _ initial events
    exact fun history event after averaged _ => averaged.movesByTenth event

end FocusSquare

end FurnitureAR
