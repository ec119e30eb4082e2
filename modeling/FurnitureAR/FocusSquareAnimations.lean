import FurnitureAR.FocusSquareRequests
import Mathlib.Data.List.Nodup
import Mathlib.Data.List.Perm.Basic

/-!
# The animations of the focus square

An animation that has been started ends, whatever is requested meanwhile, and a plane makes the
square flash at most once: when it is visited for the first time, provided that the square is open
and at rest then.
-/
namespace FurnitureAR

open Execution

namespace FocusSquare

variable {geometry : Geometry} {square next : FocusSquare} {phase : Phase} {event : Event}

/-! ## Animations end -/

/-- The phases in which an animation runs. -/
def Phase.isMoving (phase : Phase) : Prop := phase.shape.isAnimating = true

/-- The event calls the completion block of an animation. -/
def EndsAnimation (square : FocusSquare) (event : Event) : Prop :=
  ∃ index completion, event = .completed index ∧
    square.completions[index]? = some completion ∧ completion.isAnimation = true

/-- While an animation runs, only its completion block leads to the next phase. -/
theorem phase_step (inPhase : InPhase square phase) (moving : phase.isMoving)
    (taken : square.step geometry event = .ok next) :
    InPhase next phase.complete ∨ InPhase next phase ∧ ¬ square.EndsAnimation event := by
  -- While an animation runs, requests for another one are ignored.
  have ignored : phase.performOpen = phase ∧ phase.performClose = phase := by
    cases phase with
    | opened | closed => cases moving
    | opening | dimming | closing => exact ⟨rfl, rfl⟩
  have elsewhere : (∀ index, event ≠ .completed index) → ¬ square.EndsAnimation event := by
    rintro other ⟨index, -, same, -⟩
    exact other index same
  cases event with
  | setState state =>
    cases taken
    refine .inr ⟨?_, elsewhere (by simp)⟩
    have kept := @shape_setState geometry square phase inPhase state
    rw [ignored.1, ignored.2] at kept
    split at kept <;> simpa using kept
  | setPosition raycastResult camera =>
    cases taken
    exact .inr ⟨(shape_setPosition raycastResult camera).trans inPhase, elsewhere (by simp)⟩
  | hide =>
    cases taken
    exact .inr ⟨shape_hide.trans inPhase, elsewhere (by simp)⟩
  | unhide =>
    cases taken
    exact .inr ⟨shape_unhide.trans inPhase, elsewhere (by simp)⟩
  | fadeFinished key =>
    obtain rfl := fadeFinished_cases taken
    exact .inr ⟨inPhase, elsewhere (by simp)⟩
  | completed index =>
    obtain ⟨completion, found, rfl⟩ := completed_cases taken
    have after := shape_complete inPhase found
    cases animation : completion.isAnimation with
    | true =>
      rw [if_pos animation] at after
      exact .inl after
    | false =>
      -- The block of a turn does not concern the animation.
      rw [if_neg (by simp [animation])] at after
      refine .inr ⟨after, ?_⟩
      rintro ⟨other, block, same, found', animates⟩
      cases same
      cases found.symm.trans found'
      cases animation.symm.trans animates

/-- The blocks that turn the square are as many as it is being turned. -/
def TurnsOnce (square : FocusSquare) : Prop :=
  square.completions.count .turned = if square.isChangingOrientation then 1 else 0

/-- What is the same about turns after an animation has been started or ended. -/
structure KeepsTurns (before after : FocusSquare) : Prop where
  isChangingOrientation : after.isChangingOrientation = before.isChangingOrientation
  turns : after.completions.count .turned = before.completions.count .turned

theorem KeepsTurns.turnsOnce (keeps : KeepsTurns square next) (once : square.TurnsOnce) :
    next.TurnsOnce := by
  rw [TurnsOnce, keeps.turns, keeps.isChangingOrientation]
  exact once

theorem keepsTurns_performOpenAnimation : KeepsTurns square square.performOpenAnimation := by
  unfold performOpenAnimation
  split
  · exact ⟨rfl, by simp⟩
  · exact ⟨rfl, rfl⟩

theorem keepsTurns_performCloseAnimation (flash : Bool) :
    KeepsTurns square (square.performCloseAnimation flash) := by
  unfold performCloseAnimation
  split
  · exact ⟨rfl, by simp⟩
  · exact ⟨rfl, rfl⟩

theorem keepsTurns_unhide : KeepsTurns square square.unhide := by
  unfold unhide
  split <;> exact ⟨rfl, rfl⟩

theorem keepsTurns_hide : KeepsTurns square square.hide := by
  unfold hide
  split <;> exact ⟨rfl, rfl⟩

/-- The square is turned for a tilted camera once, until the block has been called. -/
theorem turnsOnce_setPosition (once : square.TurnsOnce) (raycastResult : ARRaycastResult)
    (camera : Option ARCamera) :
    (square.setPosition geometry raycastResult camera).TurnsOnce ∧
      (square.isChangingOrientation = true →
        (square.setPosition geometry raycastResult camera).isChangingOrientation = true) := by
  unfold TurnsOnce at once
  unfold setPosition updateTransform TurnsOnce
  cases camera with
  | none => exact ⟨once, id⟩
  | some camera =>
    dsimp only
    split
    -- Only a tilted camera turns the square, and only if it is not being turned already.
    · unfold updateTilted
      cases changing : square.isChangingOrientation with
      | true =>
        rw [changing] at once
        simpa [updatePosition, changing] using once
      | false =>
        rw [changing] at once
        simpa [updatePosition, changing] using once
    · unfold updateLevel
      dsimp only
      split <;> exact ⟨once, id⟩

theorem KeepsTurns.trans {middle : FocusSquare} (first : KeepsTurns square middle)
    (second : KeepsTurns middle next) : KeepsTurns square next :=
  ⟨second.isChangingOrientation.trans first.isChangingOrientation,
    second.turns.trans first.turns⟩

theorem turn_setState (once : square.TurnsOnce) (state : State) :
    (square.setState geometry state).TurnsOnce ∧ (square.isChangingOrientation = true →
      (square.setState geometry state).isChangingOrientation = true) := by
  let assigned : FocusSquare := { square with state := state }
  have assigns : KeepsTurns square assigned := ⟨rfl, rfl⟩
  -- After an animation has been started, the square is moved and perhaps turned.
  have moved : ∀ {middle : FocusSquare} raycastResult camera, KeepsTurns square middle →
      (middle.setPosition geometry raycastResult camera).TurnsOnce ∧
        (square.isChangingOrientation = true →
          (middle.setPosition geometry raycastResult camera).isChangingOrientation = true) := by
    intro middle raycastResult camera keeps
    obtain ⟨turns, changing⟩ :=
      @turnsOnce_setPosition geometry middle (keeps.turnsOnce once) raycastResult camera
    exact ⟨turns, fun before => changing (keeps.isChangingOrientation.trans before)⟩
  unfold setState
  dsimp only
  split
  · exact ⟨assigns.turnsOnce once, id⟩
  · cases state with
    | initializing =>
      have billboard : KeepsTurns square (assigned.displayAsBillboard geometry) := by
        let facing : FocusSquare :=
          { assigned with
            simdTransform := ⟨⟨0, 0, -8 / 10⟩, geometry.upright⟩, simdScale := 1 }
        have faces : KeepsTurns square facing := ⟨rfl, rfl⟩
        exact (faces.trans keepsTurns_unhide).trans keepsTurns_performOpenAnimation
      exact ⟨billboard.turnsOnce once, billboard.isChangingOrientation.trans⟩
    | detecting raycastResult camera =>
      dsimp only
      split
      · apply moved
        have closed := fun flash => assigns.trans (keepsTurns_performCloseAnimation flash)
        exact ⟨(closed _).isChangingOrientation, (closed _).turns⟩
      · apply moved
        exact assigns.trans keepsTurns_performOpenAnimation

/-- A completion block that is called was pending once more before. -/
theorem count_eraseIdx {completions : List Completion} {index : Nat} {completion : Completion}
    (found : completions[index]? = some completion) (other : Completion) :
    completions.count other =
      (completions.eraseIdx index).count other + if completion = other then 1 else 0 := by
  obtain ⟨inside, rfl⟩ := List.getElem?_eq_some_iff.mp found
  have shuffled := List.getElem_cons_eraseIdx_perm inside
  rw [← shuffled.count_eq other, List.count_cons]
  simp

/-- The event calls the completion block of a turn. -/
def EndsTurn (square : FocusSquare) (event : Event) : Prop :=
  ∃ index, event = .completed index ∧ square.completions[index]? = some .turned

theorem turnsOnce_completed (once : square.TurnsOnce) {index : Nat} {completion : Completion}
    (found : square.completions[index]? = some completion) :
    ({ square with completions := square.completions.eraseIdx index }.complete
        completion).TurnsOnce := by
  have erased := count_eraseIdx found .turned
  unfold TurnsOnce at once ⊢
  cases completion with
  | turned =>
    rw [once, if_pos rfl] at erased
    change (square.completions.eraseIdx index).count .turned = 0
    split at erased <;> omega
  | opened | closed =>
    simp only [reduceCtorEq, if_false, Nat.add_zero] at erased
    exact erased.symm.trans once
  -- The first part of closing starts the second one.
  | dimmed =>
    simp only [reduceCtorEq, if_false, Nat.add_zero] at erased
    change (square.completions.eraseIdx index ++ [Completion.closed]).count .turned = _
    rw [List.count_append, ← erased]
    exact once

/-- Only its completion block ends a turn. -/
theorem turn_step (once : square.TurnsOnce) (taken : square.step geometry event = .ok next) :
    next.TurnsOnce ∧ (square.isChangingOrientation = true →
      next.isChangingOrientation = false ∨
        next.isChangingOrientation = true ∧ ¬ square.EndsTurn event) := by
  have kept : (∀ index, event ≠ .completed index) →
      (square.isChangingOrientation = true → next.isChangingOrientation = true) →
      square.isChangingOrientation = true → next.isChangingOrientation = false ∨
        next.isChangingOrientation = true ∧ ¬ square.EndsTurn event := by
    intro other keeps changing
    refine .inr ⟨keeps changing, ?_⟩
    rintro ⟨index, same, -⟩
    exact other index same
  have keeping : KeepsTurns square next → (∀ index, event ≠ .completed index) →
      next.TurnsOnce ∧ (square.isChangingOrientation = true →
        next.isChangingOrientation = false ∨
          next.isChangingOrientation = true ∧ ¬ square.EndsTurn event) :=
    fun keeps other => ⟨keeps.turnsOnce once,
      kept other fun changing => keeps.isChangingOrientation.trans changing⟩
  cases event with
  | setState state =>
    cases taken
    obtain ⟨turns, changing⟩ := turn_setState once state
    exact ⟨turns, kept (by simp) changing⟩
  | setPosition raycastResult camera =>
    cases taken
    obtain ⟨turns, changing⟩ := turnsOnce_setPosition once raycastResult camera
    exact ⟨turns, kept (by simp) changing⟩
  | hide =>
    cases taken
    exact keeping keepsTurns_hide (by simp)
  | unhide =>
    cases taken
    exact keeping keepsTurns_unhide (by simp)
  | fadeFinished key =>
    obtain rfl := fadeFinished_cases taken
    exact keeping ⟨rfl, rfl⟩ (by simp)
  | completed index =>
    obtain ⟨completion, found, rfl⟩ := completed_cases taken
    refine ⟨turnsOnce_completed once found, fun changing => ?_⟩
    cases completion with
    | turned => exact .inl rfl
    | opened | dimmed | closed =>
      refine .inr ⟨changing, ?_⟩
      rintro ⟨other, same, found'⟩
      cases same
      cases found.symm.trans found'

theorem turnsOnce_init : TurnsOnce (init geometry) := rfl

/-- SceneKit calls every pending completion block, sooner or later. -/
def Fair (trace : Trace (step geometry)) : Prop :=
  ∀ n completion, completion ∈ (trace.state n).completions → ∃ later, n ≤ later ∧
    ∃ index, trace.event later = .completed index ∧
      (trace.state later).completions[index]? = some completion

section Progress

variable (trace : Trace (step geometry)) (fair : Fair trace)

include fair

theorem phase_leadsTo (moving : phase.isMoving) :
    trace.LeadsTo (fun square => InPhase square phase)
      (fun square => InPhase square phase.complete) := by
  refine trace.leadsTo_of_helpful (fun square event => square.EndsAnimation event) ?_ ?_
  · exact fun n inPhase => phase_step inPhase moving (trace.taken n)
  · intro n inPhase
    -- Every moving phase has a block of an animation pending.
    have pending : ∃ completion ∈ (trace.state n).completions,
        completion.isAnimation = true := by
      have some : phase.shape.pending ≠ [] := by
        cases phase with
        | opened | closed => cases moving
        | opening | dimming | closing => simp [Phase.shape]
      obtain ⟨completion, member⟩ := List.exists_mem_of_ne_nil _ some
      rw [← congrArg Shape.pending inPhase] at member
      exact ⟨completion, (List.mem_filter.mp member).1, (List.mem_filter.mp member).2⟩
    obtain ⟨completion, member, animation⟩ := pending
    obtain ⟨later, after, index, called, found⟩ := fair n completion member
    exact ⟨later, after, index, completion, called, found, animation⟩

theorem turning_leadsTo (once : ∀ n, (trace.state n).TurnsOnce) :
    trace.LeadsTo (fun square => square.isChangingOrientation = true)
      (fun square => square.isChangingOrientation = false) := by
  refine trace.leadsTo_of_helpful (fun square event => square.EndsTurn event) ?_ ?_
  · exact fun n changing => (turn_step (once n) (trace.taken n)).2 changing
  · intro n changing
    have pending : Completion.turned ∈ (trace.state n).completions := by
      have turns := once n
      rw [TurnsOnce, if_pos changing] at turns
      apply List.count_pos_iff.mp
      omega
    obtain ⟨later, after, index, called, found⟩ := fair n .turned pending
    exact ⟨later, after, index, called, found⟩

end Progress

/-- At rest, with the segments of the open or of the closed square. -/
def RestsAs (isOpen : Bool) (square : FocusSquare) : Prop :=
  square.isAnimating = false ∧ square.isOpen = isOpen ∧ square.isPulsing = isOpen ∧
    square.segments = if isOpen then openSegments else initialSegments

/-- An animation that has been started ends with the square at rest in the shape that it leads to,
and a square that is being turned can be turned again later. -/
theorem animations_end (geometry : Geometry) (trace : Trace (step geometry))
    (start : trace.state 0 = init geometry) (fair : Fair trace) :
    (∀ isOpen, trace.LeadsTo
      (fun square => square.isAnimating = true ∧ square.isOpen = isOpen) (RestsAs isOpen)) ∧
    trace.LeadsTo (fun square => square.isChangingOrientation = true)
      (fun square => square.isChangingOrientation = false) := by
  have preserved : ∀ square event next,
      (∃ phase, InPhase square phase) ∧ square.TurnsOnce → step geometry square event = .ok next →
        (∃ phase, InPhase next phase) ∧ next.TurnsOnce := by
    rintro square event next ⟨⟨phase, inPhase⟩, once⟩ taken
    exact ⟨inPhase_step inPhase taken, (turn_step once taken).1⟩
  have initial : (∃ phase, InPhase (trace.state 0) phase) ∧ (trace.state 0).TurnsOnce := by
    rw [start]
    exact ⟨⟨.opening, inPhase_init⟩, turnsOnce_init⟩
  have inPhase : ∀ n, ∃ phase, InPhase (trace.state n) phase :=
    fun n => (trace.invariant preserved initial n).1
  have once : ∀ n, (trace.state n).TurnsOnce :=
    fun n => (trace.invariant preserved initial n).2
  have rests : ∀ phase : Phase, ¬ phase.isMoving → ∀ square, InPhase square phase →
      RestsAs phase.shape.isOpen square := by
    intro phase resting square inPhase
    have shape : square.shape = phase.shape := inPhase
    cases phase with
    | opening | dimming | closing => exact absurd rfl resting
    | opened | closed =>
      simp only [FocusSquare.shape, Phase.shape, Shape.mk.injEq] at shape
      exact ⟨shape.2.1, shape.1, shape.2.2.1, shape.2.2.2.1⟩
  have opening := phase_leadsTo trace fair (show Phase.opening.isMoving from rfl)
  have dimming := phase_leadsTo trace fair (show Phase.dimming.isMoving from rfl)
  have closing := phase_leadsTo trace fair (show Phase.closing.isMoving from rfl)
  constructor
  · rintro isOpen n ⟨animating, open'⟩
    obtain ⟨phase, here⟩ := inPhase n
    rw [here.isAnimating] at animating
    rw [here.isOpen] at open'
    subst open'
    cases phase with
    | opened | closed => cases animating
    | opening =>
      obtain ⟨later, after, opened⟩ := opening n here
      exact ⟨later, after, rests .opened (by simp [Phase.isMoving, Phase.shape]) _ opened⟩
    -- Closing the square has two parts, one after the other.
    | dimming =>
      obtain ⟨later, after, closed⟩ := (dimming.trans trace closing) n here
      exact ⟨later, after, rests .closed (by simp [Phase.isMoving, Phase.shape]) _ closed⟩
    | closing =>
      obtain ⟨later, after, closed⟩ := closing n here
      exact ⟨later, after, rests .closed (by simp [Phase.isMoving, Phase.shape]) _ closed⟩
  · exact turning_leadsTo trace fair once

/-- The square is opened, and then there are only requests to show it. -/
def openedTrace : Trace (step levelGeometry) where
  state n := if n = 0 then init levelGeometry
    else { init levelGeometry with isAnimating := false, isPulsing := true, completions := [] }
  event n := if n = 0 then .completed 0 else .unhide
  taken n :=
    match n with
    | 0 => rfl
    | _ + 1 => rfl

/-- The billboard that the square starts as is open at rest in the end. -/
theorem animations_end_opened : ∃ later, RestsAs true (openedTrace.state later) := by
  have fair : Fair openedTrace := by
    intro n completion member
    match n with
    | 0 =>
      have opened : completion = .opened := List.mem_singleton.mp member
      rw [opened]
      exact ⟨0, Nat.le_refl 0, 0, rfl, rfl⟩
    | n + 1 => cases member
  obtain ⟨later, -, rests⟩ :=
    (animations_end levelGeometry openedTrace rfl fair).1 true 0 ⟨rfl, rfl⟩
  exact ⟨later, rests⟩

/-! ## Flashes -/

/-- The plane that an event shows the square on, and whether the square is open at rest. -/
def visit (square : FocusSquare) : Event → Option (AnchorIdentifier × Bool)
  | .setState (.detecting raycastResult camera) =>
    if .detecting raycastResult camera = square.state then none
    else raycastResult.planeAnchor.map fun planeAnchor =>
      (planeAnchor, square.isOpen && !square.isAnimating)
  | _ => none

/-- What flashes are about is the same. -/
structure KeepsVisits (before after : FocusSquare) : Prop where
  visited : after.anchorsOfVisitedPlanes = before.anchorsOfVisitedPlanes
  flashes : after.flashes = before.flashes

theorem keepsVisits_setPosition (raycastResult : ARRaycastResult) (camera : Option ARCamera) :
    KeepsVisits square (square.setPosition geometry raycastResult camera) := by
  unfold setPosition updateTransform
  cases camera with
  | none => exact ⟨rfl, rfl⟩
  | some camera =>
    dsimp only
    split
    · unfold updateTilted
      split <;> exact ⟨rfl, rfl⟩
    · unfold updateLevel
      dsimp only
      split <;> exact ⟨rfl, rfl⟩

theorem keepsVisits_performOpenAnimation : KeepsVisits square square.performOpenAnimation := by
  unfold performOpenAnimation
  split <;> exact ⟨rfl, rfl⟩

theorem keepsVisits_unhide : KeepsVisits square square.unhide := by
  unfold unhide
  split <;> exact ⟨rfl, rfl⟩

theorem keepsVisits_hide : KeepsVisits square square.hide := by
  unfold hide
  split <;> exact ⟨rfl, rfl⟩

/-- The plane has been visited, and the square has flashed if it was not busy. -/
structure Visits (plane : AnchorIdentifier) (atRest : Bool) (before after : FocusSquare) :
    Prop where
  visited : after.anchorsOfVisitedPlanes = before.anchorsOfVisitedPlanes.insert plane
  flashes : after.flashes = before.flashes +
    if atRest = true ∧ plane ∉ before.anchorsOfVisitedPlanes then 1 else 0

theorem flashes_performCloseAnimation (flash : Bool) :
    (square.performCloseAnimation flash).flashes = square.flashes +
        (if (square.isOpen && !square.isAnimating) = true ∧ flash = true then 1 else 0) ∧
      (square.performCloseAnimation flash).anchorsOfVisitedPlanes =
        square.anchorsOfVisitedPlanes := by
  unfold performCloseAnimation
  split
  next atRest => cases flash <;> simp [atRest]
  next busy => simp [busy]

theorem visits_displayAsClosed (raycastResult : ARRaycastResult) (plane : AnchorIdentifier)
    (camera : Option ARCamera) :
    Visits plane (square.isOpen && !square.isAnimating) square
      (square.displayAsClosed geometry raycastResult plane camera) := by
  unfold displayAsClosed
  obtain ⟨flashes, visited⟩ :=
    @flashes_performCloseAnimation square (!decide (plane ∈ square.anchorsOfVisitedPlanes))
  constructor
  · rw [(keepsVisits_setPosition raycastResult camera).visited]
    exact congrArg (List.insert plane) visited
  · rw [(keepsVisits_setPosition raycastResult camera).flashes]
    simpa using flashes

/-- A step visits the plane of the event, or has nothing to do with planes. -/
theorem visit_step (taken : square.step geometry event = .ok next) :
    (∃ plane atRest, square.visit event = some (plane, atRest) ∧
      Visits plane atRest square next) ∨ square.visit event = none ∧ KeepsVisits square next := by
  cases event with
  | setState state =>
    cases taken
    -- Assigning the same state shows nothing new.
    by_cases repeated : state = square.state
    · subst repeated
      rw [setState_same]
      refine .inr ⟨?_, rfl, rfl⟩
      unfold visit
      split <;> simp_all
    · cases state with
      | initializing =>
        refine .inr ⟨rfl, ?_⟩
        rw [setState, if_neg repeated]
        let facing : FocusSquare :=
          { square with
            state := .initializing, simdTransform := ⟨⟨0, 0, -8 / 10⟩, geometry.upright⟩
            simdScale := 1 }
        have opened := @keepsVisits_performOpenAnimation facing.unhide
        have unhidden := @keepsVisits_unhide facing
        exact ⟨opened.visited.trans unhidden.visited, opened.flashes.trans unhidden.flashes⟩
      | detecting raycastResult camera =>
        let assigned : FocusSquare := { square with state := .detecting raycastResult camera }
        cases plane : raycastResult.planeAnchor with
        | some plane' =>
          have shown : square.setState geometry (.detecting raycastResult camera) =
              assigned.displayAsClosed geometry raycastResult plane' camera := by
            simp only [setState, repeated, if_false, plane, assigned]
          rw [shown]
          refine .inl ⟨plane', square.isOpen && !square.isAnimating,
            by simp [visit, repeated, plane], ?_⟩
          have visits := @visits_displayAsClosed geometry assigned raycastResult plane' camera
          exact ⟨visits.visited, visits.flashes⟩
        | none =>
          have shown : square.setState geometry (.detecting raycastResult camera) =
              assigned.displayAsOpen geometry raycastResult camera := by
            simp only [setState, repeated, if_false, plane, assigned]
          rw [shown]
          refine .inr ⟨by simp [visit, repeated, plane], ?_⟩
          have opened := @keepsVisits_performOpenAnimation assigned
          have moved := @keepsVisits_setPosition geometry assigned.performOpenAnimation
            raycastResult camera
          exact ⟨moved.visited.trans opened.visited, moved.flashes.trans opened.flashes⟩
  | setPosition raycastResult camera =>
    cases taken
    exact .inr ⟨rfl, keepsVisits_setPosition raycastResult camera⟩
  | hide =>
    cases taken
    exact .inr ⟨rfl, keepsVisits_hide⟩
  | unhide =>
    cases taken
    exact .inr ⟨rfl, keepsVisits_unhide⟩
  | fadeFinished key =>
    obtain rfl := fadeFinished_cases taken
    exact .inr ⟨rfl, rfl, rfl⟩
  | completed index =>
    obtain ⟨completion, -, rfl⟩ := completed_cases taken
    cases completion <;> exact .inr ⟨rfl, rfl, rfl⟩

/-- The observer keeps all visits. -/
def observeVisits (visits : List (AnchorIdentifier × Bool)) (square : FocusSquare) (event : Event)
    (_ : FocusSquare) : List (AnchorIdentifier × Bool) :=
  visits ++ (square.visit event).toList

abbrev VisitHistory := Observed FocusSquare (List (AnchorIdentifier × Bool))

/-- How the first visit of a plane has found the square. -/
def firstVisit (visits : List (AnchorIdentifier × Bool)) (plane : AnchorIdentifier) :
    Option Bool :=
  (visits.find? fun visit => visit.1 = plane).map Prod.snd

/-- The planes that have made the square flash are the ones whose first visit found it open at
rest, and each has done so once. -/
structure FlashesOnce (history : VisitHistory) : Prop where
  distinct : history.state.anchorsOfVisitedPlanes.Nodup
  visited : ∀ plane, plane ∈ history.state.anchorsOfVisitedPlanes ↔
    firstVisit history.record plane ≠ none
  flashes : history.state.flashes = history.state.anchorsOfVisitedPlanes.countP fun plane =>
    firstVisit history.record plane = some true

theorem firstVisit_append (visits : List (AnchorIdentifier × Bool)) (plane : AnchorIdentifier)
    (atRest : Bool) (other : AnchorIdentifier) :
    firstVisit (visits ++ [(plane, atRest)]) other =
      (firstVisit visits other).or (if other = plane then some atRest else none) := by
  unfold firstVisit
  rw [List.find?_append]
  cases visits.find? fun visit => visit.1 = other with
  | some first => rfl
  | none => by_cases same : other = plane <;> simp [same, eq_comm]

theorem FlashesOnce.step {visits : List (AnchorIdentifier × Bool)}
    (once : FlashesOnce ⟨square, visits⟩) (taken : square.step geometry event = .ok next) :
    FlashesOnce ⟨next, observeVisits visits square event next⟩ := by
  obtain ⟨distinct, visited, flashes⟩ := once
  dsimp only at distinct visited flashes
  unfold observeVisits
  rcases visit_step taken with ⟨plane, atRest, seen, visits'⟩ | ⟨unseen, keeps⟩
  · rw [seen]
    by_cases known : plane ∈ square.anchorsOfVisitedPlanes
    -- A plane that is known already does not count again.
    · have same : ∀ other, firstVisit (visits ++ [(plane, atRest)]) other =
          firstVisit visits other := by
        intro other
        rw [firstVisit_append]
        cases first : firstVisit visits other with
        | some found => rfl
        | none =>
          rw [Option.none_or, if_neg]
          rintro rfl
          exact (visited other).mp known first
      have planes : next.anchorsOfVisitedPlanes = square.anchorsOfVisitedPlanes := by
        rw [visits'.visited, List.insert_of_mem known]
      refine ⟨?_, fun other => ?_, ?_⟩
      · exact planes ▸ distinct
      · rw [Option.toList_some, same, planes]
        exact visited other
      · simp only [Option.toList_some, same, planes, visits'.flashes, known]
        simpa using flashes
    · have planes : next.anchorsOfVisitedPlanes = plane :: square.anchorsOfVisitedPlanes := by
        rw [visits'.visited, List.insert_of_not_mem known]
      -- A plane that is unknown has not been visited.
      have fresh : firstVisit visits plane = none := by
        by_contra found
        exact known ((visited plane).mpr found)
      refine ⟨?_, fun other => ?_, ?_⟩
      · exact planes ▸ List.nodup_cons.mpr ⟨known, distinct⟩
      · simp only [Option.toList_some, planes, firstVisit_append, List.mem_cons, visited]
        by_cases same : other = plane
        · simp [same, fresh]
        · simp [same]
      -- The visit says nothing about the other planes.
      · have others : square.anchorsOfVisitedPlanes.countP (fun other =>
              firstVisit (visits ++ [(plane, atRest)]) other = some true) =
            square.anchorsOfVisitedPlanes.countP fun other =>
              firstVisit visits other = some true := by
          apply List.countP_congr
          intro other member
          have different : other ≠ plane := by
            rintro rfl
            exact known member
          simp [firstVisit_append, different]
        have first : firstVisit (visits ++ [(plane, atRest)]) plane = some atRest := by
          rw [firstVisit_append, fresh, if_pos rfl, Option.none_or]
        have counted : next.flashes = next.anchorsOfVisitedPlanes.countP fun other =>
            firstVisit (visits ++ [(plane, atRest)]) other = some true := by
          rw [planes, List.countP_cons, others, ← flashes, first, visits'.flashes]
          cases atRest <;> simp [known]
        exact counted
  · rw [unseen, Option.toList_none, List.append_nil]
    exact ⟨keeps.visited ▸ distinct, keeps.visited ▸ visited,
      by rw [keeps.flashes, keeps.visited]; exact flashes⟩

/-- Whatever is shown and whenever the completion blocks are called, no plane makes the square
flash twice. -/
theorem planes_flash_once (geometry : Geometry) (events : List Event) :
    Always (observing (step geometry) observeVisits) FlashesOnce ⟨init geometry, []⟩ events := by
  refine always_observing_of_invariant (fun _ _ _ _ once taken => once.step taken) ?_ events
  have unvisited : (init geometry).anchorsOfVisitedPlanes = [] := rfl
  exact ⟨List.nodup_nil, fun plane => by simp [unvisited, firstVisit], rfl⟩

end FocusSquare

end FurnitureAR
