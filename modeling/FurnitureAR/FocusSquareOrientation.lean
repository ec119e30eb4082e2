import FurnitureAR.FocusSquare
import FurnitureAR.Library.Observation
import FurnitureAR.Library.Throttle

/-!
# The orientation of the focus square

While the camera is held level, the orientation is updated at every thirtieth call only, and at the
next call after the square has been turned for a camera that points downwards. The counter and the
flag are a throttle, whatever else happens between the calls; whether it has fired is seen from the
orientation that the call has written.
-/
namespace FurnitureAR

open Execution

namespace FocusSquare

/-- A call of `updateTransform` that takes the branch for a level camera. -/
structure LevelCall where
  /-- The orientation of the square when the call is made. -/
  before : Orientation
  /-- The orientation of the raycast result. -/
  reported : Orientation
  /-- The orientation of the square after the call. -/
  written : Orientation

namespace LevelCall

def Updates (call : LevelCall) : Prop := call.written = call.reported

def Keeps (call : LevelCall) : Prop := call.written = call.before

end LevelCall

/-- What is recorded of a run. -/
inductive Report where
  | call (call : LevelCall)
  /-- The completion block of a turn has been called. -/
  | turned

variable (geometry : Geometry)

def reportCall (square next : FocusSquare) (raycastResult : ARRaycastResult) :
    Option ARCamera → List Report
  | none => []
  | some camera =>
    if isTilted geometry camera then []
    else [.call ⟨square.simdTransform.orientation, raycastResult.worldTransform.orientation,
      next.simdTransform.orientation⟩]

/-- The calls that an event makes, and the completion block of a turn. -/
def reports (square next : FocusSquare) : Event → List Report
  | .setPosition raycastResult camera => square.reportCall geometry next raycastResult camera
  | .setState state =>
    if state = square.state then []
    else
      match state with
      | .initializing => []
      | .detecting raycastResult camera => square.reportCall geometry next raycastResult camera
  | .completed index =>
    match square.completions[index]? with
    | some .turned => [.turned]
    | _ => []
  | _ => []

def observeOrientation (record : List Report) (square : FocusSquare) (event : Event)
    (next : FocusSquare) : List Report :=
  record ++ square.reports geometry next event

abbrev OrientationHistory := Observed FocusSquare (List Report)

def calls (record : List Report) : List LevelCall :=
  record.filterMap fun
    | .call call => some call
    | .turned => none

/-- The counter cannot miss its bound, and no stretch of thirty calls is without an update. Unless
a turn ends within the stretch, all calls but one leave the orientation as it is. -/
structure NeverStalls (history : OrientationHistory) : Prop where
  nonneg : 0 ≤ history.state.counterToNextOrientationUpdate
  bounded : history.state.counterToNextOrientationUpdate ≤ 30
  updated : ∀ before stretch after, history.record = before ++ stretch ++ after →
    (calls stretch).length = 30 → (∃ call ∈ calls stretch, call.Updates) ∧
      (.turned ∉ stretch → ∃ earlier call later, calls stretch = earlier ++ call :: later ∧
        call.Updates ∧ ∀ other ∈ earlier ++ later, other.Keeps)

/-! ## The throttle -/

/-- Of so many calls with a level camera one updates the orientation. -/
def period : Int := 30

def throttle (square : FocusSquare) : Throttle :=
  ⟨square.counterToNextOrientationUpdate, square.isPointingDownwards⟩

/-- A report shows that the throttle has fired or not, or that it has been forced. -/
inductive Shows : Throttle.Mark → Report → Prop
  | updates {call : LevelCall} (updates : call.Updates) : Shows (.tick true) (.call call)
  | keeps {call : LevelCall} (keeps : call.Keeps) : Shows (.tick false) (.call call)
  | turned : Shows .force .turned

variable {geometry} {square next : FocusSquare} {marks : List Throttle.Mark}
  {record : List Report}

theorem ticks_of_shows (shown : List.Forall₂ Shows marks record) :
    Throttle.ticks marks = (calls record).length := by
  unfold Throttle.ticks
  induction shown with
  | nil => rfl
  | cons first _ ih =>
    rw [List.countP_cons, ih]
    cases first <;> rfl

theorem unforced_of_shows (shown : List.Forall₂ Shows marks record) (unturned : .turned ∉ record) :
    .force ∉ marks := by
  induction shown with
  | nil => exact List.not_mem_nil
  | cons first _ ih =>
    rw [List.mem_cons, not_or] at unturned ⊢
    refine ⟨?_, ih unturned.2⟩
    rintro rfl
    cases first
    exact unturned.1 rfl

theorem updates_of_shows (shown : List.Forall₂ Shows marks record) (fired : .tick true ∈ marks) :
    ∃ call ∈ calls record, call.Updates := by
  induction shown with
  | nil => cases fired
  | cons first _ ih =>
    rcases List.mem_cons.mp fired with rfl | fired
    · cases first with
      | updates updates => exact ⟨_, List.mem_cons_self, updates⟩
    · obtain ⟨call, member, updates⟩ := ih fired
      refine ⟨call, ?_, updates⟩
      cases first with
      | updates | keeps => exact List.mem_cons_of_mem _ member
      | turned => exact member

theorem keeps_of_shows (shown : List.Forall₂ Shows marks record) (unfired : .tick true ∉ marks) :
    ∀ call ∈ calls record, call.Keeps := by
  induction shown with
  | nil => exact fun _ member => nomatch member
  | cons first _ ih =>
    rw [List.mem_cons, not_or] at unfired
    cases first with
    | updates => exact absurd rfl unfired.1
    | keeps keeps => exact List.forall_mem_cons.mpr ⟨keeps, ih unfired.2⟩
    | turned => exact ih unfired.2

/-- Where the throttle fires once, all calls but one keep the orientation. -/
theorem updates_once_of_shows (shown : List.Forall₂ Shows marks record)
    (once : Throttle.fired marks = 1) :
    ∃ earlier call later, calls record = earlier ++ call :: later ∧ call.Updates ∧
      ∀ other ∈ earlier ++ later, other.Keeps := by
  obtain ⟨earlier, later, rfl, none_earlier, none_later⟩ := Throttle.exists_of_fired_eq_one once
  have before := List.forall₂_take earlier.length shown
  have after := List.forall₂_drop earlier.length shown
  rw [List.take_left] at before
  rw [List.drop_left] at after
  obtain ⟨report, rest, shows, rests, split⟩ := List.forall₂_cons_left_iff.mp after
  cases shows with
  | @updates call updates =>
    refine ⟨calls (record.take earlier.length), call, calls rest, ?_, updates, ?_⟩
    · have whole := congrArg calls (List.take_append_drop earlier.length record)
      rw [split] at whole
      exact whole.symm.trans List.filterMap_append
    · intro other member
      rcases List.mem_append.mp member with member | member
      · exact keeps_of_shows before none_earlier other member
      · exact keeps_of_shows rests none_later other member

/-! ## What one call does -/

theorem isDue_throttle : square.throttle.isDue period = square.isOrientationDue := rfl

/-- A call with a level camera takes the orientation of the result exactly when it is due. -/
theorem orientation_updateLevel (raycastResult : ARRaycastResult) :
    (square.updateLevel raycastResult).simdTransform.orientation =
      if square.isOrientationDue then raycastResult.worldTransform.orientation
      else square.simdTransform.orientation := by
  unfold updateLevel
  dsimp only
  split <;> rfl

theorem throttle_updateLevel (raycastResult : ARRaycastResult) :
    (square.updateLevel raycastResult).throttle = square.throttle.tick period := by
  unfold updateLevel Throttle.tick
  rw [isDue_throttle]
  dsimp only
  split <;> rfl

theorem throttle_updateTilted (camera : ARCamera) :
    (square.updateTilted geometry camera).throttle = square.throttle := by
  unfold updateTilted
  split <;> rfl

/-- The record of an event shows what the throttle does at it. -/
def Follows (square next : FocusSquare) (record : List Report) : Prop :=
  Throttle.Recorded period Shows square.throttle next.throttle record

theorem follows_of_eq (same : next.throttle = square.throttle) : square.Follows next [] :=
  ⟨[], by rw [same]; rfl, .nil⟩

/-- The call of `updateTransform` fires the throttle if and only if it takes the orientation of the
result. -/
theorem follows_updateLevel {other : FocusSquare} (same : other.throttle = square.throttle)
    (kept : other.simdTransform.orientation = square.simdTransform.orientation)
    (raycastResult : ARRaycastResult) :
    square.Follows (other.updateLevel raycastResult)
      [.call ⟨square.simdTransform.orientation, raycastResult.worldTransform.orientation,
        (other.updateLevel raycastResult).simdTransform.orientation⟩] := by
  refine ⟨[.tick square.isOrientationDue], ?_, .cons ?_ .nil⟩
  · rw [throttle_updateLevel, same]
    simp only [run, List.foldlM_cons, List.foldlM_nil, Throttle.step, isDue_throttle, if_true]
    rfl
  · have due : other.isOrientationDue = square.isOrientationDue := by
      rw [← isDue_throttle, same, isDue_throttle]
    rw [orientation_updateLevel, due]
    cases square.isOrientationDue with
    | true => exact .updates rfl
    | false => exact .keeps kept

/-- A call that is made after other work on the square. -/
theorem follows_setPosition {other : FocusSquare} (same : other.throttle = square.throttle)
    (kept : other.simdTransform.orientation = square.simdTransform.orientation)
    (raycastResult : ARRaycastResult) (camera : Option ARCamera) :
    square.Follows (other.setPosition geometry raycastResult camera)
      (square.reportCall geometry (other.setPosition geometry raycastResult camera) raycastResult
        camera) := by
  cases camera with
  | none => exact follows_of_eq same
  | some camera =>
    unfold reportCall setPosition updateTransform
    dsimp only
    split
    · apply follows_of_eq
      rw [throttle_updateTilted]
      exact same
    · apply follows_updateLevel
      · exact same
      · exact kept

/-! ## Whole runs -/

theorem throttle_performOpenAnimation :
    square.performOpenAnimation.throttle = square.throttle := by
  unfold performOpenAnimation
  split <;> rfl

theorem throttle_performCloseAnimation (flash : Bool) :
    (square.performCloseAnimation flash).throttle = square.throttle := by
  unfold performCloseAnimation
  split <;> rfl

theorem throttle_unhide : square.unhide.throttle = square.throttle := by
  unfold unhide
  split <;> rfl

theorem throttle_hide : square.hide.throttle = square.throttle := by
  unfold hide
  split <;> rfl

theorem simdTransform_performOpenAnimation :
    square.performOpenAnimation.simdTransform = square.simdTransform := by
  unfold performOpenAnimation
  split <;> rfl

theorem simdTransform_performCloseAnimation (flash : Bool) :
    (square.performCloseAnimation flash).simdTransform = square.simdTransform := by
  unfold performCloseAnimation
  split <;> rfl

theorem follows_setState (state : State) :
    square.Follows (square.setState geometry state)
      (square.reports geometry (square.setState geometry state) (.setState state)) := by
  unfold setState reports
  dsimp only
  split
  · exact follows_of_eq rfl
  · cases state with
    | initializing =>
      apply follows_of_eq
      rw [displayAsBillboard, throttle_performOpenAnimation, throttle_unhide]
      rfl
    | detecting raycastResult camera =>
      dsimp only
      split
      · unfold displayAsClosed
        apply follows_setPosition
        · exact throttle_performCloseAnimation _
        · dsimp only
          rw [simdTransform_performCloseAnimation]
      · unfold displayAsOpen
        apply follows_setPosition
        · exact throttle_performOpenAnimation
        · rw [simdTransform_performOpenAnimation]

/-- Every event does with the orientation what the throttle says. -/
theorem follows_step {event : Event} (taken : square.step geometry event = .ok next) :
    square.Follows next (square.reports geometry next event) := by
  cases event with
  | setState state =>
    cases taken
    exact follows_setState state
  | setPosition raycastResult camera =>
    cases taken
    exact follows_setPosition rfl rfl raycastResult camera
  | hide =>
    cases taken
    exact follows_of_eq throttle_hide
  | unhide =>
    cases taken
    exact follows_of_eq throttle_unhide
  | fadeFinished key =>
    obtain rfl := fadeFinished_cases taken
    exact follows_of_eq rfl
  | completed index =>
    obtain ⟨completion, found, rfl⟩ := completed_cases taken
    simp only [reports, found]
    cases completion with
    | turned => exact ⟨[.force], rfl, .cons .turned .nil⟩
    | opened | dimmed | closed => exact follows_of_eq rfl

/-- The record shows a run of the throttle that ends in the square's. -/
def Throttled (history : OrientationHistory) : Prop :=
  Throttle.Recorded period Shows ⟨0, true⟩ history.state.throttle history.record

theorem Throttled.step {record : List Report} (throttled : Throttled ⟨square, record⟩)
    {event : Event} (taken : square.step geometry event = .ok next) :
    Throttled ⟨next, observeOrientation geometry record square event next⟩ :=
  Throttle.Recorded.append throttled (follows_step taken)

theorem throttled_init : Throttled ⟨init geometry, []⟩ := by
  refine ⟨[], ?_, .nil⟩
  rw [init, displayAsBillboard, throttle_performOpenAnimation, throttle_unhide]
  rfl

theorem good_initial : Throttle.Good period ⟨0, true⟩ :=
  ⟨by decide, by decide, fun _ => rfl⟩

theorem Throttled.neverStalls {history : OrientationHistory} (throttled : Throttled history) :
    NeverStalls history := by
  have positive : 1 ≤ period := by decide
  have good := throttled.good positive good_initial
  refine ⟨good.nonneg, good.bounded, fun before stretch after split whole => ?_⟩
  rw [Throttled, split] at throttled
  obtain ⟨finish, earlier, -⟩ := throttled.split
  obtain ⟨start, reached, marks, within, shown⟩ := earlier.split
  have good' := reached.good positive good_initial
  have ticks : (Throttle.ticks marks : Int) = period := by
    rw [ticks_of_shows shown, whole]
    rfl
  constructor
  · have often := Throttle.fires_in_period positive good' within ticks
    exact updates_of_shows shown (Throttle.mem_of_fired_pos often)
  · intro unturned
    have unforced := unforced_of_shows shown unturned
    exact updates_once_of_shows shown (Throttle.fires_once positive good' within ticks unforced)

/-- Whatever the camera does and whenever the completion blocks are called, the orientation is
updated in every stretch of thirty calls with a level camera. -/
theorem orientation_never_stalls (geometry : Geometry) (events : List Event) :
    Always (observing (step geometry) (observeOrientation geometry)) NeverStalls
      ⟨init geometry, []⟩ events := by
  have always : Always (observing (step geometry) (observeOrientation geometry)) Throttled
      ⟨init geometry, []⟩ events :=
    always_observing_of_invariant (fun _ _ _ _ throttled taken => throttled.step taken)
      throttled_init events
  exact always.mono fun history throttled => throttled.neverStalls

end FocusSquare

end FurnitureAR
