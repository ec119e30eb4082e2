import FurnitureAR.CancelledDrag
import FurnitureAR.ThresholdPanGesture

/-!
# The displacement of a drag

While a pan goes on, the displacement of the fingers is in two places: the recognizer adds it up
and starts again at zero when the threshold is crossed, the handler moves it into its tracking
position and sets the recognizer back to zero. The two together never lose any of it.
-/
namespace FurnitureAR

open Execution

namespace ARViewController

variable {screen next : ARViewController}

/-- A pan that changes beyond the threshold translates the tracked object. -/
theorem scene_of_panDragged {gesture : PanGesture} {view : SceneView} {object : ObjectRef}
    (changed : gesture.state = .changed) (exceeded : gesture.isThresholdExceeded = true)
    (tracked : screen.interaction.trackedObject = some object)
    (taken : step screen (.pan gesture view) = .ok next) :
    next.scene = screen.scene.translate object (some object)
      (screen.interaction.updatedTrackingPosition screen.scene object gesture view).1 view := by
  rw [(pan_cases taken).scene]
  simp only [VirtualObjectInteraction.didPan, changed, exceeded, tracked, if_true,
    VirtualObjectInteraction.updatedTrackingPosition]

/-- Only pan events move the tracking position. -/
theorem position_of_other {event : Event} (notPan : event.isPan = false)
    (taken : step screen event = .ok next) :
    next.interaction.currentTrackingPosition = screen.interaction.currentTrackingPosition := by
  have reshaped : ∀ {touches state scene} {after : VirtualObjectInteraction},
      screen.interaction.Reshaping screen.scene touches state scene after →
        after.currentTrackingPosition = screen.interaction.currentTrackingPosition := by
    intro touches state scene after reshaping
    cases reshaping with
    | began =>
      unfold VirtualObjectInteraction.trackObject
      split <;> rfl
    | _ => rfl
  cases event with
  | addVirtualObject view meanwhile =>
    obtain ⟨middle, first, behind⟩ := InBackground.of_addVirtualObject taken
    rw [behind.interaction]
    rcases (addVirtualObject_cases first).2 with
      ⟨-, -, rfl⟩ | ⟨object, -, -, rfl⟩ | ⟨-, rfl⟩ <;> rfl
  | background event => rw [(InBackground.of_background taken).interaction]
  | mainQueue view => exact (runMain_cases taken).position
  | updateQueue =>
    obtain ⟨scene, -, rfl⟩ := updateQueue_cases taken
    rfl
  | coolDownElapsed =>
    obtain ⟨pending, -, rfl⟩ := coolDownElapsed_cases taken
    rfl
  | trackedRaycastUpdated raycast results =>
    obtain ⟨object, scene, -, -, rfl⟩ := trackedRaycastUpdated_cases taken
    rfl
  | pan gesture view => cases notPan
  | rotate gesture =>
    obtain ⟨-, -, reshaping, -⟩ := rotate_reshapes taken
    exact reshaped reshaping
  | pinch gesture =>
    obtain ⟨-, -, reshaping, -⟩ := pinch_reshapes taken
    exact reshaped reshaping
  | tap hitTestResults =>
    cases tap_cases taken
    dsimp only [VirtualObjectInteraction.didTap]
    split <;> rfl
  | coachingOverlayDidRequestSessionReset =>
    cases taken
    unfold restartExperience
    split <;> rfl
  | cameraDidChangeTrackingState trackingState =>
    cases taken
    cases trackingState <;> rfl
  | sessionDidFail isARError =>
    cases taken
    cases isARError <;> rfl
  | restartSessionTapped =>
    cases restartSessionTapped_cases taken
    rfl
  | rendererDidAdd isPlaneAnchor =>
    cases taken
    cases isPlaneAnchor <;> rfl
  | timerFired timer =>
    obtain ⟨status, -, rfl⟩ := timerFired_cases taken
    rfl
  | viewDidAppear | viewWillDisappear | coachingOverlayWillActivate | coachingOverlayDidDeactivate
  | sessionWasInterrupted | rendererUpdateAtTime | rendererDidUpdate =>
    cases taken
    rfl

/-- While a pan is recognized, other events leave it so, and leave its object; otherwise they do
not make it so. -/
def PanningKept (screen next : ARViewController) : Prop :=
  screen.recognized = some .pan ∧ next.recognized = some .pan ∧
      next.interaction.trackedObject = screen.interaction.trackedObject ∨
    screen.recognized ≠ some .pan ∧ next.recognized ≠ some .pan

theorem panningKept_of_undisturbed {event : Event} (alone : event.Undisturbed)
    (notPan : event.isPan = false)
    (stays : event = .viewWillDisappear → screen.recognized ≠ some .pan)
    (taken : step screen event = .ok next) : PanningKept screen next := by
  have change := step_tracking alone taken
  unfold PanningKept
  generalize next.interaction.trackedObject = tracked, next.recognized = recognized at change
  cases change with
  | unchanged event other =>
    by_cases pan : screen.recognized = some .pan
    · exact .inl ⟨pan, pan, rfl⟩
    · exact .inr ⟨pan, pan⟩
  | closed => exact .inr ⟨stays rfl, stays rfl⟩
  | began event kind touches gesture idle hittable =>
    refine .inr ⟨by simp [idle], ?_⟩
    rintro ⟨⟩
    rw [event.isPan_of_gesture gesture] at notPan
    cases notPan
  | changed event kind touches gesture same =>
    by_cases pan : screen.recognized = some .pan
    · exact .inl ⟨pan, pan, rfl⟩
    · exact .inr ⟨pan, pan⟩
  | finished event kind state touches gesture lifted same =>
    refine .inr ⟨?_, by simp⟩
    rw [same]
    rintro ⟨⟩
    rw [event.isPan_of_gesture gesture] at notPan
    cases notPan

theorem panningKept_of_other {event : Event} (notPan : event.isPan = false)
    (stays : event = .viewWillDisappear → screen.recognized ≠ some .pan)
    (taken : step screen event = .ok next) : PanningKept screen next := by
  revert notPan stays
  apply of_undisturbed _ _ taken
  · exact fun event next alone taken notPan stays =>
      panningKept_of_undisturbed alone notPan stays taken
  · intro view meanwhile middle next behind kept _ _
    rw [PanningKept, behind.recognized, behind.interaction]
    exact kept rfl (by simp)

end ARViewController

namespace ThresholdPanGesture

variable {gesture next : ThresholdPanGesture}

/-- The gesture goes on as it is, or it is over and its flag is reset. -/
def Keeps (gesture next : ThresholdPanGesture) : Prop :=
  next.translation = gesture.translation ∧
    (next.state.isOver = gesture.state.isOver ∧
        next.isThresholdExceeded = gesture.isThresholdExceeded ∨
      next.state.isOver = true ∧ next.isThresholdExceeded = false)

theorem Keeps.assign {state : Option GestureState} (assigned : gesture.assign state = .ok next) :
    Keeps gesture next := by
  rcases assign_cases assigned with rfl | ⟨after, goesOn, left, rfl⟩
  · exact ⟨rfl, .inl ⟨rfl, rfl⟩⟩
  · refine ⟨setState_translation after, ?_⟩
    cases after with
    | possible => exact absurd rfl left
    | began | changed => exact .inl ⟨goesOn.symm, rfl⟩
    | ended | cancelled | failed => exact .inr ⟨rfl, rfl⟩

/-- UIKit's events that neither move fingers nor end with a reset. -/
def Event.Assigns : Event → Prop
  | .touchesBegan _ _ | .touchesLifted _ _ | .stateChanged _ => True
  | .touchesMoved _ _ _ | .setTranslation _ | .reset => False

theorem Keeps.step {event : Event} (assigns : event.Assigns)
    (taken : gesture.step event = .ok next) : Keeps gesture next := by
  cases event with
  | touchesBegan touches state =>
    simp only [ThresholdPanGesture.step] at taken
    split at taken
    · cases taken
    · have kept := Keeps.assign taken
      exact kept
  | touchesLifted touches state =>
    simp only [ThresholdPanGesture.step, bind, Except.bind] at taken
    split at taken
    · cases taken
    next after assigned =>
      split at taken <;> cases taken
      have kept := Keeps.assign assigned
      exact kept
  | stateChanged state =>
    have assigned : gesture.assign (some state) = .ok next := taken
    exact Keeps.assign assigned
  | touchesMoved | setTranslation | reset => cases assigns

/-- Moving fingers cross the threshold, or add to the translation. -/
theorem moved_cases {touches : Finset TouchRef} {displacement : CGPoint}
    {state : Option GestureState}
    (taken : gesture.step (.touchesMoved touches displacement state) = .ok next) :
    gesture.state.isOver = false ∧ next.state.isOver = false ∧
      (gesture.isThresholdExceeded = false ∧ next.isThresholdExceeded = true ∧
          next.translation = .zero ∨
        next.isThresholdExceeded = gesture.isThresholdExceeded ∧
          next.translation = gesture.translation + displacement) := by
  obtain ⟨-, -, goesOn, moving, rfl⟩ := touchesMoved_cases taken
  have still : (state.getD gesture.state).isOver = false := by
    unfold mayAssignMoving at moving
    split at moving
    · exact goesOn
    · rfl
    · rfl
    · cases moving
  refine ⟨goesOn, ?_⟩
  rw [touchesMoved_eq moving]
  split
  next crossed => exact ⟨still, .inl ⟨crossed.1, rfl, rfl⟩⟩
  next => exact ⟨still, .inr ⟨rfl, rfl⟩⟩

end ThresholdPanGesture

namespace CGPoint

theorem add_assoc (first second third : CGPoint) :
    first + second + third = first + (second + third) :=
  congrArg₂ CGPoint.mk (Rat.add_assoc ..) (Rat.add_assoc ..)

theorem add_zero (point : CGPoint) : point + .zero = point :=
  congrArg₂ CGPoint.mk (Rat.add_zero _) (Rat.add_zero _)

end CGPoint

/-! ## The recognizer and its handler -/

/-- The screen with its recognizer for pans. -/
structure DragSession where
  screen : ARViewController
  recognizer : ThresholdPanGesture := {}

/-- What happens to the recognizer, its action, and what else happens to the screen. -/
inductive DragEvent where
  | recognizer (event : ThresholdPanGesture.Event)
  | didPan (touches : GestureTouches) (view : SceneView)
  | other (event : Event)

namespace DragSession

/-- The recognizer as the handler sees it. -/
def gesture (session : DragSession) (touches : GestureTouches) : PanGesture where
  state := session.recognizer.state
  isThresholdExceeded := session.recognizer.isThresholdExceeded
  translation := session.recognizer.translation
  touches := touches

/-- Only the handler sets the translation, and UIKit resets a recognizer after its last action. -/
def mayTake (session : DragSession) : ThresholdPanGesture.Event → Bool
  | .setTranslation _ => false
  | .reset => session.screen.recognized ≠ some .pan
  | _ => true

/-- Pan events come from the recognizer, and UIKit cancels a pan before the screen closes. -/
def mayHappen (session : DragSession) : Event → Bool
  | .pan _ _ => false
  | .viewWillDisappear => session.screen.recognized ≠ some .pan
  | _ => true

def step (session : DragSession) : DragEvent → Except Halt DragSession
  | .recognizer event =>
    if session.mayTake event then
      (session.recognizer.step event).map fun recognizer =>
        { session with recognizer := recognizer }
    else .error .notDelivered
  | .didPan touches view =>
    let gesture := session.gesture touches
    let (_, _, left) := session.screen.interaction.didPan session.screen.scene gesture view
    (session.screen.step (.pan gesture view)).map fun screen =>
      -- The handler leaves the recognizer with another translation.
      { screen := screen, recognizer := session.recognizer.setTranslation left.translation }
  | .other event =>
    if session.mayHappen event then
      (session.screen.step event).map fun screen => { session with screen := screen }
    else .error .notDelivered

end DragSession

/-! ## What the fingers have done -/

/-- The displacement of the fingers since the threshold was crossed, and where the dragged object
was on the screen at the pan's first update. -/
structure Drag where
  since : Option CGPoint := none
  start : Option CGPoint := none

namespace DragSession

/-- Where the tracked object is on the screen. -/
def projection (session : DragSession) (view : SceneView) : Option CGPoint :=
  session.screen.interaction.trackedObject.map fun object =>
    view.projectPoint (session.screen.scene.objects object).simdWorldTransform.translation

def observe (drag : Drag) (session : DragSession) (event : DragEvent) (next : DragSession) :
    Drag :=
  match event with
  | .recognizer (.touchesMoved _ displacement _) =>
    if session.recognizer.isThresholdExceeded then
      { drag with since := drag.since.map (· + displacement) }
    -- The movement that crosses the threshold is not part of the drag.
    else if next.recognizer.isThresholdExceeded then { drag with since := some .zero }
    else drag
  | .recognizer .reset => { drag with since := none }
  | .didPan _ view =>
    match session.recognizer.state with
    | .began => { drag with start := none }
    | .changed =>
      if session.recognizer.isThresholdExceeded then
        { drag with start := drag.start.or (session.projection view) }
      else drag
    | _ => {}
  | _ => drag

abbrev DragHistory := Observed DragSession Drag

/-- The screen position that the handler computes for an object. -/
def position (session : DragSession) (object : ObjectRef) (touches : GestureTouches)
    (view : SceneView) : CGPoint :=
  (session.screen.interaction.updatedTrackingPosition session.screen.scene object
    (session.gesture touches) view).1

/-- A position is exact when it is that of the object at the first update, which may be this one,
and the displacement since the threshold was crossed. -/
def IsExact (history : DragHistory) (view : SceneView) (position : CGPoint) : Prop :=
  ∃ start since, history.record.start.or (history.state.projection view) = some start ∧
    history.record.since = some since ∧ position = start + since

/-- A pan begins without a tracking position, and then passes on exact positions only. -/
structure PassesExactly (history : DragHistory) (touches : GestureTouches) (view : SceneView)
    (next : DragSession) : Prop where
  began : history.state.recognizer.state = .began →
    history.state.screen.interaction.currentTrackingPosition = none
  translated : ∀ object, history.state.recognizer.state = .changed →
    history.state.recognizer.isThresholdExceeded = true →
    history.state.screen.interaction.trackedObject = some object →
      IsExact history view (history.state.position object touches view) ∧
        next.screen.scene = history.state.screen.scene.translate object (some object)
          (history.state.position object touches view) view
  setDown : ∀ object, history.state.recognizer.state = .ended →
    history.record.since ≠ none →
    history.state.screen.interaction.trackedObject = some object →
      IsExact history view (history.state.position object touches view) ∧
        next.screen.scene = history.state.screen.scene.setDown object
          (history.state.position object touches view) view

def AllExact (history : DragHistory) (event : DragEvent) : Prop :=
  ∀ touches view next, event = .didPan touches view → history.state.step event = .ok next →
    PassesExactly history touches view next

/-! ## Nothing is lost -/

/-- The displacement since the threshold was crossed is in the translation, and once the handler
has a tracking position, the two together are exact. -/
inductive Balanced (drag : Drag) (translation : CGPoint) : Option CGPoint → Prop where
  | untouched (start : drag.start = none)
      (since : ∀ since, drag.since = some since → translation = since) :
      Balanced drag translation none
  | moved (position start since : CGPoint) (first : drag.start = some start)
      (crossed : drag.since = some since)
      (balance : position + translation = start + since) :
      Balanced drag translation (some position)

structure Invariant (history : DragHistory) : Prop where
  crossed : history.state.recognizer.isThresholdExceeded = true → history.record.since ≠ none
  going : history.record.since ≠ none → history.state.recognizer.state.isOver = true ∨
    history.state.recognizer.isThresholdExceeded = true
  finished : history.state.recognizer.state.isOver = true →
    history.state.recognizer.isThresholdExceeded = false
  idle : history.state.screen.recognized ≠ some .pan →
    history.state.screen.interaction.currentTrackingPosition = none
  tracked : history.state.screen.interaction.currentTrackingPosition ≠ none →
    history.state.screen.interaction.trackedObject ≠ none
  balanced : Balanced history.record history.state.recognizer.translation
    history.state.screen.interaction.currentTrackingPosition

variable {session next : DragSession} {drag : Drag}

theorem invariant_of_assigned {event : ThresholdPanGesture.Event} (assigns : event.Assigns)
    (inv : Invariant ⟨session, drag⟩) {recognizer : ThresholdPanGesture}
    (taken : session.recognizer.step event = .ok recognizer) :
    Invariant ⟨{ session with recognizer := recognizer }, drag⟩ := by
  obtain ⟨translation, ⟨state, flag⟩ | ⟨state, flag⟩⟩ :=
    ThresholdPanGesture.Keeps.step assigns taken
  · refine ⟨?_, ?_, ?_, inv.idle, inv.tracked, ?_⟩
    · rw [flag]
      exact inv.crossed
    · rw [state, flag]
      exact inv.going
    · rw [state, flag]
      exact inv.finished
    · rw [translation]
      exact inv.balanced
  · refine ⟨?_, fun _ => .inl state, fun _ => flag, inv.idle, inv.tracked, ?_⟩
    · rw [flag]
      exact fun set => absurd set Bool.false_ne_true
    · rw [translation]
      exact inv.balanced

/-- Before the threshold is crossed there is nothing to balance. -/
theorem Balanced.uncounted {translation : CGPoint} {position : Option CGPoint}
    (balanced : Balanced drag translation position) (uncrossed : drag.since = none) :
    position = none ∧ drag.start = none := by
  cases balanced with
  | untouched start since => exact ⟨rfl, start⟩
  | moved position start since first crossed balance =>
    rw [uncrossed] at crossed
    cases crossed

theorem Balanced.add {translation displacement : CGPoint} {position : Option CGPoint}
    (balanced : Balanced drag translation position) :
    Balanced { drag with since := drag.since.map (· + displacement) } (translation + displacement)
      position := by
  cases balanced with
  | untouched start since =>
    refine .untouched start fun after crossed => ?_
    obtain ⟨before, counted, rfl⟩ := Option.map_eq_some_iff.mp crossed
    rw [since before counted]
  | moved position start since first crossed balance =>
    refine .moved position start (since + displacement) first ?_ ?_
    · simp only [crossed, Option.map_some]
    · rw [← CGPoint.add_assoc, balance, CGPoint.add_assoc]

theorem Invariant.uncrossed {history : DragHistory} (inv : Invariant history)
    (goesOn : history.state.recognizer.state.isOver = false)
    (unset : history.state.recognizer.isThresholdExceeded = false) :
    history.record.since = none := by
  by_contra crossed
  rcases inv.going crossed with finished | exceeded
  · rw [goesOn] at finished
    cases finished
  · rw [unset] at exceeded
    cases exceeded

/-- A displacement is added to the translation, and counted if the threshold has been crossed. -/
theorem invariant_of_moved {touches : Finset TouchRef} {displacement : CGPoint}
    {state : Option GestureState} (inv : Invariant ⟨session, drag⟩)
    {recognizer : ThresholdPanGesture}
    (taken : session.recognizer.step (.touchesMoved touches displacement state) =
      .ok recognizer) :
    Invariant ⟨{ session with recognizer := recognizer },
      observe drag session (.recognizer (.touchesMoved touches displacement state))
        { session with recognizer := recognizer }⟩ := by
  obtain ⟨goesOn, still, moved⟩ := ThresholdPanGesture.moved_cases taken
  have unfinished : recognizer.state.isOver = true → recognizer.isThresholdExceeded = false := by
    rw [still]
    exact fun finished => absurd finished Bool.false_ne_true
  cases set : session.recognizer.isThresholdExceeded with
  | true =>
    simp only [observe, set, if_true]
    rcases moved with ⟨unset, -, -⟩ | ⟨flag, translation⟩
    · rw [set] at unset
      cases unset
    refine ⟨fun _ => ?_, fun _ => .inr (flag.trans set), unfinished, inv.idle, inv.tracked, ?_⟩
    · simpa using inv.crossed set
    · rw [translation]
      exact inv.balanced.add
  | false =>
    have uncrossed : drag.since = none := inv.uncrossed goesOn set
    have ⟨position, start⟩ := inv.balanced.uncounted uncrossed
    simp only [observe, set, Bool.false_eq_true, if_false]
    rcases moved with ⟨-, crossed, translation⟩ | ⟨flag, -⟩
    · simp only [crossed, if_true]
      refine ⟨fun _ => by simp, fun _ => .inr crossed, unfinished, inv.idle, inv.tracked, ?_⟩
      rw [position, translation]
      exact .untouched start fun since same => Option.some.inj same
    · simp only [flag, set, Bool.false_eq_true, if_false]
      refine ⟨fun exceeded => ?_, fun some => absurd uncrossed some, unfinished, inv.idle,
        inv.tracked, ?_⟩
      · rw [flag, set] at exceeded
        cases exceeded
      · rw [position]
        refine .untouched start fun since crossed => ?_
        rw [uncrossed] at crossed
        cases crossed

theorem invariant_of_reset (inv : Invariant ⟨session, drag⟩)
    (idle : session.screen.recognized ≠ some .pan) {recognizer : ThresholdPanGesture}
    (taken : session.recognizer.step .reset = .ok recognizer) :
    Invariant ⟨{ session with recognizer := recognizer }, { drag with since := none }⟩ := by
  have position : session.screen.interaction.currentTrackingPosition = none := inv.idle idle
  have start : drag.start = none := by
    have balanced := inv.balanced
    rw [position] at balanced
    cases balanced with
    | untouched start since => exact start
  have unset : recognizer.isThresholdExceeded = false := by
    simp only [ThresholdPanGesture.step] at taken
    split at taken <;> cases taken
    rfl
  refine ⟨fun exceeded => ?_, fun some => absurd rfl some, fun _ => unset, inv.idle, inv.tracked,
    ?_⟩
  · rw [unset] at exceeded
    cases exceeded
  · rw [position]
    exact .untouched start fun since crossed => absurd crossed (by simp)

theorem invariant_of_other {event : Event} (inv : Invariant ⟨session, drag⟩)
    (allowed : session.mayHappen event = true) {screen : ARViewController}
    (taken : session.screen.step event = .ok screen) :
    Invariant ⟨{ session with screen := screen }, drag⟩ := by
  have notPan : event.isPan = false := by
    cases event with
    | pan gesture view => cases allowed
    | _ => rfl
  have stays : event = .viewWillDisappear → session.screen.recognized ≠ some .pan := by
    rintro rfl
    simpa [mayHappen] using allowed
  have position := ARViewController.position_of_other notPan taken
  refine ⟨inv.crossed, inv.going, inv.finished, ?_, ?_, ?_⟩
  · intro idle
    rw [position]
    rcases ARViewController.panningKept_of_other notPan stays taken with ⟨-, pan, -⟩ | ⟨other, -⟩
    · exact absurd pan idle
    · exact inv.idle other
  · rw [position]
    intro some
    rcases ARViewController.panningKept_of_other notPan stays taken with ⟨-, -, same⟩ | ⟨other, -⟩
    · rw [same]
      exact inv.tracked some
    · exact absurd (inv.idle other) some
  · rw [position]
    exact inv.balanced

/-! ## The handler -/

/-- While a pan changes, the handler takes the translation over into its position. -/
theorem Balanced.update {translation projection : CGPoint} {position : Option CGPoint}
    (balanced : Balanced drag translation position) (crossed : drag.since ≠ none) :
    Balanced { drag with start := drag.start.or (some projection) } .zero
      (some (position.getD projection + translation)) := by
  cases balanced with
  | untouched start since =>
    obtain ⟨displacement, counted⟩ := Option.ne_none_iff_exists'.mp crossed
    refine .moved _ projection displacement (by simp [start]) counted ?_
    rw [CGPoint.add_zero, since displacement counted, Option.getD_none]
  | moved position start since first counted balance =>
    refine .moved _ start since (by simp [first]) counted ?_
    rw [CGPoint.add_zero, Option.getD_some, balance]

/-- What the handler computes from a balanced state is exact. -/
theorem Balanced.exact {position : Option CGPoint} {translation projection : CGPoint}
    (balanced : Balanced drag translation position) (crossed : drag.since ≠ none) :
    ∃ start since, drag.start.or (some projection) = some start ∧ drag.since = some since ∧
      position.getD projection + translation = start + since := by
  cases balanced with
  | untouched start since =>
    obtain ⟨displacement, counted⟩ := Option.ne_none_iff_exists'.mp crossed
    refine ⟨projection, displacement, by simp [start], counted, ?_⟩
    rw [since displacement counted, Option.getD_none]
  | moved position start since first counted balance =>
    exact ⟨start, since, by simp [first], counted, by rw [Option.getD_some, balance]⟩

/-- What the handler leaves of the translation. -/
def leftTranslation (session : DragSession) (touches : GestureTouches) (view : SceneView) :
    CGPoint :=
  (session.screen.interaction.didPan session.screen.scene (session.gesture touches)
    view).2.2.translation

/-- A pan that is over leaves nothing for the next one. -/
theorem invariant_of_panOver {touches : GestureTouches} {view : SceneView}
    (inv : Invariant ⟨session, drag⟩)
    (over' : session.recognizer.state = .ended ∨ session.recognizer.state = .cancelled)
    {screen : ARViewController} {translation : CGPoint}
    (taken : session.screen.step (.pan (session.gesture touches) view) = .ok screen) :
    Invariant ⟨⟨screen, session.recognizer.setTranslation translation⟩, {}⟩ := by
  have finished : session.recognizer.state.isOver = true := by
    rcases over' with ended | cancelled
    · rw [ended]
      rfl
    · rw [cancelled]
      rfl
  have position : screen.interaction.currentTrackingPosition = none := by
    rw [(ARViewController.pan_cases taken).interaction]
    rcases over' with ended | cancelled
    · simp only [VirtualObjectInteraction.didPan, gesture, ended]
      cases tracked : session.screen.interaction.trackedObject with
      | none =>
        -- Nothing resets the position here, but without an object there is none.
        by_contra some
        exact inv.tracked some tracked
      | some object => rfl
    · simp only [VirtualObjectInteraction.didPan, gesture, cancelled]
      rfl
  refine ⟨fun exceeded => ?_, fun some => absurd rfl some, inv.finished, fun _ => position,
    fun some => absurd position some, ?_⟩
  · have unset : session.recognizer.isThresholdExceeded = false := inv.finished finished
    rw [ThresholdPanGesture.setTranslation, unset] at exceeded
    cases exceeded
  · rw [position]
    exact .untouched rfl fun since crossed => absurd crossed (by simp)

/-- The invariant asks for nothing new while the pan goes on. -/
theorem invariant_of_panGoesOn (inv : Invariant ⟨session, drag⟩) {screen : ARViewController}
    {translation : CGPoint} {start : Option CGPoint} (pan : screen.recognized = some .pan)
    (tracked : screen.interaction.currentTrackingPosition ≠ none →
      screen.interaction.trackedObject ≠ none)
    (balanced : Balanced { drag with start := start } translation
      screen.interaction.currentTrackingPosition) :
    Invariant ⟨⟨screen, session.recognizer.setTranslation translation⟩,
      { drag with start := start }⟩ :=
  ⟨inv.crossed, inv.going, inv.finished, fun other => absurd pan other, tracked, balanced⟩

theorem invariant_of_didPan {touches : GestureTouches} {view : SceneView}
    (inv : Invariant ⟨session, drag⟩) {screen : ARViewController}
    (taken : session.screen.step (.pan (session.gesture touches) view) = .ok screen) :
    Invariant ⟨⟨screen, session.recognizer.setTranslation (session.leftTranslation touches view)⟩,
      observe drag session (.didPan touches view)
        ⟨screen, session.recognizer.setTranslation (session.leftTranslation touches view)⟩⟩ := by
  have pans := ARViewController.pan_cases taken
  have recognized := pans.recognized
  have balanced := inv.balanced
  have tracked := inv.tracked
  cases state : session.recognizer.state with
  | possible | failed =>
    simp only [gesture, state] at recognized
    cases recognized
  | began =>
    simp only [gesture, state, ARViewController.recognizing] at recognized
    split at recognized
    next idle =>
      have position : screen.interaction.currentTrackingPosition = none := by
        rw [pans.interaction]
        simp only [VirtualObjectInteraction.didPan, gesture, state]
        unfold VirtualObjectInteraction.trackObject
        have before := inv.idle (by simp [idle])
        split <;> exact before
      have since : ∀ since, drag.since = some since → session.recognizer.translation = since := by
        rw [inv.idle (by simp [idle])] at balanced
        cases balanced with
        | untouched start since => exact since
      have same : session.leftTranslation touches view = session.recognizer.translation := by
        simp only [leftTranslation, VirtualObjectInteraction.didPan, gesture, state]
      simp only [observe, state]
      refine invariant_of_panGoesOn inv (Except.ok.inj recognized).symm
        (fun some => absurd position some) ?_
      rw [position, same]
      exact .untouched rfl since
    · cases recognized
  | changed =>
    simp only [gesture, state] at recognized
    have pan := ARViewController.recognized_of_changed recognized
    have after : screen.recognized = some .pan := by
      simp only [ARViewController.recognizing, pan, if_true, Except.ok.injEq] at recognized
      exact recognized.symm
    have interaction := pans.interaction
    simp only [VirtualObjectInteraction.didPan, gesture, state] at interaction
    simp only [observe, leftTranslation, VirtualObjectInteraction.didPan, gesture, state]
    cases exceeded : session.recognizer.isThresholdExceeded with
    | false =>
      simp only [exceeded, Bool.false_eq_true, if_false] at interaction ⊢
      refine invariant_of_panGoesOn inv after ?_ ?_
      · rw [interaction]
        exact tracked
      · rw [interaction]
        exact balanced
    | true =>
      simp only [exceeded, if_true] at interaction ⊢
      cases object : session.screen.interaction.trackedObject with
      | none =>
        simp only [object, projection, Option.map_none, Option.or_none] at interaction ⊢
        refine invariant_of_panGoesOn inv after ?_ ?_
        · rw [interaction]
          exact tracked
        · rw [interaction]
          exact balanced
      | some object' =>
        simp only [object, projection, Option.map_some] at interaction ⊢
        refine invariant_of_panGoesOn inv after ?_ ?_
        · rw [interaction]
          simp [VirtualObjectInteraction.updatedTrackingPosition, object]
        · rw [interaction]
          exact balanced.update (inv.crossed exceeded)
  | ended =>
    simp only [observe, state]
    exact invariant_of_panOver inv (.inl state) taken
  | cancelled =>
    simp only [observe, state]
    exact invariant_of_panOver inv (.inr state) taken

theorem didPan_cases {touches : GestureTouches} {view : SceneView}
    (taken : session.step (.didPan touches view) = .ok next) :
    session.screen.step (.pan (session.gesture touches) view) = .ok next.screen ∧
      next.recognizer =
        session.recognizer.setTranslation (session.leftTranslation touches view) := by
  obtain ⟨screen, done, rfl⟩ := map_ok taken
  exact ⟨done, rfl⟩

theorem recognizer_cases {event : ThresholdPanGesture.Event}
    (taken : session.step (.recognizer event) = .ok next) :
    session.mayTake event = true ∧ session.recognizer.step event = .ok next.recognizer ∧
      next.screen = session.screen := by
  simp only [step] at taken
  split at taken
  next allowed =>
    obtain ⟨recognizer, done, rfl⟩ := map_ok taken
    exact ⟨allowed, done, rfl⟩
  · cases taken

theorem other_cases {event : Event} (taken : session.step (.other event) = .ok next) :
    session.mayHappen event = true ∧ session.screen.step event = .ok next.screen ∧
      next.recognizer = session.recognizer := by
  simp only [step] at taken
  split at taken
  next allowed =>
    obtain ⟨screen, done, rfl⟩ := map_ok taken
    exact ⟨allowed, done, rfl⟩
  · cases taken

theorem invariant_step {event : DragEvent} (inv : Invariant ⟨session, drag⟩)
    (taken : session.step event = .ok next) :
    Invariant ⟨next, observe drag session event next⟩ := by
  obtain ⟨screen, recognizer⟩ := next
  cases event with
  | recognizer event =>
    obtain ⟨allowed, done, same⟩ := recognizer_cases taken
    cases same
    cases event with
    | touchesBegan touches state => exact invariant_of_assigned (by trivial) inv done
    | touchesMoved touches displacement state => exact invariant_of_moved inv done
    | touchesLifted touches state => exact invariant_of_assigned (by trivial) inv done
    | stateChanged state => exact invariant_of_assigned (by trivial) inv done
    | setTranslation translation => cases allowed
    | reset =>
      have idle : session.screen.recognized ≠ some .pan := by simpa [mayTake] using allowed
      exact invariant_of_reset inv idle done
  | didPan touches view =>
    obtain ⟨done, same⟩ := didPan_cases taken
    cases same
    exact invariant_of_didPan inv done
  | other event =>
    obtain ⟨allowed, done, same⟩ := other_cases taken
    cases same
    exact invariant_of_other inv allowed done

/-- The handler passes on what it computes. -/
theorem passesExactly_of_invariant {touches : GestureTouches} {view : SceneView}
    (inv : Invariant ⟨session, drag⟩) (taken : session.step (.didPan touches view) = .ok next) :
    PassesExactly ⟨session, drag⟩ touches view next := by
  obtain ⟨done, -⟩ := didPan_cases taken
  have pans := ARViewController.pan_cases done
  have exact' : ∀ object, session.screen.interaction.trackedObject = some object →
      drag.since ≠ none → IsExact ⟨session, drag⟩ view (session.position object touches view) := by
    intro object tracked crossed
    simp only [IsExact, projection, tracked, Option.map_some]
    exact inv.balanced.exact crossed
  refine ⟨fun began => ?_, fun object changed exceeded tracked => ?_,
    fun object ended crossed tracked => ?_⟩
  · have began : session.recognizer.state = .began := began
    have recognized := pans.recognized
    simp only [gesture, began, ARViewController.recognizing] at recognized
    split at recognized
    next idle => exact inv.idle (by simp [idle])
    · cases recognized
  · exact ⟨exact' object tracked (inv.crossed exceeded),
      ARViewController.scene_of_panDragged changed exceeded tracked done⟩
  · exact ⟨exact' object tracked crossed, ARViewController.scene_of_panEnded ended tracked done⟩

/-- Whatever the fingers, the recognizers and the rest of the screen do, the positions that a pan
passes on are those of the object at its first update, moved by the displacement of the fingers
since the threshold was crossed. -/
theorem drag_exact (opening : Opening) (events : List DragEvent) :
    Guarded (observing step observe) AllExact ⟨⟨opening.screen, {}⟩, {}⟩ events := by
  refine @guarded_of_invariant _ _ _ _ Invariant _ ?_ ?_ _ ?_ events
  · rintro history event next inv taken
    obtain ⟨after, done, rfl⟩ := observing_cases taken
    exact invariant_step inv done
  · rintro history event next inv - touches view after rfl done
    exact passesExactly_of_invariant inv done
  · refine ⟨fun exceeded => absurd exceeded (by simp), fun some => absurd rfl some, fun _ => rfl,
      fun _ => rfl, fun some => absurd rfl some, ?_⟩
    exact .untouched rfl fun since crossed => absurd crossed (by simp)

/-- A finger crosses the threshold on the chair, and drags it by (5, 2) and then by (3, 1). -/
def chairDraggedAlong : List DragEvent :=
  (ARViewController.floorFound ++ ARViewController.chairPlaced ++
    ARViewController.chairAttached).map .other ++
  [.recognizer (.touchesBegan {0} none), .recognizer (.touchesMoved {0} ⟨40, 0⟩ (some .began)),
    .didPan ARViewController.chairTouched ARViewController.showroomView,
    .recognizer (.touchesMoved {0} ⟨5, 2⟩ (some .changed)),
    .didPan {} ARViewController.showroomView,
    .recognizer (.touchesMoved {0} ⟨3, 1⟩ (some .changed)),
    .didPan {} ARViewController.showroomView]

example : (run (observing step observe) ⟨⟨ARViewController.showroom.screen, {}⟩, {}⟩
    chairDraggedAlong).toOption.map (fun history => (history.record.since,
      history.state.screen.interaction.currentTrackingPosition)) =
    some (some ⟨8, 3⟩, some ⟨8, 3⟩) := by
  decide +kernel

end DragSession

end FurnitureAR
