import FurnitureAR.Library.Observation
import FurnitureAR.ScreenSteps
import Mathlib.Algebra.Order.Ring.Rat
import Mathlib.Tactic.Ring

/-!
# The object under the fingers

A gesture picks its object when it begins: under its touches one after the other, and otherwise
between them. Whatever the gesture changes later is that object, wherever the fingers have gone.
-/
namespace FurnitureAR

open Execution

/-! ## The center of the touches -/

structure CGRect where
  origin : CGPoint
  width : ℚ
  height : ℚ
  deriving DecidableEq

namespace CGRect

variable (rect other : CGRect)

def minX : ℚ := rect.origin.x

def maxX : ℚ := rect.origin.x + rect.width

def minY : ℚ := rect.origin.y

def maxY : ℚ := rect.origin.y + rect.height

def midX : ℚ := rect.origin.x + rect.width / 2

def midY : ℚ := rect.origin.y + rect.height / 2

/-- `CGRect(origin:size:)` with the size zero. -/
def ofPoint (origin : CGPoint) : CGRect := ⟨origin, 0, 0⟩

/-- The smallest rectangle that contains both. -/
def union : CGRect where
  origin := ⟨min rect.minX other.minX, min rect.minY other.minY⟩
  width := max rect.maxX other.maxX - min rect.minX other.minX
  height := max rect.maxY other.maxY - min rect.minY other.minY

end CGRect

/-- `center(in:)`, from the locations of the touches. -/
def UIGestureRecognizer.center : List CGPoint → Option CGPoint
  | [] => none
  | first :: others =>
    -- The bounds grow by one location after the other.
    let touchBounds := others.foldl (fun bounds location => CGRect.union bounds (.ofPoint location))
      (CGRect.ofPoint first)
    some ⟨touchBounds.midX, touchBounds.midY⟩

/-- What lies under the touches, when a hit test says what lies under each point. -/
def GestureTouches.ofLocations (hitTest : CGPoint → List SceneNode) (locations : List CGPoint) :
    GestureTouches where
  underTouches := locations.map hitTest
  underCenter := ((UIGestureRecognizer.center locations).map hitTest).getD []

namespace CGRect

/-- The bounds of some numbers, which are among them. -/
structure Spans (low high : ℚ) (values : List ℚ) : Prop where
  low_mem : low ∈ values
  high_mem : high ∈ values
  between : ∀ value ∈ values, low ≤ value ∧ value ≤ high

theorem Spans.concat {low high : ℚ} {values : List ℚ} (spans : Spans low high values)
    (value : ℚ) : Spans (min low value) (max high value) (values ++ [value]) := by
  refine ⟨?_, ?_, fun other member => ?_⟩
  · rcases min_choice low value with same | same
    · rw [same]
      exact List.mem_append_left _ spans.low_mem
    · rw [same]
      exact List.mem_append_right _ (List.mem_singleton_self _)
  · rcases max_choice high value with same | same
    · rw [same]
      exact List.mem_append_left _ spans.high_mem
    · rw [same]
      exact List.mem_append_right _ (List.mem_singleton_self _)
  · rcases List.mem_append.mp member with old | new
    · obtain ⟨above, below⟩ := spans.between other old
      exact ⟨min_le_of_left_le above, le_max_of_le_left below⟩
    · obtain rfl := List.mem_singleton.mp new
      exact ⟨min_le_right _ _, le_max_right _ _⟩

/-- Bounds do not depend on the order of the values. -/
theorem Spans.unique {low high low' high' : ℚ} {values values' : List ℚ}
    (spans : Spans low high values) (spans' : Spans low' high' values')
    (same : ∀ value, value ∈ values ↔ value ∈ values') : low = low' ∧ high = high' := by
  constructor
  · exact le_antisymm (spans.between _ ((same _).mpr spans'.low_mem)).1
      (spans'.between _ ((same _).mp spans.low_mem)).1
  · exact le_antisymm (spans'.between _ ((same _).mp spans.high_mem)).2
      (spans.between _ ((same _).mpr spans'.high_mem)).2

/-- The rectangle is the bounding box of the points. -/
structure Bounds (rect : CGRect) (locations : List CGPoint) : Prop where
  x : Spans rect.minX rect.maxX (locations.map CGPoint.x)
  y : Spans rect.minY rect.maxY (locations.map CGPoint.y)

theorem bounds_ofPoint (location : CGPoint) : Bounds (.ofPoint location) [location] := by
  have spans : ∀ value : ℚ, Spans value (value + 0) [value] := by
    intro value
    rw [add_zero]
    exact ⟨List.mem_singleton_self _, List.mem_singleton_self _, by simp⟩
  exact ⟨spans location.x, spans location.y⟩

theorem Bounds.union {rect : CGRect} {locations : List CGPoint} (bounds : rect.Bounds locations)
    (location : CGPoint) : (rect.union (.ofPoint location)).Bounds (locations ++ [location]) := by
  -- The rectangle is stored with its size, so the far edges are sums.
  have far : ∀ low high : ℚ, low + (high - low) = high := fun low high => by ring
  have spansX := bounds.x.concat location.x
  have spansY := bounds.y.concat location.y
  constructor
  · rw [List.map_append]
    simpa [CGRect.union, ofPoint, minX, maxX, far] using spansX
  · rw [List.map_append]
    simpa [CGRect.union, ofPoint, minY, maxY, far] using spansY

theorem bounds_foldl {rect : CGRect} {locations : List CGPoint} (bounds : rect.Bounds locations)
    (others : List CGPoint) :
    Bounds (others.foldl (fun bounds location => CGRect.union bounds (.ofPoint location)) rect)
      (locations ++ others) := by
  induction others generalizing rect locations with
  | nil => simpa using bounds
  | cons location others ih =>
    have more := ih (bounds.union location)
    rwa [List.append_assoc] at more

end CGRect

open CGRect (Spans)

/-- In the middle between the outermost points, in either direction. -/
structure IsCenter (center : CGPoint) (locations : List CGPoint) : Prop where
  x : ∃ left right, Spans left right (locations.map CGPoint.x) ∧ center.x = (left + right) / 2
  y : ∃ upper lower, Spans upper lower (locations.map CGPoint.y) ∧ center.y = (upper + lower) / 2

/-- There is only one center, and the order of the touches does not matter to it. -/
theorem IsCenter.unique {center other : CGPoint} {locations locations' : List CGPoint}
    (isCenter : IsCenter center locations) (isCenter' : IsCenter other locations')
    (same : ∀ location, location ∈ locations ↔ location ∈ locations') : center = other := by
  obtain ⟨⟨left, right, spansX, x⟩, ⟨upper, lower, spansY, y⟩⟩ := isCenter
  obtain ⟨⟨left', right', spansX', x'⟩, ⟨upper', lower', spansY', y'⟩⟩ := isCenter'
  have mapped : ∀ (coordinate : CGPoint → ℚ) value,
      value ∈ locations.map coordinate ↔ value ∈ locations'.map coordinate := by
    intro coordinate value
    simp only [List.mem_map, same]
  obtain ⟨rfl, rfl⟩ := spansX.unique spansX' (mapped CGPoint.x)
  obtain ⟨rfl, rfl⟩ := spansY.unique spansY' (mapped CGPoint.y)
  cases center
  cases other
  exact congrArg₂ CGPoint.mk (x.trans x'.symm) (y.trans y'.symm)

theorem isCenter_center {locations : List CGPoint} {center : CGPoint}
    (found : UIGestureRecognizer.center locations = some center) : IsCenter center locations := by
  have middle : ∀ low size : ℚ, low + size / 2 = (low + (low + size)) / 2 := fun low size => by ring
  cases locations with
  | nil => cases found
  | cons first others =>
    have bounds := CGRect.bounds_foldl (CGRect.bounds_ofPoint first) others
    cases found
    exact ⟨⟨_, _, bounds.x, middle _ _⟩, ⟨_, _, bounds.y, middle _ _⟩⟩

/-! ## Picking an object -/

/-- The object is the first one under a touch, or else the one in the middle of the touches. -/
inductive PickedAt (hitTest : CGPoint → List SceneNode) (locations : List CGPoint)
    (object : ObjectRef) : Prop where
  | underTouch (before after : List CGPoint) (location : CGPoint)
      (split : locations = before ++ location :: after)
      (missed : ∀ earlier ∈ before, virtualObjectAt (hitTest earlier) = none)
      (hit : virtualObjectAt (hitTest location) = some object)
  | between (center : CGPoint) (isCenter : IsCenter center locations)
      (missed : ∀ location ∈ locations, virtualObjectAt (hitTest location) = none)
      (hit : virtualObjectAt (hitTest center) = some object)

theorem PickedAt.objectInteracting {hitTest : CGPoint → List SceneNode}
    {locations : List CGPoint} {object : ObjectRef} (picked : PickedAt hitTest locations object) :
    objectInteracting (.ofLocations hitTest locations) = some object := by
  unfold FurnitureAR.objectInteracting GestureTouches.ofLocations
  dsimp only
  rw [List.findSome?_map]
  cases picked with
  | underTouch before after location split missed hit =>
    have under : locations.findSome? (virtualObjectAt ∘ hitTest) = some object :=
      List.findSome?_eq_some_iff.mpr ⟨before, location, after, split, hit, missed⟩
    rw [under]
  | between center isCenter missed hit =>
    have under : locations.findSome? (virtualObjectAt ∘ hitTest) = none :=
      List.findSome?_eq_none_iff.mpr missed
    rw [under]
    cases locations with
    -- A gesture without touches has no center.
    | nil =>
      obtain ⟨⟨left, right, spans, -⟩, -⟩ := isCenter
      exact absurd spans.low_mem List.not_mem_nil
    | cons first others =>
      have same := isCenter.unique (isCenter_center rfl) fun _ => Iff.rfl
      rw [same] at hit
      exact hit

theorem pickedAt_of_objectInteracting {hitTest : CGPoint → List SceneNode}
    {locations : List CGPoint} {object : ObjectRef}
    (found : objectInteracting (.ofLocations hitTest locations) = some object) :
    PickedAt hitTest locations object := by
  unfold objectInteracting GestureTouches.ofLocations at found
  dsimp only at found
  rw [List.findSome?_map] at found
  cases under : locations.findSome? (virtualObjectAt ∘ hitTest) with
  | some other =>
    obtain ⟨before, location, after, split, hit, missed⟩ := List.findSome?_eq_some_iff.mp under
    rw [under] at found
    cases found
    exact .underTouch before after location split missed hit
  -- Nothing is under the touches, so the hit test at the center decides.
  | none =>
    have missed := List.findSome?_eq_none_iff.mp under
    rw [under] at found
    cases locations with
    | nil => cases found
    | cons first others => exact .between _ (isCenter_center rfl) missed found

/-! ## Whole runs -/

/-- The observer keeps the touches with which a gesture has begun last. -/
def observeTouches (touches : Option GestureTouches) (_ : ARViewController) (event : Event)
    (_ : ARViewController) : Option GestureTouches :=
  match event.gesture with
  | some (_, .began, began) => some began
  | _ => touches

abbrev TouchHistory := Observed ARViewController (Option GestureTouches)

/-- The object was picked by these touches, wherever they were. -/
def PickedBy (touches : Option GestureTouches) (object : ObjectRef) : Prop :=
  ∃ began, touches = some began ∧ objectInteracting began = some object ∧
    ∀ hitTest locations, began = .ofLocations hitTest locations →
      PickedAt hitTest locations object

theorem pickedBy_of_objectInteracting {began : GestureTouches} {object : ObjectRef}
    (found : objectInteracting began = some object) : PickedBy (some began) object := by
  refine ⟨began, rfl, found, ?_⟩
  rintro hitTest locations rfl
  exact pickedAt_of_objectInteracting found

/-- There is a tracked object only while a gesture is recognized that has picked it. -/
structure TracksPicked (history : TouchHistory) : Prop where
  idle : history.state.recognized = none → history.state.interaction.trackedObject = none
  picked : ∀ object, history.state.interaction.trackedObject = some object →
    PickedBy history.record object

namespace ARViewController

variable {screen next : ARViewController} {event : Event} {touches : Option GestureTouches}

/-- Events that are none of a gesture's leave it alone, also taps that are overtaken. -/
theorem tracking_kept (other : event.LeavesGestures) (taken : step screen event = .ok next) :
    next.interaction.trackedObject = screen.interaction.trackedObject ∧
      next.recognized = screen.recognized := by
  have guarded := @preserved_of_undisturbed
    (fun next => next.interaction.trackedObject = screen.interaction.trackedObject ∧
      next.recognized = screen.recognized) (fun _ event => event.LeavesGestures) ?_ ?_ ?_
  · exact guarded screen event next ⟨rfl, rfl⟩ other taken
  · exact fun _ _ _ _ => ⟨rfl, by simp⟩
  · exact fun _ _ _ => ⟨rfl, by simp⟩
  · rintro screen event next alone ⟨tracked, recognized⟩ other taken
    have change := step_tracking alone taken
    generalize next.interaction.trackedObject = tracked', next.recognized = recognized' at change ⊢
    cases change with
    | unchanged => exact ⟨tracked, recognized⟩
    | closed => exact absurd rfl other.2
    | began event kind began gesture => cases other.1.symm.trans gesture
    | changed event kind began gesture => cases other.1.symm.trans gesture
    | finished event kind state began gesture => cases other.1.symm.trans gesture

theorem observeTouches_kept {event : Event}
    (notBegan : ∀ kind began, event.gesture ≠ some (kind, .began, began)) :
    observeTouches touches screen event next = touches := by
  unfold observeTouches
  split
  next kind began gesture => exact absurd gesture (notBegan kind began)
  · rfl

theorem tracksPicked_step (tracks : TracksPicked ⟨screen, touches⟩)
    (taken : step screen event = .ok next) :
    TracksPicked ⟨next, observeTouches touches screen event next⟩ := by
  obtain ⟨idle, picked⟩ := tracks
  dsimp only at idle picked
  by_cases other : event.LeavesGestures
  · obtain ⟨tracked, recognized⟩ := tracking_kept other taken
    rw [observeTouches_kept fun kind began gesture => by cases other.1.symm.trans gesture]
    constructor
    · dsimp only
      rw [tracked, recognized]
      exact idle
    · dsimp only
      rw [tracked]
      exact picked
  -- What is left are gestures and the end of the screen.
  · have alone : event.Undisturbed := by
      cases event with
      | addVirtualObject => exact absurd ⟨rfl, by simp⟩ other
      | _ => trivial
    have change := step_tracking alone taken
    unfold observeTouches
    generalize tracked : next.interaction.trackedObject = object,
      recognized : next.recognized = kind at change
    cases change with
    | unchanged event others => exact absurd others other
    | closed =>
      exact ⟨fun _ => tracked, fun object some => by cases tracked.symm.trans some⟩
    | began event kind began gesture none hittable =>
      -- Nothing was tracked, so the object is the one that these touches have picked.
      rw [idle none, Option.or_none] at tracked
      rw [gesture]
      refine ⟨fun idle => (by cases recognized.symm.trans idle), fun object some => ?_⟩
      exact pickedBy_of_objectInteracting (tracked.symm.trans some)
    -- Fingers that move pick nothing else.
    | changed event kind began gesture same =>
      rw [gesture]
      constructor
      · dsimp only
        rw [tracked, recognized]
        exact idle
      · dsimp only
        rw [tracked]
        exact picked
    | finished event kind state began gesture lifted same =>
      exact ⟨fun _ => tracked, fun object some => by cases tracked.symm.trans some⟩

/-- The handlers of gestures change only the object that is tracked. -/
theorem tracked_of_changed (gestured : event.gesture.isSome)
    (taken : step screen event = .ok next) {object : ObjectRef}
    (changed : next.scene.objects object ≠ screen.scene.objects object) :
    screen.interaction.trackedObject = some object := by
  have reshaped : ∀ {kind state touches}, Reshapes screen kind state touches next →
      screen.interaction.trackedObject = some object := by
    rintro kind state touches ⟨-, -, reshaping, -⟩
    generalize next.scene = scene, next.interaction = interaction at reshaping changed
    cases reshaping with
    | changed other after tracked reshaped =>
      rw [tracked]
      by_contra ne
      have ne : object ≠ other := fun same => ne (congrArg some same.symm)
      exact changed (by rw [Scene.modify_objects, if_neg ne])
    | _ => exact absurd rfl changed
  cases event with
  | pan gesture view =>
    rw [(pan_cases taken).scene] at changed
    -- A pan moves the tracked object while it changes, and sets it down when it ends.
    unfold VirtualObjectInteraction.didPan at changed
    split at changed
    · exact absurd rfl changed
    · split at changed
      · split at changed
        · exact absurd rfl changed
        next other tracked =>
          rw [tracked]
          by_contra ne
          have ne : object ≠ other := fun same => ne (congrArg some same.symm)
          exact changed (Scene.translate_objects_of_ne _ ne ..)
      · exact absurd rfl changed
    · split at changed
      · exact absurd rfl changed
      next other tracked =>
        rw [tracked]
        by_contra ne
        have ne : object ≠ other := fun same => ne (congrArg some same.symm)
        exact changed (Scene.setDown_objects_of_ne _ ne ..)
    · exact absurd rfl changed
  | rotate gesture => exact reshaped (rotate_reshapes taken)
  | pinch gesture => exact reshaped (pinch_reshapes taken)
  | _ => cases gestured

/-- Whatever a gesture changes, it has picked. -/
def ChangesPicked (history : TouchHistory) (event : Event) : Prop :=
  event.gesture.isSome → ∀ next, step history.state event = .ok next → ∀ object,
    next.scene.objects object ≠ history.state.scene.objects object → PickedBy history.record object

/-- In every run, gestures change only the object that was under the fingers when they began, or
between them if there was none under any of them. -/
theorem gestures_change_picked (opening : Opening) (events : List Event) :
    Always (observing step observeTouches) TracksPicked ⟨opening.screen, none⟩ events ∧
      Guarded (observing step observeTouches) ChangesPicked ⟨opening.screen, none⟩ events := by
  have preserved : ∀ history event after, TracksPicked history →
      observing step observeTouches history event = .ok after → TracksPicked after := by
    rintro ⟨screen, touches⟩ event after tracks taken
    obtain ⟨next, done, rfl⟩ := observing_cases taken
    exact tracksPicked_step tracks done
  have initial : TracksPicked ⟨opening.screen, none⟩ :=
    ⟨fun _ => rfl, fun object some => nomatch some⟩
  constructor
  · exact always_of_invariant preserved initial events
  · apply guarded_of_invariant preserved ?_ initial events
    intro history event after tracks _ gesture next taken object changed
    exact tracks.picked object (tracked_of_changed gesture taken changed)

end ARViewController

end FurnitureAR
