import FurnitureAR.RaycastOwnership

/-!
# Pans below the threshold

The comments of the pan handler say that a pan is ignored until it exceeds the displacement
threshold. The handler asks for the threshold only while the pan changes: at its end it sets the
object down in any case.
-/
namespace FurnitureAR

open Execution

/-- The events of one pan: it begins, changes any number of times, and is lifted or cancelled.
Each event comes with what the frameworks answer while it is handled. -/
structure PanRun where
  began : PanGesture × SceneView
  changes : List (PanGesture × SceneView)
  last : PanGesture × SceneView
  begins : began.1.state = .began
  goesOn : ∀ change ∈ changes, change.1.state = .changed
  lifted : last.1.state = .ended ∨ last.1.state = .cancelled

namespace PanRun

def events (pan : PanRun) : List Event :=
  .pan pan.began.1 pan.began.2 :: (pan.changes.map fun change => .pan change.1 change.2) ++
    [.pan pan.last.1 pan.last.2]

def BelowThreshold (pan : PanRun) : Prop :=
  ∀ change ∈ pan.changes, change.1.isThresholdExceeded = false

instance (pan : PanRun) : Decidable pan.BelowThreshold :=
  inferInstanceAs (Decidable (∀ change ∈ pan.changes, change.1.isThresholdExceeded = false))

end PanRun

/-- The object is where it was, with the tracked raycast, the anchor and the flag that it had. -/
structure Undragged (before after : VirtualObject) : Prop where
  simdWorldTransform : after.simdWorldTransform = before.simdWorldTransform
  raycast : after.raycast = before.raycast
  anchor : after.anchor = before.anchor
  shouldUpdateAnchor : after.shouldUpdateAnchor = before.shouldUpdateAnchor

theorem Undragged.refl (object : VirtualObject) : Undragged object object := ⟨rfl, rfl, rfl, rfl⟩

/-! ## Setting down -/

namespace Scene

/-- Setting down always leaves a trace: a new raycast, or a closure that anchors the object. -/
theorem undragged_setDown {scene : Scene} (sound : scene.ownership.raycasts.Sound)
    {object : ObjectRef} {position : CGPoint} {view : SceneView}
    (undragged : Undragged (scene.objects object)
      ((scene.setDown object position view).objects object)) :
    (scene.setDown object position view).pendingRefreshes object ≠
      scene.pendingRefreshes object := by
  cases granted : view.grantsAt position with
  | true =>
    -- The new raycast has a number that no stored one has.
    have stored : scene.ownership.raycasts.held object = some scene.session.nextRaycast := by
      have raycast := undragged.raycast
      rw [setDown_objects, granted] at raycast
      exact raycast.symm
    exact absurd (sound.held_lt stored) (Nat.lt_irrefl _)
  | false =>
    rw [scene.pendingRefreshes_setDown granted]
    exact Nat.succ_ne_self _

end Scene

/-! ## The run of a pan -/

namespace ARViewController

variable {screen next final : ARViewController}

theorem scene_of_panBegan {gesture : PanGesture} {view : SceneView} {object : ObjectRef}
    (began : gesture.state = .began) (found : objectInteracting gesture.touches = some object)
    (taken : step screen (.pan gesture view) = .ok next) :
    next.scene = screen.scene ∧ next.interaction.trackedObject = some object := by
  have pans := pan_cases taken
  rw [pans.scene, pans.interaction]
  simp only [VirtualObjectInteraction.didPan, began, VirtualObjectInteraction.trackObject, found]
  exact ⟨trivial, rfl⟩

/-- Below the threshold a change of the pan is ignored. -/
theorem scene_of_panBelow {gesture : PanGesture} {view : SceneView}
    (changed : gesture.state = .changed) (below : gesture.isThresholdExceeded = false)
    (taken : step screen (.pan gesture view) = .ok next) :
    next.scene = screen.scene ∧ next.interaction = screen.interaction := by
  have pans := pan_cases taken
  rw [pans.scene, pans.interaction]
  simp only [VirtualObjectInteraction.didPan, changed, below, Bool.false_eq_true, if_false,
    and_self]

theorem scene_of_changesBelow {changes : List (PanGesture × SceneView)}
    (goesOn : ∀ change ∈ changes, change.1.state = .changed)
    (below : ∀ change ∈ changes, change.1.isThresholdExceeded = false)
    (finished : run step screen (changes.map fun change => .pan change.1 change.2) = .ok final) :
    final.scene = screen.scene ∧ final.interaction = screen.interaction := by
  induction changes generalizing screen with
  | nil =>
    cases finished
    exact ⟨rfl, rfl⟩
  | cons change changes ih =>
    obtain ⟨middle, taken, rest⟩ := run_cons_ok finished
    have first := scene_of_panBelow (goesOn change List.mem_cons_self)
      (below change List.mem_cons_self) taken
    have others := ih (fun other member => goesOn other (List.mem_cons_of_mem _ member))
      (fun other member => below other (List.mem_cons_of_mem _ member)) rest
    rw [first.1, first.2] at others
    exact others

/-- A pan that begins on an object and stays below the threshold leaves it as it was, and its anchor
as it will be, if and only if it is cancelled. Then the whole scene is as it was. -/
theorem panBelowThreshold_iff (opening : Opening) {events : List Event}
    (reached : run step opening.screen events = .ok screen) (pan : PanRun)
    (below : pan.BelowThreshold) {object : ObjectRef}
    (found : objectInteracting pan.began.1.touches = some object)
    (finished : run step screen pan.events = .ok final) :
    (Undragged (screen.scene.objects object) (final.scene.objects object) ∧
        final.scene.pendingRefreshes object = screen.scene.pendingRefreshes object ↔
      pan.last.1.state = .cancelled) ∧
    (final.scene = screen.scene ↔ pan.last.1.state = .cancelled) := by
  have sound := (sound_always opening events).atEnd reached
  obtain ⟨before, changed, last⟩ := run_append_ok finished
  obtain ⟨first, began, changes⟩ := run_cons_ok changed
  obtain ⟨scene, tracked⟩ := scene_of_panBegan pan.begins found began
  have same := scene_of_changesBelow pan.goesOn below changes
  rw [scene] at same
  rw [← same.2] at tracked
  obtain ⟨after, taken, done⟩ := run_cons_ok last
  cases done
  -- Up to its end the pan has done nothing, so everything depends on how it ends.
  rcases pan.lifted with ended | cancelled
  · have down := scene_of_panEnded ended tracked taken
    have notCancelled : pan.last.1.state ≠ .cancelled := by simp [ended]
    have trace : ¬ (Undragged (screen.scene.objects object) (final.scene.objects object) ∧
        final.scene.pendingRefreshes object = screen.scene.pendingRefreshes object) := by
      rw [down, same.1]
      exact fun none => Scene.undragged_setDown sound none.1 none.2
    refine ⟨iff_of_false trace notCancelled, iff_of_false (fun kept => ?_) notCancelled⟩
    rw [kept] at trace
    exact trace ⟨.refl _, rfl⟩
  · rw [scene_of_panOver (.inl cancelled) taken, same.1]
    exact ⟨iff_of_true ⟨.refl _, rfl⟩ cancelled, iff_of_true rfl cancelled⟩

/-- A pan on the chair that never moves it. -/
def chairTapped (lifted : GestureState) (isLifted : lifted = .ended ∨ lifted = .cancelled) :
    PanRun where
  began := (⟨.began, false, .zero, chairTouched⟩, showroomView)
  changes := [(⟨.changed, false, ⟨3, 4⟩, chairTouched⟩, showroomView)]
  last := (⟨lifted, false, ⟨3, 4⟩, {}⟩, showroomView)
  begins := rfl
  goesOn := by simp
  lifted := isLifted

/-- When the pan is cancelled, nothing has happened to the chair. -/
theorem undragged_chair : ∃ screen final : ARViewController,
    run step showroom.screen (floorFound ++ chairPlaced ++ chairAttached) = .ok screen ∧
    run step screen (chairTapped .cancelled (.inr rfl)).events = .ok final ∧
    Undragged (screen.scene.objects 0) (final.scene.objects 0) ∧
      final.scene.pendingRefreshes 0 = screen.scene.pendingRefreshes 0 := by
  refine ⟨_, _, rfl, rfl, ?_⟩
  exact (@panBelowThreshold_iff _ _ showroom (floorFound ++ chairPlaced ++ chairAttached) rfl
    (chairTapped .cancelled (.inr rfl)) (by decide) 0 rfl rfl).1.mpr rfl

/-- When the fingers are lifted, the chair has another raycast. -/
theorem not_undragged : ¬ ∀ (opening : Opening) (events : List Event)
    (screen final : ARViewController) (pan : PanRun) (object : ObjectRef),
    run step opening.screen events = .ok screen → pan.BelowThreshold →
      objectInteracting pan.began.1.touches = some object →
      run step screen pan.events = .ok final →
        Undragged (screen.scene.objects object) (final.scene.objects object) := by
  intro undragged
  have kept := undragged showroom (floorFound ++ chairPlaced ++ chairAttached) _ _
    (chairTapped .ended (.inl rfl)) 0 rfl (by decide) rfl rfl
  exact absurd kept.raycast (by decide)

end ARViewController

end FurnitureAR
