import FurnitureAR.RaycastOwnership

/-!
# Objects that can be seen

A loaded object gets into the scene when its tracked raycast is first called back. This module
says exactly which steps leave an object in the list that neither is in the scene nor will ever
get there.
-/
namespace FurnitureAR

open Execution

/-- The object is in the scene, or has a live raycast that will put it there. -/
def Ownership.Present (ownership : Ownership) (object : ObjectRef) : Prop :=
  ownership.parent object ≠ none ∨ ∃ raycast, ownership.raycasts.live raycast = some object

/-- Setting an object down takes its raycast away and may grant it a new one. -/
theorem Ownership.present_setDown {ownership : Ownership} (numbered : ownership.raycasts.Numbered)
    (tracked object : ObjectRef) (granted : Bool) :
    { ownership with
        raycasts :=
          if granted then (ownership.raycasts.release [tracked]).grant tracked
          else ownership.raycasts.release [tracked] }.Present object ↔
      ownership.parent object ≠ none ∨
      (∃ raycast, ownership.raycasts.live raycast = some object ∧
        ownership.raycasts.held tracked ≠ some raycast) ∨
      tracked = object ∧ granted = true := by
  have released : ∀ raycast,
      (ownership.raycasts.release [tracked]).live raycast = some object ↔
        ownership.raycasts.live raycast = some object ∧
          ownership.raycasts.held tracked ≠ some raycast := by
    intro raycast
    rw [Lease.Registry.live_release]
    simp
  cases granted with
  | false => simp [Present, released]
  | true =>
    simp only [Present, if_true, and_true, ← released]
    constructor
    · rintro (attached | ⟨raycast, live⟩)
      · exact .inl attached
      · rw [Lease.Registry.live_grant] at live
        split at live
        next new => exact .inr (.inr live)
        next old => exact .inr (.inl ⟨raycast, live⟩)
    · rintro (attached | ⟨raycast, live⟩ | rfl)
      · exact .inl attached
      -- The new raycast has a number of its own, so that it replaces no live one.
      · exact .inr ⟨raycast, (numbered.release [tracked]).live_of_live live⟩
      · exact .inr ⟨_, Lease.Registry.live_grant_self tracked⟩

namespace ARViewController

/-- A placement gets its object a raycast, if the object is still in the list and cannot be seen
without it, and when a pan is over, every object in the list is in the scene or has a live
raycast other than the one that the tracked object gives up. -/
def KeepsPresent (screen : ARViewController) : Event → Prop
  | .mainQueue view =>
    ∀ object rest query, screen.dispatch.mainQueue = .placeLoadedObject object :: rest →
      screen.scene.placementQuery object = some query →
        screen.recognized = some .pan ∨ object ∉ screen.scene.loader.loadedObjects ∨
          view.grantsTrackedRaycast query = true ∨
          (screen.scene.objects object).parent ≠ none ∨
          ∃ raycast, screen.scene.session.raycasts raycast = some object
  | .pan gesture view =>
    gesture.state = .ended ∨ gesture.state = .cancelled → screen.loadCycle.inProgress = [] →
      ∀ object ∈ screen.scene.loader.loadedObjects,
        (screen.scene.objects object).parent ≠ none ∨
        (∃ raycast, screen.scene.session.raycasts raycast = some object ∧
          (gesture.state = .ended → ∀ tracked, screen.interaction.trackedObject = some tracked →
            (screen.scene.objects tracked).raycast ≠ some raycast)) ∨
        gesture.state = .ended ∧ screen.interaction.trackedObject = some object ∧
          view.grantsAt (screen.interaction.updatedTrackingPosition screen.scene object
            gesture view).1 = true
  | _ => True

/-- Raycasts are numbered in every run, so that a new one takes the place of no other one. -/
structure PhantomFree (screen : ARViewController) : Prop where
  serial : screen.loadCycle.Serial
  numbered : screen.scene.ownership.raycasts.Numbered
  present : screen.loadCycle.inProgress = [] → screen.recognized ≠ some .pan →
    ∀ object ∈ screen.scene.ownership.loadedObjects, screen.scene.ownership.Present object

theorem numbered_step {screen next : ARViewController} {event : Event}
    (undisturbed : event.Undisturbed) (numbered : screen.scene.ownership.raycasts.Numbered)
    (taken : step screen event = .ok next) : next.scene.ownership.raycasts.Numbered :=
  raycasts_step (fun owners numbered => numbered.release owners)
    (fun owner numbered => numbered.grant owner) (fun _ numbered => numbered)
    undisturbed numbered taken

/-- When a pan is over, the objects that can be seen are those that the condition allows. -/
theorem present_of_panOver {screen next : ARViewController} {gesture : PanGesture}
    {view : SceneView} (numbered : screen.scene.ownership.raycasts.Numbered)
    (lifted : gesture.state = .ended ∨ gesture.state = .cancelled)
    (taken : step screen (.pan gesture view) = .ok next) (object : ObjectRef) :
    next.scene.ownership.Present object ↔
      (screen.scene.objects object).parent ≠ none ∨
      (∃ raycast, screen.scene.session.raycasts raycast = some object ∧
        (gesture.state = .ended → ∀ tracked, screen.interaction.trackedObject = some tracked →
          (screen.scene.objects tracked).raycast ≠ some raycast)) ∨
      gesture.state = .ended ∧ screen.interaction.trackedObject = some object ∧
        view.grantsAt (screen.interaction.updatedTrackingPosition screen.scene object
          gesture view).1 = true := by
  cases tracked : screen.interaction.trackedObject with
  | none =>
    have same : next.scene = screen.scene := by
      refine scene_of_panOver ?_ taken
      rcases lifted with ended | cancelled
      · exact .inr ⟨ended, tracked⟩
      · exact .inl cancelled
    rw [same]
    simp [Ownership.Present, Scene.ownership]
  | some trackedObject =>
    rcases lifted with ended | cancelled
    · rw [scene_of_panEnded ended tracked taken, Scene.ownership_setDown,
        Ownership.present_setDown numbered]
      simp only [ended, true_and, Option.some.injEq, forall_const, forall_eq']
      -- The position is that of the tracked object, which is the one that may get a raycast.
      refine or_congr_right (or_congr_right (and_congr_right fun same => ?_))
      rw [same]
    · rw [scene_of_panOver (.inl cancelled) taken]
      simp [Ownership.Present, Scene.ownership, cancelled]

/-- A pan that is not over was none before. -/
theorem notPan_before {screen : ARViewController} {event : Event} {tracked : Option ObjectRef}
    {recognized : Option GestureKind} (tracking : TrackingChange screen event tracked recognized)
    (notOver : ∀ gesture view, event = .pan gesture view →
      ¬ (gesture.state = .ended ∨ gesture.state = .cancelled))
    (notPan : recognized ≠ some .pan) : screen.recognized ≠ some .pan := by
  cases tracking with
  | unchanged event other => exact notPan
  | closed => exact notPan
  | began event kind touches gesture idle hittable => simp [idle]
  | changed event kind touches gesture same => exact notPan
  -- Only the recognized gesture can end, so it is a pan that does.
  | finished event kind state touches gesture lifted same =>
    intro pan
    rw [same] at pan
    cases pan
    cases event with
    | pan gesture' view =>
      simp only [Event.gesture, Option.some.injEq, Prod.mk.injEq, true_and] at gesture
      exact notOver gesture' view rfl (gesture.1 ▸ lifted)
    | _ => simp [Event.gesture] at gesture

/-- After a placement its object can be seen if it gets a raycast, or could be seen before. -/
theorem present_of_placement {screen next : ARViewController} {view : SceneView}
    {object : ObjectRef} {rest : List MainClosure} {query : ARRaycastQuery}
    (head : screen.dispatch.mainQueue = .placeLoadedObject object :: rest)
    (accepted : screen.scene.placementQuery object = some query)
    (taken : step screen (.mainQueue view) = .ok next) :
    next.scene.ownership.Present object ↔
      view.grantsTrackedRaycast query = true ∨ (screen.scene.objects object).parent ≠ none ∨
        ∃ raycast, screen.scene.session.raycasts raycast = some object := by
  rw [scene_of_placement head accepted taken, Scene.ownership_placeAt]
  split
  next granted =>
    refine ⟨fun _ => .inl granted, fun _ => .inr ⟨_, Lease.Registry.live_grant_self object⟩⟩
  next refused =>
    constructor
    · exact .inr
    · rintro (granted | present)
      · exact absurd granted refused
      · exact present

/-- The event is a placement whose guard holds. -/
def Places (screen : ARViewController) (event : Event) : Prop :=
  ∃ view placed rest query, event = .mainQueue view ∧
    screen.dispatch.mainQueue = .placeLoadedObject placed :: rest ∧
    screen.scene.placementQuery placed = some query

theorem placement_of_place {screen : ARViewController} {event : Event}
    (place : screen.action event = .place) : screen.Places event := by
  cases event with
  | mainQueue view =>
    simp only [action] at place
    split at place
    next object rest head =>
      split at place
      next accepted =>
        obtain ⟨query, found⟩ := Option.isSome_iff_exists.mp accepted
        exact ⟨view, object, rest, query, rfl, head, found⟩
      · cases place
    · cases place
  | addVirtualObject view meanwhile =>
    simp only [action] at place
    split at place
    · split at place <;> cases place
    · cases place
  | coachingOverlayDidRequestSessionReset =>
    simp only [action] at place
    split at place <;> cases place
  | background event => cases event <;> cases place
  | _ => cases place

/-- Outside pans and placements, an object that can be seen can be seen until it is removed. -/
theorem present_kept {screen next : ARViewController} {event : Event}
    (undisturbed : event.Undisturbed) (notPan : screen.recognized ≠ some .pan)
    (noPlacement : ¬ screen.Places event)
    (notOver : ¬ ∃ gesture view, event = .pan gesture view ∧
      (gesture.state = .ended ∨ gesture.state = .cancelled))
    (taken : step screen event = .ok next) {object : ObjectRef}
    (before : object ∈ screen.scene.loader.loadedObjects)
    (after : object ∈ next.scene.ownership.loadedObjects)
    (present : screen.scene.ownership.Present object) : next.scene.ownership.Present object := by
  have change := step_ownership undisturbed taken
  generalize next.scene.ownership = ownership at change after ⊢
  cases change with
  | same event => exact present
  | loaded view other empty =>
    rw [empty] at before
    cases before
  | removed event => cases after
  | placed view object rest query head accepted =>
    exact absurd ⟨view, object, rest, query, rfl, head, accepted⟩ noPlacement
  | attached raycast results other live =>
    rcases present with attached | tracked
    · left
      dsimp only
      rw [Function.update_apply]
      split
      · simp
      · exact attached
    · exact .inr tracked
  | dragged gesture view other state =>
    -- Only a recognized pan drags.
    have recognized := (pan_cases taken).recognized
    rw [state] at recognized
    exact absurd (recognized_of_changed recognized) notPan
  | setDown gesture view object state tracked =>
    exact absurd ⟨gesture, view, rfl, .inl state⟩ notOver

theorem PhantomFree.preserved {screen next : ARViewController} {event : Event}
    (undisturbed : event.Undisturbed) (free : screen.PhantomFree)
    (allowed : screen.KeepsPresent event) (taken : step screen event = .ok next) :
    next.PhantomFree := by
  -- Pans that end, placements and all other steps are three different arguments.
  refine ⟨serial_step screen event next free.serial taken,
    numbered_step undisturbed free.numbered taken, ?_⟩
  intro idle notPan object member
  have cycle := step_loadCycle undisturbed taken
  have tracking := step_tracking undisturbed taken
  by_cases lifted : ∃ gesture view, event = .pan gesture view ∧
      (gesture.state = .ended ∨ gesture.state = .cancelled)
  · obtain ⟨gesture, view, rfl, lifted⟩ := lifted
    have same := loadCycle_of_pan (pan_cases taken)
    rw [same] at idle
    have loaded : object ∈ screen.loadCycle.loadedObjects := by
      rw [← same]
      exact member
    rw [present_of_panOver free.numbered lifted taken]
    exact allowed lifted idle object loaded
  have notPanBefore : screen.recognized ≠ some .pan :=
    notPan_before tracking
      (fun gesture view same state => lifted ⟨gesture, view, same, state⟩) notPan
  by_cases placement : screen.Places event
  · obtain ⟨view, placed, rest, query, rfl, head, accepted⟩ := placement
    have progress : placed ∈ screen.loadCycle.inProgress := by
      simp [LoadCycle.inProgress, loadCycle, head, MainClosure.placement]
    rw [scene_of_placement head accepted taken, Scene.ownership_placeAt] at member
    -- The list holds one object at most, which is the one that is placed.
    have same : object = placed := free.serial.same placed progress object member
    rw [same, present_of_placement head accepted taken]
    rcases allowed placed rest query head accepted with pan | outside | present
    · exact absurd pan notPanBefore
    · exact absurd (same ▸ member) outside
    · exact present
  rcases cycle.idle_before idle with placed | discarded | ⟨idleBefore, subset⟩
  · exact absurd (placement_of_place placed) placement
  -- A discarded placement leaves no object that could be invisible.
  · have empty : next.loadCycle.loadedObjects = [] := by
      rw [discarded] at cycle
      generalize next.loadCycle = after at cycle
      cases cycle
      rfl
    have loaded : object ∈ next.loadCycle.loadedObjects := member
    rw [empty] at loaded
    cases loaded
  · exact present_kept undisturbed notPanBefore placement lifted taken (subset object member)
      member (free.present idleBefore notPanBefore object (subset object member))

/-- A step that breaks the condition leaves a phantom, and nothing that could still save it. -/
theorem present_broken {screen next : ARViewController} {event : Event}
    (free : screen.PhantomFree) (refused : ¬ screen.KeepsPresent event)
    (taken : step screen event = .ok next) :
    next.loadCycle.inProgress = [] ∧ next.recognized ≠ some .pan ∧
      ∃ object ∈ next.scene.loader.loadedObjects, ¬ next.scene.ownership.Present object := by
  cases event with
  | mainQueue view =>
    simp only [KeepsPresent, not_forall, not_or] at refused
    obtain ⟨object, rest, query, head, accepted, notPan, inside, hidden⟩ := refused
    have serial := serial_step screen _ next free.serial taken
    have undisturbed : (Event.mainQueue view).Undisturbed := trivial
    have cycle := step_loadCycle undisturbed taken
    have tracking := step_tracking undisturbed taken
    refine ⟨serial.isEnabled_iff.mp ?_, ?_, object, ?_, ?_⟩
    · have place : screen.action (.mainQueue view) = .place := by simp [action, head, accepted]
      rw [place] at cycle
      generalize next.loadCycle = after at cycle
      cases cycle
      rfl
    · generalize next.recognized = recognized, next.interaction.trackedObject = tracked
        at tracking ⊢
      cases tracking with
      | unchanged => exact notPan
      | began | changed | finished => contradiction
    · rw [scene_of_placement head accepted taken, Scene.placeAt_loader]
      exact not_not.mp inside
    · rw [present_of_placement head accepted taken]
      simpa only [not_or] using hidden
  | pan gesture view =>
    simp only [KeepsPresent, not_forall] at refused
    obtain ⟨lifted, idle, object, member, hidden⟩ := refused
    have same := loadCycle_of_pan (pan_cases taken)
    refine ⟨same ▸ idle, ?_, object, ?_, ?_⟩
    · have recognized := (pan_cases taken).recognized
      rcases lifted with ended | cancelled
      · simp only [ended, recognizing] at recognized
        split at recognized
        · simp [← Except.ok.inj recognized]
        · cases recognized
      · simp only [cancelled, recognizing] at recognized
        split at recognized
        · simp [← Except.ok.inj recognized]
        · cases recognized
    · have loaded : object ∈ next.loadCycle.loadedObjects := by
        rw [same]
        exact member
      exact loaded
    · rwa [present_of_panOver free.numbered lifted taken]
  | _ => exact absurd trivial refused

/-- The object has a live raycast, which attaches it when it is first called back. -/
def WillAttach (screen : ARViewController) (object : ObjectRef) : Prop :=
  ∃ raycast, screen.scene.session.raycasts raycast = some object ∧
    ∀ result results, ∃ next,
      step screen (.trackedRaycastUpdated raycast (result :: results)) = .ok next ∧
        (next.scene.objects object).parent ≠ none

theorem willAttach_iff {screen : ARViewController} {object : ObjectRef} :
    screen.WillAttach object ↔
      ∃ raycast, screen.scene.session.raycasts raycast = some object := by
  refine ⟨fun ⟨raycast, live, _⟩ => ⟨raycast, live⟩, fun ⟨raycast, live⟩ => ⟨raycast, live, ?_⟩⟩
  intro result results
  obtain ⟨scene, handled⟩ : ∃ scene,
      screen.scene.setVirtualObject3DPosition (result :: results) object = .ok scene := ⟨_, rfl⟩
  obtain ⟨transform, same⟩ := Scene.setVirtualObject3DPosition_eq handled
  refine ⟨{ screen with scene := scene }, ?_, ?_⟩
  · simp only [step, trackedRaycastUpdated, live, handled]
    rfl
  · simp [same, Scene.modify_objects]

/-- No phantoms: with nothing in progress, every loaded object is in the scene or has a live
raycast, exactly in the runs in which placements get their objects a raycast that they need,
and pans leave loaded objects in the scene or with a raycast. -/
theorem phantomFree_iff (opening : Opening) (events : List Event) :
    Always step (fun screen => screen.loadCycle.inProgress = [] →
        screen.recognized ≠ some .pan → ∀ object ∈ screen.scene.loader.loadedObjects,
          (screen.scene.objects object).parent ≠ none ∨ screen.WillAttach object)
        opening.screen events ↔
      Guarded step KeepsPresent opening.screen events := by
  simp only [willAttach_iff]
  refine @always_iff_guarded _ _ _ step PhantomFree _ _ (fun screen free => free.present)
    ?_ ?_ _ ?_ events
  · refine preserved_of_undisturbed ?_ ?_ ?_
    · exact fun screen view meanwhile _ => trivial
    · exact fun screen event _ => trivial
    · exact fun screen event next undisturbed free allowed taken =>
        free.preserved undisturbed allowed taken
  · intro screen event next free refused taken present
    obtain ⟨idle, notPan, object, member, hidden⟩ := present_broken free refused taken
    exact hidden (present idle notPan object member)
  · exact ⟨LoadCycle.serial_initial, fun raycast object live => (nomatch live),
      fun _ _ object member => (nomatch member)⟩

/-- The room when ARKit grants no tracked raycasts. -/
def refusingView : SceneView := { showroomView with grantsTrackedRaycast := fun _ => false }

/-- A placement that gets no tracked raycast. -/
def placedInvisibly : List Event :=
  floorFound ++ [.addVirtualObject showroomView [], .background (.loaded 0 chairModel true),
    .background (.prepared 0), .mainQueue refusingView]

/-- The chair stays in the list, and nothing will ever bring it into the scene. -/
theorem not_phantomFree : ¬ ∀ (opening : Opening) (events : List Event),
    Always step (fun screen => screen.loadCycle.inProgress = [] →
      screen.recognized ≠ some .pan → ∀ object ∈ screen.scene.loader.loadedObjects,
        (screen.scene.objects object).parent ≠ none ∨ screen.WillAttach object)
      opening.screen events := by
  intro present
  have final := (present showroom placedInvisibly).atEnd rfl
  rcases final rfl (by decide) 0 (by decide) with attached | ⟨raycast, live, -⟩
  -- Neither a parent nor a raycast.
  · exact attached rfl
  · cases live

end ARViewController

end FurnitureAR
