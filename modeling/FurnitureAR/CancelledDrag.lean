import FurnitureAR.RaycastOwnership
import FurnitureAR.Library.Observation

/-!
# What a drag leaves behind

A drag stops the tracked raycast of its object, and only setting the object down gets it another
one or has its anchor refreshed. This module says exactly which steps leave an object in the scene
with neither.
-/
namespace FurnitureAR

open Execution

def Event.isPan : Event → Bool
  | .pan _ _ => true
  | _ => false

theorem Event.isPan_of_gesture {event : Event} {state : GestureState} {touches : GestureTouches}
    (gesture : event.gesture = some (.pan, state, touches)) : event.isPan = true := by
  cases event with
  | pan gesture view => rfl
  | _ => simp [Event.gesture] at gesture

namespace ARViewController

/-- The observer remembers for each object whether a refresh of its anchor has been enqueued or
executed since a pan last moved it. -/
def observeRefreshes (refreshed : ObjectRef → Bool) (screen : ARViewController) (event : Event)
    (next : ARViewController) (object : ObjectRef) : Bool :=
  if next.scene.pendingRefreshes object ≠ screen.scene.pendingRefreshes object then true
  else if event.isPan = true ∧ (next.scene.objects object).simdWorldTransform ≠
      (screen.scene.objects object).simdWorldTransform then false
  else refreshed object

/-- A screen with what the observer remembers. -/
abbrev RefreshHistory := Observed ARViewController (ObjectRef → Bool)

def PanTracks (screen : ARViewController) (object : ObjectRef) : Prop :=
  screen.recognized = some .pan ∧ screen.interaction.trackedObject = some object

/-- An object in the scene that no pan tracks holds a live tracked raycast, or its anchor has been
refreshed since a pan last moved it. -/
def NoneStranded (history : RefreshHistory) : Prop :=
  ∀ object, (history.state.scene.objects object).parent ≠ none →
    ¬ history.state.PanTracks object →
      (∃ raycast, (history.state.scene.objects object).raycast = some raycast ∧
        history.state.scene.session.raycasts raycast = some object) ∨
      history.record object = true

/-- The object stores a raycast, or its anchor has been refreshed. -/
def Secured (history : RefreshHistory) (object : ObjectRef) : Prop :=
  (history.state.scene.objects object).raycast ≠ none ∨ history.record object = true

/-- A pan that is cancelled, or during which the screen closes, loses its object only if that is
secured, and an object that is placed again without a raycast has been refreshed. -/
def LeavesSecured (history : RefreshHistory) : Event → Prop
  | .pan gesture _ => gesture.state = .cancelled →
    ∀ object, history.state.interaction.trackedObject = some object →
      (history.state.scene.objects object).parent ≠ none → Secured history object
  | .viewWillDisappear => ∀ object, history.state.PanTracks object →
    (history.state.scene.objects object).parent ≠ none →
      object ∉ history.state.scene.loader.loadedObjects → Secured history object
  | .mainQueue view => ∀ object rest query,
    history.state.dispatch.mainQueue = .placeLoadedObject object :: rest →
      history.state.scene.placementQuery object = some query →
        view.grantsTrackedRaycast query = false →
          (history.state.scene.objects object).parent ≠ none →
            ¬ history.state.PanTracks object → history.record object = true
  | _ => True

variable {screen next : ARViewController} {refreshed : ObjectRef → Bool}

/-! ## The record -/

theorem observeRefreshes_pending {event : Event} {object : ObjectRef}
    (changed : next.scene.pendingRefreshes object ≠ screen.scene.pendingRefreshes object) :
    observeRefreshes refreshed screen event next object = true := by
  rw [observeRefreshes, if_pos changed]

/-- A refresh is remembered unless a pan moves the object. -/
theorem observeRefreshes_kept {event : Event} {object : ObjectRef}
    (unmoved : event.isPan = true → (next.scene.objects object).simdWorldTransform =
      (screen.scene.objects object).simdWorldTransform)
    (remembered : refreshed object = true) :
    observeRefreshes refreshed screen event next object = true := by
  unfold observeRefreshes
  split
  · rfl
  · rw [if_neg fun moved => moved.2 (unmoved moved.1)]
    exact remembered

theorem secured_kept {event : Event} {object : ObjectRef}
    (unmoved : event.isPan = true → (next.scene.objects object).simdWorldTransform =
      (screen.scene.objects object).simdWorldTransform)
    (raycast : (next.scene.objects object).raycast = (screen.scene.objects object).raycast)
    (secured : Secured ⟨screen, refreshed⟩ object) :
    Secured ⟨next, observeRefreshes refreshed screen event next⟩ object := by
  rcases secured with stored | remembered
  · exact .inl (by rwa [raycast])
  · exact .inr (observeRefreshes_kept unmoved remembered)

/-- The callback that gets an object into the scene sees to its anchor. -/
theorem pendingRefreshes_attached {raycast : RaycastRef} {results : List ARRaycastResult}
    {object : ObjectRef} (live : screen.scene.session.raycasts raycast = some object)
    (detached : (screen.scene.objects object).parent = none)
    (taken : step screen (.trackedRaycastUpdated raycast results) = .ok next) :
    next.scene.pendingRefreshes object ≠ screen.scene.pendingRefreshes object := by
  obtain ⟨other, scene, also, handled, rfl⟩ := trackedRaycastUpdated_cases taken
  obtain rfl : other = object := Option.some.inj (also.symm.trans live)
  obtain ⟨transform, rfl⟩ := Scene.setVirtualObject3DPosition_eq handled
  simp [Scene.pendingRefreshes, Scene.withQueue, detached]

/-! ## Steps -/

/-- Everything that no pan tracks is secured. -/
def AllSecured (history : RefreshHistory) : Prop :=
  ∀ object, (history.state.scene.objects object).parent ≠ none →
    ¬ history.state.PanTracks object → Secured history object

theorem scene_of_panChanged {gesture : PanGesture} {view : SceneView}
    (changed : gesture.state = .changed) (taken : step screen (.pan gesture view) = .ok next) :
    next.scene = screen.scene ∨ ∃ object trackedObject position,
      screen.interaction.trackedObject = some object ∧
        next.scene = screen.scene.translate object trackedObject position view := by
  rw [(pan_cases taken).scene]
  simp only [VirtualObjectInteraction.didPan, changed]
  split
  · cases tracked : screen.interaction.trackedObject with
    | none => exact .inl rfl
    | some object => exact .inr ⟨object, _, _, rfl, rfl⟩
  · exact .inl rfl

theorem tracked_of_panChanged {gesture : PanGesture} {view : SceneView}
    (changed : gesture.state = .changed) (taken : step screen (.pan gesture view) = .ok next) :
    next.interaction.trackedObject = screen.interaction.trackedObject := by
  rw [(pan_cases taken).interaction]
  simp only [VirtualObjectInteraction.didPan, changed]
  split
  · split <;> rfl
  · rfl

/-- What no pan tracks after an event that is none of a pan's, was not tracked before it. -/
theorem panTracks_kept {event : Event} {tracked : Option ObjectRef}
    {recognized : Option GestureKind} (change : TrackingChange screen event tracked recognized)
    (notPan : event.isPan = false) (open' : event ≠ .viewWillDisappear) {object : ObjectRef}
    (tracks : screen.PanTracks object) : recognized = some .pan ∧ tracked = some object := by
  cases change with
  | unchanged event other => exact tracks
  | closed => exact absurd rfl open'
  | began event kind touches gesture idle hittable =>
    rw [PanTracks, idle] at tracks
    exact absurd tracks.1 (by simp)
  | changed event kind touches gesture same => exact tracks
  | finished event kind state touches gesture lifted same =>
    -- The recognized gesture is a pan, so only a pan event can finish it.
    obtain rfl : kind = .pan := Option.some.inj (same.symm.trans tracks.1)
    rw [event.isPan_of_gesture gesture] at notPan
    cases notPan

theorem secured_of_other {event : Event} (undisturbed : event.Undisturbed)
    (secured : AllSecured ⟨screen, refreshed⟩) (allowed : LeavesSecured ⟨screen, refreshed⟩ event)
    (notPan : event.isPan = false) (open' : event ≠ .viewWillDisappear)
    (taken : step screen event = .ok next) :
    AllSecured ⟨next, observeRefreshes refreshed screen event next⟩ := by
  intro object attached untracked
  have untrackedBefore : ¬ screen.PanTracks object := fun tracks =>
    untracked (panTracks_kept (step_tracking undisturbed taken) notPan open' tracks)
  have unmoved : event.isPan = true → (next.scene.objects object).simdWorldTransform =
      (screen.scene.objects object).simdWorldTransform := by
    rw [notPan]
    exact fun impossible => nomatch impossible
  have change := step_ownership undisturbed taken
  have attached : next.scene.ownership.parent object ≠ none := attached
  have kept : next.scene.ownership.raycasts.held object = (screen.scene.objects object).raycast →
      (screen.scene.objects object).parent ≠ none →
        Secured ⟨next, observeRefreshes refreshed screen event next⟩ object := fun raycast before =>
    secured_kept unmoved raycast (secured object before untrackedBefore)
  have stored : next.scene.ownership.raycasts.held object = (next.scene.objects object).raycast :=
    rfl
  rw [Secured, ← stored]
  rw [Secured, ← stored] at kept
  generalize next.scene.ownership = ownership at change attached kept
  cases change with
  | same event => exact kept rfl attached
  | loaded view other empty => exact kept rfl attached
  | removed event =>
    simp only [Ownership.removeAll] at attached kept
    split at attached
    · exact absurd rfl attached
    next outside => exact kept (if_neg outside) attached
  | placed view placed rest query head accepted =>
    by_cases same : object = placed
    · subst same
      cases granted : view.grantsTrackedRaycast query with
      | true => exact .inl (by simp [Lease.Registry.grant])
      | false =>
        have remembered := allowed object rest query head accepted granted attached untrackedBefore
        exact .inr (observeRefreshes_kept unmoved remembered)
    · refine kept ?_ attached
      split
      · exact Function.update_of_ne same ..
      · exact Function.update_of_ne same ..
  | attached raycast results other live =>
    by_cases detached : (screen.scene.objects object).parent = none
    · -- It is attached by this callback, which has its anchor refreshed.
      obtain rfl : object = other := by
        by_contra different
        simp only [Function.update_of_ne different] at attached
        exact attached detached
      exact .inr (observeRefreshes_pending (pendingRefreshes_attached live detached taken))
    · exact kept rfl detached
  | dragged gesture view other state => cases notPan
  | setDown gesture view other state tracked => cases notPan

/-- A pan that loses its object leaves what is secured. -/
theorem secured_of_pan {gesture : PanGesture} {view : SceneView}
    (secured : AllSecured ⟨screen, refreshed⟩)
    (allowed : LeavesSecured ⟨screen, refreshed⟩ (.pan gesture view))
    (taken : step screen (.pan gesture view) = .ok next) :
    AllSecured ⟨next, observeRefreshes refreshed screen (.pan gesture view) next⟩ := by
  intro object attached untracked
  have recognized := (pan_cases taken).recognized
  -- Whatever the pan does to other objects, this one is as it was.
  have kept : next.scene.objects object = screen.scene.objects object →
      Secured ⟨screen, refreshed⟩ object →
        Secured ⟨next, observeRefreshes refreshed screen (.pan gesture view) next⟩ object :=
    fun same before => secured_kept (fun _ => by rw [same]) (by rw [same]) before
  cases state : gesture.state with
  | began =>
    have same : next.scene = screen.scene := by
      rw [(pan_cases taken).scene]
      simp only [VirtualObjectInteraction.didPan, state]
    have idle : ¬ screen.PanTracks object := by
      rintro ⟨busy, -⟩
      rw [state, recognizing, busy] at recognized
      cases recognized
    refine kept (by rw [same]) (secured object ?_ idle)
    rwa [← same]
  | changed =>
    rw [state] at recognized
    have panning := recognized_of_changed recognized
    have after : next.recognized = some .pan := by
      simp only [recognizing, panning, if_true, Except.ok.injEq] at recognized
      exact recognized.symm
    have different : screen.interaction.trackedObject ≠ some object := fun tracks =>
      untracked ⟨after, (tracked_of_panChanged state taken).trans tracks⟩
    have same : next.scene.objects object = screen.scene.objects object := by
      rcases scene_of_panChanged state taken with same | ⟨other, _, _, tracks, same⟩
      · rw [same]
      · rw [same]
        refine screen.scene.translate_objects_of_ne ?_ _ _ view
        rintro rfl
        exact different tracks
    refine kept same (secured object ?_ fun tracks => different tracks.2)
    rwa [← same]
  | ended =>
    cases tracked : screen.interaction.trackedObject with
    | none =>
      have same := scene_of_panOver (.inr ⟨state, tracked⟩) taken
      refine kept (by rw [same]) (secured object (by rwa [← same]) ?_)
      rintro ⟨-, tracks⟩
      simp [tracked] at tracks
    | some other =>
      have down := scene_of_panEnded state tracked taken
      by_cases same : object = other
      · -- The object that is set down has a new raycast, or its anchor is refreshed.
        subst same
        cases granted : view.grantsAt (screen.interaction.updatedTrackingPosition screen.scene
            object gesture view).1 with
        | true =>
          left
          simp [down, Scene.setDown_objects, granted]
        | false =>
          right
          refine observeRefreshes_pending ?_
          rw [down]
          rw [Scene.pendingRefreshes_setDown _ granted]
          exact Nat.succ_ne_self _
      · have kept' : next.scene.objects object = screen.scene.objects object := by
          rw [down]
          exact screen.scene.setDown_objects_of_ne same _ view
        refine kept kept' (secured object (by rwa [← kept']) ?_)
        rintro ⟨-, tracks⟩
        exact same (Option.some.inj (tracks.symm.trans tracked))
  | cancelled =>
    have same := scene_of_panOver (.inl state) taken
    refine kept (by rw [same]) ?_
    have before : (screen.scene.objects object).parent ≠ none := by rwa [← same]
    by_cases tracks : screen.PanTracks object
    · exact allowed state object tracks.2 before
    · exact secured object before tracks
  | possible | failed =>
    rw [state] at recognized
    cases recognized

theorem secured_of_close (secured : AllSecured ⟨screen, refreshed⟩)
    (allowed : LeavesSecured ⟨screen, refreshed⟩ .viewWillDisappear)
    (taken : step screen .viewWillDisappear = .ok next) :
    AllSecured ⟨next, observeRefreshes refreshed screen .viewWillDisappear next⟩ := by
  intro object attached _
  cases taken
  simp only [prepareForClose, Scene.removeAllVirtualObjects_objects] at attached
  split at attached
  · exact absurd rfl attached
  next outside =>
    have same : (screen.prepareForClose).scene.objects object = screen.scene.objects object := by
      simp only [prepareForClose, Scene.removeAllVirtualObjects_objects, if_neg outside]
    refine secured_kept (fun pan => absurd pan Bool.false_ne_true) (by rw [same]) ?_
    by_cases tracks : screen.PanTracks object
    · exact allowed object tracks attached outside
    · exact secured object attached tracks

theorem secured_of_undisturbed {event : Event} (undisturbed : event.Undisturbed)
    (secured : AllSecured ⟨screen, refreshed⟩) (allowed : LeavesSecured ⟨screen, refreshed⟩ event)
    (taken : step screen event = .ok next) :
    AllSecured ⟨next, observeRefreshes refreshed screen event next⟩ := by
  by_cases closes : event = .viewWillDisappear
  · subst closes
    exact secured_of_close secured allowed taken
  cases pan : event.isPan with
  | false => exact secured_of_other undisturbed secured allowed pan closes taken
  | true =>
    cases event with
    | pan gesture view => exact secured_of_pan secured allowed taken
    | _ => cases pan

/-- Background work makes no difference to what is secured. -/
theorem AllSecured.inBackground {middle : ARViewController} {view : SceneView}
    {meanwhile : List BackgroundEvent} (same : InBackground middle next)
    (secured : AllSecured
      ⟨middle, observeRefreshes refreshed screen (.addVirtualObject view []) middle⟩) :
    AllSecured
      ⟨next, observeRefreshes refreshed screen (.addVirtualObject view meanwhile) next⟩ := by
  intro object attached untracked
  have parent : (next.scene.objects object).parent = (middle.scene.objects object).parent := by
    rw [same.objects]
  have raycast : (next.scene.objects object).raycast = (middle.scene.objects object).raycast := by
    rw [same.objects]
  have tracks : middle.PanTracks object → next.PanTracks object := by
    rintro ⟨recognized, tracked⟩
    exact ⟨same.recognized.trans recognized, by rw [same.interaction, tracked]⟩
  have pending : next.scene.pendingRefreshes object = middle.scene.pendingRefreshes object := by
    rw [Scene.pendingRefreshes, same.updateQueue, Scene.pendingRefreshes]
  rcases secured object (by rwa [← parent]) (fun panning => untracked (tracks panning)) with
    stored | remembered
  · exact .inl (by rwa [raycast])
  · refine .inr ?_
    simp only [observeRefreshes, Event.isPan, Bool.false_eq_true, false_and, if_false] at remembered
    simpa only [observeRefreshes, pending, Event.isPan, Bool.false_eq_true, false_and, if_false]
      using remembered

/-- Stored raycasts are live, and everything that no pan tracks is secured. -/
structure DragsSafely (history : RefreshHistory) : Prop where
  sound : history.state.scene.ownership.raycasts.Sound
  secured : AllSecured history

theorem DragsSafely.noneStranded {history : RefreshHistory} (safe : DragsSafely history) :
    NoneStranded history := by
  intro object attached untracked
  rcases safe.secured object attached untracked with stored | remembered
  · obtain ⟨raycast, held⟩ := Option.ne_none_iff_exists'.mp stored
    exact .inl ⟨raycast, held, safe.sound.alive held⟩
  · exact .inr remembered

theorem NoneStranded.secured {history : RefreshHistory} (none : NoneStranded history) :
    AllSecured history := by
  intro object attached untracked
  rcases none object attached untracked with ⟨raycast, stored, -⟩ | remembered
  · exact .inl (by simp [stored])
  · exact .inr remembered

theorem DragsSafely.preserved {history after : RefreshHistory} {event : Event}
    (safe : DragsSafely history) (allowed : LeavesSecured history event)
    (observed : observing step observeRefreshes history event = .ok after) : DragsSafely after := by
  obtain ⟨screen, refreshed⟩ := history
  obtain ⟨next, taken, rfl⟩ := observing_cases observed
  refine ⟨sound_preserved screen event next safe.sound taken, ?_⟩
  revert allowed
  apply of_undisturbed _ _ taken
  · exact fun event next alone taken allowed =>
      secured_of_undisturbed alone safe.secured allowed taken
  · exact fun view meanwhile middle next same between _ => (between trivial).inBackground same

/-- A step that breaks the condition strands an object. -/
theorem noneStranded_broken {history after : RefreshHistory} {event : Event}
    (refused : ¬ LeavesSecured history event)
    (observed : observing step observeRefreshes history event = .ok after) :
    ¬ NoneStranded after := by
  obtain ⟨screen, refreshed⟩ := history
  obtain ⟨next, taken, rfl⟩ := observing_cases observed
  intro none
  -- Nothing about the object changes, but that it is not tracked any more.
  have stranded : ∀ object, next.scene.objects object = screen.scene.objects object →
      next.scene.pendingRefreshes object = screen.scene.pendingRefreshes object →
      (screen.scene.objects object).parent ≠ Option.none → ¬ next.PanTracks object →
        Secured ⟨screen, refreshed⟩ object := by
    intro object same pending attached untracked
    rcases none.secured object (by rwa [same]) untracked with stored | remembered
    · exact .inl (by rwa [← same])
    · refine .inr ?_
      simpa [observeRefreshes, pending, same] using remembered
  cases event with
  | pan gesture view =>
    simp only [LeavesSecured, not_forall] at refused
    obtain ⟨cancelled, object, tracked, attached, unsecured⟩ := refused
    have same := scene_of_panOver (.inl cancelled) taken
    refine unsecured (stranded object (by rw [same]) (by rw [same]) attached ?_)
    have recognized := (pan_cases taken).recognized
    rw [cancelled, recognizing] at recognized
    split at recognized
    · rintro ⟨panning, -⟩
      rw [← Except.ok.inj recognized] at panning
      cases panning
    · cases recognized
  | viewWillDisappear =>
    simp only [LeavesSecured, not_forall] at refused
    obtain ⟨object, tracks, attached, outside, unsecured⟩ := refused
    cases taken
    refine unsecured (stranded object ?_ ?_ attached ?_)
    · simp only [prepareForClose, Scene.removeAllVirtualObjects_objects, if_neg outside]
    · simp only [prepareForClose, Scene.pendingRefreshes, Scene.removeAllVirtualObjects_eq]
    · rintro ⟨-, tracked⟩
      cases tracked
  | mainQueue view =>
    simp only [LeavesSecured, not_forall] at refused
    obtain ⟨object, rest, query, head, accepted, denied, attached, untracked, forgotten⟩ := refused
    have placed := scene_of_placement head accepted taken
    obtain ⟨transform, same⟩ := screen.scene.placeAt_eq object query view
    rw [same, denied] at placed
    have tracking : next.recognized = screen.recognized ∧
        next.interaction.trackedObject = screen.interaction.trackedObject := by
      have change := @step_tracking screen next (.mainQueue view) trivial taken
      generalize next.interaction.trackedObject = tracked, next.recognized = recognized at change ⊢
      cases change with
      | unchanged event other => exact ⟨rfl, rfl⟩
      | began event kind touches gesture => cases gesture
      | changed event kind touches gesture => cases gesture
      | finished event kind state touches gesture => cases gesture
    -- The placement overwrites the raycast with none, and refreshes no anchor.
    have after : next.scene.objects object =
        { screen.scene.objects object with
          simdWorldTransform := transform, raycast := Option.none, isHidden := false } := by
      rw [placed, Scene.modify_objects, if_pos rfl]
      rfl
    have pending : next.scene.pendingRefreshes object = screen.scene.pendingRefreshes object := by
      rw [placed]
      rfl
    have untrackedAfter : ¬ next.PanTracks object := fun tracks =>
      untracked ⟨tracking.1.symm.trans tracks.1, tracking.2.symm.trans tracks.2⟩
    rcases none.secured object (by rwa [after]) untrackedAfter with stored | remembered
    · exact stored (by rw [after])
    · refine forgotten ?_
      simpa [observeRefreshes, pending, Event.isPan] using remembered
  | _ => exact refused trivial

/-- No object is stranded exactly in the runs in which cancelled pans and closing screens lose
only objects that store a raycast or whose anchor has been refreshed since a pan moved them, and
placements that are refused a raycast concern no object in the scene that a pan has moved since. -/
theorem noneStranded_iff (opening : Opening) (events : List Event) :
    Always (observing step observeRefreshes) NoneStranded ⟨opening.screen, fun _ => false⟩ events ↔
      Guarded (observing step observeRefreshes) LeavesSecured ⟨opening.screen, fun _ => false⟩
        events := by
  refine @always_iff_guarded _ _ _ (observing step observeRefreshes) DragsSafely _ _
    (fun _ safe => safe.noneStranded) ?_ ?_ _ ?_ events
  · exact fun history event after safe allowed observed => safe.preserved allowed observed
  · exact fun history event after _ refused observed => noneStranded_broken refused observed
  · refine ⟨(owned_opening opening).consistent.sound, fun object attached => ?_⟩
    exact absurd (opening.unplaced object).1 attached

/-- A view in which a raycast finds the floor a step to the right. -/
def aside : SceneView :=
  { showroomView with raycast := fun _ => [⟨2, ⟨⟨1, 0, 0⟩, .identity⟩, none⟩] }

/-- The chair is dragged aside, and the drag is cancelled. -/
def cancelledWhileDragged : List Event :=
  floorFound ++ chairPlaced ++ chairAttached ++
    [.pan ⟨.began, false, .zero, chairTouched⟩ aside,
      .pan ⟨.changed, true, ⟨40, 0⟩, chairTouched⟩ aside, .pan ⟨.cancelled, false, .zero, {}⟩ aside]

/-- It stays where it was dragged to, with the anchor of the place where it was before. -/
theorem not_noneStranded : ¬ ∀ (opening : Opening) (events : List Event),
    Always (observing step observeRefreshes) NoneStranded ⟨opening.screen, fun _ => false⟩
      events := by
  intro none
  have final := (none showroom cancelledWhileDragged).atEnd rfl
  rcases final 0 (by decide) (fun tracks => absurd tracks.1 (by decide)) with
    ⟨raycast, stored, -⟩ | refreshed
  · cases stored
  · exact absurd refreshed (by decide)

end ARViewController

end FurnitureAR
