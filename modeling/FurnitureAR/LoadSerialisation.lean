import FurnitureAR.LoadRefinement

/-!
# Loads are serialised

At most one object is loaded or placed at a time, and the add button, which is disabled
meanwhile, is always enabled again.
-/
namespace FurnitureAR

open Execution

namespace ARViewController

/-- What the platform promises: dispatched loads finish, preparations call their completion
handler, and the main queue keeps running. -/
structure Fair (trace : Trace step) : Prop where
  loads : ∀ n object, object ∈ (trace.state n).dispatch.loading →
    ∃ later, n ≤ later ∧ ∃ content sceneOpens,
      trace.event later = .background (.loaded object content sceneOpens)
  prepares : ∀ n object, object ∈ (trace.state n).dispatch.preparing →
    ∃ later, n ≤ later ∧ trace.event later = .background (.prepared object)
  runsMain : ∀ n, (trace.state n).dispatch.mainQueue ≠ [] →
    ∃ later, n ≤ later ∧ ∃ view, trace.event later = .mainQueue view

section Progress

variable (trace : Trace step) (serial : ∀ n, (trace.state n).loadCycle.Serial) (fair : Fair trace)

include serial

private theorem busy_step (n : Nat) (busy : (trace.state n).loadCycle.inProgress ≠ []) :
    (trace.event n).Undisturbed ∧ (trace.state n).loadCycle.Step
      ((trace.state n).action (trace.event n)) (trace.state (n + 1)).loadCycle := by
  have undisturbed := undisturbed_of_inProgress (serial n) busy (trace.taken n)
  exact ⟨undisturbed, step_loadCycle undisturbed (trace.taken n)⟩

include fair

theorem loading_leadsTo :
    trace.LeadsTo (fun screen => screen.loadCycle.loading ≠ [])
      (fun screen => screen.loadCycle.preparing ≠ []) := by
  refine trace.leadsTo_of_helpful
    (fun screen event => ∃ object, screen.action event = .finish object) ?_ ?_
  · intro n stage
    have busy : (trace.state n).loadCycle.inProgress ≠ [] := by
      simp [LoadCycle.inProgress, stage]
    rcases (busy_step trace serial n busy).2.loading_next stage with ⟨still, other⟩ | reached
    · exact .inr ⟨still, not_exists.mpr other⟩
    · exact .inl reached
  · intro n stage
    obtain ⟨object, member⟩ := List.exists_mem_of_ne_nil _ stage
    obtain ⟨later, after, content, sceneOpens, event⟩ := fair.loads n object member
    exact ⟨later, after, object, by rw [event]; rfl⟩

theorem preparing_leadsTo :
    trace.LeadsTo (fun screen => screen.loadCycle.preparing ≠ [])
      (fun screen => screen.loadCycle.placing ≠ []) := by
  refine trace.leadsTo_of_helpful
    (fun screen event => ∃ object, screen.action event = .prepare object) ?_ ?_
  · intro n stage
    have busy : (trace.state n).loadCycle.inProgress ≠ [] := by
      simp [LoadCycle.inProgress, stage]
    rcases (busy_step trace serial n busy).2.preparing_next stage with ⟨still, other⟩ | reached
    · exact .inr ⟨still, not_exists.mpr other⟩
    · exact .inl reached
  · intro n stage
    obtain ⟨object, member⟩ := List.exists_mem_of_ne_nil _ stage
    obtain ⟨later, after, event⟩ := fair.prepares n object member
    exact ⟨later, after, object, by rw [event]; rfl⟩

/-- The rank is the number of closures that the main queue runs before the placement. -/
theorem placing_leadsTo :
    trace.LeadsTo (fun screen => screen.loadCycle.placing ≠ [])
      (fun screen => screen.addVirtualObjectButton.isEnabled = true) := by
  refine trace.leadsTo_of_rank
    (fun screen => screen.dispatch.mainQueue.findIdx fun closure => closure.placement.isSome)
    (fun _ event => ∃ view, event = .mainQueue view) ?_ ?_
  · intro n stage
    have busy : (trace.state n).loadCycle.inProgress ≠ [] := by
      simp [LoadCycle.inProgress, stage]
    obtain ⟨undisturbed, taken⟩ := busy_step trace serial n busy
    -- Every closure that runs first brings the placement nearer, and new ones queue up behind it.
    rcases taken.placing_next stage with ⟨still, notPlaced, notDiscarded⟩ | reached
    · refine .inr ⟨still, ?_⟩
      rcases step_mainQueue undisturbed (trace.taken n) with
        ⟨⟨closures, added⟩, other⟩ | ⟨view, closure, event, queue⟩
      · have found : ∃ closure ∈ (trace.state n).dispatch.mainQueue,
            closure.placement.isSome = true := by
          obtain ⟨object, member⟩ := List.exists_mem_of_ne_nil _ stage
          obtain ⟨closure, member, places⟩ := List.mem_filterMap.mp member
          exact ⟨closure, member, by rw [places]; rfl⟩
        rw [added, List.findIdx_append, if_pos (by simpa using found)]
        exact ⟨Nat.le_refl _, fun helps => absurd helps (not_exists.mpr other)⟩
      · have notPlacement : closure.placement.isSome = false := by
          cases closure with
          | placeLoadedObject object =>
            -- Running a placement would have ended it one way or the other.
            exfalso
            cases guard : (trace.state n).scene.placementQuery object with
            | none => exact notDiscarded (by simp [event, action, queue, guard])
            | some query => exact notPlaced (by simp [event, action, queue, guard])
          | _ => rfl
        rw [queue, List.findIdx_cons, notPlacement]
        exact ⟨Nat.le_succ _, fun _ => Nat.lt_succ_self _⟩
    · exact .inl reached
  · intro n stage
    have waiting : (trace.state n).dispatch.mainQueue ≠ [] := by
      intro empty
      simp [loadCycle, empty] at stage
    obtain ⟨later, after, view, event⟩ := fair.runsMain n waiting
    exact ⟨later, after, view, event⟩

theorem disabled_leadsTo :
    trace.LeadsTo (fun screen => screen.addVirtualObjectButton.isEnabled = false)
      (fun screen => screen.addVirtualObjectButton.isEnabled = true) := by
  have placing := placing_leadsTo trace serial fair
  have preparing := (preparing_leadsTo trace serial fair).trans trace placing
  have loading := (loading_leadsTo trace serial fair).trans trace preparing
  intro n disabled
  have busy : (trace.state n).loadCycle.inProgress ≠ [] := by
    rw [Ne, ← (serial n).isEnabled_iff]
    simp [loadCycle, disabled]
  simp only [LoadCycle.inProgress, ne_eq, List.append_eq_nil_iff, not_and_or] at busy
  -- Whatever stage the object is in, the later stages follow.
  rcases busy with (stage | stage) | stage
  · exact loading n stage
  · exact preparing n stage
  · exact placing n stage

end Progress

/-- At most one load or placement is in progress and at most one object is loaded, and the
loader's flag and the add button tell exactly how far it is. A disabled button is enabled
again. -/
theorem loads_serialised (opening : Opening) :
    (∀ events, Always step (fun screen =>
      screen.loadCycle.inProgress.length ≤ 1 ∧
      screen.scene.loader.loadedObjects.length ≤ 1 ∧
      (screen.scene.loader.isLoading = true ↔ screen.dispatch.loading ≠ []) ∧
      (screen.addVirtualObjectButton.isEnabled = false ↔ screen.loadCycle.inProgress ≠ []))
      opening.screen events) ∧
    ∀ trace : Trace step, trace.state 0 = opening.screen → Fair trace →
      trace.LeadsTo (fun screen => screen.addVirtualObjectButton.isEnabled = false)
        (fun screen => screen.addVirtualObjectButton.isEnabled = true) := by
  constructor
  · intro events
    refine (serial_always opening events).mono fun screen serial => ?_
    refine ⟨?_, serial.single, serial.loading, ?_⟩
    · rw [serial.count]
      split <;> omega
    · rw [Ne, ← serial.isEnabled_iff, Bool.not_eq_true]
      rfl
  · intro trace start fair
    refine disabled_leadsTo trace (fun n => ?_) fair
    refine trace.invariant serial_step ?_ n
    rw [start]
    exact LoadCycle.serial_initial

/-! ## A showroom

A room whose floor ARKit finds at once, and a screen that is opened for the chair in it.
-/

def showroomView : SceneView where
  screenCenter := ⟨180, 320⟩
  projectPoint := fun point => ⟨point.x, point.z⟩
  raycastQuery := fun point alignment => some ⟨point, alignment⟩
  raycast := fun _ => [⟨0, .identity, none⟩]
  grantsTrackedRaycast := fun _ => true
  camera := some ⟨0, .normal, .identity⟩

def showroom : Opening where
  virtualObjectId := some 1
  availableObjects := [0, 1]
  objects := fun object => { referenceName := if object = 0 then "chairId1.scn" else "lampId2.scn" }
  unplaced := by simp
  used := by simp

def chairModel : ModelContent := ⟨⟨0, (1, 1, 1)⟩, []⟩

/-- The first frame, which finds the floor. -/
def floorFound : List Event :=
  [.viewDidAppear, .rendererUpdateAtTime fun _ => false, .mainQueue showroomView, .updateQueue]

/-- A tap on the add button and everything that follows from it on the other queues. -/
def chairPlaced : List Event :=
  [.addVirtualObject showroomView [], .background (.loaded 0 chairModel true),
    .background (.prepared 0), .mainQueue showroomView]

/-- ARKit tracks the chair, which gets it into the scene and anchored there. -/
def chairAttached : List Event :=
  [.trackedRaycastUpdated 0 [⟨1, .identity, none⟩], .updateQueue]

/-- Fingers on the chair. -/
def chairTouched : GestureTouches := { underTouches := [[.child (.virtualObject 0)]] }

/-- The chair is placed, and then nothing more happens. -/
def showroomTrace : Trace step where
  state n := ((run step showroom.screen ((floorFound ++ chairPlaced).take n)).toOption).getD
    showroom.screen
  event n := (floorFound ++ chairPlaced)[n]?.getD (.rendererDidAdd false)
  taken n :=
    match n with
    | 0 | 1 | 2 | 3 | 4 | 5 | 6 | 7 => rfl
    | n + 8 => by
      rw [List.take_of_length_le (Nat.le_add_left 8 n),
        List.take_of_length_le (Nat.le_trans (Nat.le_add_left 8 n) (Nat.le_succ _)),
        List.getElem?_eq_none (Nat.le_add_left 8 n)]
      rfl

theorem showroomTrace_late (n : Nat) : showroomTrace.state (n + 8) = showroomTrace.state 8 := by
  simp only [showroomTrace]
  rw [List.take_of_length_le (Nat.le_add_left 8 n)]
  rfl

theorem showroomTrace_fair : Fair showroomTrace where
  loads n object member := by
    match n with
    | 0 | 1 | 2 | 3 | 4 | 6 | 7 => exact absurd member (List.not_mem_nil)
    | 5 =>
      have same : object = 0 := List.mem_singleton.mp member
      rw [same]
      exact ⟨5, Nat.le_refl 5, chairModel, true, rfl⟩
    | n + 8 =>
      rw [showroomTrace_late] at member
      exact absurd member (List.not_mem_nil)
  prepares n object member := by
    match n with
    | 0 | 1 | 2 | 3 | 4 | 5 | 7 => exact absurd member (List.not_mem_nil)
    | 6 =>
      have same : object = 0 := List.mem_singleton.mp member
      rw [same]
      exact ⟨6, Nat.le_refl 6, rfl⟩
    | n + 8 =>
      rw [showroomTrace_late] at member
      exact absurd member (List.not_mem_nil)
  runsMain n waiting := by
    match n with
    | 0 | 1 | 2 => exact ⟨2, by omega, showroomView, rfl⟩
    | 3 | 4 | 5 | 6 | 7 => exact ⟨7, by omega, showroomView, rfl⟩
    | n + 8 =>
      rw [showroomTrace_late] at waiting
      exact absurd rfl waiting

/-- The button that the tap disabled is enabled again. -/
theorem loads_serialised_showroom :
    (showroomTrace.state 5).addVirtualObjectButton.isEnabled = false ∧ ∃ later,
      5 ≤ later ∧ (showroomTrace.state later).addVirtualObjectButton.isEnabled = true :=
  ⟨rfl, (loads_serialised showroom).2 showroomTrace rfl showroomTrace_fair 5 rfl⟩

end ARViewController

end FurnitureAR
