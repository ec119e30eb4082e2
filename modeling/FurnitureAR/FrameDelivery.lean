import FurnitureAR.FocusedScreen
import FurnitureAR.Library.FifoQueue
import Mathlib.Data.List.DropRight

/-!
# Frames are delivered

A rendered frame passes through the main queue, where it is looked at, and through the update
queue, where the square is told. Both are served in order, so that every frame arrives, and frames
that agree from some moment on decide what the square shows in the end.
-/
namespace FurnitureAR

open Execution

/-! ## Both queues only grow at their ends -/

namespace ARViewController

variable {screen next : ARViewController} {event : Event}

/-- Frames come from the renderer, which looks for the loaded objects. -/
def FramesFrom (screen : ARViewController) (event : Event) (closures : List MainClosure) : Prop :=
  ∀ isObjectVisible, .updateFocusSquare isObjectVisible ∈ closures →
    ∃ isInFrustum, event = .rendererUpdateAtTime isInFrustum ∧
      isObjectVisible = screen.scene.loader.loadedObjects.any isInFrustum

theorem mainQueue_of_undisturbed (undisturbed : event.Undisturbed)
    (notMain : ∀ view, event ≠ .mainQueue view) (taken : step screen event = .ok next) :
    ∃ closures, next.dispatch.mainQueue = screen.dispatch.mainQueue ++ closures ∧
      FramesFrom screen event closures := by
  have kept : next.dispatch.mainQueue = screen.dispatch.mainQueue →
      ∃ closures, next.dispatch.mainQueue = screen.dispatch.mainQueue ++ closures ∧
        FramesFrom screen event closures :=
    fun same => ⟨[], by rw [same, List.append_nil], by simp [FramesFrom]⟩
  cases event with
  | mainQueue view => exact absurd rfl (notMain view)
  | addVirtualObject view meanwhile =>
    cases undisturbed
    apply kept
    rcases (addVirtualObject_cases taken).2 with ⟨-, -, rfl⟩ | ⟨object, -, -, rfl⟩ | ⟨-, rfl⟩ <;>
      rfl
  | background event =>
    cases event with
    | loaded object content sceneOpens =>
      obtain ⟨-, rfl⟩ := loaded_cases taken
      exact kept rfl
    | prepared object =>
      obtain ⟨-, rfl⟩ := prepared_cases taken
      exact ⟨[.placeLoadedObject object], rfl, by simp [FramesFrom]⟩
  | coolDownElapsed =>
    obtain ⟨pending, -, rfl⟩ := coolDownElapsed_cases taken
    exact kept rfl
  | updateQueue =>
    obtain ⟨scene, -, rfl⟩ := updateQueue_cases taken
    exact kept rfl
  | trackedRaycastUpdated raycast results =>
    obtain ⟨object, scene, -, -, rfl⟩ := trackedRaycastUpdated_cases taken
    exact kept rfl
  | pan gesture view =>
    apply kept
    rw [(pan_cases taken).same]
  | rotate gesture =>
    apply kept
    rw [(rotate_reshapes taken).same]
  | pinch gesture =>
    apply kept
    rw [(pinch_reshapes taken).same]
  | tap hitTestResults =>
    cases tap_cases taken
    exact kept rfl
  | timerFired timer =>
    obtain ⟨status, -, rfl⟩ := timerFired_cases taken
    exact kept rfl
  | restartSessionTapped =>
    cases restartSessionTapped_cases taken
    exact kept rfl
  | coachingOverlayDidRequestSessionReset =>
    cases taken
    apply kept
    unfold restartExperience
    split <;> rfl
  | cameraDidChangeTrackingState trackingState =>
    cases taken
    apply kept
    cases trackingState <;> rfl
  | sessionDidFail isARError =>
    cases taken
    cases isARError with
    | true => exact ⟨[.displayErrorMessage], rfl, by simp [FramesFrom]⟩
    | false => exact kept rfl
  | rendererDidAdd isPlaneAnchor =>
    cases taken
    cases isPlaneAnchor with
    | true => exact ⟨[.surfaceDetected], rfl, by simp [FramesFrom]⟩
    | false => exact kept rfl
  | rendererUpdateAtTime isInFrustum =>
    cases taken
    refine ⟨_, rfl, fun isObjectVisible member => ⟨isInFrustum, rfl, ?_⟩⟩
    cases List.mem_singleton.mp member
    rfl
  | viewDidAppear | viewWillDisappear | coachingOverlayWillActivate | coachingOverlayDidDeactivate
  | sessionWasInterrupted | rendererDidUpdate =>
    cases taken
    exact kept rfl

theorem mainQueue_grows (notMain : ∀ view, event ≠ .mainQueue view)
    (taken : step screen event = .ok next) :
    ∃ closures, next.dispatch.mainQueue = screen.dispatch.mainQueue ++ closures ∧
      FramesFrom screen event closures := by
  have grows := @of_undisturbed screen (fun event next => (∀ view, event ≠ .mainQueue view) →
    ∃ closures, next.dispatch.mainQueue = screen.dispatch.mainQueue ++ closures ∧
      FramesFrom screen event closures) ?_ ?_ event next taken
  · exact grows notMain
  · exact fun event next undisturbed taken notMain =>
      mainQueue_of_undisturbed undisturbed notMain taken
  · intro view meanwhile middle next background before _
    obtain ⟨closures, grown, frames⟩ := before (by simp)
    -- What overtakes a tap sends placements only.
    obtain ⟨placements, placed⟩ := background.mainQueue
    refine ⟨closures ++ placements.map .placeLoadedObject, ?_, fun isObjectVisible member => ?_⟩
    · rw [placed, grown, List.append_assoc]
    · rcases List.mem_append.mp member with early | late
      · obtain ⟨isInFrustum, same, -⟩ := frames isObjectVisible early
        cases same
      · simp at late

/-- A change of the scene that is not the update queue's own takes nothing from that queue. -/
theorem updateQueue_of_sceneChange {scene : Scene} (change : SceneChange screen event scene)
    (notUpdate : event ≠ .updateQueue) :
    ∃ closures, scene.updateQueue = screen.scene.updateQueue ++ closures := by
  have kept : ∀ {scene : Scene}, scene.updateQueue = screen.scene.updateQueue →
      ∃ closures, scene.updateQueue = screen.scene.updateQueue ++ closures :=
    fun same => ⟨[], by rw [same, List.append_nil]⟩
  cases change with
  | unchanged | reset | reshaped | finishedLoading => exact kept rfl
  | enqueued _ closure _ => exact ⟨[closure], rfl⟩
  | hidden _ isHidden =>
    rw [Scene.setVirtualContentHidden_eq]
    exact kept rfl
  | removed | closed | restarted =>
    apply kept
    simp only [Scene.removeAllVirtualObjects_eq]
  | startedLoading view object empty =>
    rw [Scene.updateObjectAvailability_eq]
    exact kept rfl
  | placementFailed view object rest head refused =>
    rw [Scene.discardPlacement_eq, Scene.removeAllVirtualObjects_eq]
    exact kept rfl
  | placed view object rest query head accepted =>
    obtain ⟨transform, same⟩ := screen.scene.placeAt_eq object query view
    rw [same]
    exact kept rfl
  | updated scene ran => exact absurd rfl notUpdate
  | positioned raycast results object scene live handled =>
    obtain ⟨transform, same⟩ := Scene.setVirtualObject3DPosition_eq handled
    rw [same]
    exact ⟨_, rfl⟩
  | translated gesture view object position state exceeded tracked =>
    obtain ⟨transform, same⟩ :=
      screen.scene.translate_eq object screen.interaction.trackedObject position view
    rw [same]
    exact kept (screen.scene.stopTrackedRaycast_updateQueue object)
  | setDown gesture view object state tracked =>
    cases granted : view.grantsAt
        (screen.interaction.updatedTrackingPosition screen.scene object gesture view).1 with
    | true =>
      rw [Scene.setDown_granted granted]
      exact kept (screen.scene.stopTrackedRaycast_updateQueue object)
    | false =>
      rw [Scene.setDown_refused granted]
      exact ⟨[.addOrUpdateAnchor object], by
        simp [Scene.anchorInPlace, Scene.enqueue, Scene.withQueue, Scene.modify]⟩

theorem updateQueue_grows (notUpdate : event ≠ .updateQueue)
    (taken : step screen event = .ok next) :
    ∃ closures, next.scene.updateQueue = screen.scene.updateQueue ++ closures := by
  have grows := @of_undisturbed screen (fun event next => event ≠ .updateQueue →
    ∃ closures, next.scene.updateQueue = screen.scene.updateQueue ++ closures) ?_ ?_ event next
      taken
  · exact grows notUpdate
  · exact fun event next undisturbed taken notUpdate =>
      updateQueue_of_sceneChange (step_scene undisturbed taken) notUpdate
  · intro view meanwhile middle next background before _
    rw [background.updateQueue]
    exact before (by simp)

theorem updateQueue_updateFocusSquare (screen : ARViewController) (isObjectVisible : Bool)
    (view : SceneView) : (screen.updateFocusSquare isObjectVisible view).scene.updateQueue =
      screen.scene.updateQueue ++ [.setFocusSquare view.found] := by
  unfold updateFocusSquare SceneView.found
  cases view.surface with
  | some found =>
    dsimp only
    split <;> split <;> rfl
  | none =>
    dsimp only
    split <;> split <;> rfl

/-- Where a frame is looked at, what it finds is sent to the update queue. -/
theorem updateQueue_of_frame {view : SceneView} {isObjectVisible : Bool}
    (frame : screen.handlesFrame = some isObjectVisible)
    (taken : screen.runMain view = .ok next) :
    next.scene.updateQueue = screen.scene.updateQueue ++ [.setFocusSquare view.found] := by
  unfold handlesFrame at frame
  split at frame
  next isObjectVisible' rest head =>
    unfold runMain at taken
    simp only [head] at taken
    cases taken
    exact updateQueue_updateFocusSquare _ _ _
  · cases frame

end ARViewController

namespace Scene

/-- The closures of the update queue add nothing to it. -/
theorem updateQueue_execute (scene : Scene) (closure : UpdateClosure) :
    (scene.execute closure).updateQueue = scene.updateQueue := by
  cases closure with
  | addOrUpdateAnchor object =>
    rw [execute, addOrUpdateAnchor_eq]
    rfl
  | didUpdate anchor =>
    rw [execute]
    rcases scene.didUpdateAnchor_cases anchor with same | ⟨object, -, -, same⟩
    · rw [same]
    · rw [same]
      rfl
  | setFocusSquare state => rfl

end Scene

/-! ## Both queues on infinite traces -/

namespace FocusedScreen

variable {geometry : Geometry} {focused next : FocusedScreen}

/-- Only the events of the screen itself concern its queues. -/
theorem screen_step {event : FocusedEvent} (taken : focused.step geometry event = .ok next) :
    (∃ own, event = .screen own ∧ focused.screen.step own = .ok next.screen) ∨
      (∀ own, event ≠ .screen own) ∧ next.screen = focused.screen := by
  cases event with
  | screen own =>
    obtain ⟨screen, moved, rest⟩ := screen_cases taken
    refine .inl ⟨own, rfl, ?_⟩
    split at rest
    · obtain ⟨asked, -, rfl⟩ := rest
      exact moved
    · rw [rest]
      exact moved
  | fadeFinished key =>
    have asked : focused.ask geometry (.fadeFinished key) = .ok next := taken
    obtain ⟨focusSquare, -, rfl⟩ := ask_cases (by simp) asked
    exact .inr ⟨by simp, rfl⟩
  | completed index =>
    have asked : focused.ask geometry (.completed index) = .ok next := taken
    obtain ⟨focusSquare, -, rfl⟩ := ask_cases (by simp) asked
    exact .inr ⟨by simp, rfl⟩

/-- Both queues are served while closures wait in them. -/
structure Fair (trace : Trace (step geometry)) : Prop where
  runsMain : ∀ n, (trace.state n).screen.dispatch.mainQueue ≠ [] →
    ∃ later, n ≤ later ∧ ∃ view, trace.event later = .screen (.mainQueue view)
  runsUpdate : ∀ n, (trace.state n).screen.scene.updateQueue ≠ [] →
    ∃ later, n ≤ later ∧ trace.event later = .screen .updateQueue

section Progress

variable {trace : Trace (step geometry)} (fair : Fair trace)

include fair

theorem mainQueue_fifo : trace.Fifo (fun focused => focused.screen.dispatch.mainQueue)
    fun _ event => ∃ view, event = .screen (.mainQueue view) where
  served n := by
    rintro ⟨view, run⟩
    have taken := trace.taken n
    rw [run] at taken
    obtain ⟨own, same, moved⟩ | ⟨other, -⟩ := screen_step taken
    · cases same
      obtain ⟨closure, queue⟩ := (ARViewController.runMain_cases moved).queue
      exact ⟨closure, _, [], queue, (List.append_nil _).symm⟩
    · exact absurd rfl (other _)
  waits n notMain := by
    obtain ⟨own, same, moved⟩ | ⟨-, same⟩ := screen_step (trace.taken n)
    · obtain ⟨closures, grown, -⟩ :=
        ARViewController.mainQueue_grows (fun view main => notMain ⟨view, by rw [same, main]⟩) moved
      exact ⟨closures, grown⟩
    · exact ⟨[], by rw [same, List.append_nil]⟩
  fair := fair.runsMain

theorem updateQueue_fifo : trace.Fifo (fun focused => focused.screen.scene.updateQueue)
    fun _ event => event = .screen .updateQueue where
  served n run := by
    have taken := trace.taken n
    rw [run] at taken
    obtain ⟨own, same, moved⟩ | ⟨other, -⟩ := screen_step taken
    · cases same
      obtain ⟨scene, ran, same⟩ := ARViewController.updateQueue_cases moved
      obtain ⟨closure, rest, queue, rfl⟩ := Scene.runUpdate_cases ran
      refine ⟨closure, rest, [], queue, ?_⟩
      rw [same, List.append_nil]
      exact Scene.updateQueue_execute _ closure
    · exact absurd rfl (other _)
  waits n notUpdate := by
    obtain ⟨own, same, moved⟩ | ⟨-, same⟩ := screen_step (trace.taken n)
    · exact ARViewController.updateQueue_grows (fun update => notUpdate (by rw [same, update]))
        moved
    · exact ⟨[], by rw [same, List.append_nil]⟩
  fair := fair.runsUpdate

/-- Every assignment that waits in the update queue is made. -/
theorem assigned_of_queued {n : Nat} {state : FocusSquare.State} {before after : List UpdateClosure}
    (queued : (trace.state n).screen.scene.updateQueue =
      before ++ .setFocusSquare state :: after) :
    ∃ shown, n ≤ shown ∧ trace.event shown = .screen .updateQueue ∧
      (trace.state shown).assigned (trace.event shown) = some state := by
  obtain ⟨shown, rest, after, head, run⟩ := (updateQueue_fifo fair).reaches_head queued
  refine ⟨shown, after, run, ?_⟩
  rw [run]
  change (trace.state shown).screen.scene.updateQueue.head?.bind _ = _
  rw [head]
  rfl

/-- Every rendered frame is looked at on the main queue. -/
theorem handles_of_rendered {n : Nat} {isInFrustum : ObjectRef → Bool}
    (rendered : trace.event n = .screen (.rendererUpdateAtTime isInFrustum)) :
    ∃ handled view, n < handled ∧ trace.event handled = .screen (.mainQueue view) ∧
      (trace.state handled).screen.handlesFrame =
        some ((trace.state n).screen.scene.loader.loadedObjects.any isInFrustum) := by
  obtain ⟨own, same, moved⟩ | ⟨other, -⟩ := screen_step (trace.taken n)
  · rw [rendered] at same
    cases same
    have sent := congrArg (fun screen => screen.dispatch.mainQueue) (Except.ok.inj moved).symm
    obtain ⟨handled, rest, after, head, view, run⟩ :=
      (mainQueue_fifo fair).reaches_head (n := n + 1) sent
    refine ⟨handled, view, after, run, ?_⟩
    unfold ARViewController.handlesFrame
    rw [head]
  · exact absurd rendered (other _)

end Progress

/-- What is found when a frame is looked at goes to the end of the update queue. -/
theorem updateQueue_of_handled {view : SceneView} {isObjectVisible : Bool}
    (frame : focused.screen.handlesFrame = some isObjectVisible)
    (taken : focused.step geometry (.screen (.mainQueue view)) = .ok next) :
    next.screen.scene.updateQueue =
      focused.screen.scene.updateQueue ++ [.setFocusSquare view.found] := by
  obtain ⟨own, same, moved⟩ | ⟨other, -⟩ := screen_step taken
  · cases same
    exact ARViewController.updateQueue_of_frame frame moved
  · exact absurd rfl (other _)

/-! ## What the square shows -/

/-- The square is in the state, and hangs from the node that belongs to it. -/
structure Displays (focused : FocusedScreen) (shown : FocusSquare.State) : Prop where
  state : focused.focusSquare.state = shown
  parent : focused.parent = if shown = .initializing then .pointOfView else .rootNode

theorem displays_setState (state : FocusSquare.State) (screen : ARViewController) :
    Displays { focused.setState geometry state with screen := screen } state := by
  have parent := @parent_setState geometry focused state
  exact ⟨FocusSquare.state_setState _, parent⟩

theorem Displays.of_sameStand {state : FocusSquare.State} (displays : focused.Displays state)
    (same : focused.focusSquare.SameStand next.focusSquare)
    (parent : next.parent = focused.parent) : next.Displays state :=
  ⟨same.state.trans displays.state, parent.trans displays.parent⟩

theorem displays_of_assigned {event : FocusedEvent} {state : FocusSquare.State}
    (told : focused.assigned event = some state)
    (taken : focused.step geometry event = .ok next) : next.Displays state := by
  cases square_step taken with
  | requested view _ handles same parent queued => cases told
  | assigned other rest screen told' head left =>
    cases told'.symm.trans told
    exact displays_setState state screen
  | elsewhere _ _ unseen unassigned same parent kept => cases unassigned.symm.trans told

/-- On every fair trace, each rendered frame is looked at on the main queue, and what it finds
there is what the square shows at a later moment. -/
theorem frames_delivered (trace : Trace (step geometry)) (fair : Fair trace) (n : Nat)
    (isInFrustum : ObjectRef → Bool)
    (rendered : trace.event n = .screen (.rendererUpdateAtTime isInFrustum)) :
    ∃ handled view shown, n < handled ∧ handled < shown ∧
      trace.event handled = .screen (.mainQueue view) ∧
      (trace.state handled).screen.handlesFrame =
        some ((trace.state n).screen.scene.loader.loadedObjects.any isInFrustum) ∧
      (trace.state shown).Displays view.found := by
  obtain ⟨handled, view, after, run, frame⟩ := handles_of_rendered fair rendered
  have taken := trace.taken handled
  rw [run] at taken
  obtain ⟨shown, later, -, told⟩ := assigned_of_queued fair (updateQueue_of_handled frame taken)
  exact ⟨handled, view, shown + 1, after, Nat.lt_succ_of_lt later, run, frame,
    displays_of_assigned told (trace.taken shown)⟩

open FocusSquare (levelGeometry)
open ARViewController (showroom showroomView floorFound)

/-- The first frame finds the floor of the showroom, and then nothing more happens. -/
def floorTrace : Trace (step levelGeometry) where
  state n := ((run (step levelGeometry) (showroom.focusedScreen levelGeometry)
    ((floorFound.map FocusedEvent.screen).take n)).toOption).getD
      (showroom.focusedScreen levelGeometry)
  event n := (floorFound.map FocusedEvent.screen)[n]?.getD (.screen (.rendererDidAdd false))
  taken n :=
    match n with
    | 0 | 1 | 2 | 3 => rfl
    | n + 4 => by
      rw [List.take_of_length_le (Nat.le_add_left 4 n),
        List.take_of_length_le (Nat.le_trans (Nat.le_add_left 4 n) (Nat.le_succ _)),
        List.getElem?_eq_none (Nat.le_add_left 4 n)]
      rfl

theorem floorTrace_late (n : Nat) : floorTrace.state (n + 4) = floorTrace.state 4 := by
  simp only [floorTrace]
  rw [List.take_of_length_le (Nat.le_add_left 4 n)]
  rfl

theorem floorTrace_fair : Fair floorTrace where
  runsMain n waiting := by
    match n with
    | 0 | 1 | 2 => exact ⟨2, by omega, showroomView, rfl⟩
    | 3 => exact absurd rfl waiting
    | n + 4 =>
      rw [floorTrace_late] at waiting
      exact absurd rfl waiting
  runsUpdate n waiting := by
    match n with
    | 0 | 1 | 2 | 3 => exact ⟨3, by omega, rfl⟩
    | n + 4 =>
      rw [floorTrace_late] at waiting
      exact absurd rfl waiting

theorem frames_delivered_floor : ∃ handled view shown, 1 < handled ∧ handled < shown ∧
    floorTrace.event handled = .screen (.mainQueue view) ∧
    (floorTrace.state handled).screen.handlesFrame = some false ∧
    (floorTrace.state shown).Displays view.found :=
  frames_delivered floorTrace floorTrace_fair 1 (fun _ => false) rfl

/-! ## Where the square settles -/

/-- Taking the first element shortens what is left before the elements with a property. -/
theorem length_rdropWhile_lt {α : Type} {p : α → Bool} {first : α} {rest : List α}
    (stale : ¬ ∀ element ∈ first :: rest, p element = true) :
    (rest.rdropWhile p).length < ((first :: rest).rdropWhile p).length := by
  by_cases fresh : rest.rdropWhile p = []
  · rw [fresh, List.length_nil, List.length_pos_iff, Ne, List.rdropWhile_eq_nil_iff]
    exact stale
  · have left : rest.reverse.dropWhile p ≠ [] :=
      fun none => fresh (List.reverse_eq_nil_iff.mpr none)
    have longer : (first :: rest).rdropWhile p = first :: rest.rdropWhile p := by
      unfold List.rdropWhile
      rw [List.reverse_cons, List.dropWhile_append]
      simp [left]
    rw [longer]
    exact Nat.lt_succ_self _

section Settling

variable (P : FocusSquare.State → Prop)

/-- What the square shows has the property, and so has all that it will be told. -/
structure Settled (focused : FocusedScreen) : Prop where
  shown : ∃ state, P state ∧ focused.Displays state
  coming : ∀ state ∈ focused.screen.scene.focus.2, P state

/-- The last thing that the square will be told has the property. -/
def EndsWell (focused : FocusedScreen) : Prop :=
  ∃ others state, focused.screen.scene.focus.2 = others ++ [state] ∧ P state

/-- The requests up to the last one without the property. -/
def staleRequests [DecidablePred P] (focused : FocusedScreen) : List FocusSquare.State :=
  focused.screen.scene.focus.2.rdropWhile fun state => decide (P state)

variable {P} {event : FocusedEvent}
  (finds : ∀ view, event = .screen (.mainQueue view) → focused.screen.handlesFrame.isSome →
    P view.found)
  (taken : focused.step geometry event = .ok next)

include finds taken

theorem settled_step (settled : focused.Settled P) : next.Settled P := by
  obtain ⟨⟨state, good, displays⟩, coming⟩ := settled
  cases square_step taken with
  | requested view _ handles same parent queued =>
    refine ⟨⟨state, good, displays.of_sameStand same parent⟩, fun request member => ?_⟩
    rw [queued] at member
    rcases List.mem_append.mp member with known | new
    · exact coming request known
    · cases List.mem_singleton.mp new
      exact finds view rfl handles
  | assigned other rest screen told head left =>
    rw [head] at coming
    refine ⟨⟨other, coming other List.mem_cons_self, displays_setState other screen⟩, ?_⟩
    intro request member
    have member : request ∈ screen.scene.focus.2 := member
    rw [left] at member
    exact coming request (List.mem_cons_of_mem other member)
  | elsewhere _ _ unseen unassigned same parent kept =>
    refine ⟨⟨state, good, displays.of_sameStand same parent⟩, ?_⟩
    rw [kept]
    exact coming

/-- Unless the square settles, the assignments that are made come nearer to the ones that have the
property. -/
theorem endsWell_step [DecidablePred P] (ends : focused.EndsWell P) :
    next.Settled P ∨ next.EndsWell P ∧
      (next.staleRequests P).length ≤ (focused.staleRequests P).length ∧
      (focused.assigned event ≠ none →
        (next.staleRequests P).length < (focused.staleRequests P).length) := by
  obtain ⟨others, state, split, good⟩ := ends
  unfold staleRequests
  cases square_step taken with
  | requested view _ handles same parent queued =>
    have found := finds view rfl handles
    rw [queued]
    refine .inr ⟨⟨focused.screen.scene.focus.2, view.found, ?_, found⟩, ?_, ?_⟩
    · rw [queued]
    · rw [List.rdropWhile_concat_pos _ _ _ (by simpa using found)]
    · exact fun told => absurd rfl told
  | assigned first rest screen told head left =>
    change Settled P _ ∨ EndsWell P _ ∧ (screen.scene.focus.2.rdropWhile _).length ≤ _ ∧
      (_ → (screen.scene.focus.2.rdropWhile _).length < _)
    rw [left, head]
    -- Either all that is left has the property, or one stale request less is left.
    by_cases fresh : ∀ request ∈ first :: rest, P request
    · refine .inl ⟨⟨first, fresh first List.mem_cons_self, displays_setState first screen⟩, ?_⟩
      intro request member
      have member : request ∈ screen.scene.focus.2 := member
      rw [left] at member
      exact fresh request (List.mem_cons_of_mem first member)
    · have shorter : (rest.rdropWhile fun state => decide (P state)).length <
          ((first :: rest).rdropWhile fun state => decide (P state)).length :=
        length_rdropWhile_lt (by simpa using fresh)
      refine .inr ⟨?_, Nat.le_of_lt shorter, fun _ => shorter⟩
      rw [head] at split
      cases others with
      | nil =>
        cases split
        exact absurd (by simpa using good) fresh
      | cons other others =>
        cases split
        exact ⟨others, state, congrArg Prod.snd left, good⟩
  | elsewhere _ _ unseen unassigned same parent kept =>
    rw [kept]
    refine .inr ⟨⟨others, state, ?_, good⟩, Nat.le_refl _, fun told => absurd unassigned told⟩
    rw [kept]
    exact split

end Settling

/-- When all frames that are looked at find a state with the property, the square settles on such
states. -/
theorem settled_of_rendered {trace : Trace (step geometry)} (fair : Fair trace)
    {P : FocusSquare.State → Prop} {n : Nat} {isInFrustum : ObjectRef → Bool}
    (rendered : trace.event n = .screen (.rendererUpdateAtTime isInFrustum))
    (finds : ∀ later view, n ≤ later → trace.event later = .screen (.mainQueue view) →
      (trace.state later).screen.handlesFrame.isSome → P view.found) :
    ∃ settled, n ≤ settled ∧ ∀ later, settled ≤ later → (trace.state later).Settled P := by
  classical
  have settles : (trace.drop n).LeadsTo (EndsWell P) (Settled P) := by
    refine (trace.drop n).leadsTo_of_rank (fun focused => (focused.staleRequests P).length)
      (fun focused event => focused.assigned event ≠ none) ?_ ?_
    · intro m ends
      exact endsWell_step (fun view => finds (n + m) view (Nat.le_add_right n m))
        ((trace.drop n).taken m) ends
    · rintro m ⟨others, state, split, -⟩
      -- The request is a closure of the update queue, and its turn comes.
      have member : state ∈ (trace.state (n + m)).screen.scene.focus.2 := by
        change (trace.state (n + m)).screen.scene.focus.2 = _ at split
        simp [split]
      obtain ⟨closure, member, request⟩ := List.mem_filterMap.mp member
      have same : closure = .setFocusSquare state := by
        cases closure with
        | setFocusSquare other => exact congrArg _ (Option.some.inj request)
        | _ => cases request
      obtain ⟨before, after, queued⟩ := List.append_of_mem (same ▸ member)
      obtain ⟨shown, later, -, told⟩ := assigned_of_queued fair queued
      obtain ⟨wait, rfl⟩ := Nat.exists_eq_add_of_le later
      rw [Nat.add_assoc] at told
      refine ⟨m + wait, Nat.le_add_right m wait, ?_⟩
      change (trace.state (n + (m + wait))).assigned (trace.event (n + (m + wait))) ≠ none
      rw [told]
      exact Option.some_ne_none state
  obtain ⟨handled, view, after, run, frame⟩ := handles_of_rendered fair rendered
  have taken := trace.taken handled
  rw [run] at taken
  have queued := updateQueue_of_handled frame taken
  -- What the rendered frame finds is such a request.
  have ends : (trace.state (handled + 1)).EndsWell P := by
    refine ⟨(trace.state handled).screen.scene.focus.2, view.found, ?_,
      finds handled view (Nat.le_of_lt after) run (by rw [frame]; rfl)⟩
    simp [Scene.focus, queued, UpdateClosure.focusRequest]
  obtain ⟨wait, same⟩ : ∃ wait, handled + 1 = n + wait := Nat.exists_eq_add_of_le (by omega)
  rw [same] at ends
  obtain ⟨settled, -, reached⟩ := settles wait ends
  refine ⟨n + settled, Nat.le_add_right n settled, fun later far => ?_⟩
  -- Once settled, the square stays so.
  induction far with
  | refl => exact reached
  | @step moment far ih =>
    have far : n + settled ≤ moment := far
    exact settled_step (fun view => finds moment view (by omega)) (trace.taken moment) ih

/-- On every fair trace, if from a rendered frame on all frames that are looked at find a state
with some property, then from some moment on the square shows nothing but such states. -/
theorem square_settles (trace : Trace (step geometry)) (fair : Fair trace)
    (P : FocusSquare.State → Prop) (n : Nat) (isInFrustum : ObjectRef → Bool)
    (rendered : trace.event n = .screen (.rendererUpdateAtTime isInFrustum))
    (finds : ∀ later view, n ≤ later → trace.event later = .screen (.mainQueue view) →
      (trace.state later).screen.handlesFrame.isSome → P view.found) :
    ∃ settled, n ≤ settled ∧ ∀ later, settled ≤ later →
      ∃ state, P state ∧ (trace.state later).Displays state := by
  obtain ⟨settled, after, still⟩ := settled_of_rendered fair rendered finds
  exact ⟨settled, after, fun later far => (still later far).shown⟩

/-- In the showroom the square stays on the floor. -/
theorem square_settles_floor : ∃ settled, 1 ≤ settled ∧ ∀ later, settled ≤ later →
    ∃ state, state ≠ .initializing ∧ (floorTrace.state later).Displays state := by
  refine square_settles floorTrace floorTrace_fair (fun state => state ≠ .initializing) 1
    (fun _ => false) rfl fun later view _ looked _ => ?_
  match later with
  | 0 | 1 | 3 => cases looked
  | 2 =>
    cases looked
    exact fun same => by cases same
  | later + 4 => cases looked

end FocusedScreen

end FurnitureAR
