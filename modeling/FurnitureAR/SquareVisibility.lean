import FurnitureAR.AddButton
import FurnitureAR.FrameDelivery

/-!
# The square on top of the content

Every frame asks the square to show itself on top of an empty room and to fade out in one with an
object. A request is ignored while the last fade of its kind has not finished, and the square shows
itself on its own whenever it becomes a billboard.
-/
namespace FurnitureAR

open Execution

namespace FocusSquare

variable {square : FocusSquare}

def FadeKey.isOnTop : FadeKey → Bool
  | .hide => false
  | .unhide => true

/-- What hiding and showing the square change. -/
structure Fading where
  isOnTop : Bool
  fades : List FadeKey

def Fading.fade (fading : Fading) (key : FadeKey) : Fading :=
  if key ∈ fading.fades then fading else ⟨key.isOnTop, fading.fades ++ [key]⟩

def fading (square : FocusSquare) : Fading := ⟨square.isOnTop, square.fades⟩

theorem fading_hide : square.hide.fading = square.fading.fade .hide := by
  unfold hide fading Fading.fade
  split <;> rfl

theorem fading_unhide : square.unhide.fading = square.fading.fade .unhide := by
  unfold unhide fading Fading.fade
  split <;> rfl

theorem fading_performOpenAnimation : square.performOpenAnimation.fading = square.fading := by
  unfold performOpenAnimation
  split <;> rfl

theorem fading_performCloseAnimation (flash : Bool) :
    (square.performCloseAnimation flash).fading = square.fading := by
  unfold performCloseAnimation
  split <;> rfl

theorem fading_setPosition (geometry : Geometry) (raycastResult : ARRaycastResult)
    (camera : Option ARCamera) :
    (square.setPosition geometry raycastResult camera).fading = square.fading := by
  unfold setPosition updateTransform
  cases camera with
  | none => rfl
  | some camera =>
    dsimp only
    split
    · unfold updateTilted
      split <;> rfl
    · unfold updateLevel
      dsimp only
      split <;> rfl

/-- Only becoming a billboard is about hiding and showing. -/
theorem fading_setState (geometry : Geometry) (state : State) :
    (square.setState geometry state).fading =
      if state = .initializing ∧ square.state ≠ .initializing then square.fading.fade .unhide
      else square.fading := by
  unfold setState
  dsimp only
  by_cases same : state = square.state
  · subst same
    rw [if_pos rfl, if_neg fun changed => changed.2 changed.1]
  rw [if_neg same]
  cases state with
  | initializing =>
    -- A billboard unhides itself before it opens.
    rw [if_pos ⟨rfl, fun initializing => same initializing.symm⟩]
    exact fading_performOpenAnimation.trans fading_unhide
  | detecting raycastResult camera =>
    rw [if_neg (by simp)]
    dsimp only
    cases raycastResult.planeAnchor with
    | some planeAnchor =>
      exact (fading_setPosition geometry raycastResult camera).trans
        (fading_performCloseAnimation _)
    | none =>
      exact (fading_setPosition geometry raycastResult camera).trans fading_performOpenAnimation

end FocusSquare

namespace FocusedScreen

open FocusSquare (Fading FadeKey)

variable {geometry : Geometry} {focused next : FocusedScreen} {event : FocusedEvent}

/-- What a frame asks of the square. -/
def wanted (focused : FocusedScreen) (isObjectVisible : Bool) : FadeKey :=
  if isObjectVisible || !focused.screen.scene.loader.loadedObjects.isEmpty then .hide else .unhide

/-- What a step makes of hiding and showing. -/
inductive FadeStep (focused : FocusedScreen) : FocusedEvent → Fading → Prop where
  | asked (view : SceneView) (isObjectVisible : Bool)
      (frame : focused.screen.handlesFrame = some isObjectVisible) :
      FadeStep focused (.screen (.mainQueue view))
        (focused.focusSquare.fading.fade (focused.wanted isObjectVisible))
  | billboard (told : focused.assigned (.screen .updateQueue) = some .initializing)
      (surface : focused.focusSquare.state ≠ .initializing) :
      FadeStep focused (.screen .updateQueue) (focused.focusSquare.fading.fade .unhide)
  | finished (key : FadeKey) :
      FadeStep focused (.fadeFinished key)
        { focused.focusSquare.fading with fades := focused.focusSquare.fades.erase key }
  | kept (event : FocusedEvent) (unseen : focused.frameFound event = none)
      (unfinished : ∀ key, event ≠ .fadeFinished key) :
      FadeStep focused event focused.focusSquare.fading

theorem fadeStep_mainQueue {view : SceneView}
    (taken : focused.step geometry (.screen (.mainQueue view)) = .ok next) :
    FadeStep focused (.screen (.mainQueue view)) next.focusSquare.fading := by
  obtain ⟨screen, -, rest⟩ := screen_cases taken
  unfold ARViewController.asksSquare at rest
  cases frame : focused.screen.handlesFrame with
  | none =>
    rw [frame] at rest
    obtain rfl := rest
    refine .kept _ ?_ (by simp)
    unfold frameFound
    rw [frame]
    rfl
  | some isObjectVisible =>
    rw [frame] at rest
    obtain ⟨asked, done, rfl⟩ := rest
    have fades := FadeStep.asked view isObjectVisible frame
    unfold wanted at fades
    dsimp only at done
    split at done
    next hides =>
      cases done
      rw [if_pos hides] at fades
      rw [FocusSquare.fading_hide]
      exact fades
    next shows =>
      cases done
      rw [if_neg shows] at fades
      rw [FocusSquare.fading_unhide]
      exact fades

theorem fadeStep_updateQueue (taken : focused.step geometry (.screen .updateQueue) = .ok next) :
    FadeStep focused (.screen .updateQueue) next.focusSquare.fading := by
  obtain ⟨screen, -, rest⟩ := screen_cases taken
  have asks : focused.screen.asksSquare .updateQueue =
      (focused.assigned (.screen .updateQueue)).map FocusSquare.Event.setState := rfl
  rw [asks] at rest
  cases told : focused.assigned (.screen .updateQueue) with
  | none =>
    rw [told] at rest
    obtain rfl := rest
    exact .kept _ rfl (by simp)
  | some state =>
    rw [told] at rest
    obtain ⟨asked, done, rfl⟩ := rest
    cases done
    change FadeStep focused _ (focused.focusSquare.setState geometry state).fading
    rw [FocusSquare.fading_setState]
    split
    next becomes =>
      obtain ⟨rfl, surface⟩ := becomes
      exact .billboard told surface
    · exact .kept _ rfl (by simp)

theorem fade_step (taken : focused.step geometry event = .ok next) :
    FadeStep focused event next.focusSquare.fading := by
  cases event with
  | fadeFinished key =>
    have asked : focused.ask geometry (.fadeFinished key) = .ok next := taken
    obtain ⟨focusSquare, done, rfl⟩ := ask_cases (by simp) asked
    obtain rfl := FocusSquare.fadeFinished_cases done
    exact .finished key
  | completed index =>
    have asked : focused.ask geometry (.completed index) = .ok next := taken
    obtain ⟨focusSquare, done, rfl⟩ := ask_cases (by simp) asked
    have same : focusSquare.fading = focused.focusSquare.fading := by
      obtain ⟨completion, -, rfl⟩ := FocusSquare.completed_cases done
      cases completion <;> rfl
    rw [same]
    exact .kept _ rfl (by simp)
  | screen event =>
    by_cases main : ∃ view, event = .mainQueue view
    · obtain ⟨view, rfl⟩ := main
      exact fadeStep_mainQueue taken
    by_cases update : event = .updateQueue
    · subst update
      exact fadeStep_updateQueue taken
    obtain ⟨screen, -, rest⟩ := screen_cases taken
    obtain ⟨asksNothing, unseen⟩ : focused.screen.asksSquare event = none ∧
        focused.frameFound (.screen event) = none := by
      cases event with
      | mainQueue view => exact absurd ⟨view, rfl⟩ main
      | updateQueue => exact absurd rfl update
      | _ => exact ⟨rfl, rfl⟩
    rw [asksNothing] at rest
    obtain rfl := rest
    exact .kept _ unseen (by simp)

section FadeSteps

variable {key : FadeKey} {fading : Fading} (change : FadeStep focused event fading)

include change

/-- While a fade is running no other one of its kind is started. -/
theorem FadeStep.running (running : key ∈ focused.focusSquare.fading.fades) :
    key ∉ fading.fades ∨ key ∈ fading.fades ∧
      fading.fades.count key ≤ focused.focusSquare.fading.fades.count key ∧
      (event = .fadeFinished key →
        fading.fades.count key < focused.focusSquare.fading.fades.count key) := by
  have faded : ∀ other, key ∈ (focused.focusSquare.fading.fade other).fades ∧
      (focused.focusSquare.fading.fade other).fades.count key ≤
        focused.focusSquare.fading.fades.count key := by
    intro other
    unfold Fading.fade
    split
    · exact ⟨running, Nat.le_refl _⟩
    -- A fade that is started is one of the other kind.
    next absent =>
      have differs : other ≠ key := fun same => absent (same ▸ running)
      exact ⟨List.mem_append_left _ running, by simp [List.count_append, differs]⟩
  cases change with
  | asked view isObjectVisible frame => exact .inr ⟨(faded _).1, (faded _).2, by simp⟩
  | billboard told surface => exact .inr ⟨(faded _).1, (faded _).2, by simp⟩
  | finished other =>
    by_cases still : key ∈ focused.focusSquare.fades.erase other
    · refine .inr ⟨still, List.Sublist.count_le key List.erase_sublist, fun same => ?_⟩
      cases same
      have some : 0 < focused.focusSquare.fades.count key := List.count_pos_iff.mpr running
      change (focused.focusSquare.fades.erase key).count key < focused.focusSquare.fades.count key
      rw [List.count_erase_self]
      omega
    · exact .inl still
  | kept _ unseen unfinished =>
    exact .inr ⟨running, Nat.le_refl _, fun finishes => absurd finishes (unfinished key)⟩

/-- When none is running, a frame that asks for one is heard. -/
theorem FadeStep.idle (asks : ∀ view isObjectVisible, event = .screen (.mainQueue view) →
      focused.screen.handlesFrame = some isObjectVisible → focused.wanted isObjectVisible = key)
    (idle : key ∉ focused.focusSquare.fading.fades) :
    fading.isOnTop = key.isOnTop ∨ key ∉ fading.fades ∧ focused.frameFound event = none := by
  have heard : (focused.focusSquare.fading.fade key).isOnTop = key.isOnTop := by
    unfold Fading.fade
    rw [if_neg idle]
  cases change with
  | asked view isObjectVisible frame =>
    rw [asks view isObjectVisible rfl frame]
    exact .inl heard
  | billboard told surface =>
    cases key with
    | unhide => exact .inl heard
    -- A billboard fades in, which is not what the frames ask for.
    | hide =>
      refine .inr ⟨?_, rfl⟩
      unfold Fading.fade
      split <;> simp [idle]
  | finished other => exact .inr ⟨fun member => idle (List.mem_of_mem_erase member), rfl⟩
  | kept _ unseen unfinished => exact .inr ⟨idle, unseen⟩

/-- Once the square is as all frames want it, only a billboard may change that. -/
theorem FadeStep.stays (asks : ∀ view isObjectVisible, event = .screen (.mainQueue view) →
      focused.screen.handlesFrame = some isObjectVisible → focused.wanted isObjectVisible = key)
    (steady : focused.assigned event = some .initializing →
      focused.focusSquare.state ≠ .initializing → key = .unhide)
    (wanted : focused.focusSquare.fading.isOnTop = key.isOnTop) :
    fading.isOnTop = key.isOnTop := by
  have same : (focused.focusSquare.fading.fade key).isOnTop = key.isOnTop := by
    unfold Fading.fade
    split
    · exact wanted
    · rfl
  cases change with
  | asked view isObjectVisible frame =>
    rw [asks view isObjectVisible rfl frame]
    exact same
  | billboard told surface =>
    cases steady told surface
    exact same
  | finished other => exact wanted
  | kept _ unseen unfinished => exact wanted

end FadeSteps

/-! ## Visibility on infinite traces -/

/-- Moreover the fades finish. -/
structure FairToFades (trace : Trace (step geometry)) : Prop extends Fair trace where
  finishes : ∀ n key, key ∈ (trace.state n).focusSquare.fades →
    ∃ later, n ≤ later ∧ trace.event later = .fadeFinished key

theorem fading_leadsTo {trace : Trace (step geometry)} (fair : FairToFades trace) (key : FadeKey) :
    trace.LeadsTo (fun focused => key ∈ focused.focusSquare.fading.fades)
      (fun focused => key ∉ focused.focusSquare.fading.fades) := by
  refine trace.leadsTo_of_rank (fun focused => focused.focusSquare.fading.fades.count key)
    (fun _ event => event = .fadeFinished key) ?_ ?_
  · exact fun n running => (fade_step (trace.taken n)).running running
  · exact fun n running => fair.finishes n key running

section Room

variable {trace : Trace (step geometry)} {n : Nat} {isEmpty : Bool}
  (room : ∀ later, n ≤ later →
    (trace.state later).screen.scene.loader.loadedObjects.isEmpty = isEmpty)

include room

/-- Once a room is empty, frames that have seen an object are dealt with at some moment. -/
theorem objects_forgotten (fair : Fair trace) (empty : isEmpty = true) :
    ∃ forgotten, n ≤ forgotten ∧ ∀ later, forgotten ≤ later →
      ∀ closure ∈ (trace.state later).screen.dispatch.mainQueue,
        closure ≠ .updateFocusSquare true := by
  refine (mainQueue_fifo fair).purged ⟨?_, ?_⟩
  -- Serving the queue adds nothing to it.
  · rintro m - ⟨view, run⟩ first rest more head next element member
    have taken := trace.taken m
    rw [run] at taken
    obtain ⟨own, same, moved⟩ | ⟨other, -⟩ := screen_step taken
    · cases same
      obtain ⟨closure, queue⟩ := (ARViewController.runMain_cases moved).queue
      rw [head, next] at queue
      obtain ⟨-, left⟩ := List.cons.inj queue
      rw [List.self_eq_append_right.mp left] at member
      cases member
    · exact absurd rfl (other _)
  · rintro m after notMain more grown element member rfl
    obtain ⟨own, same, moved⟩ | ⟨-, same⟩ := screen_step (trace.taken m)
    · obtain ⟨closures, queue, frames⟩ :=
        ARViewController.mainQueue_grows (fun view main => notMain ⟨view, by rw [same, main]⟩) moved
      rw [grown] at queue
      rw [List.append_cancel_left queue] at member
      -- A renderer that finds no objects sees none.
      obtain ⟨isInFrustum, -, seen⟩ := frames true member
      have none := room m after
      rw [empty, List.isEmpty_iff] at none
      rw [none] at seen
      cases seen
    · rw [same, List.self_eq_append_right] at grown
      rw [grown] at member
      cases member

/-- From some moment on all frames want the same. -/
theorem wanted_of_room (fair : Fair trace) :
    ∃ agreed, n ≤ agreed ∧ ∀ later, agreed ≤ later → ∀ isObjectVisible,
      (trace.state later).screen.handlesFrame = some isObjectVisible →
        (trace.state later).wanted isObjectVisible = if isEmpty then .unhide else .hide := by
  cases isEmpty with
  -- In a room with objects it does not matter what the frame has seen.
  | false =>
    refine ⟨n, Nat.le_refl n, fun later after isObjectVisible frame => ?_⟩
    unfold wanted
    rw [room later after, Bool.not_false, Bool.or_true, if_pos rfl]
    rfl
  | true =>
    obtain ⟨forgotten, after, unseen⟩ := objects_forgotten room fair rfl
    refine ⟨forgotten, after, fun later far isObjectVisible frame => ?_⟩
    have invisible : isObjectVisible = false := by
      rw [← Bool.not_eq_true]
      rintro rfl
      unfold ARViewController.handlesFrame at frame
      split at frame
      next seen rest head =>
        cases frame
        exact unseen later far _ (head ▸ List.mem_cons_self) rfl
      · cases frame
    unfold wanted
    rw [room later (Nat.le_trans after far), invisible]
    rfl

end Room

/-- A rendered frame is looked at later. -/
theorem frame_of_rendered {trace : Trace (step geometry)} (fair : Fair trace) {n : Nat}
    {isInFrustum : ObjectRef → Bool}
    (rendered : trace.event n = .screen (.rendererUpdateAtTime isInFrustum)) :
    ∃ later, n ≤ later ∧ (trace.state later).frameFound (trace.event later) ≠ none := by
  obtain ⟨handled, view, after, run, frame⟩ := handles_of_rendered fair rendered
  refine ⟨handled, Nat.le_of_lt after, ?_⟩
  rw [run]
  unfold frameFound
  rw [frame]
  exact Option.some_ne_none view.found

/-- When all frames want the same and no fade stands in the way, the next one is heard. -/
theorem idle_leadsTo {trace : Trace (step geometry)} {agreed : Nat} {key : FadeKey}
    (asks : ∀ later, agreed ≤ later → ∀ isObjectVisible,
      (trace.state later).screen.handlesFrame = some isObjectVisible →
        (trace.state later).wanted isObjectVisible = key)
    (frames : ∀ m, ∃ later, m ≤ later ∧
      (trace.state later).frameFound (trace.event later) ≠ none) :
    (trace.drop agreed).LeadsTo (fun focused => key ∉ focused.focusSquare.fading.fades)
      (fun focused => focused.focusSquare.fading.isOnTop = key.isOnTop) := by
  refine (trace.drop agreed).leadsTo_of_helpful
    (fun focused event => focused.frameFound event ≠ none) ?_ ?_
  · intro m idle
    have change := fade_step ((trace.drop agreed).taken m)
    rcases change.idle (fun _ isObjectVisible _ => asks (agreed + m) (Nat.le_add_right agreed m)
      isObjectVisible) idle with heard | ⟨still, unseen⟩
    · exact .inl heard
    · exact .inr ⟨still, fun frame => frame unseen⟩
  · intro m _
    obtain ⟨later, after, frame⟩ := frames (agreed + m)
    obtain ⟨wait, rfl⟩ := Nat.exists_eq_add_of_le after
    rw [Nat.add_assoc] at frame
    exact ⟨m + wait, Nat.le_add_right m wait, frame⟩

theorem mem_focus_of_assigned {state : FocusSquare.State}
    (told : focused.assigned event = some state) : state ∈ focused.screen.scene.focus.2 := by
  unfold assigned at told
  split at told
  · obtain ⟨closure, head, request⟩ := Option.bind_eq_some_iff.mp told
    exact List.mem_filterMap.mpr ⟨closure, List.mem_of_head? head, request⟩
  · cases told

theorem found_eq_initializing (view : SceneView) :
    view.found = .initializing ↔ view.surface = none := by
  unfold SceneView.found
  cases view.surface <;> simp

/-- When all frames find a surface or all find none, no billboard shows itself any more. -/
theorem billboards_end {trace : Trace (step geometry)} (fair : Fair trace)
    (renders : ∀ m, ∃ later isInFrustum, m ≤ later ∧
      trace.event later = .screen (.rendererUpdateAtTime isInFrustum))
    {n : Nat} {noSurface : Bool} (finds : ∀ later view, n ≤ later →
      trace.event later = .screen (.mainQueue view) →
        (trace.state later).screen.handlesFrame.isSome → view.surface.isNone = noSurface) :
    ∃ ended, ∀ later, ended ≤ later →
      (trace.state later).assigned (trace.event later) = some .initializing →
        (trace.state later).focusSquare.state = .initializing := by
  obtain ⟨rendered, isInFrustum, after, event⟩ := renders n
  have found : ∀ later view, rendered ≤ later → trace.event later = .screen (.mainQueue view) →
      (trace.state later).screen.handlesFrame.isSome →
        (view.found = .initializing ↔ noSurface = true) := by
    intro later view far looked handles
    rw [found_eq_initializing, ← finds later view (Nat.le_trans after far) looked handles]
    exact Option.isNone_iff_eq_none.symm
  obtain ⟨settled, -, still⟩ := @settled_of_rendered geometry trace fair
    (fun state => state = .initializing ↔ noSurface = true) rendered isInFrustum event found
  refine ⟨settled, fun later far told => ?_⟩
  obtain ⟨⟨state, good, displays⟩, coming⟩ := still later far
  rw [displays.state]
  exact good.mpr ((coming _ (mem_focus_of_assigned told)).mp rfl)

/-- On every fair trace on which frames keep being rendered: once the room stays empty, or does not
get empty any more, the square is again and again on top of the content or below it, accordingly.
It stays there for good if the room is empty, or if all frames find a surface or all find none. -/
theorem visibility_settles (trace : Trace (step geometry)) (fair : FairToFades trace)
    (renders : ∀ m, ∃ later isInFrustum, m ≤ later ∧
      trace.event later = .screen (.rendererUpdateAtTime isInFrustum))
    (n : Nat) (isEmpty : Bool)
    (room : ∀ later, n ≤ later →
      (trace.state later).screen.scene.loader.loadedObjects.isEmpty = isEmpty) :
    (∀ m, ∃ later, m ≤ later ∧ (trace.state later).focusSquare.isOnTop = isEmpty) ∧
    ((isEmpty = true ∨ ∃ noSurface, ∀ later view, n ≤ later →
        trace.event later = .screen (.mainQueue view) →
          (trace.state later).screen.handlesFrame.isSome → view.surface.isNone = noSurface) →
      ∃ settled, ∀ later, settled ≤ later →
        (trace.state later).focusSquare.isOnTop = isEmpty) := by
  have frames : ∀ m, ∃ later, m ≤ later ∧
      (trace.state later).frameFound (trace.event later) ≠ none := by
    intro m
    obtain ⟨rendered, isInFrustum, after, event⟩ := renders m
    obtain ⟨later, far, frame⟩ := frame_of_rendered fair.toFair event
    exact ⟨later, Nat.le_trans after far, frame⟩
  obtain ⟨agreed, after, asks⟩ := wanted_of_room room fair.toFair
  have onTop : (if isEmpty then FadeKey.unhide else .hide).isOnTop = isEmpty := by
    cases isEmpty <;> rfl
  generalize (if isEmpty then FadeKey.unhide else .hide) = key at asks onTop
  have again : ∀ m, ∃ later, m ≤ later ∧
      (trace.state later).focusSquare.isOnTop = isEmpty := by
    intro m
    -- First the fade that is running finishes, then the next frame is heard.
    obtain ⟨idle, far, free⟩ : ∃ idle, max agreed m ≤ idle ∧
        key ∉ (trace.state idle).focusSquare.fading.fades := by
      by_cases running : key ∈ (trace.state (max agreed m)).focusSquare.fading.fades
      · exact fading_leadsTo fair key _ running
      · exact ⟨_, Nat.le_refl _, running⟩
    obtain ⟨wait, rfl⟩ : ∃ wait, idle = agreed + wait := Nat.exists_eq_add_of_le (by omega)
    obtain ⟨later, farther, heard⟩ := idle_leadsTo asks frames wait free
    exact ⟨agreed + later, by omega, heard.trans onTop⟩
  refine ⟨again, fun steady => ?_⟩
  obtain ⟨ended, quiet⟩ : ∃ ended, ∀ later, ended ≤ later →
      (trace.state later).assigned (trace.event later) = some .initializing →
        (trace.state later).focusSquare.state ≠ .initializing → key = .unhide := by
    -- Billboards show themselves, as they should in an empty room, and end in the other cases.
    rcases steady with empty | ⟨noSurface, finds⟩
    · rw [empty] at onTop
      refine ⟨0, fun _ _ _ _ => ?_⟩
      cases key with
      | unhide => rfl
      | hide => cases onTop
    · obtain ⟨ended, quiet⟩ := billboards_end fair.toFair renders finds
      exact ⟨ended, fun later far told surface => absurd (quiet later far told) surface⟩
  obtain ⟨settled, far, now⟩ := again (max agreed ended)
  have shown : (trace.state settled).focusSquare.fading.isOnTop = key.isOnTop :=
    now.trans onTop.symm
  refine ⟨settled, fun later after => ?_⟩
  suffices still : (trace.state later).focusSquare.fading.isOnTop = key.isOnTop from
    still.trans onTop
  induction after with
  | refl => exact shown
  | @step moment after ih =>
    have after : settled ≤ moment := after
    exact (fade_step (trace.taken moment)).stays
      (fun _ isObjectVisible _ => asks moment (by omega) isObjectVisible)
      (quiet moment (by omega)) ih

/-! ## A covered camera -/

open FocusSquare (levelGeometry)
open ARViewController (showroom coveredView)

/-- The chair is being loaded, and the first frame has found no surface. -/
def chairCovered : FocusedScreen :=
  ((run (step levelGeometry) (showroom.focusedScreen levelGeometry)
    [.screen (.addVirtualObject coveredView []), .screen (.rendererUpdateAtTime fun _ => false),
      .screen (.mainQueue coveredView), .screen .updateQueue, .fadeFinished .unhide,
      .fadeFinished .hide]).toOption).getD (showroom.focusedScreen levelGeometry)

/-- One more frame, and the end of the fade that it starts. -/
def coveredFrame : List FocusedEvent :=
  [.screen (.rendererUpdateAtTime fun _ => false), .screen (.mainQueue coveredView),
    .screen .updateQueue, .fadeFinished .hide]

/-- Over and over the same. -/
def coveredTrace : Trace (step levelGeometry) where
  state n := ((run (step levelGeometry) chairCovered (coveredFrame.take (n % 4))).toOption).getD
    chairCovered
  event n := coveredFrame[n % 4]?.getD (.completed 0)
  taken n := by
    have next : (n + 1) % 4 = (n % 4 + 1) % 4 := by omega
    have small : n % 4 < 4 := Nat.mod_lt n (by decide)
    rw [next]
    generalize n % 4 = k at small ⊢
    match k with
    | 0 | 1 | 2 | 3 => rfl

/-- Whatever holds at the four moments of a frame always holds. -/
theorem coveredTrace_cases {P : FocusedScreen → FocusedEvent → Prop}
    (holds : ∀ k < 4, P (coveredTrace.state k) (coveredTrace.event k)) (n : Nat) :
    P (coveredTrace.state n) (coveredTrace.event n) := by
  have same : n % 4 % 4 = n % 4 := Nat.mod_mod n 4
  have moment := holds (n % 4) (Nat.mod_lt n (by decide))
  unfold coveredTrace at moment ⊢
  dsimp only at moment ⊢
  rwa [same] at moment

theorem coveredTrace_event {k : Nat} (n : Nat) (small : k < 4) :
    ∃ later, n ≤ later ∧ coveredTrace.event later = coveredTrace.event k := by
  refine ⟨4 * n + k, by omega, ?_⟩
  have same : (4 * n + k) % 4 = k % 4 := by omega
  unfold coveredTrace
  dsimp only
  rw [same]

theorem coveredTrace_fair : FairToFades coveredTrace where
  runsMain n _ := by
    obtain ⟨later, after, event⟩ := coveredTrace_event n (by decide : 1 < 4)
    exact ⟨later, after, coveredView, event⟩
  runsUpdate n _ := coveredTrace_event n (by decide : 2 < 4)
  finishes n key running := by
    have onlyHide : .unhide ∉ (coveredTrace.state n).focusSquare.fades :=
      @coveredTrace_cases (fun focused _ => .unhide ∉ focused.focusSquare.fades) (by decide) n
    cases key with
    | hide => exact coveredTrace_event n (by decide : 3 < 4)
    | unhide => exact absurd running onlyHide

/-- While the chair is there, the square stays below it. -/
theorem visibility_settles_covered : ∃ settled, ∀ later, settled ≤ later →
    (coveredTrace.state later).focusSquare.isOnTop = false := by
  have renders : ∀ m, ∃ later isInFrustum, m ≤ later ∧
      coveredTrace.event later = .screen (.rendererUpdateAtTime isInFrustum) := by
    intro m
    obtain ⟨later, after, event⟩ := coveredTrace_event m (by decide : 0 < 4)
    exact ⟨later, fun _ => false, after, event⟩
  have room : ∀ n, (coveredTrace.state n).screen.scene.loader.loadedObjects.isEmpty = false :=
    @coveredTrace_cases
      (fun focused _ => focused.screen.scene.loader.loadedObjects.isEmpty = false) (by decide)
  refine (visibility_settles coveredTrace coveredTrace_fair renders 0 false
    fun later _ => room later).2 (.inr ⟨true, fun later view _ looked _ => ?_⟩)
  have covered := @coveredTrace_cases
    (fun _ event => ∀ view, event = .screen (.mainQueue view) → view = coveredView) ?_ later
  · rw [covered view looked]
    rfl
  · intro k small view looked
    match k with
    | 0 | 2 | 3 => cases looked
    | 1 =>
      cases looked
      rfl

end FocusedScreen

end FurnitureAR
