import FurnitureAR.Library.TimerSlots
import FurnitureAR.LoadRefinement

/-!
# The timers of the status messages

The hide timer and the timers of the scheduled messages are one-shot timers in slots: one slot for
each type of message, and one for hiding. In these terms every method of the status view
controller changes one or two slots, and every event of the screen has one effect on them.
-/
namespace FurnitureAR

open Execution TimerSlots

/-- Timers for hiding have a slot of their own. -/
def TimerBlock.slot : TimerBlock → Option MessageType
  | .hideMessage => none
  | .showMessage _ messageType => some messageType
  | .escalate _ => some .trackingStateEscalation

instance : OneShot Timer (Option MessageType) where
  reference := Timer.reference
  slot timer := timer.block.slot

namespace StatusViewController

variable {status : StatusViewController}

/-- The number that a slot remembers. -/
def filed (status : StatusViewController) : Option MessageType → Option TimerRef
  | none => status.messageHideTimer
  | some messageType => status.timers messageType

def slots (status : StatusViewController) : Slots Timer (Option MessageType) where
  pending := status.runLoop
  filed := status.filed
  next := status.nextTimer

def Sound (status : StatusViewController) : Prop := status.slots.Sound

/-- The timer of a slot that is still to fire. -/
def live (status : StatusViewController) : Option MessageType → Option Timer := status.slots.live

theorem sound_initial : Sound {} where
  filed timer member := by cases member
  numbered timer member := by cases member
  past key number filed := by cases key <;> cases filed
  unique := List.nodup_nil

/-! ## The methods in terms of slots -/

theorem invalidate_eq (timer : Option TimerRef) : status.invalidate timer =
    { status with runLoop := status.runLoop.filter fun other => timer ≠ some other.reference } := by
  cases timer with
  | none => simp [invalidate]
  | some number => simp [invalidate, eq_comm]

theorem slots_invalidate (key : Option MessageType) :
    (status.invalidate (status.filed key)).slots = status.slots.invalidate key := by
  rw [invalidate_eq]
  rfl

theorem filed_cancelScheduledMessage (messageType : MessageType) :
    (status.cancelScheduledMessage messageType).filed =
      Function.update status.filed (some messageType) none := by
  funext key
  rw [cancelScheduledMessage, invalidate_eq]
  cases key with
  | none => simp [filed]
  | some other => simp [filed, Function.update_apply]

theorem slots_cancelScheduledMessage (messageType : MessageType) :
    (status.cancelScheduledMessage messageType).slots = status.slots.cancel (some messageType) := by
  have invalidated := @slots_invalidate status (some messageType)
  simp only [Slots.cancel, Slots.forget, ← invalidated]
  rw [slots, filed_cancelScheduledMessage]
  simp only [cancelScheduledMessage, invalidate_eq]
  rfl

/-- Filing a new timer for a message. -/
theorem slots_file (interval : ℚ) (block : TimerBlock) (messageType : MessageType) :
    { (status.scheduledTimer interval block).2 with
      timers := Function.update status.timers messageType (some status.nextTimer) }.slots =
      status.slots.schedule (some messageType) ⟨status.nextTimer, interval, block⟩ := by
  simp only [slots, scheduledTimer, Slots.schedule, Slots.mk.injEq, true_and, and_true]
  funext key
  cases key with
  | none => simp [filed]
  | some other => simp [filed, Function.update_apply]

theorem slots_fileHiding (interval : ℚ) (block : TimerBlock) :
    { (status.scheduledTimer interval block).2 with
      messageHideTimer := some status.nextTimer }.slots =
      status.slots.schedule none ⟨status.nextTimer, interval, block⟩ := by
  simp only [slots, scheduledTimer, Slots.schedule, Slots.mk.injEq, true_and, and_true]
  funext key
  cases key with
  | none => simp [filed]
  | some other => simp [filed]

theorem nextTimer_cancelScheduledMessage (messageType : MessageType) :
    (status.cancelScheduledMessage messageType).nextTimer = status.nextTimer := by
  rw [cancelScheduledMessage, invalidate_eq]

theorem slots_scheduleMessage (text : String) (seconds : ℚ) (messageType : MessageType) :
    (status.scheduleMessage text seconds messageType).slots =
      status.slots.reschedule (some messageType)
        ⟨status.nextTimer, seconds, .showMessage text messageType⟩ := by
  rw [← Slots.schedule_cancel, ← slots_cancelScheduledMessage,
    ← nextTimer_cancelScheduledMessage messageType]
  exact slots_file seconds (.showMessage text messageType) messageType

theorem slots_escalateFeedback (trackingState : TrackingState) (seconds : ℚ) :
    (status.escalateFeedback trackingState seconds).slots =
      status.slots.reschedule (some .trackingStateEscalation)
        ⟨status.nextTimer, seconds, .escalate trackingState⟩ := by
  rw [← Slots.schedule_cancel, ← slots_cancelScheduledMessage,
    ← nextTimer_cancelScheduledMessage .trackingStateEscalation]
  exact slots_file seconds (.escalate trackingState) .trackingStateEscalation

/-- A message that is to be hidden again files a timer, another one leaves the slot as it is. -/
theorem slots_showMessage (text : String) (autoHide : Bool) :
    (status.showMessage text autoHide).slots =
      if autoHide then
        status.slots.reschedule none ⟨status.nextTimer, displayDuration, .hideMessage⟩
      else status.slots.invalidate none := by
  have invalidated := @slots_invalidate status none
  have hidden : ((status.invalidate status.messageHideTimer).setMessageHidden false).nextTimer =
      status.nextTimer := by
    rw [invalidate_eq]
    rfl
  rw [Slots.reschedule, ← invalidated]
  cases autoHide with
  | false => rfl
  | true =>
    simp only [if_true]
    rw [← hidden]
    exact slots_fileHiding displayDuration .hideMessage

/-! ## What is left to fire -/

theorem Sound.cancelScheduledMessage (sound : status.Sound) (messageType : MessageType) :
    (status.cancelScheduledMessage messageType).Sound := by
  rw [Sound, slots_cancelScheduledMessage]
  exact Slots.Sound.cancel sound _

theorem Sound.live_cancelScheduledMessage (sound : status.Sound) (messageType : MessageType) :
    (status.cancelScheduledMessage messageType).live =
      Function.update status.live (some messageType) none := by
  rw [live, slots_cancelScheduledMessage]
  exact Slots.live_cancel sound _

theorem Sound.cancelAllScheduledMessages (sound : status.Sound) :
    status.cancelAllScheduledMessages.Sound := by
  have always : ∀ types : List MessageType,
      (types.foldl StatusViewController.cancelScheduledMessage status).Sound := by
    intro types
    induction types generalizing status with
    | nil => exact sound
    | cons messageType types ih => exact ih (sound.cancelScheduledMessage messageType)
  exact always _

/-- Only the hide timer is left. -/
theorem Sound.live_cancelAllScheduledMessages (sound : status.Sound) (messageType : MessageType) :
    status.cancelAllScheduledMessages.live (some messageType) = none := by
  have kept : ∀ types : List MessageType, ∀ status : StatusViewController, status.Sound →
      messageType ∈ types ∨ status.live (some messageType) = none →
        (types.foldl StatusViewController.cancelScheduledMessage status).live
          (some messageType) = none := by
    intro types
    induction types with
    | nil =>
      rintro status sound (member | free)
      · cases member
      · exact free
    | cons first types ih =>
      intro status sound either
      apply ih _ (sound.cancelScheduledMessage first)
      rw [sound.live_cancelScheduledMessage, Function.update_apply]
      split
      · exact .inr rfl
      next different =>
        rcases either with member | free
        · rcases List.mem_cons.mp member with rfl | later
          · exact absurd rfl different
          · exact .inl later
        · exact .inr free
  apply kept _ status sound (.inl _)
  cases messageType <;> decide

theorem Sound.live_hiding_cancelAllScheduledMessages (sound : status.Sound) :
    status.cancelAllScheduledMessages.live none = status.live none := by
  have kept : ∀ types : List MessageType, ∀ status : StatusViewController, status.Sound →
      (types.foldl StatusViewController.cancelScheduledMessage status).live none =
        status.live none := by
    intro types
    induction types with
    | nil => exact fun _ _ => rfl
    | cons first types ih =>
      intro status sound
      rw [List.foldl_cons, ih _ (sound.cancelScheduledMessage first),
        sound.live_cancelScheduledMessage, Function.update_of_ne (by simp)]
  exact kept _ status sound

theorem Sound.scheduleMessage (sound : status.Sound) (text : String) (seconds : ℚ)
    (messageType : MessageType) : (status.scheduleMessage text seconds messageType).Sound := by
  rw [Sound, slots_scheduleMessage]
  exact Slots.Sound.reschedule sound rfl rfl

theorem Sound.live_scheduleMessage (sound : status.Sound) (text : String) (seconds : ℚ)
    (messageType : MessageType) : (status.scheduleMessage text seconds messageType).live =
      Function.update status.live (some messageType)
        (some ⟨status.nextTimer, seconds, .showMessage text messageType⟩) := by
  rw [live, slots_scheduleMessage]
  exact Slots.live_reschedule sound rfl

theorem Sound.escalateFeedback (sound : status.Sound) (trackingState : TrackingState)
    (seconds : ℚ) : (status.escalateFeedback trackingState seconds).Sound := by
  rw [Sound, slots_escalateFeedback]
  exact Slots.Sound.reschedule sound rfl rfl

theorem Sound.live_escalateFeedback (sound : status.Sound) (trackingState : TrackingState)
    (seconds : ℚ) : (status.escalateFeedback trackingState seconds).live =
      Function.update status.live (some .trackingStateEscalation)
        (some ⟨status.nextTimer, seconds, .escalate trackingState⟩) := by
  rw [live, slots_escalateFeedback]
  exact Slots.live_reschedule sound rfl

theorem Sound.showMessage (sound : status.Sound) (text : String) (autoHide : Bool) :
    (status.showMessage text autoHide).Sound := by
  rw [Sound, slots_showMessage]
  split
  · exact Slots.Sound.reschedule sound rfl rfl
  · exact Slots.Sound.invalidate sound _

/-- The hide timer of the message that is shown takes the place of the one before. -/
theorem Sound.live_shown (sound : status.Sound) (text : String) (autoHide : Bool) :
    (status.showMessage text autoHide).live = Function.update status.live none
      (if autoHide then some ⟨status.nextTimer, displayDuration, .hideMessage⟩ else none) := by
  rw [live, slots_showMessage]
  cases autoHide with
  | true =>
    simp only [if_true]
    exact Slots.live_reschedule sound rfl
  | false =>
    simp only [Bool.false_eq_true, if_false]
    exact Slots.live_invalidate sound none

/-- Showing a message leaves the scheduled ones alone. -/
theorem Sound.live_showMessage (sound : status.Sound) (text : String) (autoHide : Bool)
    (messageType : MessageType) :
    (status.showMessage text autoHide).live (some messageType) =
      status.live (some messageType) := by
  rw [sound.live_shown, Function.update_of_ne (by simp)]

theorem Sound.live_iff (sound : status.Sound) {key : Option MessageType} {timer : Timer} :
    status.live key = some timer ↔ timer ∈ status.runLoop ∧ timer.block.slot = key :=
  Slots.live_iff sound

/-- A timer that fires is one of the run loop. -/
theorem timerFired_cases {next : StatusViewController} {reference : TimerRef}
    (fired : status.timerFired reference = some next) :
    ∃ timer ∈ status.runLoop, timer.reference = reference ∧
      next = (status.invalidate (some reference)).runBlock timer.block := by
  unfold timerFired at fired
  split at fired
  next timer found =>
    have same : timer.reference = reference := by simpa using List.find?_some found
    exact ⟨timer, List.mem_of_find?_eq_some found, same, (Option.some.inj fired).symm⟩
  · cases fired

theorem slots_spent (reference : TimerRef) :
    (status.invalidate (some reference)).slots = status.slots.fire reference := by
  simp only [invalidate, slots, Slots.fire]
  rfl

theorem Sound.spent (sound : status.Sound) (reference : TimerRef) :
    (status.invalidate (some reference)).Sound := by
  rw [Sound, slots_spent]
  exact Slots.Sound.fire sound _

theorem Sound.live_spent (sound : status.Sound) {timer : Timer} (member : timer ∈ status.runLoop) :
    (status.invalidate (some timer.reference)).live =
      Function.update status.live timer.block.slot none := by
  rw [live, slots_spent]
  exact Slots.live_fire sound member

theorem Sound.timerFired {next : StatusViewController} (sound : status.Sound)
    {reference : TimerRef} (fired : status.timerFired reference = some next) : next.Sound := by
  obtain ⟨timer, member, rfl, rfl⟩ := timerFired_cases fired
  have spent := sound.spent timer.reference
  cases timer.block with
  | hideMessage => exact spent
  | showMessage text messageType => exact spent.showMessage text true
  | escalate trackingState => exact (spent.cancelScheduledMessage _).showMessage _ false

/-- A timer that fires leaves its slot, and the timers of the other messages stay. -/
theorem Sound.live_timerFired {next : StatusViewController} (sound : status.Sound) {timer : Timer}
    (member : timer ∈ status.runLoop) (fired : status.timerFired timer.reference = some next)
    (messageType : MessageType) : next.live (some messageType) =
      if some messageType = timer.block.slot then none else status.live (some messageType) := by
  obtain ⟨other, also, same, rfl⟩ := timerFired_cases fired
  obtain rfl : other = timer := Slots.Sound.same sound also member same
  have spentSound := sound.spent other.reference
  have spent : (status.invalidate (some other.reference)).live (some messageType) =
      if some messageType = other.block.slot then none else status.live (some messageType) := by
    rw [sound.live_spent member, Function.update_apply]
  cases block : other.block with
  | hideMessage =>
    rw [block] at spent
    exact spent
  | showMessage text shown =>
    rw [block] at spent
    rw [← spent]
    exact spentSound.live_showMessage text true messageType
  | escalate trackingState =>
    rw [block] at spent
    simp only [runBlock]
    rw [(spentSound.cancelScheduledMessage _).live_showMessage,
      spentSound.live_cancelScheduledMessage, Function.update_apply, spent]
    have slot : (TimerBlock.escalate trackingState).slot = some .trackingStateEscalation := rfl
    rw [slot]
    by_cases own : some messageType = some .trackingStateEscalation
    · rw [if_pos own, if_pos own]
    · rw [if_neg own, if_neg own]

end StatusViewController

/-! ## The messages of the screen -/

namespace ARViewController

variable {screen next : ARViewController}

/-- A frame without objects schedules the hint to search, a frame with a surface cancels it. -/
def messagesOfFrame (screen : ARViewController) (isObjectVisible : Bool) (view : SceneView) :
    StatusViewController :=
  let status :=
    if isObjectVisible || !screen.scene.loader.loadedObjects.isEmpty then
      screen.statusViewController
    else screen.statusViewController.scheduleMessage
      "Спробуйте рухатися вліво і вправо" 5 .focusSquare
  if view.surface.isSome then status.cancelScheduledMessage .focusSquare else status

def messagesOfClosure (screen : ARViewController) (view : SceneView) :
    MainClosure → StatusViewController
  | .placeLoadedObject object =>
    if (screen.scene.placementQuery object).isSome then screen.statusViewController
    else screen.statusViewController.showMessage
      "Неможливо розмістити об'єкт\nСпробуйте рухатися вправо і вліво" true
  | .updateFocusSquare isObjectVisible => screen.messagesOfFrame isObjectVisible view
  | .surfaceDetected =>
    let status := screen.statusViewController.cancelScheduledMessage .planeEstimation
    let status := status.showMessage "Розпізнано поверхню" true
    if screen.scene.loader.loadedObjects.isEmpty then
      status.scheduleMessage "Натисніть \"+\" щоб добавити об'єкт" 7.5 .contentPlacement
    else status
  | .displayErrorMessage => screen.statusViewController

/-- The messages after an event that is accepted. -/
def messagesAfter (screen : ARViewController) : Event → StatusViewController
  | .viewDidAppear | .restartSessionTapped => screen.resetTracking.statusViewController
  | .viewWillDisappear => screen.statusViewController.cancelAllScheduledMessages
  | .addVirtualObject _ _ =>
    if screen.scene.loader.loadedObjects.isEmpty && screen.selectedVirtualObject.isNone then
      screen.statusViewController.showMessage "Не виявлено ідентифікаційного номера" true
    else screen.statusViewController
  | .mainQueue view =>
    match screen.dispatch.mainQueue with
    | closure :: _ => screen.messagesOfClosure view closure
    | [] => screen.statusViewController
  | .coachingOverlayDidRequestSessionReset => screen.restartExperience.statusViewController
  | .cameraDidChangeTrackingState trackingState =>
    (screen.cameraDidChangeTrackingState trackingState).statusViewController
  | .timerFired timer =>
    (screen.statusViewController.timerFired timer).getD screen.statusViewController
  | _ => screen.statusViewController

theorem messages_updateFocusSquare (isObjectVisible : Bool) (view : SceneView) :
    (screen.updateFocusSquare isObjectVisible view).statusViewController =
      screen.messagesOfFrame isObjectVisible view := by
  unfold updateFocusSquare messagesOfFrame
  dsimp only
  cases surface : view.surface with
  | some found =>
    simp only [Option.isSome_some, if_true]
    split <;> split <;> rfl
  | none =>
    simp only [Option.isSome_none, Bool.false_eq_true, if_false]
    split <;> split <;> rfl

theorem step_messages {event : Event} (taken : step screen event = .ok next) :
    next.statusViewController = screen.messagesAfter event := by
  cases event with
  | addVirtualObject view meanwhile =>
    obtain ⟨middle, first, behind⟩ := InBackground.of_addVirtualObject taken
    rw [behind.statusViewController]
    rcases (addVirtualObject_cases first).2 with
      ⟨empty, unselected, rfl⟩ | ⟨object, empty, selected, rfl⟩ | ⟨loaded, rfl⟩
    · simp [messagesAfter, empty, unselected]
    · simp only [messagesAfter, selected, Option.isNone_some, Bool.and_false, Bool.false_eq_true,
        if_false]
      rfl
    · simp [messagesAfter, loaded, setAddButtonImages]
  | background event => exact (InBackground.of_background taken).statusViewController
  | mainQueue view =>
    simp only [step, runMain] at taken
    split at taken
    · cases taken
    next closure rest queue =>
      cases taken
      simp only [messagesAfter, queue]
      cases closure with
      | placeLoadedObject object =>
        simp only [messagesOfClosure, placeVirtualObject, hideObjectLoadingUI, setCloseButtonImages]
        cases screen.scene.placementQuery object <;> rfl
      | updateFocusSquare isObjectVisible => exact messages_updateFocusSquare isObjectVisible view
      | surfaceDetected => rfl
      | displayErrorMessage => rfl
  | updateQueue =>
    obtain ⟨scene, -, rfl⟩ := updateQueue_cases taken
    rfl
  | coolDownElapsed =>
    obtain ⟨pending, -, rfl⟩ := coolDownElapsed_cases taken
    rfl
  | trackedRaycastUpdated raycast results =>
    obtain ⟨object, scene, -, -, rfl⟩ := trackedRaycastUpdated_cases taken
    rfl
  | pan gesture view =>
    rw [(pan_cases taken).same]
    rfl
  | rotate gesture =>
    rw [(rotate_reshapes taken).same]
    rfl
  | pinch gesture =>
    rw [(pinch_reshapes taken).same]
    rfl
  | tap hitTestResults =>
    cases tap_cases taken
    rfl
  | restartSessionTapped =>
    cases restartSessionTapped_cases taken
    rfl
  | rendererDidAdd isPlaneAnchor =>
    cases taken
    cases isPlaneAnchor <;> rfl
  | sessionDidFail isARError =>
    cases taken
    cases isARError <;> rfl
  | timerFired timer =>
    obtain ⟨status, fired, rfl⟩ := ARViewController.timerFired_cases taken
    simp [messagesAfter, fired]
  | viewDidAppear | viewWillDisappear | coachingOverlayDidRequestSessionReset
  | cameraDidChangeTrackingState | coachingOverlayWillActivate | coachingOverlayDidDeactivate
  | sessionWasInterrupted | rendererUpdateAtTime | rendererDidUpdate =>
    cases taken
    rfl

/-- The events that schedule or cancel a message of a type, or show it. -/
def Touches (screen : ARViewController) (messageType : MessageType) : Event → Prop
  | .viewDidAppear | .restartSessionTapped => messageType = .planeEstimation
  | .viewWillDisappear => True
  | .coachingOverlayDidRequestSessionReset => screen.restartPasses = true
  | .mainQueue _ =>
    match screen.dispatch.mainQueue with
    | .updateFocusSquare _ :: _ => messageType = .focusSquare
    | .surfaceDetected :: _ => messageType = .planeEstimation ∨ messageType = .contentPlacement
    | _ => False
  | .cameraDidChangeTrackingState _ => messageType = .trackingStateEscalation
  | .timerFired reference => ∃ timer ∈ screen.statusViewController.runLoop,
      timer.reference = reference ∧ some messageType = timer.block.slot
  | _ => False

section Messages

variable (sound : screen.statusViewController.Sound)

include sound

theorem sound_messagesOfClosure (view : SceneView) (closure : MainClosure) :
    (screen.messagesOfClosure view closure).Sound := by
  cases closure with
  | placeLoadedObject object =>
    simp only [messagesOfClosure]
    split
    · exact sound
    · exact sound.showMessage _ _
  | updateFocusSquare isObjectVisible =>
    simp only [messagesOfClosure, messagesOfFrame]
    split <;> split
    · exact sound.cancelScheduledMessage _
    · exact (sound.scheduleMessage _ _ _).cancelScheduledMessage _
    · exact sound
    · exact sound.scheduleMessage _ _ _
  | surfaceDetected =>
    simp only [messagesOfClosure]
    split
    · exact ((sound.cancelScheduledMessage _).showMessage _ _).scheduleMessage _ _ _
    · exact (sound.cancelScheduledMessage _).showMessage _ _
  | displayErrorMessage => exact sound

theorem sound_messagesAfter (event : Event) : (screen.messagesAfter event).Sound := by
  cases event with
  | viewDidAppear | restartSessionTapped => exact sound.scheduleMessage _ _ _
  | viewWillDisappear => exact sound.cancelAllScheduledMessages
  | addVirtualObject view meanwhile =>
    simp only [messagesAfter]
    split
    · exact sound.showMessage _ _
    · exact sound
  | mainQueue view =>
    simp only [messagesAfter]
    split
    · exact sound_messagesOfClosure sound view _
    · exact sound
  | coachingOverlayDidRequestSessionReset =>
    simp only [messagesAfter, restartExperience]
    split
    · exact sound.cancelAllScheduledMessages.scheduleMessage _ _ _
    · exact sound
  | cameraDidChangeTrackingState trackingState =>
    cases trackingState with
    | normal => exact (sound.showMessage _ _).cancelScheduledMessage _
    | notAvailable | limited => exact (sound.showMessage _ _).escalateFeedback _ _
  | timerFired timer =>
    simp only [messagesAfter]
    cases fired : screen.statusViewController.timerFired timer with
    | none => exact sound
    | some status => exact sound.timerFired fired
  | _ => exact sound

/-- Frames touch the hint to search only, and a detected surface the two hints about surfaces. -/
theorem live_untouchedByClosure (view : SceneView) {closure : MainClosure}
    {messageType : MessageType}
    (frame : ∀ isObjectVisible, closure = .updateFocusSquare isObjectVisible →
      messageType ≠ .focusSquare)
    (surface : closure = .surfaceDetected →
      messageType ≠ .planeEstimation ∧ messageType ≠ .contentPlacement) :
    (screen.messagesOfClosure view closure).live (some messageType) =
      screen.statusViewController.live (some messageType) := by
  cases closure with
  | placeLoadedObject object =>
    simp only [messagesOfClosure]
    split
    · rfl
    · exact sound.live_showMessage _ _ _
  | updateFocusSquare isObjectVisible =>
    have other : some messageType ≠ some .focusSquare := by simpa using frame isObjectVisible rfl
    have scheduled := sound.live_scheduleMessage "Спробуйте рухатися вліво і вправо" 5 .focusSquare
    simp only [messagesOfClosure, messagesOfFrame]
    split <;> split
    · rw [sound.live_cancelScheduledMessage, Function.update_of_ne other]
    · rw [(sound.scheduleMessage _ _ _).live_cancelScheduledMessage, Function.update_of_ne other,
        scheduled, Function.update_of_ne other]
    · rfl
    · rw [scheduled, Function.update_of_ne other]
  | surfaceDetected =>
    obtain ⟨notPlane, notContent⟩ := surface rfl
    have shown : ((screen.statusViewController.cancelScheduledMessage
        .planeEstimation).showMessage "Розпізнано поверхню" true).live (some messageType) =
          screen.statusViewController.live (some messageType) := by
      rw [(sound.cancelScheduledMessage _).live_showMessage, sound.live_cancelScheduledMessage,
        Function.update_of_ne (by simpa using notPlane)]
    simp only [messagesOfClosure]
    split
    · rw [((sound.cancelScheduledMessage _).showMessage _ _).live_scheduleMessage,
        Function.update_of_ne (by simpa using notContent), shown]
    · exact shown
  | displayErrorMessage => rfl

/-- What an event does not touch, it leaves as it is. -/
theorem live_untouched {event : Event} {messageType : MessageType}
    (untouched : ¬ screen.Touches messageType event) :
    (screen.messagesAfter event).live (some messageType) =
      screen.statusViewController.live (some messageType) := by
  cases event with
  | viewDidAppear | restartSessionTapped =>
    have other : messageType ≠ .planeEstimation := untouched
    have scheduled := sound.live_scheduleMessage
      "Знайдіть поверхню, щоб розмістити об'єкт" 7.5 .planeEstimation
    exact (congrFun scheduled _).trans (Function.update_of_ne (by simpa using other) ..)
  | viewWillDisappear => exact absurd trivial untouched
  | addVirtualObject view meanwhile =>
    simp only [messagesAfter]
    split
    · exact sound.live_showMessage _ _ _
    · rfl
  | mainQueue view =>
    simp only [Touches] at untouched
    simp only [messagesAfter]
    split
    next closure rest queue =>
      rw [queue] at untouched
      apply live_untouchedByClosure sound view
      · rintro isObjectVisible rfl
        exact untouched
      · rintro rfl
        exact not_or.mp untouched
    · rfl
  | coachingOverlayDidRequestSessionReset =>
    have refused : ¬ (screen.isRestartAvailable && !screen.scene.loader.isLoading) = true :=
      untouched
    simp only [messagesAfter, restartExperience, if_neg refused]
  | cameraDidChangeTrackingState trackingState =>
    have other : some messageType ≠ some .trackingStateEscalation := by
      simpa [Touches] using untouched
    have shown := sound.live_showMessage trackingState.presentationString true messageType
    have soundShown := sound.showMessage trackingState.presentationString true
    cases trackingState with
    | normal =>
      have cancelled := soundShown.live_cancelScheduledMessage .trackingStateEscalation
      exact (congrFun cancelled _).trans ((Function.update_of_ne other ..).trans shown)
    | notAvailable =>
      have escalated := soundShown.live_escalateFeedback .notAvailable 3
      exact (congrFun escalated _).trans ((Function.update_of_ne other ..).trans shown)
    | limited reason =>
      have escalated := soundShown.live_escalateFeedback (.limited reason) 3
      exact (congrFun escalated _).trans ((Function.update_of_ne other ..).trans shown)
  | timerFired reference =>
    simp only [messagesAfter]
    cases fired : screen.statusViewController.timerFired reference with
    | none => rfl
    | some status =>
      obtain ⟨timer, member, rfl, -⟩ := StatusViewController.timerFired_cases fired
      rw [Option.getD_some, sound.live_timerFired member fired, if_neg]
      exact fun own => untouched ⟨timer, member, rfl, own⟩
  | _ => rfl

/-- The hint to search after a frame. -/
theorem live_messagesOfFrame (isObjectVisible : Bool) (view : SceneView) :
    (screen.messagesOfFrame isObjectVisible view).live (some .focusSquare) =
      if view.surface.isSome then none
      else if isObjectVisible || !screen.scene.loader.loadedObjects.isEmpty then
        screen.statusViewController.live (some .focusSquare)
      else some ⟨screen.statusViewController.nextTimer, 5,
        .showMessage "Спробуйте рухатися вліво і вправо" .focusSquare⟩ := by
  have scheduled := sound.live_scheduleMessage "Спробуйте рухатися вліво і вправо" 5 .focusSquare
  simp only [messagesOfFrame]
  cases view.surface.isSome with
  | true =>
    simp only [if_true]
    split
    · rw [sound.live_cancelScheduledMessage, Function.update_self]
    · rw [(sound.scheduleMessage _ _ _).live_cancelScheduledMessage, Function.update_self]
  | false =>
    simp only [Bool.false_eq_true, if_false]
    split
    · rfl
    · rw [scheduled, Function.update_self]

/-- When a surface has been detected, the hint to look for one is no longer scheduled. -/
theorem live_surfaceDetected (view : SceneView) :
    (screen.messagesOfClosure view .surfaceDetected).live (some .planeEstimation) = none ∧
      (screen.scene.loader.loadedObjects ≠ [] →
        (screen.messagesOfClosure view .surfaceDetected).live (some .contentPlacement) =
          screen.statusViewController.live (some .contentPlacement)) := by
  have soundShown := (sound.cancelScheduledMessage .planeEstimation).showMessage
    "Розпізнано поверхню" true
  have shown : ((screen.statusViewController.cancelScheduledMessage .planeEstimation).showMessage
      "Розпізнано поверхню" true).live (some .planeEstimation) = none := by
    rw [(sound.cancelScheduledMessage _).live_showMessage, sound.live_cancelScheduledMessage,
      Function.update_self]
  simp only [messagesOfClosure]
  split
  next empty =>
    constructor
    · rw [soundShown.live_scheduleMessage, Function.update_of_ne (by simp), shown]
    · exact fun loaded => absurd (List.isEmpty_iff.mp empty) loaded
  next loaded =>
    constructor
    · exact shown
    · intro _
      rw [(sound.cancelScheduledMessage _).live_showMessage, sound.live_cancelScheduledMessage,
        Function.update_of_ne (by simp)]

end Messages

theorem sound_messages_step (screen : ARViewController) (event : Event) (next : ARViewController)
    (sound : screen.statusViewController.Sound) (taken : step screen event = .ok next) :
    next.statusViewController.Sound := by
  rw [step_messages taken]
  exact sound_messagesAfter sound event

end ARViewController

end FurnitureAR
