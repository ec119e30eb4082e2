import FurnitureAR.Library.Observation
import FurnitureAR.ScheduledMessages
import Mathlib.Tactic.Linarith

/-!
# Status timers act for their own message

The status view controller by itself, with a clock: its methods are called in any order, and a
timer that has not been invalidated fires at some moment after it is due.
-/
namespace FurnitureAR

open Execution TimerSlots

namespace StatusViewController

/-- What a change of the tracking state does to the messages. -/
def cameraDidChangeTrackingState (status : StatusViewController) (trackingState : TrackingState) :
    StatusViewController :=
  let status := status.showTrackingQualityInfo trackingState true
  match trackingState with
  | .notAvailable | .limited _ => status.escalateFeedback trackingState 3
  | .normal => status.cancelScheduledMessage .trackingStateEscalation

end StatusViewController

theorem ARViewController.messages_cameraDidChangeTrackingState (screen : ARViewController)
    (trackingState : TrackingState) :
    (screen.cameraDidChangeTrackingState trackingState).statusViewController =
      screen.statusViewController.cameraDidChangeTrackingState trackingState := by
  cases trackingState <;> rfl

/-- The calls of the methods, the timers that fire, and the time that goes by. -/
inductive StatusEvent where
  | showMessage (text : String) (autoHide : Bool)
  | scheduleMessage (text : String) (seconds : ℚ) (messageType : MessageType)
  | cancelScheduledMessage (messageType : MessageType)
  | cancelAllScheduledMessages
  | cameraDidChangeTrackingState (trackingState : TrackingState)
  | timerFired (reference : TimerRef)
  | elapse (duration : ℚ)

namespace StatusViewController

def perform (status : StatusViewController) : StatusEvent → Option StatusViewController
  | .showMessage text autoHide => some (status.showMessage text autoHide)
  | .scheduleMessage text seconds messageType =>
    some (status.scheduleMessage text seconds messageType)
  | .cancelScheduledMessage messageType => some (status.cancelScheduledMessage messageType)
  | .cancelAllScheduledMessages => some status.cancelAllScheduledMessages
  | .cameraDidChangeTrackingState trackingState =>
    some (status.cameraDidChangeTrackingState trackingState)
  | .timerFired reference => status.timerFired reference
  | .elapse _ => some status

end StatusViewController

/-- The view controller with a clock, and the moments at which its timers have been scheduled. -/
structure TimedStatus where
  status : StatusViewController := {}
  now : ℚ := 0
  scheduledAt : TimerRef → ℚ := fun _ => 0

namespace TimedStatus

def due (timed : TimedStatus) (timer : Timer) : ℚ :=
  timed.scheduledAt timer.reference + timer.interval

/-- Timers do not fire before they are due, and only `escalateFeedback` schedules escalations. -/
def mayHappen (timed : TimedStatus) : StatusEvent → Bool
  | .timerFired reference => timed.status.runLoop.all fun timer =>
    timer.reference ≠ reference || timed.due timer ≤ timed.now
  | .scheduleMessage _ _ messageType => messageType ≠ .trackingStateEscalation
  | .elapse duration => 0 ≤ duration
  | _ => true

def passes : StatusEvent → ℚ
  | .elapse duration => duration
  | _ => 0

def step (timed : TimedStatus) (event : StatusEvent) : Except Halt TimedStatus :=
  if timed.mayHappen event then
    match timed.status.perform event with
    | some status => .ok {
        status := status
        now := timed.now + passes event
        scheduledAt := fun reference =>
          if reference < timed.status.nextTimer then timed.scheduledAt reference
          else timed.now }
    | none => .error .notDelivered
  else .error .notDelivered

end TimedStatus

/-! ## What has been shown, reported and cancelled -/

/-- The text that a timer shows when it fires, and whether it is to be hidden again. -/
def TimerBlock.shows : TimerBlock → Option (String × Bool)
  | .hideMessage => none
  | .showMessage text _ => some (text, true)
  | .escalate trackingState => some (trackingState.escalation, false)

/-- The call of `showMessage` that an event makes. -/
def StatusViewController.shows (status : StatusViewController) :
    StatusEvent → Option (String × Bool)
  | .showMessage text autoHide => some (text, autoHide)
  | .cameraDidChangeTrackingState trackingState => some (trackingState.presentationString, true)
  | .timerFired reference =>
    (status.runLoop.find? fun timer => timer.reference = reference).bind (·.block.shows)
  | _ => none

/-- The types of messages that a call cancels. -/
def StatusEvent.Cancels (messageType : MessageType) : StatusEvent → Prop
  | .cancelScheduledMessage other => messageType = other
  | .scheduleMessage _ _ other => messageType = other
  | .cancelAllScheduledMessages => True
  | .cameraDidChangeTrackingState _ => messageType = .trackingStateEscalation
  | _ => False

instance (messageType : MessageType) : DecidablePred (StatusEvent.Cancels messageType) := by
  intro event
  cases event <;> unfold StatusEvent.Cancels <;> infer_instance

/-- A message that has been shown, and the number that its hide timer has got if it has one. -/
structure ShownMessage where
  text : String
  autoHide : Bool
  moment : ℚ
  timer : TimerRef

/-- Timers with smaller numbers than `cancelled` were scheduled before the last cancel. -/
structure StatusRecord where
  shown : Option ShownMessage := none
  reported : Option TrackingState := none
  cancelled : MessageType → TimerRef := fun _ => 0

namespace TimedStatus

def observe (record : StatusRecord) (timed : TimedStatus) (event : StatusEvent)
    (_ : TimedStatus) : StatusRecord where
  shown :=
    match timed.status.shows event with
    | some (text, autoHide) => some ⟨text, autoHide, timed.now, timed.status.nextTimer⟩
    | none => record.shown
  reported :=
    match event with
    | .cameraDidChangeTrackingState trackingState => some trackingState
    | _ => record.reported
  cancelled messageType :=
    if event.Cancels messageType then timed.status.nextTimer else record.cancelled messageType

abbrev StatusHistory := Observed TimedStatus StatusRecord

end TimedStatus

namespace StatusViewController

/-- The panel shows this text, and is visible. -/
def Displays (status : StatusViewController) (text : String) : Prop :=
  status.messageText = text ∧ status.isPanelHidden = false ∧ status.panelAlpha = 1

end StatusViewController

/-- Every timer that may still fire is the one that is filed for its message and was scheduled
since the last cancel, and shows what it is for: an escalation the latest tracking state, the hide
timer the end of the latest message. -/
structure TimedStatus.OwnMessages (history : TimedStatus.StatusHistory) : Prop where
  filed : ∀ timer ∈ history.state.status.runLoop, ∀ messageType,
    timer.block.slot = some messageType →
      history.state.status.timers messageType = some timer.reference
  single : ∀ timer ∈ history.state.status.runLoop, ∀ other ∈ history.state.status.runLoop,
    timer.block.slot = other.block.slot → timer = other
  shown : ∀ timer ∈ history.state.status.runLoop, ∀ text messageType next,
    timer.block = .showMessage text messageType →
      history.state.step (.timerFired timer.reference) = .ok next →
        next.status.messageText = text ∧ history.record.cancelled messageType ≤ timer.reference
  escalated : ∀ timer ∈ history.state.status.runLoop, ∀ next,
    timer.block.slot = some .trackingStateEscalation →
      history.state.step (.timerFired timer.reference) = .ok next →
        history.record.cancelled .trackingStateEscalation ≤ timer.reference ∧
          ∃ trackingState, next.status.messageText = trackingState.escalation ∧
            history.record.reported = some trackingState ∧ trackingState ≠ .normal
  hidden : ∀ timer ∈ history.state.status.runLoop, timer.block = .hideMessage →
    history.state.status.messageHideTimer = some timer.reference ∧
      ∃ message, history.record.shown = some message ∧ message.autoHide = true ∧
        message.timer = timer.reference ∧
        history.state.due timer = message.moment + StatusViewController.displayDuration
  stays : ∀ message, history.record.shown = some message →
    (message.autoHide = true →
      history.state.now < message.moment + StatusViewController.displayDuration) →
      history.state.status.Displays message.text

/-! ## What one event does -/

namespace StatusViewController

variable {status next : StatusViewController}

/-- What is seen of the panel. -/
def panel (status : StatusViewController) : String × Bool × Nat :=
  (status.messageText, status.isPanelHidden, status.panelAlpha)

theorem panel_invalidate (timer : Option TimerRef) :
    (status.invalidate timer).panel = status.panel := by
  rw [invalidate_eq]
  rfl

theorem panel_cancelScheduledMessage (messageType : MessageType) :
    (status.cancelScheduledMessage messageType).panel = status.panel :=
  panel_invalidate (status.timers messageType)

theorem panel_cancelAllScheduledMessages :
    status.cancelAllScheduledMessages.panel = status.panel := by
  have kept : ∀ (types : List MessageType) (status : StatusViewController),
      (types.foldl StatusViewController.cancelScheduledMessage status).panel = status.panel := by
    intro types
    induction types with
    | nil => exact fun _ => rfl
    | cons first types ih =>
      intro status
      rw [List.foldl_cons, ih, panel_cancelScheduledMessage]
  exact kept _ status

theorem panel_scheduleMessage (text : String) (seconds : ℚ) (messageType : MessageType) :
    (status.scheduleMessage text seconds messageType).panel = status.panel :=
  panel_cancelScheduledMessage messageType

theorem panel_escalateFeedback (trackingState : TrackingState) (seconds : ℚ) :
    (status.escalateFeedback trackingState seconds).panel = status.panel :=
  panel_cancelScheduledMessage .trackingStateEscalation

theorem panel_showMessage (text : String) (autoHide : Bool) :
    (status.showMessage text autoHide).panel = (text, false, 1) := by
  cases autoHide <;> rfl

theorem displays_iff {text : String} : status.Displays text ↔ status.panel = (text, false, 1) := by
  simp [Displays, panel]

theorem nextTimer_invalidate (timer : Option TimerRef) :
    (status.invalidate timer).nextTimer = status.nextTimer := by
  rw [invalidate_eq]

theorem nextTimer_showMessage (text : String) :
    (status.showMessage text true).nextTimer = status.nextTimer + 1 := by
  simp only [showMessage, if_true, scheduledTimer, setMessageHidden, nextTimer_invalidate]

/-- The message that a change of the tracking state shows is hidden again, and an earlier
escalation is given up. -/
theorem Sound.live_cameraDidChangeTrackingState (sound : status.Sound)
    (trackingState : TrackingState) :
    (status.cameraDidChangeTrackingState trackingState).live =
      Function.update
        (Function.update status.live none
          (some ⟨status.nextTimer, displayDuration, .hideMessage⟩))
        (some .trackingStateEscalation)
        (if trackingState = .normal then none
          else some ⟨status.nextTimer + 1, 3, .escalate trackingState⟩) := by
  have shown := sound.live_shown trackingState.presentationString true
  have soundShown := sound.showMessage trackingState.presentationString true
  rw [if_pos rfl] at shown
  cases trackingState with
  | normal =>
    rw [if_pos rfl, ← shown]
    exact soundShown.live_cancelScheduledMessage .trackingStateEscalation
  | notAvailable =>
    rw [if_neg (by simp), ← shown,
      ← nextTimer_showMessage TrackingState.notAvailable.presentationString]
    exact soundShown.live_escalateFeedback .notAvailable 3
  | limited reason =>
    rw [if_neg (by simp), ← shown,
      ← nextTimer_showMessage (TrackingState.limited reason).presentationString]
    exact soundShown.live_escalateFeedback (.limited reason) 3

theorem Sound.shows_timerFired (sound : status.Sound) {timer : Timer}
    (member : timer ∈ status.runLoop) :
    status.shows (.timerFired timer.reference) = timer.block.shows := by
  cases found : status.runLoop.find? fun other => other.reference = timer.reference with
  | none =>
    have absent := List.find?_eq_none.mp found timer member
    simp at absent
  | some other =>
    have same : other.reference = timer.reference := by simpa using List.find?_some found
    rw [← Slots.Sound.same sound (List.mem_of_find?_eq_some found) member same] at found ⊢
    simp only [shows, found, Option.bind_some]

theorem Sound.perform {event : StatusEvent} (sound : status.Sound)
    (taken : status.perform event = some next) : next.Sound := by
  cases event with
  | showMessage text autoHide =>
    cases taken
    exact sound.showMessage text autoHide
  | scheduleMessage text seconds messageType =>
    cases taken
    exact sound.scheduleMessage text seconds messageType
  | cancelScheduledMessage messageType =>
    cases taken
    exact sound.cancelScheduledMessage messageType
  | cancelAllScheduledMessages =>
    cases taken
    exact sound.cancelAllScheduledMessages
  | cameraDidChangeTrackingState trackingState =>
    cases taken
    have shown := sound.showMessage trackingState.presentationString true
    cases trackingState with
    | normal => exact shown.cancelScheduledMessage _
    | notAvailable | limited => exact shown.escalateFeedback _ _
  | timerFired reference => exact sound.timerFired taken
  | elapse duration =>
    cases taken
    exact sound

/-- The hide timer after an event is that of the message that the event shows, or the one from
before. -/
theorem Sound.hiding_perform {event : StatusEvent} (sound : status.Sound)
    (taken : status.perform event = some next) {timer : Timer}
    (live : next.live none = some timer) :
    status.live none = some timer ∧ status.shows event = none ∨
      ∃ text, status.shows event = some (text, true) ∧
        timer = ⟨status.nextTimer, displayDuration, .hideMessage⟩ := by
  cases event with
  | showMessage text autoHide =>
    cases taken
    rw [sound.live_shown, Function.update_self] at live
    cases autoHide with
    | true => exact .inr ⟨text, rfl, (Option.some.inj live).symm⟩
    | false => cases live
  | scheduleMessage text seconds messageType =>
    cases taken
    rw [sound.live_scheduleMessage, Function.update_of_ne (by simp)] at live
    exact .inl ⟨live, rfl⟩
  | cancelScheduledMessage messageType =>
    cases taken
    rw [sound.live_cancelScheduledMessage, Function.update_of_ne (by simp)] at live
    exact .inl ⟨live, rfl⟩
  | cancelAllScheduledMessages =>
    cases taken
    rw [sound.live_hiding_cancelAllScheduledMessages] at live
    exact .inl ⟨live, rfl⟩
  | cameraDidChangeTrackingState trackingState =>
    cases taken
    rw [sound.live_cameraDidChangeTrackingState, Function.update_of_ne (by simp),
      Function.update_self] at live
    exact .inr ⟨_, rfl, (Option.some.inj live).symm⟩
  | timerFired reference =>
    obtain ⟨fired, member, rfl, rfl⟩ := timerFired_cases taken
    rw [sound.shows_timerFired member]
    have spent := sound.spent fired.reference
    cases block : fired.block with
    | hideMessage =>
      simp only [block, runBlock] at live
      have gone := congrFun (sound.live_spent member) none
      rw [block, TimerBlock.slot, Function.update_self] at gone
      cases live.symm.trans gone
    | showMessage text messageType =>
      simp only [block, runBlock] at live
      rw [spent.live_shown, Function.update_self, nextTimer_invalidate] at live
      exact .inr ⟨text, rfl, (Option.some.inj live).symm⟩
    -- An escalation stays until the next message.
    | escalate trackingState =>
      simp only [block, runBlock] at live
      rw [(spent.cancelScheduledMessage _).live_shown, Function.update_self] at live
      cases live
  | elapse duration =>
    cases taken
    exact .inl ⟨live, rfl⟩

/-- A message that is scheduled after an event was scheduled by the event, or before and has not
been cancelled. Only changes of the tracking state schedule escalations. -/
theorem Sound.messages_perform {event : StatusEvent} (sound : status.Sound)
    (taken : status.perform event = some next) {messageType : MessageType} {timer : Timer}
    (live : next.live (some messageType) = some timer) :
    status.live (some messageType) = some timer ∧ ¬ event.Cancels messageType ∨
      status.nextTimer ≤ timer.reference ∧
        ((∃ text seconds, event = .scheduleMessage text seconds messageType) ∨
          ∃ trackingState, event = .cameraDidChangeTrackingState trackingState ∧
            trackingState ≠ .normal ∧ timer.block = .escalate trackingState) := by
  cases event with
  | showMessage text autoHide =>
    cases taken
    rw [sound.live_showMessage] at live
    exact .inl ⟨live, id⟩
  | scheduleMessage text seconds other =>
    cases taken
    rw [sound.live_scheduleMessage, Function.update_apply] at live
    split at live
    next same =>
      cases same
      cases live
      exact .inr ⟨Nat.le_refl _, .inl ⟨text, seconds, rfl⟩⟩
    next different =>
      exact .inl ⟨live, fun same => different (congrArg some same)⟩
  | cancelScheduledMessage other =>
    cases taken
    rw [sound.live_cancelScheduledMessage, Function.update_apply] at live
    split at live
    · cases live
    next different =>
      exact .inl ⟨live, fun same => different (congrArg some same)⟩
  | cancelAllScheduledMessages =>
    cases taken
    rw [sound.live_cancelAllScheduledMessages] at live
    cases live
  | cameraDidChangeTrackingState trackingState =>
    cases taken
    rw [sound.live_cameraDidChangeTrackingState, Function.update_apply] at live
    split at live
    next same =>
      cases same
      split at live
      · cases live
      next lost =>
        cases live
        exact .inr ⟨Nat.le_succ _, .inr ⟨trackingState, rfl, lost, rfl⟩⟩
    next different =>
      rw [Function.update_of_ne (by simp)] at live
      exact .inl ⟨live, fun same => different (congrArg some same)⟩
  | timerFired reference =>
    obtain ⟨fired, member, rfl, -⟩ := timerFired_cases taken
    rw [sound.live_timerFired member taken] at live
    split at live
    · cases live
    · exact .inl ⟨live, id⟩
  | elapse duration =>
    cases taken
    exact .inl ⟨live, id⟩

/-- The panel changes with the message that is shown, and when the hide timer fires. -/
theorem Sound.panel_perform {event : StatusEvent} (sound : status.Sound)
    (taken : status.perform event = some next) :
    (∃ text autoHide, status.shows event = some (text, autoHide) ∧ next.Displays text) ∨
      status.shows event = none ∧ (next.panel = status.panel ∨
        next.messageText = status.messageText ∧
          ∃ timer, status.live none = some timer ∧ event = .timerFired timer.reference) := by
  cases event with
  | showMessage text autoHide =>
    cases taken
    exact .inl ⟨text, autoHide, rfl, displays_iff.mpr (panel_showMessage text autoHide)⟩
  | scheduleMessage text seconds messageType =>
    cases taken
    exact .inr ⟨rfl, .inl (panel_scheduleMessage text seconds messageType)⟩
  | cancelScheduledMessage messageType =>
    cases taken
    exact .inr ⟨rfl, .inl (panel_cancelScheduledMessage messageType)⟩
  | cancelAllScheduledMessages =>
    cases taken
    exact .inr ⟨rfl, .inl panel_cancelAllScheduledMessages⟩
  | cameraDidChangeTrackingState trackingState =>
    cases taken
    refine .inl ⟨trackingState.presentationString, true, rfl, displays_iff.mpr ?_⟩
    have shown := @panel_showMessage status trackingState.presentationString true
    rw [← shown]
    cases trackingState with
    | normal => exact panel_cancelScheduledMessage _
    | notAvailable | limited => exact panel_escalateFeedback _ _
  | timerFired reference =>
    obtain ⟨timer, member, rfl, rfl⟩ := timerFired_cases taken
    rw [sound.shows_timerFired member]
    cases block : timer.block with
    | hideMessage =>
      refine .inr ⟨rfl, .inr ⟨congrArg Prod.fst (panel_invalidate _), timer, ?_, rfl⟩⟩
      exact sound.live_iff.mpr ⟨member, congrArg TimerBlock.slot block⟩
    | showMessage text messageType =>
      exact .inl ⟨text, true, rfl, displays_iff.mpr (panel_showMessage text true)⟩
    | escalate trackingState =>
      exact .inl ⟨trackingState.escalation, false, rfl,
        displays_iff.mpr (panel_showMessage trackingState.escalation false)⟩
  | elapse duration =>
    cases taken
    exact .inr ⟨rfl, .inl rfl⟩

end StatusViewController

/-! ## Whole runs -/

namespace TimedStatus

open StatusViewController (displayDuration)

/-- The record says where every timer that may still fire comes from, and how long the message
that it remembers is displayed. -/
structure Attributed (history : StatusHistory) : Prop where
  sound : history.state.status.Sound
  since : ∀ messageType timer, history.state.status.live (some messageType) = some timer →
    history.record.cancelled messageType ≤ timer.reference
  escalation : ∀ timer,
    history.state.status.live (some .trackingStateEscalation) = some timer →
      ∃ trackingState, timer.block = .escalate trackingState ∧
        history.record.reported = some trackingState ∧ trackingState ≠ .normal
  hides : ∀ timer, history.state.status.live none = some timer →
    ∃ message, history.record.shown = some message ∧ message.autoHide = true ∧
      message.timer = timer.reference ∧
      history.state.due timer = message.moment + displayDuration
  displayed : ∀ message, history.record.shown = some message →
    history.state.status.Displays message.text ∨
      message.autoHide = true ∧ message.moment + displayDuration ≤ history.state.now

variable {timed next : TimedStatus} {record : StatusRecord} {event : StatusEvent}

theorem step_cases (taken : timed.step event = .ok next) :
    timed.mayHappen event = true ∧ timed.status.perform event = some next.status ∧
      next.now = timed.now + passes event ∧
      ∀ reference, next.scheduledAt reference =
        if reference < timed.status.nextTimer then timed.scheduledAt reference
        else timed.now := by
  unfold step at taken
  split at taken
  next allowed =>
    split at taken
    next status performed =>
      cases taken
      exact ⟨allowed, performed, rfl, fun _ => rfl⟩
    · cases taken
  · cases taken

/-- Time does not go back. -/
theorem passes_nonneg (allowed : timed.mayHappen event = true) : 0 ≤ passes event := by
  cases event with
  | elapse duration => simpa [mayHappen, passes] using allowed
  | _ => exact le_refl 0

theorem due_kept (taken : timed.step event = .ok next) {timer : Timer}
    (old : timer.reference < timed.status.nextTimer) : next.due timer = timed.due timer := by
  rw [due, (step_cases taken).2.2.2, if_pos old]
  rfl

theorem Attributed.numbered (attributed : Attributed ⟨timed, record⟩) {key : Option MessageType}
    {timer : Timer} (live : timed.status.live key = some timer) :
    timer.reference < timed.status.nextTimer :=
  Slots.Sound.numbered attributed.sound timer (attributed.sound.live_iff.mp live).1

theorem Attributed.since_step (attributed : Attributed ⟨timed, record⟩)
    (taken : timed.step event = .ok next) (messageType : MessageType) (timer : Timer)
    (live : next.status.live (some messageType) = some timer) :
    (observe record timed event next).cancelled messageType ≤ timer.reference := by
  obtain ⟨-, performed, -⟩ := step_cases taken
  simp only [observe]
  rcases attributed.sound.messages_perform performed live with ⟨before, kept⟩ | ⟨new, -⟩
  · rw [if_neg kept]
    exact attributed.since messageType timer before
  · split
    · exact new
    next kept =>
      -- A new timer for a message takes the place of the one that the same call cancels.
      rcases attributed.sound.messages_perform performed live with
        ⟨before, -⟩ | ⟨-, ⟨text, seconds, rfl⟩ | ⟨trackingState, rfl, -, escalates⟩⟩
      · exact attributed.since messageType timer before
      · exact absurd rfl kept
      · have own := ((attributed.sound.perform performed).live_iff.mp live).2
        rw [escalates] at own
        cases own
        exact absurd rfl kept

theorem Attributed.escalation_step (attributed : Attributed ⟨timed, record⟩)
    (taken : timed.step event = .ok next) (timer : Timer)
    (live : next.status.live (some .trackingStateEscalation) = some timer) :
    ∃ trackingState, timer.block = .escalate trackingState ∧
      (observe record timed event next).reported = some trackingState ∧
        trackingState ≠ .normal := by
  obtain ⟨allowed, performed, -⟩ := step_cases taken
  rcases attributed.sound.messages_perform performed live with
    ⟨before, kept⟩ | ⟨-, ⟨text, seconds, rfl⟩ | ⟨trackingState, rfl, lost, escalates⟩⟩
  · obtain ⟨trackingState, escalates, reported, lost⟩ := attributed.escalation timer before
    refine ⟨trackingState, escalates, ?_, lost⟩
    rw [← show record.reported = _ from reported]
    cases event with
    | cameraDidChangeTrackingState other => exact absurd rfl kept
    | _ => rfl
  · simp [mayHappen] at allowed
  · exact ⟨trackingState, escalates, rfl, lost⟩

theorem Attributed.hiding_step (attributed : Attributed ⟨timed, record⟩)
    (taken : timed.step event = .ok next) (timer : Timer)
    (live : next.status.live none = some timer) :
    ∃ message, (observe record timed event next).shown = some message ∧
      message.autoHide = true ∧ message.timer = timer.reference ∧
      next.due timer = message.moment + displayDuration := by
  obtain ⟨-, performed, -, scheduledAt⟩ := step_cases taken
  rcases attributed.sound.hiding_perform performed live with ⟨before, quiet⟩ | ⟨text, shows, rfl⟩
  · obtain ⟨message, shown, autoHide, same, due⟩ := attributed.hides timer before
    refine ⟨message, ?_, autoHide, same, ?_⟩
    · simp only [observe, quiet]
      exact shown
    · rw [due_kept taken (attributed.numbered before)]
      exact due
  · refine ⟨⟨text, true, timed.now, timed.status.nextTimer⟩, ?_, rfl, rfl, ?_⟩
    · simp only [observe, shows]
    · rw [due, scheduledAt, if_neg (Nat.lt_irrefl _)]

theorem Attributed.displayed_step (attributed : Attributed ⟨timed, record⟩)
    (taken : timed.step event = .ok next) (message : ShownMessage)
    (shown : (observe record timed event next).shown = some message) :
    next.status.Displays message.text ∨
      message.autoHide = true ∧ message.moment + displayDuration ≤ next.now := by
  obtain ⟨allowed, performed, now, -⟩ := step_cases taken
  have later := passes_nonneg allowed
  rcases attributed.sound.panel_perform performed with
    ⟨text, autoHide, shows, displays⟩ | ⟨quiet, same⟩
  · simp only [observe, shows, Option.some.injEq] at shown
    subst shown
    exact .inl displays
  · simp only [observe, quiet] at shown
    rcases attributed.displayed message shown with displays | ⟨autoHide, passed⟩
    · rcases same with same | ⟨-, timer, live, rfl⟩
      · rw [StatusViewController.displays_iff] at displays ⊢
        exact .inl (same.trans displays)
      -- The hide timer fires, so it is due.
      · obtain ⟨hidden, also, autoHide, -, due⟩ := attributed.hides timer live
        cases Option.some.inj (also.symm.trans shown)
        refine .inr ⟨autoHide, ?_⟩
        have waited := List.all_eq_true.mp allowed timer (attributed.sound.live_iff.mp live).1
        simp only [ne_eq, not_true_eq_false, decide_false, Bool.false_or, decide_eq_true_eq]
          at waited
        have isDue : timed.due timer = message.moment + displayDuration := due
        linarith
    · refine .inr ⟨autoHide, ?_⟩
      have before : message.moment + displayDuration ≤ timed.now := passed
      linarith

theorem Attributed.step (attributed : Attributed ⟨timed, record⟩)
    (taken : timed.step event = .ok next) :
    Attributed ⟨next, observe record timed event next⟩ where
  sound := attributed.sound.perform (step_cases taken).2.1
  since := attributed.since_step taken
  escalation := attributed.escalation_step taken
  hides := attributed.hiding_step taken
  displayed := attributed.displayed_step taken

theorem attributed_initial : Attributed ⟨{}, {}⟩ where
  sound := StatusViewController.sound_initial
  since messageType timer live := by cases live
  escalation timer live := by cases live
  hides timer live := by cases live
  displayed message shown := by cases shown

/-- A timer that fires shows the message of its block. -/
theorem Attributed.text_fired (attributed : Attributed ⟨timed, record⟩) {timer : Timer}
    (member : timer ∈ timed.status.runLoop) {text : String} {autoHide : Bool}
    (shows : timer.block.shows = some (text, autoHide))
    (taken : timed.step (.timerFired timer.reference) = .ok next) :
    next.status.messageText = text := by
  rw [← attributed.sound.shows_timerFired member] at shows
  rcases attributed.sound.panel_perform (step_cases taken).2.1 with
    ⟨shown, hides, also, displays⟩ | ⟨quiet, -⟩
  · cases also.symm.trans shows
    exact displays.1
  · cases quiet.symm.trans shows

theorem Attributed.ownMessages (attributed : Attributed ⟨timed, record⟩) :
    OwnMessages ⟨timed, record⟩ where
  filed timer member messageType own :=
    (Slots.Sound.filed attributed.sound timer member (some messageType)).mpr own
  single timer member other also same := Slots.Sound.eq_of_slot attributed.sound member also same
  shown timer member text messageType next block taken := by
    refine ⟨attributed.text_fired member (by rw [block]; rfl) taken, ?_⟩
    apply attributed.since messageType timer
    exact attributed.sound.live_iff.mpr ⟨member, by rw [block]; rfl⟩
  escalated timer member next own taken := by
    have live := attributed.sound.live_iff.mpr ⟨member, own⟩
    obtain ⟨trackingState, block, reported, lost⟩ := attributed.escalation timer live
    refine ⟨attributed.since _ timer live, trackingState, ?_, reported, lost⟩
    exact attributed.text_fired member (by rw [block]; rfl) taken
  hidden timer member block := by
    have own : timer.block.slot = none := by rw [block]; rfl
    refine ⟨(Slots.Sound.filed attributed.sound timer member none).mpr own, ?_⟩
    exact attributed.hides timer (attributed.sound.live_iff.mpr ⟨member, own⟩)
  stays message shown early := by
    rcases attributed.displayed message shown with displays | ⟨autoHide, passed⟩
    · exact displays
    · exact absurd passed (not_le_of_gt (early autoHide))

/-- Whatever is called in whichever order, and whenever the timers fire, they act for their own
message only. -/
theorem timers_own_messages (events : List StatusEvent) :
    Always (observing step observe) OwnMessages ⟨{}, {}⟩ events := by
  have always : Always (observing step observe) Attributed ⟨{}, {}⟩ events :=
    always_observing_of_invariant (fun _ _ _ _ attributed done => attributed.step done)
      attributed_initial events
  exact always.mono fun history attributed => attributed.ownMessages

/-- The surface has been found just before the hint to look for one would be shown. -/
example : (run (observing step observe) ⟨{}, {}⟩
    [.scheduleMessage "Знайдіть поверхню, щоб розмістити об'єкт" 7.5 .planeEstimation,
      .elapse 7, .cancelScheduledMessage .planeEstimation, .showMessage "Розпізнано поверхню" true,
      .elapse 6, .timerFired 1]).toOption.map (fun history =>
        (history.state.status.panel, history.state.status.runLoop)) =
    some (("Розпізнано поверхню", false, 0), []) := by
  decide +kernel

end TimedStatus

end FurnitureAR
