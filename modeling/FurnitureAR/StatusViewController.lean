import FurnitureAR.ARKit

/-!
# Status messages

The message panel with its timers. A timer stays in the run loop until it fires or is
invalidated; the view controller remembers timers by reference and does not always forget
the ones that have fired.
-/
namespace FurnitureAR

inductive MessageType where
  | trackingStateEscalation
  | planeEstimation
  | contentPlacement
  | focusSquare
  deriving DecidableEq

def MessageType.all : List MessageType :=
  [.trackingStateEscalation, .planeEstimation, .contentPlacement, .focusSquare]

abbrev TimerRef := Nat

/-- The closure that a timer runs when it fires. -/
inductive TimerBlock where
  | hideMessage
  | showMessage (text : String) (messageType : MessageType)
  | escalate (trackingState : TrackingState)
  deriving DecidableEq

structure Timer where
  reference : TimerRef
  interval : ℚ
  block : TimerBlock
  deriving DecidableEq

namespace TrackingState

def presentationString : TrackingState → String
  | .notAvailable => "Відслідковування недоступне"
  | .normal => "Відслідковування в нормальному режимі"
  | .limited .excessiveMotion => "Відслідковування обмежене"
  | .limited .insufficientFeatures => "Відслідковування обмежене\nМало деталей"
  | .limited .initializing => "Ініціалізація"
  | .limited .relocalizing => "Відновлення після переревання"

def recommendation : TrackingState → Option String
  | .limited .excessiveMotion => some "Спробуйте сповільнити ваші рухи, щоб перезапустити сесію"
  | .limited .insufficientFeatures =>
    some "Спробуйте фокусуватися на плоскій поверхні, або перезапустіть сесію"
  | .limited .relocalizing =>
    some "Поверніться на поверхню з якої ви перемістилися, або перезапустіть сесію"
  | _ => none

/-- The text of an escalated message. -/
def escalation (trackingState : TrackingState) : String :=
  match trackingState.recommendation with
  | some recommendation => trackingState.presentationString ++ ": " ++ recommendation
  | none => trackingState.presentationString

end TrackingState

structure StatusViewController where
  messageText : String := "Tracking status"
  isPanelHidden : Bool := true
  panelAlpha : Nat := 1
  messageHideTimer : Option TimerRef := none
  timers : MessageType → Option TimerRef := fun _ => none
  runLoop : List Timer := []
  nextTimer : TimerRef := 0

namespace StatusViewController

def displayDuration : ℚ := 6

/-- `Timer.scheduledTimer(withTimeInterval:repeats:block:)`, never repeating. -/
def scheduledTimer (status : StatusViewController) (interval : ℚ) (block : TimerBlock) :
    TimerRef × StatusViewController :=
  (status.nextTimer,
    { status with
      runLoop := status.runLoop ++ [⟨status.nextTimer, interval, block⟩]
      nextTimer := status.nextTimer + 1 })

/-- `timer?.invalidate()` -/
def invalidate (status : StatusViewController) (timer : Option TimerRef) : StatusViewController :=
  match timer with
  | some reference =>
    { status with runLoop := status.runLoop.filter fun timer => timer.reference ≠ reference }
  | none => status

def setMessageHidden (status : StatusViewController) (hide : Bool) : StatusViewController :=
  { status with isPanelHidden := false, panelAlpha := if hide then 0 else 1 }

def showMessage (status : StatusViewController) (text : String) (autoHide : Bool) :
    StatusViewController :=
  let status := status.invalidate status.messageHideTimer
  let status := { status with messageText := text }
  -- Another timer for hiding is scheduled only with `autoHide`.
  let status := status.setMessageHidden false
  if autoHide then
    let (timer, status) := status.scheduledTimer displayDuration .hideMessage
    { status with messageHideTimer := some timer }
  else status

def cancelScheduledMessage (status : StatusViewController) (messageType : MessageType) :
    StatusViewController :=
  let status := status.invalidate (status.timers messageType)
  { status with timers := Function.update status.timers messageType none }

def cancelAllScheduledMessages (status : StatusViewController) : StatusViewController :=
  MessageType.all.foldl cancelScheduledMessage status

def scheduleMessage (status : StatusViewController) (text : String) (seconds : ℚ)
    (messageType : MessageType) : StatusViewController :=
  let status := status.cancelScheduledMessage messageType
  let (timer, status) := status.scheduledTimer seconds (.showMessage text messageType)
  { status with timers := Function.update status.timers messageType (some timer) }

def showTrackingQualityInfo (status : StatusViewController) (trackingState : TrackingState)
    (autoHide : Bool) : StatusViewController :=
  status.showMessage trackingState.presentationString autoHide

def escalateFeedback (status : StatusViewController) (trackingState : TrackingState)
    (seconds : ℚ) : StatusViewController :=
  let status := status.cancelScheduledMessage .trackingStateEscalation
  let (timer, status) := status.scheduledTimer seconds (.escalate trackingState)
  { status with timers := Function.update status.timers .trackingStateEscalation (some timer) }

def runBlock (status : StatusViewController) : TimerBlock → StatusViewController
  | .hideMessage => status.setMessageHidden true
  | .showMessage text _ => status.showMessage text true
  -- The block cancels the scheduled messages of its kind, its own timer included.
  | .escalate trackingState =>
    (status.cancelScheduledMessage .trackingStateEscalation).showMessage
      trackingState.escalation false

/-- A timer of the run loop fires: it is spent, and its block runs. -/
def timerFired (status : StatusViewController) (reference : TimerRef) :
    Option StatusViewController :=
  match status.runLoop.find? fun timer => timer.reference = reference with
  -- A timer that does not repeat is invalid when its block runs.
  | some timer => some ((status.invalidate (some reference)).runBlock timer.block)
  | none => none

end StatusViewController

end FurnitureAR
