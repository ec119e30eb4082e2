import FurnitureAR.AddButton
import FurnitureAR.Library.Observation
import FurnitureAR.ScheduledMessages
import Mathlib.Tactic.Linarith

/-!
# The hint to search

While nothing is found, every frame schedules the hint to move around anew, and so puts it off.
To see what that means the screen gets a clock: timers fire when they are due, and frames come at
any time.
-/
namespace FurnitureAR

open Execution TimerSlots

/-- The screen with a clock, and the moments at which its timers have been scheduled. -/
structure TimedScreen where
  screen : ARViewController
  now : ℚ := 0
  scheduledAt : TimerRef → ℚ := fun _ => 0

inductive TimedEvent where
  | elapse (duration : ℚ)
  | screen (event : Event)

namespace TimedScreen

def due (timed : TimedScreen) (timer : Timer) : ℚ :=
  timed.scheduledAt timer.reference + timer.interval

def runLoop (timed : TimedScreen) : List Timer := timed.screen.statusViewController.runLoop

/-- Timers do not fire before they are due. -/
def mayHappen (timed : TimedScreen) : Event → Bool
  | .timerFired reference => timed.runLoop.all fun timer =>
    timer.reference ≠ reference || timed.due timer ≤ timed.now
  | _ => true

def step (timed : TimedScreen) : TimedEvent → Except Halt TimedScreen
  | .elapse duration =>
    -- A timer that is due fires before the time goes on.
    if 0 ≤ duration ∧ ∀ timer ∈ timed.runLoop, timed.now + duration ≤ timed.due timer then
      .ok { timed with now := timed.now + duration }
    else .error .notDelivered
  | .screen event =>
    if timed.mayHappen event then
      (timed.screen.step event).map fun screen =>
        { timed with
          screen := screen
          scheduledAt := fun reference =>
            if reference < timed.screen.statusViewController.nextTimer then
              timed.scheduledAt reference
            else timed.now }
    else .error .notDelivered

/-! ## Stretches of frames -/

/-- Frames that find neither an object nor a surface follow one another. -/
structure Stretch where
  start : ℚ
  isShown : Bool := false
  /-- A later frame has scheduled the hint anew, or it has been cancelled with all messages. -/
  isDisturbed : Bool := false

end TimedScreen

namespace ARViewController

/-- Whether the event is a frame, and if so, whether it finds neither an object nor a surface. -/
def searches (screen : ARViewController) : Event → Option Bool
  | .mainQueue view =>
    match screen.dispatch.mainQueue with
    | .updateFocusSquare isObjectVisible :: _ =>
      some (!(isObjectVisible || !screen.scene.loader.loadedObjects.isEmpty) &&
        !view.surface.isSome)
    | _ => none
  | _ => none

/-- The timer of a scheduled message fires. -/
def shows (screen : ARViewController) (messageType : MessageType) : Event → Bool
  | .timerFired reference => (screen.statusViewController.live (some messageType)).any fun timer =>
    timer.reference = reference
  | _ => false

/-- Restarting and closing cancel all messages. -/
def cancelsAll (screen : ARViewController) : Event → Bool
  | .viewWillDisappear => true
  | .coachingOverlayDidRequestSessionReset => screen.restartPasses
  | _ => false

end ARViewController

namespace TimedScreen

def observe (stretch : Option Stretch) (timed : TimedScreen) (event : TimedEvent)
    (_ : TimedScreen) : Option Stretch :=
  match event with
  | .elapse _ => stretch
  | .screen event =>
    match timed.screen.searches event, stretch with
    | some false, _ => none
    | some true, none => some { start := timed.now }
    | some true, some stretch => some { stretch with
        isDisturbed := stretch.isDisturbed || stretch.start < timed.now }
    | none, none => none
    | none, some stretch =>
      if timed.screen.shows .focusSquare event then some { stretch with isShown := true }
      else if timed.screen.cancelsAll event then some { stretch with isDisturbed := true }
      else some stretch

abbrev SearchHistory := Observed TimedScreen (Option Stretch)

/-- In a stretch of frames without objects and surfaces the hint is shown within five seconds. -/
def NotStarved (history : SearchHistory) : Prop :=
  ∀ stretch, history.record = some stretch → stretch.isShown = false →
    history.state.now ≤ stretch.start + 5

/-- A stretch that is disturbed before the hint is shown does not last longer than that. -/
def EndsIfDisturbed (history : SearchHistory) : TimedEvent → Prop
  | .elapse duration => ∀ stretch, history.record = some stretch → stretch.isShown = false →
    stretch.isDisturbed = true → history.state.now + duration ≤ stretch.start + 5
  | .screen _ => True

/-- In an undisturbed stretch the timer of the hint is due five seconds after its start. -/
structure Armed (history : SearchHistory) : Prop where
  sound : history.state.screen.statusViewController.Sound
  stretch : ∀ stretch, history.record = some stretch → stretch.isShown = false →
    stretch.start ≤ history.state.now ∧ history.state.now ≤ stretch.start + 5 ∧
      (stretch.isDisturbed = false → ∃ timer,
        history.state.screen.statusViewController.live (some .focusSquare) = some timer ∧
          history.state.due timer = stretch.start + 5)

variable {timed next : TimedScreen} {record : Option Stretch}

theorem elapse_cases {duration : ℚ} (taken : timed.step (.elapse duration) = .ok next) :
    0 ≤ duration ∧ (∀ timer ∈ timed.runLoop, timed.now + duration ≤ timed.due timer) ∧
      next = { timed with now := timed.now + duration } := by
  simp only [step] at taken
  split at taken
  next allowed => exact ⟨allowed.1, allowed.2, (Except.ok.inj taken).symm⟩
  · cases taken

theorem elapse_ok {duration : ℚ} (forward : 0 ≤ duration)
    (notDue : ∀ timer ∈ timed.runLoop, timed.now + duration ≤ timed.due timer) :
    observing step observe ⟨timed, record⟩ (.elapse duration) =
      .ok ⟨{ timed with now := timed.now + duration }, record⟩ := by
  apply observing_ok
  simp only [step, if_pos (And.intro forward notDue)]

theorem screen_cases {event : Event} (taken : timed.step (.screen event) = .ok next) :
    timed.screen.step event = .ok next.screen ∧ next.now = timed.now ∧
      ∀ reference, next.scheduledAt reference =
        if reference < timed.screen.statusViewController.nextTimer then
          timed.scheduledAt reference
        else timed.now := by
  simp only [step] at taken
  split at taken
  · obtain ⟨screen, done, rfl⟩ := map_ok taken
    exact ⟨done, rfl, fun _ => rfl⟩
  · cases taken

/-- Time does not pass the moment at which the hint is due. -/
theorem Armed.elapse {duration : ℚ} (armed : Armed ⟨timed, record⟩)
    (ends : EndsIfDisturbed ⟨timed, record⟩ (.elapse duration))
    (taken : timed.step (.elapse duration) = .ok next) : Armed ⟨next, record⟩ := by
  obtain ⟨forward, notDue, rfl⟩ := elapse_cases taken
  refine ⟨armed.sound, fun stretch same unshown => ?_⟩
  obtain ⟨started, -, scheduled⟩ := armed.stretch stretch same unshown
  refine ⟨by linarith, ?_, scheduled⟩
  cases disturbed : stretch.isDisturbed with
  | true => exact ends stretch same unshown disturbed
  | false =>
    obtain ⟨timer, live, due⟩ := scheduled disturbed
    rw [← due]
    exact notDue timer (armed.sound.live_iff.mp live).1

/-- An event that is neither a frame, nor shows the hint, nor cancels all messages, leaves it
scheduled for when it was. -/
theorem untouched_of_quiet {screen : ARViewController} {event : Event}
    (noFrame : screen.searches event = none) (quiet : screen.shows .focusSquare event = false)
    (keeps : screen.cancelsAll event = false) (sound : screen.statusViewController.Sound) :
    ¬ screen.Touches .focusSquare event := by
  intro touched
  cases event with
  | viewDidAppear | restartSessionTapped => cases touched
  | viewWillDisappear => cases keeps
  | mainQueue view =>
    simp only [ARViewController.Touches] at touched
    simp only [ARViewController.searches] at noFrame
    split at touched
    next isObjectVisible rest queue =>
      rw [queue] at noFrame
      cases noFrame
    · rcases touched with impossible | impossible <;> cases impossible
    · cases touched
  | coachingOverlayDidRequestSessionReset =>
    have passes : screen.restartPasses = true := touched
    rw [ARViewController.cancelsAll, passes] at keeps
    cases keeps
  | cameraDidChangeTrackingState trackingState => cases touched
  | timerFired reference =>
    obtain ⟨timer, member, same, own⟩ := touched
    have live := sound.live_iff.mpr ⟨member, own.symm⟩
    simp only [ARViewController.shows, live, Option.any_some, decide_eq_false_iff_not] at quiet
    exact quiet same
  | _ => cases touched

/-- A frame that finds nothing schedules the hint for five seconds later. -/
theorem scheduled_of_search {event : Event} (sound : timed.screen.statusViewController.Sound)
    (searches : timed.screen.searches event = some true)
    (taken : timed.step (.screen event) = .ok next) : ∃ timer,
      next.screen.statusViewController.live (some .focusSquare) = some timer ∧
        next.due timer = timed.now + 5 := by
  obtain ⟨done, -, scheduledAt⟩ := screen_cases taken
  cases event with
  | mainQueue view =>
    simp only [ARViewController.searches] at searches
    split at searches
    next isObjectVisible rest queue =>
      simp only [Option.some.injEq, Bool.and_eq_true, Bool.not_eq_true'] at searches
      have live := ARViewController.live_messagesOfFrame sound isObjectVisible view
      rw [searches.1, searches.2] at live
      simp only [Bool.false_eq_true, if_false] at live
      refine ⟨⟨timed.screen.statusViewController.nextTimer, 5,
        .showMessage "Спробуйте рухатися вліво і вправо" .focusSquare⟩, ?_, ?_⟩
      · rw [ARViewController.step_messages done]
        simp only [ARViewController.messagesAfter, queue, ARViewController.messagesOfClosure]
        exact live
      · simp only [due, scheduledAt, lt_irrefl, if_false]
    · cases searches
  | _ => cases searches

theorem Armed.screen {event : Event} (armed : Armed ⟨timed, record⟩)
    (taken : timed.step (.screen event) = .ok next) :
    Armed ⟨next, observe record timed (.screen event) next⟩ := by
  obtain ⟨done, now, scheduledAt⟩ := screen_cases taken
  have sound := armed.sound
  have before := armed.stretch
  refine ⟨ARViewController.sound_messages_step _ event _ sound done, ?_⟩
  simp only [now, observe]
  cases frame : timed.screen.searches event with
  | some found =>
    cases found with
    | false =>
      intro stretch same
      cases record <;> cases same
    | true =>
      have scheduled := scheduled_of_search sound frame taken
      cases record with
      | none =>
        rintro stretch ⟨⟩ -
        refine ⟨le_refl _, by linarith, fun _ => scheduled⟩
      | some old =>
        rintro stretch ⟨⟩ unshown
        obtain ⟨started, inTime, -⟩ := before old rfl unshown
        refine ⟨started, inTime, fun undisturbed => ?_⟩
        simp only [Bool.or_eq_false_iff, decide_eq_false_iff_not, not_lt] at undisturbed
        have same : old.start = timed.now := le_antisymm started undisturbed.2
        rw [same]
        exact scheduled
  | none =>
    cases record with
    | none =>
      intro stretch same
      cases same
    | some old =>
      intro stretch
      cases shown : timed.screen.shows .focusSquare event with
      | true =>
        rintro ⟨⟩ unshown
        cases unshown
      | false =>
        cases cancels : timed.screen.cancelsAll event with
        | true =>
          rintro ⟨⟩ unshown
          obtain ⟨started, inTime, -⟩ := before old rfl unshown
          exact ⟨started, inTime, fun undisturbed => absurd undisturbed (by simp)⟩
        | false =>
          rintro ⟨⟩ unshown
          obtain ⟨started, inTime, scheduled⟩ := before old rfl unshown
          refine ⟨started, inTime, fun undisturbed => ?_⟩
          obtain ⟨timer, live, due⟩ := scheduled undisturbed
          have untouched := untouched_of_quiet frame shown cancels sound
          have numbered : timer.reference < timed.screen.statusViewController.nextTimer :=
            Slots.Sound.numbered sound timer (sound.live_iff.mp live).1
          refine ⟨timer, ?_, ?_⟩
          · rw [ARViewController.step_messages done,
              ARViewController.live_untouched sound untouched, live]
          · rw [← due, TimedScreen.due, scheduledAt, if_pos numbered]
            rfl

/-- The hint is shown in time if and only if no stretch of frames goes on after its first five
seconds once, before the hint is shown, a later frame has scheduled the hint anew, or a restart or
the end of the screen has cancelled it. -/
theorem notStarved_iff (opening : Opening) (events : List TimedEvent) :
    Always (observing step observe) NotStarved ⟨{ screen := opening.screen }, none⟩ events ↔
      Guarded (observing step observe) EndsIfDisturbed ⟨{ screen := opening.screen }, none⟩
        events := by
  apply @always_observing_iff_guarded _ _ _ _ _ _ Armed
  · exact fun history armed stretch same unshown => (armed.stretch stretch same unshown).2.1
  · intro timed record event next armed ends done
    cases event with
    | elapse duration => exact armed.elapse ends done
    | screen event => exact armed.screen done
  · intro timed record event next armed overtime done notStarved
    cases event with
    | elapse duration =>
      obtain ⟨-, -, rfl⟩ := elapse_cases done
      exact overtime fun stretch same unshown _ => notStarved stretch same unshown
    | screen event => exact overtime trivial
  · refine ⟨StatusViewController.sound_initial, fun stretch same => ?_⟩
    cases same

/-- A frame comes, nothing is found, and three seconds go by, and so it goes on. -/
def framesEveryThreeSeconds : List TimedEvent :=
  [.screen .viewDidAppear, .screen (.rendererUpdateAtTime fun _ => false),
    .screen (.mainQueue ARViewController.coveredView), .elapse 3,
    .screen (.rendererUpdateAtTime fun _ => false),
    .screen (.mainQueue ARViewController.coveredView), .elapse 3]

/-- After six seconds the hint has not been shown. -/
theorem not_notStarved : ¬ ∀ (opening : Opening) (events : List TimedEvent),
    Always (observing step observe) NotStarved ⟨{ screen := opening.screen }, none⟩ events := by
  intro notStarved
  have always := notStarved ARViewController.showroom framesEveryThreeSeconds
  have found := (((always.2 _ rfl).2 _ rfl).2 _ rfl).2 _
    (elapse_ok (by decide +kernel) (by decide +kernel))
  have again := ((found.2 _ rfl).2 _ rfl).2 _ (elapse_ok (by decide +kernel) (by decide +kernel))
  have inTime := again { start := 0, isDisturbed := false || decide ((0 : ℚ) < 0 + 3) } rfl rfl
  exact absurd inTime (by decide +kernel)

end TimedScreen

end FurnitureAR
