import FurnitureAR.Library.Observation
import FurnitureAR.LoadSerialisation
import FurnitureAR.ScheduledMessages

/-!
# Stale hints

A hint is scheduled seconds before it is shown, and whatever makes it pointless in between has to
cancel it. Loading an object cancels nothing, and the report of a plane cancels its hint only when
the main queue gets to it.
-/
namespace FurnitureAR

open Execution

namespace ARViewController

/-- The observer remembers whether a plane has been reported since the last reset. -/
def observePlanes (reported : Bool) (screen : ARViewController) (event : Event)
    (_ : ARViewController) : Bool :=
  match event with
  | .viewDidAppear | .restartSessionTapped => false
  | .coachingOverlayDidRequestSessionReset => if screen.restartPasses then false else reported
  | .rendererDidAdd isPlaneAnchor => isPlaneAnchor || reported
  | _ => reported

abbrev PlaneHistory := Observed ARViewController Bool

/-- What a hint of this type takes for granted. -/
def ReasonHolds (history : PlaneHistory) : MessageType → Prop
  | .contentPlacement | .focusSquare => history.state.scene.loader.loadedObjects = []
  | .planeEstimation => history.record = false
  | .trackingStateEscalation => True

/-- A scheduled message that is shown has a reason at that moment. -/
def ShowsHonestly (history : PlaneHistory) (event : Event) : Prop :=
  ∀ timer ∈ history.state.statusViewController.runLoop,
    event = .timerFired timer.reference → ∀ text messageType,
      timer.block = .showMessage text messageType → ReasonHolds history messageType

/-- Loading starts only when no hint for an empty room is scheduled, and the hint to look for a
surface is not shown while the report of a plane waits in the main queue. -/
def KeepsReasons (history : PlaneHistory) : Event → Prop
  | .addVirtualObject _ _ => history.state.scene.loader.loadedObjects = [] →
    history.state.selectedVirtualObject ≠ none →
      history.state.statusViewController.live (some .contentPlacement) = none ∧
        history.state.statusViewController.live (some .focusSquare) = none
  | .timerFired reference => ∀ timer,
    history.state.statusViewController.live (some .planeEstimation) = some timer →
      timer.reference = reference → history.record = true →
        .surfaceDetected ∉ history.state.dispatch.mainQueue
  | _ => True

/-- Whatever is scheduled has a reason, or is about to be cancelled. -/
structure Timely (history : PlaneHistory) : Prop where
  sound : history.state.statusViewController.Sound
  loaded : history.state.scene.loader.loadedObjects ≠ [] →
    history.state.statusViewController.live (some .contentPlacement) = none ∧
      history.state.statusViewController.live (some .focusSquare) = none
  detected : history.record = true →
    history.state.statusViewController.live (some .planeEstimation) ≠ none →
      .surfaceDetected ∈ history.state.dispatch.mainQueue

variable {screen next : ARViewController} {event : Event} {reported : Bool}

/-! ## Loaded objects and waiting closures -/

theorem tap_of_start {object : ObjectRef} (start : screen.action event = .start object) :
    ∃ view meanwhile, event = .addVirtualObject view meanwhile ∧
      screen.selectedVirtualObject = some object := by
  cases event with
  | addVirtualObject view meanwhile =>
    simp only [action] at start
    split at start
    · split at start
      next other selected =>
        cases start
        exact ⟨view, meanwhile, rfl, selected⟩
      · cases start
    · cases start
  | background event => cases event <;> cases start
  | mainQueue view =>
    simp only [action] at start
    split at start
    · split at start <;> cases start
    · cases start
  | coachingOverlayDidRequestSessionReset =>
    simp only [action] at start
    split at start <;> cases start
  | _ => cases start

/-- Only a tap brings an object into an empty list. -/
theorem loaded_before (taken : step screen event = .ok next) :
    next.scene.loader.loadedObjects ≠ [] → screen.scene.loader.loadedObjects ≠ [] ∨
      ∃ view meanwhile, event = .addVirtualObject view meanwhile ∧
        screen.scene.loader.loadedObjects = [] ∧ screen.selectedVirtualObject ≠ none := by
  apply of_undisturbed _ _ taken
  · intro event next alone taken loaded
    have refined := step_loadCycle alone taken
    have loaded : next.loadCycle.loadedObjects ≠ [] := loaded
    generalize next.loadCycle = cycle, actionEq : screen.action event = action at refined loaded
    cases refined with
    | start object enabled empty =>
      obtain ⟨view, meanwhile, tap, selected⟩ := tap_of_start actionEq
      exact .inr ⟨view, meanwhile, tap, empty, by simp [selected]⟩
    | discard | remove | close | restart => exact absurd rfl loaded
    | other | finish | prepare | place | reset | coolDown => exact .inl loaded
  · intro view meanwhile middle next behind first loaded
    rw [behind.loadedObjects] at loaded
    rcases first loaded with before | ⟨_, _, -, empty, selected⟩
    · exact .inl before
    · exact .inr ⟨view, meanwhile, rfl, empty, selected⟩

/-- A closure waits in the main queue until it is the first one and the queue runs. -/
theorem waiting_kept {closure : MainClosure} (taken : step screen event = .ok next)
    (waiting : closure ∈ screen.dispatch.mainQueue) :
    closure ∈ next.dispatch.mainQueue ∨ ∃ view rest, event = .mainQueue view ∧
      screen.dispatch.mainQueue = closure :: rest := by
  apply of_undisturbed _ _ taken
  · intro event next alone taken
    rcases step_mainQueue alone taken with ⟨⟨closures, more⟩, -⟩ | ⟨view, first, rfl, queue⟩
    · left
      rw [more]
      exact List.mem_append_left closures waiting
    · rw [queue] at waiting
      rcases List.mem_cons.mp waiting with rfl | later
      · exact .inr ⟨view, _, rfl, queue⟩
      · exact .inl later
  · intro view meanwhile middle next behind first
    obtain ⟨placements, more⟩ := behind.mainQueue
    rcases first with still | ⟨_, _, other, _⟩
    · left
      rw [more]
      exact List.mem_append_left _ still
    · cases other

/-! ## Scheduled hints -/

/-- With an object in the list, no hint for an empty room is scheduled. -/
theorem free_kept (sound : screen.statusViewController.Sound) {hint : MessageType}
    (empty : hint = .contentPlacement ∨ hint = .focusSquare)
    (loaded : screen.scene.loader.loadedObjects ≠ [])
    (free : screen.statusViewController.live (some hint) = none) :
    (screen.messagesAfter event).live (some hint) = none := by
  by_cases touched : screen.Touches hint event
  · cases event with
    | viewDidAppear | restartSessionTapped =>
      have other : hint = .planeEstimation := touched
      subst other
      rcases empty with impossible | impossible <;> cases impossible
    | viewWillDisappear => exact sound.live_cancelAllScheduledMessages hint
    | mainQueue view =>
      simp only [Touches] at touched
      simp only [messagesAfter]
      split at touched
      next isObjectVisible rest queue =>
        subst touched
        simp only [queue, messagesOfClosure]
        rw [live_messagesOfFrame sound, free]
        simp [loaded]
      next rest queue =>
        rcases touched with rfl | rfl
        · rcases empty with impossible | impossible <;> cases impossible
        · simp only [queue]
          rw [(live_surfaceDetected sound view).2 loaded, free]
      · cases touched
    | coachingOverlayDidRequestSessionReset =>
      have passes : (screen.isRestartAvailable && !screen.scene.loader.isLoading) = true := touched
      have cancelled := sound.live_cancelAllScheduledMessages hint
      have scheduled := sound.cancelAllScheduledMessages.live_scheduleMessage
        "Знайдіть поверхню, щоб розмістити об'єкт" 7.5 .planeEstimation
      simp only [messagesAfter, restartExperience, if_pos passes]
      refine (congrFun scheduled _).trans ((Function.update_of_ne ?_ ..).trans cancelled)
      rcases empty with rfl | rfl <;> simp
    | cameraDidChangeTrackingState trackingState =>
      have other : hint = .trackingStateEscalation := touched
      subst other
      rcases empty with impossible | impossible <;> cases impossible
    | timerFired reference =>
      obtain ⟨timer, member, same, own⟩ := touched
      simp only [messagesAfter]
      cases fired : screen.statusViewController.timerFired reference with
      | none => exact free
      | some status =>
        subst same
        rw [Option.getD_some, sound.live_timerFired member fired, if_pos own]
    | _ => cases touched
  · rw [live_untouched sound touched, free]

/-- What is remembered as reported has been reported by this event or before. -/
theorem reported_before (after : observePlanes reported screen event next = true)
    (untouched : ¬ screen.Touches .planeEstimation event)
    (other : event ≠ .rendererDidAdd true) : reported = true := by
  cases event with
  | viewDidAppear | restartSessionTapped => cases after
  | coachingOverlayDidRequestSessionReset =>
    have refused : ¬ screen.restartPasses = true := untouched
    rwa [observePlanes, if_neg refused] at after
  | rendererDidAdd isPlaneAnchor =>
    cases isPlaneAnchor with
    | true => exact absurd rfl other
    | false => exact after
  | _ => exact after

/-- The hint to look for a surface stays scheduled only where nothing has been reported, or the
report still waits. -/
theorem detected_kept (sound : screen.statusViewController.Sound)
    (detected : reported = true → screen.statusViewController.live (some .planeEstimation) ≠ none →
      .surfaceDetected ∈ screen.dispatch.mainQueue)
    (taken : step screen event = .ok next)
    (after : observePlanes reported screen event next = true)
    (scheduled : (screen.messagesAfter event).live (some .planeEstimation) ≠ none) :
    .surfaceDetected ∈ next.dispatch.mainQueue := by
  by_cases touched : screen.Touches .planeEstimation event
  · exfalso
    cases event with
    | viewDidAppear | restartSessionTapped => cases after
    | viewWillDisappear =>
      exact scheduled (sound.live_cancelAllScheduledMessages .planeEstimation)
    | mainQueue view =>
      simp only [Touches] at touched
      simp only [messagesAfter] at scheduled
      split at touched
      · cases touched
      next rest queue =>
        simp only [queue] at scheduled
        exact scheduled (live_surfaceDetected sound view).1
      · cases touched
    | coachingOverlayDidRequestSessionReset =>
      have passes : screen.restartPasses = true := touched
      rw [observePlanes, if_pos passes] at after
      cases after
    | cameraDidChangeTrackingState trackingState => cases touched
    | timerFired reference =>
      obtain ⟨timer, member, same, own⟩ := touched
      simp only [messagesAfter] at scheduled
      subst same
      obtain ⟨status, fired, -⟩ := ARViewController.timerFired_cases taken
      rw [fired, Option.getD_some, sound.live_timerFired member fired, if_pos own] at scheduled
      exact scheduled rfl
    | _ => cases touched
  · rw [live_untouched sound touched] at scheduled
    by_cases reports : event = .rendererDidAdd true
    · subst reports
      cases taken
      exact List.mem_append_right _ (List.mem_singleton_self _)
    · have before := reported_before after touched reports
      rcases waiting_kept taken (detected before scheduled) with still | ⟨view, rest, rfl, queue⟩
      · exact still
      · exact absurd (by simp [Touches, queue]) touched

/-! ## Runs -/

theorem Timely.preserved {history after : PlaneHistory} (timely : Timely history)
    (keeps : KeepsReasons history event)
    (taken : observing step observePlanes history event = .ok after) : Timely after := by
  obtain ⟨next, done, rfl⟩ := observing_cases taken
  have sound := timely.sound
  have messages := step_messages done
  refine ⟨?_, ?_, ?_⟩
  · exact sound_messages_step _ event next sound done
  · intro loaded
    rw [messages]
    rcases loaded_before done loaded with before | ⟨view, meanwhile, rfl, empty, selected⟩
    · obtain ⟨content, search⟩ := timely.loaded before
      exact ⟨free_kept sound (.inl rfl) before content, free_kept sound (.inr rfl) before search⟩
    · -- Loading starts, and touches no message.
      obtain ⟨content, search⟩ := keeps empty selected
      rw [live_untouched sound id, live_untouched sound id]
      exact ⟨content, search⟩
  · intro reported scheduled
    rw [messages] at scheduled
    exact detected_kept sound timely.detected done reported scheduled

/-- A timer that shows a message is in the slot of the message's type. -/
theorem slot_of_shows {timer : Timer} {text : String} {messageType : MessageType}
    (shows : timer.block = .showMessage text messageType) :
    timer.block.slot = some messageType := by
  rw [shows]
  rfl

theorem Timely.showsHonestly {history after : PlaneHistory} (timely : Timely history)
    (keeps : KeepsReasons history event)
    (taken : observing step observePlanes history event = .ok after) :
    ShowsHonestly history event := by
  rintro timer member rfl text messageType shows
  have live : history.state.statusViewController.live (some messageType) = some timer :=
    timely.sound.live_iff.mpr ⟨member, slot_of_shows shows⟩
  cases messageType with
  | contentPlacement =>
    by_contra loaded
    rw [(timely.loaded loaded).1] at live
    cases live
  | focusSquare =>
    by_contra loaded
    rw [(timely.loaded loaded).2] at live
    cases live
  | planeEstimation =>
    by_contra reported
    have reported : history.record = true := by simpa [ReasonHolds] using reported
    exact keeps timer live rfl reported (timely.detected reported (by simp [live]))
  | trackingStateEscalation => trivial

/-- A pending timer may be the next thing that happens. -/
theorem fires_of_pending {timer : Timer} (pending : timer ∈ screen.statusViewController.runLoop) :
    ∃ next, step screen (.timerFired timer.reference) = .ok next := by
  simp only [step, timerFired, StatusViewController.timerFired]
  cases found : screen.statusViewController.runLoop.find?
      fun other => other.reference = timer.reference with
  | none =>
    have absent := List.find?_eq_none.mp found timer pending
    simp at absent
  | some other => exact ⟨_, rfl⟩

/-- Only scheduled messages are in the slots of the hints. -/
theorem shows_of_slot {timer : Timer} {messageType : MessageType}
    (other : messageType ≠ .trackingStateEscalation)
    (own : timer.block.slot = some messageType) :
    ∃ text, timer.block = .showMessage text messageType := by
  cases block : timer.block with
  | hideMessage => rw [block] at own; cases own
  | showMessage text shown =>
    rw [block] at own
    cases own
    exact ⟨text, rfl⟩
  | escalate trackingState =>
    rw [block] at own
    exact absurd (Option.some.inj own).symm other

/-- A hint for an empty room that is pending in a room with objects is stale. -/
theorem stale_of_pending {history : PlaneHistory} (sound : history.state.statusViewController.Sound)
    {hint : MessageType} (empty : hint = .contentPlacement ∨ hint = .focusSquare)
    (pending : history.state.statusViewController.live (some hint) ≠ none)
    (loaded : history.state.scene.loader.loadedObjects ≠ []) : ∃ timer after,
      observing step observePlanes history (.timerFired timer) = .ok after ∧
        ¬ ShowsHonestly history (.timerFired timer) := by
  obtain ⟨timer, live⟩ := Option.ne_none_iff_exists'.mp pending
  obtain ⟨member, own⟩ := sound.live_iff.mp live
  obtain ⟨next, done⟩ := fires_of_pending member
  refine ⟨timer.reference, _, observing_ok done, fun honest => loaded ?_⟩
  obtain ⟨text, shows⟩ : ∃ text, timer.block = .showMessage text hint :=
    shows_of_slot (by rcases empty with rfl | rfl <;> simp) own
  have reason := honest timer member rfl text hint shows
  rcases empty with rfl | rfl
  · exact reason
  · exact reason

/-- A step that does not keep the reasons shows a stale hint, or the next timer may do so. -/
theorem stale_of_breaks {history after : PlaneHistory}
    (sound : history.state.statusViewController.Sound)
    (taken : observing step observePlanes history event = .ok after)
    (breaks : ¬ KeepsReasons history event) : ¬ ShowsHonestly history event ∨
      ∃ timer later, observing step observePlanes after (.timerFired timer) = .ok later ∧
        ¬ ShowsHonestly after (.timerFired timer) := by
  obtain ⟨next, done, rfl⟩ := observing_cases taken
  cases event with
  | addVirtualObject view meanwhile =>
    right
    simp only [KeepsReasons, Classical.not_imp, Classical.not_and_iff_not_or_not] at breaks
    obtain ⟨empty, selected, scheduled⟩ := breaks
    obtain ⟨middle, first, behind⟩ := InBackground.of_addVirtualObject done
    have loaded : next.scene.loader.loadedObjects ≠ [] := by
      rw [behind.loadedObjects]
      rcases (addVirtualObject_cases first).2 with ⟨-, none, -⟩ | ⟨object, -, -, rfl⟩ | ⟨some, -⟩
      · exact absurd none selected
      · simp [startLoading, dispatchLoading, displayObjectLoadingUI, Scene.startLoading]
      · exact absurd empty some
    have same : ∀ hint, next.statusViewController.live (some hint) =
        history.state.statusViewController.live (some hint) := by
      intro hint
      rw [step_messages done, live_untouched sound id]
    have soundNext := sound_messages_step _ _ next sound done
    rcases scheduled with content | search
    · exact stale_of_pending soundNext (.inl rfl) (by rw [same]; exact content) loaded
    · exact stale_of_pending soundNext (.inr rfl) (by rw [same]; exact search) loaded
  | timerFired reference =>
    left
    intro honest
    refine breaks fun timer live same reported _ => ?_
    obtain ⟨member, own⟩ := sound.live_iff.mp live
    obtain ⟨text, shows⟩ := shows_of_slot (by simp) own
    subst same
    have unreported : history.record = false := honest timer member rfl text _ shows
    rw [reported] at unreported
    cases unreported
  | _ => exact absurd trivial breaks

/-- In runs whose steps keep the reasons of the hints, no stale hint is shown; any other step
shows one, or the next timer that fires may do so. -/
theorem hints_honest (opening : Opening) (events : List Event) :
    (Guarded (observing step observePlanes) KeepsReasons ⟨opening.screen, false⟩ events →
      Guarded (observing step observePlanes) ShowsHonestly ⟨opening.screen, false⟩ events) ∧
    ∀ history after event,
      run (observing step observePlanes) ⟨opening.screen, false⟩ events = .ok history →
      observing step observePlanes history event = .ok after → ¬ KeepsReasons history event →
        ¬ ShowsHonestly history event ∨
          ∃ timer later, observing step observePlanes after (.timerFired timer) = .ok later ∧
            ¬ ShowsHonestly after (.timerFired timer) := by
  have initial : opening.screen.statusViewController.Sound := StatusViewController.sound_initial
  constructor
  · apply @guarded_of_guarded _ _ _ _ Timely
    · exact fun history event after timely keeps taken => timely.preserved keeps taken
    · exact fun history event after timely keeps taken => timely.showsHonestly keeps taken
    · refine ⟨initial, fun loaded => absurd rfl loaded, fun reported => ?_⟩
      cases reported
  · intro history after event reached taken breaks
    have sound : Always step (fun screen => screen.statusViewController.Sound) opening.screen
        events := always_of_invariant sound_messages_step initial events
    -- An observed run is a run of the screen.
    have plain : run step opening.screen events = .ok history.state := by
      rw [← run_observing ⟨opening.screen, false⟩ events, reached]
      rfl
    exact stale_of_breaks (sound.atEnd plain) taken breaks

/-- A floor is found, and the user waits almost until the hint to place something is due. -/
def tappedBeforeHint : List Event :=
  floorFound ++ [.rendererDidAdd true, .mainQueue showroomView, .addVirtualObject showroomView []]

/-- The hint to place something is shown while the chair is being loaded. -/
theorem not_hints_honest : ¬ ∀ (opening : Opening) (events : List Event),
    Guarded (observing step observePlanes) ShowsHonestly ⟨opening.screen, false⟩ events := by
  intro honest
  have all := honest showroom (tappedBeforeHint ++ [.timerFired 3])
  have last := ((guarded_append _ tappedBeforeHint _).mp all).2 _ rfl
  have empty : ([0] : List ObjectRef) = [] := (last _ rfl).1
    ⟨3, 7.5, .showMessage "Натисніть \"+\" щоб добавити об'єкт" .contentPlacement⟩
    (.tail _ (.head _)) rfl _ _ rfl
  cases empty

end ARViewController

end FurnitureAR
