import FurnitureAR.RefreshConfluence

/-!
# The refresh control

Only an insertion ends the refreshing. The answer to a pull may also be an error, which leaves the
control spinning, unless another fetch or an insertion that waits comes to its rescue.
-/
namespace FurnitureAR

open Execution

namespace FurnitureListViewController

variable {isWellFormed : String → Bool} {ε : Type}
  {controller next final : FurnitureListViewController isWellFormed ε}

def MainClosure.isInsertion : MainClosure isWellFormed ε → Bool
  | .insertNewFurnitures _ => true
  | .stopAnimating | .showErrorMessage _ => false

def isRefreshing (controller : FurnitureListViewController isWellFormed ε) : Bool :=
  controller.furnitureListTableView.isRefreshing

/-- When nothing is going on, the control does not spin. -/
def Idle (controller : FurnitureListViewController isWellFormed ε) : Prop :=
  controller.fetches = 0 → controller.mainQueue = [] → controller.isRefreshing = false

/-- Without an outstanding fetch, the control does not spin once the waiting closures have run. -/
def Settles (controller : FurnitureListViewController isWellFormed ε) : Prop :=
  controller.fetches = 0 → ∀ final, controller.drain = .ok final → final.isRefreshing = false

/-- Firestore's answer is an error or no snapshot. -/
def Fails (querySnapshot : Option (List FirestoreData)) (error : Option ε) : Prop :=
  error ≠ none ∨ querySnapshot = none

/-- A fetch fails while the control spins only if another fetch is outstanding, or an insertion
waits in the main queue. -/
def FailsRescued (controller : FurnitureListViewController isWellFormed ε) (event : Event ε) :
    Prop :=
  ∀ querySnapshot error, event = .retrieved querySnapshot error → Fails querySnapshot error →
    controller.isRefreshing = true →
      2 ≤ controller.fetches ∨ controller.mainQueue.any MainClosure.isInsertion = true

/-- A control that spins will be stopped by a fetch or by an insertion that waits. -/
structure Rescued (controller : FurnitureListViewController isWellFormed ε) : Prop where
  agree : controller.furnitureListTableView.RowsAgree
  rescued : controller.isRefreshing = true →
    0 < controller.fetches ∨ controller.mainQueue.any MainClosure.isInsertion = true

/-! ## One step -/

/-- The closure that an answer sends after the one that stops the activity indicator. -/
def answer (querySnapshot : Option (List FirestoreData)) (error : Option ε) :
    MainClosure isWellFormed ε :=
  match FurnitureService.retrieveAll querySnapshot error with
  | .ok furnitures => .insertNewFurnitures furnitures
  | .error error => .showErrorMessage error

theorem isInsertion_answer (querySnapshot : Option (List FirestoreData)) (error : Option ε) :
    (answer querySnapshot error : MainClosure isWellFormed ε).isInsertion = true ↔
      ¬ Fails querySnapshot error := by
  unfold answer FurnitureService.retrieveAll Fails
  cases error with
  | some error => simp [MainClosure.isInsertion]
  | none => cases querySnapshot <;> simp [MainClosure.isInsertion]

theorem retrieved_cases {querySnapshot : Option (List FirestoreData)} {error : Option ε}
    (taken : controller.retrieved querySnapshot error = .ok next) :
    ∃ waiting, controller.fetches = waiting + 1 ∧ next = { controller with
      fetches := waiting
      mainQueue := controller.mainQueue ++ [.stopAnimating, answer querySnapshot error] } := by
  unfold retrieved at taken
  split at taken
  · cases taken
  next waiting outstanding => exact ⟨waiting, outstanding, (Except.ok.inj taken).symm⟩

theorem refreshPulled_cases (taken : controller.refreshPulled = .ok next) :
    next.fetches = controller.fetches + 1 ∧
      next.furnitureListTableView = { controller.furnitureListTableView with
        isRefreshing := true } := by
  unfold refreshPulled at taken
  split at taken
  · cases taken
  · cases taken
    exact ⟨rfl, rfl⟩

/-- Only insertions end the refreshing. -/
theorem runMain_refreshing (agree : controller.furnitureListTableView.RowsAgree)
    (taken : controller.runMain = .ok next) :
    ∃ closure, controller.mainQueue = closure :: next.mainQueue ∧
      next.fetches = controller.fetches ∧
      next.isRefreshing = (controller.isRefreshing && !closure.isInsertion) := by
  unfold runMain at taken
  split at taken
  · cases taken
  next closure rest queue =>
    cases closure with
    | insertNewFurnitures furnitures =>
      have edited := FurnitureListTableView.insertNewFurnitures_eq agree furnitures
      simp only [edited, Catalogue.orCrash, bind, Except.bind, Except.ok.injEq] at taken
      subst taken
      exact ⟨_, queue, rfl, (Bool.and_false _).symm⟩
    | stopAnimating =>
      cases taken
      exact ⟨_, queue, rfl, (Bool.and_true _).symm⟩
    | showErrorMessage error =>
      cases taken
      exact ⟨_, queue, rfl, (Bool.and_true _).symm⟩

/-! ## Emptying the queue -/

theorem drain_cons (agree : controller.furnitureListTableView.RowsAgree)
    (waits : controller.mainQueue ≠ []) :
    ∃ next, controller.runMain = .ok next ∧ controller.drain = next.drain := by
  obtain ⟨next, taken⟩ := runMain_ok agree waits
  obtain ⟨closure, queue, -⟩ := runMain_refreshing agree taken
  refine ⟨next, taken, ?_⟩
  unfold drain
  rw [queue, List.length_cons, List.replicate_succ, run_cons, show step controller .runMain = _
    from taken]
  rfl

/-- An insertion that waits ends the refreshing, and nothing else does. -/
theorem drain_isRefreshing (agree : controller.furnitureListTableView.RowsAgree)
    (drained : controller.drain = .ok final) :
    final.isRefreshing =
      (controller.isRefreshing && !controller.mainQueue.any MainClosure.isInsertion) := by
  generalize waiting : controller.mainQueue = queue
  induction queue generalizing controller with
  | nil =>
    rw [drain, waiting] at drained
    cases drained
    exact (Bool.and_true _).symm
  | cons closure rest ih =>
    obtain ⟨next, taken, same⟩ := drain_cons agree (by simp [waiting])
    obtain ⟨first, queue, -, refreshing⟩ := runMain_refreshing agree taken
    obtain ⟨rfl, left⟩ := List.cons.inj (waiting.symm.trans queue)
    have ran : step controller .runMain = .ok next := taken
    rw [ih (rowsAgree_step agree ran) (same ▸ drained) left.symm, refreshing, List.any_cons,
      Bool.not_or, Bool.and_assoc]

/-! ## Whole runs -/

theorem Rescued.settles (inv : Rescued controller) : Settles controller := by
  intro quiet final drained
  rw [drain_isRefreshing inv.agree drained]
  by_contra spins
  simp only [Bool.not_eq_false, Bool.and_eq_true, Bool.not_eq_true'] at spins
  rcases inv.rescued spins.1 with outstanding | waits
  · omega
  · rw [spins.2] at waits
    cases waits

theorem Settles.idle (settles : Settles controller) : Idle controller := by
  intro quiet empty
  apply settles quiet controller
  rw [drain, empty]
  rfl

theorem Rescued.step (inv : Rescued controller) {event : Event ε}
    (allowed : FailsRescued controller event) (taken : step controller event = .ok next) :
    Rescued next := by
  refine ⟨rowsAgree_step inv.agree taken, fun spins => ?_⟩
  cases event with
  | viewDidAppear =>
    cases taken
    exact .inl (Nat.succ_pos _)
  | refreshPulled =>
    left
    rw [(refreshPulled_cases taken).1]
    exact Nat.succ_pos _
  | retrieved querySnapshot error =>
    obtain ⟨waiting, outstanding, rfl⟩ := retrieved_cases taken
    simp only [List.any_append, Bool.or_eq_true]
    by_cases fails : Fails querySnapshot error
    · rcases allowed querySnapshot error rfl fails spins with another | waits
      · exact .inl (by omega)
      · exact .inr (.inl waits)
    -- The insertion of this answer is to come.
    · have inserts : (answer querySnapshot error : MainClosure isWellFormed ε).isInsertion = true :=
        (isInsertion_answer querySnapshot error).mpr fails
      exact .inr (.inr (by simp [inserts]))
  | runMain =>
    obtain ⟨closure, queue, same, refreshing⟩ := runMain_refreshing inv.agree taken
    rw [refreshing, Bool.and_eq_true, Bool.not_eq_true'] at spins
    have rescued := inv.rescued spins.1
    rw [queue, List.any_cons, spins.2, Bool.false_or] at rescued
    rwa [same]

/-- After a failure that nothing comes to the rescue of, the control goes on spinning. -/
theorem not_settles_of_failure (agree : controller.furnitureListTableView.RowsAgree)
    {event : Event ε} (refused : ¬ FailsRescued controller event)
    (taken : step controller event = .ok next) : ¬ Settles next := by
  intro settles
  apply refused
  rintro querySnapshot error rfl fails spins
  by_contra alone
  simp only [not_or, Nat.not_le, Bool.not_eq_true] at alone
  obtain ⟨waiting, outstanding, rfl⟩ := retrieved_cases taken
  have agree' := rowsAgree_step agree taken
  obtain ⟨final, drained, -⟩ := drain_ok agree'
  have stopped := settles (by dsimp only; omega) final drained
  rw [drain_isRefreshing agree' drained] at stopped
  have silent : (answer querySnapshot error : MainClosure isWellFormed ε).isInsertion = false := by
    rw [Bool.eq_false_iff]
    exact fun inserts => (isInsertion_answer querySnapshot error).mp inserts fails
  have quiet : (.stopAnimating : MainClosure isWellFormed ε).isInsertion = false := rfl
  have spins' : controller.furnitureListTableView.isRefreshing = true := spins
  simp [isRefreshing, spins', alone.2, silent, quiet] at stopped

/-- The control stops spinning exactly in the runs in which no fetch fails while it spins, unless
another fetch is outstanding or an insertion waits. -/
theorem refreshing_settles_iff (events : List (Event ε)) :
    (Always step Settles ({} : FurnitureListViewController isWellFormed ε) events ↔
      Guarded step FailsRescued ({} : FurnitureListViewController isWellFormed ε) events) ∧
    (Guarded step FailsRescued ({} : FurnitureListViewController isWellFormed ε) events →
      Always step Idle ({} : FurnitureListViewController isWellFormed ε) events) := by
  have initial : Rescued ({} : FurnitureListViewController isWellFormed ε) :=
    ⟨rfl, fun spins => nomatch spins⟩
  have settles : Always step Settles ({} : FurnitureListViewController isWellFormed ε) events ↔
      Guarded step FailsRescued ({} : FurnitureListViewController isWellFormed ε) events :=
    always_iff_guarded (fun _ inv => inv.settles)
      (fun _ _ _ inv allowed taken => inv.step allowed taken)
      (fun _ _ _ inv refused taken => not_settles_of_failure inv.agree refused taken) initial events
  exact ⟨settles, fun guarded => (settles.mpr guarded).mono fun _ settles => settles.idle⟩

/-- The list is pulled without a connection, and both closures of the failure run. -/
def pulledOffline : List (Event String) :=
  [.refreshPulled, .retrieved none (some "The Internet connection appears to be offline."),
    .runMain, .runMain]

/-- The control spins although nothing is going on. -/
theorem not_idle : ¬ ∀ (isWellFormed : String → Bool) (events : List (Event String)),
    Always step Idle ({} : FurnitureListViewController isWellFormed String) events := by
  intro idle
  have final := (idle (fun _ => true) pulledOffline).atEnd rfl
  exact absurd (final rfl rfl) (by decide)

end FurnitureListViewController

end FurnitureAR
