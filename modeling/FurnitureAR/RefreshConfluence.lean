import FurnitureAR.FurnitureListViewController
import FurnitureAR.ListUniqueness

/-!
# Fetches may overlap

Snapshots arrive in any order, and one of them may be delivered while the furniture of others
still waits in the main queue. Which ids are listed in the end depends only on which snapshots
were delivered.
-/
namespace FurnitureAR

open Execution

namespace FurnitureListViewController

variable {isWellFormed : String → Bool} {ε : Type}
  {controller next : FurnitureListViewController isWellFormed ε}

/-! ## What is delivered -/

/-- The snapshot of a fetch that succeeds. -/
def Event.snapshot : Event ε → Option (List FirestoreData)
  | .retrieved querySnapshot none => querySnapshot
  | _ => none

def delivered (events : List (Event ε)) : List (List FirestoreData) :=
  events.filterMap Event.snapshot

/-- Some document of the snapshots has all fields of a furniture with this id. -/
def Describes (isWellFormed : String → Bool) (snapshots : List (List FirestoreData)) (id : Int) :
    Prop :=
  ∃ snapshot ∈ snapshots, ∃ document ∈ snapshot, ∃ furniture : Furniture isWellFormed,
    Furniture.DescribedBy document furniture ∧ furniture.id = id

def Lists (controller : FurnitureListViewController isWellFormed ε) (id : Int) : Prop :=
  ∃ furniture ∈ controller.furnitureListTableView.furnitures, furniture.id = id

/-- Run the closures that wait in the main queue. -/
def drain (controller : FurnitureListViewController isWellFormed ε) :
    Except Catalogue.Halt (FurnitureListViewController isWellFormed ε) :=
  run step controller (List.replicate controller.mainQueue.length .runMain)

def furnituresOf (snapshots : List (List FirestoreData)) : List (Furniture isWellFormed) :=
  snapshots.flatMap fun documents => documents.filterMap Furniture.ofFirestoreData

theorem describes_iff {snapshots : List (List FirestoreData)} {id : Int} :
    Describes isWellFormed snapshots id ↔
      ∃ furniture ∈ (furnituresOf snapshots : List (Furniture isWellFormed)),
        furniture.id = id := by
  simp only [furnituresOf, List.mem_flatMap, List.mem_filterMap,
    Furniture.ofFirestoreData_eq_some_iff]
  constructor
  · rintro ⟨snapshot, member, document, inside, furniture, described, same⟩
    exact ⟨furniture, ⟨snapshot, member, document, inside, described⟩, same⟩
  · rintro ⟨furniture, ⟨snapshot, member, document, inside, described⟩, same⟩
    exact ⟨snapshot, member, document, inside, furniture, described, same⟩

theorem Describes.perm {snapshots others : List (List FirestoreData)}
    (reordered : snapshots.Perm others) (id : Int) :
    Describes isWellFormed snapshots id ↔ Describes isWellFormed others id := by
  simp only [Describes, reordered.mem_iff]

/-! ## One step -/

/-- The furniture that a closure inserts. -/
def MainClosure.furnitures : MainClosure isWellFormed ε → List (Furniture isWellFormed)
  | .insertNewFurnitures furnitures => furnitures
  | .stopAnimating | .showErrorMessage _ => []

/-- The closure at the head of the queue does to the list what its furniture says. -/
theorem runMain_cases (agree : controller.furnitureListTableView.RowsAgree)
    (taken : controller.runMain = .ok next) :
    ∃ closure rest, controller.mainQueue = closure :: rest ∧ next.mainQueue = rest ∧
      ∃ table, controller.furnitureListTableView.insertNewFurnitures closure.furnitures =
          .ok table ∧
        next.furnitureListTableView.furnitures = table.furnitures ∧
        next.furnitureListTableView.rows = table.rows := by
  unfold runMain at taken
  split at taken
  · cases taken
  next closure rest queue =>
    refine ⟨closure, rest, queue, ?_⟩
    have edited := FurnitureListTableView.insertNewFurnitures_eq agree closure.furnitures
    cases closure with
    | insertNewFurnitures furnitures =>
      simp only [MainClosure.furnitures] at edited
      simp only [edited, Catalogue.orCrash, bind, Except.bind, Except.ok.injEq] at taken
      subst taken
      exact ⟨rfl, _, edited, rfl, rfl⟩
    -- The other closures insert nothing.
    | stopAnimating =>
      cases taken
      exact ⟨rfl, _, edited, RowInsertion.splice_nil.symm, RowInsertion.splice_nil.symm⟩
    | showErrorMessage error =>
      cases taken
      exact ⟨rfl, _, edited, RowInsertion.splice_nil.symm, RowInsertion.splice_nil.symm⟩

theorem runMain_ok (agree : controller.furnitureListTableView.RowsAgree)
    (waits : controller.mainQueue ≠ []) : ∃ next, controller.runMain = .ok next := by
  unfold runMain
  split
  next empty => exact absurd empty waits
  next closure rest queue =>
    cases closure with
    | insertNewFurnitures furnitures =>
      have edited := FurnitureListTableView.insertNewFurnitures_eq agree furnitures
      exact ⟨_, by simp only [edited, Catalogue.orCrash, bind, Except.bind]; rfl⟩
    | stopAnimating => exact ⟨_, rfl⟩
    | showErrorMessage error => exact ⟨_, rfl⟩

/-- A step that does not run a closure leaves the list as it is, and makes the furniture of
the snapshot that it delivers wait. -/
theorem step_cases {event : Event ε} (taken : step controller event = .ok next) :
    event = .runMain ∨
      next.furnitureListTableView.furnitures = controller.furnitureListTableView.furnitures ∧
      next.furnitureListTableView.rows = controller.furnitureListTableView.rows ∧
      next.mainQueue.flatMap MainClosure.furnitures =
        controller.mainQueue.flatMap MainClosure.furnitures ++
          furnituresOf event.snapshot.toList := by
  cases event with
  | runMain => exact .inl rfl
  | viewDidAppear =>
    cases taken
    exact .inr ⟨rfl, rfl, (List.append_nil _).symm⟩
  | refreshPulled =>
    simp only [step, refreshPulled] at taken
    split at taken
    · cases taken
    · cases taken
      exact .inr ⟨rfl, rfl, (List.append_nil _).symm⟩
  | retrieved querySnapshot error =>
    simp only [step, retrieved] at taken
    split at taken
    · cases taken
    · cases taken
      refine .inr ⟨rfl, rfl, ?_⟩
      rw [List.flatMap_append]
      congr 1
      -- An error wins over a snapshot.
      cases error with
      | some error => rfl
      | none =>
        cases querySnapshot with
        | none => rfl
        | some documents => simp [FurnitureService.retrieveAll, MainClosure.furnitures,
            furnituresOf, Event.snapshot]

/-! ## Whole runs -/

/-- What has been received is what the list knows, and what waits to be inserted. -/
structure Received (controller : FurnitureListViewController isWellFormed ε)
    (received : List (Furniture isWellFormed)) : Prop where
  agree : controller.furnitureListTableView.RowsAgree
  known : ∃ inserted, controller.furnitureListTableView.Knows inserted ∧
    inserted ++ controller.mainQueue.flatMap MainClosure.furnitures = received

theorem rowsAgree_step (agree : controller.furnitureListTableView.RowsAgree) {event : Event ε}
    (taken : step controller event = .ok next) : next.furnitureListTableView.RowsAgree := by
  rw [FurnitureListTableView.RowsAgree] at agree ⊢
  rcases step_cases taken with rfl | ⟨furnitures, rows, -⟩
  · obtain ⟨closure, rest, -, -, table, inserted, furnitures, rows⟩ := runMain_cases agree taken
    rw [furnitures, rows]
    exact FurnitureListTableView.RowsAgree.step agree inserted
  · rw [furnitures, rows]
    exact agree

theorem Received.step {received : List (Furniture isWellFormed)}
    (history : controller.Received received) {event : Event ε}
    (taken : step controller event = .ok next) :
    next.Received (received ++ furnituresOf event.snapshot.toList) := by
  refine ⟨rowsAgree_step history.agree taken, ?_⟩
  obtain ⟨inserted, knows, rfl⟩ := history.known
  rcases step_cases taken with rfl | ⟨furnitures, -, waiting⟩
  · obtain ⟨closure, rest, queue, left, table, edited, furnitures, -⟩ :=
      runMain_cases history.agree taken
    rw [FurnitureListTableView.insertNewFurnitures_eq history.agree] at edited
    cases edited
    -- The furniture of the closure moves from the queue to the list.
    refine ⟨inserted ++ closure.furnitures, ?_, ?_⟩
    · have knows := knows.inserting closure.furnitures
      rw [FurnitureListTableView.Knows] at knows ⊢
      rwa [furnitures]
    · simp [queue, left, furnituresOf, Event.snapshot]
  · refine ⟨inserted, ?_, ?_⟩
    · rw [FurnitureListTableView.Knows] at knows ⊢
      rwa [furnitures]
    · rw [waiting, List.append_assoc]

theorem run_received {received : List (Furniture isWellFormed)}
    (history : controller.Received received) {events : List (Event ε)}
    (finished : run step controller events = .ok next) :
    next.Received (received ++ furnituresOf (delivered events)) := by
  induction events generalizing controller received with
  | nil =>
    cases finished
    simpa [furnituresOf, delivered] using history
  | cons event events ih =>
    obtain ⟨middle, taken, rest⟩ := run_cons_ok finished
    have later := ih (history.step taken) rest
    rw [List.append_assoc] at later
    convert later using 2
    cases snapshot : event.snapshot <;> simp [delivered, snapshot, furnituresOf]

theorem received_of_run {events : List (Event ε)}
    (finished : run step ({} : FurnitureListViewController isWellFormed ε) events = .ok next) :
    next.Received (furnituresOf (delivered events)) := by
  have initial : ({} : FurnitureListViewController isWellFormed ε).Received [] :=
    ⟨rfl, [], fun id => Iff.rfl, rfl⟩
  exact run_received initial finished

/-- Once the queue is empty, exactly the ids that were received are listed. -/
theorem Received.lists_iff {snapshots : List (List FirestoreData)}
    (history : controller.Received (furnituresOf snapshots)) (empty : controller.mainQueue = [])
    (id : Int) : controller.Lists id ↔ Describes isWellFormed snapshots id := by
  obtain ⟨inserted, knows, all⟩ := history.known
  rw [empty, List.flatMap_nil, List.append_nil] at all
  rw [describes_iff, ← all]
  exact knows id

theorem drain_ok (agree : controller.furnitureListTableView.RowsAgree) :
    ∃ final, controller.drain = .ok final ∧ final.mainQueue = [] := by
  unfold drain
  generalize size : controller.mainQueue.length = length
  induction length generalizing controller with
  | zero => exact ⟨controller, rfl, List.length_eq_zero_iff.mp size⟩
  | succ length ih =>
    have waits : controller.mainQueue ≠ [] := by
      rintro empty
      simp [empty] at size
    obtain ⟨next, taken⟩ := runMain_ok agree waits
    obtain ⟨closure, rest, queue, left, -⟩ := runMain_cases agree taken
    have shorter : next.mainQueue.length = length := by
      rw [queue, List.length_cons] at size
      rw [left]
      exact Nat.succ_injective size
    have ran : step controller .runMain = .ok next := taken
    obtain ⟨final, finished, empty⟩ := ih (rowsAgree_step agree ran) shorter
    refine ⟨final, ?_, empty⟩
    rw [List.replicate_succ, run_cons, ran]
    exact finished

/-! ## What is listed stays listed -/

theorem furnitures_sublist (agree : controller.furnitureListTableView.RowsAgree)
    {event : Event ε} (taken : step controller event = .ok next) :
    controller.furnitureListTableView.furnitures.Sublist
      next.furnitureListTableView.furnitures := by
  rcases step_cases taken with rfl | ⟨furnitures, -⟩
  · obtain ⟨closure, rest, -, -, table, edited, furnitures, -⟩ := runMain_cases agree taken
    rw [FurnitureListTableView.insertNewFurnitures_eq agree] at edited
    cases edited
    rw [furnitures]
    exact RowInsertion.sublist_splice
  · rw [furnitures]

theorem run_furnitures_sublist (agree : controller.furnitureListTableView.RowsAgree)
    {events : List (Event ε)} (finished : run step controller events = .ok next) :
    next.furnitureListTableView.RowsAgree ∧
      controller.furnitureListTableView.furnitures.Sublist
        next.furnitureListTableView.furnitures := by
  have kept : Always step (fun later => later.furnitureListTableView.RowsAgree ∧
      controller.furnitureListTableView.furnitures.Sublist
        later.furnitureListTableView.furnitures) controller events :=
    always_of_invariant (fun state event later invariant taken =>
        ⟨rowsAgree_step invariant.1 taken,
          invariant.2.trans (furnitures_sublist invariant.1 taken)⟩)
      ⟨agree, List.Sublist.refl _⟩ events
  exact kept.atEnd finished

/-- Furniture that has been inserted once is not inserted again. -/
theorem runMain_again (agree : controller.furnitureListTableView.RowsAgree)
    {furnitures : List (Furniture isWellFormed)}
    (first : controller.mainQueue.head? = some (.insertNewFurnitures furnitures))
    (ran : step controller .runMain = .ok next) {events : List (Event ε)}
    {later last : FurnitureListViewController isWellFormed ε}
    (finished : run step next events = .ok later)
    (second : later.mainQueue.head? = some (.insertNewFurnitures furnitures))
    (ranAgain : step later .runMain = .ok last) :
    last.furnitureListTableView.furnitures = later.furnitureListTableView.furnitures := by
  obtain ⟨closure, rest, queue, -, table, edited, inserted, -⟩ := runMain_cases agree ran
  obtain ⟨again, rest', queue', -, table', edited', inserted', -⟩ :=
    runMain_cases (run_furnitures_sublist (rowsAgree_step agree ran) finished).1 ranAgain
  have listed := (run_furnitures_sublist (rowsAgree_step agree ran) finished).2
  have later_agrees := (run_furnitures_sublist (rowsAgree_step agree ran) finished).1
  rw [queue, List.head?_cons, Option.some.injEq] at first
  rw [queue', List.head?_cons, Option.some.injEq] at second
  subst first second
  rw [FurnitureListTableView.insertNewFurnitures_eq agree] at edited
  rw [FurnitureListTableView.insertNewFurnitures_eq later_agrees] at edited'
  cases edited
  cases edited'
  -- The ids are all listed since the first time, so the filter lets nothing through.
  have nothing : later.furnitureListTableView.filteredNewFurnitures furnitures = [] := by
    rw [List.eq_nil_iff_forall_not_mem]
    intro furniture member
    obtain ⟨new, unknown⟩ := FurnitureListTableView.mem_filteredNewFurnitures.mp member
    have known := (FurnitureListTableView.Knows.inserting
      (fun id => Iff.rfl : controller.furnitureListTableView.Knows _) furnitures
        furniture.id).mpr ⟨furniture, List.mem_append_right _ new, rfl⟩
    obtain ⟨old, member, same⟩ := known
    exact unknown old (listed.subset (inserted ▸ member)) same
  rw [inserted']
  simp only [MainClosure.furnitures, nothing]
  exact RowInsertion.splice_nil

/-! ## All orders -/

theorem run_viewDidAppear (count : Nat) :
    run step controller (List.replicate count .viewDidAppear) =
      .ok { controller with fetches := controller.fetches + count } := by
  induction count generalizing controller with
  | zero => rfl
  | succ count ih =>
    rw [List.replicate_succ, run_cons, step, Except.bind, ih, fetchFurnitures]
    simp only [Nat.add_right_comm controller.fetches 1 count, ← Nat.add_assoc]

theorem run_retrieved {snapshots : List (List FirestoreData)}
    (started : snapshots.length ≤ controller.fetches) :
    ∃ final, run step controller
      (snapshots.map fun documents => .retrieved (some documents) none) = .ok final := by
  induction snapshots generalizing controller with
  | nil => exact ⟨controller, rfl⟩
  | cons documents snapshots ih =>
    cases fetches : controller.fetches with
    | zero => simp [fetches] at started
    | succ waiting =>
      rw [List.map_cons, run_cons, step, retrieved, fetches]
      refine ih (Nat.le_of_succ_le_succ ?_)
      rwa [fetches] at started

/-- Fetches that overlap may be answered by any snapshots, in any order. -/
theorem deliverable (snapshots : List (List FirestoreData)) :
    ∃ (events : List (Event ε)) (final : FurnitureListViewController isWellFormed ε),
      run step {} events = .ok final ∧ delivered events = snapshots := by
  refine ⟨List.replicate snapshots.length .viewDidAppear ++
    snapshots.map fun documents => .retrieved (some documents) none, ?_⟩
  have started : snapshots.length ≤ ({ fetches := 0 + snapshots.length } :
      FurnitureListViewController isWellFormed ε).fetches := Nat.le_add_left _ _
  obtain ⟨final, answered⟩ := run_retrieved started
  refine ⟨final, ?_, ?_⟩
  · rw [run_append, run_viewDidAppear]
    exact answered
  · have none : delivered (List.replicate snapshots.length (.viewDidAppear : Event ε)) = [] := by
      simp [delivered, Event.snapshot]
    rw [delivered, List.filterMap_append, ← delivered, none, List.nil_append,
      List.filterMap_map]
    exact List.filterMap_some

/-- The main queue can always be emptied, and exactly the ids of the delivered documents are
listed then, in whichever order the fetches complete; a second delivery changes nothing; and no
step removes, alters or reorders what is listed. -/
theorem refresh_confluence :
    (∀ (events : List (Event ε)) (controller : FurnitureListViewController isWellFormed ε),
      run step {} events = .ok controller → ∃ final, controller.drain = .ok final ∧
        final.mainQueue = [] ∧
        ∀ id, final.Lists id ↔ Describes isWellFormed (delivered events) id) ∧
    (∀ (events others : List (Event ε))
      (controller other : FurnitureListViewController isWellFormed ε),
      run step {} events = .ok controller → run step {} others = .ok other →
      (delivered events).Perm (delivered others) →
      controller.mainQueue = [] → other.mainQueue = [] →
        ∀ id, controller.Lists id ↔ other.Lists id) ∧
    (∀ (events : List (Event ε)) (controller : FurnitureListViewController isWellFormed ε),
      run step {} events = .ok controller → ∀ furnitures next,
        controller.mainQueue.head? = some (.insertNewFurnitures furnitures) →
        step controller .runMain = .ok next →
        ∀ between later last, run step next between = .ok later →
          later.mainQueue.head? = some (.insertNewFurnitures furnitures) →
          step later .runMain = .ok last →
          last.furnitureListTableView.furnitures = later.furnitureListTableView.furnitures) ∧
    (∀ (events : List (Event ε)) (controller : FurnitureListViewController isWellFormed ε),
      run step {} events = .ok controller → ∀ event next, step controller event = .ok next →
        controller.furnitureListTableView.furnitures.Sublist
          next.furnitureListTableView.furnitures) := by
  refine ⟨?_, ?_, ?_, ?_⟩
  · intro events controller reached
    obtain ⟨final, drained, empty⟩ := drain_ok (received_of_run reached).agree
    refine ⟨final, drained, empty, fun id => ?_⟩
    -- Draining delivers no further snapshot.
    have history := run_received (received_of_run reached) drained
    have nothing : delivered
        (List.replicate controller.mainQueue.length (.runMain : Event ε)) = [] := by
      simp [delivered, Event.snapshot]
    rw [nothing, furnituresOf, furnituresOf, List.flatMap_nil, List.append_nil] at history
    exact history.lists_iff empty id
  · intro events others controller other reached also reordered empty empty' id
    rw [(received_of_run reached).lists_iff empty, (received_of_run also).lists_iff empty']
    exact Describes.perm reordered id
  · intro events controller reached furnitures next first ran between later last finished second
      again
    exact runMain_again (received_of_run reached).agree first ran finished second again
  · intro events controller reached event next taken
    exact furnitures_sublist (received_of_run reached).agree taken

end FurnitureListViewController

end FurnitureAR
