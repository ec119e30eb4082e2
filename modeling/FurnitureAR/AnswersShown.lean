import FurnitureAR.Library.FifoQueue
import FurnitureAR.RefreshControl

/-!
# Answers are shown

Whatever Firestore answers is passed on to the screen, whichever fetches overlap: the indicator
stops for good, and the documents are listed for good or an alert with the error is asked for.
-/
namespace FurnitureAR

open Execution

namespace FurnitureListViewController

variable {isWellFormed : String → Bool} {ε : Type}
  {controller next : FurnitureListViewController isWellFormed ε}

theorem retrieved_mainQueue {querySnapshot : Option (List FirestoreData)} {error : Option ε}
    (taken : controller.retrieved querySnapshot error = .ok next) :
    next.mainQueue = controller.mainQueue ++ [.stopAnimating, answer querySnapshot error] := by
  obtain ⟨waiting, -, rfl⟩ := retrieved_cases taken
  rfl

/-- Only the closures of the main queue take something from it. -/
theorem mainQueue_grows {event : Event ε} (notRun : event ≠ .runMain)
    (taken : step controller event = .ok next) :
    ∃ more, next.mainQueue = controller.mainQueue ++ more := by
  cases event with
  | viewDidAppear =>
    cases taken
    exact ⟨[], (List.append_nil _).symm⟩
  | refreshPulled =>
    simp only [step, refreshPulled] at taken
    split at taken
    · cases taken
    · cases taken
      exact ⟨[], (List.append_nil _).symm⟩
  | retrieved querySnapshot error => exact ⟨_, retrieved_mainQueue taken⟩
  | runMain => exact absurd rfl notRun

section Progress

variable (trace : Trace (step : FurnitureListViewController isWellFormed ε → Event ε →
  Except Catalogue.Halt (FurnitureListViewController isWellFormed ε)))

/-- The main queue is served while closures wait in it. -/
def Fair : Prop :=
  ∀ n, (trace.state n).mainQueue ≠ [] → ∃ later, n ≤ later ∧ trace.event later = .runMain

variable {trace} (agree : ∀ n, (trace.state n).furnitureListTableView.RowsAgree)

include agree

theorem mainQueue_fifo (fair : Fair trace) :
    trace.Fifo mainQueue fun _ event => event = .runMain where
  served n run := by
    have taken := trace.taken n
    rw [run] at taken
    obtain ⟨closure, rest, queue, left, -⟩ := runMain_cases (agree n) taken
    exact ⟨closure, rest, [], queue, left.trans (List.append_nil _).symm⟩
  waits n notRun := mainQueue_grows notRun (trace.taken n)
  fair := fair

omit agree

end Progress

end FurnitureListViewController

end FurnitureAR
