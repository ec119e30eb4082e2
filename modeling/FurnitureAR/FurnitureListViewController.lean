import FurnitureAR.Catalogue
import FurnitureAR.Library.Execution

/-!
# The screen with the list

A fetch is started whenever the screen appears and whenever the list is pulled, so fetches
overlap. Firestore may answer them in any order, and each answer sends two closures to the main
queue.
-/
namespace FurnitureAR

namespace FurnitureListViewController

/-- The closures that a completed fetch sends to the main queue. -/
inductive MainClosure (isWellFormed : String → Bool) (ε : Type) where
  | stopAnimating
  | insertNewFurnitures (furnitures : List (Furniture isWellFormed))
  | showErrorMessage (error : RetrievalError ε)

end FurnitureListViewController

structure FurnitureListViewController (isWellFormed : String → Bool) (ε : Type) where
  furnitureListTableView : FurnitureListTableView isWellFormed := {}
  isActivityIndicatorAnimating : Bool := true
  /-- The errors with whose alerts `present` has been called. UIKit ignores a call while another
  alert is shown. -/
  presentations : List (RetrievalError ε) := []
  /-- The fetches that Firestore has not answered yet. -/
  fetches : Nat := 0
  mainQueue : List (FurnitureListViewController.MainClosure isWellFormed ε) := []

namespace FurnitureListViewController

open Catalogue (Halt orCrash)

variable {isWellFormed : String → Bool} {ε : Type}

inductive Event (ε : Type) where
  | viewDidAppear
  | refreshPulled
  | retrieved (querySnapshot : Option (List FirestoreData)) (error : Option ε)
  | runMain

def fetchFurnitures (controller : FurnitureListViewController isWellFormed ε) :
    FurnitureListViewController isWellFormed ε :=
  { controller with fetches := controller.fetches + 1 }

/-- The refresh control spins from the pull on, and cannot be pulled while it does. -/
def refreshPulled (controller : FurnitureListViewController isWellFormed ε) :
    Except Halt (FurnitureListViewController isWellFormed ε) :=
  if controller.furnitureListTableView.isRefreshing then .error .notDelivered
  else
    .ok { controller with furnitureListTableView :=
      { controller.furnitureListTableView with isRefreshing := true } }.fetchFurnitures

/-- The completion of one of the fetches. -/
def retrieved (controller : FurnitureListViewController isWellFormed ε)
    (querySnapshot : Option (List FirestoreData)) (error : Option ε) :
    Except Halt (FurnitureListViewController isWellFormed ε) :=
  match controller.fetches with
  | 0 => .error .notDelivered
  | waiting + 1 =>
    let closure := match FurnitureService.retrieveAll querySnapshot error with
      | .ok furnitures => .insertNewFurnitures furnitures
      | .error error => .showErrorMessage error
    .ok { controller with
      fetches := waiting
      mainQueue := controller.mainQueue ++ [.stopAnimating, closure] }

/-- Run the first closure of the main queue. -/
def runMain (controller : FurnitureListViewController isWellFormed ε) :
    Except Halt (FurnitureListViewController isWellFormed ε) :=
  match controller.mainQueue with
  | [] => .error .notDelivered
  | closure :: rest =>
    let controller := { controller with mainQueue := rest }
    match closure with
    | .stopAnimating => .ok { controller with isActivityIndicatorAnimating := false }
    | .insertNewFurnitures furnitures => do
      let table ← orCrash (controller.furnitureListTableView.insertNewFurnitures furnitures)
      .ok { controller with furnitureListTableView := table }
    -- The refresh control is left as it is.
    | .showErrorMessage error =>
      .ok { controller with presentations := controller.presentations ++ [error] }

def step (controller : FurnitureListViewController isWellFormed ε) :
    Event ε → Except Halt (FurnitureListViewController isWellFormed ε)
  | .viewDidAppear => .ok controller.fetchFurnitures
  | .refreshPulled => controller.refreshPulled
  | .retrieved querySnapshot error => controller.retrieved querySnapshot error
  | .runMain => controller.runMain

end FurnitureListViewController

end FurnitureAR
