import FurnitureAR.FurnitureListTableView
import FurnitureAR.Library.Execution

/-!
# The rows refine the model

UIKit never looks at `furnitures` itself: it edits its rows by the index paths that it is
given, and crashes if the numbers do not add up. The two stay equal along any sequence of
insertions.
-/
namespace FurnitureAR

open Execution

namespace FurnitureListTableView

variable {isWellFormed : String → Bool} {table next : FurnitureListTableView isWellFormed}

/-- What the table view shows and reports is what the model says, and whatever is inserted
next passes UIKit's check of the number of rows. -/
structure RowsRefine (table : FurnitureListTableView isWellFormed) : Prop where
  agree : table.RowsAgree
  consistent : ∀ newFurnitures start, lastElementIndex table.furnitures = some start →
    ∃ next, table.insertNewFurnitures newFurnitures = .ok next ∧
      next.rows.length = table.rows.length +
        (insertedFurnituresIndexPaths (table.filteredNewFurnitures newFurnitures) start).length
  selected : ∀ row shown, table.rows[row]? = some shown →
    ∃ image, table.didSelectRowAt row = some (shown.furniture, image)

theorem RowsAgree.step (agree : table.RowsAgree) {newFurnitures : List (Furniture isWellFormed)}
    (taken : table.insertNewFurnitures newFurnitures = .ok next) : next.RowsAgree := by
  -- The filter cannot break the agreement, whatever it lets through.
  rw [insertNewFurnitures_eq agree] at taken
  cases taken
  exact agree.inserting _

theorem RowsAgree.didSelectRowAt (agree : table.RowsAgree) {row : Nat} {shown : Row isWellFormed}
    (member : table.rows[row]? = some shown) :
    table.didSelectRowAt row = some
      (shown.furniture, (table.cellForRow row).bind FurnitureTableViewCell.furnitureImage) := by
  rw [FurnitureListTableView.didSelectRowAt, agree.getElem?, member]
  rfl

theorem RowsAgree.refine (agree : table.RowsAgree) : table.RowsRefine where
  agree := agree
  consistent newFurnitures start _ := by
    refine ⟨_, insertNewFurnitures_eq agree newFurnitures, ?_⟩
    rw [insertedFurnituresIndexPaths_eq, List.length_range', FurnitureListTableView.inserting,
      RowInsertion.length_splice, List.length_map]
  selected row shown member := ⟨_, agree.didSelectRowAt member⟩

theorem RowsAgree.run_ok (agree : table.RowsAgree)
    (batches : List (List (Furniture isWellFormed))) :
    ∃ final, run insertNewFurnitures table batches = .ok final := by
  induction batches generalizing table with
  | nil => exact ⟨table, rfl⟩
  | cons newFurnitures batches ih =>
    obtain ⟨final, finished⟩ := ih (agree.inserting (table.filteredNewFurnitures newFurnitures))
    refine ⟨final, ?_⟩
    rw [run_cons, insertNewFurnitures_eq agree]
    exact finished

/-- No sequence of insertions into an empty table view crashes, and the rows refine the model
after each of them. -/
theorem rows_refine_model (batches : List (List (Furniture isWellFormed))) :
    (∃ final, run insertNewFurnitures {} batches = .ok final) ∧
      Always insertNewFurnitures RowsRefine {} batches := by
  have initial : ({} : FurnitureListTableView isWellFormed).RowsAgree := rfl
  refine ⟨initial.run_ok batches, ?_⟩
  have agree : Always insertNewFurnitures RowsAgree {} batches :=
    always_of_invariant (fun _ _ _ agree taken => agree.step taken) initial batches
  exact agree.mono fun _ agree => agree.refine

end FurnitureListTableView

end FurnitureAR
