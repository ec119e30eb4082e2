import FurnitureAR.FurnitureTableViewCell
import FurnitureAR.Library.RowInsertion
import Mathlib.Logic.Function.Basic

/-!
# The list of furniture

The table view with its model `furnitures`, and with the rows and cells that UIKit keeps for
it. The model and the rows are edited separately: the one by an insertion into an array, the
other by a list of index paths.
-/
namespace FurnitureAR

open RowInsertion (splice)

section Arrays

variable {α : Type}

def hasElements (collection : List α) : Bool := !collection.isEmpty

def lastElementIndex (array : List α) : Option Nat :=
  -- The index of the last element, not the one behind it: insertions go in front of it.
  if !hasElements array then some 0 else some (array.length - 1)

theorem lastElementIndex_eq (array : List α) :
    lastElementIndex array = some (array.length - 1) := by
  cases array <;> rfl

end Arrays

/-- Why the table view would crash. -/
inductive ListError where
  | indexOutOfRange
  | batchUpdate (error : RowInsertion.UpdateError)
  deriving DecidableEq

/-- `insert(contentsOf:at:)` -/
def insertContents {α : Type} (array newElements : List α) (index : Nat) :
    Except ListError (List α) :=
  if index ≤ array.length then .ok (splice array index newElements) else .error .indexOutOfRange

abbrev CellRef := Nat

/-- A row with the furniture that it is bound to, and with its cell while it is displayed. -/
structure Row (isWellFormed : String → Bool) where
  furniture : Furniture isWellFormed
  cell : Option CellRef := none
  deriving DecidableEq

structure FurnitureListTableView (isWellFormed : String → Bool) where
  furnitures : List (Furniture isWellFormed) := []
  rows : List (Row isWellFormed) := []
  cells : CellRef → Option (FurnitureTableViewCell isWellFormed) := fun _ => none
  nextCell : CellRef := 0
  isRefreshing : Bool := false

namespace FurnitureListTableView

variable {isWellFormed : String → Bool} (table : FurnitureListTableView isWellFormed)

/-! ## Inserting new items -/

def isFurnitureAlreadyExist (furnitureToFind : Furniture isWellFormed) : Bool :=
  -- Only the ids are compared.
  table.furnitures.any fun furniture => furniture.id = furnitureToFind.id

def filteredNewFurnitures (newFurnitures : List (Furniture isWellFormed)) :
    List (Furniture isWellFormed) :=
  newFurnitures.filter fun furniture => !table.isFurnitureAlreadyExist furniture

/-- The rows of the index paths, which are all in the one section. -/
def insertedFurnituresIndexPaths (newFurnitures : List (Furniture isWellFormed))
    (startInsertingIndex : Nat) : List Nat :=
  newFurnitures.zipIdx.map fun (_, offset) => startInsertingIndex + offset

/-- A row that has just been inserted. It has no cell until it is displayed. -/
def insertedRow (row : Nat) : Option (Row isWellFormed) :=
  table.furnitures[row]?.map fun furniture => { furniture }

/-- `performBatchUpdates` with `insertRows(at:)` -/
def insertRows (indexPaths : List Nat) :
    Except ListError (FurnitureListTableView isWellFormed) :=
  match RowInsertion.update table.rows indexPaths table.furnitures.length table.insertedRow with
  | .ok rows => .ok { table with rows := rows }
  | .error error => .error (.batchUpdate error)

def addToFurnituresList (newFurnitures : List (Furniture isWellFormed)) :
    Except ListError (FurnitureListTableView isWellFormed) :=
  if !hasElements newFurnitures then .ok table
  else
    match lastElementIndex table.furnitures with
    | none => .ok table
    | some startInsertingIndex => do
      let furnitures ← insertContents table.furnitures newFurnitures startInsertingIndex
      let table := { table with furnitures := furnitures }
      -- The index paths are computed from the batch and the index, without a look at the rows.
      table.insertRows (insertedFurnituresIndexPaths newFurnitures startInsertingIndex)

def endRefreshing : FurnitureListTableView isWellFormed := { table with isRefreshing := false }

def insertNewFurnitures (newFurnitures : List (Furniture isWellFormed)) :
    Except ListError (FurnitureListTableView isWellFormed) :=
  let table := table.endRefreshing
  table.addToFurnituresList (table.filteredNewFurnitures newFurnitures)

/-! ## Data source and delegate -/

def isDisplayed (reference : CellRef) : Bool :=
  table.rows.any fun row => row.cell = some reference

/-- `dequeueReusableCell(for:)` hands out a cell that no row displays, or a new one. -/
def dequeueReusableCell (reused : Option CellRef) :
    Option (CellRef × FurnitureTableViewCell isWellFormed × FurnitureListTableView isWellFormed) :=
  match reused with
  | none => some (table.nextCell, {}, { table with nextCell := table.nextCell + 1 })
  | some reference =>
    if table.isDisplayed reference then none
    else (table.cells reference).map fun cell => (reference, cell, table)

/-- A row comes into view: the cell that displays it from now on is bound to the furniture
at its index, which starts a download. -/
def cellForRowAt (row : Nat) (reference : CellRef) (cell : FurnitureTableViewCell isWellFormed) :
    Except ListError
      (FurnitureListTableView isWellFormed × Option (DownloadRequest isWellFormed)) :=
  match table.furnitures[row]? with
  | none => .error .indexOutOfRange
  | some furniture =>
    let (cell, request) := cell.setViewModel (some furniture)
    .ok
      ({ table with
          cells := Function.update table.cells reference (some cell)
          rows := table.rows.set row { furniture, cell := some reference } },
        request)

/-- A row goes out of view. Its cell may be used again. -/
def didEndDisplaying (row : Nat) : FurnitureListTableView isWellFormed :=
  { table with rows := table.rows.modify row fun shown => { shown with cell := none } }

/-- UIKit gives up a cell that no row displays. -/
def discardCell (reference : CellRef) : Option (FurnitureListTableView isWellFormed) :=
  if table.isDisplayed reference then none
  else some { table with cells := Function.update table.cells reference none }

/-- `cellForRow(at:)` -/
def cellForRow (row : Nat) : Option (FurnitureTableViewCell isWellFormed) := do
  let shown ← table.rows[row]?
  let reference ← shown.cell
  table.cells reference

/-- `tableView(_:didSelectRowAt:)`, with what it hands to the delegate. -/
def didSelectRowAt (row : Nat) : Option (Furniture isWellFormed × Option UIImage) := do
  let selectedFurnitureImage :=
    (table.cellForRow row).bind FurnitureTableViewCell.furnitureImage
  let furniture ← table.furnitures[row]?
  some (furniture, selectedFurnitureImage)

/-! ## What an insertion does -/

/-- The rows are bound to the model, row by row. -/
def RowsAgree : Prop := table.rows.map Row.furniture = table.furnitures

/-- The table view after an insertion of furniture that it does not have. -/
def inserting (newFurnitures : List (Furniture isWellFormed)) :
    FurnitureListTableView isWellFormed :=
  { table with
    furnitures := splice table.furnitures (table.furnitures.length - 1) newFurnitures
    rows := splice table.rows (table.furnitures.length - 1)
      (newFurnitures.map fun furniture => { furniture })
    isRefreshing := false }

variable {table}

theorem insertedFurnituresIndexPaths_eq (newFurnitures : List (Furniture isWellFormed))
    (start : Nat) :
    insertedFurnituresIndexPaths newFurnitures start =
      List.range' start newFurnitures.length := by
  have offsets : newFurnitures.zipIdx.map (·.2) = List.range' 0 newFurnitures.length := by
    rw [List.zipIdx_map_snd]
  calc insertedFurnituresIndexPaths newFurnitures start
      = (newFurnitures.zipIdx.map (·.2)).map (start + ·) := by
        rw [insertedFurnituresIndexPaths, List.map_map]
        rfl
    _ = List.range' start newFurnitures.length := by
        rw [offsets, List.map_add_range', Nat.add_zero]

theorem RowsAgree.length (agree : table.RowsAgree) :
    table.rows.length = table.furnitures.length := by
  rw [← show _ = table.furnitures from agree, List.length_map]

theorem RowsAgree.getElem? (agree : table.RowsAgree) (row : Nat) :
    table.furnitures[row]? = table.rows[row]?.map Row.furniture := by
  rw [← show _ = table.furnitures from agree, List.getElem?_map]

theorem RowsAgree.inserting (agree : table.RowsAgree)
    (newFurnitures : List (Furniture isWellFormed)) :
    (table.inserting newFurnitures).RowsAgree := by
  have bound : (newFurnitures.map fun furniture => ({ furniture } : Row isWellFormed)).map
      Row.furniture = newFurnitures := by
    simp [Function.comp_def]
  rw [RowsAgree, FurnitureListTableView.inserting, RowInsertion.map_splice, bound,
    show table.rows.map Row.furniture = table.furnitures from agree]

theorem insertContents_eq {α : Type} (array newElements : List α) :
    insertContents array newElements (array.length - 1) =
      .ok (splice array (array.length - 1) newElements) :=
  if_pos (Nat.sub_le _ _)

/-- The index paths tell UIKit to do to the rows what was done to the model. -/
theorem insertRows_eq (agree : table.RowsAgree)
    (newFurnitures : List (Furniture isWellFormed)) :
    { table with
        furnitures := splice table.furnitures (table.furnitures.length - 1) newFurnitures
        isRefreshing := false }.insertRows
      (insertedFurnituresIndexPaths newFurnitures (table.furnitures.length - 1)) =
      .ok (table.inserting newFurnitures) := by
  have start_le : table.furnitures.length - 1 ≤ table.furnitures.length := Nat.sub_le _ _
  have bound : ∀ offset < (newFurnitures.map fun furniture =>
      ({ furniture } : Row isWellFormed)).length,
      { table with
        furnitures := splice table.furnitures (table.furnitures.length - 1) newFurnitures
        isRefreshing := false }.insertedRow (table.furnitures.length - 1 + offset) =
      (newFurnitures.map fun furniture => { furniture })[offset]? := by
    intro offset small
    rw [List.length_map] at small
    rw [insertedRow, RowInsertion.getElem?_splice_inserted start_le small, List.getElem?_map]
  have inside : table.furnitures.length - 1 ≤ table.rows.length := by rwa [agree.length]
  have edited := RowInsertion.update_range inside bound
  rw [List.length_map, agree.length, ← RowInsertion.length_splice,
    ← insertedFurnituresIndexPaths_eq] at edited
  rw [insertRows, edited]
  rfl

/-- An insertion never fails on rows that agree with the model. -/
theorem insertNewFurnitures_eq (agree : table.RowsAgree)
    (newFurnitures : List (Furniture isWellFormed)) :
    table.insertNewFurnitures newFurnitures =
      .ok (table.inserting (table.filteredNewFurnitures newFurnitures)) := by
  have same : table.endRefreshing.filteredNewFurnitures newFurnitures =
      table.filteredNewFurnitures newFurnitures := rfl
  -- The guard against empty batches makes no difference to the result, but is a case of its own.
  rw [insertNewFurnitures, same]
  generalize table.filteredNewFurnitures newFurnitures = fresh
  cases fresh with
  | nil =>
    simp [addToFurnituresList, hasElements, endRefreshing, FurnitureListTableView.inserting]
  | cons furniture others =>
    rw [addToFurnituresList, if_neg (by simp [hasElements]), lastElementIndex_eq]
    simp only [endRefreshing, insertContents_eq]
    exact insertRows_eq agree (furniture :: others)

end FurnitureListTableView

end FurnitureAR
