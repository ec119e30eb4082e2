import FurnitureAR.ListUniqueness

/-!
# The order of the list

New furniture is inserted at the index of the last element, which is in front of that element.
Only an empty list grows at its end. This module says exactly which batches keep the list in the
order of arrival.
-/
namespace FurnitureAR

open Execution

namespace FurnitureListTableView

variable {isWellFormed : String → Bool} {table next : FurnitureListTableView isWellFormed}

/-- The batch without the ids that are already present is appended, and every row keeps its
index. -/
def Appends (table : FurnitureListTableView isWellFormed)
    (newFurnitures : List (Furniture isWellFormed)) : Prop :=
  ∃ next, table.insertNewFurnitures newFurnitures = .ok next ∧
    next.furnitures = table.furnitures ++ table.filteredNewFurnitures newFurnitures ∧
    table.rows <+: next.rows

/-- The list is empty, or the batch brings nothing that it does not have. -/
def KeepsOrder (table : FurnitureListTableView isWellFormed)
    (newFurnitures : List (Furniture isWellFormed)) : Prop :=
  table.furnitures = [] ∨
    ∀ furniture ∈ newFurnitures, table.isFurnitureAlreadyExist furniture = true

/-- After the first furniture, batches bring only ids that are known. -/
def OneArrival (known : List (Furniture isWellFormed)) :
    List (List (Furniture isWellFormed)) → Prop
  | [] => True
  | newFurnitures :: batches =>
    (known = [] ∨ ∀ furniture ∈ newFurnitures, ∃ old ∈ known, old.id = furniture.id) ∧
    OneArrival (known ++ newFurnitures) batches

theorem filteredNewFurnitures_eq_nil_iff {newFurnitures : List (Furniture isWellFormed)} :
    table.filteredNewFurnitures newFurnitures = [] ↔
      ∀ furniture ∈ newFurnitures, table.isFurnitureAlreadyExist furniture = true := by
  simp [filteredNewFurnitures, List.filter_eq_nil_iff]

theorem appends_iff (agree : table.RowsAgree) (newFurnitures : List (Furniture isWellFormed)) :
    table.Appends newFurnitures ↔ table.KeepsOrder newFurnitures := by
  have fresh : ∀ furniture ∈ table.filteredNewFurnitures newFurnitures,
      furniture ∉ table.furnitures := by
    intro furniture member listed
    exact (mem_filteredNewFurnitures.mp member).2 furniture listed rfl
  have appended := RowInsertion.splice_last_iff fresh
  rw [KeepsOrder, ← filteredNewFurnitures_eq_nil_iff, ← appended, Appends]
  constructor
  · rintro ⟨next, taken, same, -⟩
    rw [insertNewFurnitures_eq agree] at taken
    cases taken
    exact same
  · intro same
    refine ⟨_, insertNewFurnitures_eq agree newFurnitures, same, ?_⟩
    -- The rows are spliced like the furniture, so they are appended in the same two cases.
    rcases appended.mp same with empty | nothing
    · have noRows : table.rows = [] := by
        rw [← List.length_eq_zero_iff, agree.length, empty, List.length_nil]
      rw [noRows]
      exact List.nil_prefix
    · rw [nothing]
      simp [inserting]

theorem Knows.keepsOrder_iff {known : List (Furniture isWellFormed)}
    (knows : table.Knows known) (newFurnitures : List (Furniture isWellFormed)) :
    table.KeepsOrder newFurnitures ↔
      known = [] ∨ ∀ furniture ∈ newFurnitures, ∃ old ∈ known, old.id = furniture.id := by
  have none : table.furnitures = [] ↔ known = [] := by
    simp only [List.eq_nil_iff_forall_not_mem]
    constructor
    · intro empty furniture member
      obtain ⟨old, listed, -⟩ := (knows furniture.id).mpr ⟨furniture, member, rfl⟩
      exact empty old listed
    · intro empty furniture listed
      obtain ⟨old, member, -⟩ := (knows furniture.id).mp ⟨furniture, listed, rfl⟩
      exact empty old member
  simp only [KeepsOrder, none, isFurnitureAlreadyExist_iff, knows _]

theorem guarded_iff_oneArrival (agree : table.RowsAgree)
    {known : List (Furniture isWellFormed)} (knows : table.Knows known)
    (batches : List (List (Furniture isWellFormed))) :
    Guarded insertNewFurnitures Appends table batches ↔ OneArrival known batches := by
  induction batches generalizing table known with
  | nil => exact Iff.rfl
  | cons newFurnitures batches ih =>
    have rest := ih (agree.inserting (table.filteredNewFurnitures newFurnitures))
      (knows.inserting newFurnitures)
    rw [OneArrival, ← knows.keepsOrder_iff, ← appends_iff agree, ← rest]
    constructor
    · exact fun guarded => guarded _ (insertNewFurnitures_eq agree newFurnitures)
    · rintro ⟨appends, guarded⟩
      exact guarded_cons (insertNewFurnitures_eq agree newFurnitures) appends guarded

/-- A batch is appended to a list that insertions have made if and only if the list is empty or
has all the ids of the batch, and a sequence of batches is listed in the order of arrival if and
only if no batch after the first furniture brings a new id. -/
theorem arrival_order_iff (batches : List (List (Furniture isWellFormed))) :
    (∀ table, run insertNewFurnitures {} batches = .ok table → ∀ newFurnitures,
      table.Appends newFurnitures ↔ table.KeepsOrder newFurnitures) ∧
    (Guarded insertNewFurnitures Appends {} batches ↔ OneArrival [] batches) := by
  have initial : ({} : FurnitureListTableView isWellFormed).RowsAgree := rfl
  constructor
  · intro table reached newFurnitures
    have agree : Always insertNewFurnitures RowsAgree {} batches :=
      always_of_invariant (fun _ _ _ agree taken => agree.step taken) initial batches
    exact appends_iff (agree.atEnd reached) newFurnitures
  · exact guarded_iff_oneArrival initial (fun id => Iff.rfl) batches

/-- A chair, and a lamp in a later batch. -/
def chairThenLamp : List (List (Furniture fun _ => true)) :=
  [[⟨1, "chair", "oak", ⟨"chair.png", rfl⟩⟩], [⟨2, "lamp", "brass", ⟨"lamp.png", rfl⟩⟩]]

/-- The lamp is listed in front of the chair. -/
theorem not_arrival_order : ¬ ∀ batches : List (List (Furniture fun _ => true)),
    Guarded insertNewFurnitures Appends {} batches := by
  intro appends
  have initial : ({} : FurnitureListTableView fun _ => true).RowsAgree := rfl
  have arrival := (guarded_iff_oneArrival initial (fun id => Iff.rfl) chairThenLamp).mp
    (appends chairThenLamp)
  obtain ⟨-, empty | known, -⟩ := arrival
  · cases empty
  · obtain ⟨old, member, same⟩ := known _ List.mem_cons_self
    simp only [List.nil_append, List.mem_singleton] at member
    subst member
    cases same

end FurnitureListTableView

end FurnitureAR
