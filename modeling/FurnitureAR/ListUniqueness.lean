import FurnitureAR.ListRefinement
import Mathlib.Data.List.Nodup

/-!
# When the ids in the list are distinct

A batch is filtered against the list as it was before the batch, so furniture that repeats an
id within one batch slips through. This module says exactly which batches do harm.
-/
namespace FurnitureAR

open Execution

namespace FurnitureListTableView

variable {isWellFormed : String → Bool} {table next : FurnitureListTableView isWellFormed}

def IdsDistinct (table : FurnitureListTableView isWellFormed) : Prop :=
  (table.furnitures.map Furniture.id).Nodup

instance : Decidable table.IdsDistinct :=
  inferInstanceAs (Decidable (table.furnitures.map Furniture.id).Nodup)

/-- A batch repeats only ids of furniture that was known before it. -/
def FreshIdsDistinct (known : List (Furniture isWellFormed)) :
    List (List (Furniture isWellFormed)) → Prop
  | [] => True
  | newFurnitures :: batches =>
    (newFurnitures.Pairwise fun first second => first.id = second.id →
      ∃ furniture ∈ known, furniture.id = first.id) ∧
    FreshIdsDistinct (known ++ newFurnitures) batches

/-- What the filter lets through has distinct ids. -/
def FiltersDistinct (table : FurnitureListTableView isWellFormed)
    (newFurnitures : List (Furniture isWellFormed)) : Prop :=
  ((table.filteredNewFurnitures newFurnitures).map Furniture.id).Nodup

theorem isFurnitureAlreadyExist_iff {furnitureToFind : Furniture isWellFormed} :
    table.isFurnitureAlreadyExist furnitureToFind = true ↔
      ∃ furniture ∈ table.furnitures, furniture.id = furnitureToFind.id := by
  simp [isFurnitureAlreadyExist]

theorem mem_filteredNewFurnitures {furniture : Furniture isWellFormed}
    {newFurnitures : List (Furniture isWellFormed)} :
    furniture ∈ table.filteredNewFurnitures newFurnitures ↔
      furniture ∈ newFurnitures ∧ ∀ known ∈ table.furnitures, known.id ≠ furniture.id := by
  simp [filteredNewFurnitures, isFurnitureAlreadyExist]

/-- Nothing that the filter lets through repeats an id of the list, so the ids stay distinct
when the new ones are. -/
theorem idsDistinct_inserting (newFurnitures : List (Furniture isWellFormed)) :
    (table.inserting (table.filteredNewFurnitures newFurnitures)).IdsDistinct ↔
      table.IdsDistinct ∧ table.FiltersDistinct newFurnitures := by
  rw [IdsDistinct, inserting, (RowInsertion.splice_perm.map Furniture.id).nodup_iff,
    List.map_append, List.nodup_append']
  refine and_congr_right fun _ => and_iff_left_of_imp fun _ => ?_
  intro id known new
  simp only [List.mem_map, mem_filteredNewFurnitures] at known new
  obtain ⟨old, listed, rfl⟩ := known
  obtain ⟨furniture, ⟨-, unknown⟩, same⟩ := new
  -- An id in both parts is one that the filter has refused.
  exact unknown old listed same.symm

/-- The filter knows the ids of all earlier batches, and no others. -/
def Knows (table : FurnitureListTableView isWellFormed)
    (known : List (Furniture isWellFormed)) : Prop :=
  ∀ id, (∃ furniture ∈ table.furnitures, furniture.id = id) ↔
    ∃ furniture ∈ known, furniture.id = id

theorem Knows.inserting {known : List (Furniture isWellFormed)} (knows : table.Knows known)
    (newFurnitures : List (Furniture isWellFormed)) :
    (table.inserting (table.filteredNewFurnitures newFurnitures)).Knows
      (known ++ newFurnitures) := by
  intro id
  constructor
  · rintro ⟨furniture, member, rfl⟩
    rw [FurnitureListTableView.inserting, RowInsertion.mem_splice,
      mem_filteredNewFurnitures] at member
    rcases member with listed | ⟨new, -⟩
    · obtain ⟨old, earlier, same⟩ := (knows _).mp ⟨furniture, listed, rfl⟩
      exact ⟨old, List.mem_append_left _ earlier, same⟩
    · exact ⟨furniture, List.mem_append_right _ new, rfl⟩
  · rintro ⟨furniture, member, rfl⟩
    simp only [FurnitureListTableView.inserting, RowInsertion.mem_splice,
      mem_filteredNewFurnitures]
    by_cases listed : ∃ old ∈ table.furnitures, old.id = furniture.id
    · obtain ⟨old, member, same⟩ := listed
      exact ⟨old, .inl member, same⟩
    · -- No id of the list, so it is no id of an earlier batch either.
      have new : furniture ∈ newFurnitures :=
        (List.mem_append.mp member).resolve_left fun earlier =>
          listed ((knows _).mpr ⟨furniture, earlier, rfl⟩)
      exact ⟨furniture, .inr ⟨new, fun old member same => listed ⟨old, member, same⟩⟩, rfl⟩

theorem Knows.filtersDistinct_iff {known : List (Furniture isWellFormed)}
    (knows : table.Knows known) (newFurnitures : List (Furniture isWellFormed)) :
    table.FiltersDistinct newFurnitures ↔
      newFurnitures.Pairwise fun first second => first.id = second.id →
        ∃ furniture ∈ known, furniture.id = first.id := by
  rw [FiltersDistinct, filteredNewFurnitures, List.Nodup, List.pairwise_map,
    List.pairwise_filter]
  refine List.Pairwise.iff fun first second => ?_
  have known_iff (furniture : Furniture isWellFormed) :
      (!table.isFurnitureAlreadyExist furniture) = true ↔
        ¬ ∃ old ∈ known, old.id = furniture.id := by
    rw [← knows, ← isFurnitureAlreadyExist_iff, Bool.not_eq_true', Bool.not_eq_true]
  -- The filter lets both through when no earlier batch knows their ids.
  rw [known_iff, known_iff]
  constructor
  · intro distinct same
    by_contra unknown
    exact distinct unknown (same ▸ unknown) same
  · exact fun repeats unknown _ same => unknown (repeats same)

theorem guarded_iff_freshIdsDistinct (agree : table.RowsAgree)
    {known : List (Furniture isWellFormed)} (knows : table.Knows known)
    (batches : List (List (Furniture isWellFormed))) :
    Guarded insertNewFurnitures FiltersDistinct table batches ↔
      FreshIdsDistinct known batches := by
  -- What the table filters by and what has been inserted so far go along together.
  induction batches generalizing table known with
  | nil => exact Iff.rfl
  | cons newFurnitures batches ih =>
    have rest := ih (agree.inserting (table.filteredNewFurnitures newFurnitures))
      (knows.inserting newFurnitures)
    rw [FreshIdsDistinct, ← knows.filtersDistinct_iff, ← rest]
    constructor
    · exact fun guarded => guarded _ (insertNewFurnitures_eq agree newFurnitures)
    · rintro ⟨distinct, guarded⟩
      exact guarded_cons (insertNewFurnitures_eq agree newFurnitures) distinct guarded

/-- The ids stay distinct along a sequence of insertions if and only if furniture that no
earlier batch knows has distinct ids within its own batch. -/
theorem ids_distinct_iff (batches : List (List (Furniture isWellFormed))) :
    Always insertNewFurnitures IdsDistinct {} batches ↔ FreshIdsDistinct [] batches := by
  have initial : ({} : FurnitureListTableView isWellFormed).RowsAgree := rfl
  rw [← guarded_iff_freshIdsDistinct initial fun id => Iff.rfl]
  refine @always_iff_guarded _ _ _ insertNewFurnitures
    (fun table => table.RowsAgree ∧ table.IdsDistinct) _ _ (fun table invariant => invariant.2)
    ?_ ?_ _ ⟨initial, List.nodup_nil⟩ batches
  · rintro table newFurnitures next ⟨agree, distinct⟩ fresh taken
    refine ⟨agree.step taken, ?_⟩
    rw [insertNewFurnitures_eq agree] at taken
    cases taken
    exact (idsDistinct_inserting newFurnitures).mpr ⟨distinct, fresh⟩
  -- A repeated id gets into the list at once, and nothing removes furniture.
  · rintro table newFurnitures next ⟨agree, -⟩ repeated taken distinct
    rw [insertNewFurnitures_eq agree] at taken
    cases taken
    exact repeated ((idsDistinct_inserting newFurnitures).mp distinct).2

/-- Documents that differ in their names only. -/
def document (name : String) : FirestoreData
  | "id" => some (.integer 1)
  | "name" => some (.string name)
  | "description" => some (.string "oak")
  | "image_url" => some (.string "oak.png")
  | _ => none

/-- Two documents of one snapshot with the same id are both listed. -/
theorem ids_not_distinct :
    ∃ newFurnitures : List (Furniture fun _ => true),
      FurnitureService.retrieveAll (some [document "chair", document "lamp"])
        (none : Option Unit) = .ok newFurnitures ∧
      ¬ Always insertNewFurnitures IdsDistinct {} [newFurnitures] := by
  refine ⟨_, rfl, fun always => ?_⟩
  exact absurd (always.atEnd rfl) (by decide)

end FurnitureListTableView

end FurnitureAR
