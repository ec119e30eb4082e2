import Mathlib.Data.List.Induction
import Mathlib.Tactic.Common

/-!
# Row insertions

A table keeps its own sequence of rows and edits it from two things it is told: the
positions of the new rows, counted after the update, and how to bind the row at a position.
Rows that exist keep their order and shift. The table checks first that the number of rows
agrees with what its data source counts.
-/
namespace RowInsertion

variable {α : Type}

inductive UpdateError where
  | inconsistentCount
  | invalidPosition
  | unboundRow
  deriving DecidableEq

/-- Fill `count` positions from `position` on. An inserted position is bound, and any other
takes the next of the rows that exist. -/
def place (inserted : List Nat) (bind : Nat → Option α) :
    Nat → Nat → List α → Except UpdateError (List α)
  | _, 0, [] => .ok []
  | _, 0, _ :: _ => .error .inconsistentCount
  | position, count + 1, rows =>
    -- New rows take their positions first, and the old ones fill the gaps.
    if position ∈ inserted then
      match bind position with
      | none => .error .unboundRow
      | some row => (place inserted bind (position + 1) count rows).map (row :: ·)
    else
      match rows with
      | [] => .error .inconsistentCount
      | row :: rows => (place inserted bind (position + 1) count rows).map (row :: ·)

/-- Insert rows in one update. The data source counts `count` rows after it. -/
def update (rows : List α) (inserted : List Nat) (count : Nat) (bind : Nat → Option α) :
    Except UpdateError (List α) :=
  if count ≠ rows.length + inserted.length then .error .inconsistentCount
  else if ¬ (inserted.Nodup ∧ ∀ position ∈ inserted, position < count) then
    .error .invalidPosition
  else place inserted bind 0 count rows

section Place

variable {inserted : List Nat} {bind : Nat → Option α}

theorem place_outside {position : Nat} (outside : position ∉ inserted) (count : Nat) (row : α)
    (rows : List α) :
    place inserted bind position (count + 1) (row :: rows) =
      (place inserted bind (position + 1) count rows).map (row :: ·) := by
  rw [place, if_neg outside]

theorem place_inside {position : Nat} {row : α} (inside : position ∈ inserted)
    (bound : bind position = some row) (count : Nat) (rows : List α) :
    place inserted bind position (count + 1) rows =
      (place inserted bind (position + 1) count rows).map (row :: ·) := by
  cases rows <;> rw [place, if_pos inside, bound]

theorem place_kept (kept rest : List α) (position count : Nat)
    (outside : ∀ offset < kept.length, position + offset ∉ inserted) :
    place inserted bind position (kept.length + count) (kept ++ rest) =
      (place inserted bind (position + kept.length) count rest).map (kept ++ ·) := by
  induction kept generalizing position with
  | nil => cases h : place inserted bind position count rest <;> simp [h, Except.map]
  | cons row kept ih =>
    have here : position ∉ inserted := by simpa using outside 0 (by simp)
    have later := ih (position + 1) fun offset small => by
      have := outside (offset + 1) (by simpa using small)
      rwa [Nat.add_comm offset, ← Nat.add_assoc] at this
    rw [List.length_cons, Nat.add_right_comm, List.cons_append, place_outside here]
    simp only [later, Nat.add_right_comm position 1, ← Nat.add_assoc]
    cases place inserted bind (position + kept.length + 1) count rest <;> rfl

theorem place_bound (fresh rest : List α) (position count : Nat)
    (inside : ∀ offset < fresh.length, position + offset ∈ inserted)
    (bound : ∀ offset < fresh.length, bind (position + offset) = fresh[offset]?) :
    place inserted bind position (fresh.length + count) rest =
      (place inserted bind (position + fresh.length) count rest).map (fresh ++ ·) := by
  induction fresh generalizing position with
  | nil => cases h : place inserted bind position count rest <;> simp [h, Except.map]
  | cons row fresh ih =>
    have here : position ∈ inserted := by simpa using inside 0 (by simp)
    have first : bind position = some row := by simpa using bound 0 (by simp)
    have later := ih (position + 1)
      (fun offset small => by
        have := inside (offset + 1) (by simpa using small)
        rwa [Nat.add_comm offset, ← Nat.add_assoc] at this)
      (fun offset small => by
        have := bound (offset + 1) (by simpa using small)
        rwa [Nat.add_comm offset, ← Nat.add_assoc, Nat.add_comm 1,
          List.getElem?_cons_succ] at this)
    rw [List.length_cons, Nat.add_right_comm, place_inside here first]
    simp only [later, Nat.add_right_comm position 1, ← Nat.add_assoc]
    cases place inserted bind (position + fresh.length + 1) count rest <;> rfl

end Place

/-! ## Splicing -/

/-- Insert consecutive elements at an index. -/
def splice (elements : List α) (index : Nat) (inserted : List α) : List α :=
  elements.take index ++ inserted ++ elements.drop index

section Splice

variable {elements inserted : List α} {index : Nat}

@[simp]
theorem splice_nil : splice elements index [] = elements := by
  simp [splice]

theorem splice_perm : (splice elements index inserted).Perm (elements ++ inserted) := by
  -- Both sides consist of the same three parts.
  conv_rhs => rw [← List.take_append_drop index elements]
  rw [splice, List.append_assoc, List.append_assoc]
  exact List.perm_append_comm.append_left _

@[simp]
theorem mem_splice {element : α} :
    element ∈ splice elements index inserted ↔ element ∈ elements ∨ element ∈ inserted := by
  rw [splice_perm.mem_iff, List.mem_append]

@[simp]
theorem length_splice :
    (splice elements index inserted).length = elements.length + inserted.length := by
  rw [splice_perm.length_eq, List.length_append]

theorem map_splice {β : Type} (f : α → β) :
    (splice elements index inserted).map f =
      splice (elements.map f) index (inserted.map f) := by
  simp [splice, List.map_take, List.map_drop]

theorem getElem?_splice_inserted (bound : index ≤ elements.length) {offset : Nat}
    (small : offset < inserted.length) :
    (splice elements index inserted)[index + offset]? = inserted[offset]? := by
  have taken : (elements.take index).length = index := List.length_take_of_le bound
  rw [splice, List.append_assoc, List.getElem?_append_right (by omega), taken,
    Nat.add_sub_cancel_left, List.getElem?_append_left small]

theorem sublist_splice : elements.Sublist (splice elements index inserted) := by
  conv_lhs => rw [← List.take_append_drop index elements]
  rw [splice, List.append_assoc]
  exact (List.Sublist.refl _).append (List.sublist_append_right _ _)

/-- Elements that are inserted in front of the last one come after it only if there is none. -/
theorem splice_last_iff (fresh : ∀ element ∈ inserted, element ∉ elements) :
    splice elements (elements.length - 1) inserted = elements ++ inserted ↔
      elements = [] ∨ inserted = [] := by
  induction elements using List.reverseRecOn with
  | nil => simp [splice]
  | append_singleton init last _ =>
    cases inserted with
    | nil => simp
    | cons first rest =>
      have different : first ≠ last := fun same => fresh first List.mem_cons_self (by simp [same])
      simp [splice, different]

end Splice

/-- Rows that are inserted next to each other end up together. -/
theorem update_range {rows fresh : List α} {start : Nat} (start_le : start ≤ rows.length)
    {bind : Nat → Option α}
    (bound : ∀ offset < fresh.length, bind (start + offset) = fresh[offset]?) :
    update rows (List.range' start fresh.length) (rows.length + fresh.length) bind =
      .ok (splice rows start fresh) := by
  have count : rows.length + fresh.length =
      rows.length + (List.range' start fresh.length).length := by
    rw [List.length_range']
  have valid : (List.range' start fresh.length).Nodup ∧
      ∀ position ∈ List.range' start fresh.length, position < rows.length + fresh.length := by
    refine ⟨List.nodup_range', fun position member => ?_⟩
    rw [List.mem_range'_1] at member
    omega
  rw [update, if_neg (not_not.mpr count), if_neg (not_not.mpr valid)]
  -- The rows before the new ones, the new ones, and the rows after them.
  have lengths : (rows.take start).length = start := List.length_take_of_le start_le
  have total : rows.length + fresh.length =
      (rows.take start).length + (fresh.length + ((rows.drop start).length + 0)) := by
    rw [lengths, List.length_drop]
    omega
  have after : place (List.range' start fresh.length) bind (start + fresh.length)
      ((rows.drop start).length + 0) (rows.drop start ++ []) = .ok (rows.drop start) := by
    rw [place_kept _ _ _ _ fun offset small => by rw [List.mem_range'_1]; omega]
    simp [place, Except.map]
  have middle : place (List.range' start fresh.length) bind start _ _ = _ :=
    place_bound fresh (rows.drop start) start ((rows.drop start).length + 0)
      (fun offset small => List.mem_range'_1.mpr ⟨by omega, by omega⟩) bound
  have before : place (List.range' start fresh.length) bind 0 _ _ = _ :=
    place_kept (rows.take start) (rows.drop start) 0
      (fresh.length + ((rows.drop start).length + 0)) fun offset small => by
        rw [List.mem_range'_1]
        omega
  rw [List.append_nil] at after
  rw [List.take_append_drop, ← total, lengths, Nat.zero_add, middle, after] at before
  rw [before]
  simp [splice, Except.map]

end RowInsertion
