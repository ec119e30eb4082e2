import Mathlib.Data.List.Infix
import Mathlib.Data.List.Nodup

/-!
# First matches

A search that takes the first element of a list with some property, where only one element is
wanted. The search is exact when what it takes is the wanted element, and nothing if there is
none.
-/
namespace FirstMatch

variable {α : Type}

/-- The first match for `matched` is the element that is `wanted`. -/
def Exact (matched : α → Bool) (wanted : α → Prop) (elements : List α) : Prop :=
  ∀ element, elements.find? matched = some element ↔ element ∈ elements ∧ wanted element

section Search

variable {matched : α → Bool} {wanted : α → Prop} {elements : List α}

/-- In a list without duplicates, what comes before the first match does not match. -/
theorem not_matched_before (distinct : elements.Nodup) {first other : α}
    (found : elements.find? matched = some first) (before : [other, first].Sublist elements) :
    matched other = false := by
  obtain ⟨-, front, rest, rfl, unmatched⟩ := List.find?_eq_some_iff_append.mp found
  obtain ⟨taken, left, split, inFront, inRest⟩ := List.sublist_append_iff.mp before
  cases taken with
  | nil =>
    -- The first match would occur twice.
    rw [List.nil_append] at split
    subst split
    have repeated : first ∈ rest := by
      cases inRest with
      | cons _ later => exact later.subset (List.mem_cons_of_mem _ List.mem_cons_self)
      | cons_cons _ later => exact later.subset List.mem_cons_self
    have once := (List.nodup_append'.mp distinct).2.1
    exact absurd repeated (List.nodup_cons.mp once).1
  | cons head tail =>
    obtain ⟨rfl, -⟩ := List.cons_eq_cons.mp split
    have member := inFront.subset List.mem_cons_self
    simpa using unmatched other member

/-- The first match comes before every other match. -/
theorem before_of_matched {first other : α} (found : elements.find? matched = some first)
    (member : other ∈ elements) (matches' : matched other = true) (different : other ≠ first) :
    [first, other].Sublist elements := by
  obtain ⟨-, front, rest, rfl, unmatched⟩ := List.find?_eq_some_iff_append.mp found
  have inRest : other ∈ rest := by
    rcases List.mem_append.mp member with inFront | inRest
    · have refused := unmatched other inFront
      rw [matches'] at refused
      cases refused
    · exact (List.mem_cons.mp inRest).resolve_left different
  exact ((List.singleton_sublist.mpr inRest).cons_cons first).trans (List.sublist_append_right ..)

variable (complete : ∀ element ∈ elements, wanted element → matched element = true)
  (distinct : elements.Nodup)
  (unique : ∀ first ∈ elements, ∀ second ∈ elements, wanted first → wanted second →
    first = second)

include complete distinct unique

/-- A search is exact if and only if every other match comes after the wanted element. -/
theorem exact_iff :
    Exact matched wanted elements ↔
      ∀ other ∈ elements, matched other = true → ¬ wanted other →
        ∃ element, wanted element ∧ [element, other].Sublist elements := by
  constructor
  · intro exact other member matches' unwanted
    cases found : elements.find? matched with
    | none => exact absurd matches' (List.find?_eq_none.mp found other member)
    | some first =>
      have right := ((exact first).mp found).2
      refine ⟨first, right, before_of_matched found member matches' ?_⟩
      rintro rfl
      exact unwanted right
  · intro after
    have sound : ∀ element, elements.find? matched = some element → wanted element := by
      intro element found
      by_contra unwanted
      obtain ⟨right, wanted, before⟩ := after element (List.mem_of_find?_eq_some found)
        (List.find?_some found) unwanted
      have refused := not_matched_before distinct found before
      rw [complete right (before.subset List.mem_cons_self) wanted] at refused
      cases refused
    intro element
    constructor
    · exact fun found => ⟨List.mem_of_find?_eq_some found, sound element found⟩
    · rintro ⟨member, right⟩
      cases found : elements.find? matched with
      | none =>
        exact absurd (complete element member right)
          (List.find?_eq_none.mp found element member)
      | some first =>
        have same := unique first (List.mem_of_find?_eq_some found) element member
          (sound first found) right
        rw [same]

/-- A search is exact in every order of the elements if and only if nothing else matches. -/
theorem exact_perm_iff [DecidableEq α] :
    (∀ order, order.Perm elements → Exact matched wanted order) ↔
      ∀ other ∈ elements, matched other = true → wanted other := by
  constructor
  · intro exact other member matches'
    -- An order that begins with the match finds it at once.
    have order := (List.perm_cons_erase member).symm
    exact ((exact _ order other).mp (List.find?_cons_of_pos matches')).2
  · intro only order reordered
    refine (exact_iff ?_ (reordered.nodup_iff.mpr distinct) ?_).mpr ?_
    · exact fun element member => complete element (reordered.mem_iff.mp member)
    · intro first member second member'
      exact unique first (reordered.mem_iff.mp member) second (reordered.mem_iff.mp member')
    · intro other member matches' unwanted
      exact absurd (only other (reordered.mem_iff.mp member) matches') unwanted

end Search

/-- A block of characters of one kind is not found in a front that has none of them. -/
theorem infix_append_iff {kind : α → Bool} {block front back : List α} (nonempty : block ≠ [])
    (inside : ∀ element ∈ block, kind element = true)
    (outside : ∀ element ∈ front, kind element = false) :
    block <:+: front ++ back ↔ block <:+: back := by
  induction front with
  | nil => rfl
  | cons first front ih =>
    have rest := ih fun element member => outside element (List.mem_cons_of_mem _ member)
    rw [List.cons_append, List.infix_cons_iff, rest, or_iff_right]
    intro atFirst
    cases block with
    | nil => exact nonempty rfl
    | cons head tail =>
      obtain ⟨rfl, -⟩ := List.cons_prefix_cons.mp atFirst
      have refused := outside head List.mem_cons_self
      rw [inside head List.mem_cons_self] at refused
      cases refused

end FirstMatch
