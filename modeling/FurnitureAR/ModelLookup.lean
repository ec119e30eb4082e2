import FurnitureAR.VirtualObject
import FurnitureAR.Library.FirstMatch

/-!
# Looking up a model by its id

`byId` takes the first model whose name contains the digits of the id. The digits of one number
may be contained in those of another one, so it matters which numbers a catalogue has, and in
which order the file enumerator yields them.
-/
namespace FurnitureAR

namespace VirtualObject

/-- Decimal digits. -/
abbrev digits (number : Nat) : List Char := Nat.toDigits 10 number

/-- The models are called `<letters>Id<number>.scn`, with numbers of their own. -/
structure FollowsConvention (objects : ObjectRef → VirtualObject) (number : ObjectRef → Nat)
    (availableObjects : List ObjectRef) : Prop where
  named : ∀ object ∈ availableObjects, ∃ letters : List Char,
    (∀ letter ∈ letters, letter.isDigit = false ∧ letter ≠ '.') ∧
    (objects object).referenceName.toList =
      letters ++ "Id".toList ++ digits (number object) ++ ".scn".toList
  distinct : availableObjects.Pairwise fun first second => number first ≠ number second

/-- The lookup returns the model with this number, or `nil` if there is none. -/
def LookupExact (objects : ObjectRef → VirtualObject) (number : ObjectRef → Nat)
    (availableObjects : List ObjectRef) (id : Nat) : Prop :=
  ∀ object, byId objects availableObjects id = some object ↔
    object ∈ availableObjects ∧ number object = id

/-! ## Names -/

/-- A name without dots is what is left of a file name when its extension is removed. -/
theorem removingOccurrences_scn {name : List Char} (plain : ∀ letter ∈ name, letter ≠ '.') :
    removingOccurrences ".scn".toList 0 (name ++ ".scn".toList) = name := by
  induction name with
  | nil => decide
  | cons letter name ih =>
    have noDot : letter ≠ '.' := plain letter List.mem_cons_self
    have rest := ih fun other member => plain other (List.mem_cons_of_mem _ member)
    have notHere : List.isPrefixOf ".scn".toList (letter :: (name ++ ".scn".toList)) = false := by
      have target : ".scn".toList = ['.', 's', 'c', 'n'] := by decide
      rw [target, List.isPrefixOf_cons_cons]
      simp [Ne.symm noDot]
    rw [List.cons_append, removingOccurrences, notHere, if_neg Bool.false_ne_true, rest]

theorem isDigit_of_mem_digits {number : Nat} {letter : Char} (member : letter ∈ digits number) :
    letter.isDigit = true :=
  Nat.isDigit_of_mem_toDigits (by decide) (Nat.le_refl 10) member

variable {objects : ObjectRef → VirtualObject} {number : ObjectRef → Nat}
  {availableObjects : List ObjectRef}

/-- A name contains an id if and only if the digits of its number do. -/
theorem FollowsConvention.hasId_iff (convention : FollowsConvention objects number availableObjects)
    {object : ObjectRef} (member : object ∈ availableObjects) (id : Nat) :
    (objects object).hasId id = true ↔ digits id <:+: digits (number object) := by
  obtain ⟨letters, plain, name⟩ := convention.named object member
  have front : ∀ letter ∈ letters ++ "Id".toList, letter.isDigit = false ∧ letter ≠ '.' := by
    intro letter inside
    rcases List.mem_append.mp inside with inLetters | inId
    · exact plain letter inLetters
    · have spelled : "Id".toList = ['I', 'd'] := by decide
      have ofId : ∀ letter ∈ ['I', 'd'], letter.isDigit = false ∧ letter ≠ '.' := by simp
      exact ofId letter (spelled ▸ inId)
  have noDot : ∀ letter ∈ letters ++ "Id".toList ++ digits (number object), letter ≠ '.' := by
    intro letter inside
    rcases List.mem_append.mp inside with inFront | inDigits
    · exact (front letter inFront).2
    · rintro rfl
      exact absurd (isDigit_of_mem_digits inDigits) (by decide)
  have rendered : (toString (id : Int)).toList = digits id := by
    change (Nat.repr id).toList = _
    exact Nat.toList_repr
  rw [hasId, decide_eq_true_iff, modelName, name, removingOccurrences_scn noDot, rendered]
  exact FirstMatch.infix_append_iff Nat.toDigits_ne_nil (fun _ => isDigit_of_mem_digits)
    fun letter inFront => (front letter inFront).1

/-! ## The catalogue -/

/-- The search for an id matches the model with this number. -/
theorem FollowsConvention.complete (convention : FollowsConvention objects number availableObjects)
    (id : Nat) : ∀ object ∈ availableObjects, number object = id →
      (objects object).hasId id = true := by
  rintro object member rfl
  exact (convention.hasId_iff member _).mpr (List.infix_refl _)

theorem FollowsConvention.nodup (convention : FollowsConvention objects number availableObjects) :
    availableObjects.Nodup :=
  convention.distinct.imp fun different same => different (congrArg number same)

/-- Two models with the same number are the same model. -/
theorem FollowsConvention.unique (convention : FollowsConvention objects number availableObjects)
    (id : Nat) : ∀ first ∈ availableObjects, ∀ second ∈ availableObjects,
      number first = id → number second = id → first = second := by
  intro first member second member' same same'
  have numbers : (availableObjects.map number).Nodup := List.pairwise_map.mpr convention.distinct
  exact List.inj_on_of_nodup_map numbers member member' (same.trans same'.symm)

theorem FollowsConvention.lookupExact_iff
    (convention : FollowsConvention objects number availableObjects) (id : Nat) :
    LookupExact objects number availableObjects id ↔
      ∀ other ∈ availableObjects, number other ≠ id → digits id <:+: digits (number other) →
        ∃ object, number object = id ∧ [object, other].Sublist availableObjects := by
  refine (FirstMatch.exact_iff (convention.complete id) convention.nodup
    (convention.unique id)).trans ?_
  constructor
  · intro after other member unwanted contains
    exact after other member ((convention.hasId_iff member id).mpr contains) unwanted
  · intro after other member matches' unwanted
    exact after other member unwanted ((convention.hasId_iff member id).mp matches')

/-- In one order the lookup is exact if and only if every model whose number contains the digits
of the id comes after the model with the id; it is so in every order if and only if there is no
other such model. -/
theorem lookup_exact_iff (convention : FollowsConvention objects number availableObjects)
    (id : Nat) :
    (LookupExact objects number availableObjects id ↔
      ∀ other ∈ availableObjects, number other ≠ id → digits id <:+: digits (number other) →
        ∃ object, number object = id ∧ [object, other].Sublist availableObjects) ∧
    ((∀ order, order.Perm availableObjects → LookupExact objects number order id) ↔
      ∀ other ∈ availableObjects, digits id <:+: digits (number other) → number other = id) := by
  refine ⟨convention.lookupExact_iff id, ?_⟩
  refine (FirstMatch.exact_perm_iff (convention.complete id) convention.nodup
    (convention.unique id)).trans ?_
  exact forall₂_congr fun other member => imp_congr_left (convention.hasId_iff member id)

/-! ## Two catalogues -/

/-- A catalogue with a chair and a lamp, of these numbers. -/
def chairAndLamp (chair lamp : String) : ObjectRef → VirtualObject
  | 0 => { referenceName := chair }
  | _ => { referenceName := lamp }

/-- The bundled models. -/
theorem bundled_followsConvention :
    FollowsConvention (chairAndLamp "chairId1.scn" "lampId2.scn") (· + 1) [0, 1] where
  named := by
    simp only [List.mem_cons, List.not_mem_nil, or_false]
    rintro object (rfl | rfl)
    · exact ⟨['c', 'h', 'a', 'i', 'r'], by simp, by decide⟩
    · exact ⟨['l', 'a', 'm', 'p'], by simp, by decide⟩
  distinct := by decide

theorem bundled_lookup_exact :
    LookupExact (chairAndLamp "chairId1.scn" "lampId2.scn") (· + 1) [0, 1] 1 := by
  refine (lookup_exact_iff bundled_followsConvention 1).1.mpr ?_
  intro other member different contains
  simp only [List.mem_cons, List.not_mem_nil, or_false] at member
  rcases member with rfl | rfl
  · exact absurd rfl different
  · exact absurd contains (by decide)

/-- A chair with the number 12 is found for the id 1, although there is a lamp with it. -/
theorem not_lookup_exact : ¬ ∀ (objects : ObjectRef → VirtualObject) (number : ObjectRef → Nat)
    (availableObjects : List ObjectRef), FollowsConvention objects number availableObjects →
      ∀ id, LookupExact objects number availableObjects id := by
  intro exact
  have convention : FollowsConvention (chairAndLamp "chairId12.scn" "lampId1.scn")
      (fun object => if object = 0 then 12 else 1) [0, 1] := by
    refine ⟨?_, by decide⟩
    simp only [List.mem_cons, List.not_mem_nil, or_false]
    rintro object (rfl | rfl)
    · exact ⟨['c', 'h', 'a', 'i', 'r'], by simp, by decide⟩
    · exact ⟨['l', 'a', 'm', 'p'], by simp, by decide⟩
  obtain ⟨object, one, before⟩ := (convention.lookupExact_iff 1).mp (exact _ _ _ convention 1) 0
    (by decide) (by decide) (by decide)
  -- The lamp comes second.
  obtain rfl | rfl : object = 0 ∨ object = 1 := by
    simpa using before.subset List.mem_cons_self
  · exact absurd one (by decide)
  · exact absurd before (by decide)

end VirtualObject

end FurnitureAR
