import FurnitureAR.ARViewController

/-!
# The loading cycle

An abstract machine for what happens between a tap on the add button and the placement of
the object: the list of objects, the work in progress, the button and the restart flag.
-/
namespace FurnitureAR

structure LoadCycle where
  loadedObjects : List ObjectRef
  isLoading : Bool
  loading : List ObjectRef
  preparing : List ObjectRef
  placing : List ObjectRef
  isEnabled : Bool
  image : ImageProvider
  isRestartAvailable : Bool
  coolDowns : Nat

namespace LoadCycle

/-- The loads and placements in progress, from the call of `loadVirtualObject` until the
matching closure has called `placeVirtualObject`. -/
def inProgress (cycle : LoadCycle) : List ObjectRef :=
  cycle.loading ++ cycle.preparing ++ cycle.placing

def initial : LoadCycle where
  loadedObjects := []
  isLoading := false
  loading := []
  preparing := []
  placing := []
  isEnabled := true
  image := .add
  isRestartAvailable := true
  coolDowns := 0

inductive Action where
  | other
  | start (object : ObjectRef)
  | finish (object : ObjectRef)
  | prepare (object : ObjectRef)
  | place
  | discard
  | remove
  | close
  | reset
  | restart
  | coolDown

inductive Step (cycle : LoadCycle) : Action → LoadCycle → Prop where
  | other : Step cycle .other cycle
  | start (object : ObjectRef) (enabled : cycle.isEnabled = true)
      (empty : cycle.loadedObjects = []) :
      Step cycle (.start object)
        { cycle with
          loadedObjects := [object], isLoading := true, loading := cycle.loading ++ [object]
          isEnabled := false, image := .buttonring, isRestartAvailable := false }
  | finish (object : ObjectRef) (member : object ∈ cycle.loading) :
      Step cycle (.finish object)
        { cycle with
          isLoading := false, loading := cycle.loading.erase object
          preparing := cycle.preparing ++ [object] }
  | prepare (object : ObjectRef) (member : object ∈ cycle.preparing) :
      Step cycle (.prepare object)
        { cycle with
          preparing := cycle.preparing.erase object, placing := cycle.placing ++ [object] }
  | place (object : ObjectRef) (rest : List ObjectRef) (head : cycle.placing = object :: rest) :
      Step cycle .place
        { cycle with
          placing := rest, isEnabled := true, image := .close, isRestartAvailable := true }
  | discard (object : ObjectRef) (rest : List ObjectRef)
      (head : cycle.placing = object :: rest) :
      Step cycle .discard
        { cycle with
          placing := rest, isEnabled := true, image := .close, isRestartAvailable := true
          loadedObjects := [] }
  | remove (enabled : cycle.isEnabled = true) :
      Step cycle .remove { cycle with loadedObjects := [], image := .add }
  | close : Step cycle .close { cycle with loadedObjects := [] }
  | reset : Step cycle .reset { cycle with image := .add }
  | restart (available : cycle.isRestartAvailable = true) (idle : cycle.isLoading = false) :
      Step cycle .restart
        { cycle with
          loadedObjects := [], image := .add, isRestartAvailable := false
          coolDowns := cycle.coolDowns + 1 }
  | coolDown (pending : Nat) (some : cycle.coolDowns = pending + 1) :
      Step cycle .coolDown { cycle with isRestartAvailable := true, coolDowns := pending }

/-! ## One load at a time -/

/-- The enabled button says that nothing is in progress, so that at most one load is. -/
structure Serial (cycle : LoadCycle) : Prop where
  count : cycle.inProgress.length = if cycle.isEnabled then 0 else 1
  loading : cycle.isLoading = true ↔ cycle.loading ≠ []
  single : cycle.loadedObjects.length ≤ 1
  same : ∀ object ∈ cycle.inProgress, ∀ other ∈ cycle.loadedObjects, other = object

theorem serial_initial : Serial initial := by
  refine ⟨rfl, ?_, ?_, ?_⟩ <;> simp [initial]

theorem Serial.isEnabled_iff {cycle : LoadCycle} (serial : cycle.Serial) :
    cycle.isEnabled = true ↔ cycle.inProgress = [] := by
  rw [← List.length_eq_zero_iff, serial.count]
  cases cycle.isEnabled <;> simp

/-- What is in progress is in one stage only. -/
theorem Serial.length_stages {cycle : LoadCycle} (serial : cycle.Serial) :
    cycle.loading.length + cycle.preparing.length + cycle.placing.length =
      if cycle.isEnabled then 0 else 1 := by
  rw [← serial.count]
  simp only [inProgress, List.length_append]

theorem Serial.idle_of_placing {cycle : LoadCycle} (serial : cycle.Serial) {object : ObjectRef}
    {rest : List ObjectRef} (head : cycle.placing = object :: rest) : cycle.isLoading = false := by
  have stages := serial.length_stages
  rw [head, List.length_cons] at stages
  have none : cycle.loading = [] := by
    rw [← List.length_eq_zero_iff]
    split at stages <;> omega
  rw [← Bool.not_eq_true, serial.loading, none]
  exact fun some => some rfl

theorem Serial.step {cycle next : LoadCycle} {action : Action} (serial : cycle.Serial)
    (taken : cycle.Step action next) : next.Serial := by
  have stages := serial.length_stages
  cases taken with
  | other => exact serial
  | start object enabled empty =>
    have nothing := serial.isEnabled_iff.mp enabled
    simp only [inProgress, List.append_eq_nil_iff] at nothing
    obtain ⟨⟨noLoading, noPreparing⟩, noPlacing⟩ := nothing
    refine ⟨?_, ?_, ?_, ?_⟩ <;> simp [inProgress, noLoading, noPreparing, noPlacing]
  -- `load()` is over, and `isLoading` with it, but the object is still in progress.
  | finish object member =>
    have erased := List.length_erase_of_mem member
    have some := List.length_pos_of_mem member
    have none : cycle.loading.erase object = [] := by
      rw [← List.length_eq_zero_iff]
      -- With one object in progress at most, no other one is loading.
      split at stages <;> omega
    refine ⟨?_, by simp [none], serial.single, ?_⟩
    · simp only [inProgress, List.length_append, List.length_singleton]
      omega
    · intro other progress
      refine serial.same other ?_
      simp only [inProgress, none, List.nil_append, List.mem_append, List.mem_singleton]
        at progress ⊢
      rcases progress with (preparing | rfl) | placing
      · exact .inl (.inr preparing)
      · exact .inl (.inl member)
      · exact .inr placing
  -- The object changes places only.
  | prepare object member =>
    have erased := List.length_erase_of_mem member
    have some := List.length_pos_of_mem member
    refine ⟨?_, serial.loading, serial.single, ?_⟩
    · simp only [inProgress, List.length_append, List.length_singleton]
      omega
    · intro other progress
      refine serial.same other ?_
      simp only [inProgress, List.mem_append, List.mem_singleton] at progress ⊢
      rcases progress with (loading | preparing) | placing | rfl
      · exact .inl (.inl loading)
      · exact .inl (.inr (List.mem_of_mem_erase preparing))
      · exact .inr placing
      · exact .inl (.inr member)
  -- What was in progress was the object that is placed, so nothing is left.
  | place object rest head =>
    rw [head, List.length_cons] at stages
    refine ⟨?_, serial.loading, serial.single, ?_⟩
    · simp only [inProgress, List.length_append, if_true]
      split at stages <;> omega
    · intro other progress
      refine serial.same other ?_
      simp only [inProgress, head, List.mem_append, List.mem_cons] at progress ⊢
      rcases progress with stage | placing
      · exact .inl stage
      · exact .inr (.inr placing)
  | discard object rest head =>
    rw [head, List.length_cons] at stages
    refine ⟨?_, serial.loading, by simp, by simp⟩
    simp only [inProgress, List.length_append, if_true]
    split at stages <;> omega
  | remove enabled => exact ⟨serial.count, serial.loading, by simp, by simp⟩
  | close => exact ⟨serial.count, serial.loading, by simp, by simp⟩
  | reset => exact ⟨serial.count, serial.loading, serial.single, serial.same⟩
  -- A restart may well empty the list under an object that waits to be placed.
  | restart available idle => exact ⟨serial.count, serial.loading, by simp, by simp⟩
  | coolDown pending some =>
    exact ⟨serial.count, serial.loading, serial.single, serial.same⟩

/-! ## Progress

What is in progress moves on from stage to stage, and enables the button in the end.
-/

theorem Step.loading_next {cycle next : LoadCycle} {action : Action}
    (stage : cycle.loading ≠ []) (taken : cycle.Step action next) :
    next.loading ≠ [] ∧ (∀ object, action ≠ .finish object) ∨ next.preparing ≠ [] := by
  cases taken with
  | start object enabled empty => exact .inl ⟨by simp, by simp⟩
  | finish object member => exact .inr (by simp)
  | _ => exact .inl ⟨stage, by simp⟩

theorem Step.preparing_next {cycle next : LoadCycle} {action : Action}
    (stage : cycle.preparing ≠ []) (taken : cycle.Step action next) :
    next.preparing ≠ [] ∧ (∀ object, action ≠ .prepare object) ∨ next.placing ≠ [] := by
  cases taken with
  | finish object member => exact .inl ⟨by simp, by simp⟩
  | prepare object member => exact .inr (by simp)
  | _ => exact .inl ⟨stage, by simp⟩

theorem Step.placing_next {cycle next : LoadCycle} {action : Action}
    (stage : cycle.placing ≠ []) (taken : cycle.Step action next) :
    next.placing ≠ [] ∧ action ≠ .place ∧ action ≠ .discard ∨ next.isEnabled = true := by
  cases taken with
  | prepare object member => exact .inl ⟨by simp, by simp⟩
  | place object rest head => exact .inr rfl
  | discard object rest head => exact .inr rfl
  | _ => exact .inl ⟨stage, by simp⟩

/-- A step after which nothing is in progress brings no new object, and none was in progress
before it, unless it ends a placement. -/
theorem Step.idle_before {cycle next : LoadCycle} {action : Action}
    (taken : cycle.Step action next) (idle : next.inProgress = []) :
    action = .place ∨ action = .discard ∨
      cycle.inProgress = [] ∧ ∀ object ∈ next.loadedObjects, object ∈ cycle.loadedObjects := by
  cases taken with
  | start object enabled empty => simp [inProgress] at idle
  | finish object member => simp [inProgress] at idle
  | prepare object member => simp [inProgress] at idle
  | place object rest head => exact .inl rfl
  | discard object rest head => exact .inr (.inl rfl)
  | remove enabled => exact .inr (.inr ⟨idle, by simp⟩)
  | close => exact .inr (.inr ⟨idle, by simp⟩)
  | restart available loaded => exact .inr (.inr ⟨idle, by simp⟩)
  | other => exact .inr (.inr ⟨idle, fun _ member => member⟩)
  | reset => exact .inr (.inr ⟨idle, fun _ member => member⟩)
  | coolDown pending left => exact .inr (.inr ⟨idle, fun _ member => member⟩)

end LoadCycle

end FurnitureAR
