import FurnitureAR.Library.Execution

/-!
# Queues on infinite traces

Steps may add to the end of a queue, and some of them take its first element. When such a step
always comes while something waits, everything that waits gets its turn, and in the end only what
has been added lately is left.
-/
namespace Execution.Trace

variable {σ ε η α : Type} {step : σ → ε → Except η σ} {trace : Trace step}
  {queue : σ → List α} {serves : σ → ε → Prop}

/-- The queue is first in, first out, and is served again and again. -/
structure Fifo (trace : Trace step) (queue : σ → List α) (serves : σ → ε → Prop) : Prop where
  served : ∀ n, serves (trace.state n) (trace.event n) → ∃ first rest more,
    queue (trace.state n) = first :: rest ∧ queue (trace.state (n + 1)) = rest ++ more
  waits : ∀ n, ¬ serves (trace.state n) (trace.event n) → ∃ more,
    queue (trace.state (n + 1)) = queue (trace.state n) ++ more
  fair : ∀ n, queue (trace.state n) ≠ [] →
    ∃ later, n ≤ later ∧ serves (trace.state later) (trace.event later)

/-- From a moment on everything that is added to the queue has a property. -/
structure AddsOnly (trace : Trace step) (queue : σ → List α) (serves : σ → ε → Prop)
    (P : α → Prop) (n : Nat) : Prop where
  serving : ∀ m, n ≤ m → serves (trace.state m) (trace.event m) → ∀ first rest more,
    queue (trace.state m) = first :: rest → queue (trace.state (m + 1)) = rest ++ more →
      ∀ element ∈ more, P element
  waiting : ∀ m, n ≤ m → ¬ serves (trace.state m) (trace.event m) → ∀ more,
    queue (trace.state (m + 1)) = queue (trace.state m) ++ more → ∀ element ∈ more, P element

theorem AddsOnly.later {P : α → Prop} {n m : Nat} (adds : trace.AddsOnly queue serves P n)
    (after : n ≤ m) : trace.AddsOnly queue serves P m where
  serving k far := adds.serving k (Nat.le_trans after far)
  waiting k far := adds.waiting k (Nat.le_trans after far)

theorem addsOnly_anything (n : Nat) : trace.AddsOnly queue serves (fun _ => True) n where
  serving _ _ _ _ _ _ _ _ _ _ := trivial
  waiting _ _ _ _ _ _ _ := trivial

namespace Fifo

variable (fifo : Fifo trace queue serves) {P : α → Prop}

include fifo

/-- Until the queue is served for the next time, it only grows at its end. -/
theorem next_served {n : Nat} (adds : trace.AddsOnly queue serves P n)
    (nonempty : queue (trace.state n) ≠ []) :
    ∃ later more, n ≤ later ∧ serves (trace.state later) (trace.event later) ∧
      queue (trace.state later) = queue (trace.state n) ++ more ∧ ∀ element ∈ more, P element := by
  obtain ⟨later, after, served⟩ := fifo.fair n nonempty
  obtain ⟨wait, rfl⟩ := Nat.exists_eq_add_of_le after
  clear after nonempty
  -- By induction on the time until then; all steps before only add to the queue.
  induction wait generalizing n with
  | zero => exact ⟨n, [], Nat.le_refl n, served, (List.append_nil _).symm, by simp⟩
  | succ wait ih =>
    by_cases now : serves (trace.state n) (trace.event n)
    · exact ⟨n, [], Nat.le_refl n, now, (List.append_nil _).symm, by simp⟩
    · obtain ⟨more, grown⟩ := fifo.waits n now
      have fresh := adds.waiting n (Nat.le_refl n) now more grown
      have rest : serves (trace.state (n + 1 + wait)) (trace.event (n + 1 + wait)) := by
        rwa [Nat.add_right_comm, Nat.add_assoc]
      obtain ⟨later, others, after, served, same, fresh'⟩ := ih (adds.later (Nat.le_succ n)) rest
      refine ⟨later, more ++ others, by omega, served, ?_, ?_⟩
      · rw [same, grown, List.append_assoc]
      · exact List.forall_mem_append.mpr ⟨fresh, fresh'⟩

/-- Then its first element is taken. -/
theorem next_taken {n : Nat} {first : α} {rest : List α}
    (adds : trace.AddsOnly queue serves P n) (waiting : queue (trace.state n) = first :: rest) :
    ∃ later more, n ≤ later ∧ queue (trace.state (later + 1)) = rest ++ more ∧
      ∀ element ∈ more, P element := by
  obtain ⟨later, more, far, served, same, fresh⟩ := fifo.next_served adds (by rw [waiting]; simp)
  obtain ⟨taken, left, others, head, next⟩ := fifo.served later served
  have newer := adds.serving later far served taken left others head next
  rw [waiting, head, List.cons_append] at same
  obtain ⟨-, rfl⟩ := List.cons.inj same
  refine ⟨later, more ++ others, far, ?_, List.forall_mem_append.mpr ⟨fresh, newer⟩⟩
  rw [next, List.append_assoc]

/-- Whatever waits comes to the head of the queue, and is served then. -/
theorem reaches_head {n : Nat} {before after : List α} {element : α}
    (waiting : queue (trace.state n) = before ++ element :: after) :
    ∃ later rest, n ≤ later ∧ queue (trace.state later) = element :: rest ∧
      serves (trace.state later) (trace.event later) := by
  -- Each turn takes one of the elements before it.
  induction before generalizing n after with
  | nil =>
    obtain ⟨later, more, far, served, same, -⟩ :=
      fifo.next_served (addsOnly_anything n) (by rw [waiting]; simp)
    rw [waiting] at same
    exact ⟨later, after ++ more, far, same, served⟩
  | cons first before ih =>
    rw [List.cons_append] at waiting
    obtain ⟨later, more, far, next, -⟩ := fifo.next_taken (addsOnly_anything n) waiting
    rw [List.append_assoc, List.cons_append] at next
    obtain ⟨final, tail, farther, reached, last⟩ := ih next
    exact ⟨final, tail, by omega, reached, last⟩

/-- What has the property throughout the queue keeps having it. -/
theorem all_step {n : Nat} (adds : trace.AddsOnly queue serves P n)
    (all : ∀ element ∈ queue (trace.state n), P element) :
    ∀ element ∈ queue (trace.state (n + 1)), P element := by
  by_cases now : serves (trace.state n) (trace.event n)
  · obtain ⟨first, rest, more, head, next⟩ := fifo.served n now
    rw [next]
    rw [head] at all
    have left := (List.forall_mem_cons.mp all).2
    exact List.forall_mem_append.mpr
      ⟨left, adds.serving n (Nat.le_refl n) now first rest more head next⟩
  · obtain ⟨more, grown⟩ := fifo.waits n now
    rw [grown]
    exact List.forall_mem_append.mpr ⟨all, adds.waiting n (Nat.le_refl n) now more grown⟩

/-- In the end the queue holds nothing but what has been added since. -/
theorem purged {n : Nat} (adds : trace.AddsOnly queue serves P n) :
    ∃ purged, n ≤ purged ∧ ∀ later, purged ≤ later →
      ∀ element ∈ queue (trace.state later), P element := by
  suffices reached : ∀ old fresh n, trace.AddsOnly queue serves P n →
      queue (trace.state n) = old ++ fresh → (∀ element ∈ fresh, P element) →
        ∃ purged, n ≤ purged ∧ ∀ element ∈ queue (trace.state purged), P element by
    obtain ⟨purged, after, all⟩ := reached _ [] n adds (List.append_nil _).symm (by simp)
    refine ⟨purged, after, fun later far => ?_⟩
    induction far with
    | refl => exact all
    | step far ih => exact fifo.all_step (adds.later (Nat.le_trans after far)) ih
  intro old
  -- By induction on what is in the queue now, of which every turn takes one element.
  induction old with
  | nil =>
    intro fresh n adds same all
    exact ⟨n, Nat.le_refl n, by rwa [same]⟩
  | cons first old ih =>
    intro fresh n adds same all
    rw [List.cons_append] at same
    obtain ⟨later, more, far, next, new⟩ := fifo.next_taken adds same
    rw [List.append_assoc] at next
    obtain ⟨purged, after, all'⟩ := ih (fresh ++ more) (later + 1)
      (adds.later (Nat.le_succ_of_le far)) next (List.forall_mem_append.mpr ⟨all, new⟩)
    exact ⟨purged, by omega, all'⟩

end Fifo

end Execution.Trace
