import Mathlib.Data.List.Nodup
import Mathlib.Logic.Function.Basic
import Mathlib.Tactic.Common

/-!
# One-shot timers in slots

Timers that fire once are numbered as they are scheduled, and each is filed in a slot. A slot
remembers the last number that was filed in it, even if that timer has fired. As long as a slot is
invalidated before another timer is filed in it, it has at most one timer that is still to fire.
-/

/-- Timers have a number and belong to a slot. -/
class OneShot (τ : Type) (κ : outParam Type) where
  reference : τ → Nat
  slot : τ → κ

namespace TimerSlots

open OneShot

variable {τ κ : Type} [OneShot τ κ]

structure Slots (τ κ : Type) where
  pending : List τ
  filed : κ → Option Nat
  next : Nat

namespace Slots

variable (slots : Slots τ κ)

/-- The timer that is filed in a slot will not fire. -/
def invalidate (key : κ) : Slots τ κ :=
  { slots with pending := slots.pending.filter fun timer =>
      slots.filed key ≠ some (reference timer) }

/-- A timer is spent when it fires. -/
def fire (number : Nat) : Slots τ κ :=
  { slots with pending := slots.pending.filter fun timer => reference timer ≠ number }

section Updates

variable [DecidableEq κ]

def forget (key : κ) : Slots τ κ :=
  { slots with filed := Function.update slots.filed key none }

/-- Invalidate the timer of a slot, and forget its number. -/
def cancel (key : κ) : Slots τ κ := (slots.invalidate key).forget key

def schedule (key : κ) (timer : τ) : Slots τ κ where
  pending := slots.pending ++ [timer]
  filed := Function.update slots.filed key (some slots.next)
  next := slots.next + 1

/-- A new timer takes the place of the one that is filed in a slot. -/
def reschedule (key : κ) (timer : τ) : Slots τ κ := (slots.invalidate key).schedule key timer

/-- The timer of a slot that is still to fire. -/
def live (key : κ) : Option τ := slots.pending.find? fun timer => slot timer = key

end Updates

/-- Every timer that is still to fire is filed in its own slot, and in no other. -/
structure Sound : Prop where
  filed : ∀ timer ∈ slots.pending, ∀ key,
    slots.filed key = some (reference timer) ↔ slot timer = key
  numbered : ∀ timer ∈ slots.pending, reference timer < slots.next
  past : ∀ key number, slots.filed key = some number → number < slots.next
  unique : (slots.pending.map reference).Nodup

variable {slots}

namespace Sound

theorem same (sound : slots.Sound) {first second : τ} (one : first ∈ slots.pending)
    (other : second ∈ slots.pending) (equal : reference first = reference second) :
    first = second :=
  List.inj_on_of_nodup_map sound.unique one other equal

/-- No slot has two timers that are still to fire. -/
theorem eq_of_slot (sound : slots.Sound) {first second : τ} (one : first ∈ slots.pending)
    (other : second ∈ slots.pending) (equal : slot first = slot second) : first = second := by
  have filed := (sound.filed first one (slot second)).mpr equal
  rw [(sound.filed second other (slot second)).mpr rfl] at filed
  exact sound.same one other (Option.some.inj filed).symm

/-- Fewer timers are sound when the slots remember the same. -/
theorem filter (sound : slots.Sound) (kept : τ → Bool) :
    { slots with pending := slots.pending.filter kept }.Sound where
  filed timer member := sound.filed timer (List.mem_of_mem_filter member)
  numbered timer member := sound.numbered timer (List.mem_of_mem_filter member)
  past := sound.past
  unique := sound.unique.sublist (List.filter_sublist.map reference)

theorem invalidate (sound : slots.Sound) (key : κ) : (slots.invalidate key).Sound :=
  sound.filter _

theorem fire (sound : slots.Sound) (number : Nat) : (slots.fire number).Sound :=
  sound.filter _

end Sound

/-- A timer that fires leaves its slot as if it had been invalidated. -/
theorem fire_eq_invalidate (sound : slots.Sound) {timer : τ} (member : timer ∈ slots.pending) :
    slots.fire (reference timer) = slots.invalidate (slot timer) := by
  have filed := (sound.filed timer member (slot timer)).mpr rfl
  unfold fire invalidate
  congr
  funext other
  simp [filed, eq_comm]

section Live

variable [DecidableEq κ]

theorem live_iff (sound : slots.Sound) {key : κ} {timer : τ} :
    slots.live key = some timer ↔ timer ∈ slots.pending ∧ slot timer = key := by
  constructor
  · intro found
    exact ⟨List.mem_of_find?_eq_some found, by simpa using List.find?_some found⟩
  · rintro ⟨member, own⟩
    cases found : slots.live key with
    | none =>
      have absent := List.find?_eq_none.mp found timer member
      exact absurd own (by simpa using absent)
    | some other =>
      have owned : slot other = key := by simpa using List.find?_some found
      rw [sound.eq_of_slot (List.mem_of_find?_eq_some found) member (owned.trans own.symm)]

theorem live_eq_none {key : κ} :
    slots.live key = none ↔ ∀ timer ∈ slots.pending, slot timer ≠ key := by
  simp [live, List.find?_eq_none]

theorem live_invalidate (sound : slots.Sound) (key : κ) :
    (slots.invalidate key).live = Function.update slots.live key none := by
  funext other
  apply Option.ext
  intro timer
  rw [live_iff (sound.invalidate key)]
  simp only [invalidate, List.mem_filter, decide_eq_true_eq]
  by_cases same : other = key
  · subst same
    rw [Function.update_self]
    constructor
    · rintro ⟨⟨member, kept⟩, own⟩
      exact absurd ((sound.filed timer member other).mpr own) kept
    · intro impossible
      cases impossible
  · rw [Function.update_of_ne same, live_iff sound]
    constructor
    · rintro ⟨⟨member, -⟩, own⟩
      exact ⟨member, own⟩
    · rintro ⟨member, own⟩
      refine ⟨⟨member, fun filed => same ?_⟩, own⟩
      rw [← own, (sound.filed timer member key).mp filed]

theorem live_fire (sound : slots.Sound) {timer : τ} (member : timer ∈ slots.pending) :
    (slots.fire (reference timer)).live = Function.update slots.live (slot timer) none := by
  rw [fire_eq_invalidate sound member, live_invalidate sound]

theorem Sound.forget (sound : slots.Sound) {key : κ} (free : slots.live key = none) :
    (slots.forget key).Sound where
  filed timer member other := by
    rw [live_eq_none] at free
    simp only [Slots.forget] at member ⊢
    by_cases same : other = key
    · subst same
      rw [Function.update_self]
      exact ⟨fun impossible => absurd impossible (by simp),
        fun own => absurd own (free timer member)⟩
    · rw [Function.update_of_ne same]
      exact sound.filed timer member other
  numbered := sound.numbered
  past other number filed := by
    simp only [Slots.forget, Function.update_apply] at filed
    split at filed
    · cases filed
    · exact sound.past other number filed
  unique := sound.unique

theorem free_of_invalidate (sound : slots.Sound) (key : κ) :
    (slots.invalidate key).live key = none := by
  rw [live_invalidate sound, Function.update_self]

theorem Sound.cancel (sound : slots.Sound) (key : κ) : (slots.cancel key).Sound :=
  (sound.invalidate key).forget (free_of_invalidate sound key)

theorem live_cancel (sound : slots.Sound) (key : κ) :
    (slots.cancel key).live = Function.update slots.live key none :=
  live_invalidate sound key

/-- A timer with a new number is filed in a slot that has none. -/
theorem Sound.schedule (sound : slots.Sound) {timer : τ}
    (free : slots.live (slot timer) = none) (new : reference timer = slots.next) :
    (slots.schedule (slot timer) timer).Sound where
  filed other member key := by
    rw [live_eq_none] at free
    simp only [Slots.schedule, List.mem_append, List.mem_singleton] at member ⊢
    rcases member with old | rfl
    · have before := sound.numbered other old
      by_cases same : key = slot timer
      · subst same
        rw [Function.update_self]
        constructor
        · intro equal
          have := Option.some.inj equal
          omega
        · exact fun own => absurd own (free other old)
      · rw [Function.update_of_ne same]
        exact sound.filed other old key
    · by_cases same : key = slot other
      · subst same
        rw [Function.update_self, new]
        exact iff_of_true rfl rfl
      · rw [Function.update_of_ne same]
        constructor
        · intro filed
          have := sound.past key _ filed
          omega
        · exact fun own => absurd own.symm same
  numbered other member := by
    simp only [Slots.schedule, List.mem_append, List.mem_singleton] at member ⊢
    rcases member with old | rfl
    · exact Nat.lt_succ_of_lt (sound.numbered other old)
    · omega
  past key number filed := by
    simp only [Slots.schedule, Function.update_apply] at filed ⊢
    split at filed
    · have := Option.some.inj filed
      omega
    · exact Nat.lt_succ_of_lt (sound.past key number filed)
  unique := by
    simp only [Slots.schedule, List.map_append, List.map_cons, List.map_nil]
    apply List.Nodup.append sound.unique (List.nodup_singleton _)
    simp only [List.disjoint_singleton, List.mem_map, not_exists, not_and]
    intro other old equal
    have := sound.numbered other old
    omega

theorem live_schedule {timer : τ} (free : slots.live (slot timer) = none) :
    (slots.schedule (slot timer) timer).live =
      Function.update slots.live (slot timer) (some timer) := by
  funext key
  simp only [schedule, live, List.find?_append, Function.update_apply]
  split
  next same =>
    subst same
    rw [live] at free
    simp [free]
  next different =>
    simp [Ne.symm different]

/-- Whether the old number is forgotten before makes no difference. -/
theorem schedule_cancel (key : κ) (timer : τ) :
    (slots.cancel key).schedule key timer = slots.reschedule key timer := by
  simp only [cancel, forget, reschedule, schedule, invalidate, Function.update_idem]

theorem Sound.reschedule (sound : slots.Sound) {key : κ} {timer : τ} (own : slot timer = key)
    (new : reference timer = slots.next) : (slots.reschedule key timer).Sound := by
  subst own
  exact (sound.invalidate _).schedule (free_of_invalidate sound _) new

theorem live_reschedule (sound : slots.Sound) {key : κ} {timer : τ} (own : slot timer = key) :
    (slots.reschedule key timer).live = Function.update slots.live key (some timer) := by
  subst own
  rw [reschedule, live_schedule (free_of_invalidate sound _), live_invalidate sound,
    Function.update_idem]

end Live

end Slots

end TimerSlots
