import Mathlib.Logic.Function.Basic
import Mathlib.Tactic.Common

/-!
# Leases

Leases are numbered as they are granted, and are live until they are released. An owner
remembers at most one lease, and can release only that one.
-/
namespace Lease

variable {α : Type*}

structure Registry (α : Type*) where
  held : α → Option Nat
  live : Nat → Option α
  next : Nat

namespace Registry

variable (registry : Registry α)

def Numbered : Prop := ∀ lease owner, registry.live lease = some owner → lease < registry.next

/-- Live leases are remembered by their owners, and nothing else is remembered. -/
structure Consistent : Prop where
  remembered : ∀ {lease owner}, registry.live lease = some owner →
    registry.held owner = some lease
  alive : ∀ {lease owner}, registry.held owner = some lease → registry.live lease = some owner
  numbered : registry.Numbered

/-- Whatever is remembered is live, although not everything that is live is remembered. -/
structure Sound : Prop where
  alive : ∀ {lease owner}, registry.held owner = some lease → registry.live lease = some owner
  numbered : registry.Numbered

theorem Sound.held_lt {registry : Registry α} (sound : registry.Sound) {lease : Nat} {owner : α}
    (held : registry.held owner = some lease) : lease < registry.next :=
  sound.numbered lease owner (sound.alive held)

theorem Consistent.sound {registry : Registry α} (consistent : registry.Consistent) :
    registry.Sound :=
  ⟨consistent.alive, consistent.numbered⟩

/-- No owner has two live leases. -/
theorem Consistent.unique {registry : Registry α} (consistent : registry.Consistent)
    {first second : Nat} {owner : α} (one : registry.live first = some owner)
    (other : registry.live second = some owner) : first = second :=
  Option.some.inj ((consistent.remembered one).symm.trans (consistent.remembered other))

variable [DecidableEq α]

/-- Some owners release what they remember. -/
def release (owners : List α) : Registry α where
  held owner := if owner ∈ owners then none else registry.held owner
  live lease :=
    if ∃ owner ∈ owners, registry.held owner = some lease then none else registry.live lease
  next := registry.next

/-- An owner gets a new lease, and forgets about the one that it remembered. -/
def grant (owner : α) : Registry α where
  held := Function.update registry.held owner (some registry.next)
  live := Function.update registry.live registry.next (some owner)
  next := registry.next + 1

def forget (owner : α) : Registry α :=
  { registry with held := Function.update registry.held owner none }

variable {registry}

theorem live_release {owners : List α} {lease : Nat} {owner : α} :
    (registry.release owners).live lease = some owner ↔
      registry.live lease = some owner ∧ ∀ other ∈ owners, registry.held other ≠ some lease := by
  simp only [release]
  split
  next released =>
    obtain ⟨other, member, held⟩ := released
    exact ⟨fun impossible => absurd impossible (by simp),
      fun both => absurd held (both.2 other member)⟩
  next kept =>
    exact ⟨fun live => ⟨live, fun other member held => kept ⟨other, member, held⟩⟩,
      fun both => both.1⟩

theorem live_grant {owner other : α} {lease : Nat} :
    (registry.grant owner).live lease = some other ↔
      if lease = registry.next then owner = other else registry.live lease = some other := by
  simp only [grant, Function.update_apply]
  split <;> simp

theorem live_grant_self (owner : α) : (registry.grant owner).live registry.next = some owner :=
  Function.update_self _ _ _

namespace Numbered

theorem release (numbered : registry.Numbered) (owners : List α) :
    (registry.release owners).Numbered :=
  fun lease owner live => numbered lease owner (live_release.mp live).1

theorem grant (numbered : registry.Numbered) (owner : α) : (registry.grant owner).Numbered := by
  intro lease other live
  rw [live_grant] at live
  simp only [Registry.grant]
  split at live
  next new => omega
  next old => exact Nat.lt_succ_of_lt (numbered lease other live)

/-- A new lease takes the place of no other one. -/
theorem live_of_live (numbered : registry.Numbered) {owner other : α} {lease : Nat}
    (live : registry.live lease = some other) : (registry.grant owner).live lease = some other := by
  rwa [live_grant, if_neg (Nat.ne_of_lt (numbered lease other live))]

end Numbered

namespace Sound

theorem release (sound : registry.Sound) (owners : List α) : (registry.release owners).Sound where
  alive {lease owner} held := by
    simp only [Registry.release] at held
    split at held
    · cases held
    next kept =>
      have live := sound.alive held
      refine live_release.mpr ⟨live, fun other member remembered => ?_⟩
      have same := Option.some.inj ((sound.alive remembered).symm.trans live)
      exact kept (same ▸ member)
  numbered := sound.numbered.release owners

/-- A lease that an owner forgets about when it gets a new one stays live. -/
theorem grant (sound : registry.Sound) (owner : α) : (registry.grant owner).Sound where
  alive {lease other} held := by
    rw [live_grant]
    simp only [Registry.grant, Function.update_apply] at held
    split at held
    next same => rw [if_pos (Option.some.inj held).symm, same]
    next different =>
      have live := sound.alive held
      rw [if_neg (Nat.ne_of_lt (sound.numbered _ _ live)), live]
  numbered := sound.numbered.grant owner

theorem forget (sound : registry.Sound) (owner : α) : (registry.forget owner).Sound where
  alive {lease other} held := by
    simp only [Registry.forget, Function.update_apply] at held
    split at held
    · cases held
    · exact sound.alive held
  numbered := sound.numbered

end Sound

namespace Consistent

theorem release (consistent : registry.Consistent) (owners : List α) :
    (registry.release owners).Consistent where
  remembered live := by
    rw [live_release] at live
    have held := consistent.remembered live.1
    have kept : _ ∉ owners := fun member => live.2 _ member held
    simp only [Registry.release, if_neg kept, held]
  alive := (consistent.sound.release owners).alive
  numbered := consistent.numbered.release owners

/-- An owner without a lease can be granted one. -/
theorem grant (consistent : registry.Consistent) {owner : α} (free : registry.held owner = none) :
    (registry.grant owner).Consistent where
  remembered {lease other} live := by
    rw [live_grant] at live
    simp only [Registry.grant, Function.update_apply]
    split at live
    next new => rw [if_pos live.symm, new]
    next old =>
      have held := consistent.remembered live
      have different : other ≠ owner := by
        rintro rfl
        rw [free] at held
        cases held
      rw [if_neg different, held]
  alive := (consistent.sound.grant owner).alive
  numbered := consistent.numbered.grant owner

theorem forget (consistent : registry.Consistent) {owner : α} (free : registry.held owner = none) :
    (registry.forget owner).Consistent := by
  rwa [Registry.forget, Function.update_eq_self_iff.mpr free.symm]

/-- A lease that is overwritten stays live, and is no longer remembered. -/
theorem overwritten_grant (consistent : registry.Consistent) {owner : α} {lease : Nat}
    (held : registry.held owner = some lease) :
    (registry.grant owner).live lease = some owner ∧
      (registry.grant owner).held owner ≠ some lease := by
  have live := consistent.alive held
  have old : lease ≠ registry.next := Nat.ne_of_lt (consistent.numbered _ _ live)
  exact ⟨consistent.numbered.live_of_live live, by simp [Registry.grant, old.symm]⟩

theorem overwritten_forget (consistent : registry.Consistent) {owner : α} {lease : Nat}
    (held : registry.held owner = some lease) :
    (registry.forget owner).live lease = some owner ∧
      (registry.forget owner).held owner ≠ some lease :=
  ⟨consistent.alive held, by simp [Registry.forget]⟩

end Consistent

end Registry

end Lease
