import FurnitureAR.LoadSerialisation

/-!
# When restarts exclude loads and other restarts

`isRestartAvailable` is one flag for two purposes. The cool-down of a restart sets it while
an object may be loading, and hiding the loading UI sets it while a restart may be cooling
down. This module says exactly which steps do harm.
-/
namespace FurnitureAR

open Execution

namespace LoadCycle

def restartPasses (cycle : LoadCycle) : Bool := cycle.isRestartAvailable && !cycle.isLoading

/-- A restart would find nothing in progress and no earlier restart cooling down. -/
def RestartExclusive (cycle : LoadCycle) : Prop :=
  cycle.restartPasses = true → cycle.inProgress = [] ∧ cycle.coolDowns = 0

/-- The steps that leave the flag to its other purpose. -/
def LeavesRestartAlone (cycle : LoadCycle) : Action → Prop
  | .finish _ => cycle.isRestartAvailable = false
  | .place | .discard => cycle.coolDowns = 0
  | .coolDown => cycle.inProgress = [] ∨ cycle.isLoading = true
  | _ => True

/-- With at most one cool-down, an available restart waits for nothing but `load()`. -/
structure RestartGuarded (cycle : LoadCycle) : Prop where
  serial : cycle.Serial
  single : cycle.coolDowns ≤ 1
  available : cycle.isRestartAvailable = true →
    cycle.coolDowns = 0 ∧ (cycle.inProgress = [] ∨ cycle.isLoading = true)

theorem RestartGuarded.exclusive {cycle : LoadCycle} (guarded : cycle.RestartGuarded) :
    cycle.RestartExclusive := by
  intro passes
  simp only [restartPasses, Bool.and_eq_true, Bool.not_eq_true'] at passes
  obtain ⟨cooled, idle | loading⟩ := guarded.available passes.1
  · exact ⟨idle, cooled⟩
  · simp [passes.2] at loading

theorem RestartGuarded.step {cycle next : LoadCycle} {action : Action}
    (guarded : cycle.RestartGuarded) (allowed : cycle.LeavesRestartAlone action)
    (taken : cycle.Step action next) : next.RestartGuarded := by
  have serial := guarded.serial.step taken
  have single := guarded.single
  cases taken with
  | other => exact guarded
  | start object enabled empty => exact ⟨serial, single, by simp⟩
  -- Between `load()` and placement only the flag keeps a restart out.
  | finish object member => exact ⟨serial, single, by simp [show _ = false from allowed]⟩
  | prepare object member =>
    refine ⟨serial, single, fun available => ?_⟩
    obtain ⟨cooled, idle | loading⟩ := guarded.available available
    · simp only [inProgress, List.append_eq_nil_iff] at idle
      simp [idle.1.2] at member
    · exact ⟨cooled, .inr loading⟩
  | place object rest head =>
    exact ⟨serial, single, fun _ => ⟨allowed, .inl (serial.isEnabled_iff.mp rfl)⟩⟩
  | discard object rest head =>
    exact ⟨serial, single, fun _ => ⟨allowed, .inl (serial.isEnabled_iff.mp rfl)⟩⟩
  | remove enabled => exact ⟨serial, single, guarded.available⟩
  | close => exact ⟨serial, single, guarded.available⟩
  | reset => exact ⟨serial, single, guarded.available⟩
  -- With the flag down, no second restart can pass before this one has cooled down.
  | restart available idle =>
    have cooled := (guarded.available available).1
    exact ⟨serial, by simp [cooled], by simp⟩
  | coolDown pending left =>
    -- The only cool-down is over.
    have last : pending = 0 := by omega
    exact ⟨serial, by simp [last], fun _ => ⟨last, allowed⟩⟩

theorem RestartGuarded.broken {cycle next : LoadCycle} {action : Action}
    (guarded : cycle.RestartGuarded) (refused : ¬ cycle.LeavesRestartAlone action)
    (taken : cycle.Step action next) : ¬ next.RestartExclusive := by
  intro exclusive
  cases taken with
  | finish object member =>
    have available : cycle.isRestartAvailable = true := by
      simpa [LeavesRestartAlone] using refused
    simpa [inProgress] using (exclusive (by simp [restartPasses, available])).1
  | place object rest head =>
    have idle := guarded.serial.idle_of_placing head
    exact refused (exclusive (by simp [restartPasses, idle])).2
  | discard object rest head =>
    have idle := guarded.serial.idle_of_placing head
    exact refused (exclusive (by simp [restartPasses, idle])).2
  | coolDown pending left =>
    simp only [LeavesRestartAlone, not_or, Bool.not_eq_true] at refused
    exact refused.1 (exclusive (by simp [restartPasses, refused.2])).1
  | _ => exact absurd trivial refused

theorem leavesRestartAlone_taps : ARViewController.AllowsTaps LeavesRestartAlone where
  other _ := trivial
  start _ _ := trivial
  remove _ := trivial
  finish _ _ unavailable := unavailable
  prepare _ _ _ := trivial

end LoadCycle

namespace ARViewController

/-- Restarts exclude loads, placements and the cool-downs of earlier restarts exactly in the
runs in which no object is placed during a cool-down, no cool-down elapses between the end of
`load()` and the placement, and no `load()` ends after a cool-down has made the restart
available. -/
theorem restart_exclusive_iff (opening : Opening) (events : List Event) :
    Always step (fun screen => screen.restartPasses = true →
        screen.loadCycle.inProgress = [] ∧ screen.dispatch.coolDowns = 0) opening.screen events ↔
      Guarded step (fun screen event =>
        screen.loadCycle.LeavesRestartAlone (screen.action event)) opening.screen events := by
  have initial : LoadCycle.initial.RestartGuarded :=
    ⟨LoadCycle.serial_initial, Nat.zero_le 1, fun _ => ⟨rfl, .inl rfl⟩⟩
  exact @always_loadCycle_iff LoadCycle.RestartGuarded LoadCycle.RestartExclusive
    LoadCycle.LeavesRestartAlone LoadCycle.leavesRestartAlone_taps
    (fun _ guarded => guarded.exclusive)
    (fun _ _ _ guarded allowed taken => guarded.step allowed taken)
    (fun _ _ _ guarded refused taken => guarded.broken refused taken) initial opening events

/-- A restart, and a chair that is placed before five seconds are over. -/
def restartedAndPlaced : List Event :=
  floorFound ++ [.coachingOverlayDidRequestSessionReset] ++ chairPlaced

/-- Another restart would pass at the end of it, although the first still cools down. -/
theorem restart_not_exclusive : ¬ ∀ (opening : Opening) (events : List Event),
    Always step (fun screen => screen.restartPasses = true →
      screen.loadCycle.inProgress = [] ∧ screen.dispatch.coolDowns = 0)
      opening.screen events := by
  intro exclusive
  -- Hiding the loading UI has made the restart available during the cool-down.
  have cooled := ((exclusive showroom restartedAndPlaced).atEnd rfl rfl).2
  exact absurd cooled (by decide)

end ARViewController

end FurnitureAR
