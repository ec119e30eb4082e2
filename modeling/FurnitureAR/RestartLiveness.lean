import FurnitureAR.RestartExclusion

/-!
# Refused restarts

A request to reset the session is refused while an object is loaded or placed and while an
earlier restart cools down. Whatever else happens, none of this lasts.
-/
namespace FurnitureAR

open Execution

namespace LoadCycle

/-- A restart that is not available waits for a placement or for a cool-down. -/
structure RestartAwaited (cycle : LoadCycle) : Prop where
  serial : cycle.Serial
  awaited : cycle.isRestartAvailable = false → cycle.isEnabled = false ∨ 0 < cycle.coolDowns

theorem RestartAwaited.step {cycle next : LoadCycle} {action : Action}
    (inv : cycle.RestartAwaited) (taken : cycle.Step action next) : next.RestartAwaited := by
  have serial := inv.serial.step taken
  constructor
  · exact serial
  cases taken with
  | start object enabled empty => exact fun _ => .inl rfl
  -- Both ends of a load make the restart available, as does the end of a cool-down.
  | place object rest head => simp
  | discard object rest head => simp
  | coolDown pending left => simp
  | restart available idle => exact fun _ => .inr (Nat.succ_pos _)
  | other => exact inv.awaited
  | finish object member => exact inv.awaited
  | prepare object member => exact inv.awaited
  | remove enabled => exact inv.awaited
  | close => exact inv.awaited
  | reset => exact inv.awaited

theorem Serial.idle_of_enabled {cycle : LoadCycle} (serial : cycle.Serial)
    (enabled : cycle.isEnabled = true) : cycle.isLoading = false := by
  have idle := serial.isEnabled_iff.mp enabled
  simp only [inProgress, List.append_eq_nil_iff] at idle
  rw [← Bool.not_eq_true, serial.loading]
  exact fun loading => loading idle.1.1

/-- The button is enabled at the end of a load, and then a restart passes. -/
theorem Step.restartPasses_of_enabled {cycle next : LoadCycle} {action : Action}
    (taken : cycle.Step action next) (serial : next.Serial) (before : cycle.isEnabled = false)
    (after : next.isEnabled = true) : next.restartPasses = true := by
  have idle := serial.idle_of_enabled after
  have available : next.isRestartAvailable = true := by
    cases taken with
    | place object rest head => rfl
    | discard object rest head => rfl
    | start object enabled empty => cases after
    | coolDown pending left => rfl
    | remove enabled => cases before.symm.trans enabled
    | _ => cases before.symm.trans after
  rw [restartPasses, available, idle]
  rfl

end LoadCycle

namespace ARViewController

/-- Moreover the closures that restarts schedule are called. -/
structure FairToRestarts (trace : Trace step) : Prop extends Fair trace where
  coolsDown : ∀ n, 0 < (trace.state n).dispatch.coolDowns →
    ∃ later, n ≤ later ∧ trace.event later = .coolDownElapsed

theorem restartAwaited_step (screen : ARViewController) (event : Event) (next : ARViewController)
    (inv : screen.loadCycle.RestartAwaited) (taken : step screen event = .ok next) :
    next.loadCycle.RestartAwaited := by
  have free : AllowsTaps fun _ _ => True := ⟨by simp, by simp, by simp, by simp, by simp⟩
  exact preserved_loadCycle free (fun _ _ _ inv _ taken => inv.step taken) screen event next inv
    trivial taken

section Progress

variable (trace : Trace step) (inv : ∀ n, (trace.state n).loadCycle.RestartAwaited)
  (fair : FairToRestarts trace)

include inv fair

/-- The load that disables the button ends with a restart that passes. -/
theorem disabled_leadsTo_restartPasses :
    trace.LeadsTo (fun screen => screen.addVirtualObjectButton.isEnabled = false)
      (fun screen => screen.restartPasses = true) := by
  have serial : ∀ n, (trace.state n).loadCycle.Serial := fun n => (inv n).serial
  -- The step that enables the button is the one after which a restart passes.
  apply trace.leadsTo_of_exit
  · intro n disabled
    obtain ⟨later, after, enabled⟩ := disabled_leadsTo trace serial fair.toFair n disabled
    exact ⟨later, after, by simp [enabled]⟩
  · intro n disabled enabled
    have busy : (trace.state n).loadCycle.inProgress ≠ [] := by
      rw [Ne, ← (serial n).isEnabled_iff]
      simp [loadCycle, disabled]
    have undisturbed := undisturbed_of_inProgress (serial n) busy (trace.taken n)
    have after : (trace.state (n + 1)).loadCycle.isEnabled = true := by
      rwa [Bool.not_eq_false] at enabled
    exact (step_loadCycle undisturbed (trace.taken n)).restartPasses_of_enabled (serial (n + 1))
      disabled after

/-- Whatever a refused restart waits for comes. -/
theorem refused_leadsTo_restartPasses :
    trace.LeadsTo (fun screen => screen.restartPasses = false)
      (fun screen => screen.restartPasses = true) := by
  have disabled := disabled_leadsTo_restartPasses trace inv fair
  have loading : ∀ n, (trace.state n).scene.loader.isLoading = true →
      (trace.state n).addVirtualObjectButton.isEnabled = false := by
    intro n loading
    rw [← Bool.not_eq_true]
    intro enabled
    cases loading.symm.trans ((inv n).serial.idle_of_enabled enabled)
  intro n refused
  cases available : (trace.state n).isRestartAvailable with
  | true =>
    -- Then a model is being loaded.
    have busy : (trace.state n).scene.loader.isLoading = true := by
      simpa [restartPasses, available] using refused
    exact disabled n (loading n busy)
  | false =>
    rcases (inv n).awaited available with off | cooling
    · exact disabled n off
    · obtain ⟨later, after, elapsed⟩ := fair.coolsDown n cooling
      have taken := trace.taken later
      rw [elapsed] at taken
      obtain ⟨pending, -, same⟩ := coolDownElapsed_cases taken
      have back : (trace.state (later + 1)).isRestartAvailable = true := by
        rw [same]
      cases busy : (trace.state (later + 1)).scene.loader.isLoading with
      | false => exact ⟨later + 1, by omega, by simp [restartPasses, back, busy]⟩
      -- A load may have started in the meantime.
      | true =>
        obtain ⟨final, far, passes⟩ := disabled (later + 1) (loading (later + 1) busy)
        exact ⟨final, by omega, passes⟩

end Progress

/-- A request to reset the session that is refused would be granted later, and so from every
moment on. -/
theorem restart_granted_again (opening : Opening) (trace : Trace step)
    (start : trace.state 0 = opening.screen) (fair : FairToRestarts trace) :
    trace.LeadsTo (fun screen => screen.restartPasses = false)
      (fun screen => screen.restartPasses = true) := by
  refine refused_leadsTo_restartPasses trace (fun n => ?_) fair
  refine trace.invariant restartAwaited_step ?_ n
  rw [start]
  exact ⟨LoadCycle.serial_initial, fun unavailable => nomatch unavailable⟩

/-- A restart that is requested while the chair waits to be placed is refused, and would be
granted later. -/
theorem restart_granted_again_showroom :
    (showroomTrace.state 6).restartPasses = false ∧
      ∃ later, 6 ≤ later ∧ (showroomTrace.state later).restartPasses = true := by
  have still : ∀ n, (showroomTrace.state n).dispatch.coolDowns = 0 := by
    intro n
    by_cases early : n < 8
    · have none : ∀ n < 8, (showroomTrace.state n).dispatch.coolDowns = 0 := by decide
      exact none n early
    · obtain ⟨n, rfl⟩ := Nat.exists_eq_add_of_le' (Nat.le_of_not_lt early)
      rw [showroomTrace_late]
      rfl
  have fair : FairToRestarts showroomTrace :=
    ⟨showroomTrace_fair, fun n cooling => absurd cooling (by simp [still n])⟩
  exact ⟨rfl, restart_granted_again showroom showroomTrace rfl fair 6 rfl⟩

end ARViewController

end FurnitureAR
