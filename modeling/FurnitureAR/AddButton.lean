import FurnitureAR.LoadSerialisation

/-!
# What the add button shows

The image of the button and the list of objects, on which a tap acts, are changed apart.
This module says exactly which steps let them disagree.
-/
namespace FurnitureAR

open Execution

namespace LoadCycle

/-- The image says what is in progress or what a tap would do. -/
structure Truthful (cycle : LoadCycle) : Prop where
  busy : cycle.inProgress ≠ [] → cycle.image = .buttonring
  close : cycle.inProgress = [] → (cycle.image = .close ↔ cycle.loadedObjects ≠ [])
  add : cycle.inProgress = [] → (cycle.image = .add ↔ cycle.loadedObjects = [])

/-- The steps after which image and list agree: placements that succeed and find the object
still in the list, resets and restarts without anything to lose, and closing a screen without
placed objects. -/
def KeepsImage (cycle : LoadCycle) : Action → Prop
  | .place => cycle.loadedObjects ≠ []
  | .discard => False
  | .close => cycle.inProgress ≠ [] ∨ cycle.loadedObjects = []
  | .reset => cycle.inProgress = [] ∧ cycle.loadedObjects = []
  | .restart => cycle.inProgress = []
  | _ => True

theorem truthful_initial : initial.Truthful := by
  refine ⟨?_, ?_, ?_⟩ <;> simp [initial, inProgress]

theorem Truthful.of_inProgress {cycle : LoadCycle} (ring : cycle.image = .buttonring)
    (busy : cycle.inProgress ≠ []) : cycle.Truthful :=
  ⟨fun _ => ring, fun idle => absurd idle busy, fun idle => absurd idle busy⟩

theorem Truthful.of_empty {cycle : LoadCycle} (add : cycle.image = .add)
    (idle : cycle.inProgress = []) (empty : cycle.loadedObjects = []) : cycle.Truthful :=
  ⟨fun busy => absurd idle busy, by simp [add, empty], by simp [add, empty]⟩

theorem Truthful.of_placed {cycle : LoadCycle} (close : cycle.image = .close)
    (idle : cycle.inProgress = []) (placed : cycle.loadedObjects ≠ []) : cycle.Truthful :=
  ⟨fun busy => absurd idle busy, by simp [close, placed], by simp [close, placed]⟩

theorem Truthful.step {cycle next : LoadCycle} {action : Action} (serial : cycle.Serial)
    (truthful : cycle.Truthful) (allowed : cycle.KeepsImage action)
    (taken : cycle.Step action next) : next.Truthful := by
  have serialNext := serial.step taken
  cases taken with
  | other => exact truthful
  | start object enabled empty => exact .of_inProgress rfl (by simp [inProgress])
  | finish object member =>
    exact .of_inProgress (truthful.busy (by
      simp [inProgress, List.ne_nil_of_mem member])) (by simp [inProgress])
  | prepare object member =>
    exact .of_inProgress (truthful.busy (by
      simp [inProgress, List.ne_nil_of_mem member])) (by simp [inProgress])
  | place object rest head => exact .of_placed rfl (serialNext.isEnabled_iff.mp rfl) allowed
  | discard object rest head => exact absurd allowed id
  -- An enabled button says that nothing is in progress.
  | remove enabled => exact .of_empty rfl (serial.isEnabled_iff.mp enabled) rfl
  | close =>
    rcases allowed with busy | empty
    · exact .of_inProgress (truthful.busy busy) busy
    · simpa only [← empty] using truthful
  | reset => exact .of_empty rfl allowed.1 allowed.2
  | restart available idle => exact .of_empty rfl allowed rfl
  | coolDown pending left => exact ⟨truthful.busy, truthful.close, truthful.add⟩

theorem Truthful.broken {cycle next : LoadCycle} {action : Action} (serial : cycle.Serial)
    (truthful : cycle.Truthful) (refused : ¬ cycle.KeepsImage action)
    (taken : cycle.Step action next) : ¬ next.Truthful := by
  have serialNext := serial.step taken
  intro after
  cases taken with
  | place object rest head =>
    exact refused ((after.close (serialNext.isEnabled_iff.mp rfl)).mp rfl)
  -- The close image stays, although the failed placement has emptied the list.
  | discard object rest head =>
    exact absurd rfl ((after.close (serialNext.isEnabled_iff.mp rfl)).mp rfl)
  | close =>
    simp only [KeepsImage, not_or, not_not] at refused
    have image := (truthful.close refused.1).mpr refused.2
    exact absurd rfl ((after.close refused.1).mp image)
  -- The add image is right only where a tap would add.
  | reset =>
    have idle : cycle.inProgress = [] := by
      by_contra busy
      exact absurd (after.busy busy) (by simp)
    exact refused ⟨idle, (after.add idle).mp rfl⟩
  | restart available idle =>
    exact absurd (after.busy refused) (by simp)
  | _ => exact absurd trivial refused

theorem keepsImage_taps : ARViewController.AllowsTaps KeepsImage where
  other _ := trivial
  start _ _ := trivial
  remove _ := trivial
  finish _ _ _ := trivial
  prepare _ _ _ := trivial

end LoadCycle

namespace ARViewController

/-- The button tells the truth exactly in the runs in which every placement succeeds and finds
its object still in the list, nothing is in progress when the session is restarted, nothing
is in progress or placed when it is only reset, and nothing is placed, unless something is in
progress, when the screen is closed. -/
theorem addButton_truthful_iff (opening : Opening) (events : List Event) :
    Always step (fun screen =>
        (screen.loadCycle.inProgress ≠ [] → screen.addVirtualObjectButton.image = .buttonring) ∧
        (screen.loadCycle.inProgress = [] →
          (screen.addVirtualObjectButton.image = .close ↔
            screen.scene.loader.loadedObjects ≠ []) ∧
          (screen.addVirtualObjectButton.image = .add ↔
            screen.scene.loader.loadedObjects = []))) opening.screen events ↔
      Guarded step (fun screen event =>
        screen.loadCycle.KeepsImage (screen.action event)) opening.screen events := by
  have exact := @always_loadCycle_iff (fun cycle => cycle.Serial ∧ cycle.Truthful)
    LoadCycle.Truthful LoadCycle.KeepsImage LoadCycle.keepsImage_taps
    (fun _ inv => inv.2)
    (fun _ _ _ inv allowed taken => ⟨inv.1.step taken, inv.2.step inv.1 allowed taken⟩)
    (fun _ _ _ inv refused taken => inv.2.broken inv.1 refused taken)
    ⟨LoadCycle.serial_initial, LoadCycle.truthful_initial⟩ opening events
  rw [← exact]
  constructor
  -- The two statements differ only in how the cases are grouped.
  · intro always
    exact always.mono fun screen holds =>
      ⟨holds.1, fun idle => (holds.2 idle).1, fun idle => (holds.2 idle).2⟩
  · intro always
    exact always.mono fun screen truthful =>
      ⟨truthful.busy, fun idle => ⟨truthful.close idle, truthful.add idle⟩⟩

/-- The hand in front of the camera when the button is tapped. -/
def coveredView : SceneView := { showroomView with raycast := fun _ => [] }

/-- A placement that fails, because no surface was found at the time of the tap. -/
def placementRefused : List Event :=
  floorFound ++ [.addVirtualObject coveredView [], .background (.loaded 0 chairModel true),
    .background (.prepared 0), .mainQueue coveredView]

/-- It leaves the close image on a button that adds. -/
theorem addButton_not_truthful : ¬ ∀ (opening : Opening) (events : List Event),
    Always step (fun screen =>
      (screen.loadCycle.inProgress ≠ [] → screen.addVirtualObjectButton.image = .buttonring) ∧
      (screen.loadCycle.inProgress = [] →
        (screen.addVirtualObjectButton.image = .close ↔
          screen.scene.loader.loadedObjects ≠ []) ∧
        (screen.addVirtualObjectButton.image = .add ↔
          screen.scene.loader.loadedObjects = []))) opening.screen events := by
  intro truthful
  have shown := (((truthful showroom placementRefused).atEnd rfl).2 rfl).1.mp rfl
  exact absurd shown (by decide)

end ARViewController

end FurnitureAR
