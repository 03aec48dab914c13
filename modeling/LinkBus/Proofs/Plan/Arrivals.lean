import LinkBus.Proofs.Plan.Blocks
import LinkBus.Proofs.Network.Transition

/-!
# Arrivals and departures

Whenever a plan registers a device, it announces the device and the settings of its connection, and
whenever it unregisters one, it takes both announcements back, in the same order. It does so at most
once for each number.
-/

namespace LinkBus

namespace BusStep

/-- The number of the device object that a step registers. -/
def registeredDevice? : BusStep → Option Nat
  | register ⟨.device _, number⟩ => some number
  | _ => none

/-- The number of the device object that a step unregisters. -/
def unregisteredDevice? : BusStep → Option Nat
  | unregister ⟨.device _, number⟩ => some number
  | _ => none

/-- The path of the device that a step announces. -/
def addedDevice? : BusStep → Option String
  | emit (.deviceAdded path) => some path
  | _ => none

/-- The path of the device that a step takes back. -/
def removedDevice? : BusStep → Option String
  | emit (.deviceRemoved path) => some path
  | _ => none

/-- The path of the settings that a step announces. -/
def addedConnection? : BusStep → Option String
  | emit (.newConnection path) => some path
  | _ => none

/-- The path of the settings that a step takes back. -/
def removedConnection? : BusStep → Option String
  | emit (.connectionRemoved path) => some path
  | _ => none

/-- A step neither registers, unregisters nor announces a device. -/
def IsQuiet (step : BusStep) : Prop :=
  step.registeredDevice? = none ∧ step.unregisteredDevice? = none ∧ step.addedDevice? = none ∧
    step.removedDevice? = none ∧ step.addedConnection? = none ∧ step.removedConnection? = none

end BusStep

open BusStep

/-- Registered devices are announced, and unregistered devices taken back, one by one and with the
settings of their connections. -/
structure Announces (steps : List BusStep) : Prop where
  /-- Each registered device is announced. -/
  added : steps.filterMap addedDevice? =
    (steps.filterMap registeredDevice?).map PathKind.device.path
  /-- The settings of each registered device are announced. -/
  addedConnection : steps.filterMap addedConnection? =
    (steps.filterMap registeredDevice?).map PathKind.settings.path
  /-- Each unregistered device is taken back. -/
  removed : steps.filterMap removedDevice? =
    (steps.filterMap unregisteredDevice?).map PathKind.device.path
  /-- The settings of each unregistered device are taken back. -/
  removedConnection : steps.filterMap removedConnection? =
    (steps.filterMap unregisteredDevice?).map PathKind.settings.path

namespace Announces

/-- Announcements add up. -/
theorem append {first second : List BusStep} (h₁ : Announces first) (h₂ : Announces second) :
    Announces (first ++ second) where
  added := by simp only [List.filterMap_append, List.map_append, h₁.added, h₂.added]
  addedConnection := by
    simp only [List.filterMap_append, List.map_append, h₁.addedConnection, h₂.addedConnection]
  removed := by simp only [List.filterMap_append, List.map_append, h₁.removed, h₂.removed]
  removedConnection := by
    simp only [List.filterMap_append, List.map_append, h₁.removedConnection, h₂.removedConnection]

/-- The announcements of several blocks add up. -/
theorem flatMap {α : Type} {block : α → List BusStep} (h : ∀ a, Announces (block a))
    (blocks : List α) : Announces (blocks.flatMap block) := by
  induction blocks with
  | nil => exact ⟨rfl, rfl, rfl, rfl⟩
  | cons a rest ih => exact (h a).append ih

end Announces

/-- Quiet steps register, unregister and announce no device. -/
theorem filterMap_of_isQuiet {steps : List BusStep} (h : ∀ step ∈ steps, step.IsQuiet) :
    steps.filterMap registeredDevice? = [] ∧ steps.filterMap unregisteredDevice? = [] ∧
      steps.filterMap addedDevice? = [] ∧ steps.filterMap removedDevice? = [] ∧
      steps.filterMap addedConnection? = [] ∧ steps.filterMap removedConnection? = [] := by
  simp only [List.filterMap_eq_nil_iff]
  exact ⟨fun step hstep => (h step hstep).1, fun step hstep => (h step hstep).2.1,
    fun step hstep => (h step hstep).2.2.1, fun step hstep => (h step hstep).2.2.2.1,
    fun step hstep => (h step hstep).2.2.2.2.1, fun step hstep => (h step hstep).2.2.2.2.2⟩

/-- Quiet steps announce all that they register, namely nothing. -/
theorem Announces.of_isQuiet {steps : List BusStep} (h : ∀ step ∈ steps, step.IsQuiet) :
    Announces steps := by
  obtain ⟨hregistered, hunregistered, hadded, hremoved, hconnection, hconnection'⟩ :=
    filterMap_of_isQuiet h
  constructor <;> simp only [hregistered, hunregistered, hadded, hremoved, hconnection,
    hconnection', List.map_nil]

namespace DeviceMemo

variable {a : DeviceMemo}

/-- A device that appears is registered and announced. -/
theorem announces_appear (hpaths : a.paths = .ofNumber a.number) :
    Announces a.appear ∧ a.appear.filterMap registeredDevice? = [a.number] ∧
      a.appear.filterMap unregisteredDevice? = [] := by
  cases hactive : a.active
  all_goals
    simp only [appear, objects, isConnected, hactive, hpaths]
    exact ⟨⟨rfl, rfl, rfl, rfl⟩, rfl, rfl⟩

/-- A device that disappears is unregistered and taken back. -/
theorem announces_disappear (hpaths : a.paths = .ofNumber a.number) :
    Announces a.disappear ∧ a.disappear.filterMap registeredDevice? = [] ∧
      a.disappear.filterMap unregisteredDevice? = [a.number] := by
  cases hactive : a.active
  all_goals
    simp only [disappear, isConnected, hactive, hpaths]
    exact ⟨⟨rfl, rfl, rfl, rfl⟩, rfl, rfl⟩

/-- About a device that stays nothing is announced. -/
theorem isQuiet_stay {old new : DeviceMemo} {condition : DeviceCondition} {step : BusStep}
    (hmedium : old.medium = new.medium) (hpaths : new.paths = .ofNumber new.number)
    (h : step ∈ old.stay new condition) : step.IsQuiet := by
  have hconnection : ∀ o ∈ new.connectionObjects,
      (BusStep.register o).IsQuiet ∧ (BusStep.unregister o).IsQuiet := by
    intro o ho
    simp only [connectionObjects, List.mem_cons, List.not_mem_nil, or_false] at ho
    rcases ho with rfl | rfl | rfl
    all_goals exact ⟨⟨rfl, rfl, rfl, rfl, rfl, rfl⟩, rfl, rfl, rfl, rfl, rfl, rfl⟩
  rw [stay_eq _ hmedium hpaths, List.mem_append, List.mem_append] at h
  rcases h with h | h | h
  · obtain ⟨_, h⟩ := List.mem_ite_nil_right.1 h
    obtain ⟨o, ho, rfl⟩ := List.mem_map.1 h
    exact (hconnection o ho).1
  · rcases mem_staySignals hpaths h with
      ⟨_, _, _, rfl⟩ | ⟨_, _, _, rfl⟩ | ⟨_, _, _, _, _, _, hstep⟩
    · exact ⟨rfl, rfl, rfl, rfl, rfl, rfl⟩
    · exact ⟨rfl, rfl, rfl, rfl, rfl, rfl⟩
    · obtain ⟨_, rfl⟩ := mem_propertySignal.1 hstep
      exact ⟨rfl, rfl, rfl, rfl, rfl, rfl⟩
  · obtain ⟨_, h⟩ := List.mem_ite_nil_right.1 h
    obtain ⟨o, ho, rfl⟩ := List.mem_map.1 h
    exact (hconnection o ho).2

end DeviceMemo

/-- The signals about the overview announce no device. -/
theorem OverviewMemo.isQuiet_change {old new : OverviewMemo} {step : BusStep}
    (h : step ∈ old.change new) : step.IsQuiet := by
  rcases mem_change.1 h with h | ⟨_, rfl⟩ | h
  · obtain ⟨_, rfl⟩ := DeviceMemo.mem_propertySignal.1 h
    exact ⟨rfl, rfl, rfl, rfl, rfl, rfl⟩
  · exact ⟨rfl, rfl, rfl, rfl, rfl, rfl⟩
  · obtain ⟨_, rfl⟩ := DeviceMemo.mem_propertySignal.1 h
    exact ⟨rfl, rfl, rfl, rfl, rfl, rfl⟩

namespace Network

variable {old new : Network} {i : UInt32}

/-- The block of an interface announces what it registers. It registers at most the device that is
new, and it unregisters at most the one that is old. -/
theorem announces_block (old new : Network) (i : UInt32) :
    Announces (old.block new i) ∧
      (old.block new i).filterMap registeredDevice? ∈ [[], (new.numbering.number? i).toList] ∧
      (old.block new i).filterMap unregisteredDevice? ∈ [[], (old.numbering.number? i).toList] := by
  unfold block
  cases hold : old.device? i with
  | none =>
    cases hnew : new.device? i with
    | none => exact ⟨⟨rfl, rfl, rfl, rfl⟩, List.mem_cons_self, List.mem_cons_self⟩
    | some e =>
      obtain ⟨happear, hregistered, hunregistered⟩ :=
        DeviceMemo.announces_appear (a := .ofDevice e) (wellFormed_of_device? hnew).paths_eq
      rw [number?_of_device? hnew]
      exact ⟨happear, List.mem_cons_of_mem _ (List.mem_singleton.2 hregistered),
        List.mem_cons.2 (Or.inl hunregistered)⟩
  | some d =>
    obtain ⟨hdisappear, hregistered, hunregistered⟩ :=
      DeviceMemo.announces_disappear (a := .ofDevice d) (wellFormed_of_device? hold).paths_eq
    rw [number?_of_device? hold]
    cases hnew : new.device? i with
    | none =>
      exact ⟨hdisappear, List.mem_cons.2 (Or.inl hregistered),
        List.mem_cons_of_mem _ (List.mem_singleton.2 hunregistered)⟩
    | some e =>
      have hpaths := (wellFormed_of_device? hnew).paths_eq
      rw [number?_of_device? hnew, Option.map_some, BusMemo.deviceSteps]
      split
      · next hstays =>
        have hquiet : ∀ step ∈ (DeviceMemo.ofDevice d).stay (.ofDevice e) e.condition,
            step.IsQuiet := fun step => DeviceMemo.isQuiet_stay hstays.2 hpaths
        obtain ⟨hnone, hnone', _⟩ := filterMap_of_isQuiet hquiet
        exact ⟨.of_isQuiet hquiet, List.mem_cons.2 (Or.inl hnone), List.mem_cons.2 (Or.inl hnone')⟩
      · obtain ⟨happear, hregistered', hunregistered'⟩ :=
          DeviceMemo.announces_appear (a := .ofDevice e) hpaths
        refine ⟨hdisappear.append happear, ?_, ?_⟩
        · rw [List.filterMap_append, hregistered, hregistered']
          exact List.mem_cons_of_mem _ List.mem_cons_self
        · rw [List.filterMap_append, hunregistered, hunregistered']
          exact List.mem_cons_of_mem _ List.mem_cons_self

end Network

end LinkBus
