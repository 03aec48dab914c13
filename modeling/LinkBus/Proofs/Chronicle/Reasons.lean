import LinkBus.Proofs.Chronicle.Basic
import LinkBus.Proofs.Device.Condition
import LinkBus.Proofs.Plan.Blocks

/-!
# The reasons of state changes

A plan gives a reason with every change of the state of a device. The reason is computed from the
new condition of the device alone, but it speaks of a change: the link was switched off, the carrier
was lost, the addresses were lost. That the old state was another one makes it true, except for a
device that was unavailable: it may become disconnected without ever having had an address, and the
reason that is given is still that its addresses were lost.
-/

namespace LinkBus

/-- What a reason says of a device that passes from one condition to another. -/
def StateReason.IsTrue (before after : DeviceCondition) : StateReason → Prop
  | none => True
  | userRequested => before.switchedOn = true ∧ after.switchedOn = false
  | carrier => before.carrier = true ∧ after.carrier = false
  | ipConfigExpired => before.HasAddress ∧ ¬ after.HasAddress

namespace DeviceCondition

variable {before after : DeviceCondition}

/-- A device that has become unavailable was switched off or has lost its carrier, and the reason
tells which. -/
theorem isTrue_reason_of_unavailable (hbefore : before.state ≠ .unavailable)
    (hafter : after.state = .unavailable) : (after.reason .unavailable).IsTrue before after := by
  have hlost := state_eq_unavailable_iff.1 hafter
  have hhad : before.switchedOn = true ∧ before.carrier = true := by
    rw [ne_eq, state_eq_unavailable_iff, not_or] at hbefore
    exact ⟨Bool.not_eq_false _ ▸ hbefore.1, Bool.not_eq_false _ ▸ hbefore.2⟩
  rw [reason]
  cases hon : after.switchedOn with
  | false => exact ⟨hhad.1, hon⟩
  | true =>
    have hcarrier : after.carrier = false :=
      hlost.resolve_left (by rw [hon]; exact Bool.noConfusion)
    exact ⟨hhad.2, hcarrier⟩

/-- The reason for a change of state is true unless a device without an address was unavailable and
is disconnected now. -/
theorem isTrue_reason_iff (hmoves : before.state ≠ after.state) :
    (after.reason after.state).IsTrue before after ↔
      ¬ (before.state = .unavailable ∧ after.state = .disconnected ∧ ¬ before.HasAddress) := by
  cases hafter : after.state with
  | unavailable =>
    rw [hafter] at hmoves
    exact iff_of_true (isTrue_reason_of_unavailable hmoves hafter) fun hnever => by cases hnever.2.1
  | disconnected =>
    have hnone : ¬ after.HasAddress := (state_eq_disconnected_iff.1 hafter).2.2
    change before.HasAddress ∧ ¬ after.HasAddress ↔ _
    constructor
    · exact fun htrue hnever => hnever.2.2 htrue.1
    · intro hnot
      refine ⟨?_, hnone⟩
      by_contra hlacks
      have hbefore : before.state ≠ .unavailable := fun hlost => hnot ⟨hlost, rfl, hlacks⟩
      -- without an address it was disconnected before, too
      rw [ne_eq, state_eq_unavailable_iff, not_or, Bool.not_eq_false, Bool.not_eq_false] at hbefore
      exact hmoves (hafter ▸ state_eq_disconnected_iff.2 ⟨hbefore.1, hbefore.2, hlacks⟩)
  | ipConfig => exact iff_of_true trivial fun hnever => by cases hnever.2.1
  | activated => exact iff_of_true trivial fun hnever => by cases hnever.2.1
  | deactivating => exact iff_of_true trivial fun hnever => by cases hnever.2.1

end DeviceCondition

/-! ## Signals -/

namespace DeviceMemo

variable {path : String} {new old : DeviceState} {reason : StateReason}

/-- A device that appears tells no change of its state. -/
theorem stateChanged_not_mem_appear (a : DeviceMemo) :
    .emit (.deviceStateChanged path new old reason) ∉ a.appear := by
  simp [appear]

/-- A device that disappears tells no change of its state. -/
theorem stateChanged_not_mem_disappear (a : DeviceMemo) :
    .emit (.deviceStateChanged path new old reason) ∉ a.disappear := by
  simp [disappear]

/-- A device that stays tells a change of its state at its path only if there is one, with the
reason for its new state. -/
theorem of_stateChanged_mem_stay {a b : DeviceMemo} {condition : DeviceCondition}
    (hmedium : a.medium = b.medium) (hpaths : b.paths = .ofNumber b.number)
    (h : .emit (.deviceStateChanged path new old reason) ∈ a.stay b condition) :
    a.state ≠ b.state ∧ path = b.paths.device ∧ reason = condition.reason b.state := by
  rw [stay_eq condition hmedium hpaths, staySignals] at h
  simp only [List.mem_append] at h
  rcases h with hregister | (hstates | hactive | hface) | hunregister
  · obtain ⟨_, hregister⟩ := List.mem_ite_nil_right.1 hregister
    simp at hregister
  · have hmoves : a.state ≠ b.state := by
      intro hsame
      rw [hsame, DeviceState.passage, if_pos rfl] at hstates
      cases hstates
    obtain ⟨_, _, hsignal⟩ := mem_stateSignals hstates
    cases hsignal
    exact ⟨hmoves, rfl, rfl⟩
  · obtain ⟨_, _, _, hsignal⟩ := mem_activeSignals hactive
    cases hsignal
  · obtain ⟨f, _, hface⟩ := List.mem_flatMap.1 hface
    obtain ⟨_, _, _, _, hstep⟩ := mem_keptPropertySignal hface
    obtain ⟨_, hsignal⟩ := mem_propertySignal.1 hstep
    cases hsignal
  · obtain ⟨_, hunregister⟩ := List.mem_ite_nil_right.1 hunregister
    simp at hunregister

end DeviceMemo

namespace Network

/-- The condition that the records put the device of an interface in. -/
def condition? (s : Network) (index : UInt32) : Option DeviceCondition :=
  (s.inventory.link? index).map fun link =>
    .ofRecords link (s.inventory.addressesOf index)

/-- A device is in the state of the condition that the records put it in. -/
theorem condition?_of_device? {s : Network} {i : UInt32} {d : Device} (h : s.device? i = some d) :
    s.condition? i = some d.condition ∧ d.state = d.condition.state := by
  obtain ⟨_, link, number, hlink, _, rfl⟩ := device_eq_ok_iff.1 (device?_eq_some_iff.1 h)
  exact ⟨by rw [condition?, hlink]; rfl, rfl⟩

/-- A block tells a change of state only of a device that stays, at its path, if its state is
another one than before, and with the reason for the new state. -/
theorem of_stateChanged_mem_block {old new : Network} {i : UInt32} {path : String}
    {entered left : DeviceState} {reason : StateReason}
    (h : .emit (.deviceStateChanged path entered left reason) ∈ old.block new i) :
    ∃ d e, old.device? i = some d ∧ new.device? i = some e ∧ d.paths.device = path ∧
      e.paths.device = path ∧ d.state ≠ e.state ∧ reason = e.condition.reason e.state := by
  obtain ⟨d, e, hd, he, hnumber, hmedium, hstep⟩ := exists_stays_of_mem_block h
    DeviceMemo.stateChanged_not_mem_appear DeviceMemo.stateChanged_not_mem_disappear
  have hdform := wellFormed_of_device? hd
  have heform := wellFormed_of_device? he
  obtain ⟨hmoves, hpath, hreason⟩ :=
    DeviceMemo.of_stateChanged_mem_stay (b := .ofDevice e) hmedium heform.paths_eq hstep
  have hsame : d.paths = e.paths := by rw [hdform.paths_eq, heform.paths_eq, hnumber]
  have hpath : e.paths.device = path := hpath.symm
  exact ⟨d, e, hd, he, by rw [hsame, hpath], hpath, hmoves, hreason⟩

/-- The signals about the overview tell no change of the state of a device. -/
theorem stateChanged_not_mem_overviewBlock {old new : Network} {path : String}
    {entered left : DeviceState} {reason : StateReason} :
    .emit (.deviceStateChanged path entered left reason) ∉ old.overviewBlock new := by
  intro h
  rcases OverviewMemo.mem_change.1 h with h | ⟨_, h⟩ | h
  · obtain ⟨_, h⟩ := DeviceMemo.mem_propertySignal.1 h
    cases h
  · cases h
  · obtain ⟨_, h⟩ := DeviceMemo.mem_propertySignal.1 h
    cases h

end Network

namespace Chronicle

/-- In every chronicle of a network: if the next plan tells a change of the state of a device, then
the device is at the same path in the announced network and now, and the reason is true of what the
records say of it in the two networks, with one exception. A device that was unavailable without an
address and is disconnected now is said to have lost its addresses. -/
theorem reasons_true_unless_never_addressed (filter : LinkFilter) (setup : List Update)
    (actions : List Action) :
    let c := ofRun filter setup actions
    ∀ path new old reason, .emit (.deviceStateChanged path new old reason) ∈ c.nextSteps →
      ∃ i before after,
        (c.announced.condition? i = some before ∧ c.network.condition? i = some after) ∧
        ((c.announced.device? i).map fun d => d.paths.device) = some path ∧
        ((c.network.device? i).map fun e => e.paths.device) = some path ∧
        (reason.IsTrue before after ↔
          ¬ (before.state = .unavailable ∧ after.state = .disconnected ∧ ¬ before.HasAddress)) := by
  intro c path new old reason h
  have hfaithful : c.Faithful filter := .ofRun filter setup actions
  have hchanged : c.pending.isEmpty = false := by
    by_contra hempty
    rw [nextSteps_of_isEmpty (by simpa using hempty)] at h
    cases h
  obtain ⟨indices, _, _, hsteps⟩ := hfaithful.nextSteps_eq hchanged
  rw [hsteps, List.mem_append] at h
  obtain hblocks | hoverview := h
  · obtain ⟨i, _, hblock⟩ := List.mem_flatMap.1 hblocks
    obtain ⟨d, e, hd, he, hpath, hpath', hmoves, rfl⟩ := Network.of_stateChanged_mem_block hblock
    obtain ⟨hbefore, hstate⟩ := Network.condition?_of_device? hd
    obtain ⟨hafter, hstate'⟩ := Network.condition?_of_device? he
    refine ⟨i, d.condition, e.condition, ⟨hbefore, hafter⟩, ?_, ?_, ?_⟩
    · rw [hd, Option.map_some, hpath]
    · rw [he, Option.map_some, hpath']
    · rw [hstate, hstate'] at hmoves
      rw [hstate']
      exact DeviceCondition.isTrue_reason_iff hmoves
  · exact absurd hoverview Network.stateChanged_not_mem_overviewBlock

/-- The news of a wired link with some flags. -/
def flaggedNews (flags : UInt32) : Event :=
  .newLink { index := 2, name := some "eth0", layerType := 1, flags, oper := some .up }

/-- A chronicle in which a device with an address is about to lose its carrier. -/
def unplugged : Chronicle :=
  ofRun {}
    [.hear [flaggedNews 0x10003, .newAddress { index := 2, address := .v4 0xc0000205 }] 0 500]
    [.update (.hear [flaggedNews 0x3] 10 500)]

/-- A device with an address that loses its carrier is said to have lost it, and this is true. -/
theorem reasons_true_unless_never_addressed_unplugged :
    let path := PathKind.device.path 1
    .emit (.deviceStateChanged path .unavailable .deactivating .carrier) ∈ unplugged.nextSteps ∧
      ∃ i before after, unplugged.announced.condition? i = some before ∧
        unplugged.network.condition? i = some after ∧
        before.carrier = true ∧ after.carrier = false := by
  intro path
  have htold : .emit (.deviceStateChanged path .unavailable .deactivating .carrier) ∈
      unplugged.nextSteps := by
    decide +kernel
  obtain ⟨i, before, after, ⟨hbefore, hafter⟩, hpath, _, htrue⟩ :=
    reasons_true_unless_never_addressed {} _ _ path _ _ _ htold
  have hall : ∀ d ∈ unplugged.announced.devices, d.condition.state ≠ .unavailable := by
    decide +kernel
  obtain ⟨d, hd, _⟩ := Option.map_eq_some_iff.1 hpath
  have hsame : before = d.condition :=
    Option.some.inj (hbefore.symm.trans (Network.condition?_of_device? hd).1)
  have hother : before.state ≠ .unavailable := by
    rw [hsame]
    exact hall d (Network.mem_devices_of_device? hd)
  exact ⟨htold, i, before, after, hbefore, hafter, htrue.2 fun hnever => hother hnever.1⟩

/-- A device that never had an address and is switched on is said to have lost its addresses. -/
theorem switched_on_said_to_lose_addresses :
    let c := ofRun {} [.hear [flaggedNews 0] 0 500] [.update (.hear [flaggedNews 0x10003] 10 500)]
    .emit (.deviceStateChanged (PathKind.device.path 1) .disconnected .unavailable
        .ipConfigExpired) ∈ c.nextSteps ∧
      c.announced.condition? 2 = some ⟨false, false, 0, 0⟩ ∧
      c.network.condition? 2 = some ⟨true, true, 0, 0⟩ := by
  decide +kernel

end Chronicle

end LinkBus
