import LinkBus.Plan
import LinkBus.Proofs.Network.Shown

/-!
# The shape of a device

Whatever device a network shows, its paths end in its number, and it has both configurations and a
connection in use exactly if its state is a connected one.
-/

namespace LinkBus

/-- The parts of a device fit together. -/
structure Device.WellFormed (d : Device) : Prop where
  /-- All paths end in the number. -/
  paths_eq : d.paths = .ofNumber d.paths.number
  /-- There is an IPv4 configuration in a connected state only. -/
  isSome_ip4 : d.ip4.isSome = d.state.isConnected
  /-- There is an IPv6 configuration in a connected state only. -/
  isSome_ip6 : d.ip6.isSome = d.state.isConnected
  /-- A connection is in use in a connected state only. -/
  isSome_active : d.active.isSome = d.state.isConnected

namespace Network

/-- The device of an interface, if there is one. -/
def device? (s : Network) (index : UInt32) : Option Device := (s.device index).toOption

/-- Asking for a device if there is one finds it. -/
theorem device?_eq_some_iff {s : Network} {i : UInt32} {d : Device} :
    s.device? i = some d ↔ s.device i = .ok d := by
  unfold device?
  cases s.device i <;> simp [Except.toOption]

/-- The listed devices are those of their interfaces. -/
theorem mem_devices_iff_device? {s : Network} {d : Device} :
    d ∈ s.devices ↔ s.device? d.index = some d := by
  rw [mem_devices, device?_eq_some_iff]

/-- A device is listed if it is that of any interface. -/
theorem mem_devices_of_device? {s : Network} {i : UInt32} {d : Device} (h : s.device? i = some d) :
    d ∈ s.devices := by
  rw [device?_eq_some_iff] at h
  rw [mem_devices, index_of_device h, h]

/-- The number of a device is the one that its interface has in use. -/
theorem number?_of_device? {s : Network} {i : UInt32} {d : Device} (h : s.device? i = some d) :
    s.numbering.number? i = some d.paths.number := by
  obtain ⟨number, hnumber, hpaths⟩ := paths_of_device (device?_eq_some_iff.1 h)
  rw [hpaths]
  exact hnumber

/-- Every device that a network shows is well formed. -/
theorem wellFormed_of_device? {s : Network} {i : UInt32} {d : Device} (h : s.device? i = some d) :
    d.WellFormed := by
  obtain ⟨_, link, number, _, _, rfl⟩ := device_eq_ok_iff.1 (device?_eq_some_iff.1 h)
  refine ⟨rfl, ?_, ?_, ?_⟩
  all_goals
    simp only [deviceOf]
    split <;> simp [*]

/-- A connected device shows the configuration of its interface in each family. -/
theorem configs_of_isConnected {s : Network} {d : Device} (hd : d ∈ s.devices)
    (h : d.state.isConnected = true) :
    d.ip4 = some (s.ipConfig d.index .v4) ∧ d.ip6 = some (s.ipConfig d.index .v6) := by
  obtain ⟨_, link, number, _, _, hof⟩ := device_eq_ok_iff.1 (mem_devices.1 hd)
  rw [← hof] at h ⊢
  exact ⟨if_pos h, if_pos h⟩

end Network

namespace DeviceMemo

variable {d : Device}

/-- What is remembered of a device is its number. -/
@[simp] theorem number_ofDevice (d : Device) : (ofDevice d).number = d.paths.number := rfl

/-- What is remembered of a device is its medium. -/
@[simp] theorem medium_ofDevice (d : Device) : (ofDevice d).medium = d.medium := rfl

/-- A device has the objects of a connection exactly in a connected state. -/
theorem isConnected_ofDevice (h : d.WellFormed) :
    (ofDevice d).isConnected = d.state.isConnected := by
  rw [← h.isSome_active]
  exact Option.isSome_map

end DeviceMemo

end LinkBus
