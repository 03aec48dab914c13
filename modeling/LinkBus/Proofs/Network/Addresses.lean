import LinkBus.Proofs.Device.Condition
import LinkBus.Proofs.Network.Connectivity

/-!
# Addresses of connected devices

Two tests are made of the same addresses: whether a device is connected depends on the addresses
that can be used or are tentative, and what it lists depends on the addresses that are not unusable.
The tests agree unless an address is tentative and unusable at once. A device with no other
addresses is connected, but has nothing to list.
-/

namespace LinkBus

/-- The addresses that a device lists in its configurations, with their prefix lengths. -/
def Device.listed (d : Device) : List (Ip × UInt8) :=
  (d.ip4.map IpConfig.addresses).getD [] ++ (d.ip6.map IpConfig.addresses).getD []

namespace DeviceCondition

/-- An address counts as usable or as tentative if it is not unusable or is tentative. -/
theorem counts_iff (a : Address) :
    a.isUsable = true ∨ (!a.isUsable && a.isTentative) = true ↔
      a.isUnusable = false ∨ a.isTentative = true := by
  unfold Address.isUsable
  cases a.isTentative <;> cases a.isUnusable <;> decide

/-- The condition of a link and its addresses makes a device connected if the link is switched on
and carries and an address is tentative or not unusable. -/
theorem isConnected_ofRecords (link : Link) (addresses : List Address) :
    (ofRecords link addresses).state.isConnected = true ↔
      link.switchedOn = true ∧ link.carries = true ∧
        ∃ a ∈ addresses, a.isUnusable = false ∨ a.isTentative = true := by
  have hcounts : (ofRecords link addresses).HasAddress ↔
      ∃ a ∈ addresses, a.isUnusable = false ∨ a.isTentative = true := by
    simp only [HasAddress, ofRecords, List.countP_pos_iff, ← counts_iff]
    constructor
    · rintro (⟨a, ha, husable⟩ | ⟨a, ha, htentative⟩)
      · exact ⟨a, ha, Or.inl husable⟩
      · exact ⟨a, ha, Or.inr htentative⟩
    · rintro ⟨a, ha, husable | htentative⟩
      · exact Or.inl ⟨a, ha, husable⟩
      · exact Or.inr ⟨a, ha, htentative⟩
  rw [isConnected_state_iff, hcounts]
  rfl

end DeviceCondition

namespace Network

variable {s : Network} {d : Device}

/-- A device without a connection lists nothing. -/
theorem listed_eq_nil (hd : d ∈ s.devices) (h : d.state.isConnected = false) : d.listed = [] := by
  have hform := wellFormed_of_device? (mem_devices_iff_device?.1 hd)
  have hip4 : d.ip4 = none := by
    rw [← Option.not_isSome_iff_eq_none, hform.isSome_ip4, h]
    exact Bool.false_ne_true
  have hip6 : d.ip6 = none := by
    rw [← Option.not_isSome_iff_eq_none, hform.isSome_ip6, h]
    exact Bool.false_ne_true
  rw [Device.listed, hip4, hip6]
  rfl

/-- A connected device lists the addresses of its link that are not unusable. -/
theorem mem_listed_iff (hd : d ∈ s.devices) (h : d.state.isConnected = true) {x : Ip × UInt8} :
    x ∈ d.listed ↔ ∃ a ∈ s.inventory.addressesOf d.index, a.isUnusable = false ∧
      x = (a.address, a.prefixLen) := by
  obtain ⟨hip4, hip6⟩ := configs_of_isConnected hd h
  rw [Device.listed, hip4, hip6, List.mem_append]
  simp only [Option.map_some, Option.getD_some, mem_addresses_ipConfig]
  constructor
  · rintro (⟨a, ha, _, hx⟩ | ⟨a, ha, _, hx⟩)
    · exact ⟨a, ha, hx⟩
    · exact ⟨a, ha, hx⟩
  · rintro ⟨a, ha, hx⟩
    cases hfamily : a.family with
    | v4 => exact Or.inl ⟨a, ha, hfamily, hx⟩
    | v6 => exact Or.inr ⟨a, ha, hfamily, hx⟩

/-- A connected device lists something if some address of its link is not unusable. -/
theorem listed_ne_nil_iff (hd : d ∈ s.devices) (h : d.state.isConnected = true) :
    d.listed ≠ [] ↔ ∃ a ∈ s.inventory.addressesOf d.index, a.isUnusable = false := by
  constructor
  · intro hne
    obtain ⟨x, hx⟩ := List.exists_mem_of_ne_nil _ hne
    obtain ⟨a, ha, husable, _⟩ := (mem_listed_iff hd h).1 hx
    exact ⟨a, ha, husable⟩
  · rintro ⟨a, ha, husable⟩
    exact List.ne_nil_of_mem ((mem_listed_iff hd h).2 ⟨a, ha, husable, rfl⟩)

/-- In any network, a device is connected if and only if its link is switched on and carries and has
an address that is tentative or not unusable, and it lists something if and only if it is connected
and has an address that is not unusable. So if no address of the device is both tentative and
unusable, it is connected exactly if its link is switched on and carries and has an address that is
not unusable, and then it lists one. -/
theorem connected_iff_address_counts (s : Network) (d : Device) (hd : d ∈ s.devices) :
    ∃ link, s.inventory.link? d.index = some link ∧
      (d.state.isConnected = true ↔ link.switchedOn = true ∧ link.carries = true ∧
        ∃ a ∈ s.inventory.addressesOf d.index, a.isUnusable = false ∨ a.isTentative = true) ∧
      (d.listed ≠ [] ↔ d.state.isConnected = true ∧
        ∃ a ∈ s.inventory.addressesOf d.index, a.isUnusable = false) ∧
      ((∀ a ∈ s.inventory.addressesOf d.index, a.isTentative = true → a.isUnusable = false) →
        (d.state.isConnected = true ↔ link.switchedOn = true ∧ link.carries = true ∧
          ∃ a ∈ s.inventory.addressesOf d.index, a.isUnusable = false) ∧
        (d.state.isConnected = true → d.listed ≠ [])) := by
  obtain ⟨_, link, number, hlink, _, hof⟩ := device_eq_ok_iff.1 (mem_devices.1 hd)
  have hconnected : d.state.isConnected = true ↔ link.switchedOn = true ∧ link.carries = true ∧
      ∃ a ∈ s.inventory.addressesOf d.index, a.isUnusable = false ∨ a.isTentative = true := by
    have hstate : d.state =
        (DeviceCondition.ofRecords link (s.inventory.addressesOf d.index)).state := by
      conv_lhs => rw [← hof]
      rfl
    rw [hstate, DeviceCondition.isConnected_ofRecords]
  refine ⟨link, hlink, hconnected, ?_, fun hagree => ?_⟩
  · constructor
    · intro hne
      have h : d.state.isConnected = true := by
        by_contra hnot
        exact hne (listed_eq_nil hd (Bool.eq_false_iff.2 hnot))
      exact ⟨h, (listed_ne_nil_iff hd h).1 hne⟩
    · rintro ⟨h, husable⟩
      exact (listed_ne_nil_iff hd h).2 husable
  · have hcounts : (∃ a ∈ s.inventory.addressesOf d.index,
        a.isUnusable = false ∨ a.isTentative = true) ↔
          ∃ a ∈ s.inventory.addressesOf d.index, a.isUnusable = false := by
      refine exists_congr fun a => and_congr_right fun ha => ?_
      exact ⟨fun hcounts => hcounts.elim id (hagree a ha), Or.inl⟩
    rw [hcounts] at hconnected
    exact ⟨hconnected, fun h => (listed_ne_nil_iff hd h).2 (hconnected.1 h).2.2⟩

/-- A wired link with a carrier and an IPv6 address that has some flags. -/
def addressed (flags : UInt32) : Network :=
  (empty {}).updateAll [.hear
    [.newLink { index := 2, name := some "eth0", layerType := 1, flags := 65539, oper := some .up },
      .newAddress { index := 2, address := .v6 0xfe800000000000000000000000000001,
                    prefixLen := 64, scope := 253, flags }] 0 500]

/-- An address that is being checked makes a device connected, and the device lists it. -/
theorem connected_iff_address_counts_tentative :
    let s := addressed flagTentative
    ∃ d ∈ s.devices,
      (∀ a ∈ s.inventory.addressesOf d.index, a.isTentative = true ∧ a.isUnusable = false) ∧
        d.condition.switchedOn = true ∧ d.condition.carrier = true ∧
          d.state.isConnected = true ∧ d.listed ≠ [] := by
  intro s
  have hsome : s.devices ≠ [] := by decide +kernel
  obtain ⟨d, hd⟩ := List.exists_mem_of_ne_nil _ hsome
  have hfacts : ∀ d ∈ s.devices,
      (∀ a ∈ s.inventory.addressesOf d.index, a.isTentative = true ∧ a.isUnusable = false) ∧
        d.condition.switchedOn = true ∧ d.condition.carrier = true ∧
          d.state.isConnected = true := by
    decide +kernel
  obtain ⟨haddresses, hon, hcarrier, hconnected⟩ := hfacts d hd
  obtain ⟨_, _, _, _, hagree⟩ := connected_iff_address_counts s d hd
  have hlisted := (hagree fun a ha _ => (haddresses a ha).2).2 hconnected
  exact ⟨d, hd, haddresses, hon, hcarrier, hconnected, hlisted⟩

/-- A device whose only address was found to be a duplicate, and still counts as tentative, is
connected, but has nothing to list. -/
theorem duplicate_connects_but_is_not_listed :
    let s := addressed (flagTentative ||| flagDadFailed)
    ∃ d ∈ s.devices, d.state = .ipConfig ∧ d.active.isSome = true ∧ d.listed = [] ∧
      ¬ ∃ a ∈ s.inventory.addressesOf d.index, a.isUnusable = false := by
  decide +kernel

end Network

end LinkBus
