import LinkBus.Proofs.Network.Defaults
import Mathlib.Order.Lattice

/-!
# Connectivity of devices and of the network

How far one gets through the network is told twice: of the network as a whole it follows from the
states of the devices and the routes that there are, of a device in one family from its addresses
and the gateway of its preferred route. The network gets as far as the best of its devices, except
where the default routes of the activated devices have no gateway: these count for the network as a
whole but not for the devices.
-/

namespace LinkBus

namespace Connectivity

/-- A connectivity is better if more can be reached. -/
instance : LinearOrder Connectivity :=
  LinearOrder.lift' (fun c => c.code.toNat) fun a b h => by
    revert h
    cases a <;> cases b <;> decide

/-- Whatever is not less than limited and not full is limited. -/
theorem eq_limited {c : Connectivity} (hlow : limited ≤ c) (hhigh : ¬ full ≤ c) : c = limited := by
  revert hlow hhigh
  cases c <;> decide

/-- Whatever is not limited or more is none. -/
theorem eq_none {c : Connectivity} (h : ¬ limited ≤ c) : c = none := by
  revert h
  cases c <;> decide

/-- Nothing is better than full. -/
theorem eq_full {c : Connectivity} (h : full ≤ c) : c = full := by
  revert h
  cases c <;> decide

/-- The best of several is at least as good as something if one of them is. -/
theorem le_foldr_max_iff {c : Connectivity} (hc : ¬ c ≤ none) {l : List Connectivity} :
    c ≤ l.foldr max none ↔ ∃ a ∈ l, c ≤ a := by
  induction l with
  | nil => simpa using hc
  | cons a rest ih => rw [List.foldr_cons, le_max_iff, ih, List.exists_mem_cons_iff]

end Connectivity

/-- How far one gets with a device in a family. -/
def Device.connectivityIn (d : Device) : Family → Connectivity
  | .v4 => d.ip4Connectivity
  | .v6 => d.ip6Connectivity

namespace Network

/-- How far one gets with the best device in its best family; nowhere without a device. -/
def bestConnectivity (s : Network) : Connectivity :=
  (s.devices.map fun d => max d.ip4Connectivity d.ip6Connectivity).foldr max .none

/-- Some route goes out of an activated device, but no preferred route of an activated device has a
gateway. -/
structure LacksGateways (s : Network) : Prop where
  /-- Some route goes out of an activated device. -/
  leadsOut : ∃ family d r, s.LeadsOut family d r
  /-- No preferred route of an activated device has a gateway. -/
  gateway_eq_none : ∀ d ∈ s.devices, d.state = .activated → ∀ family r,
    s.inventory.routeVia? d.index family = some r → r.gateway = none

variable {s : Network} {d : Device}

/-- The network gets as far as something if some device does in some family. -/
theorem le_bestConnectivity_iff {c : Connectivity} (hc : ¬ c ≤ .none) :
    c ≤ s.bestConnectivity ↔ ∃ d ∈ s.devices, ∃ family, c ≤ d.connectivityIn family := by
  rw [bestConnectivity, Connectivity.le_foldr_max_iff hc]
  simp only [List.mem_map, exists_exists_and_eq_and]
  refine exists_congr fun d => and_congr_right fun _ => ?_
  rw [le_max_iff]
  constructor
  · rintro (h | h)
    · exact ⟨.v4, h⟩
    · exact ⟨.v6, h⟩
  · rintro ⟨family, h⟩
    cases family with
    | v4 => exact Or.inl h
    | v6 => exact Or.inr h

/-! ## Devices -/

/-- One gets nowhere with a device that is not activated. -/
theorem connectivityIn_of_not_activated (h : d.state ≠ .activated) (family : Family) :
    d.connectivityIn family = .none := by
  cases family <;>
    simp only [Device.connectivityIn, Device.ip4Connectivity, Device.ip6Connectivity] <;>
    unfold Device.connectivity <;> split <;> simp [h]

/-- One gets as far with an activated device as its configuration allows. -/
theorem connectivityIn_of_activated (hd : d ∈ s.devices) (h : d.state = .activated)
    (family : Family) :
    d.connectivityIn family =
      if (s.ipConfig d.index family).gateway.isSome then .full
      else if (s.ipConfig d.index family).addresses.isEmpty then .none
      else .limited := by
  obtain ⟨hip4, hip6⟩ := configs_of_isConnected hd (by rw [h]; rfl)
  cases family with
  | v4 =>
    rw [Device.connectivityIn, Device.ip4Connectivity, hip4, Device.connectivity,
      if_neg (not_not.2 h)]
  | v6 =>
    rw [Device.connectivityIn, Device.ip6Connectivity, hip6, Device.connectivity,
      if_neg (not_not.2 h)]

/-- An activated device has an address that can be used. -/
theorem exists_usable_of_activated (hd : d ∈ s.devices) (h : d.state = .activated) :
    ∃ a ∈ s.inventory.addressesOf d.index, a.isUsable = true := by
  obtain ⟨_, link, number, _, _, hof⟩ := device_eq_ok_iff.1 (mem_devices.1 hd)
  rw [← hof] at h
  simp only [deviceOf, DeviceCondition.state] at h
  split at h
  · cases h
  · split at h
    · next husable => exact List.countP_pos_iff.1 husable
    · split at h <;> cases h

/-- A configuration lists the addresses of its family that are not unusable. -/
theorem mem_addresses_ipConfig {i : UInt32} {family : Family} {x : Ip × UInt8} :
    x ∈ (s.ipConfig i family).addresses ↔
      ∃ a ∈ s.inventory.addressesOf i, a.family = family ∧ a.isUnusable = false ∧
        x = (a.address, a.prefixLen) := by
  simp only [ipConfig, List.mem_map, List.mem_filter, Bool.and_eq_true, beq_iff_eq,
    Bool.not_eq_true']
  constructor
  · rintro ⟨a, ⟨ha, hfamily, husable⟩, rfl⟩
    exact ⟨a, ha, hfamily, husable, rfl⟩
  · rintro ⟨a, ha, hfamily, husable, rfl⟩
    exact ⟨a, ⟨ha, hfamily, husable⟩, rfl⟩

/-- An address that can be used is listed in the configuration of its family. -/
theorem isEmpty_addresses_ipConfig {i : UInt32} {a : Address}
    (ha : a ∈ s.inventory.addressesOf i) (husable : a.isUsable = true) :
    (s.ipConfig i a.family).addresses.isEmpty = false := by
  rw [Address.isUsable, Bool.and_eq_true, Bool.not_eq_true', Bool.not_eq_true'] at husable
  rw [List.isEmpty_eq_false_iff]
  exact List.ne_nil_of_mem (mem_addresses_ipConfig.2 ⟨a, ha, rfl, husable.2, rfl⟩)

/-- Something can be reached with a device if and only if it is activated. -/
theorem exists_limited_le_iff (hd : d ∈ s.devices) :
    (∃ family, .limited ≤ d.connectivityIn family) ↔ d.state = .activated := by
  constructor
  · rintro ⟨family, hle⟩
    by_contra hstate
    rw [connectivityIn_of_not_activated hstate] at hle
    exact absurd hle (by decide)
  · intro hstate
    obtain ⟨a, ha, husable⟩ := exists_usable_of_activated hd hstate
    refine ⟨a.family, ?_⟩
    rw [connectivityIn_of_activated hd hstate, isEmpty_addresses_ipConfig ha husable]
    split <;> decide

/-- Everything can be reached with a device if and only if it is activated and a preferred route
has a gateway. -/
theorem exists_full_le_iff (hd : d ∈ s.devices) :
    (∃ family, .full ≤ d.connectivityIn family) ↔ d.state = .activated ∧
      ∃ family r, s.inventory.routeVia? d.index family = some r ∧ r.gateway ≠ none := by
  have hgateway : ∀ family, (s.ipConfig d.index family).gateway.isSome = true ↔
      ∃ r, s.inventory.routeVia? d.index family = some r ∧ r.gateway ≠ none := by
    intro family
    simp only [ipConfig, Option.isSome_bind, Option.any_eq_true, Option.isSome_iff_ne_none]
  constructor
  · rintro ⟨family, hle⟩
    have hstate : d.state = .activated :=
      (exists_limited_le_iff hd).1 ⟨family, le_trans (by decide) hle⟩
    refine ⟨hstate, family, (hgateway family).1 ?_⟩
    rw [connectivityIn_of_activated hd hstate] at hle
    by_contra hnone
    rw [if_neg hnone] at hle
    split at hle
    · exact absurd hle (by decide)
    · exact absurd hle (by decide)
  · rintro ⟨hstate, family, hr⟩
    refine ⟨family, ?_⟩
    rw [connectivityIn_of_activated hd hstate, if_pos ((hgateway family).2 hr)]

/-! ## The network as a whole -/

/-- Something can be reached if and only if some device is activated. -/
theorem limited_le_bestConnectivity_iff :
    .limited ≤ s.bestConnectivity ↔ ∃ d ∈ s.devices, d.state = .activated := by
  rw [le_bestConnectivity_iff (by decide)]
  exact exists_congr fun d => and_congr_right fun hd => exists_limited_le_iff hd

/-- Everything can be reached if and only if a preferred route of an activated device has a
gateway. -/
theorem full_le_bestConnectivity_iff :
    .full ≤ s.bestConnectivity ↔ ∃ d ∈ s.devices, d.state = .activated ∧
      ∃ family r, s.inventory.routeVia? d.index family = some r ∧ r.gateway ≠ none := by
  rw [le_bestConnectivity_iff (by decide)]
  exact exists_congr fun d => and_congr_right fun hd => exists_full_le_iff hd

/-- Gateways are lacking if and only if a route goes out of an activated device, but not everything
can be reached. -/
theorem lacksGateways_iff :
    s.LacksGateways ↔ (∃ family d r, s.LeadsOut family d r) ∧ ¬ .full ≤ s.bestConnectivity := by
  rw [full_le_bestConnectivity_iff]
  constructor
  · rintro ⟨hout, hnone⟩
    refine ⟨hout, ?_⟩
    rintro ⟨d, hd, hstate, family, r, hr, hgateway⟩
    exact hgateway (hnone d hd hstate family r hr)
  · rintro ⟨hout, hnone⟩
    refine ⟨hout, fun d hd hstate family r hr => ?_⟩
    by_contra hgateway
    exact hnone ⟨d, hd, hstate, family, r, hr, hgateway⟩

/-- The network as a whole gets everywhere if some device does, and somewhere if one is activated.
-/
theorem connectivity_overview (s : Network) :
    s.overview.connectivity =
      if s.devices.any s.isGlobal then .full
      else if s.devices.any fun d => d.state == .activated then .limited
      else .none := by
  change (s.managerState s.devices).connectivity = _
  rw [managerState]
  split
  · rfl
  · split
    · rfl
    · split <;> rfl

namespace Consistent

variable {filter : LinkFilter}

/-- Some device leads everywhere if and only if a route goes out of an activated device. -/
theorem any_isGlobal_iff_leadsOut (h : s.Consistent filter) :
    s.devices.any s.isGlobal = true ↔ ∃ family d r, s.LeadsOut family d r := by
  rw [h.any_isGlobal_iff, h.isSome_primaryDevice?_iff]

/-- Where everything can be reached, a route goes out of an activated device. -/
theorem exists_leadsOut_of_full_le (h : s.Consistent filter) (hfull : .full ≤ s.bestConnectivity) :
    ∃ family d r, s.LeadsOut family d r := by
  obtain ⟨d, hd, hstate, family, r, hr, _⟩ := full_le_bestConnectivity_iff.1 hfull
  have hsome : (s.inventory.routeVia? d.index family).isSome = true := by rw [hr]; rfl
  obtain ⟨r', hknown, hfamily, hoif⟩ := h.wellFormed.isSome_routeVia?_iff.1 hsome
  exact ⟨family, d, r', hd, hstate, hknown, hfamily, hoif⟩

/-- Where no route goes out of an activated device, the network gets as far as its best device. -/
theorem connectivity_eq_of_not_leadsOut (h : s.Consistent filter)
    (hnone : ¬ ∃ family d r, s.LeadsOut family d r) :
    s.overview.connectivity = s.bestConnectivity := by
  have hnotFull : ¬ .full ≤ s.bestConnectivity := fun hfull =>
    hnone (h.exists_leadsOut_of_full_le hfull)
  rw [connectivity_overview, if_neg (mt h.any_isGlobal_iff_leadsOut.1 hnone)]
  simp only [List.any_eq_true, beq_iff_eq, ← limited_le_bestConnectivity_iff]
  split
  · next hlimited => exact (Connectivity.eq_limited hlimited hnotFull).symm
  · next hlimited => exact (Connectivity.eq_none hlimited).symm

/-- Where a route goes out of an activated device, the network gets everywhere, and its best device
gets everywhere or only to its neighbours. -/
theorem connectivity_eq_full_of_leadsOut (h : s.Consistent filter)
    (hout : ∃ family d r, s.LeadsOut family d r) :
    s.overview.connectivity = .full ∧ .limited ≤ s.bestConnectivity := by
  constructor
  · rw [connectivity_overview, if_pos (h.any_isGlobal_iff_leadsOut.2 hout)]
  · obtain ⟨_, d, _, hr⟩ := hout
    exact limited_le_bestConnectivity_iff.2 ⟨d, hr.listed, hr.activated⟩

end Consistent

/-- After any run of updates from a network that knows nothing, the network as a whole gets as far
as the best of its devices in the best of their families, unless a route goes out of an activated
device but no preferred route of such a device has a gateway: then the network counts as getting
everywhere, and its best device as getting to its neighbours only. -/
theorem connectivity_of_best_device (filter : LinkFilter) (updates : List Update) :
    let s := (empty filter).updateAll updates
    (¬ s.LacksGateways → s.overview.connectivity = s.bestConnectivity) ∧
    (s.LacksGateways → s.overview.connectivity = .full ∧ s.bestConnectivity = .limited) := by
  intro s
  have h : s.Consistent filter := (consistent_empty filter).updateAll updates
  rw [lacksGateways_iff]
  by_cases hout : ∃ family d r, s.LeadsOut family d r
  · obtain ⟨hwhole, hlimited⟩ := h.connectivity_eq_full_of_leadsOut hout
    refine ⟨fun hlacks => ?_, fun hlacks => ⟨hwhole, Connectivity.eq_limited hlimited hlacks.2⟩⟩
    rw [hwhole, Connectivity.eq_full (not_not.1 fun hfull => hlacks ⟨hout, hfull⟩)]
  · exact ⟨fun _ => h.connectivity_eq_of_not_leadsOut hout, fun hlacks => absurd hlacks.1 hout⟩

/-- A wired link with an address and a default route that has no gateway. -/
def onLinkRoute : List Event :=
  [.newLink { index := 2, name := some "eth0", layerType := 1, flags := 65539, oper := some .up },
    .newAddress { index := 2, address := .v4 0xc0000205, prefixLen := 24 },
    .newRoute { family := .v4, oif := some 2, metric := 100 }]

/-- With a default route that has no gateway, the network as a whole gets further than its only
device. -/
theorem whole_exceeds_best_device :
    let s := (empty {}).updateAll [.hear onLinkRoute 0 500]
    s.overview.connectivity = .full ∧ s.bestConnectivity = .limited ∧
      s.overview.connectivity ≠ s.bestConnectivity := by
  decide +kernel

end Network

end LinkBus
