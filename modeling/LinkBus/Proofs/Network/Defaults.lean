import LinkBus.Proofs.Device.Paths
import LinkBus.Proofs.Device.Shape
import LinkBus.Proofs.Inventory.Preference
import Mathlib.Data.Finset.Card
import Mathlib.Data.List.Find

/-!
# Default routes and the overview

The network shows in several places which device leads to the rest of the world: in the marks of the
connections in use, in the primary connection and in the state of the network as a whole. Each is
computed on its own, from all routes, from the routes of one device, or from the list of devices.
They agree in every network that a run of updates leads to: all of them follow from the best route
of each family through an activated device.
-/

namespace LinkBus

/-- Whether the connection of a device is marked as the one of the best default route. -/
def Device.isDefaultFor (d : Device) : Family → Bool
  | .v4 => d.active.any ActiveConnection.default4
  | .v6 => d.active.any ActiveConnection.default6

namespace Network

/-- A known route of a family goes out of an activated device. -/
structure LeadsOut (s : Network) (family : Family) (d : Device) (r : Route) : Prop where
  /-- The device is shown. -/
  listed : d ∈ s.devices
  /-- The device is activated. -/
  activated : d.state = .activated
  /-- The route is known. -/
  known : r ∈ s.inventory.routes.values
  /-- The route is one of the family. -/
  family_eq : r.family = family
  /-- The route goes out of the device. -/
  oif_eq : r.oif = some d.index

/-- The best route of a family through an activated device goes out of a device: no other one has a
smaller metric, and none of the same metric goes out of a device of smaller index. -/
def LeadsOutBest (s : Network) (family : Family) (d : Device) : Prop :=
  ∃ r, s.LeadsOut family d r ∧ ∀ d' r', s.LeadsOut family d' r' →
    r.metric < r'.metric ∨ r.metric = r'.metric ∧ d.index ≤ d'.index

/-- The device that is marked as the one of the best default route of a family. -/
def defaultDevice? (s : Network) (family : Family) : Option Device :=
  s.devices.find? fun d => d.isDefaultFor family

/-- The device that is marked for IPv4, or else the one that is marked for IPv6. -/
def primaryDevice? (s : Network) : Option Device :=
  (s.defaultDevice? .v4).or (s.defaultDevice? .v6)

/-! ## Activated devices and the routes through them -/

/-- An interface counts as activated if it has an activated device. -/
theorem isActivated_iff {s : Network} {i : UInt32} :
    s.isActivated i = true ↔ ∃ d ∈ s.devices, d.index = i ∧ d.state = .activated := by
  rw [isActivated, Bool.and_eq_true]
  constructor
  · rintro ⟨hshows, hstate⟩
    obtain ⟨d, hd⟩ := exists_device_iff.2 hshows
    have hindex := index_of_device hd
    refine ⟨d, mem_devices.2 (by rw [hindex, hd]), hindex, ?_⟩
    obtain ⟨_, link, number, hlink, _, rfl⟩ := device_eq_ok_iff.1 hd
    simpa [hlink, deviceOf] using hstate
  · rintro ⟨d, hd, rfl, hstate⟩
    rw [mem_devices] at hd
    refine ⟨exists_device_iff.1 ⟨d, hd⟩, ?_⟩
    obtain ⟨_, link, number, hlink, _, hof⟩ := device_eq_ok_iff.1 hd
    rw [← hof] at hstate
    simpa [hlink, deviceOf] using hstate

/-- There is one device of each index in the list. -/
theorem eq_of_index_eq {s : Network} {d d' : Device} (hd : d ∈ s.devices) (hd' : d' ∈ s.devices)
    (h : d.index = d'.index) : d = d' := by
  rw [mem_devices] at hd hd'
  rw [h, hd'] at hd
  exact (Except.ok.inj hd).symm

variable {filter : LinkFilter} {s : Network}

/-- The routes among which the best one is chosen are those through activated devices. -/
theorem Consistent.mem_routesActivated (h : s.Consistent filter) {family : Family} {r : Route} :
    r ∈ (s.inventory.defaultRoutes family).filter s.routesActivated ↔
      ∃ d, s.LeadsOut family d r := by
  rw [List.mem_filter, h.wellFormed.mem_defaultRoutes, routesActivated, Option.any_eq_true]
  constructor
  · rintro ⟨⟨hknown, hfamily⟩, i, hoif, hactivated⟩
    obtain ⟨d, hd, rfl, hstate⟩ := isActivated_iff.1 hactivated
    exact ⟨d, hd, hstate, hknown, hfamily, hoif⟩
  · rintro ⟨d, hd, hstate, hknown, hfamily, hoif⟩
    exact ⟨⟨hknown, hfamily⟩, d.index, hoif, isActivated_iff.2 ⟨d, hd, rfl, hstate⟩⟩

/-- Ranks compare metrics first, then indices. -/
theorem rank_le_iff {m m' i i' : UInt32} :
    [m.toNat, i.toNat] ≤ [m'.toNat, i'.toNat] ↔ m < m' ∨ m = m' ∧ i ≤ i' := by
  rw [← not_lt]
  simp only [List.cons_lt_cons_iff, List.lt_irrefl, and_false, or_false, not_or, not_and, not_lt,
    UInt32.lt_iff_toNat_lt, UInt32.le_iff_toNat_le, ← UInt32.toNat_inj]
  omega

namespace LeadsOutBest

variable {family : Family} {d d' : Device}

/-- The best route through a device is a route through it. -/
theorem exists_leadsOut (h : s.LeadsOutBest family d) : ∃ r, s.LeadsOut family d r :=
  h.imp fun _ hr => hr.1

/-- The device of the best route is shown. -/
theorem listed (h : s.LeadsOutBest family d) : d ∈ s.devices :=
  h.exists_leadsOut.elim fun _ hr => hr.listed

/-- The device of the best route is activated. -/
theorem activated (h : s.LeadsOutBest family d) : d.state = .activated :=
  h.exists_leadsOut.elim fun _ hr => hr.activated

/-- Two devices with a best route of one family have the same index. -/
theorem index_eq (h : s.LeadsOutBest family d) (h' : s.LeadsOutBest family d') :
    d.index = d'.index := by
  obtain ⟨r, hr, hbest⟩ := h
  obtain ⟨r', hr', hbest'⟩ := h'
  have hle := hbest d' r' hr'
  have hge := hbest' d r hr
  simp only [UInt32.lt_iff_toNat_lt, UInt32.le_iff_toNat_le, ← UInt32.toNat_inj] at hle hge ⊢
  omega

end LeadsOutBest

namespace Consistent

/-- No interface is preferred for a family if none of its routes goes out of an activated device. -/
theorem defaultInterface?_eq_none_iff (h : s.Consistent filter) {family : Family} :
    s.defaultInterface? family = none ↔ ∀ d r, ¬ s.LeadsOut family d r := by
  rw [defaultInterface?, Option.bind_eq_none_iff]
  constructor
  · intro hnone d r hr
    have hmem := h.mem_routesActivated.2 ⟨d, hr⟩
    cases hbest : Inventory.minByRank (fun r => [r.metric.toNat, (r.oif.getD 0).toNat])
        ((s.inventory.defaultRoutes family).filter s.routesActivated) with
    | none =>
      rw [Inventory.minByRank_eq_none_iff.1 hbest] at hmem
      cases hmem
    | some best =>
      obtain ⟨d', hbest'⟩ := h.mem_routesActivated.1 (Inventory.mem_of_minByRank hbest)
      have hoif := hnone best hbest
      rw [hbest'.oif_eq] at hoif
      cases hoif
  · intro hnone best hbest
    obtain ⟨d, hd⟩ := h.mem_routesActivated.1 (Inventory.mem_of_minByRank hbest)
    exact absurd hd (hnone d best)

/-- The preferred interface of a family is that of a device with the best route. -/
theorem exists_best_of_defaultInterface? (h : s.Consistent filter) {family : Family} {i : UInt32}
    (hi : s.defaultInterface? family = some i) : ∃ d, d.index = i ∧ s.LeadsOutBest family d := by
  obtain ⟨best, hbest, hoif⟩ := Option.bind_eq_some_iff.1 hi
  obtain ⟨d, hd⟩ := h.mem_routesActivated.1 (Inventory.mem_of_minByRank hbest)
  rw [hd.oif_eq, Option.some.injEq] at hoif
  refine ⟨d, hoif, best, hd, fun d' r' hr' => ?_⟩
  have hrank := Inventory.rank_le_of_minByRank hbest (h.mem_routesActivated.2 ⟨d', hr'⟩)
  simpa only [hd.oif_eq, hr'.oif_eq, Option.getD_some, rank_le_iff] using hrank

/-- The preferred interface of a family is that of the device with the best route. -/
theorem defaultInterface?_eq_some_iff (h : s.Consistent filter) {family : Family} {i : UInt32} :
    s.defaultInterface? family = some i ↔ ∃ d, d.index = i ∧ s.LeadsOutBest family d := by
  refine ⟨h.exists_best_of_defaultInterface?, ?_⟩
  rintro ⟨d, rfl, hbest⟩
  cases hfound : s.defaultInterface? family with
  | none =>
    obtain ⟨r, hr⟩ := hbest.exists_leadsOut
    exact absurd hr (h.defaultInterface?_eq_none_iff.1 hfound d r)
  | some j =>
    obtain ⟨d', rfl, hbest'⟩ := h.exists_best_of_defaultInterface? hfound
    rw [hbest'.index_eq hbest]

/-- If any route of a family goes out of an activated device, some device has the best one. -/
theorem exists_best_of_leadsOut (h : s.Consistent filter) {family : Family} {d : Device} {r : Route}
    (hr : s.LeadsOut family d r) : ∃ best, s.LeadsOutBest family best := by
  cases hfound : s.defaultInterface? family with
  | none => exact absurd hr (h.defaultInterface?_eq_none_iff.1 hfound d r)
  | some i =>
    obtain ⟨best, _, hbest⟩ := h.exists_best_of_defaultInterface? hfound
    exact ⟨best, hbest⟩

end Consistent

/-! ## Marks -/

/-- The mark of a device follows from its state and the preferred interface. -/
theorem isDefaultFor_eq {d : Device} (hd : d ∈ s.devices) (family : Family) :
    d.isDefaultFor family =
      (d.state.isConnected && s.defaultInterface? family == some d.index) := by
  obtain ⟨_, link, number, _, _, hof⟩ := device_eq_ok_iff.1 (mem_devices.1 hd)
  rw [← hof]
  cases hconnected : (DeviceCondition.ofRecords link
      (s.inventory.addressesOf d.index)).state.isConnected <;>
    cases family <;> simp [deviceOf, Device.isDefaultFor, activeConnection, hconnected]

namespace Consistent

/-- A device is marked if and only if it has the best route. -/
theorem isDefaultFor_iff (h : s.Consistent filter) {d : Device} (hd : d ∈ s.devices)
    (family : Family) : d.isDefaultFor family = true ↔ s.LeadsOutBest family d := by
  rw [isDefaultFor_eq hd, Bool.and_eq_true, beq_iff_eq, h.defaultInterface?_eq_some_iff]
  constructor
  · rintro ⟨_, d', hindex, hbest⟩
    rwa [← eq_of_index_eq hbest.listed hd hindex]
  · intro hbest
    rw [hbest.activated]
    exact ⟨rfl, d, rfl, hbest⟩

/-- At most one device is marked. -/
theorem length_marked_le_one (h : s.Consistent filter) (family : Family) :
    (s.devices.filter fun d => d.isDefaultFor family).length ≤ 1 := by
  have hindices : (s.devices.map Device.index).Nodup := s.map_index_devices ▸ h.nodup_shown
  have hnodup : s.devices.Nodup := List.Nodup.of_map _ hindices
  rw [← List.toFinset_card_of_nodup (hnodup.filter _), Finset.card_le_one]
  simp only [List.mem_toFinset, List.mem_filter]
  rintro d ⟨hd, hmarked⟩ d' ⟨hd', hmarked'⟩
  rw [h.isDefaultFor_iff hd] at hmarked
  rw [h.isDefaultFor_iff hd'] at hmarked'
  exact eq_of_index_eq hd hd' (hmarked.index_eq hmarked')

/-- There is a marked device if and only if a route of the family goes out of an activated one. -/
theorem isSome_defaultDevice?_iff (h : s.Consistent filter) {family : Family} :
    (s.defaultDevice? family).isSome = true ↔ ∃ d r, s.LeadsOut family d r := by
  rw [defaultDevice?, List.find?_isSome]
  constructor
  · rintro ⟨d, hd, hmarked⟩
    exact ⟨d, ((h.isDefaultFor_iff hd family).1 hmarked).exists_leadsOut⟩
  · rintro ⟨d, r, hr⟩
    obtain ⟨best, hbest⟩ := h.exists_best_of_leadsOut hr
    exact ⟨best, hbest.listed, (h.isDefaultFor_iff hbest.listed family).2 hbest⟩

/-- The marked device is the one of the preferred interface. -/
theorem defaultDevice?_eq_bind (h : s.Consistent filter) (family : Family) :
    s.defaultDevice? family =
      (s.defaultInterface? family).bind fun i => s.devices.find? fun d => d.index == i := by
  cases hfound : s.defaultInterface? family with
  | none =>
    rw [Option.bind_none, ← Option.not_isSome_iff_eq_none, h.isSome_defaultDevice?_iff]
    rintro ⟨d, r, hr⟩
    exact h.defaultInterface?_eq_none_iff.1 hfound d r hr
  | some i =>
    obtain ⟨best, rfl, hbest⟩ := h.defaultInterface?_eq_some_iff.1 hfound
    rw [Option.bind_some, defaultDevice?]
    refine List.find?_congr fun d hd => ?_
    rw [Bool.eq_iff_iff, h.isDefaultFor_iff hd, beq_iff_eq]
    exact ⟨fun hbest' => hbest'.index_eq hbest,
      fun hindex => eq_of_index_eq hd hbest.listed hindex ▸ hbest⟩

/-- The primary device of the overview is found by the marks. -/
theorem primary?_devices (h : s.Consistent filter) :
    s.primary? s.devices = s.primaryDevice? := by
  have hv4 := h.defaultDevice?_eq_bind .v4
  rw [primary?, primaryDevice?, hv4, h.defaultDevice?_eq_bind .v6]
  cases hfound : s.defaultInterface? .v4 with
  | none => rfl
  | some i =>
    have hsome : (s.defaultDevice? .v4).isSome = true := by
      rw [h.isSome_defaultDevice?_iff]
      obtain ⟨d, _, hbest⟩ := h.defaultInterface?_eq_some_iff.1 hfound
      exact ⟨d, hbest.exists_leadsOut⟩
    rw [hv4, hfound] at hsome
    exact (Option.or_of_isSome hsome).symm

/-- There is a primary device if and only if a route goes out of an activated device. -/
theorem isSome_primaryDevice?_iff (h : s.Consistent filter) :
    s.primaryDevice?.isSome = true ↔ ∃ family d r, s.LeadsOut family d r := by
  rw [primaryDevice?, Option.isSome_or, Bool.or_eq_true, h.isSome_defaultDevice?_iff,
    h.isSome_defaultDevice?_iff]
  constructor
  · rintro (hr | hr)
    · exact ⟨.v4, hr⟩
    · exact ⟨.v6, hr⟩
  · rintro ⟨family, hr⟩
    cases family with
    | v4 => exact Or.inl hr
    | v6 => exact Or.inr hr

/-- The primary device has a best route. -/
theorem exists_best_of_primaryDevice? (h : s.Consistent filter) {d : Device}
    (hd : s.primaryDevice? = some d) : ∃ family, s.LeadsOutBest family d := by
  have hbest : ∀ family, s.defaultDevice? family = some d → s.LeadsOutBest family d := by
    intro family hfound
    have hlisted := List.mem_of_find?_eq_some hfound
    have hmarked : d.isDefaultFor family = true := by
      simpa using List.find?_some hfound
    exact (h.isDefaultFor_iff hlisted family).1 hmarked
  rcases Option.or_eq_some_iff.1 hd with hv4 | ⟨_, hv6⟩
  · exact ⟨.v4, hbest .v4 hv4⟩
  · exact ⟨.v6, hbest .v6 hv6⟩

end Consistent

/-! ## The overview -/

/-- No connection in use has the path of no object. -/
theorem paths_active_ne {d : Device} (hd : d ∈ s.devices) : d.paths.active ≠ noObjectPath := by
  obtain ⟨number, _, hpaths⟩ := paths_of_device (mem_devices.1 hd)
  rw [hpaths]
  exact PathKind.path_ne (by decide) .active number

/-- A device has a connection in use in a connected state only. -/
theorem isSome_active {d : Device} (hd : d ∈ s.devices) :
    d.active.isSome = d.state.isConnected :=
  (wellFormed_of_device? (mem_devices_iff_device?.1 hd)).isSome_active

/-- The connection in use has the type that goes with the device. -/
theorem connectionType_active {d : Device} (hd : d ∈ s.devices) {a : ActiveConnection}
    (ha : d.active = some a) : a.connectionType = d.deviceType.connectionType := by
  obtain ⟨_, link, number, _, _, hof⟩ := device_eq_ok_iff.1 (mem_devices.1 hd)
  rw [← hof] at ha ⊢
  simp only [deviceOf] at ha ⊢
  split at ha
  · cases ha
    rfl
  · cases ha

/-- The overview lists the connections of the devices in a connected state. -/
theorem activeConnections_overview (s : Network) :
    s.overview.activeConnections =
      (s.devices.filter fun d => d.state.isConnected).map fun d => d.paths.active := by
  have hfilter : (s.devices.filter fun d => d.active.isSome) =
      s.devices.filter fun d => d.state.isConnected :=
    List.filter_congr fun _ hd => isSome_active hd
  rw [← hfilter]
  rfl

namespace Consistent

/-- The primary connection is that of the primary device. -/
theorem primaryConnection_overview (h : s.Consistent filter) :
    s.overview.primaryConnection =
      (s.primaryDevice?.map fun d => d.paths.active).getD noObjectPath := by
  rw [← h.primary?_devices]
  rfl

/-- The type of the primary connection is that of the connection in use of the primary device. -/
theorem primaryConnectionType_overview (h : s.Consistent filter) :
    s.overview.primaryConnectionType =
      ((s.primaryDevice?.bind Device.active).map ActiveConnection.connectionType).getD "" := by
  have htype : s.overview.primaryConnectionType =
      (s.primaryDevice?.map fun d => d.deviceType.connectionType).getD "" := by
    rw [← h.primary?_devices]
    rfl
  rw [htype]
  cases hprimary : s.primaryDevice? with
  | none => rfl
  | some d =>
    obtain ⟨_, hbest⟩ := h.exists_best_of_primaryDevice? hprimary
    have hsome := isSome_active hbest.listed
    rw [hbest.activated] at hsome
    obtain ⟨a, ha⟩ := Option.isSome_iff_exists.1 hsome
    simp [ha, connectionType_active hbest.listed ha]

/-- There is a primary connection if and only if there is a primary device. -/
theorem primaryConnection_ne_iff (h : s.Consistent filter) :
    s.overview.primaryConnection ≠ noObjectPath ↔ s.primaryDevice?.isSome = true := by
  rw [h.primaryConnection_overview]
  cases hprimary : s.primaryDevice? with
  | none => simp
  | some d =>
    obtain ⟨_, hbest⟩ := h.exists_best_of_primaryDevice? hprimary
    simpa using paths_active_ne hbest.listed

/-- The primary connection is in use. -/
theorem primaryConnection_mem (h : s.Consistent filter)
    (hne : s.overview.primaryConnection ≠ noObjectPath) :
    s.overview.primaryConnection ∈ s.overview.activeConnections := by
  obtain ⟨d, hprimary⟩ := Option.isSome_iff_exists.1 (h.primaryConnection_ne_iff.1 hne)
  obtain ⟨_, hbest⟩ := h.exists_best_of_primaryDevice? hprimary
  rw [h.primaryConnection_overview, activeConnections_overview, hprimary]
  refine List.mem_map_of_mem (List.mem_filter.2 ⟨hbest.listed, ?_⟩)
  rw [hbest.activated]
  rfl

/-- A device leads everywhere if it is activated and some route goes out of it. -/
theorem isGlobal_iff (h : s.Consistent filter) {d : Device} (hd : d ∈ s.devices) :
    s.isGlobal d = true ↔ ∃ family r, s.LeadsOut family d r := by
  simp only [isGlobal, Bool.and_eq_true, beq_iff_eq, Bool.or_eq_true,
    h.wellFormed.isSome_routeVia?_iff]
  constructor
  · rintro ⟨hstate, ⟨r, hknown, hfamily, hoif⟩ | ⟨r, hknown, hfamily, hoif⟩⟩
    · exact ⟨.v4, r, hd, hstate, hknown, hfamily, hoif⟩
    · exact ⟨.v6, r, hd, hstate, hknown, hfamily, hoif⟩
  · rintro ⟨family, r, _, hstate, hknown, hfamily, hoif⟩
    cases family with
    | v4 => exact ⟨hstate, Or.inl ⟨r, hknown, hfamily, hoif⟩⟩
    | v6 => exact ⟨hstate, Or.inr ⟨r, hknown, hfamily, hoif⟩⟩

/-- Some device leads everywhere if and only if there is a primary device. -/
theorem any_isGlobal_iff (h : s.Consistent filter) :
    s.devices.any s.isGlobal = true ↔ s.primaryDevice?.isSome = true := by
  rw [List.any_eq_true, h.isSome_primaryDevice?_iff]
  constructor
  · rintro ⟨d, hd, hglobal⟩
    obtain ⟨family, r, hr⟩ := (h.isGlobal_iff hd).1 hglobal
    exact ⟨family, d, r, hr⟩
  · rintro ⟨family, d, r, hr⟩
    exact ⟨d, hr.listed, (h.isGlobal_iff hr.listed).2 ⟨family, r, hr⟩⟩

/-- The state of the network follows from the primary connection and the states of the devices. -/
theorem state_overview (h : s.Consistent filter) :
    s.overview.state =
      if s.overview.primaryConnection ≠ noObjectPath then .connectedGlobal
      else if ∃ d ∈ s.devices, d.state = .activated then .connectedSite
      else if ∃ d ∈ s.devices, d.state = .ipConfig then .connecting
      else .disconnected := by
  change s.managerState s.devices = _
  simp only [managerState, h.any_isGlobal_iff, h.primaryConnection_ne_iff, List.any_eq_true,
    beq_iff_eq]

end Consistent

/-- After any run of updates from a network that knows nothing: of each family at most one device is
marked as the one of the best default route, it is the activated device with the route of smallest
metric, and of several the one of smallest index, and there is one if there is such a route. The
primary connection is that of the device marked for IPv4, or else for IPv6; it tells whether the
whole network counts as connected to the rest of the world; and it is among the connections in use,
which are those of the devices in a connected state. -/
theorem overview_agrees_with_routes (filter : LinkFilter) (updates : List Update) :
    let s := (empty filter).updateAll updates
    let m := s.overview
    (∀ family, (s.devices.filter fun d => d.isDefaultFor family).length ≤ 1 ∧
      (∀ d ∈ s.devices, d.isDefaultFor family = true ↔ s.LeadsOutBest family d) ∧
      ((∃ d r, s.LeadsOut family d r) → ∃ d ∈ s.devices, d.isDefaultFor family = true)) ∧
    m.primaryConnection = (s.primaryDevice?.map fun d => d.paths.active).getD noObjectPath ∧
    m.primaryConnectionType =
      ((s.primaryDevice?.bind Device.active).map ActiveConnection.connectionType).getD "" ∧
    m.state = (if m.primaryConnection ≠ noObjectPath then .connectedGlobal
      else if ∃ d ∈ s.devices, d.state = .activated then .connectedSite
      else if ∃ d ∈ s.devices, d.state = .ipConfig then .connecting
      else .disconnected) ∧
    m.activeConnections =
      (s.devices.filter fun d => d.state.isConnected).map (fun d => d.paths.active) ∧
    (m.primaryConnection ≠ noObjectPath → m.primaryConnection ∈ m.activeConnections) := by
  intro s m
  have h : s.Consistent filter := (consistent_empty filter).updateAll updates
  refine ⟨fun family => ⟨h.length_marked_le_one family, fun d hd => h.isDefaultFor_iff hd family,
    fun hout => ?_⟩, h.primaryConnection_overview, h.primaryConnectionType_overview,
    h.state_overview, s.activeConnections_overview, h.primaryConnection_mem⟩
  rwa [← h.isSome_defaultDevice?_iff, defaultDevice?, List.find?_isSome] at hout

end Network

end LinkBus
