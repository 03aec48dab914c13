import LinkBus.Proofs.Bus.Getters
import LinkBus.Proofs.Chronicle.Objects
import LinkBus.Proofs.Plan.Kept

/-!
# Getters and announcements

A client that reads a property and then only listens holds the value that its getter gives, as long
as the plans tell of it whenever the getter gives something else. For every object that a plan keeps
this is so for all properties except the few that follow the network unannounced, and those are
never told of.
-/

namespace LinkBus

namespace Chronicle

/-- The next plan keeps an interface of the object with a number at a path: that of the manager,
that of the settings object, or one of a registered object that it does not unregister. -/
inductive Keeps (c : Chronicle) : String → Nat → Bus.Interface → Prop
  | manager : Keeps c managerPath 0 (.announced .manager)
  | settings : Keeps c settingsPath 0 (.announced .settings)
  | object {o : BusObject} {i : Bus.Interface} (registered : o ∈ c.announced.busObjects)
      (kept : .unregister o ∉ c.nextSteps) (hasInterface : i ∈ Bus.interfacesOf o.role) :
      Keeps c o.path o.number i

/-- The next plan tells that a property has a value. -/
def Tells (c : Chronicle) (path : String) (i : Bus.Interface) (name : String)
    (value : Bus.Value) : Prop :=
  ∃ interface changed told, i = .announced interface ∧
    .emit (.propertiesChanged path interface changed) ∈ c.nextSteps ∧
    changed.get? name = some told ∧ value = .ofProperty told

end Chronicle

variable {filter : LinkFilter} {hostname : Option (List UInt8)}
  {resolv : List (Option (List UInt8))}

/-- If the block of an interface keeps an object and the getter of one of its properties gives
something else than before, then the block tells what it gives, unless the property follows the
network unannounced. -/
theorem Network.exists_mem_block_of_get?_ne {old new : Network} (hold : old.Consistent filter)
    (hnew : new.Consistent filter) {j : UInt32} {d : Device} {o : BusObject}
    (hd : old.device? j = some d) (ho : o ∈ d.busObjects)
    (hkept : .unregister o ∉ old.block new j) {interface : PropertyInterface}
    (hi : .announced interface ∈ Bus.interfacesOf o.role) {name : String}
    (hname : name ∉ (Bus.Interface.announced interface).unannounced)
    (hdiffers : (Bus.Interface.announced interface).get? ⟨old, hostname, resolv⟩ o.number name ≠
      (Bus.Interface.announced interface).get? ⟨new, hostname, resolv⟩ o.number name) :
    ∃ changed told, .emit (.propertiesChanged o.path interface changed) ∈ old.block new j ∧
      changed.get? name = some told ∧
      (Bus.Interface.announced interface).get? ⟨new, hostname, resolv⟩ o.number name =
        some (.ok (.ofProperty told)) := by
  obtain ⟨e, he, hnumber, hmedium, hoe⟩ := exists_device_of_kept hd ho hkept
  have hdform := wellFormed_of_device? hd
  have heform := wellFormed_of_device? he
  have hfindsOld : old.deviceNumbered o.number = .ok d := hold.deviceNumbered_eq_ok_iff.2
    ⟨mem_devices_of_device? hd, (Device.number_of_mem_busObjects ho).symm⟩
  have hfindsNew : new.deviceNumbered o.number = .ok e := hnew.deviceNumbered_eq_ok_iff.2
    ⟨mem_devices_of_device? he, (Device.number_of_mem_busObjects hoe).symm⟩
  have hpaths : d.paths = e.paths := by rw [hdform.paths_eq, heform.paths_eq, hnumber]
  obtain ⟨before, hbefore⟩ := Option.isSome_iff_exists.1
    ((Device.isSome_face hdform ho).2 (Device.mem_faces_of_mem_interfacesOf ho hi))
  obtain ⟨after, hafter⟩ := Option.isSome_iff_exists.1
    ((Device.isSome_face heform hoe).2 (Device.mem_faces_of_mem_interfacesOf hoe hi))
  obtain ⟨told, hvalue, hother, hnow⟩ := Bus.exists_value_of_lookup_ne
    (Bus.give_getters hfindsOld hbefore) (Bus.give_getters hfindsNew hafter)
    (fun hrest => Bus.lookup_getters_congr hfindsOld hfindsNew hdform heform hpaths hbefore hafter
      hrest hname) hdiffers
  obtain ⟨changed, hstep, htold⟩ := DeviceMemo.exists_mem_propertySignal
    (Device.sameNames_face hmedium hbefore hafter) hvalue hother o.path interface
  refine ⟨changed, told, ?_, htold, hnow⟩
  rw [block_eq hd he, if_pos ⟨hnumber, hmedium⟩]
  exact DeviceMemo.mem_stay_of_mem_propertySignal heform hmedium hoe hbefore hafter hstep

namespace Chronicle.Faithful

variable {c : Chronicle} {path name : String} {i : Bus.Interface} {value : Bus.Value}

/-- What follows the network unannounced is never told of. -/
theorem not_tells (h : c.Faithful filter) (hname : name ∈ i.unannounced) :
    ¬ c.Tells path i name value := by
  rintro ⟨interface, changed, told, rfl, hstep, htold, rfl⟩
  cases hchanged : c.pending.isEmpty with
  | true =>
    rw [nextSteps_of_isEmpty hchanged] at hstep
    cases hstep
  | false =>
    obtain ⟨indices, _, _, hsteps⟩ := h.nextSteps_eq hchanged
    rw [hsteps, List.mem_append] at hstep
    rcases hstep with hstep | hstep
    · obtain ⟨j, _, hstep⟩ := List.mem_flatMap.1 hstep
      obtain ⟨d, o, before, after, hd, ho, rfl, hbefore, hnames, rfl, _⟩ :=
        Network.propertiesChanged_of_mem_block hstep
      have hnone := Bus.get?_eq_none_of_unannounced hbefore hname
      rw [Properties.get?_eq_none_iff, hnames.names_eq, ← Properties.get?_eq_none_iff] at hnone
      rw [((Properties.get?_difference hnames.nodup).1 htold).1] at hnone
      cases hnone
    · rcases OverviewMemo.mem_change.1 hstep with hstep | ⟨_, heq⟩ | hstep
      · obtain ⟨_, heq⟩ := DeviceMemo.mem_propertySignal.1 hstep
        cases heq
        have hnames := c.announced.overview.sameNames_properties c.network.overview
        have hnone := Bus.get?_overview_eq_none_of_unannounced (m := c.network.overview) hname
        have hvalue := ((Properties.get?_difference hnames.nodup).1 htold).1
        cases hnone.symm.trans hvalue
      · cases heq
      · obtain ⟨_, heq⟩ := DeviceMemo.mem_propertySignal.1 hstep
        cases heq
        cases hname

/-- If a plan keeps an object and the getter of one of its properties gives something else than
before, then the plan tells what it gives, unless the property follows the network unannounced. -/
theorem tells (h : c.Faithful filter) {number : Nat} (hkeeps : c.Keeps path number i)
    (hname : name ∉ i.unannounced)
    (hdiffers : i.get? ⟨c.announced, hostname, resolv⟩ number name ≠
      i.get? ⟨c.network, hostname, resolv⟩ number name) :
    ∃ value, i.get? ⟨c.network, hostname, resolv⟩ number name = some (.ok value) ∧
      c.Tells path i name value := by
  -- Without a change the network is the announced one, and no getter gives anything else.
  have hchanged : c.pending.isEmpty = false := by
    by_contra hempty
    rw [h.network_eq (by simpa using hempty)] at hdiffers
    exact hdiffers rfl
  obtain ⟨indices, _, hmem, hsteps⟩ := h.nextSteps_eq hchanged
  cases hkeeps with
  | manager =>
    obtain ⟨told, hvalue, hbefore, hnow⟩ := Bus.exists_value_of_lookup_ne
      (Bus.give_managerGetters _) (Bus.give_managerGetters _)
      (fun hother => Bus.lookup_managerGetters_congr hother hname) hdiffers
    obtain ⟨changed, hstep, htold⟩ := DeviceMemo.exists_mem_propertySignal
      (c.announced.overview.sameNames_properties _) hvalue hbefore managerPath .manager
    refine ⟨_, hnow, .manager, changed, told, rfl, ?_, htold, rfl⟩
    rw [hsteps]
    exact List.mem_append_right _ (OverviewMemo.mem_change.2 (Or.inl hstep))
  | settings =>
    obtain ⟨told, hvalue, hbefore, hnow⟩ := Bus.exists_value_of_lookup_ne
      (Bus.give_settingsGetters _) (Bus.give_settingsGetters _)
      (fun hother => Bus.lookup_settingsGetters_congr hother) hdiffers
    obtain ⟨changed, hstep, htold⟩ := DeviceMemo.exists_mem_propertySignal
      (c.announced.overview.sameNames_connectionsProperty _) hvalue hbefore settingsPath .settings
    refine ⟨_, hnow, .settings, changed, told, rfl, ?_, htold, rfl⟩
    rw [hsteps]
    exact List.mem_append_right _ (OverviewMemo.mem_change.2 (Or.inr (Or.inr hstep)))
  | @object o _ hregistered hkept hi =>
    cases i with
    | settingsConnection => exact absurd rfl hdiffers
    | announced interface =>
      obtain ⟨d, hd, ho⟩ := Finset.mem_biUnion.1 hregistered
      rw [List.mem_toFinset, Network.mem_devices_iff_device?] at hd
      have hblock : ∀ step ∈ c.announced.block c.network d.index, step ∈ c.nextSteps := by
        intro step hstep
        rw [hsteps]
        exact List.mem_append_left _
          (List.mem_flatMap.2 ⟨d.index, (hmem d.index).2 (Or.inl ⟨d, hd⟩), hstep⟩)
      obtain ⟨changed, told, hstep, htold, hnow⟩ := Network.exists_mem_block_of_get?_ne
        h.succession.before h.succession.after hd ho (fun hgone => hkept (hblock _ hgone)) hi hname
        hdiffers
      exact ⟨_, hnow, interface, changed, told, rfl, hblock _ hstep, htold, rfl⟩

end Chronicle.Faithful

namespace Chronicle

/-- In every chronicle of a network, whatever the files of the host say: if the next plan keeps an
object, and the getter of one of its properties gives something else than it gave in the announced
network, then the plan tells what it gives now, unless the property follows the network unannounced.
No plan ever tells of those. -/
theorem getters_follow_announcements (filter : LinkFilter) (setup : List Update)
    (actions : List Action) (hostname : Option (List UInt8))
    (resolv : List (Option (List UInt8))) :
    let c := ofRun filter setup actions
    (∀ path number i, c.Keeps path number i → ∀ name, name ∉ i.unannounced →
      i.get? ⟨c.announced, hostname, resolv⟩ number name ≠
          i.get? ⟨c.network, hostname, resolv⟩ number name →
        ∃ value, i.get? ⟨c.network, hostname, resolv⟩ number name = some (.ok value) ∧
          c.Tells path i name value) ∧
      ∀ path i name value, name ∈ i.unannounced → ¬ c.Tells path i name value := by
  intro c
  have hfaithful := Faithful.ofRun filter setup actions
  exact ⟨fun _ _ _ hkeeps _ hname hdiffers => hfaithful.tells hkeeps hname hdiffers,
    fun _ _ _ _ hname => hfaithful.not_tells hname⟩

/-- The news of a wired link. -/
def wiredNews (name : String) : Event :=
  .newLink { index := 2, name := some name, layerType := 1, flags := 65539, oper := some .up }

/-- A chronicle in which a device is renamed. -/
def renamed : Chronicle :=
  ofRun {} [.hear [wiredNews "eth0"] 0 500] [.update (.hear [wiredNews "eth1"] 10 500)]

/-- The device object is kept when its device is renamed. -/
theorem keeps_renamed : renamed.Keeps (PathKind.device.path 1) 1 (.announced .device) :=
  .object (o := ⟨.device .wired, 1⟩) (by decide +kernel) (by decide +kernel) (by decide)

/-- A renamed device is told of by its interface name. -/
theorem getters_follow_announcements_renamed :
    let i : Bus.Interface := .announced .device
    renamed.Keeps (PathKind.device.path 1) 1 i ∧
      i.get? ⟨renamed.announced, none, []⟩ 1 "Interface" = some (.ok (.text "eth0")) ∧
      ∃ value, i.get? ⟨renamed.network, none, []⟩ 1 "Interface" = some (.ok value) ∧
        renamed.Tells (PathKind.device.path 1) i "Interface" value := by
  intro i
  have hbefore : i.get? ⟨renamed.announced, none, []⟩ 1 "Interface" = some (.ok (.text "eth0")) :=
    rfl
  have hnow : i.get? ⟨renamed.network, none, []⟩ 1 "Interface" = some (.ok (.text "eth1")) := rfl
  refine ⟨keeps_renamed, hbefore, ?_⟩
  refine (getters_follow_announcements {} _ _ none []).1 _ 1 i keeps_renamed "Interface" ?_ ?_
  · decide
  · change i.get? ⟨renamed.announced, none, []⟩ 1 "Interface" ≠
      i.get? ⟨renamed.network, none, []⟩ 1 "Interface"
    rw [hbefore, hnow]
    simp

/-- A renamed device has another identifier in the file system, but the plan does not tell of it. -/
theorem renamed_udi_untold :
    let i : Bus.Interface := .announced .device
    renamed.Keeps (PathKind.device.path 1) 1 i ∧
      i.get? ⟨renamed.announced, none, []⟩ 1 "Udi" = some (.ok (.text "/sys/class/net/eth0")) ∧
      i.get? ⟨renamed.network, none, []⟩ 1 "Udi" = some (.ok (.text "/sys/class/net/eth1")) ∧
      renamed.nextSteps = [.emit (.propertiesChanged (PathKind.device.path 1) .device
        [("Interface", .text "eth1"), ("IpInterface", .text "eth1")])] :=
  ⟨keeps_renamed, rfl, rfl, by decide +kernel⟩

end Chronicle

end LinkBus
