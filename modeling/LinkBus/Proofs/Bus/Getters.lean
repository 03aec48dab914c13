import LinkBus.Bus.Tree
import LinkBus.Proofs.Plan.Mirror

/-!
# Getters and announced properties

Most properties of an interface are announced when they change, and their getters give what is
announced. Of the others most are the same for ever. Some, however, follow the network like those
that are announced, and a client that only listens does not learn of them. So if a getter gives
something else in one network than in another, then either its property is announced and the getter
tells its new value, or it is one of these.
-/

namespace LinkBus.Bus

/-- The properties of an interface that follow the network but are not announced when they change. -/
def Interface.unannounced : Interface → List String
  | announced .manager => ["ActivatingConnection"]
  | announced .device => ["Udi", "StateReason"]
  | announced (.specific .generic) => ["TypeDescription"]
  | announced (.specific _) => ["PermHwAddress"]
  | announced .activeConnection => ["Type", "Id", "Uuid"]
  | _ => []

/-- Getters have different names and give the value of every announced property. -/
structure Give (getters : List Getter) (m : Properties) : Prop where
  /-- No name occurs twice. -/
  nodup : (getters.map Prod.fst).Nodup
  /-- The value of every announced property is given. -/
  value : ∀ e ∈ m, (e.1, .ok (.ofProperty e.2)) ∈ getters

variable {name : String} {getters getters' : List Getter} {before after : Properties}

/-- Getters that give announced properties give the value of each by its name. -/
theorem Give.lookup (h : Give getters after) {value : AnnouncedValue}
    (hvalue : after.get? name = some value) :
    getters.lookup name = some (.ok (.ofProperty value)) :=
  lookup_of_mem h.nodup (h.value (name, value) (Properties.mem_of_get? hvalue))

/-- Lists of getters with the same names give a property alike if they do wherever its name
stands. -/
theorem lookup_congr
    (h : List.Forall₂ (fun p q => p.1 = q.1 ∧ (name = p.1 → p.2 = q.2)) getters getters') :
    getters.lookup name = getters'.lookup name := by
  induction h with
  | nil => rfl
  | @cons p q _ _ hpq _ ih =>
    rw [List.lookup_cons, List.lookup_cons, ← hpq.1, ih]
    cases hfound : name == p.1 with
    | true => rw [hpq.2 (beq_iff_eq.1 hfound)]
    | false => rfl

/-- If getters give something else than others did, and what is not announced is the same, then an
announced property has another value than before, and it is given. -/
theorem exists_value_of_lookup_ne (hbefore : Give getters before) (hafter : Give getters' after)
    (hrest : name ∉ after.map Prod.fst → getters.lookup name = getters'.lookup name)
    (hdiffers : getters.lookup name ≠ getters'.lookup name) :
    ∃ value, after.get? name = some value ∧ before.get? name ≠ some value ∧
      getters'.lookup name = some (.ok (.ofProperty value)) := by
  cases hvalue : after.get? name with
  | none => exact absurd (hrest (Properties.get?_eq_none_iff.1 hvalue)) hdiffers
  | some value =>
    refine ⟨value, rfl, fun hold => hdiffers ?_, hafter.lookup hvalue⟩
    rw [hbefore.lookup hold, hafter.lookup hvalue]

/-! ## The manager and the settings object -/

variable {s t : Network} {hostname : Option (List UInt8)} {resolv : List (Option (List UInt8))}

/-- The getters of the manager give the announced properties of the overview. -/
theorem give_managerGetters (c : Context) :
    Give (managerGetters c) c.network.overview.properties := by
  constructor <;> simp [managerGetters, Overview.properties, always, Value.ofProperty]

/-- The getters of the settings object give the announced connections. -/
theorem give_settingsGetters (c : Context) :
    Give (settingsGetters c) c.network.overview.connectionsProperty := by
  constructor <;> simp [settingsGetters, Overview.connectionsProperty, always, Value.ofProperty]

/-- Two networks share what the manager neither announces nor lets follow the network. -/
theorem lookup_managerGetters_congr
    (hname : name ∉ t.overview.properties.map Prod.fst)
    (hfixed : name ∉ (Interface.announced .manager).unannounced) :
    (managerGetters ⟨s, hostname, resolv⟩).lookup name =
      (managerGetters ⟨t, hostname, resolv⟩).lookup name := by
  simp only [Overview.properties, Interface.unannounced, List.map_cons, List.map_nil, List.mem_cons,
    List.not_mem_nil, or_false, not_or] at hname hfixed
  apply lookup_congr
  simp [managerGetters, always, hname, hfixed]

/-- Two networks share what the settings object does not announce. -/
theorem lookup_settingsGetters_congr
    (hname : name ∉ t.overview.connectionsProperty.map Prod.fst) :
    (settingsGetters ⟨s, hostname, resolv⟩).lookup name =
      (settingsGetters ⟨t, hostname, resolv⟩).lookup name := by
  simp only [Overview.connectionsProperty, List.map_cons, List.map_nil, List.mem_singleton] at hname
  apply lookup_congr
  simp [settingsGetters, always, hname]

/-! ## The objects of devices -/

variable {c : Context} {number : Nat} {d e : Device} {a b : ActiveConnection}

/-- The getters of a device give its announced properties. -/
theorem give_deviceGetters (hd : c.device number = .ok d) :
    Give (deviceGetters c number) d.properties := by
  constructor <;>
    simp [deviceGetters, Device.properties, always, hd, Except.map, Value.ofProperty]

/-- The getters of a device's further interface give its announced properties. -/
theorem give_mediumGetters (hd : c.device number = .ok d) :
    Give (mediumGetters c number d.medium) d.mediumProperties := by
  cases hmedium : d.medium <;> constructor <;>
    simp [mediumGetters, Device.mediumProperties, always, hd, hmedium, Except.map,
      Value.ofProperty]

/-- The getters of an IPv4 configuration give its announced properties. -/
theorem give_ip4Getters {config : IpConfig} (hconfig : c.config number .v4 = .ok config) :
    Give (ip4Getters c number) config.properties := by
  constructor <;>
    simp [ip4Getters, ipGetters, IpConfig.properties, always, hconfig, Except.map,
      Value.ofProperty]

/-- The getters of an IPv6 configuration give its announced properties. -/
theorem give_ip6Getters {config : IpConfig} (hconfig : c.config number .v6 = .ok config) :
    Give (ip6Getters c number) config.properties := by
  constructor <;>
    simp [ip6Getters, ipGetters, IpConfig.properties, always, hconfig, Except.map,
      Value.ofProperty]

/-- The getters of a connection in use give its announced properties. -/
theorem give_activeGetters (ha : c.active number = .ok (d, a)) :
    Give (activeGetters c number) a.properties := by
  constructor <;>
    simp [activeGetters, ActiveConnection.properties, always, ha, Except.map, Value.ofProperty]

/-- The getters of a device give the rest alike for any two devices. -/
theorem lookup_deviceGetters_congr {c' : Context} (hname : name ∉ e.properties.map Prod.fst)
    (hfixed : name ∉ (Interface.announced .device).unannounced) :
    (deviceGetters c number).lookup name = (deviceGetters c' number).lookup name := by
  simp only [Device.properties, Interface.unannounced, List.map_cons, List.map_nil, List.mem_cons,
    List.not_mem_nil, or_false, not_or] at hname hfixed
  apply lookup_congr
  simp [deviceGetters, always, hname, hfixed]

/-- The getters of a further interface give the rest alike for any two devices. -/
theorem lookup_mediumGetters_congr {c' : Context} (hname : name ∉ e.mediumProperties.map Prod.fst)
    (hfixed : name ∉ (Interface.announced (.specific e.medium)).unannounced) :
    (mediumGetters c number e.medium).lookup name =
      (mediumGetters c' number e.medium).lookup name := by
  apply lookup_congr
  cases hmedium : e.medium <;>
    simp only [Device.mediumProperties, Interface.unannounced, hmedium, List.map_cons, List.map_nil,
      List.mem_cons, List.not_mem_nil, or_false, not_or] at hname hfixed <;>
    simp [mediumGetters, always, hname, hfixed]

/-- The getters of a connection in use give the rest alike for devices with the same paths. -/
theorem lookup_activeGetters_congr {c' : Context} (ha : c.active number = .ok (d, a))
    (hb : c'.active number = .ok (e, b)) (hpaths : d.paths = e.paths) (hip4 : d.ip4Path = e.ip4Path)
    (hip6 : d.ip6Path = e.ip6Path) (hname : name ∉ b.properties.map Prod.fst)
    (hfixed : name ∉ (Interface.announced .activeConnection).unannounced) :
    (activeGetters c number).lookup name = (activeGetters c' number).lookup name := by
  simp only [ActiveConnection.properties, Interface.unannounced, List.map_cons, List.map_nil,
    List.mem_cons, List.not_mem_nil, or_false, not_or] at hname hfixed
  apply lookup_congr
  simp [activeGetters, always, ha, hb, Except.map, hpaths, hip4, hip6, hname, hfixed]

/-- The getters of a configuration give the rest alike in any two networks. -/
theorem lookup_ipGetters_congr {config : IpConfig} (hname : name ∉ config.properties.map Prod.fst) :
    (ip4Getters ⟨s, hostname, resolv⟩ number).lookup name =
        (ip4Getters ⟨t, hostname, resolv⟩ number).lookup name ∧
      (ip6Getters ⟨s, hostname, resolv⟩ number).lookup name =
        (ip6Getters ⟨t, hostname, resolv⟩ number).lookup name := by
  simp only [IpConfig.properties, List.map_cons, List.map_nil, List.mem_cons, List.not_mem_nil,
    or_false, not_or] at hname
  constructor <;> apply lookup_congr <;>
    simp [ip4Getters, ip6Getters, ipGetters, always, Context.resolver, hname]

/-! ## All interfaces of an object -/

variable {role : ObjectRole} {interface : PropertyInterface}

/-- A bus object finds its device in the network. -/
theorem device_eq_ok (hd : s.deviceNumbered number = .ok d) :
    (⟨s, hostname, resolv⟩ : Context).device number = .ok d := by
  rw [Context.device, hd]
  rfl

/-- A configuration object finds the configuration of its device. -/
theorem config_eq_ok {config : IpConfig} (hd : s.deviceNumbered number = .ok d) :
    (d.ip4 = some config → (⟨s, hostname, resolv⟩ : Context).config number .v4 = .ok config) ∧
      (d.ip6 = some config → (⟨s, hostname, resolv⟩ : Context).config number .v6 = .ok config) := by
  constructor <;> intro hconfig <;> rw [Context.config, device_eq_ok hd] <;>
    simp only [bind, Except.bind, hconfig] <;> rfl

/-- The object of a connection in use finds it with its device. -/
theorem active_eq_ok (hd : s.deviceNumbered number = .ok d) (ha : d.active = some a) :
    (⟨s, hostname, resolv⟩ : Context).active number = .ok (d, a) := by
  rw [Context.active, device_eq_ok hd]
  simp only [bind, Except.bind, ha]
  rfl

/-- The getters of an object give the announced properties that its device shows. -/
theorem give_getters {m : Properties} (hd : s.deviceNumbered number = .ok d)
    (hface : d.face role interface = some m) :
    Give ((Interface.announced interface).getters ⟨s, hostname, resolv⟩ number) m := by
  unfold Device.face at hface
  split at hface
  · obtain ⟨_, ⟨⟩⟩ := Option.ite_none_right_eq_some.1 hface
    exact give_deviceGetters (device_eq_ok hd)
  · obtain ⟨⟨_, rfl⟩, ⟨⟩⟩ := Option.ite_none_right_eq_some.1 hface
    exact give_mediumGetters (device_eq_ok hd)
  · obtain ⟨config, hconfig, rfl⟩ := Option.map_eq_some_iff.1 hface
    exact give_ip4Getters ((config_eq_ok hd).1 hconfig)
  · obtain ⟨config, hconfig, rfl⟩ := Option.map_eq_some_iff.1 hface
    exact give_ip6Getters ((config_eq_ok hd).2 hconfig)
  · obtain ⟨a, ha, rfl⟩ := Option.map_eq_some_iff.1 hface
    exact give_activeGetters (active_eq_ok hd ha)
  · cases hface

/-- The getters of an object give the rest alike in two networks that show its device under the same
paths. -/
theorem lookup_getters_congr (hd : s.deviceNumbered number = .ok d)
    (he : t.deviceNumbered number = .ok e) (hdform : d.WellFormed) (heform : e.WellFormed)
    (hpaths : d.paths = e.paths) (hbefore : d.face role interface = some before)
    (hafter : e.face role interface = some after) (hname : name ∉ after.map Prod.fst)
    (hfixed : name ∉ (Interface.announced interface).unannounced) :
    ((Interface.announced interface).getters ⟨s, hostname, resolv⟩ number).lookup name =
      ((Interface.announced interface).getters ⟨t, hostname, resolv⟩ number).lookup name := by
  unfold Device.face at hbefore hafter
  split at hafter
  · obtain ⟨_, ⟨⟩⟩ := Option.ite_none_right_eq_some.1 hafter
    exact lookup_deviceGetters_congr hname hfixed
  · obtain ⟨⟨_, rfl⟩, ⟨⟩⟩ := Option.ite_none_right_eq_some.1 hafter
    exact lookup_mediumGetters_congr hname hfixed
  · obtain ⟨config, _, rfl⟩ := Option.map_eq_some_iff.1 hafter
    exact (lookup_ipGetters_congr hname).1
  · obtain ⟨config, _, rfl⟩ := Option.map_eq_some_iff.1 hafter
    exact (lookup_ipGetters_congr hname).2
  · obtain ⟨a, ha, rfl⟩ := Option.map_eq_some_iff.1 hbefore
    obtain ⟨b, hb, rfl⟩ := Option.map_eq_some_iff.1 hafter
    -- With a connection both devices have their configurations, and so the paths of these.
    have hip : d.ip4Path = e.ip4Path ∧ d.ip6Path = e.ip6Path := by
      simp only [Device.ip4Path, Device.ip6Path, hdform.isSome_ip4, hdform.isSome_ip6,
        heform.isSome_ip4, heform.isSome_ip6, ← hdform.isSome_active, ← heform.isSome_active, ha, hb,
        hpaths, Option.isSome_some]
      simp
    exact lookup_activeGetters_congr (active_eq_ok hd ha) (active_eq_ok he hb) hpaths hip.1 hip.2
      hname hfixed
  · cases hafter

/-- What follows the network unannounced is not among the announced properties of a device. -/
theorem get?_eq_none_of_unannounced {m : Properties} (hface : d.face role interface = some m)
    (hname : name ∈ (Interface.announced interface).unannounced) : m.get? name = none := by
  rw [Properties.get?_eq_none_iff]
  unfold Device.face at hface
  split at hface
  · obtain ⟨_, ⟨⟩⟩ := Option.ite_none_right_eq_some.1 hface
    simp only [Interface.unannounced, List.mem_cons, List.not_mem_nil, or_false] at hname
    rcases hname with rfl | rfl <;> simp [Device.properties]
  · obtain ⟨⟨_, rfl⟩, ⟨⟩⟩ := Option.ite_none_right_eq_some.1 hface
    cases hmedium : d.medium <;>
      simp only [Interface.unannounced, hmedium, List.mem_singleton] at hname <;>
      simp [Device.mediumProperties, hmedium, hname]
  · cases hname
  · cases hname
  · obtain ⟨a, _, rfl⟩ := Option.map_eq_some_iff.1 hface
    simp only [Interface.unannounced, List.mem_cons, List.not_mem_nil, or_false] at hname
    rcases hname with rfl | rfl | rfl <;> simp [ActiveConnection.properties]
  · cases hface

/-- Nor is it among those of the overview. -/
theorem get?_overview_eq_none_of_unannounced {m : Overview}
    (hname : name ∈ (Interface.announced .manager).unannounced) : m.properties.get? name = none := by
  rw [List.mem_singleton.1 hname]
  simp [Properties.get?_eq_none_iff, Overview.properties]

end LinkBus.Bus
