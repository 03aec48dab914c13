import LinkBus.Proofs.Bus.Calls
import LinkBus.Proofs.Device.Spelling
import LinkBus.Proofs.Numbering.Course
import Mathlib.Data.List.Nodup

/-!
# Look-ups and listings

A device can be asked for by any of its paths, by its number, and by the name of its interface. If
no two links have the same name, each of these leads to the listed device that it belongs to, and to
nothing if there is none. Different devices have no path in common. Clients that ask for a name get
the path of a listed device; otherwise they learn whether the name could not be one or is that of no
device.
-/

namespace LinkBus

namespace Network

/-- No two links have the same name. -/
def NamesDiffer (s : Network) : Prop := (s.inventory.links.values.map Link.name).Nodup

/-- Names can be compared one by one. -/
instance (s : Network) : Decidable s.NamesDiffer := by
  unfold NamesDiffer
  infer_instance

/-! ## By number and path -/

/-- The paths of a listed device end in the number of its interface. -/
theorem number?_of_mem_devices {s : Network} {d : Device} (hd : d ∈ s.devices) :
    s.numbering.number? d.index = some d.paths.number ∧
      ∀ kind, d.paths.ofKind kind = PathKind.path kind d.paths.number := by
  obtain ⟨number, hnumber, hpaths⟩ := paths_of_device (mem_devices.1 hd)
  rw [hpaths]
  exact ⟨hnumber, fun kind => ObjectPaths.ofKind_ofNumber number kind⟩

/-- A number leads to a device, or it is reported that there is none with this number. -/
theorem deviceNumbered_cases (s : Network) (number : Nat) :
    (∃ d, s.deviceNumbered number = .ok d) ∨
      s.deviceNumbered number = .error (.number number) := by
  unfold deviceNumbered
  split
  · next i hi => exact .inl (exists_device_iff.2 (Option.filter_eq_some_iff.1 hi).2)
  · exact .inr rfl

/-- A name leads to a device, or it is reported that there is none of this name. -/
theorem deviceNamed_cases (s : Network) (name : String) :
    (∃ d, s.deviceNamed name = .ok d) ∨ s.deviceNamed name = .error (.interface name) := by
  unfold deviceNamed
  split
  · next i hi => exact .inl (exists_device_iff.2 (Option.filter_eq_some_iff.1 hi).2)
  · exact .inr rfl

namespace Consistent

variable {filter : LinkFilter} {s : Network}

/-- A number of no listed device leads to nothing. -/
theorem deviceNumbered_of_unlisted (h : s.Consistent filter) {number : Nat}
    (hnone : ∀ d ∈ s.devices, d.paths.number ≠ number) :
    s.deviceNumbered number = .error (.number number) := by
  refine (s.deviceNumbered_cases number).resolve_left ?_
  rintro ⟨d, hd⟩
  obtain ⟨hlisted, hnumber⟩ := h.deviceNumbered_eq_ok_iff.1 hd
  exact hnone d hlisted hnumber

/-- A number that is parked is not in use. -/
theorem number?_ne_of_parks (h : s.Consistent filter) {i : UInt32} {number : Nat}
    (hparks : s.numbering.Parks i number) (j : UInt32) : s.numbering.number? j ≠ some number := by
  intro hj
  obtain ⟨a, ha, hnumber, hparked⟩ := hparks
  obtain ⟨b, hb, hinUse, hsame⟩ := Numbering.number?_eq_some_iff.1 hj
  obtain rfl : i = j := h.sound.unique ha hb (hnumber.trans hsame.symm)
  obtain rfl : a = b := Option.some.inj (ha.symm.trans hb)
  simp [Holding.inUse, hinUse] at hparked

/-- Each path of a listed device leads to it. -/
theorem deviceAt_ofKind (h : s.Consistent filter) {d : Device} (hd : d ∈ s.devices)
    (hbound : d.paths.number < numberBound) (kind : PathKind) :
    s.deviceAt (d.paths.ofKind kind) = .ok d := by
  rw [deviceAt, (number?_of_mem_devices hd).2 kind, numberOfPath?_path hbound]
  exact h.deviceNumbered_eq_ok_iff.2 ⟨hd, rfl⟩

/-- Listed devices with a path in common are the same. -/
theorem eq_of_ofKind_eq (h : s.Consistent filter) {d e : Device} (hd : d ∈ s.devices)
    (he : e ∈ s.devices) {kind kind' : PathKind}
    (hpath : d.paths.ofKind kind = e.paths.ofKind kind') : d = e := by
  obtain ⟨hnumber, hpaths⟩ := number?_of_mem_devices hd
  obtain ⟨hnumber', hpaths'⟩ := number?_of_mem_devices he
  rw [hpaths, hpaths', PathKind.path_inj] at hpath
  rw [← hpath.2] at hnumber'
  have hdevice := mem_devices.1 hd
  rw [h.sound.number?_inj hnumber hnumber', mem_devices.1 he] at hdevice
  exact (Except.ok.inj hdevice).symm

/-- A number that is parked, or that no interface holds, is that of no listed device. -/
theorem number_ne_of_unused (h : s.Consistent filter) {number : Nat}
    (hunused : (∃ i, s.numbering.Parks i number) ∨ ∀ i, ¬ s.numbering.Holds i number)
    {d : Device} (hd : d ∈ s.devices) : d.paths.number ≠ number := by
  rintro rfl
  have hinUse := (number?_of_mem_devices hd).1
  rcases hunused with ⟨i, hparks⟩ | hfree
  · exact h.number?_ne_of_parks hparks d.index hinUse
  · obtain ⟨a, ha, _, hnumber⟩ := Numbering.number?_eq_some_iff.1 hinUse
    exact hfree d.index ⟨a, ha, hnumber⟩

/-! ## By name -/

/-- Where names differ, a name leads to the link that has it. -/
theorem linkNamed?_eq_some_iff (h : s.Consistent filter) (hnames : s.NamesDiffer) {name : String}
    {l : Link} :
    s.inventory.linkNamed? name = some l ↔
      s.inventory.link? l.index = some l ∧ l.name = name := by
  rw [← h.wellFormed.mem_values_links]
  constructor
  · intro hfound
    have hname := List.find?_some hfound
    exact ⟨List.mem_of_find?_eq_some hfound, beq_iff_eq.1 hname⟩
  · rintro ⟨hl, rfl⟩
    cases hfound : s.inventory.linkNamed? l.name with
    | none => exact absurd (beq_iff_eq.2 rfl) (List.find?_eq_none.1 hfound l hl)
    | some m =>
      have hname := List.find?_some hfound
      have hm := List.mem_of_find?_eq_some hfound
      rw [List.inj_on_of_nodup_map hnames hm hl (beq_iff_eq.1 hname)]

/-- Where names differ, a name leads to the listed device that has it. -/
theorem deviceNamed_eq_ok_iff (h : s.Consistent filter) (hnames : s.NamesDiffer) {name : String}
    {d : Device} : s.deviceNamed name = .ok d ↔ d ∈ s.devices ∧ d.interface = name := by
  have hlookup : ∀ i, ((s.inventory.linkNamed? name).map Link.index).filter s.shows = some i ↔
      s.shows i = true ∧ ∃ l, s.inventory.link? i = some l ∧ l.name = name := by
    intro i
    rw [Option.filter_eq_some_iff, Option.map_eq_some_iff, and_comm]
    refine and_congr_right fun _ => ⟨?_, ?_⟩
    · rintro ⟨l, hl, rfl⟩
      exact ⟨l, (h.linkNamed?_eq_some_iff hnames).1 hl⟩
    · rintro ⟨l, hl, hname⟩
      have hindex := h.wellFormed.link_index hl
      exact ⟨l, (h.linkNamed?_eq_some_iff hnames).2 ⟨by rwa [hindex], hname⟩, hindex⟩
  rw [mem_devices]
  constructor
  · intro hd
    unfold deviceNamed at hd
    split at hd
    · next i hi =>
      obtain ⟨_, l, hl, hname⟩ := (hlookup i).1 hi
      rw [index_of_device hd]
      obtain ⟨_, link, number, hlink, _, rfl⟩ := device_eq_ok_iff.1 hd
      rw [hlink, Option.some.injEq] at hl
      exact ⟨hd, hl ▸ hname⟩
    · cases hd
  · rintro ⟨hd, rfl⟩
    obtain ⟨_, link, number, hlink, _, hmade⟩ := device_eq_ok_iff.1 hd
    have hname : link.name = d.interface := by rw [← hmade]; rfl
    have hfound := (hlookup d.index).2 ⟨exists_device_iff.1 ⟨d, hd⟩, link, hlink, hname⟩
    rw [deviceNamed, hfound]
    exact hd

end Consistent

end Network

namespace Bus

/-! ## What clients are told -/

/-- What the manager answers to a client that asks for the device of a name. -/
def askedFor (t : Tree) (c : Context) (control : LinkSwitch) (name : String) :
    Except BusError Body :=
  (t.call c control managerPath PropertyInterface.manager.name "GetDeviceByIpIface"
    [.text name]).result

/-- The name is checked before it is looked for. -/
theorem askedFor_eq (t : Tree) (c : Context) (control : LinkSwitch) (name : String) :
    askedFor t c control name =
      ((acceptInterfaceName name).mapError Failure.toBusError).bind fun _ =>
        ((c.network.deviceNamed name).mapError fun fault => fault.toFailure.toBusError).map
          fun d => [.path d.paths.device] := by
  rw [askedFor, Tree.call_manager]
  change (Outcome.ofFailable (acceptInterfaceName name) >>= fun _ =>
    Outcome.ofFailable ((c.network.deviceNamed name).mapError LookupFault.toFailure) >>= fun d =>
      pure [Value.path d.paths.device]).result = _
  rw [Outcome.result_bind]
  cases acceptInterfaceName name with
  | error failure => rfl
  | ok _ => cases c.network.deviceNamed name <;> rfl

/-- A refused name is reported as an invalid argument. -/
theorem toBusError_of_acceptInterfaceName {name : String} {failure : Failure}
    (h : acceptInterfaceName name = .error failure) :
    ∃ text, failure.toBusError = ⟨.invalidArgs, text⟩ := by
  unfold acceptInterfaceName at h
  cases hcheck : checkInterfaceName name with
  | ok _ =>
    rw [hcheck] at h
    cases h
  | error fault =>
    rw [hcheck] at h
    cases h
    exact ⟨fault.message, rfl⟩

section Asked

variable {filter : LinkFilter} {c : Context} (h : c.network.Consistent filter)
  (hnames : c.network.NamesDiffer) (t : Tree) (control : LinkSwitch) (name : String)
include h hnames

/-- A client that asks for a name has given a bad one, gets the path of the listed device that has
it, or learns that there is none. -/
theorem askedFor_cases :
    (∃ failure text, acceptInterfaceName name = .error failure ∧
        askedFor t c control name = .error ⟨.invalidArgs, text⟩) ∨
      (acceptInterfaceName name = .ok () ∧ ∃ d ∈ c.network.devices, d.interface = name ∧
        askedFor t c control name = .ok [.path d.paths.device]) ∨
      (acceptInterfaceName name = .ok () ∧ (∀ d ∈ c.network.devices, d.interface ≠ name) ∧
        ∃ text, askedFor t c control name = .error ⟨.unknownObject, text⟩) := by
  rw [askedFor_eq]
  cases haccept : acceptInterfaceName name with
  | error failure =>
    obtain ⟨text, htext⟩ := toBusError_of_acceptInterfaceName haccept
    exact .inl ⟨failure, text, rfl, congrArg Except.error htext⟩
  | ok _ =>
    right
    rcases c.network.deviceNamed_cases name with ⟨d, hd⟩ | hnone
    · obtain ⟨hlisted, hname⟩ := (h.deviceNamed_eq_ok_iff hnames).1 hd
      exact .inl ⟨rfl, d, hlisted, hname, by rw [hd]; rfl⟩
    · refine .inr ⟨rfl, fun d hd hname => ?_, s!"no device for interface {name}", ?_⟩
      · rw [(h.deviceNamed_eq_ok_iff hnames).2 ⟨hd, hname⟩] at hnone
        cases hnone
      · rw [hnone]
        rfl

/-- A client that asks for an accepted name of a listed device gets the path of this device, and no
other client gets one. -/
theorem askedFor_eq_ok_iff (body : Body) :
    askedFor t c control name = .ok body ↔
      acceptInterfaceName name = .ok () ∧
        ∃ d ∈ c.network.devices, d.interface = name ∧ body = [.path d.paths.device] := by
  constructor
  · intro hok
    rcases askedFor_cases h hnames t control name with ⟨_, _, _, hresult⟩ |
      ⟨haccept, d, hd, hname, hresult⟩ | ⟨_, _, _, hresult⟩
    · cases hresult.symm.trans hok
    · exact ⟨haccept, d, hd, hname, (Except.ok.inj (hresult.symm.trans hok)).symm⟩
    · cases hresult.symm.trans hok
  · rintro ⟨haccept, d, hd, hname, rfl⟩
    rw [askedFor_eq, haccept, (h.deviceNamed_eq_ok_iff hnames).2 ⟨hd, hname⟩]
    rfl

/-- A name is called an invalid argument exactly if it is refused. -/
theorem askedFor_invalidArgs_iff :
    (∃ text, askedFor t c control name = .error ⟨.invalidArgs, text⟩) ↔
      ∃ failure, acceptInterfaceName name = .error failure := by
  rcases askedFor_cases h hnames t control name with ⟨failure, text, hrefused, hresult⟩ |
    ⟨haccept, _, _, _, hresult⟩ | ⟨haccept, _, _, hresult⟩
  · exact iff_of_true ⟨text, hresult⟩ ⟨failure, hrefused⟩
  · rw [hresult, haccept]
    simp
  · rw [hresult, haccept]
    simp

/-- An accepted name is called unknown exactly if no listed device has it. -/
theorem askedFor_unknownObject_iff (haccept : acceptInterfaceName name = .ok ()) :
    (∃ text, askedFor t c control name = .error ⟨.unknownObject, text⟩) ↔
      ∀ d ∈ c.network.devices, d.interface ≠ name := by
  rcases askedFor_cases h hnames t control name with ⟨_, _, hrefused, _⟩ |
    ⟨_, d, hd, hname, hresult⟩ | ⟨_, hnone, text, hresult⟩
  · cases hrefused.symm.trans haccept
  · exact iff_of_false (fun ⟨_, herror⟩ => nomatch hresult.symm.trans herror)
      fun hnone => hnone d hd hname
  · exact iff_of_true ⟨text, hresult⟩ hnone

end Asked

/-- What is found in a network goes with what it lists. `ask` is the reply of the manager to a call
of one of its methods. -/
structure FindsListed (s : Network) (ask : String → Body → Except BusError Body) : Prop where
  /-- Each path of a listed device whose number has at most 64 bits leads to it. -/
  at_path : ∀ d ∈ s.devices, d.paths.number < numberBound →
    ∀ kind, s.deviceAt (d.paths.ofKind kind) = .ok d
  /-- Different devices have no path in common. -/
  paths_apart : ∀ d ∈ s.devices, ∀ e ∈ s.devices, d ≠ e →
    ∀ kind kind', d.paths.ofKind kind ≠ e.paths.ofKind kind'
  /-- A number leads to the listed device that has it. -/
  numbered : ∀ number d,
    s.deviceNumbered number = .ok d ↔ d ∈ s.devices ∧ d.paths.number = number
  /-- A number of no listed device is not found. -/
  not_numbered : ∀ number, (∀ d ∈ s.devices, d.paths.number ≠ number) →
    (s.deviceNumbered number).mapError LookupFault.toFailure =
      .error (.notFound s!"no device with suffix {number}")
  /-- A number that is parked, or that no interface holds, is that of no listed device. -/
  unused : ∀ number, (∃ i, s.numbering.Parks i number) ∨ (∀ i, ¬ s.numbering.Holds i number) →
    ∀ d ∈ s.devices, d.paths.number ≠ number
  /-- A name leads to the listed device whose interface has it. -/
  named : ∀ name d, s.deviceNamed name = .ok d ↔ d ∈ s.devices ∧ d.interface = name
  /-- The manager lists the devices. -/
  lists : ask "GetDevices" [] = .ok [.paths (s.devices.map fun d => d.paths.device)]
  /-- A client that asks for a name gets the path of the listed device that has it. -/
  answered : ∀ name body, ask "GetDeviceByIpIface" [.text name] = .ok body ↔
    acceptInterfaceName name = .ok () ∧
      ∃ d ∈ s.devices, d.interface = name ∧ body = [.path d.paths.device]
  /-- A name is called an invalid argument exactly if it is refused. -/
  invalid : ∀ name, (∃ text, ask "GetDeviceByIpIface" [.text name] = .error ⟨.invalidArgs, text⟩) ↔
    ∃ failure, acceptInterfaceName name = .error failure
  /-- An accepted name is called unknown exactly if no listed device has it. -/
  unknown : ∀ name, acceptInterfaceName name = .ok () →
    ((∃ text, ask "GetDeviceByIpIface" [.text name] = .error ⟨.unknownObject, text⟩) ↔
      ∀ d ∈ s.devices, d.interface ≠ name)

/-- After any run of updates from a network that knows nothing after which no two links have the
same name, whatever is looked up is found if and only if it is listed, and clients are told so. -/
theorem lookups_find_listed (filter : LinkFilter) (updates : List Update) (t : Tree)
    (control : LinkSwitch) (hostname : Option (List UInt8)) (resolv : List (Option (List UInt8)))
    (hnames : ((Network.empty filter).updateAll updates).NamesDiffer) :
    let s := (Network.empty filter).updateAll updates
    FindsListed s fun member arguments =>
      (t.call ⟨s, hostname, resolv⟩ control managerPath PropertyInterface.manager.name member
        arguments).result := by
  intro s
  have h : s.Consistent filter := (Network.consistent_empty filter).updateAll updates
  let c : Context := ⟨s, hostname, resolv⟩
  exact
    { at_path := fun d hd => h.deviceAt_ofKind hd
      paths_apart := fun d hd e he hne kind kind' hpath => hne (h.eq_of_ofKind_eq hd he hpath)
      numbered := fun number d => h.deviceNumbered_eq_ok_iff
      not_numbered := fun number hnone => by
        rw [h.deviceNumbered_of_unlisted hnone]
        rfl
      unused := fun number hunused d hd => h.number_ne_of_unused hunused hd
      named := fun name d => h.deviceNamed_eq_ok_iff hnames
      lists := by
        rw [Tree.call_manager]
        rfl
      answered := askedFor_eq_ok_iff (c := c) h hnames t control
      invalid := askedFor_invalidArgs_iff (c := c) h hnames t control
      unknown := askedFor_unknownObject_iff (c := c) h hnames t control }

/-- Look-ups find the one listed device, under its new name, beside a loopback, a tunnel and a
number that is parked. -/
theorem lookups_find_listed_renamed :
    let links := [
      Event.newLink { index := 1, name := some "lo", layerType := 772, flags := 0x10009 },
      .newLink { index := 2, name := some "eth0", layerType := 1, flags := 0x10003 },
      .newLink { index := 3, name := some "eth1", layerType := 1, flags := 0x10003 },
      .newLink { index := 5, name := some "wg0", layerType := 0xfffe, kind := some "wireguard" }]
    let changes := [Event.delLink { index := 3 },
      .newLink { index := 2, name := some "lan0", layerType := 1, flags := 0x10003 }]
    let s := (Network.empty {}).updateAll [.hear links 0 500, .hear changes 10 500]
    (s.NamesDiffer ∧ s.devices.map (fun d => (d.interface, d.paths.number)) = [("lan0", 1)] ∧
      s.numbering.Parks 3 2) ∧
      FindsListed s fun member arguments =>
        (({} : Tree).call ⟨s, none, []⟩ (fun _ => .ok ()) managerPath PropertyInterface.manager.name
          member arguments).result := by
  intro links changes s
  have hnames : s.NamesDiffer := by decide
  have hparks : s.numbering.Parks 3 2 :=
    ⟨{ number := 2, name := "eth1", parkedUntil := some 510 }, by decide, rfl, rfl⟩
  exact ⟨⟨hnames, by decide, hparks⟩, lookups_find_listed {} _ {} (fun _ => .ok ()) none [] hnames⟩

end Bus

end LinkBus
