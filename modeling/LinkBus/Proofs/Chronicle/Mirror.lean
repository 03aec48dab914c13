import LinkBus.Proofs.Chronicle.Objects
import LinkBus.Proofs.Plan.Differences

/-!
# Clients keep up

A client that reads the properties of each object when it is registered, and from then on only hears
what plans announce, knows after every plan what all objects show at that moment. Nothing is
announced that it knew before.
-/

namespace LinkBus

/-- What a client knows: the properties of interfaces at paths. -/
abbrev Mirror := String → PropertyInterface → Option Properties

namespace Mirror

/-- A client begins with the properties of the manager and of the settings object. -/
def opened (s : Network) : Mirror := fun path interface =>
  if path = managerPath ∧ interface = .manager then some s.overview.properties
  else if path = settingsPath ∧ interface = .settings then some s.overview.connectionsProperty
  else none

/-- A client follows a plan as it is carried out. -/
def follow (m : Mirror) (a : Announcement) : Mirror := fun path interface =>
  perceiveAll a.network path interface (m path interface) a.steps

/-- A client knows what the manager, the settings object and the objects of all devices show. -/
structure Agrees (m : Mirror) (s : Network) : Prop where
  /-- It knows the properties of the manager. -/
  manager : m managerPath .manager = some s.overview.properties
  /-- It knows the properties of the settings object. -/
  settings : m settingsPath .settings = some s.overview.connectionsProperty
  /-- It knows the properties of every object of a device. -/
  object : ∀ d ∈ s.devices, ∀ o ∈ d.busObjects, ∀ interface,
    m o.path interface = d.face o.role interface

end Mirror

namespace Network

variable {filter : LinkFilter} {s old new : Network} {path : String}
  {interface : PropertyInterface} {known : Option Properties}

/-- The signals about the overview touch no object of a device. -/
theorem spares_overviewBlock {kind : PathKind} {number : Nat} {step : BusStep}
    (h : step ∈ old.overviewBlock new) : step.Spares s (kind.path number) interface := by
  rcases OverviewMemo.mem_change.1 h with h | ⟨_, rfl⟩ | h
  · exact spares_propertySignal h fun heq => PathKind.path_ne_managerPath _ _ heq.1.symm
  · exact fun _ => rfl
  · exact spares_propertySignal h fun heq => PathKind.path_ne_settingsPath _ _ heq.1.symm

/-- Whoever knows the properties of the overview, and hears its signals, knows them as they are
now. -/
theorem perceiveAll_change {m n : OverviewMemo}
    (hproperties : Properties.SameNames m.properties n.properties)
    (hconnections : Properties.SameNames m.settings n.settings) :
    perceiveAll s managerPath .manager (some m.properties) (m.change n) =
        some n.properties ∧
      perceiveAll s settingsPath .settings (some m.settings) (m.change n) =
        some n.settings := by
  have hstate : ∀ {path interface}, ∀ step ∈ (if m.state = n.state then []
      else [BusStep.emit (.managerStateChanged n.state)]), step.Spares s path interface := by
    intro path interface step hstep
    obtain ⟨_, hstep⟩ := List.mem_ite_nil_left.1 hstep
    rw [List.mem_singleton.1 hstep]
    exact fun _ => rfl
  have hmanager : ∀ step ∈ DeviceMemo.propertySignal managerPath .manager m.properties
      n.properties, step.Spares s settingsPath .settings :=
    fun step hstep => spares_propertySignal hstep (by decide)
  have hsettings : ∀ step ∈ DeviceMemo.propertySignal settingsPath .settings m.settings
      n.settings, step.Spares s managerPath .manager :=
    fun step hstep => spares_propertySignal hstep (by decide)
  simp only [OverviewMemo.change, perceiveAll_append]
  constructor
  · rw [perceiveAll_propertySignal hproperties, perceiveAll_of_spares hstate,
      perceiveAll_of_spares hsettings]
  · rw [perceiveAll_of_spares hmanager, perceiveAll_of_spares hstate,
      perceiveAll_propertySignal hconnections]

/-- A client that hears an introduction knows all objects. -/
theorem agrees_introduce (h : s.Consistent filter) :
    ((Mirror.opened s).follow ⟨s, (BusMemo.introduce s).2⟩).Agrees s := by
  have hregister : ∀ {path interface}, (∀ (kind : PathKind) number, kind.path number ≠ path) →
      ∀ step ∈ (BusMemo.introduce s).2, step.Spares s path interface := by
    intro path interface hpath step hstep
    rw [introduce_eq] at hstep
    obtain ⟨o, _, rfl⟩ := List.mem_map.1 hstep
    exact spares_register (hpath _ _)
  refine ⟨?_, ?_, ?_⟩
  · exact perceiveAll_of_spares (hregister PathKind.path_ne_managerPath)
  · exact perceiveAll_of_spares (hregister PathKind.path_ne_settingsPath)
  · intro d hd o ho interface
    have hinj : ∀ p ∈ s.introduced, p.path = o.path → p = o := by
      intro p hp hpath
      obtain ⟨e, he, hp⟩ := mem_introduced.1 hp
      have hnumber : p.number = o.number := (PathKind.path_inj.1 hpath).2
      obtain rfl := device_eq_of_number_eq h he hd hp ho hnumber
      exact Device.path_inj ho hp hpath
    change perceiveAll s o.path interface _ (BusMemo.introduce s).2 = _
    rw [introduce_eq, perceiveAll_register (mem_introduced.2 ⟨d, hd, ho⟩) hinj]
    exact read_of_mem_busObjects h (mem_devices_iff_device?.1 hd) ho

/-- A client that knows all objects of a network, and follows the plan to the next, knows all
objects of that. -/
theorem agrees_transition (h : Succession filter old new) {m : Mirror} (hm : m.Agrees old)
    {indices : List UInt32} (hnodup : indices.Nodup)
    (hmem : ∀ i, i ∈ indices ↔ (∃ d, old.device? i = some d) ∨ ∃ d, new.device? i = some d) :
    (m.follow ⟨new, indices.flatMap (old.block new) ++ old.overviewBlock new⟩).Agrees new := by
  have hoverview := perceiveAll_change (s := new) (m := .ofOverview old.overview)
    (n := .ofOverview new.overview) (old.overview.sameNames_properties _)
    (old.overview.sameNames_connectionsProperty _)
  have hblocks : ∀ {path interface}, (∀ (kind : PathKind) number, kind.path number ≠ path) →
      ∀ step ∈ indices.flatMap (old.block new), step.Spares new path interface := by
    intro path interface hpath step hstep
    obtain ⟨i, _, hstep⟩ := List.mem_flatMap.1 hstep
    exact spares_block (fun kind number _ => hpath kind number) hstep
  refine ⟨?_, ?_, ?_⟩
  · rw [Mirror.follow, perceiveAll_append,
      perceiveAll_of_spares (hblocks PathKind.path_ne_managerPath), hm.manager]
    exact hoverview.1
  · rw [Mirror.follow, perceiveAll_append,
      perceiveAll_of_spares (hblocks PathKind.path_ne_settingsPath), hm.settings]
    exact hoverview.2
  · intro e he o ho interface
    rw [mem_devices_iff_device?] at he
    have hothers : ∀ j ∈ indices, j ≠ e.index → ∀ step ∈ old.block new j,
        step.Spares new o.path interface := by
      intro j _ hne step hstep
      refine spares_block (fun kind number huses hpath => hne ?_) hstep
      have hnumber : number = o.number := (PathKind.path_inj.1 hpath).2
      rw [hnumber, Device.number_of_mem_busObjects ho] at huses
      exact h.uses_inj huses (Or.inr (number?_of_device? he))
    have hspares : ∀ step ∈ old.overviewBlock new, step.Spares new o.path interface :=
      fun _ => spares_overviewBlock
    rw [Mirror.follow, perceiveAll_append,
      perceiveAll_flatMap ((hmem e.index).2 (Or.inr ⟨e, he⟩)) hnodup hothers,
      perceiveAll_block h.after he ho, perceiveAll_of_spares hspares]
    intro d hd hod
    exact hm.object d (mem_devices_of_device? hd) o hod interface

end Network

namespace Chronicle

variable {filter : LinkFilter} {c : Chronicle}

/-- What a client knows that has followed a chronicle from the introduction on. -/
def mirror (c : Chronicle) : Mirror :=
  c.plans.foldl Mirror.follow
    ((Mirror.opened c.origin).follow ⟨c.origin, (BusMemo.introduce c.origin).2⟩)

/-- A client follows every plan. -/
@[simp] theorem mirror_plan (c : Chronicle) :
    (c.act .plan).mirror = c.mirror.follow ⟨c.network, c.nextSteps⟩ := by
  simp [act, mirror]

namespace Faithful

/-- A client that knows all objects of the announced network, and follows the next plan, knows all
objects of the network of the moment. -/
theorem agrees_nextSteps (h : c.Faithful filter) {m : Mirror} (hm : m.Agrees c.announced) :
    (m.follow ⟨c.network, c.nextSteps⟩).Agrees c.network := by
  cases hchanged : c.pending.isEmpty with
  | true =>
    rw [nextSteps_of_isEmpty hchanged, h.network_eq hchanged]
    exact hm
  | false =>
    obtain ⟨indices, hnodup, hmem, hsteps⟩ := h.nextSteps_eq hchanged
    rw [hsteps]
    exact Network.agrees_transition h.succession hm hnodup hmem

/-- A plan announces of no interface twice that its properties changed. -/
theorem nodup_changedFaces (h : c.Faithful filter) :
    (c.nextSteps.filterMap BusStep.changedFace?).Nodup := by
  cases hchanged : c.pending.isEmpty with
  | true =>
    rw [nextSteps_of_isEmpty hchanged]
    exact List.nodup_nil
  | false =>
    obtain ⟨indices, hnodup, _, hsteps⟩ := h.nextSteps_eq hchanged
    obtain ⟨hoverview, hmain⟩ := OverviewMemo.changedFaces_change
      (.ofOverview c.announced.overview) (.ofOverview c.network.overview)
    rw [hsteps, List.filterMap_append, List.filterMap_flatMap, List.nodup_append]
    refine ⟨?_, hoverview, ?_⟩
    · refine h.succession.nodup_flatMap (r := fun k n => ∃ kind : PathKind, kind.path n = k.1)
        ?_ (Network.nodup_changedFaces_block _ _) (fun i k hk => ?_) hnodup
      · rintro k m n ⟨kind, hm⟩ ⟨kind', hn⟩
        exact (PathKind.path_inj.1 (hm.trans hn.symm)).2
      · obtain ⟨kind, number, huses, hpath⟩ := Network.path_of_mem_changedFaces hk
        exact ⟨number, ⟨kind, hpath⟩, huses⟩
    · intro k hk k' hk' heq
      subst heq
      obtain ⟨i, _, hk⟩ := List.mem_flatMap.1 hk
      obtain ⟨kind, number, _, hpath⟩ := Network.path_of_mem_changedFaces hk
      rcases hmain k hk' with hmanager | hsettings
      · exact PathKind.path_ne_managerPath kind number (hpath.trans hmanager)
      · exact PathKind.path_ne_settingsPath kind number (hpath.trans hsettings)

/-- What a plan announces to have changed is new to a client that knows the announced network. -/
theorem changed_is_new (h : c.Faithful filter) {m : Mirror} (hm : m.Agrees c.announced)
    {path : String} {interface : PropertyInterface} {changed : Properties}
    (hstep : .emit (.propertiesChanged path interface changed) ∈ c.nextSteps) :
    changed ≠ [] ∧ ∃ before, m path interface = some before ∧
      ∀ e ∈ changed, ∃ value, before.get? e.1 = some value ∧ value ≠ e.2 := by
  cases hchanged : c.pending.isEmpty with
  | true =>
    rw [nextSteps_of_isEmpty hchanged] at hstep
    cases hstep
  | false =>
    obtain ⟨indices, _, _, hsteps⟩ := h.nextSteps_eq hchanged
    rw [hsteps, List.mem_append] at hstep
    rcases hstep with hstep | hstep
    · obtain ⟨i, _, hstep⟩ := List.mem_flatMap.1 hstep
      obtain ⟨d, o, before, after, hd, ho, rfl, hbefore, hnames, rfl, hne⟩ :=
        Network.propertiesChanged_of_mem_block hstep
      refine ⟨hne, before, ?_, fun _ => Properties.exists_value_of_mem_difference hnames⟩
      rw [hm.object d (Network.mem_devices_of_device? hd) o ho, hbefore]
    · rcases OverviewMemo.mem_change.1 hstep with hstep | ⟨_, heq⟩ | hstep
      · obtain ⟨hne, heq⟩ := DeviceMemo.mem_propertySignal.1 hstep
        cases heq
        exact ⟨hne, _, hm.manager, fun _ => Properties.exists_value_of_mem_difference
          (c.announced.overview.sameNames_properties _)⟩
      · cases heq
      · obtain ⟨hne, heq⟩ := DeviceMemo.mem_propertySignal.1 hstep
        cases heq
        exact ⟨hne, _, hm.settings, fun _ => Properties.exists_value_of_mem_difference
          (c.announced.overview.sameNames_connectionsProperty _)⟩

/-- Nothing is planned exactly if all devices and the overview appear as announced. -/
theorem nextSteps_eq_nil_iff (h : c.Faithful filter) :
    c.nextSteps = [] ↔
      (∀ i, (c.network.device? i).map Device.appearance =
        (c.announced.device? i).map Device.appearance) ∧
      c.network.overview.properties = c.announced.overview.properties ∧
      c.network.overview.connectionsProperty = c.announced.overview.connectionsProperty := by
  cases hchanged : c.pending.isEmpty with
  | true =>
    rw [nextSteps_of_isEmpty hchanged, h.network_eq hchanged]
    exact iff_of_true rfl ⟨fun _ => rfl, rfl, rfl⟩
  | false =>
    obtain ⟨indices, _, hmem, hsteps⟩ := h.nextSteps_eq hchanged
    rw [hsteps, List.append_eq_nil_iff, List.flatMap_eq_nil_iff, Network.overviewBlock,
      OverviewMemo.change_eq_nil_iff]
    simp only [Network.block_eq_nil_iff]
    constructor
    · rintro ⟨hblocks, hproperties, hconnections⟩
      refine ⟨fun i => ?_, hproperties.symm, hconnections.symm⟩
      by_cases hi : i ∈ indices
      · exact (hblocks i hi).symm
      · simp only [hmem, not_or, not_exists, ← Option.eq_none_iff_forall_ne_some] at hi
        rw [hi.1, hi.2]
    · rintro ⟨hdevices, hproperties, hconnections⟩
      exact ⟨fun i _ => (hdevices i).symm, hproperties.symm, hconnections.symm⟩

end Faithful

/-- A client that has followed a chronicle knows all objects of the announced network. -/
theorem mirror_agrees (filter : LinkFilter) (setup : List Update) (actions : List Action) :
    (ofRun filter setup actions).mirror.Agrees (ofRun filter setup actions).announced := by
  refine ofRun_induction (motive := fun c => c.mirror.Agrees c.announced) filter ?_ ?_ setup actions
  · intro s hs
    exact Network.agrees_introduce hs
  · intro c a hfaithful hc
    cases a with
    | update u => exact hc
    | plan =>
      rw [mirror_plan, announced_plan]
      exact hfaithful.agrees_nextSteps hc

/-- In every chronicle of a network, a client that reads the properties of each object when it is
registered, and from then on only lays announced changes over them, knows what all objects of the
announced network show, and after the next plan what all objects of the network of the moment show.
The plan announces of no interface twice that its properties changed, and never without a change:
every property that it tells of had another value for the client. It has no step exactly if all
devices, with their numbers and all their properties, and the properties of the overview are as
announced. -/
theorem mirror_follows_network (filter : LinkFilter) (setup : List Update)
    (actions : List Action) :
    let c := ofRun filter setup actions
    c.mirror.Agrees c.announced ∧
      (c.mirror.follow ⟨c.network, c.nextSteps⟩).Agrees c.network ∧
      (c.nextSteps.filterMap BusStep.changedFace?).Nodup ∧
      (∀ path interface changed,
        .emit (.propertiesChanged path interface changed) ∈ c.nextSteps →
          changed ≠ [] ∧ ∃ before, c.mirror path interface = some before ∧
            ∀ e ∈ changed, ∃ value, before.get? e.1 = some value ∧ value ≠ e.2) ∧
      (c.nextSteps = [] ↔
        (∀ i, (c.network.device? i).map Device.appearance =
          (c.announced.device? i).map Device.appearance) ∧
        c.network.overview.properties = c.announced.overview.properties ∧
        c.network.overview.connectionsProperty = c.announced.overview.connectionsProperty) := by
  intro c
  have hfaithful := Faithful.ofRun filter setup actions
  have hmirror := mirror_agrees filter setup actions
  exact ⟨hmirror, hfaithful.agrees_nextSteps hmirror, hfaithful.nodup_changedFaces,
    fun _ _ _ => hfaithful.changed_is_new hmirror, hfaithful.nextSteps_eq_nil_iff⟩

end Chronicle

end LinkBus
