import LinkBus.Proofs.Chronicle.Basic
import LinkBus.Proofs.Device.Paths
import LinkBus.Proofs.Plan.Arrivals
import LinkBus.Proofs.Plan.Objects

/-!
# The objects on the bus follow the network

Every plan of a chronicle is in order, and carrying it out leaves exactly the objects of the devices
that the network shows at that moment. Each device is announced when it is registered, and taken
back when it is unregistered.
-/

namespace LinkBus

open BusStep

namespace Network

variable {filter : LinkFilter} {s old new : Network}

/-- The objects of all devices that a network shows. -/
def busObjects (s : Network) : Finset BusObject := s.devices.toFinset.biUnion Device.busObjects

/-- The objects of a network are those of its devices. -/
theorem mem_busObjects {o : BusObject} : o ∈ s.busObjects ↔ ∃ i, o ∈ objectsOf (s.device? i) := by
  simp only [busObjects, Finset.mem_biUnion, List.mem_toFinset]
  constructor
  · rintro ⟨d, hd, ho⟩
    refine ⟨d.index, ?_⟩
    rw [mem_devices_iff_device?.1 hd]
    exact ho
  · rintro ⟨i, ho⟩
    cases hd : s.device? i with
    | none =>
      rw [hd] at ho
      exact absurd ho (Finset.notMem_empty o)
    | some d =>
      rw [hd] at ho
      exact ⟨d, mem_devices_of_device? hd, ho⟩

/-- The objects of a network are those of any interfaces that include all that it shows. -/
theorem busObjects_eq_biUnion {indices : List UInt32}
    (h : ∀ i d, s.device? i = some d → i ∈ indices) :
    s.busObjects = indices.toFinset.biUnion fun i => objectsOf (s.device? i) := by
  ext o
  simp only [mem_busObjects, Finset.mem_biUnion, List.mem_toFinset]
  refine exists_congr fun i => (and_iff_right_of_imp fun ho => ?_).symm
  cases hd : s.device? i with
  | none =>
    rw [hd] at ho
    exact absurd ho (Finset.notMem_empty o)
  | some d => exact h i d hd

/-- An object of an interface ends in the number that the interface has in use. -/
theorem number?_of_mem_objectsOf {i : UInt32} {o : BusObject} (h : o ∈ objectsOf (s.device? i)) :
    s.numbering.number? i = some o.number := by
  cases hd : s.device? i with
  | none =>
    rw [hd] at h
    exact absurd h (Finset.notMem_empty o)
  | some d =>
    rw [hd] at h
    rw [number?_of_device? hd, Device.number_of_mem_busObjects h]

/-- The objects of all devices, in the order of their registration. -/
def introduced (s : Network) : List BusObject :=
  s.devices.flatMap fun d => (DeviceMemo.ofDevice d).objects

/-- An introduction registers the objects of all devices. -/
theorem introduce_eq (s : Network) : (BusMemo.introduce s).2 = s.introduced.map .register := by
  rw [introduced, List.map_flatMap]
  rfl

/-- The introduced objects are those of the devices. -/
theorem mem_introduced {o : BusObject} :
    o ∈ s.introduced ↔ ∃ d ∈ s.devices, o ∈ d.busObjects := by
  rw [introduced, List.mem_flatMap]
  exact exists_congr fun d => and_congr_right fun hd =>
    DeviceMemo.mem_objects (wellFormed_of_device? (mem_devices_iff_device?.1 hd))

/-- Two devices that have objects of one number are the same. -/
theorem device_eq_of_number_eq (h : s.Consistent filter) {d e : Device} {o p : BusObject}
    (hd : d ∈ s.devices) (he : e ∈ s.devices) (ho : o ∈ d.busObjects) (hp : p ∈ e.busObjects)
    (hnumber : o.number = p.number) : d = e := by
  rw [mem_devices_iff_device?] at hd he
  have hindex : d.index = e.index := by
    refine h.sound.number?_inj (number?_of_device? hd) ?_
    rw [number?_of_device? he, ← Device.number_of_mem_busObjects ho,
      ← Device.number_of_mem_busObjects hp, hnumber]
  rw [hindex, he] at hd
  exact (Option.some.inj hd).symm

/-- No object is introduced twice. -/
theorem nodup_introduced (h : s.Consistent filter) : s.introduced.Nodup := by
  have hdistinct : s.devices.Nodup := by
    apply List.Nodup.of_map Device.index
    rw [s.map_index_devices]
    exact h.nodup_shown
  rw [introduced, List.nodup_flatMap]
  refine ⟨fun d _ => DeviceMemo.nodup_objects _, hdistinct.imp_of_mem ?_⟩
  intro d e hd he hne o hod hoe
  rw [DeviceMemo.mem_objects (wellFormed_of_device? (mem_devices_iff_device?.1 hd))] at hod
  rw [DeviceMemo.mem_objects (wellFormed_of_device? (mem_devices_iff_device?.1 he))] at hoe
  exact hne (device_eq_of_number_eq h hd he hod hoe rfl)

/-- An introduction registers the objects of the network. -/
theorem performAll?_introduce (h : s.Consistent filter) :
    performAll? ∅ (BusMemo.introduce s).2 = some s.busObjects := by
  rw [introduce_eq, performAll?_register (nodup_introduced h) fun o _ => Finset.notMem_empty o,
    Finset.empty_union]
  congr 1
  ext o
  simp only [List.mem_toFinset, mem_introduced, busObjects, Finset.mem_biUnion]

/-- The signals about the overview are about objects that are always there. -/
theorem performAll?_overviewBlock (old new : Network) (objects : Finset BusObject) :
    performAll? objects (old.overviewBlock new) = some objects := by
  apply performAll?_signals
  intro step hstep
  rcases OverviewMemo.mem_change.1 hstep with hstep | ⟨_, rfl⟩ | hstep
  · obtain ⟨_, rfl⟩ := DeviceMemo.mem_propertySignal.1 hstep
    exact ⟨_, rfl, Or.inl rfl⟩
  · exact ⟨_, rfl, Or.inl rfl⟩
  · obtain ⟨_, rfl⟩ := DeviceMemo.mem_propertySignal.1 hstep
    exact ⟨_, rfl, Or.inr (Or.inl rfl)⟩

/-- The blocks of all interfaces lead from the objects of one network to those of the next. -/
theorem performAll?_blocks (h : Succession filter old new) {indices : List UInt32}
    (hnodup : indices.Nodup)
    (hmem : ∀ i, i ∈ indices ↔ (∃ d, old.device? i = some d) ∨ ∃ d, new.device? i = some d) :
    performAll? old.busObjects (indices.flatMap (old.block new)) = some new.busObjects := by
  have huses : ∀ i o, o ∈ objectsOf (old.device? i) ∪ objectsOf (new.device? i) →
      old.Uses new i o.number := by
    intro i o ho
    exact (Finset.mem_union.1 ho).imp number?_of_mem_objectsOf number?_of_mem_objectsOf
  have hold := busObjects_eq_biUnion fun i d hd => (hmem i).2 (Or.inl ⟨d, hd⟩)
  have hnew := busObjects_eq_biUnion fun i d hd => (hmem i).2 (Or.inr ⟨d, hd⟩)
  have hapart : ∀ i j, i ≠ j → Disjoint
      (objectsOf (old.device? i) ∪ objectsOf (new.device? i))
      (objectsOf (old.device? j) ∪ objectsOf (new.device? j)) := by
    intro i j hne
    rw [Finset.disjoint_left]
    intro o hi hj
    exact hne (h.uses_inj (huses i o hi) (huses j o hj))
  have hown : ∀ i ∈ indices, objectsOf (old.device? i) ⊆ old.busObjects :=
    fun i _ o ho => mem_busObjects.2 ⟨i, ho⟩
  have hfresh : ∀ i ∈ indices, ∀ o ∈ objectsOf (new.device? i), o ∈ old.busObjects →
      o ∈ objectsOf (old.device? i) := by
    intro i _ o ho hobject
    obtain ⟨j, hj⟩ := mem_busObjects.1 hobject
    have hsame : i = j := h.uses_inj (huses i o (Finset.mem_union_right _ ho))
      (huses j o (Finset.mem_union_left _ hj))
    rwa [hsame]
  have hblocks : performAll? old.busObjects (indices.flatMap (old.block new)) = _ :=
    performAll?_flatMap (fun _ _ => wellFormed_of_device?) (fun _ _ => wellFormed_of_device?)
      hapart hnodup hown hfresh
  rw [hblocks, ← hold, ← hnew, Finset.sdiff_self, Finset.empty_union]

end Network

namespace Chronicle

variable {filter : LinkFilter} {c : Chronicle}

namespace Faithful

/-- A plan leads from the objects of the announced network to those of the network of the
moment. -/
theorem performAll?_nextSteps (h : c.Faithful filter) :
    performAll? c.announced.busObjects c.nextSteps = some c.network.busObjects := by
  cases hchanged : c.pending.isEmpty with
  | true => rw [nextSteps_of_isEmpty hchanged, performAll?_nil, h.network_eq hchanged]
  | false =>
    obtain ⟨indices, hnodup, hmem, hsteps⟩ := h.nextSteps_eq hchanged
    rw [hsteps, performAll?_append, Network.performAll?_blocks h.succession hnodup hmem,
      Option.bind_some, Network.performAll?_overviewBlock]

/-- A plan announces the devices that it registers, each at most once. -/
theorem announces_nextSteps (h : c.Faithful filter) :
    Announces c.nextSteps ∧ (c.nextSteps.filterMap registeredDevice?).Nodup ∧
      (c.nextSteps.filterMap unregisteredDevice?).Nodup := by
  cases hchanged : c.pending.isEmpty with
  | true =>
    rw [nextSteps_of_isEmpty hchanged]
    exact ⟨⟨rfl, rfl, rfl, rfl⟩, List.nodup_nil, List.nodup_nil⟩
  | false =>
    obtain ⟨indices, hnodup, _, hsteps⟩ := h.nextSteps_eq hchanged
    have hblock := c.announced.announces_block c.network
    have hquiet : ∀ step ∈ c.announced.overviewBlock c.network, step.IsQuiet :=
      fun _ => OverviewMemo.isQuiet_change
    obtain ⟨hnone, hnone', _⟩ := filterMap_of_isQuiet hquiet
    have hone : ∀ {l : List Nat} {number : Option Nat}, l ∈ [[], number.toList] →
        l.Nodup ∧ ∀ n ∈ l, number = some n := by
      intro l number hl
      simp only [List.mem_cons, List.not_mem_nil, or_false] at hl
      rcases hl with rfl | rfl
      · simp
      · cases number <;> simp
    rw [hsteps]
    refine ⟨(Announces.flatMap (fun i => (hblock i).1) indices).append (.of_isQuiet hquiet),
      ?_, ?_⟩
    · rw [List.filterMap_append, hnone, List.append_nil, List.filterMap_flatMap]
      exact h.succession.nodup_flatMap (r := Eq) (fun _ _ _ hm hn => hm.symm.trans hn)
        (fun i => (hone (hblock i).2.1).1)
        (fun i n hn => ⟨n, rfl, Or.inr ((hone (hblock i).2.1).2 n hn)⟩) hnodup
    · rw [List.filterMap_append, hnone', List.append_nil, List.filterMap_flatMap]
      exact h.succession.nodup_flatMap (r := Eq) (fun _ _ _ hm hn => hm.symm.trans hn)
        (fun i => (hone (hblock i).2.2).1)
        (fun i n hn => ⟨n, rfl, Or.inl ((hone (hblock i).2.2).2 n hn)⟩) hnodup

end Faithful

/-- What is carried out since the introduction leads to the objects of the announced network. -/
theorem performAll?_steps (filter : LinkFilter) (setup : List Update) (actions : List Action) :
    performAll? ∅ (ofRun filter setup actions).steps =
      some (ofRun filter setup actions).announced.busObjects := by
  refine ofRun_induction (motive := fun c => performAll? ∅ c.steps = some c.announced.busObjects)
    filter ?_ ?_ setup actions
  · intro s hs
    have hintroduce := Network.performAll?_introduce hs
    simpa [start, steps, announced] using hintroduce
  · intro c a hfaithful hc
    cases a with
    | update u => exact hc
    | plan =>
      rw [steps_plan, performAll?_append, hc, Option.bind_some, announced_plan]
      exact hfaithful.performAll?_nextSteps

/-- In every chronicle of a network, all steps since the introduction are in order: none registers
an object that is registered, unregisters one that is not, or sends a signal about an object that is
not there. They leave exactly the objects of the announced network, and the next plan leaves exactly
those of the network of the moment. It announces the devices that it registers, and takes back those
that it unregisters, with the settings of their connections, and no device twice. -/
theorem objects_follow_network (filter : LinkFilter) (setup : List Update)
    (actions : List Action) :
    let c := ofRun filter setup actions
    performAll? ∅ c.steps = some c.announced.busObjects ∧
      performAll? ∅ (c.steps ++ c.nextSteps) = some c.network.busObjects ∧
      Announces c.nextSteps ∧
      (c.nextSteps.filterMap addedDevice?).Nodup ∧
      (c.nextSteps.filterMap addedConnection?).Nodup ∧
      (c.nextSteps.filterMap removedDevice?).Nodup ∧
      (c.nextSteps.filterMap removedConnection?).Nodup := by
  intro c
  have hsteps := performAll?_steps filter setup actions
  have hfaithful := Faithful.ofRun filter setup actions
  obtain ⟨hannounces, hregistered, hunregistered⟩ := hfaithful.announces_nextSteps
  have hpath : ∀ kind : PathKind, Function.Injective kind.path :=
    fun kind m n heq => (PathKind.path_inj.1 heq).2
  refine ⟨hsteps, ?_, hannounces, ?_, ?_, ?_, ?_⟩
  · rw [performAll?_append, hsteps, Option.bind_some]
    exact hfaithful.performAll?_nextSteps
  · rw [hannounces.added]
    exact hregistered.map (hpath .device)
  · rw [hannounces.addedConnection]
    exact hregistered.map (hpath .settings)
  · rw [hannounces.removed]
    exact hunregistered.map (hpath .device)
  · rw [hannounces.removedConnection]
    exact hunregistered.map (hpath .settings)

end Chronicle

end LinkBus
