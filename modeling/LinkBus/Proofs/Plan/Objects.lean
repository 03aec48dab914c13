import LinkBus.Bus.Tree
import LinkBus.Proofs.Plan.Blocks
import Mathlib.Data.Finset.Union

/-!
# Carrying out a plan in order

A plan is in order if it registers no object that is registered, unregisters none that is not, and
sends no signal about an object that is not there. Carried out in order, the block of an interface
replaces the objects of its old device by those of its new one, and it announces the device and its
settings when they come and when they go.
-/

namespace LinkBus

/-! ## Steps in order -/

/-- The path and the interface of the object that a signal is about. -/
def Signal.subject : Signal → String × Bus.Interface
  | deviceAdded path => (path, .announced .device)
  | deviceRemoved path => (path, .announced .device)
  | newConnection path => (path, .settingsConnection)
  | connectionRemoved path => (path, .settingsConnection)
  | deviceStateChanged path _ _ _ => (path, .announced .device)
  | activeStateChanged path _ _ => (path, .announced .activeConnection)
  | managerStateChanged _ => (managerPath, .announced .manager)
  | propertiesChanged path interface _ => (path, .announced interface)

/-- An interface is served at a path: it is that of the manager, that of the settings object, or one
of a registered object. -/
def IsServed (objects : Finset BusObject) (subject : String × Bus.Interface) : Prop :=
  subject = (managerPath, .announced .manager) ∨ subject = (settingsPath, .announced .settings) ∨
    ∃ o ∈ objects, o.path = subject.1 ∧ subject.2 ∈ Bus.interfacesOf o.role

instance (objects : Finset BusObject) (subject : String × Bus.Interface) :
    Decidable (IsServed objects subject) :=
  inferInstanceAs (Decidable (_ ∨ _ ∨ _))

/-- The registered objects after a step; `none` if the step is out of order. -/
def BusStep.perform? (objects : Finset BusObject) : BusStep → Option (Finset BusObject)
  | register o => if o ∈ objects then none else some (insert o objects)
  | unregister o => if o ∈ objects then some (objects.erase o) else none
  | emit signal => if IsServed objects signal.subject then some objects else none

/-- The registered objects after steps; `none` if one of them is out of order. -/
def performAll? (objects : Finset BusObject) (steps : List BusStep) : Option (Finset BusObject) :=
  steps.foldlM BusStep.perform? objects

variable {objects : Finset BusObject}

/-- Without a step nothing changes. -/
@[simp] theorem performAll?_nil : performAll? objects [] = some objects := rfl

/-- The first step comes first. -/
@[simp] theorem performAll?_cons (step : BusStep) (rest : List BusStep) :
    performAll? objects (step :: rest) =
      (step.perform? objects).bind fun mid => performAll? mid rest := by
  rw [performAll?, List.foldlM_cons]
  rfl

/-- Steps are carried out one after the other. -/
theorem performAll?_append (first second : List BusStep) :
    performAll? objects (first ++ second) =
      (performAll? objects first).bind fun mid => performAll? mid second := by
  rw [performAll?, List.foldlM_append]
  rfl

/-- A registered object serves its interfaces. -/
theorem isServed_of_mem {o : BusObject} {i : Bus.Interface} (ho : o ∈ objects)
    (hi : i ∈ Bus.interfacesOf o.role) : IsServed objects (o.path, i) :=
  Or.inr (Or.inr ⟨o, ho, rfl, hi⟩)

/-- New objects can be registered one after the other. -/
theorem performAll?_register {os : List BusObject} (hnodup : os.Nodup)
    (hnew : ∀ o ∈ os, o ∉ objects) :
    performAll? objects (os.map .register) = some (objects ∪ os.toFinset) := by
  induction os generalizing objects with
  | nil => simp
  | cons o rest ih =>
    obtain ⟨ho, hrest⟩ := List.nodup_cons.1 hnodup
    have hnext : ∀ p ∈ rest, p ∉ insert o objects := by
      intro p hp
      have hne : p ≠ o := fun heq => ho (heq ▸ hp)
      simp [hne, hnew p (List.mem_cons_of_mem _ hp)]
    rw [List.map_cons, performAll?_cons, BusStep.perform?, if_neg (hnew o List.mem_cons_self),
      Option.bind_some, ih hrest hnext, List.toFinset_cons, Finset.insert_union,
      Finset.union_insert]

/-- Registered objects can be unregistered one after the other. -/
theorem performAll?_unregister {os : List BusObject} (hnodup : os.Nodup)
    (hmem : ∀ o ∈ os, o ∈ objects) :
    performAll? objects (os.map .unregister) = some (objects \ os.toFinset) := by
  induction os generalizing objects with
  | nil => simp
  | cons o rest ih =>
    obtain ⟨ho, hrest⟩ := List.nodup_cons.1 hnodup
    have hnext : ∀ p ∈ rest, p ∈ objects.erase o := by
      intro p hp
      have hne : p ≠ o := fun heq => ho (heq ▸ hp)
      exact Finset.mem_erase.2 ⟨hne, hmem p (List.mem_cons_of_mem _ hp)⟩
    rw [List.map_cons, performAll?_cons, BusStep.perform?, if_pos (hmem o List.mem_cons_self),
      Option.bind_some, ih hrest hnext, List.toFinset_cons, Finset.sdiff_insert,
      Finset.erase_sdiff_comm]

/-- Signals about objects that are there change nothing. -/
theorem performAll?_signals {steps : List BusStep}
    (h : ∀ step ∈ steps, ∃ signal, step = .emit signal ∧ IsServed objects signal.subject) :
    performAll? objects steps = some objects := by
  induction steps with
  | nil => rfl
  | cons step rest ih =>
    obtain ⟨signal, rfl, hserved⟩ := h step List.mem_cons_self
    rw [performAll?_cons, BusStep.perform?, if_pos hserved, Option.bind_some,
      ih fun other hother => h other (List.mem_cons_of_mem _ hother)]

/-! ## Blocks in order -/

/-- The objects of a device: the device itself with its medium, the settings of its connection, and
in a connected state its configurations and its connection. -/
def Device.busObjects (d : Device) : Finset BusObject :=
  {⟨.device d.medium, d.paths.number⟩, ⟨.settingsConnection, d.paths.number⟩} ∪
    if d.state.isConnected then
      {⟨.ip4Config, d.paths.number⟩, ⟨.ip6Config, d.paths.number⟩,
        ⟨.activeConnection, d.paths.number⟩}
    else ∅

/-- The objects of a device, if there is one. -/
def objectsOf (d : Option Device) : Finset BusObject := (d.map Device.busObjects).getD ∅

/-- A device has its own object and that of the settings, and in a connected state those of a
connection. -/
theorem Device.mem_busObjects {d : Device} {o : BusObject} :
    o ∈ d.busObjects ↔
      (o = (DeviceMemo.ofDevice d).deviceObject ∨ o = (DeviceMemo.ofDevice d).settingsObject) ∨
        d.state.isConnected = true ∧ o ∈ (DeviceMemo.ofDevice d).connectionObjects := by
  unfold busObjects
  split
  · next hconnected =>
    simp only [Finset.mem_union, Finset.mem_insert, Finset.mem_singleton, hconnected, true_and,
      DeviceMemo.connectionObjects, List.mem_cons, List.not_mem_nil, or_false]
    rfl
  · next hconnected =>
    simp only [Finset.union_empty, Finset.mem_insert, Finset.mem_singleton, hconnected,
      Bool.false_eq_true, false_and, or_false]
    rfl

/-- All objects of a device end in its number. -/
theorem Device.number_of_mem_busObjects {d : Device} {o : BusObject} (h : o ∈ d.busObjects) :
    o.number = d.paths.number := by
  simp only [mem_busObjects, DeviceMemo.connectionObjects, List.mem_cons, List.not_mem_nil,
    or_false] at h
  rcases h with (rfl | rfl) | ⟨_, rfl | rfl | rfl⟩ <;> rfl

namespace DeviceMemo

/-- The objects of a device are different from each other. -/
theorem nodup_objects (a : DeviceMemo) : a.objects.Nodup := by
  unfold objects
  split <;> simp [deviceObject, settingsObject, connectionObjects]

/-- What is remembered of a device has the objects of the device. -/
theorem mem_objects {d : Device} (h : d.WellFormed) {o : BusObject} :
    o ∈ (ofDevice d).objects ↔ o ∈ d.busObjects := by
  rw [Device.mem_busObjects, objects, isConnected_ofDevice h]
  split <;> simp [*, or_assoc]

/-- What is remembered of a device has the objects of the device. -/
theorem toFinset_objects {d : Device} (h : d.WellFormed) :
    (ofDevice d).objects.toFinset = d.busObjects := by
  ext o
  rw [List.mem_toFinset, mem_objects h]

/-- All objects of a device, in the order in which they are unregistered. -/
def departing (a : DeviceMemo) : List BusObject :=
  (if a.isConnected then a.connectionObjects else []) ++ [a.settingsObject, a.deviceObject]

/-- The objects that are unregistered are those that were registered. -/
theorem mem_departing {a : DeviceMemo} {o : BusObject} : o ∈ a.departing ↔ o ∈ a.objects := by
  simp only [departing, objects, List.mem_append, List.mem_cons, List.not_mem_nil, or_false]
  tauto

/-- No object is unregistered twice. -/
theorem nodup_departing (a : DeviceMemo) : a.departing.Nodup := by
  unfold departing
  split <;> simp [deviceObject, settingsObject, connectionObjects]

/-- A device that disappears is taken back before its objects are unregistered. -/
theorem disappear_eq (a : DeviceMemo) :
    a.disappear = [.emit (.deviceRemoved a.paths.device),
      .emit (.connectionRemoved a.paths.settings)] ++ a.departing.map .unregister := by
  simp only [disappear, departing, List.map_append, List.append_assoc]
  split <;> rfl

/-- A device object serves the interfaces that devices of its medium have. -/
theorem isServed_device {a : DeviceMemo} (hpaths : a.paths = .ofNumber a.number)
    (h : a.deviceObject ∈ objects) {i : Bus.Interface}
    (hi : i ∈ Bus.interfacesOf (.device a.medium)) : IsServed objects (a.paths.device, i) := by
  rw [hpaths]
  exact isServed_of_mem h hi

/-- A device can appear where it has no objects yet. -/
theorem performAll?_appear {d : Device} (h : d.WellFormed)
    (hnew : ∀ o ∈ d.busObjects, o ∉ objects) :
    performAll? objects (ofDevice d).appear = some (objects ∪ d.busObjects) := by
  have hregister : performAll? objects ((ofDevice d).objects.map .register) = _ :=
    performAll?_register (ofDevice d).nodup_objects
      fun o ho => hnew o ((mem_objects h).1 ho)
  have hobjects : ∀ o ∈ (ofDevice d).objects, o ∈ objects ∪ d.busObjects := by
    intro o ho
    exact Finset.mem_union_right _ ((mem_objects h).1 ho)
  have hpaths : (ofDevice d).paths = .ofNumber d.paths.number := h.paths_eq
  rw [appear, performAll?_append, performAll?_append, hregister, toFinset_objects h,
    Option.bind_some, performAll?_signals, Option.bind_some, performAll?_signals]
  · simp only [List.mem_map, forall_exists_index, and_imp]
    rintro _ a ha rfl
    refine ⟨_, rfl, ?_⟩
    rw [hpaths]
    have hactive : (ofDevice d).isConnected = true := by
      rw [Option.mem_toList] at ha
      rw [isConnected, ha]
      rfl
    have hmem : ⟨.activeConnection, d.paths.number⟩ ∈ (ofDevice d).objects := by
      rw [DeviceMemo.objects, hactive]
      simp [connectionObjects]
    exact isServed_of_mem (hobjects _ hmem) List.mem_cons_self
  · intro step hstep
    simp only [List.mem_cons, List.not_mem_nil, or_false] at hstep
    rcases hstep with rfl | rfl
    · refine ⟨_, rfl, ?_⟩
      rw [hpaths]
      exact isServed_of_mem (o := (ofDevice d).settingsObject)
        (hobjects _ (by simp [DeviceMemo.objects])) List.mem_cons_self
    · exact ⟨_, rfl, isServed_device hpaths (hobjects _ (by simp [DeviceMemo.objects]))
        List.mem_cons_self⟩

/-- A device can disappear where it has its objects. -/
theorem performAll?_disappear {d : Device} (h : d.WellFormed) (hmem : d.busObjects ⊆ objects) :
    performAll? objects (ofDevice d).disappear = some (objects \ d.busObjects) := by
  have hgone : (ofDevice d).departing.toFinset = d.busObjects := by
    rw [← toFinset_objects h]
    ext o
    rw [List.mem_toFinset, List.mem_toFinset, mem_departing]
  have hobjects : ∀ o ∈ (ofDevice d).objects, o ∈ objects :=
    fun o ho => hmem ((mem_objects h).1 ho)
  have hpaths : (ofDevice d).paths = .ofNumber d.paths.number := h.paths_eq
  rw [disappear_eq, performAll?_append, performAll?_signals, Option.bind_some,
    performAll?_unregister (nodup_departing _) fun o ho => hobjects o (mem_departing.1 ho), hgone]
  intro step hstep
  simp only [List.mem_cons, List.not_mem_nil, or_false] at hstep
  rcases hstep with rfl | rfl
  · exact ⟨_, rfl, isServed_device hpaths (hobjects _ (by simp [DeviceMemo.objects]))
      List.mem_cons_self⟩
  · refine ⟨_, rfl, ?_⟩
    rw [hpaths]
    exact isServed_of_mem (o := (ofDevice d).settingsObject)
      (hobjects _ (by simp [DeviceMemo.objects])) List.mem_cons_self

/-- What shows properties on an interface is an object of the device with this interface. -/
theorem mem_objects_of_face {d : Device} (h : d.WellFormed) {role : ObjectRole}
    {interface : PropertyInterface} {m : Properties}
    (hface : (ofDevice d).face role interface = some m) :
    ⟨role, d.paths.number⟩ ∈ d.busObjects ∧ .announced interface ∈ Bus.interfacesOf role := by
  have hip4 : ∀ {m}, d.ip4.map IpConfig.properties = some m → d.state.isConnected = true := by
    intro m hm
    obtain ⟨config, hconfig, _⟩ := Option.map_eq_some_iff.1 hm
    rw [← h.isSome_ip4, hconfig]
    rfl
  have hip6 : ∀ {m}, d.ip6.map IpConfig.properties = some m → d.state.isConnected = true := by
    intro m hm
    obtain ⟨config, hconfig, _⟩ := Option.map_eq_some_iff.1 hm
    rw [← h.isSome_ip6, hconfig]
    rfl
  have hactive : ∀ {m}, (ofDevice d).active.map Prod.snd = some m →
      d.state.isConnected = true := by
    intro m hm
    obtain ⟨active, hactive, _⟩ := Option.map_eq_some_iff.1 hm
    rw [← isConnected_ofDevice h, isConnected, hactive]
    rfl
  unfold face at hface
  unfold Device.busObjects
  split at hface
  · obtain ⟨rfl, _⟩ := Option.ite_none_right_eq_some.1 hface
    simp [Bus.interfacesOf]
  · obtain ⟨⟨rfl, rfl⟩, _⟩ := Option.ite_none_right_eq_some.1 hface
    simp [Bus.interfacesOf]
  · simp [Bus.interfacesOf, hip4 hface]
  · simp [Bus.interfacesOf, hip6 hface]
  · simp [Bus.interfacesOf, hactive hface]
  · cases hface

/-- The objects of a connection are neither the device object nor that of the settings. -/
theorem ne_of_mem_connectionObjects {a : DeviceMemo} {o : BusObject}
    (h : o ∈ a.connectionObjects) : o ≠ a.deviceObject ∧ o ≠ a.settingsObject := by
  simp only [connectionObjects, List.mem_cons, List.not_mem_nil, or_false] at h
  rcases h with rfl | rfl | rfl <;> simp [deviceObject, settingsObject]

/-- The objects of a device whose number and medium are those of another one. -/
theorem mem_busObjects_of_eq {d e : Device} {o : BusObject}
    (hnumber : d.paths.number = e.paths.number) (hmedium : d.medium = e.medium) :
    o ∈ d.busObjects ↔
      (o = (ofDevice e).deviceObject ∨ o = (ofDevice e).settingsObject) ∨
        d.state.isConnected = true ∧ o ∈ (ofDevice e).connectionObjects := by
  rw [Device.mem_busObjects]
  simp only [deviceObject, settingsObject, connectionObjects, number_ofDevice, medium_ofDevice,
    hnumber, hmedium]

/-- Only a device in a connected state has the objects of a connection. -/
theorem isConnected_of_mem_connectionObjects {d e : Device} {o : BusObject}
    (hnumber : d.paths.number = e.paths.number) (hmedium : d.medium = e.medium)
    (hobject : o ∈ d.busObjects) (h : o ∈ (ofDevice e).connectionObjects) :
    d.state.isConnected = true := by
  obtain ⟨hdevice, hsettings⟩ := ne_of_mem_connectionObjects h
  rcases (mem_busObjects_of_eq hnumber hmedium).1 hobject with (heq | heq) | ⟨hconnected, _⟩
  · exact absurd heq hdevice
  · exact absurd heq hsettings
  · exact hconnected

/-- The signals for a device that stays are about objects that it had before and has now. -/
theorem performAll?_staySignals {d e : Device} (hd : d.WellFormed) (he : e.WellFormed)
    (hnumber : d.paths.number = e.paths.number) (condition : DeviceCondition)
    (hmem : d.busObjects ∪ e.busObjects ⊆ objects) :
    performAll? objects ((ofDevice d).staySignals (ofDevice e) condition) = some objects := by
  have hdevice : ⟨.device e.medium, e.paths.number⟩ ∈ objects :=
    hmem (Finset.mem_union_right _ (by simp [Device.busObjects]))
  apply performAll?_signals
  intro step hstep
  rcases mem_staySignals he.paths_eq hstep with
    ⟨_, _, _, rfl⟩ | ⟨hconnected, _, _, rfl⟩ | ⟨role, interface, _, _, _, hface, hstep⟩
  · exact ⟨_, rfl, isServed_of_mem hdevice List.mem_cons_self⟩
  · have hactive : ⟨.activeConnection, e.paths.number⟩ ∈ objects := by
      apply hmem
      rw [isConnected_ofDevice hd, isConnected_ofDevice he] at hconnected
      rw [Finset.mem_union]
      rcases hconnected with hconnected | hconnected
      · exact Or.inl (by simp [Device.busObjects, hconnected, hnumber])
      · exact Or.inr (by simp [Device.busObjects, hconnected])
    exact ⟨_, rfl, isServed_of_mem hactive List.mem_cons_self⟩
  · obtain ⟨hobject, hinterface⟩ := mem_objects_of_face he hface
    obtain ⟨_, rfl⟩ := mem_propertySignal.1 hstep
    exact ⟨_, rfl, isServed_of_mem (hmem (Finset.mem_union_right _ hobject)) hinterface⟩

/-- A device that stays and is connected if it was has no object less. -/
theorem busObjects_subset {d e : Device} (hnumber : d.paths.number = e.paths.number)
    (hmedium : d.medium = e.medium)
    (h : d.state.isConnected = true → e.state.isConnected = true) :
    d.busObjects ⊆ e.busObjects := by
  intro o ho
  rw [Device.mem_busObjects]
  exact ((mem_busObjects_of_eq hnumber hmedium).1 ho).imp_right fun hold => ⟨h hold.1, hold.2⟩

/-- The objects of a new connection come to those that are there. -/
theorem performAll?_connect {d e : Device} (hnumber : d.paths.number = e.paths.number)
    (hmedium : d.medium = e.medium) (hmem : d.busObjects ⊆ objects)
    (hnew : ∀ o ∈ e.busObjects, o ∈ objects → o ∈ d.busObjects) :
    performAll? objects (if !d.state.isConnected && e.state.isConnected then
      (ofDevice e).connectionObjects.map .register else []) = some (objects ∪ e.busObjects) := by
  have hnodup : (ofDevice e).connectionObjects.Nodup := by simp [connectionObjects]
  split
  · next htest =>
    obtain ⟨hlacked, hconnected⟩ :
        d.state.isConnected = false ∧ e.state.isConnected = true := by simpa using htest
    have hfresh : ∀ o ∈ (ofDevice e).connectionObjects, o ∉ objects := by
      intro o ho hobject
      have hold := hnew o (Device.mem_busObjects.2 (Or.inr ⟨hconnected, ho⟩)) hobject
      rw [isConnected_of_mem_connectionObjects hnumber hmedium hold ho] at hlacked
      cases hlacked
    rw [performAll?_register hnodup hfresh]
    congr 1
    ext o
    have hbase := fun h => hmem ((mem_busObjects_of_eq (o := o) hnumber hmedium).2 (Or.inl h))
    simp only [Finset.mem_union, List.mem_toFinset, Device.mem_busObjects, hconnected, true_and]
    tauto
  · next htest =>
    have hkept : e.state.isConnected = true → d.state.isConnected = true := by
      simpa [imp_iff_or_not, or_comm] using htest
    have hsubset : e.busObjects ⊆ d.busObjects :=
      busObjects_subset hnumber.symm hmedium.symm hkept
    rw [performAll?_nil, Finset.union_eq_left.2 (hsubset.trans hmem)]

/-- The objects of a lost connection go. -/
theorem performAll?_disconnect {d e : Device} (hnumber : d.paths.number = e.paths.number)
    (hmedium : d.medium = e.medium) (hmem : d.busObjects ⊆ objects) :
    performAll? (objects ∪ e.busObjects) (if d.state.isConnected && !e.state.isConnected then
      (ofDevice e).connectionObjects.map .unregister else []) =
        some (objects \ d.busObjects ∪ e.busObjects) := by
  have hnodup : (ofDevice e).connectionObjects.Nodup := by simp [connectionObjects]
  split
  · next htest =>
    obtain ⟨hhad, hlost⟩ :
        d.state.isConnected = true ∧ e.state.isConnected = false := by simpa using htest
    have hold : ∀ o ∈ (ofDevice e).connectionObjects, o ∈ objects ∪ e.busObjects :=
      fun o ho => Finset.mem_union_left _
        (hmem ((mem_busObjects_of_eq hnumber hmedium).2 (Or.inr ⟨hhad, ho⟩)))
    rw [performAll?_unregister hnodup hold]
    congr 1
    ext o
    have hbase := fun h => hmem ((mem_busObjects_of_eq (o := o) hnumber hmedium).2 (Or.inl h))
    have hdifferent := ne_of_mem_connectionObjects (a := ofDevice e) (o := o)
    simp only [Finset.mem_union, Finset.mem_sdiff, List.mem_toFinset,
      mem_busObjects_of_eq hnumber hmedium, Device.mem_busObjects, hhad, hlost, Bool.false_eq_true,
      false_and, true_and, or_false]
    tauto
  · next htest =>
    have hsubset : d.busObjects ⊆ e.busObjects :=
      busObjects_subset hnumber hmedium (by simpa using htest)
    rw [performAll?_nil]
    congr 1
    ext o
    have hkept := fun h : o ∈ d.busObjects => hsubset h
    simp only [Finset.mem_union, Finset.mem_sdiff]
    tauto

/-- Where a device stays, the objects that it had before give way to those that it has now. -/
theorem performAll?_stay {d e : Device} (hd : d.WellFormed) (he : e.WellFormed)
    (hnumber : d.paths.number = e.paths.number) (hmedium : d.medium = e.medium)
    (condition : DeviceCondition) (hmem : d.busObjects ⊆ objects)
    (hnew : ∀ o ∈ e.busObjects, o ∈ objects → o ∈ d.busObjects) :
    performAll? objects ((ofDevice d).stay (ofDevice e) condition) =
      some (objects \ d.busObjects ∪ e.busObjects) := by
  have hsignals := performAll?_staySignals hd he hnumber condition
    (Finset.union_subset_union_left (t := e.busObjects) hmem)
  rw [stay_eq _ hmedium he.paths_eq, isConnected_ofDevice hd, isConnected_ofDevice he,
    performAll?_append, performAll?_connect hnumber hmedium hmem hnew, Option.bind_some,
    performAll?_append, hsignals, Option.bind_some, performAll?_disconnect hnumber hmedium hmem]

end DeviceMemo

/-- The block of an interface replaces the objects of its old device by those of its new one. -/
theorem performAll?_deviceSteps {old new : Option Device} (hold : ∀ d ∈ old, d.WellFormed)
    (hnew : ∀ e ∈ new, e.WellFormed) (hmem : objectsOf old ⊆ objects)
    (hfresh : ∀ o ∈ objectsOf new, o ∈ objects → o ∈ objectsOf old) :
    performAll? objects (BusMemo.deviceSteps (old.map .ofDevice) new) =
      some (objects \ objectsOf old ∪ objectsOf new) := by
  cases old with
  | none =>
    cases new with
    | none => simp [BusMemo.deviceSteps, objectsOf]
    | some e =>
      have happear := DeviceMemo.performAll?_appear (hnew e rfl)
        fun o ho hobject => Finset.notMem_empty o (hfresh o ho hobject)
      rw [Option.map_none, BusMemo.deviceSteps, happear]
      exact congrArg (fun os => some (os ∪ e.busObjects)) Finset.sdiff_empty.symm
  | some d =>
    cases new with
    | none =>
      rw [Option.map_some, BusMemo.deviceSteps, DeviceMemo.performAll?_disappear (hold d rfl) hmem]
      exact congrArg some (Finset.union_empty _).symm
    | some e =>
      rw [Option.map_some, BusMemo.deviceSteps]
      split
      · next hstays =>
        exact DeviceMemo.performAll?_stay (hold d rfl) (hnew e rfl) hstays.1 hstays.2 _ hmem hfresh
      · have hgone : ∀ o ∈ e.busObjects, o ∉ objects \ d.busObjects := by
          intro o ho hobject
          obtain ⟨hobject, hother⟩ := Finset.mem_sdiff.1 hobject
          exact hother (hfresh o ho hobject)
        rw [performAll?_append, DeviceMemo.performAll?_disappear (hold d rfl) hmem,
          Option.bind_some, DeviceMemo.performAll?_appear (hnew e rfl) hgone]
        rfl

/-- Blocks of interfaces that have no objects in common replace the old objects of all of them by
the new ones. -/
theorem performAll?_flatMap {old new : UInt32 → Option Device}
    (hold : ∀ i, ∀ d ∈ old i, d.WellFormed) (hnew : ∀ i, ∀ e ∈ new i, e.WellFormed)
    (hapart : ∀ i j, i ≠ j →
      Disjoint (objectsOf (old i) ∪ objectsOf (new i)) (objectsOf (old j) ∪ objectsOf (new j)))
    {indices : List UInt32} (hnodup : indices.Nodup)
    (hmem : ∀ i ∈ indices, objectsOf (old i) ⊆ objects)
    (hfresh : ∀ i ∈ indices, ∀ o ∈ objectsOf (new i), o ∈ objects → o ∈ objectsOf (old i)) :
    performAll? objects
        (indices.flatMap fun i => BusMemo.deviceSteps ((old i).map .ofDevice) (new i)) =
      some (objects \ (indices.toFinset.biUnion fun i => objectsOf (old i)) ∪
        indices.toFinset.biUnion fun i => objectsOf (new i)) := by
  induction indices generalizing objects with
  | nil => simp
  | cons i rest ih =>
    obtain ⟨hi, hrest⟩ := List.nodup_cons.1 hnodup
    have hdistinct : ∀ j ∈ rest, ∀ o ∈ objectsOf (old j) ∪ objectsOf (new j),
        o ∉ objectsOf (old i) ∧ o ∉ objectsOf (new i) := by
      intro j hj o ho
      have hne : i ≠ j := fun heq => hi (heq ▸ hj)
      have hnot := Finset.disjoint_right.1 (hapart i j hne) ho
      rwa [Finset.mem_union, not_or] at hnot
    have hblock := performAll?_deviceSteps (hold i) (hnew i) (hmem i List.mem_cons_self)
      (hfresh i List.mem_cons_self)
    rw [List.flatMap_cons, performAll?_append, hblock, Option.bind_some, ih hrest]
    · congr 1
      ext o
      have hothers : o ∈ rest.toFinset.biUnion (fun j => objectsOf (old j)) →
          o ∉ objectsOf (new i) := by
        intro ho
        obtain ⟨j, hj, ho⟩ := Finset.mem_biUnion.1 ho
        exact (hdistinct j (List.mem_toFinset.1 hj) o (Finset.mem_union_left _ ho)).2
      simp only [List.toFinset_cons, Finset.biUnion_insert, Finset.mem_union, Finset.mem_sdiff]
      tauto
    · intro j hj o ho
      have hnot := (hdistinct j hj o (Finset.mem_union_left _ ho)).1
      exact Finset.mem_union_left _
        (Finset.mem_sdiff.2 ⟨hmem j (List.mem_cons_of_mem _ hj) ho, hnot⟩)
    · intro j hj o ho hobject
      have hnot := (hdistinct j hj o (Finset.mem_union_right _ ho)).2
      rcases Finset.mem_union.1 hobject with hobject | hobject
      · exact hfresh j (List.mem_cons_of_mem _ hj) o ho (Finset.mem_sdiff.1 hobject).1
      · exact absurd hobject hnot

end LinkBus
