import LinkBus.Proofs.Device.Paths
import LinkBus.Proofs.Network.Transition
import LinkBus.Proofs.Plan.Objects
import LinkBus.Proofs.Property.Overlay

/-!
# What a client learns from a plan

A client reads the properties of an object when it is registered, forgets them when it is
unregistered, and lays every announced change over what it knows. The block of an interface leaves
it with the properties of the new device, whatever became of the old one, and with all that it knew
of other interfaces.
-/

namespace LinkBus

/-- The announced properties that the object of a role shows on an interface. -/
def Device.face (d : Device) : ObjectRole → PropertyInterface → Option Properties
  | .device medium, .device => if medium = d.medium then some d.properties else none
  | .device medium, .specific other =>
    if medium = d.medium ∧ other = d.medium then some d.mediumProperties else none
  | .ip4Config, .ip4Config => d.ip4.map IpConfig.properties
  | .ip6Config, .ip6Config => d.ip6.map IpConfig.properties
  | .activeConnection, .activeConnection => d.active.map ActiveConnection.properties
  | _, _ => none

/-- The announced properties that an object shows on an interface in a network. -/
def BusObject.read (s : Network) (o : BusObject) (interface : PropertyInterface) :
    Option Properties :=
  (s.deviceNumbered o.number).toOption.bind fun d => d.face o.role interface

/-- What a client knows of an interface at a path after a step, if the network is in some state
while the step is carried out. -/
def BusStep.perceive (s : Network) (path : String) (interface : PropertyInterface)
    (known : Option Properties) : BusStep → Option Properties
  | register o => if o.path = path then o.read s interface else known
  | unregister o => if o.path = path then none else known
  | emit (.propertiesChanged path' interface' changed) =>
    if path' = path ∧ interface' = interface then known.map fun m => m.overlay changed else known
  | emit _ => known

/-- What a client knows of an interface at a path after steps. -/
def perceiveAll (s : Network) (path : String) (interface : PropertyInterface)
    (known : Option Properties) (steps : List BusStep) : Option Properties :=
  steps.foldl (BusStep.perceive s path interface) known

/-- A step does not touch what is known of an interface at a path. -/
def BusStep.Spares (s : Network) (path : String) (interface : PropertyInterface)
    (step : BusStep) : Prop :=
  ∀ known, step.perceive s path interface known = known

variable {s : Network} {path : String} {interface : PropertyInterface} {known : Option Properties}

/-- Steps are perceived one after the other. -/
theorem perceiveAll_append (first second : List BusStep) :
    perceiveAll s path interface known (first ++ second) =
      perceiveAll s path interface (perceiveAll s path interface known first) second :=
  List.foldl_append

/-- Steps that do not touch an interface leave it as it was known. -/
theorem perceiveAll_of_spares {steps : List BusStep}
    (h : ∀ step ∈ steps, step.Spares s path interface) :
    perceiveAll s path interface known steps = known := by
  induction steps with
  | nil => rfl
  | cons step rest ih =>
    rw [perceiveAll, List.foldl_cons, h step List.mem_cons_self known]
    exact ih fun other hother => h other (List.mem_cons_of_mem _ hother)

/-- Of several blocks only those matter that touch an interface. -/
theorem perceiveAll_flatMap {α : Type} {block : α → List BusStep} {blocks : List α} {a : α}
    (ha : a ∈ blocks) (hnodup : blocks.Nodup)
    (h : ∀ b ∈ blocks, b ≠ a → ∀ step ∈ block b, step.Spares s path interface) :
    perceiveAll s path interface known (blocks.flatMap block) =
      perceiveAll s path interface known (block a) := by
  obtain ⟨before, after, rfl⟩ := List.append_of_mem ha
  rw [List.nodup_append, List.nodup_cons] at hnodup
  obtain ⟨_, ⟨hafter, _⟩, hbefore⟩ := hnodup
  have hfirst : ∀ step ∈ before.flatMap block, step.Spares s path interface := by
    intro step hstep
    obtain ⟨b, hb, hstep⟩ := List.mem_flatMap.1 hstep
    exact h b (List.mem_append_left _ hb) (hbefore b hb a List.mem_cons_self) step hstep
  have hlast : ∀ step ∈ after.flatMap block, step.Spares s path interface := by
    intro step hstep
    obtain ⟨b, hb, hstep⟩ := List.mem_flatMap.1 hstep
    have hne : b ≠ a := fun heq => hafter (heq ▸ hb)
    exact h b (List.mem_append_right _ (List.mem_cons_of_mem _ hb)) hne step hstep
  rw [List.flatMap_append, List.flatMap_cons, perceiveAll_append, perceiveAll_append,
    perceiveAll_of_spares hfirst, perceiveAll_of_spares hlast]

/-- Registering an object does not touch other paths. -/
theorem spares_register {o : BusObject} (h : o.path ≠ path) :
    (BusStep.register o).Spares s path interface :=
  fun _ => if_neg h

/-- Unregistering an object does not touch other paths. -/
theorem spares_unregister {o : BusObject} (h : o.path ≠ path) :
    (BusStep.unregister o).Spares s path interface :=
  fun _ => if_neg h

/-- Changed properties do not touch other paths and interfaces. -/
theorem spares_propertySignal {path' : String} {interface' : PropertyInterface}
    {old new : Properties} {step : BusStep}
    (hstep : step ∈ DeviceMemo.propertySignal path' interface' old new)
    (h : ¬ (path' = path ∧ interface' = interface)) : step.Spares s path interface := by
  obtain ⟨_, rfl⟩ := DeviceMemo.mem_propertySignal.1 hstep
  exact fun _ => if_neg h

/-- Whoever knows the old properties and hears of the changes knows the new ones. -/
theorem perceiveAll_propertySignal {old new : Properties} (h : Properties.SameNames old new) :
    perceiveAll s path interface (some old)
      (DeviceMemo.propertySignal path interface old new) = some new := by
  have hoverlay := Properties.overlay_difference h
  unfold DeviceMemo.propertySignal
  cases hdifference : Properties.difference old new with
  | nil =>
    rw [Properties.difference_eq_nil_iff h] at hdifference
    rw [hdifference]
    rfl
  | cons e rest =>
    rw [hdifference] at hoverlay
    simp only [List.isEmpty_cons, Bool.false_eq_true, if_false, perceiveAll, List.foldl_cons,
      List.foldl_nil, BusStep.perceive, and_self, if_true, Option.map_some, hoverlay]

/-- Registering objects with different paths shows the properties of each. -/
theorem perceiveAll_register {os : List BusObject} {o : BusObject} (ho : o ∈ os)
    (hpath : ∀ p ∈ os, p.path = o.path → p = o) :
    perceiveAll s o.path interface known (os.map .register) = o.read s interface := by
  induction os generalizing known with
  | nil => cases ho
  | cons p rest ih =>
    rw [List.map_cons, perceiveAll, List.foldl_cons]
    by_cases hrest : o ∈ rest
    · exact ih hrest fun q hq => hpath q (List.mem_cons_of_mem _ hq)
    · obtain rfl : o = p := (List.mem_cons.1 ho).resolve_right hrest
      have hspares : ∀ step ∈ rest.map BusStep.register, step.Spares s o.path interface := by
        intro step hstep
        obtain ⟨q, hq, rfl⟩ := List.mem_map.1 hstep
        refine spares_register fun heq => hrest ?_
        rwa [← hpath q (List.mem_cons_of_mem _ hq) heq]
      rw [BusStep.perceive, if_pos rfl]
      exact perceiveAll_of_spares hspares

/-! ## The faces of a device -/

/-- What is remembered of a device shows the properties of the device. -/
theorem DeviceMemo.face_ofDevice (d : Device) (role : ObjectRole) (interface : PropertyInterface) :
    (ofDevice d).face role interface = d.face role interface := by
  cases role <;> cases interface <;> first | rfl | exact Option.map_map Prod.snd _ d.active

namespace Device

variable {d e : Device} {o : BusObject}

/-- The objects of a device have different paths. -/
theorem path_inj {p : BusObject} (ho : o ∈ d.busObjects) (hp : p ∈ d.busObjects)
    (hpath : p.path = o.path) : p = o := by
  have hkind : p.role.pathKind = o.role.pathKind := (PathKind.path_inj.1 hpath).1
  simp only [mem_busObjects, DeviceMemo.connectionObjects, List.mem_cons, List.not_mem_nil,
    or_false] at ho hp
  rcases ho with (rfl | rfl) | ⟨_, rfl | rfl | rfl⟩ <;>
    rcases hp with (rfl | rfl) | ⟨_, rfl | rfl | rfl⟩ <;> first | rfl | cases hkind

/-- The objects of a device show properties on the interfaces that their medium has. -/
theorem isSome_face (h : d.WellFormed) (ho : o ∈ d.busObjects) :
    (d.face o.role interface).isSome = true ↔ (o.role, interface) ∈ DeviceMemo.faces d.medium := by
  constructor
  · intro hsome
    obtain ⟨m, hm⟩ := Option.isSome_iff_exists.1 hsome
    rw [← DeviceMemo.face_ofDevice] at hm
    exact DeviceMemo.mem_faces hm
  · intro hface
    simp only [mem_busObjects, DeviceMemo.connectionObjects, List.mem_cons, List.not_mem_nil,
      or_false] at ho
    simp only [DeviceMemo.faces, List.mem_cons, Prod.mk.injEq, List.not_mem_nil, or_false] at hface
    rcases ho with (rfl | rfl) | ⟨hconnected, rfl | rfl | rfl⟩
    · simp [DeviceMemo.deviceObject] at hface
      rcases hface with rfl | rfl <;> simp [face, DeviceMemo.deviceObject]
    · simp [DeviceMemo.settingsObject] at hface
    · simp at hface
      subst hface
      simp [face, h.isSome_ip4, hconnected]
    · simp at hface
      subst hface
      simp [face, h.isSome_ip6, hconnected]
    · simp at hface
      subst hface
      simp [face, h.isSome_active, hconnected]

/-- The names of the properties that a device shows depend on its medium alone. -/
theorem sameNames_face {role : ObjectRole} {before after : Properties}
    (hmedium : d.medium = e.medium) (hbefore : d.face role interface = some before)
    (hafter : e.face role interface = some after) : Properties.SameNames before after := by
  unfold face at hbefore hafter
  split at hbefore
  · obtain ⟨_, ⟨⟩⟩ := Option.ite_none_right_eq_some.1 hbefore
    obtain ⟨_, ⟨⟩⟩ := Option.ite_none_right_eq_some.1 hafter
    exact ⟨rfl, by simp [properties]⟩
  · obtain ⟨_, ⟨⟩⟩ := Option.ite_none_right_eq_some.1 hbefore
    obtain ⟨_, ⟨⟩⟩ := Option.ite_none_right_eq_some.1 hafter
    unfold mediumProperties
    rw [hmedium]
    split <;> exact ⟨rfl, by simp⟩
  · obtain ⟨_, _, rfl⟩ := Option.map_eq_some_iff.1 hbefore
    obtain ⟨_, _, rfl⟩ := Option.map_eq_some_iff.1 hafter
    exact ⟨rfl, by simp [IpConfig.properties]⟩
  · obtain ⟨_, _, rfl⟩ := Option.map_eq_some_iff.1 hbefore
    obtain ⟨_, _, rfl⟩ := Option.map_eq_some_iff.1 hafter
    exact ⟨rfl, by simp [IpConfig.properties]⟩
  · obtain ⟨_, _, rfl⟩ := Option.map_eq_some_iff.1 hbefore
    obtain ⟨_, _, rfl⟩ := Option.map_eq_some_iff.1 hafter
    exact ⟨rfl, by simp [ActiveConnection.properties]⟩
  · cases hbefore

/-- An object that a device does not have shows nothing. -/
theorem face_eq_none (h : d.WellFormed) (hnumber : o.number = d.paths.number)
    (ho : o ∉ d.busObjects) : d.face o.role interface = none := by
  rw [Option.eq_none_iff_forall_ne_some]
  intro m hm
  rw [← DeviceMemo.face_ofDevice] at hm
  obtain ⟨hmem, _⟩ := DeviceMemo.mem_objects_of_face h hm
  rw [← hnumber] at hmem
  exact ho hmem

end Device

/-- The names of the properties of the manager never change. -/
theorem Overview.sameNames_properties (m n : Overview) :
    Properties.SameNames m.properties n.properties :=
  ⟨rfl, by simp [properties]⟩

/-- The names of the properties of the settings object never change. -/
theorem Overview.sameNames_connectionsProperty (m n : Overview) :
    Properties.SameNames m.connectionsProperty n.connectionsProperty :=
  ⟨rfl, by simp [connectionsProperty]⟩

/-! ## Blocks -/

namespace DeviceMemo

variable {d e : Device} {o : BusObject}

/-- Of the interfaces that a device of a medium shows, no two have the same path and name. -/
theorem eq_of_mem_faces {medium : Medium} {f g : ObjectRole × PropertyInterface}
    (hf : f ∈ faces medium) (hg : g ∈ faces medium) (hkind : g.1.pathKind = f.1.pathKind)
    (hinterface : g.2 = f.2) : g = f := by
  simp only [faces, List.mem_cons, List.not_mem_nil, or_false] at hf hg
  rcases hf with rfl | rfl | rfl | rfl | rfl <;>
    rcases hg with rfl | rfl | rfl | rfl | rfl <;>
      first
      | rfl
      | (cases hkind; done)
      | cases hinterface

/-- An object of a device and a role that it shows something in are the same if their kinds of path
are. -/
theorem role_eq_of_mem_faces {f : ObjectRole × PropertyInterface} (hf : f ∈ faces d.medium)
    (ho : o ∈ d.busObjects) (hkind : f.1.pathKind = o.role.pathKind) : f.1 = o.role := by
  simp only [faces, List.mem_cons, List.not_mem_nil, or_false] at hf
  simp only [Device.mem_busObjects, connectionObjects, List.mem_cons, List.not_mem_nil,
    or_false] at ho
  rcases hf with rfl | rfl | rfl | rfl | rfl <;>
    rcases ho with (rfl | rfl) | ⟨_, rfl | rfl | rfl⟩ <;> first | rfl | cases hkind

/-- The signal about one interface does not touch others. -/
theorem spares_faceSignal {old new : DeviceMemo} {f : ObjectRole × PropertyInterface}
    {kind : PathKind} {step : BusStep} (hstep : step ∈ old.faceSignal new f)
    (h : ¬ (f.1.pathKind = kind ∧ f.2 = interface)) :
    step.Spares s (kind.path new.number) interface := by
  obtain ⟨_, _, _, _, hstep⟩ := mem_keptPropertySignal hstep
  refine spares_propertySignal hstep fun heq => h ⟨(PathKind.path_inj.1 heq.1).1, heq.2⟩

/-- Signals about states do not touch any properties. -/
theorem spares_stateSignals {path' : String} {reason : StateReason} {old : DeviceState}
    {states : List DeviceState} {step : BusStep}
    (h : step ∈ stateSignals path' reason old states) : step.Spares s path interface := by
  obtain ⟨_, _, rfl⟩ := mem_stateSignals h
  exact fun _ => rfl

/-- Signals about the state of a connection do not touch any properties. -/
theorem spares_activeSignals {old new : DeviceMemo} {step : BusStep}
    (h : step ∈ activeSignals old new) : step.Spares s path interface := by
  obtain ⟨_, _, _, rfl⟩ := mem_activeSignals h
  exact fun _ => rfl

/-- Of the signals for a device that stays, one at most touches an interface of an object. -/
theorem perceiveAll_staySignals {condition : DeviceCondition} (ho : o ∈ e.busObjects) :
    perceiveAll s o.path interface known ((ofDevice d).staySignals (ofDevice e) condition) =
      perceiveAll s o.path interface known
        ((ofDevice d).faceSignal (ofDevice e) (o.role, interface)) := by
  have hpath : o.path = o.role.pathKind.path (ofDevice e).number := by
    rw [BusObject.path, Device.number_of_mem_busObjects ho]
    rfl
  rw [staySignals, perceiveAll_append, perceiveAll_append,
    perceiveAll_of_spares fun _ => spares_stateSignals,
    perceiveAll_of_spares fun _ => spares_activeSignals]
  by_cases hface : (o.role, interface) ∈ faces e.medium
  · refine perceiveAll_flatMap hface (by simp [faces]) fun f hf hne step hstep => ?_
    rw [hpath]
    exact spares_faceSignal hstep fun hsame => hne (eq_of_mem_faces hface hf hsame.1 hsame.2)
  · have hnone : (ofDevice e).face o.role interface = none := by
      rw [Option.eq_none_iff_forall_ne_some]
      exact fun m hm => hface (mem_faces hm)
    have hspares : ∀ step ∈
        (faces (ofDevice e).medium).flatMap ((ofDevice d).faceSignal (ofDevice e)),
        step.Spares s o.path interface := by
      intro step hstep
      obtain ⟨f, hf, hstep⟩ := List.mem_flatMap.1 hstep
      rw [hpath]
      refine spares_faceSignal hstep fun hsame => hface ?_
      rw [← role_eq_of_mem_faces hf ho hsame.1, ← hsame.2]
      exact hf
    rw [perceiveAll_of_spares hspares, faceSignal, hnone]
    cases (ofDevice d).face o.role interface <;> rfl

/-- Whoever knows what a device shows on an interface, and hears the signals for the device that
stays, knows what it shows now. -/
theorem perceiveAll_staySignals_of_mem {condition : DeviceCondition} (hd : d.WellFormed)
    (he : e.WellFormed) (hmedium : d.medium = e.medium) (hod : o ∈ d.busObjects)
    (hoe : o ∈ e.busObjects) :
    perceiveAll s o.path interface (d.face o.role interface)
        ((ofDevice d).staySignals (ofDevice e) condition) = e.face o.role interface := by
  have hpath : o.path = o.role.pathKind.path (ofDevice e).number := by
    rw [BusObject.path, Device.number_of_mem_busObjects hoe]
    rfl
  have hsome : (d.face o.role interface).isSome = (e.face o.role interface).isSome := by
    rw [Bool.eq_iff_iff, Device.isSome_face hd hod, Device.isSome_face he hoe, hmedium]
  rw [perceiveAll_staySignals hoe, faceSignal, face_ofDevice, face_ofDevice, ← hpath]
  cases hbefore : d.face o.role interface with
  | none =>
    have hafter : e.face o.role interface = none := by simpa [hbefore] using hsome.symm
    rw [hafter]
    rfl
  | some before =>
    rw [hbefore, Option.isSome_some] at hsome
    obtain ⟨after, hafter⟩ := Option.isSome_iff_exists.1 hsome.symm
    rw [hafter]
    exact perceiveAll_propertySignal (Device.sameNames_face hmedium hbefore hafter)

/-- The signals for a device that stays do not touch an object that it did not have before. -/
theorem perceiveAll_staySignals_of_not_mem {condition : DeviceCondition} (hd : d.WellFormed)
    (hnumber : d.paths.number = e.paths.number) (hod : o ∉ d.busObjects) (hoe : o ∈ e.busObjects) :
    perceiveAll s o.path interface known ((ofDevice d).staySignals (ofDevice e) condition) =
      known := by
  have hnone : d.face o.role interface = none :=
    Device.face_eq_none hd ((Device.number_of_mem_busObjects hoe).trans hnumber.symm) hod
  rw [perceiveAll_staySignals hoe, faceSignal, face_ofDevice, hnone]
  rfl

/-- Whoever sees a device appear knows what it shows. -/
theorem perceiveAll_appear (he : e.WellFormed) (ho : o ∈ e.busObjects)
    (hread : o.read s interface = e.face o.role interface) :
    perceiveAll s o.path interface known (ofDevice e).appear = e.face o.role interface := by
  have hinj : ∀ p ∈ (ofDevice e).objects, p.path = o.path → p = o :=
    fun p hp => Device.path_inj ho ((mem_objects he).1 hp)
  rw [appear, perceiveAll_append, perceiveAll_append,
    perceiveAll_register ((mem_objects he).2 ho) hinj, hread, perceiveAll_of_spares,
    perceiveAll_of_spares]
  · intro step hstep
    simp only [List.mem_cons, List.not_mem_nil, or_false] at hstep
    rcases hstep with rfl | rfl <;> exact fun _ => rfl
  · intro step hstep
    obtain ⟨_, _, rfl⟩ := List.mem_map.1 hstep
    exact fun _ => rfl

/-- An object of a device that has the path of a connection's object is that object. -/
theorem eq_of_mem_connectionObjects {p : BusObject} (ho : o ∈ e.busObjects)
    (hp : p ∈ (ofDevice e).connectionObjects) (hpath : p.path = o.path) : p = o := by
  have hkind : p.role.pathKind = o.role.pathKind := (PathKind.path_inj.1 hpath).1
  simp only [Device.mem_busObjects, connectionObjects, List.mem_cons, List.not_mem_nil,
    or_false] at ho hp
  rcases hp with rfl | rfl | rfl <;>
    rcases ho with (rfl | rfl) | ⟨_, rfl | rfl | rfl⟩ <;> first | rfl | cases hkind

/-- Whoever knows what a device shows, and sees it stay, knows what it shows now. -/
theorem perceiveAll_stay {condition : DeviceCondition} (hd : d.WellFormed) (he : e.WellFormed)
    (hnumber : d.paths.number = e.paths.number) (hmedium : d.medium = e.medium)
    (ho : o ∈ e.busObjects) (hread : o.read s interface = e.face o.role interface)
    (hknown : o ∈ d.busObjects → known = d.face o.role interface) :
    perceiveAll s o.path interface known ((ofDevice d).stay (ofDevice e) condition) =
      e.face o.role interface := by
  have hlost : ∀ step ∈ (if d.state.isConnected && !e.state.isConnected then
      (ofDevice e).connectionObjects.map BusStep.unregister else []),
      step.Spares s o.path interface := by
    intro step hstep
    obtain ⟨htest, hstep⟩ := List.mem_ite_nil_right.1 hstep
    obtain ⟨p, hp, rfl⟩ := List.mem_map.1 hstep
    refine spares_unregister fun hpath => ?_
    rw [eq_of_mem_connectionObjects ho hp hpath] at hp
    rw [isConnected_of_mem_connectionObjects rfl rfl ho hp, Bool.not_true, Bool.and_false] at htest
    cases htest
  rw [stay_eq _ hmedium he.paths_eq, perceiveAll_append, perceiveAll_append,
    isConnected_ofDevice hd, isConnected_ofDevice he, perceiveAll_of_spares hlost]
  by_cases hod : o ∈ d.busObjects
  · have hnew : ∀ step ∈ (if !d.state.isConnected && e.state.isConnected then
        (ofDevice e).connectionObjects.map BusStep.register else []),
        step.Spares s o.path interface := by
      intro step hstep
      obtain ⟨htest, hstep⟩ := List.mem_ite_nil_right.1 hstep
      obtain ⟨p, hp, rfl⟩ := List.mem_map.1 hstep
      refine spares_register fun hpath => ?_
      rw [eq_of_mem_connectionObjects ho hp hpath] at hp
      rw [isConnected_of_mem_connectionObjects hnumber hmedium hod hp, Bool.not_true,
        Bool.false_and] at htest
      cases htest
    rw [perceiveAll_of_spares hnew, hknown hod]
    exact perceiveAll_staySignals_of_mem hd he hmedium hod ho
  · have hnew := hod
    rw [mem_busObjects_of_eq hnumber hmedium, not_or] at hnew
    obtain ⟨hconnected, hconnection⟩ := (Device.mem_busObjects.1 ho).resolve_left hnew.1
    have hlacked : d.state.isConnected = false := by simpa [hconnection] using hnew.2
    have hinj : ∀ p ∈ (ofDevice e).connectionObjects, p.path = o.path → p = o :=
      fun p hp => eq_of_mem_connectionObjects ho hp
    simp only [hlacked, hconnected, Bool.not_false, Bool.and_self, if_true]
    rw [perceiveAll_register hconnection hinj, hread]
    exact perceiveAll_staySignals_of_not_mem hd hnumber hod ho

/-! ## What a block does not touch -/

/-- The objects of a connection end in the number of the device. -/
theorem path_of_mem_connectionObjects {a : DeviceMemo} (h : o ∈ a.connectionObjects) :
    ∃ kind : PathKind, kind.path a.number = o.path := by
  simp only [connectionObjects, List.mem_cons, List.not_mem_nil, or_false] at h
  rcases h with rfl | rfl | rfl
  · exact ⟨.ip4, rfl⟩
  · exact ⟨.ip6, rfl⟩
  · exact ⟨.active, rfl⟩

/-- A device that appears touches only paths that end in its number. -/
theorem spares_appear {a : DeviceMemo} (hpath : ∀ kind : PathKind, kind.path a.number ≠ path)
    {step : BusStep} (h : step ∈ a.appear) : step.Spares s path interface := by
  simp only [appear, objects, List.map_append, List.mem_append, List.map_cons, List.map_nil,
    List.mem_cons, List.not_mem_nil, or_false] at h
  rcases h with (((rfl | rfl) | h) | rfl | rfl) | h
  · exact spares_register (hpath .device)
  · exact spares_register (hpath .settings)
  · obtain ⟨o, ho, rfl⟩ := List.mem_map.1 h
    obtain ⟨_, ho⟩ := List.mem_ite_nil_right.1 ho
    obtain ⟨kind, hkind⟩ := path_of_mem_connectionObjects ho
    exact spares_register (hkind ▸ hpath kind)
  · exact fun _ => rfl
  · exact fun _ => rfl
  · obtain ⟨_, _, rfl⟩ := List.mem_map.1 h
    exact fun _ => rfl

/-- A device that disappears touches only paths that end in its number. -/
theorem spares_disappear {a : DeviceMemo} (hpath : ∀ kind : PathKind, kind.path a.number ≠ path)
    {step : BusStep} (h : step ∈ a.disappear) : step.Spares s path interface := by
  simp only [disappear, List.mem_append, List.mem_cons, List.not_mem_nil, or_false] at h
  rcases h with ((rfl | rfl) | h) | rfl | rfl
  · exact fun _ => rfl
  · exact fun _ => rfl
  · obtain ⟨_, h⟩ := List.mem_ite_nil_right.1 h
    obtain ⟨o, ho, rfl⟩ := List.mem_map.1 h
    obtain ⟨kind, hkind⟩ := path_of_mem_connectionObjects ho
    exact spares_unregister (hkind ▸ hpath kind)
  · exact spares_unregister (hpath .settings)
  · exact spares_unregister (hpath .device)

/-- A device that stays touches only paths that end in its number. -/
theorem spares_stay {old new : DeviceMemo} {condition : DeviceCondition}
    (hmedium : old.medium = new.medium) (hpaths : new.paths = .ofNumber new.number)
    (hpath : ∀ kind : PathKind, kind.path new.number ≠ path) {step : BusStep}
    (h : step ∈ old.stay new condition) : step.Spares s path interface := by
  rw [stay_eq _ hmedium hpaths, List.mem_append, List.mem_append] at h
  rcases h with h | h | h
  · obtain ⟨_, h⟩ := List.mem_ite_nil_right.1 h
    obtain ⟨o, ho, rfl⟩ := List.mem_map.1 h
    obtain ⟨kind, hkind⟩ := path_of_mem_connectionObjects ho
    exact spares_register (hkind ▸ hpath kind)
  · rcases mem_staySignals hpaths h with
      ⟨_, _, _, rfl⟩ | ⟨_, _, _, rfl⟩ | ⟨role, _, _, _, _, _, hstep⟩
    · exact fun _ => rfl
    · exact fun _ => rfl
    · exact spares_propertySignal hstep fun heq => hpath role.pathKind heq.1
  · obtain ⟨_, h⟩ := List.mem_ite_nil_right.1 h
    obtain ⟨o, ho, rfl⟩ := List.mem_map.1 h
    obtain ⟨kind, hkind⟩ := path_of_mem_connectionObjects ho
    exact spares_unregister (hkind ▸ hpath kind)

end DeviceMemo

namespace Network

variable {filter : LinkFilter} {old new : Network} {i : UInt32}

/-- The block of an interface touches only paths that end in its numbers. -/
theorem spares_block
    (hpath : ∀ (kind : PathKind) number, old.Uses new i number → kind.path number ≠ path)
    {step : BusStep} (h : step ∈ old.block new i) : step.Spares s path interface := by
  unfold block at h
  cases hold : old.device? i with
  | none =>
    cases hnew : new.device? i with
    | none =>
      rw [hold, hnew] at h
      cases h
    | some e =>
      have hpath' := fun kind => hpath kind _ (Or.inr (number?_of_device? hnew))
      rw [hold, hnew] at h
      exact DeviceMemo.spares_appear (a := .ofDevice e) hpath' h
  | some d =>
    have hpath' := fun kind => hpath kind _ (Or.inl (number?_of_device? hold))
    cases hnew : new.device? i with
    | none =>
      rw [hold, hnew] at h
      exact DeviceMemo.spares_disappear (a := .ofDevice d) hpath' h
    | some e =>
      have hpath'' := fun kind => hpath kind _ (Or.inr (number?_of_device? hnew))
      rw [hold, hnew, Option.map_some, BusMemo.deviceSteps] at h
      split at h
      · next hstays =>
        exact DeviceMemo.spares_stay hstays.2 (wellFormed_of_device? hnew).paths_eq hpath'' h
      · rcases List.mem_append.1 h with h | h
        · exact DeviceMemo.spares_disappear (a := .ofDevice d) hpath' h
        · exact DeviceMemo.spares_appear (a := .ofDevice e) hpath'' h

/-- An object of an interface is read as its device shows it. -/
theorem read_of_mem_busObjects (h : s.Consistent filter) {d : Device} (hd : s.device? i = some d)
    {o : BusObject} (ho : o ∈ d.busObjects) : o.read s interface = d.face o.role interface := by
  have hnumbered : s.deviceNumbered o.number = .ok d :=
    h.deviceNumbered_eq_ok_iff.2
      ⟨mem_devices_of_device? hd, (Device.number_of_mem_busObjects ho).symm⟩
  rw [BusObject.read, hnumbered]
  rfl

/-- Whoever knows what the old device of an interface shows, and sees its block carried out, knows
what the new device shows. -/
theorem perceiveAll_block (h : new.Consistent filter) {e : Device} (he : new.device? i = some e)
    {o : BusObject} (ho : o ∈ e.busObjects)
    (hknown : ∀ d, old.device? i = some d → o ∈ d.busObjects → known = d.face o.role interface) :
    perceiveAll new o.path interface known (old.block new i) = e.face o.role interface := by
  have hwell := wellFormed_of_device? he
  have hread : o.read new interface = e.face o.role interface := read_of_mem_busObjects h he ho
  unfold block
  rw [he]
  cases hd : old.device? i with
  | none => exact DeviceMemo.perceiveAll_appear hwell ho hread
  | some d =>
    rw [Option.map_some, BusMemo.deviceSteps]
    split
    · next hstays =>
      exact DeviceMemo.perceiveAll_stay (wellFormed_of_device? hd) hwell hstays.1 hstays.2 ho hread
        (hknown d hd)
    · rw [perceiveAll_append]
      exact DeviceMemo.perceiveAll_appear hwell ho hread

end Network

end LinkBus
