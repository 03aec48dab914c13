import LinkBus.Proofs.Plan.Mirror

/-!
# What a plan announces to have changed

A plan tells of an interface of an object at most once that its properties changed, and only what
really did. A plan without any step means that no device came or went, none got another number, and
all announced properties are as before.
-/

namespace LinkBus

/-- The path and the interface whose properties a step announces to have changed. -/
def BusStep.changedFace? : BusStep → Option (String × PropertyInterface)
  | emit (.propertiesChanged path interface _) => some (path, interface)
  | _ => none

/-- The number and all announced properties of a device. -/
structure Appearance where
  /-- The number of the device. -/
  number : Nat
  /-- The properties of the device. -/
  device : Properties
  /-- The properties of its further interface. -/
  specific : Properties
  /-- The properties of the IPv4 configuration, while there is one. -/
  ip4 : Option Properties
  /-- The properties of the IPv6 configuration, while there is one. -/
  ip6 : Option Properties
  /-- The properties of the connection in use, if there is one. -/
  active : Option Properties
  deriving DecidableEq, Repr

/-- How a device appears to clients. -/
def Device.appearance (d : Device) : Appearance where
  number := d.paths.number
  device := d.properties
  specific := d.mediumProperties
  ip4 := d.ip4.map IpConfig.properties
  ip6 := d.ip6.map IpConfig.properties
  active := d.active.map ActiveConnection.properties

/-! ## Properties tell states apart -/

/-- Different kinds of devices have different numbers. -/
theorem DeviceType.code_inj {a b : DeviceType} (h : a.code = b.code) : a = b := by
  revert h
  cases a <;> cases b <;> decide

/-- Different states of a device have different numbers. -/
theorem DeviceState.code_inj {a b : DeviceState} (h : a.code = b.code) : a = b := by
  revert h
  cases a <;> cases b <;> decide

/-- Different states of a connection have different numbers. -/
theorem ActiveState.code_inj {a b : ActiveState} (h : a.code = b.code) : a = b := by
  revert h
  cases a <;> cases b <;> decide

/-- Different states of the network as a whole have different numbers. -/
theorem ManagerState.code_inj {a b : ManagerState} (h : a.code = b.code) : a = b := by
  revert h
  cases a <;> cases b <;> decide

namespace Device

variable {d e : Device}

/-- The properties of a device tell its medium and its state. -/
theorem eq_of_properties_eq (h : d.properties = e.properties) :
    d.medium = e.medium ∧ d.state = e.state := by
  have htype : d.properties.get? "DeviceType" = e.properties.get? "DeviceType" := by rw [h]
  have hstate : d.properties.get? "State" = e.properties.get? "State" := by rw [h]
  simp [properties, Properties.get?, List.lookup_cons] at htype hstate
  exact ⟨congrArg DeviceType.medium (DeviceType.code_inj htype), DeviceState.code_inj hstate⟩

end Device

/-- The properties of a connection tell its state. -/
theorem ActiveConnection.state_eq_of_properties_eq {a b : ActiveConnection}
    (h : a.properties = b.properties) : a.state = b.state := by
  have hstate : a.properties.get? "State" = b.properties.get? "State" := by rw [h]
  simp [properties, Properties.get?, List.lookup_cons] at hstate
  exact ActiveState.code_inj hstate

/-- The properties of a connection, if there is one, tell its state. -/
theorem ActiveConnection.map_state_eq {a b : Option ActiveConnection}
    (h : a.map properties = b.map properties) : a.map state = b.map state := by
  cases a with
  | none =>
    cases b with
    | none => rfl
    | some b => cases h
  | some a =>
    cases b with
    | none => cases h
    | some b => exact congrArg some (state_eq_of_properties_eq (Option.some.inj h))

/-- The properties of the overview tell the state of the network. -/
theorem Overview.state_eq_of_properties_eq {m n : Overview} (h : m.properties = n.properties) :
    m.state = n.state := by
  have hstate : m.properties.get? "State" = n.properties.get? "State" := by rw [h]
  simp [properties, Properties.get?, List.lookup_cons] at hstate
  exact ManagerState.code_inj hstate

/-! ## Changed properties of a device -/

/-- A step announces changed properties of an interface exactly if it is the signal for this. -/
theorem BusStep.changedFace?_eq_some_iff {step : BusStep} {k : String × PropertyInterface} :
    step.changedFace? = some k ↔ ∃ changed, step = .emit (.propertiesChanged k.1 k.2 changed) := by
  constructor
  · intro h
    unfold changedFace? at h
    split at h
    · cases h
      exact ⟨_, rfl⟩
    · cases h
  · rintro ⟨_, rfl⟩
    rfl

namespace DeviceMemo

variable {d e : Device}

/-- A device that appears announces no changed properties. -/
theorem changedFace?_appear {a : DeviceMemo} {step : BusStep} (h : step ∈ a.appear) :
    step.changedFace? = none := by
  simp only [appear, List.mem_append, List.mem_map, List.mem_cons, List.not_mem_nil, or_false] at h
  rcases h with (⟨_, _, rfl⟩ | rfl | rfl) | ⟨_, _, rfl⟩ <;> rfl

/-- A device that disappears announces no changed properties. -/
theorem changedFace?_disappear {a : DeviceMemo} {step : BusStep} (h : step ∈ a.disappear) :
    step.changedFace? = none := by
  simp only [disappear, List.mem_append, List.mem_cons, List.not_mem_nil, or_false] at h
  rcases h with ((rfl | rfl) | h) | rfl | rfl
  · rfl
  · rfl
  · obtain ⟨_, h⟩ := List.mem_ite_nil_right.1 h
    obtain ⟨_, _, rfl⟩ := List.mem_map.1 h
    rfl
  · rfl
  · rfl

/-- The signals about the properties of one interface are at most one. -/
theorem filterMap_faceSignal (old new : DeviceMemo) (f : ObjectRole × PropertyInterface) :
    ((old.faceSignal new f).filterMap BusStep.changedFace?).Nodup ∧
      ∀ k ∈ (old.faceSignal new f).filterMap BusStep.changedFace?,
        k = (f.1.pathKind.path new.number, f.2) := by
  unfold faceSignal keptPropertySignal
  split
  · simp only [propertySignal]
    split <;> simp [BusStep.changedFace?]
  · simp

/-- What a device that stays announces to have changed are its faces, each at most once. -/
theorem filterMap_stay {old new : DeviceMemo} {condition : DeviceCondition}
    (hmedium : old.medium = new.medium) (hpaths : new.paths = .ofNumber new.number) :
    (old.stay new condition).filterMap BusStep.changedFace? =
      (faces new.medium).flatMap fun f =>
        (old.faceSignal new f).filterMap BusStep.changedFace? := by
  have hstates : (stateSignals new.paths.device (condition.reason new.state) old.state
      (old.state.passage new.state)).filterMap BusStep.changedFace? = [] := by
    rw [List.filterMap_eq_nil_iff]
    intro step hstep
    obtain ⟨_, _, rfl⟩ := mem_stateSignals hstep
    rfl
  have hactive : (activeSignals old new).filterMap BusStep.changedFace? = [] := by
    rw [List.filterMap_eq_nil_iff]
    intro step hstep
    obtain ⟨_, _, _, rfl⟩ := mem_activeSignals hstep
    rfl
  have hobjects : ∀ (os : List BusObject) (c : Bool),
      (if c then os.map BusStep.register else []).filterMap BusStep.changedFace? = [] ∧
        (if c then os.map BusStep.unregister else []).filterMap BusStep.changedFace? = [] := by
    intro os c
    cases c <;> simp [BusStep.changedFace?]
  rw [stay_eq _ hmedium hpaths, staySignals]
  simp only [List.filterMap_append, hstates, hactive, hobjects, List.nil_append, List.append_nil,
    List.filterMap_flatMap]

/-- A device that stays announces of no interface twice that its properties changed. -/
theorem nodup_filterMap_stay {old new : DeviceMemo} {condition : DeviceCondition}
    (hmedium : old.medium = new.medium) (hpaths : new.paths = .ofNumber new.number) :
    ((old.stay new condition).filterMap BusStep.changedFace?).Nodup := by
  rw [filterMap_stay hmedium hpaths, List.nodup_flatMap]
  refine ⟨fun f _ => (filterMap_faceSignal old new f).1, ?_⟩
  have hnodup : (faces new.medium).Nodup := by simp [faces]
  refine hnodup.imp_of_mem fun {f g} hf hg hne k hkf hkg => ?_
  have hsame := (filterMap_faceSignal old new f).2 k hkf
  rw [(filterMap_faceSignal old new g).2 k hkg, Prod.mk.injEq, PathKind.path_inj] at hsame
  exact hne (eq_of_mem_faces hf hg hsame.1.1 hsame.2).symm

end DeviceMemo

namespace Network

variable {old new : Network} {i : UInt32}

/-- A block announces changed properties only of a device that stays. -/
theorem changedFace?_block {step : BusStep} {k : String × PropertyInterface}
    (h : step ∈ old.block new i) (hk : step.changedFace? = some k) :
    ∃ d e, old.device? i = some d ∧ new.device? i = some e ∧
      d.paths.number = e.paths.number ∧ d.medium = e.medium ∧
      step ∈ (DeviceMemo.ofDevice d).stay (.ofDevice e) e.condition := by
  refine exists_stays_of_mem_block h (fun a hstep => ?_) fun a hstep => ?_
  · rw [DeviceMemo.changedFace?_appear hstep] at hk
    cases hk
  · rw [DeviceMemo.changedFace?_disappear hstep] at hk
    cases hk

/-- A block announces of no interface twice that its properties changed. -/
theorem nodup_changedFaces_block (old new : Network) (i : UInt32) :
    ((old.block new i).filterMap BusStep.changedFace?).Nodup := by
  by_cases hchanged : ∃ step ∈ old.block new i, ∃ k, step.changedFace? = some k
  · obtain ⟨step, hstep, k, hk⟩ := hchanged
    obtain ⟨d, e, hd, he, hnumber, hmedium, _⟩ := changedFace?_block hstep hk
    rw [block_eq hd he, if_pos ⟨hnumber, hmedium⟩]
    exact DeviceMemo.nodup_filterMap_stay hmedium (wellFormed_of_device? he).paths_eq
  · have hnil : (old.block new i).filterMap BusStep.changedFace? = [] := by
      rw [List.filterMap_eq_nil_iff]
      intro step hstep
      rw [Option.eq_none_iff_forall_ne_some]
      exact fun k hk => hchanged ⟨step, hstep, k, hk⟩
    rw [hnil]
    exact List.nodup_nil

/-- What a block announces to have changed is the difference between what an object showed before
and what it shows now. -/
theorem propertiesChanged_of_mem_block {path : String} {interface : PropertyInterface}
    {changed : Properties}
    (h : .emit (.propertiesChanged path interface changed) ∈ old.block new i) :
    ∃ d o before after, old.device? i = some d ∧ o ∈ d.busObjects ∧ o.path = path ∧
      d.face o.role interface = some before ∧ Properties.SameNames before after ∧
      changed = before.difference after ∧ changed ≠ [] := by
  obtain ⟨d, e, hd, he, hnumber, hmedium, hstep⟩ := changedFace?_block h rfl
  have hpaths := (wellFormed_of_device? he).paths_eq
  rw [DeviceMemo.stay_eq _ hmedium hpaths, List.mem_append, List.mem_append] at hstep
  rcases hstep with hstep | hstep | hstep
  · obtain ⟨_, hstep⟩ := List.mem_ite_nil_right.1 hstep
    simp at hstep
  · rcases DeviceMemo.mem_staySignals hpaths hstep with
      ⟨_, _, _, heq⟩ | ⟨_, _, _, heq⟩ | ⟨role, interface', before, after, hbefore, hafter, hstep⟩
    · cases heq
    · cases heq
    · obtain ⟨hdifferent, heq⟩ := DeviceMemo.mem_propertySignal.1 hstep
      cases heq
      obtain ⟨hmem, _⟩ := DeviceMemo.mem_objects_of_face (wellFormed_of_device? hd) hbefore
      rw [DeviceMemo.face_ofDevice] at hbefore hafter
      refine ⟨d, ⟨role, d.paths.number⟩, before, after, hd, hmem, ?_, hbefore,
        Device.sameNames_face hmedium hbefore hafter, rfl, hdifferent⟩
      rw [BusObject.path, hnumber]
      rfl
  · obtain ⟨_, hstep⟩ := List.mem_ite_nil_right.1 hstep
    simp at hstep

/-- What a block announces to have changed has a path that ends in a number of its interface. -/
theorem path_of_mem_changedFaces {k : String × PropertyInterface}
    (h : k ∈ (old.block new i).filterMap BusStep.changedFace?) :
    ∃ (kind : PathKind) (number : Nat), old.Uses new i number ∧ kind.path number = k.1 := by
  obtain ⟨step, hstep, hk⟩ := List.mem_filterMap.1 h
  obtain ⟨changed, rfl⟩ := BusStep.changedFace?_eq_some_iff.1 hk
  obtain ⟨d, o, _, _, hd, ho, hpath, _⟩ := propertiesChanged_of_mem_block hstep
  refine ⟨o.role.pathKind, o.number, Or.inl ?_, hpath⟩
  rw [number?_of_device? hd, Device.number_of_mem_busObjects ho]

end Network

/-- The signals about the overview announce changed properties of the manager and of the settings
object at most once each. -/
theorem OverviewMemo.changedFaces_change (old new : OverviewMemo) :
    ((old.change new).filterMap BusStep.changedFace?).Nodup ∧
      ∀ k ∈ (old.change new).filterMap BusStep.changedFace?,
        k.1 = managerPath ∨ k.1 = settingsPath := by
  have hsignal : ∀ path interface before after,
      (DeviceMemo.propertySignal path interface before after).filterMap BusStep.changedFace? =
        if (Properties.difference before after).isEmpty then [] else [(path, interface)] := by
    intro path interface before after
    simp only [DeviceMemo.propertySignal]
    split <;> rfl
  have hstate : (if old.state = new.state then []
      else [BusStep.emit (.managerStateChanged new.state)]).filterMap BusStep.changedFace? =
        [] := by
    split <;> rfl
  simp only [change, List.filterMap_append, hsignal, hstate, List.append_nil]
  split <;> split <;> simp

/-! ## Plans without a step -/

namespace DeviceMemo

variable {d e : Device}

/-- Nothing is told of properties that did not change. -/
theorem propertySignal_eq_nil_iff {path : String} {interface : PropertyInterface}
    {old new : Properties} :
    propertySignal path interface old new = [] ↔ Properties.difference old new = [] := by
  unfold propertySignal
  cases Properties.difference old new <;> simp

/-- Nothing is told of an interface exactly if it is not there before and after, or shows the
same. -/
theorem faceSignal_eq_nil_iff (hmedium : d.medium = e.medium)
    (f : ObjectRole × PropertyInterface) :
    (ofDevice d).faceSignal (ofDevice e) f = [] ↔
      ∀ before after, d.face f.1 f.2 = some before → e.face f.1 f.2 = some after →
        before = after := by
  rw [faceSignal, face_ofDevice, face_ofDevice]
  cases hbefore : d.face f.1 f.2 with
  | none => simp [keptPropertySignal]
  | some before =>
    cases hafter : e.face f.1 f.2 with
    | none => simp [keptPropertySignal]
    | some after =>
      have hnames := Device.sameNames_face hmedium hbefore hafter
      rw [keptPropertySignal, propertySignal_eq_nil_iff, Properties.difference_eq_nil_iff hnames]
      simp

/-- No state is told of exactly if the state is the same. -/
theorem stateSignals_eq_nil_iff {path : String} {reason : StateReason} {old new : DeviceState} :
    stateSignals path reason old (old.passage new) = [] ↔ old = new := by
  unfold DeviceState.passage
  split
  · next heq => simp [heq, stateSignals]
  · next hne =>
    split <;> simp [stateSignals, hne]

/-- The state of a connection that stays the same is not told. -/
theorem activeSignals_eq_nil {old new : DeviceMemo}
    (h : old.active.map Prod.fst = new.active.map Prod.fst) : activeSignals old new = [] := by
  unfold activeSignals
  split
  · next hold hnew => simp [hold, hnew] at h
  · next hnew => simp [h, hnew]
  · rfl

/-- What a device shows is part of how it appears. -/
theorem face_eq_of_appearance_eq (h : d.appearance = e.appearance) (role : ObjectRole)
    (interface : PropertyInterface) : d.face role interface = e.face role interface := by
  have hdevice : d.properties = e.properties := congrArg Appearance.device h
  have hspecific : d.mediumProperties = e.mediumProperties := congrArg Appearance.specific h
  have hip4 : d.ip4.map IpConfig.properties = e.ip4.map IpConfig.properties :=
    congrArg Appearance.ip4 h
  have hip6 : d.ip6.map IpConfig.properties = e.ip6.map IpConfig.properties :=
    congrArg Appearance.ip6 h
  have hactive : d.active.map ActiveConnection.properties =
      e.active.map ActiveConnection.properties := congrArg Appearance.active h
  simp only [Device.face, hdevice, hspecific, hip4, hip6, hactive,
    (Device.eq_of_properties_eq hdevice).1]

/-- Two options that are both there or both not, and that agree if they are there, are the same. -/
theorem eq_of_isSome_eq {a b : Option Properties} (hsome : a.isSome = b.isSome)
    (h : ∀ before after, a = some before → b = some after → before = after) : a = b := by
  cases a <;> cases b <;> simp_all

/-- A device that stays needs no step exactly if it appears as before. -/
theorem stay_eq_nil_iff {condition : DeviceCondition} (hd : d.WellFormed) (he : e.WellFormed)
    (hnumber : d.paths.number = e.paths.number) (hmedium : d.medium = e.medium) :
    (ofDevice d).stay (ofDevice e) condition = [] ↔ d.appearance = e.appearance := by
  rw [stay_eq _ hmedium he.paths_eq, staySignals, isConnected_ofDevice hd, isConnected_ofDevice he]
  simp only [List.append_eq_nil_iff, List.flatMap_eq_nil_iff, faceSignal_eq_nil_iff hmedium]
  constructor
  · rintro ⟨hregister, ⟨_, _, hfaces⟩, hunregister⟩
    have hconnected : d.state.isConnected = e.state.isConnected := by
      cases hd' : d.state.isConnected <;> cases he' : e.state.isConnected <;>
        simp [hd', he', connectionObjects] at hregister hunregister ⊢
    have hface : ∀ f ∈ faces e.medium, ∀ before after, d.face f.1 f.2 = some before →
        e.face f.1 f.2 = some after → before = after := hfaces
    have hdevice : d.properties = e.properties :=
      hface (.device e.medium, .device) (by simp [faces]) _ _ (if_pos hmedium.symm) (if_pos rfl)
    have hspecific : d.mediumProperties = e.mediumProperties :=
      hface (.device e.medium, .specific e.medium) (by simp [faces]) _ _
        (if_pos ⟨hmedium.symm, hmedium.symm⟩) (if_pos ⟨rfl, rfl⟩)
    have hip4 : d.ip4.map IpConfig.properties = e.ip4.map IpConfig.properties :=
      eq_of_isSome_eq (by simp [hd.isSome_ip4, he.isSome_ip4, hconnected])
        (hface (.ip4Config, .ip4Config) (by simp [faces]))
    have hip6 : d.ip6.map IpConfig.properties = e.ip6.map IpConfig.properties :=
      eq_of_isSome_eq (by simp [hd.isSome_ip6, he.isSome_ip6, hconnected])
        (hface (.ip6Config, .ip6Config) (by simp [faces]))
    have hactive : d.active.map ActiveConnection.properties =
        e.active.map ActiveConnection.properties :=
      eq_of_isSome_eq (by simp [hd.isSome_active, he.isSome_active, hconnected])
        (hface (.activeConnection, .activeConnection) (by simp [faces]))
    simp only [Device.appearance, hnumber, hdevice, hspecific, hip4, hip6, hactive]
  · intro h
    obtain ⟨_, hstate⟩ := Device.eq_of_properties_eq (congrArg Appearance.device h)
    have hactive : (ofDevice d).active.map Prod.fst = (ofDevice e).active.map Prod.fst := by
      simp only [ofDevice, Option.map_map]
      exact ActiveConnection.map_state_eq (congrArg Appearance.active h)
    refine ⟨by simp [hstate], ⟨stateSignals_eq_nil_iff.2 hstate, activeSignals_eq_nil hactive, ?_⟩,
      by simp [hstate]⟩
    intro f _ before after hbefore hafter
    rw [face_eq_of_appearance_eq h, hafter] at hbefore
    exact (Option.some.inj hbefore).symm

end DeviceMemo

/-- The overview needs no signal exactly if all its announced properties are as before. -/
theorem OverviewMemo.change_eq_nil_iff (m n : Overview) :
    (ofOverview m).change (ofOverview n) = [] ↔
      m.properties = n.properties ∧ m.connectionsProperty = n.connectionsProperty := by
  simp only [change, ofOverview, List.append_eq_nil_iff, DeviceMemo.propertySignal_eq_nil_iff,
    Properties.difference_eq_nil_iff (m.sameNames_properties n),
    Properties.difference_eq_nil_iff (m.sameNames_connectionsProperty n)]
  constructor
  · rintro ⟨⟨hsame, _⟩, hsame'⟩
    exact ⟨hsame, hsame'⟩
  · rintro ⟨hsame, hsame'⟩
    exact ⟨⟨hsame, if_pos (Overview.state_eq_of_properties_eq hsame)⟩, hsame'⟩

/-- The block of an interface is empty exactly if it appears as before. -/
theorem Network.block_eq_nil_iff (old new : Network) (i : UInt32) :
    old.block new i = [] ↔
      (old.device? i).map Device.appearance = (new.device? i).map Device.appearance := by
  have happear : ∀ a : DeviceMemo, a.appear ≠ [] := by
    intro a h
    simp [DeviceMemo.appear] at h
  have hdisappear : ∀ a : DeviceMemo, a.disappear ≠ [] := by
    intro a h
    simp [DeviceMemo.disappear] at h
  cases hd : old.device? i with
  | none =>
    rw [block, hd]
    cases new.device? i with
    | none => exact iff_of_true rfl rfl
    | some e => exact iff_of_false (happear _) (Option.some_ne_none _).symm
  | some d =>
    cases he : new.device? i with
    | none =>
      rw [block, hd, he]
      exact iff_of_false (hdisappear _) (Option.some_ne_none _)
    | some e =>
      rw [block_eq hd he, Option.map_some, Option.map_some, Option.some_inj]
      split
      · next hstays =>
        exact DeviceMemo.stay_eq_nil_iff (wellFormed_of_device? hd) (wellFormed_of_device? he)
          hstays.1 hstays.2
      · next hleaves =>
        refine iff_of_false (by simp [hdisappear]) fun h => hleaves ?_
        exact ⟨congrArg Appearance.number h,
          (Device.eq_of_properties_eq (congrArg Appearance.device h)).1⟩

end LinkBus
