import LinkBus.Proofs.Device.Shape

/-!
# What the blocks of a plan consist of

A device that stays has its new objects registered first and its lost ones unregistered last.
Between these are only signals: about the states that it passes through, about the state of its
connection, and about the properties of objects that were there before and still are.
-/

namespace LinkBus

namespace DeviceMemo

/-- The properties that the object of a role shows on an interface. -/
def face (a : DeviceMemo) : ObjectRole → PropertyInterface → Option Properties
  | .device medium, .device => if medium = a.medium then some a.device else none
  | .device medium, .specific other =>
    if medium = a.medium ∧ other = a.medium then some a.specific else none
  | .ip4Config, .ip4Config => a.ip4
  | .ip6Config, .ip6Config => a.ip6
  | .activeConnection, .activeConnection => a.active.map Prod.snd
  | _, _ => none

/-- The roles and interfaces on which a device of a medium shows properties. -/
def faces (medium : Medium) : List (ObjectRole × PropertyInterface) :=
  [(.device medium, .device), (.device medium, .specific medium), (.ip4Config, .ip4Config),
    (.ip6Config, .ip6Config), (.activeConnection, .activeConnection)]

/-- The signal about properties that a device shows in a role on an interface, before and after. -/
def faceSignal (old new : DeviceMemo) (f : ObjectRole × PropertyInterface) : List BusStep :=
  keptPropertySignal (f.1.pathKind.path new.number) f.2 (old.face f.1 f.2) (new.face f.1 f.2)

/-- The signals for a device that stays: about its states, about the state of its connection, and
about its properties. -/
def staySignals (old new : DeviceMemo) (condition : DeviceCondition) : List BusStep :=
  stateSignals new.paths.device (condition.reason new.state) old.state
      (old.state.passage new.state) ++
    (activeSignals old new ++ (faces new.medium).flatMap (old.faceSignal new))

/-- A device shows properties only in the roles and on the interfaces of its medium. -/
theorem mem_faces {a : DeviceMemo} {role : ObjectRole} {interface : PropertyInterface}
    {m : Properties} (h : a.face role interface = some m) : (role, interface) ∈ faces a.medium := by
  unfold face at h
  split at h
  · obtain ⟨rfl, _⟩ := Option.ite_none_right_eq_some.1 h
    simp [faces]
  · obtain ⟨⟨rfl, rfl⟩, _⟩ := Option.ite_none_right_eq_some.1 h
    simp [faces]
  · simp [faces]
  · simp [faces]
  · simp [faces]
  · cases h

/-- The signals for a device that stays come after the objects of a new connection and before those
of a lost one. -/
theorem stay_eq {old new : DeviceMemo} (condition : DeviceCondition)
    (hmedium : old.medium = new.medium) (hpaths : new.paths = .ofNumber new.number) :
    old.stay new condition =
      (if !old.isConnected && new.isConnected then new.connectionObjects.map .register else []) ++
        (old.staySignals new condition ++
          if old.isConnected && !new.isConnected then new.connectionObjects.map .unregister
          else []) := by
  have hdevice : new.paths.device = PathKind.device.path new.number := by rw [hpaths]; rfl
  have hip4 : new.paths.ip4 = PathKind.ip4.path new.number := by rw [hpaths]; rfl
  have hip6 : new.paths.ip6 = PathKind.ip6.path new.number := by rw [hpaths]; rfl
  have hactive : new.paths.active = PathKind.active.path new.number := by rw [hpaths]; rfl
  simp only [stay, staySignals, faces, List.flatMap_cons, List.flatMap_nil, faceSignal, face,
    hmedium, and_self, if_true, keptPropertySignal.eq_1, ObjectRole.pathKind, hdevice, hip4, hip6,
    hactive, List.append_assoc, List.append_nil]

/-- A passage through states is told by signals about the state of the device. -/
theorem mem_stateSignals {path : String} {reason : StateReason} {old : DeviceState}
    {states : List DeviceState} {step : BusStep} (h : step ∈ stateSignals path reason old states) :
    ∃ new before, step = .emit (.deviceStateChanged path new before reason) := by
  induction states generalizing old with
  | nil => cases h
  | cons new rest ih =>
    rw [stateSignals, List.mem_cons] at h
    rcases h with rfl | h
    · exact ⟨new, old, rfl⟩
    · exact ih h

/-- The state of a connection is told of only if there is or was one. -/
theorem mem_activeSignals {old new : DeviceMemo} {step : BusStep}
    (h : step ∈ activeSignals old new) :
    (old.isConnected = true ∨ new.isConnected = true) ∧
      ∃ state reason, step = .emit (.activeStateChanged new.paths.active state reason) := by
  unfold activeSignals at h
  simp only [isConnected]
  split at h
  · next hold hnew =>
    simp only [List.mem_cons, List.not_mem_nil, or_false] at h
    refine ⟨Or.inl (by rw [hold]; rfl), ?_⟩
    rcases h with rfl | rfl <;> exact ⟨_, _, rfl⟩
  · next hnew =>
    refine ⟨Or.inr (by rw [hnew]; rfl), ?_⟩
    split at h
    · cases h
    · exact ⟨_, _, List.mem_singleton.1 h⟩
  · cases h

/-- The signal about changed properties tells the difference, unless there is none. -/
theorem mem_propertySignal {path : String} {interface : PropertyInterface} {old new : Properties}
    {step : BusStep} : step ∈ propertySignal path interface old new ↔
      Properties.difference old new ≠ [] ∧
        step = .emit (.propertiesChanged path interface (Properties.difference old new)) := by
  unfold propertySignal
  cases hdifference : Properties.difference old new <;> simp

/-- Properties of an object are compared if it was there before and still is. -/
theorem mem_keptPropertySignal {path : String} {interface : PropertyInterface}
    {old new : Option Properties} {step : BusStep}
    (h : step ∈ keptPropertySignal path interface old new) :
    ∃ before after, old = some before ∧ new = some after ∧
      step ∈ propertySignal path interface before after := by
  unfold keptPropertySignal at h
  split at h
  · exact ⟨_, _, rfl, rfl, h⟩
  · cases h

/-- The signals for a device that stays are about its states, about the state of its connection, or
about properties that one of its objects shows before and after. -/
theorem mem_staySignals {old new : DeviceMemo} {condition : DeviceCondition} {step : BusStep}
    (hpaths : new.paths = .ofNumber new.number) (h : step ∈ old.staySignals new condition) :
    (∃ state before reason,
        step = .emit (.deviceStateChanged (PathKind.device.path new.number) state before reason)) ∨
      ((old.isConnected = true ∨ new.isConnected = true) ∧ ∃ state reason,
        step = .emit (.activeStateChanged (PathKind.active.path new.number) state reason)) ∨
      ∃ role interface before after, old.face role interface = some before ∧
        new.face role interface = some after ∧
        step ∈ propertySignal (role.pathKind.path new.number) interface before after := by
  have hdevice : new.paths.device = PathKind.device.path new.number := by rw [hpaths]; rfl
  have hactive : new.paths.active = PathKind.active.path new.number := by rw [hpaths]; rfl
  simp only [staySignals, List.mem_append, hdevice] at h
  rcases h with h | h | h
  · obtain ⟨state, before, rfl⟩ := mem_stateSignals h
    exact Or.inl ⟨state, before, _, rfl⟩
  · obtain ⟨hconnected, state, reason, rfl⟩ := mem_activeSignals h
    exact Or.inr (Or.inl ⟨hconnected, state, reason, by rw [hactive]⟩)
  · obtain ⟨f, _, h⟩ := List.mem_flatMap.1 h
    obtain ⟨before, after, hold, hnew, hstep⟩ := mem_keptPropertySignal h
    exact Or.inr (Or.inr ⟨f.1, f.2, before, after, hold, hnew, hstep⟩)

end DeviceMemo

/-- The signals about the overview are about the properties of the manager and of the settings
object, or about the state of the network as a whole. -/
theorem OverviewMemo.mem_change {old new : OverviewMemo} {step : BusStep} :
    step ∈ old.change new ↔
      step ∈ DeviceMemo.propertySignal managerPath .manager old.properties new.properties ∨
        (old.state ≠ new.state ∧ step = .emit (.managerStateChanged new.state)) ∨
        step ∈ DeviceMemo.propertySignal settingsPath .settings old.settings new.settings := by
  simp only [change, List.mem_append, or_assoc]
  split <;> simp [*]

end LinkBus
