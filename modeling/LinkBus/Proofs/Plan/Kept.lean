import LinkBus.Proofs.Plan.Differences

/-!
# Objects that a plan keeps

A plan keeps an object if it does not unregister it. Then the device of the object has the same
number and the same medium before and after, and the object is still there. What such an object
shows on an interface is compared, and every difference is announced.
-/

namespace LinkBus

/-- An object of a device shows properties on the interfaces that are registered with it. -/
theorem Device.mem_faces_of_mem_interfacesOf {d : Device} {o : BusObject}
    {interface : PropertyInterface} (ho : o ∈ d.busObjects)
    (hi : .announced interface ∈ Bus.interfacesOf o.role) :
    (o.role, interface) ∈ DeviceMemo.faces d.medium := by
  simp only [mem_busObjects, DeviceMemo.connectionObjects, List.mem_cons, List.not_mem_nil,
    or_false] at ho
  rcases ho with (rfl | rfl) | ⟨_, rfl | rfl | rfl⟩ <;>
    simp_all [Bus.interfacesOf, DeviceMemo.faces, DeviceMemo.deviceObject,
      DeviceMemo.settingsObject]

namespace DeviceMemo

variable {d e : Device} {o : BusObject}

/-- A device that disappears takes all its objects with it. -/
theorem unregister_mem_disappear (hd : d.WellFormed) (ho : o ∈ d.busObjects) :
    .unregister o ∈ (ofDevice d).disappear := by
  rw [disappear, isConnected_ofDevice hd]
  rcases Device.mem_busObjects.1 ho with (rfl | rfl) | ⟨hconnected, hconnection⟩
  · simp
  · simp
  · simp [hconnected, hconnection]

/-- A device that stays keeps an object unless it unregisters it. -/
theorem mem_busObjects_of_stay (hd : d.WellFormed) (he : e.WellFormed)
    (hnumber : d.paths.number = e.paths.number) (hmedium : d.medium = e.medium)
    {condition : DeviceCondition} (ho : o ∈ d.busObjects)
    (hkept : .unregister o ∉ (ofDevice d).stay (ofDevice e) condition) : o ∈ e.busObjects := by
  rw [Device.mem_busObjects]
  refine ((mem_busObjects_of_eq hnumber hmedium).1 ho).imp_right fun ⟨hhad, hconnection⟩ => ?_
  refine ⟨?_, hconnection⟩
  by_contra hlost
  apply hkept
  rw [stay_eq _ hmedium he.paths_eq, isConnected_ofDevice hd, isConnected_ofDevice he, hhad,
    Bool.eq_false_iff.2 hlost]
  simp [hconnection]

/-- A property that has another value than before is told of. -/
theorem exists_mem_propertySignal {old new : Properties}
    (hnames : Properties.SameNames old new) {name : String} {value : AnnouncedValue}
    (hvalue : new.get? name = some value) (hdiffers : old.get? name ≠ some value) (path : String)
    (interface : PropertyInterface) :
    ∃ changed, .emit (.propertiesChanged path interface changed) ∈
        propertySignal path interface old new ∧ changed.get? name = some value := by
  have htold := (Properties.get?_difference hnames.nodup).2 ⟨hvalue, hdiffers⟩
  refine ⟨_, mem_propertySignal.2 ⟨fun hnil => ?_, rfl⟩, htold⟩
  rw [hnil] at htold
  cases htold

/-- The signal about what a device that stays shows otherwise than before is sent. -/
theorem mem_stay_of_mem_propertySignal (he : e.WellFormed) (hmedium : d.medium = e.medium)
    {condition : DeviceCondition} {interface : PropertyInterface} {before after : Properties}
    (ho : o ∈ e.busObjects) (hbefore : d.face o.role interface = some before)
    (hafter : e.face o.role interface = some after) {step : BusStep}
    (hstep : step ∈ propertySignal o.path interface before after) :
    step ∈ (ofDevice d).stay (ofDevice e) condition := by
  have hface : (o.role, interface) ∈ faces (ofDevice e).medium := by
    rw [← face_ofDevice] at hafter
    exact mem_faces hafter
  have hpath : o.path = o.role.pathKind.path (ofDevice e).number := by
    rw [BusObject.path, Device.number_of_mem_busObjects ho]
    rfl
  have hsignal : step ∈ (ofDevice d).faceSignal (ofDevice e) (o.role, interface) := by
    rw [faceSignal, face_ofDevice, face_ofDevice, hbefore, hafter, ← hpath]
    exact hstep
  rw [stay_eq _ hmedium he.paths_eq, staySignals]
  simp only [List.mem_append, List.mem_flatMap]
  exact Or.inr (Or.inl (Or.inr (Or.inr ⟨_, hface, hsignal⟩)))

end DeviceMemo

namespace Network

variable {old new : Network} {i : UInt32} {d : Device} {o : BusObject}

/-- If the block of an interface does not unregister an object of the old device, then there is a
new device of the same number and medium that has it too. -/
theorem exists_device_of_kept (hd : old.device? i = some d) (ho : o ∈ d.busObjects)
    (hkept : .unregister o ∉ old.block new i) :
    ∃ e, new.device? i = some e ∧ d.paths.number = e.paths.number ∧ d.medium = e.medium ∧
      o ∈ e.busObjects := by
  have hform := wellFormed_of_device? hd
  cases he : new.device? i with
  | none =>
    rw [block, hd, he] at hkept
    exact absurd (DeviceMemo.unregister_mem_disappear hform ho) hkept
  | some e =>
    rw [block_eq hd he] at hkept
    split at hkept
    · next hstays =>
      exact ⟨e, rfl, hstays.1, hstays.2, DeviceMemo.mem_busObjects_of_stay hform
        (wellFormed_of_device? he) hstays.1 hstays.2 ho hkept⟩
    · rw [List.mem_append, not_or] at hkept
      exact absurd (DeviceMemo.unregister_mem_disappear hform ho) hkept.1

end Network

end LinkBus
