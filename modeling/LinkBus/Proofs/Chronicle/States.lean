import LinkBus.Proofs.Chronicle.Periods
import LinkBus.Proofs.Device.Condition
import Mathlib.Data.List.Chain

/-!
# The announced states of a device

A plan compares the state of a device with the one that was announced last, and tells the changes in
between one after the other. Hence the changes that are told while a device object is registered
follow on from each other without a gap, from the state in which the object was registered to the
one that is announced now, over any number of plans.
-/

namespace LinkBus

/-- A change of the state of a device. -/
structure StateChange where
  /-- The state that is left. -/
  old : DeviceState
  /-- The state that is entered. -/
  new : DeviceState
  deriving DecidableEq, Repr

namespace StateChange

/-- The changes on the way from one state through others. -/
def along : DeviceState → List DeviceState → List StateChange
  | _, [] => []
  | old, new :: rest => ⟨old, new⟩ :: along new rest

/-- The changes on the passage from one state to another. -/
theorem along_passage (a b : DeviceState) :
    along a (a.passage b) =
      if a = b then []
      else if a.isConnected = true ∧ (b = .disconnected ∨ b = .unavailable) then
        [⟨a, .deactivating⟩, ⟨.deactivating, b⟩]
      else [⟨a, b⟩] := by
  cases a <;> cases b <;> rfl

/-- Changes lead from one state to another without a gap. None is without effect, and a state with a
connection is left for one without by way of `deactivating` and never directly. -/
structure Unbroken (first : DeviceState) (changes : List StateChange) (last : DeviceState) :
    Prop where
  /-- The first change leaves the first state. -/
  starts : ∀ x ∈ changes.head?, x.old = first
  /-- Every later change leaves the state that the change before has entered. -/
  follows : changes.IsChain fun x y => y.old = x.new
  /-- The last change enters the last state; without a change this is the first one. -/
  arrives : (changes.getLast?.map new).getD first = last
  /-- Every change leads to another state. -/
  moves : ∀ x ∈ changes, x.old ≠ x.new
  /-- A state with a connection is never left directly for one without. -/
  notDirect : ∀ x ∈ changes, x.old.isConnected = true →
    x.new ≠ .disconnected ∧ x.new ≠ .unavailable
  /-- Only a state with a connection is left for `deactivating`, and the next change leads from
  there to a state without a connection. -/
  tornDown : ∀ k x, changes[k]? = some x → x.new = .deactivating →
    x.old.isConnected = true ∧ ∃ y, changes[k + 1]? = some y ∧ y.old = .deactivating ∧
      (y.new = .disconnected ∨ y.new = .unavailable)

namespace Unbroken

variable {a b c : DeviceState} {changes later : List StateChange}

/-- No change leads from a state to itself. -/
theorem refl (a : DeviceState) : Unbroken a [] a :=
  ⟨fun _ hx => (nomatch hx), .nil, rfl, fun _ hx => (nomatch hx), fun _ hx => (nomatch hx),
    fun _ _ hx => by simp at hx⟩

/-- Changes that follow on from each other form one course. -/
theorem append (h : Unbroken a changes b) (h' : Unbroken b later c) :
    Unbroken a (changes ++ later) c := by
  have hends : ∀ x ∈ changes.getLast?, x.new = b := by
    intro x hx
    have harrives := h.arrives
    rwa [Option.mem_def.1 hx] at harrives
  refine ⟨?_, ?_, ?_, ?_, ?_, ?_⟩
  · intro x hx
    cases hchanges : changes with
    | nil =>
      have hab : a = b := by simpa [hchanges] using h.arrives
      rw [hchanges, List.nil_append] at hx
      rw [hab]
      exact h'.starts x hx
    | cons y rest =>
      rw [hchanges] at hx
      exact h.starts x (by rw [hchanges]; exact hx)
  · refine h.follows.append h'.follows fun x hx y hy => ?_
    rw [hends x hx, h'.starts y hy]
  · rw [List.getLast?_append]
    cases hlater : later.getLast? with
    | none =>
      have hbc : b = c := by simpa [hlater] using h'.arrives
      rw [Option.none_or, h.arrives, hbc]
    | some y => simpa [hlater] using h'.arrives
  · intro x hx
    exact (List.mem_append.1 hx).elim (h.moves x) (h'.moves x)
  · intro x hx
    exact (List.mem_append.1 hx).elim (h.notDirect x) (h'.notDirect x)
  · intro k x hx hnew
    rcases Nat.lt_or_ge k changes.length with hk | hk
    · rw [List.getElem?_append_left hk] at hx
      obtain ⟨hconnected, y, hy, hrest⟩ := h.tornDown k x hx hnew
      have hk' : k + 1 < changes.length := (List.getElem?_eq_some_iff.1 hy).1
      exact ⟨hconnected, y, by rwa [List.getElem?_append_left hk'], hrest⟩
    · rw [List.getElem?_append_right hk] at hx
      obtain ⟨hconnected, y, hy, hrest⟩ := h'.tornDown _ x hx hnew
      refine ⟨hconnected, y, ?_, hrest⟩
      rwa [List.getElem?_append_right (by omega), Nat.sub_add_comm hk]

/-- One change between lasting states that does not lose a connection. -/
theorem single (hmoves : a ≠ b) (hb : b ≠ .deactivating)
    (hkept : a.isConnected = true → b ≠ .disconnected ∧ b ≠ .unavailable) :
    Unbroken a [⟨a, b⟩] b := by
  refine ⟨by simp, .singleton _, rfl, by simpa using hmoves, by simpa using hkept, ?_⟩
  intro k x hx hnew
  match k, hx with
  | 0, hx =>
    obtain rfl := Option.some.inj hx
    exact absurd hnew hb

/-- A lost connection is torn down. -/
theorem torn (hb : b = .disconnected ∨ b = .unavailable) (hconnected : a.isConnected = true) :
    Unbroken a [⟨a, .deactivating⟩, ⟨.deactivating, b⟩] b := by
  have ha : a ≠ .deactivating := by
    rintro rfl
    cases hconnected
  have hb' : b ≠ .deactivating := by
    rintro rfl
    simp at hb
  refine ⟨by simp, by simp, rfl, by simp [ha, Ne.symm hb'], by simp [DeviceState.isConnected], ?_⟩
  intro k x hx hnew
  cases k with
  | zero =>
    obtain rfl := Option.some.inj hx
    exact ⟨hconnected, _, rfl, rfl, hb⟩
  | succ k =>
    cases k with
    | zero =>
      obtain rfl := Option.some.inj hx
      exact absurd hnew hb'
    | succ k => cases hx

/-- The changes on the passage from one lasting state to another. -/
theorem passage (a : DeviceState) (hb : b ≠ .deactivating) :
    Unbroken a (along a (a.passage b)) b := by
  unfold DeviceState.passage
  split
  · next hsame => exact hsame ▸ .refl a
  · next hother =>
    split
    · next hlost =>
      obtain ⟨hconnected, htarget⟩ :
          a.isConnected = true ∧ (b = .disconnected ∨ b = .unavailable) := by
        simpa using hlost
      exact torn htarget hconnected
    · next hkept => exact single hother hb fun hconnected => by simpa [hconnected] using hkept

end Unbroken

end StateChange

/-- The change of a device's state that a signal tells at a path. -/
def Signal.stateChange? (path : String) : Signal → Option StateChange
  | deviceStateChanged path' new old _ => if path' = path then some ⟨old, new⟩ else none
  | _ => none

/-- The states of the device object of a medium with a number. -/
def Topic.deviceStates (medium : Medium) (number : Nat) : Topic StateChange where
  object := ⟨.device medium, number⟩
  told? := Signal.stateChange? (PathKind.device.path number)
  state_of_told {signal a} h := by
    unfold Signal.stateChange? at h
    split at h
    · obtain ⟨rfl, _⟩ := Option.ite_none_right_eq_some.1 h
      exact ⟨rfl, rfl⟩
    · cases h

/-- The state of a device that is shown is a lasting one. -/
theorem Device.IsShown.state_ne_deactivating {d : Device} (h : d.IsShown) :
    d.state ≠ .deactivating := by
  obtain ⟨s, i, hd⟩ := h
  obtain ⟨_, link, number, _, _, rfl⟩ :=
    Network.device_eq_ok_iff.1 (Network.device?_eq_some_iff.1 hd)
  exact DeviceCondition.state_ne_deactivating _

namespace Topic

variable {medium : Medium} {number : Nat} {d e : Device}

/-- A device has the device object of its medium with its number. -/
theorem deviceStates_mem_busObjects :
    (deviceStates medium number).object ∈ d.busObjects ↔
      d.medium = medium ∧ d.paths.number = number := by
  rw [Device.mem_busObjects]
  constructor
  · rintro ((h | h) | ⟨_, h⟩)
    · cases h
      exact ⟨rfl, rfl⟩
    · cases h
    · simp [deviceStates, DeviceMemo.connectionObjects] at h
  · rintro ⟨rfl, rfl⟩
    exact Or.inl (Or.inl rfl)

/-- Signals about a passage through states tell its changes. -/
theorem deviceStates_told_stateSignals (reason : StateReason) (old : DeviceState)
    (states : List DeviceState) :
    (deviceStates medium number).told
        (DeviceMemo.stateSignals (PathKind.device.path number) reason old states) =
      StateChange.along old states := by
  induction states generalizing old with
  | nil => rfl
  | cons new rest ih =>
    have hone : (deviceStates medium number).told?
        (.deviceStateChanged (PathKind.device.path number) new old reason) = some ⟨old, new⟩ :=
      if_pos rfl
    rw [DeviceMemo.stateSignals, told_emit_cons, hone, ih]
    rfl

/-- The signals for a device that stays tell the changes between its states. -/
theorem deviceStates_told_passageSignals (he : e.WellFormed) (hnumber : e.paths.number = number)
    (condition : DeviceCondition) :
    (deviceStates medium number).told
        ((DeviceMemo.ofDevice d).passageSignals (.ofDevice e) condition) =
      StateChange.along d.state (d.state.passage e.state) := by
  have hpath : (DeviceMemo.ofDevice e).paths.device = PathKind.device.path number := by
    change e.paths.device = _
    rw [he.paths_eq, hnumber]
    rfl
  have hactive : (deviceStates medium number).told
      ((DeviceMemo.ofDevice d).activeSignals (.ofDevice e)) = [] := by
    refine told_eq_nil fun step hstep => ?_
    obtain ⟨_, _, _, rfl⟩ := DeviceMemo.mem_activeSignals hstep
    exact ⟨_, rfl, rfl⟩
  rw [DeviceMemo.passageSignals, told_append, hactive, List.append_nil, hpath,
    deviceStates_told_stateSignals]
  rfl

/-- The changes of the state of a device object are unbroken from its registration on. -/
theorem deviceStates_course (medium : Medium) (number : Nat) :
    (deviceStates medium number).Course
      (fun first changes d => StateChange.Unbroken first.state changes d.state)
      (fun first changes => ∃ last, StateChange.Unbroken first.state changes last) := by
  -- A device that stays keeps its device object, so it neither gains nor loses it.
  have hsame : ∀ {d e : Device}, d.paths.number = e.paths.number → d.medium = e.medium →
      ((deviceStates medium number).object ∈ d.busObjects ↔
        (deviceStates medium number).object ∈ e.busObjects) := by
    intro d e hnumber hmedium
    rw [deviceStates_mem_busObjects, deviceStates_mem_busObjects, hnumber, hmedium]
  constructor
  case introduced =>
    intro e he hoe
    exact .refl e.state
  case appears =>
    intro e he hoe
    have hnothing : (deviceStates medium number).told (DeviceMemo.ofDevice e).arrivalSignals =
        [] := by
      refine told_eq_nil fun step hstep => ?_
      obtain ⟨_, _, rfl⟩ := List.mem_map.1 hstep
      exact ⟨_, rfl, rfl⟩
    rw [hnothing]
    exact .refl e.state
  case gains =>
    intro d e hd he hnumber hmedium hod hoe
    exact absurd ((hsame hnumber hmedium).2 hoe) hod
  case stays =>
    intro first d e changes hd he hnumber hmedium hod hoe hgoes
    rw [deviceStates_told_passageSignals he.wellFormed (deviceStates_mem_busObjects.1 hoe).2]
    exact hgoes.append (.passage d.state he.state_ne_deactivating)
  case loses =>
    intro first d e changes hd he hnumber hmedium hod hoe hgoes
    exact absurd ((hsame hnumber hmedium).1 hod) hoe
  case disappears =>
    intro first d changes hd hod hgoes
    exact ⟨d.state, hgoes⟩

end Topic

namespace Chronicle

/-- In every chronicle, the changes of state that are told of a device object between its
registration and the moment when it is unregistered are unbroken, from the state for which it was
registered. While it is registered, they lead to the state of the device in the announced network.
The next plan tells of a device that stays exactly the passage from its announced state to that of
the moment. -/
theorem state_changes_unbroken (filter : LinkFilter) (setup : List Update) (actions : List Action)
    (medium : Medium) (number : Nat) :
    let c := ofRun filter setup actions
    let topic := Topic.deviceStates medium number
    (∀ p ∈ c.periods topic, ∃ first ∈ p.network.devices,
      first.medium = medium ∧ first.paths.number = number ∧
      ∃ last, StateChange.Unbroken first.state p.told last ∧
        (p.ended = false → ∃ d ∈ c.announced.devices,
          d.medium = medium ∧ d.paths.number = number ∧ d.state = last)) ∧
    (∀ d ∈ c.announced.devices, ∀ e ∈ c.network.devices,
      d.medium = medium ∧ d.paths.number = number → e.medium = medium ∧ e.paths.number = number →
      topic.told c.nextSteps =
        if d.state = e.state then []
        else if d.state.isConnected = true ∧ (e.state = .disconnected ∨ e.state = .unavailable) then
          [⟨d.state, .deactivating⟩, ⟨.deactivating, e.state⟩]
        else [⟨d.state, e.state⟩]) := by
  intro c topic
  have hfaithful : c.Faithful filter := .ofRun filter setup actions
  refine ⟨fun p hp => ?_, ?_⟩
  · obtain ⟨first, hfirst, hobject, hends, hgoes⟩ :=
      (Topic.deviceStates_course medium number).of_mem_periods hp
    obtain ⟨hmedium, hnumber⟩ := Topic.deviceStates_mem_busObjects.1 hobject
    refine ⟨first, hfirst, hmedium, hnumber, ?_⟩
    cases hended : p.ended with
    | true =>
      obtain ⟨last, hlast⟩ := hends hended
      exact ⟨last, hlast, fun hgoing => (nomatch hgoing)⟩
    | false =>
      obtain ⟨d, hd, hod, hunbroken⟩ := hgoes hended
      obtain ⟨hmedium', hnumber'⟩ := Topic.deviceStates_mem_busObjects.1 hod
      exact ⟨d.state, hunbroken, fun _ => ⟨d, hd, hmedium', hnumber', rfl⟩⟩
  · rintro d hd e he ⟨rfl, rfl⟩ ⟨hmedium, hnumber⟩
    have heform : e.WellFormed :=
      Network.wellFormed_of_device? (Network.mem_devices_iff_device?.1 he)
    have htold := hfaithful.told_of_stays (t := topic) hd he rfl hnumber.symm hmedium.symm
    rw [htold, Topic.deviceStates_told_passageSignals heform hnumber, StateChange.along_passage]

/-- A link gets an address and loses its carrier, each before a plan. -/
example :
    let report (flags : UInt32) : Event :=
      .newLink { index := 2, name := some "eth0", layerType := 1, flags, oper := some .up }
    let c := ofRun {} [.hear [report 65539] 0 500]
      [.update (.hear [.newAddress { index := 2, address := .v4 0xc0000205 }] 5 500), .plan,
        .update (.hear [report 3] 10 500), .plan]
    (c.periods (Topic.deviceStates .wired 1)).map Period.told =
      [[⟨.disconnected, .activated⟩, ⟨.activated, .deactivating⟩,
        ⟨.deactivating, .unavailable⟩]] := by
  decide +kernel

end Chronicle

end LinkBus
