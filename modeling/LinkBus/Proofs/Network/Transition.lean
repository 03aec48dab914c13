import LinkBus.Proofs.Device.Shape
import Mathlib.Data.List.Nodup

/-!
# From one announced network to the next

The plan that leads the bus from one network to another consists of a block of steps for each
interface that either of them shows, and of signals about the overview. A block has to do with the
numbers that its interface has in use in the two networks. If the second network came out of the
first by updates, no two interfaces have such a number in common.
-/

namespace LinkBus

namespace Network

/-- The steps for one interface on the way from one network to another. -/
def block (old new : Network) (index : UInt32) : List BusStep :=
  BusMemo.deviceSteps ((old.device? index).map DeviceMemo.ofDevice) (new.device? index)

/-- The signals about the overview on the way from one network to another. -/
def overviewBlock (old new : Network) : List BusStep :=
  (OverviewMemo.ofOverview old.overview).change (.ofOverview new.overview)

/-- A block with a device before and after is that of a device that stays, or the old device
disappears and the new one appears. -/
theorem block_eq {old new : Network} {i : UInt32} {d e : Device} (hd : old.device? i = some d)
    (he : new.device? i = some e) :
    old.block new i =
      if d.paths.number = e.paths.number ∧ d.medium = e.medium then
        (DeviceMemo.ofDevice d).stay (.ofDevice e) e.condition
      else (DeviceMemo.ofDevice d).disappear ++ (DeviceMemo.ofDevice e).appear := by
  rw [block, hd, he]
  rfl

/-- A step of a block that neither a device that appears nor one that disappears takes is a step of
a device that stays. -/
theorem exists_stays_of_mem_block {old new : Network} {i : UInt32} {step : BusStep}
    (h : step ∈ old.block new i) (happear : ∀ a : DeviceMemo, step ∉ a.appear)
    (hdisappear : ∀ a : DeviceMemo, step ∉ a.disappear) :
    ∃ d e, old.device? i = some d ∧ new.device? i = some e ∧
      d.paths.number = e.paths.number ∧ d.medium = e.medium ∧
      step ∈ (DeviceMemo.ofDevice d).stay (.ofDevice e) e.condition := by
  cases hd : old.device? i with
  | none =>
    rw [block, hd] at h
    cases he : new.device? i with
    | none =>
      rw [he] at h
      cases h
    | some e =>
      rw [he] at h
      exact absurd h (happear _)
  | some d =>
    cases he : new.device? i with
    | none =>
      rw [block, hd, he] at h
      exact absurd h (hdisappear _)
    | some e =>
      rw [block_eq hd he] at h
      split at h
      · next hstays => exact ⟨d, e, rfl, rfl, hstays.1, hstays.2, h⟩
      · exact absurd h (by simp [happear, hdisappear])

/-- The table that is made of the devices of a network has the device of each interface. -/
theorem find?_ofList_devices {α : Type} (s : Network) (f : Device → α) (i : UInt32) :
    (Table.ofList (s.devices.map fun d => (d.index, f d))).find? i = (s.device? i).map f := by
  have hmem : ∀ j a, (j, a) ∈ s.devices.map (fun d => (d.index, f d)) ↔
      ∃ d, s.device? j = some d ∧ f d = a := by
    intro j a
    simp only [List.mem_map, Prod.mk.injEq]
    constructor
    · rintro ⟨d, hd, rfl, rfl⟩
      exact ⟨d, mem_devices_iff_device?.1 hd, rfl⟩
    · rintro ⟨d, hd, rfl⟩
      exact ⟨d, mem_devices_of_device? hd, index_of_device (device?_eq_some_iff.1 hd), rfl⟩
  have hunique : ∀ j a b, (j, a) ∈ s.devices.map (fun d => (d.index, f d)) →
      (j, b) ∈ s.devices.map (fun d => (d.index, f d)) → a = b := by
    intro j a b ha hb
    obtain ⟨d, hd, rfl⟩ := (hmem j a).1 ha
    obtain ⟨e, he, rfl⟩ := (hmem j b).1 hb
    rw [hd] at he
    cases he
    rfl
  have hfound : ∀ a, _ ↔ _ := fun a => Table.find?_ofList_iff hunique (k := i) (v := a)
  cases hdevice : s.device? i with
  | none =>
    rw [Option.map_none, Option.eq_none_iff_forall_not_mem]
    intro a ha
    obtain ⟨d, hd, _⟩ := (hmem i a).1 ((hfound a).1 ha)
    rw [hdevice] at hd
    cases hd
  | some d => exact (hfound (f d)).2 ((hmem i (f d)).2 ⟨d, hdevice, rfl⟩)

/-- What is planned after a change, with the memory of what was announced, is a block for each
interface that has a device before or after, and the signals about the overview. -/
theorem advance_remember (old new : Network) {changes : Changes} (h : changes.isEmpty = false) :
    ∃ indices : List UInt32, indices.Nodup ∧
      (∀ i, i ∈ indices ↔ (∃ d, old.device? i = some d) ∨ ∃ d, new.device? i = some d) ∧
      (BusMemo.remember old).advance new changes =
        (.remember new, indices.flatMap (old.block new) ++ old.overviewBlock new) := by
  have hold : ∀ i, (BusMemo.remember old).devices.find? i =
      (old.device? i).map DeviceMemo.ofDevice := find?_ofList_devices old _
  have hnew : ∀ i, (BusMemo.deviceTable new).find? i = new.device? i := by
    intro i
    have hfound := find?_ofList_devices new id i
    rwa [Option.map_id_fun, id] at hfound
  refine ⟨(((BusMemo.remember old).devices.keys ++ (BusMemo.deviceTable new).keys).foldl
    IndexSet.add ∅).keys, Table.nodup_keys _, fun i => ?_, ?_⟩
  · have hempty : i ∉ (∅ : IndexSet).keys := List.not_mem_nil
    rw [IndexSet.mem_keys_foldl_add, List.mem_append, Table.mem_keys, Table.mem_keys, hold, hnew]
    simp [hempty]
  · simp only [BusMemo.advance, h, Bool.false_eq_true, if_false, hold, hnew]
    rfl

/-! ## Numbers of one interface -/

/-- An interface has a number in use in one of two networks. -/
def Uses (old new : Network) (i : UInt32) (number : Nat) : Prop :=
  old.numbering.number? i = some number ∨ new.numbering.number? i = some number

/-- The second of two consistent networks came out of the first: no number moved to another
interface. -/
structure Succession (filter : LinkFilter) (old new : Network) : Prop where
  /-- The first network is consistent. -/
  before : old.Consistent filter
  /-- The second network is consistent. -/
  after : new.Consistent filter
  /-- No number moved to another interface. -/
  follows : new.numbering.Follows old.numbering

namespace Succession

variable {filter : LinkFilter} {old new : Network}

/-- Nothing has happened yet. -/
theorem refl {s : Network} (h : s.Consistent filter) : Succession filter s s :=
  ⟨h, h, .refl _⟩

/-- The succession goes on with every update. -/
theorem update (h : Succession filter old new) (u : Update) :
    Succession filter old (new.update u).1 :=
  ⟨h.before, h.after.update u, (new.follows_update u).trans h.follows⟩

/-- A number that is in use before and after belongs to one interface. -/
theorem number?_inj (h : Succession filter old new) {i j : UInt32} {number : Nat}
    (hi : old.numbering.number? i = some number) (hj : new.numbering.number? j = some number) :
    i = j := by
  obtain ⟨a, ha, _, hsame⟩ := Numbering.number?_eq_some_iff.1 hi
  obtain ⟨b, hb, _, hsame'⟩ := Numbering.number?_eq_some_iff.1 hj
  have hle : b.number ≤ old.numbering.last := by
    have hle' := h.before.sound.le_last ha
    omega
  obtain ⟨c, hc, hheld⟩ := h.follows.held hb hle
  exact h.before.sound.unique ha hc (by omega)

/-- Two interfaces have no number in common, neither before nor after. -/
theorem uses_inj (h : Succession filter old new) {i j : UInt32} {number : Nat}
    (hi : old.Uses new i number) (hj : old.Uses new j number) : i = j := by
  rcases hi with hi | hi <;> rcases hj with hj | hj
  · exact h.before.sound.number?_inj hi hj
  · exact h.number?_inj hi hj
  · exact (h.number?_inj hj hi).symm
  · exact h.after.sound.number?_inj hi hj

/-- If what each block gives is given once and has a number of its interface, then nothing is given
twice by several blocks. -/
theorem nodup_flatMap (h : Succession filter old new) {α : Type} {given : UInt32 → List α}
    {r : α → Nat → Prop} (hnumber : ∀ a m n, r a m → r a n → m = n)
    (hnodup : ∀ i, (given i).Nodup)
    (huses : ∀ i, ∀ a ∈ given i, ∃ number, r a number ∧ old.Uses new i number)
    {indices : List UInt32} (hindices : indices.Nodup) : (indices.flatMap given).Nodup := by
  rw [List.nodup_flatMap]
  refine ⟨fun i _ => hnodup i, hindices.imp fun {i j} hne => ?_⟩
  intro a hi hj
  obtain ⟨m, hm, husesi⟩ := huses i a hi
  obtain ⟨n, hn, husesj⟩ := huses j a hj
  rw [hnumber a n m hn hm] at husesj
  exact hne (h.uses_inj husesi husesj)

end Succession

end Network

end LinkBus
