import LinkBus.Network.Devices
import LinkBus.Proofs.Network.Run

/-!
# What a network shows

After any run of updates the network shows exactly the interfaces whose link the filter accepts.
Each is listed once, in the order of the numbers, and each has a device; there is no device of any
other interface. The link records, the set of served links and the numbers in use never disagree.
-/

namespace LinkBus

namespace Network

/-- An interface has a link that the filter puts into the class of served links. -/
def HasServedLink (filter : LinkFilter) (s : Network) (index : UInt32) : Prop :=
  ∃ link, s.inventory.link? index = some link ∧ filter.classOf link = .served

/-! ## The list of interfaces -/

/-- Whatever is shown has a number in use. -/
theorem number?_of_shows {s : Network} {i : UInt32} (h : s.shows i = true) :
    ∃ number, s.numbering.number? i = some number := by
  simp only [shows, Bool.and_eq_true] at h
  exact Option.isSome_iff_exists.1 h.2

/-- The shown interfaces with their numbers, in the order of the numbers. -/
theorem shown_eq_map (s : Network) :
    ∃ numbered : List (Nat × UInt32), s.shown = numbered.map Prod.snd ∧
      numbered.Pairwise (fun p q => Key.code p < Key.code q) ∧
      ∀ number i, (number, i) ∈ numbered ↔
        s.shows i = true ∧ s.numbering.number? i = some number := by
  refine ⟨_, rfl, Table.pairwise_keys _, fun number i => ?_⟩
  rw [Table.mem_keys_ofList]
  simp only [List.mem_filterMap, List.mem_filter, Option.map_eq_some_iff, Prod.mk.injEq]
  constructor
  · rintro ⟨_, j, ⟨_, hshows⟩, _, hnumber, ⟨rfl, rfl⟩, _⟩
    exact ⟨hshows, hnumber⟩
  · rintro ⟨hshows, hnumber⟩
    have hserved : i ∈ s.inventory.served.keys := by
      have hserves := hshows
      simp only [shows, Bool.and_eq_true] at hserves
      exact Table.mem_keys.2 (Table.contains_iff.1 hserves.1.1)
    exact ⟨(), i, ⟨hserved, hshows⟩, number, hnumber, ⟨rfl, rfl⟩, trivial⟩

/-- The list of shown interfaces holds what is shown. -/
theorem mem_shown {s : Network} {i : UInt32} : i ∈ s.shown ↔ s.shows i = true := by
  obtain ⟨numbered, hshown, _, hmem⟩ := s.shown_eq_map
  rw [hshown, List.mem_map]
  constructor
  · rintro ⟨⟨number, j⟩, hj, rfl⟩
    exact ((hmem number j).1 hj).1
  · intro hshows
    obtain ⟨number, hnumber⟩ := number?_of_shows hshows
    exact ⟨(number, i), (hmem number i).2 ⟨hshows, hnumber⟩, rfl⟩

/-- Pairs of a number and an index are ordered by their numbers first. -/
theorem code_pair_lt {p q : Nat × UInt32} (h : Key.code p < Key.code q) :
    p.1 < q.1 ∨ p.1 = q.1 ∧ p.2 ≠ q.2 := by
  obtain ⟨m, i⟩ := p
  obtain ⟨n, j⟩ := q
  simp only [Key.code, List.cons_lt_cons_iff] at h
  rcases h with hlt | ⟨heq, hlt | ⟨_, hnil⟩⟩
  · exact Or.inl hlt
  · refine Or.inr ⟨heq, fun hij => ?_⟩
    simp only at hij
    rw [hij] at hlt
    exact Nat.lt_irrefl _ hlt
  · exact absurd hnil (List.lt_irrefl _)

/-! ## Devices -/

/-- The device of an interface is made of its link and its number. -/
theorem device_eq_ok_iff {s : Network} {i : UInt32} {d : Device} :
    s.device i = .ok d ↔ s.inventory.serves i = true ∧
      ∃ link number, s.inventory.link? i = some link ∧ s.numbering.number? i = some number ∧
        s.deviceOf i link number = d := by
  unfold device
  cases hserves : s.inventory.serves i with
  | false => simp
  | true =>
    cases hlink : s.inventory.link? i with
    | none => simp
    | some link => cases hnumber : s.numbering.number? i <;> simp

/-- An interface has a device exactly if it is shown. -/
theorem exists_device_iff {s : Network} {i : UInt32} :
    (∃ d, s.device i = .ok d) ↔ s.shows i = true := by
  simp only [device_eq_ok_iff, shows, Bool.and_eq_true, Option.isSome_iff_exists]
  constructor
  · rintro ⟨_, hserves, link, number, hlink, hnumber, _⟩
    exact ⟨⟨hserves, link, hlink⟩, number, hnumber⟩
  · rintro ⟨⟨hserves, link, hlink⟩, number, hnumber⟩
    exact ⟨_, hserves, link, number, hlink, hnumber, rfl⟩

/-- Without a device the network is reported to be inconsistent. -/
theorem device_eq_error {s : Network} {i : UInt32} (h : s.shows i = false) :
    ∃ fault text, s.device i = .error fault ∧ fault.toFailure = .inconsistent text := by
  unfold device
  split
  · exact ⟨_, _, rfl, rfl⟩
  · split
    · exact ⟨_, _, rfl, rfl⟩
    · split
      · exact ⟨_, _, rfl, rfl⟩
      · simp_all [shows]

/-- A device is that of the interface that it names. -/
theorem index_of_device {s : Network} {i : UInt32} {d : Device} (h : s.device i = .ok d) :
    d.index = i := by
  obtain ⟨_, link, number, _, _, rfl⟩ := device_eq_ok_iff.1 h
  rfl

/-- The paths of a device end in the number of its interface. -/
theorem paths_of_device {s : Network} {i : UInt32} {d : Device} (h : s.device i = .ok d) :
    ∃ number, s.numbering.number? i = some number ∧ d.paths = .ofNumber number := by
  obtain ⟨_, link, number, _, hnumber, rfl⟩ := device_eq_ok_iff.1 h
  exact ⟨number, hnumber, rfl⟩

/-- The list of devices holds the device of each interface. -/
theorem mem_devices {s : Network} {d : Device} : d ∈ s.devices ↔ s.device d.index = .ok d := by
  have htoOption : ∀ i, (s.device i).toOption = some d ↔ s.device i = .ok d := by
    intro i
    cases s.device i <;> simp [Except.toOption]
  simp only [devices, List.mem_filterMap, htoOption]
  constructor
  · rintro ⟨i, _, hd⟩
    rw [index_of_device hd, hd]
  · intro hd
    exact ⟨d.index, mem_shown.2 (exists_device_iff.1 ⟨d, hd⟩), hd⟩

/-- There is one device for each shown interface, in the same order. -/
theorem map_device_shown (s : Network) : s.shown.map s.device = s.devices.map .ok := by
  have hall : ∀ l : List UInt32, (∀ i ∈ l, s.shows i = true) →
      l.map s.device = (l.filterMap fun i => (s.device i).toOption).map .ok := by
    intro l hl
    induction l with
    | nil => rfl
    | cons i rest ih =>
      obtain ⟨d, hd⟩ := exists_device_iff.2 (hl i List.mem_cons_self)
      rw [List.map_cons, ih fun j hj => hl j (List.mem_cons_of_mem _ hj), hd,
        List.filterMap_cons_some (by rw [hd]; rfl), List.map_cons]
  exact hall s.shown fun i hi => mem_shown.1 hi

/-- The devices name the shown interfaces, in the same order. -/
theorem map_index_devices (s : Network) : s.devices.map Device.index = s.shown := by
  have hall : ∀ l : List UInt32, (∀ i ∈ l, s.shows i = true) →
      (l.filterMap fun i => (s.device i).toOption).map Device.index = l := by
    intro l hl
    induction l with
    | nil => rfl
    | cons i rest ih =>
      obtain ⟨d, hd⟩ := exists_device_iff.2 (hl i List.mem_cons_self)
      rw [List.filterMap_cons_some (by rw [hd]; rfl), List.map_cons, index_of_device hd,
        ih fun j hj => hl j (List.mem_cons_of_mem _ hj)]
  exact hall s.shown fun i hi => mem_shown.1 hi

/-! ## Consistent networks -/

namespace Consistent

variable {filter : LinkFilter} {s : Network}

/-- A consistent network shows exactly what it serves. -/
theorem shows_eq_serves (h : s.Consistent filter) (i : UInt32) :
    s.shows i = s.inventory.serves i := by
  rw [shows, h.isSome_number?]
  cases hserves : s.inventory.serves i with
  | false => rfl
  | true =>
    obtain ⟨link, hlink, _⟩ := (h.wellFormed.serves_iff i).1 hserves
    rw [hlink]
    rfl

/-- A consistent network shows exactly the interfaces whose link the filter accepts. -/
theorem shows_iff (h : s.Consistent filter) (i : UInt32) :
    s.shows i = true ↔ s.HasServedLink filter i := by
  rw [h.shows_eq_serves, h.wellFormed.serves_iff, h.filter_eq]
  simp only [HasServedLink, LinkFilter.serves, beq_iff_eq]

/-- The shown interfaces are listed in the order of their numbers. -/
theorem pairwise_shown (h : s.Consistent filter) :
    s.shown.Pairwise fun i j => ∃ m n, s.numbering.number? i = some m ∧
      s.numbering.number? j = some n ∧ m < n := by
  obtain ⟨numbered, hshown, hsorted, hmem⟩ := s.shown_eq_map
  rw [hshown, List.pairwise_map]
  refine hsorted.imp_of_mem fun {p q} hp hq hlt => ?_
  have hnumber := ((hmem p.1 p.2).1 hp).2
  have hnumber' := ((hmem q.1 q.2).1 hq).2
  refine ⟨p.1, q.1, hnumber, hnumber', ?_⟩
  rcases code_pair_lt hlt with hlt | ⟨heq, hne⟩
  · exact hlt
  · rw [heq] at hnumber
    exact absurd (h.sound.number?_inj hnumber hnumber') hne

/-- No interface is listed twice. -/
theorem nodup_shown (h : s.Consistent filter) : s.shown.Nodup :=
  h.pairwise_shown.imp fun {i j} ⟨m, n, hm, hn, hlt⟩ heq => by
    rw [heq, hn] at hm
    cases hm
    exact Nat.lt_irrefl _ hlt

/-- The device with a number is the listed device whose paths end in it. -/
theorem deviceNumbered_eq_ok_iff (h : s.Consistent filter) {number : Nat} {d : Device} :
    s.deviceNumbered number = .ok d ↔ d ∈ s.devices ∧ d.paths.number = number := by
  rw [mem_devices]
  unfold deviceNumbered
  constructor
  · intro hd
    split at hd
    · next i hi =>
      rw [Option.filter_eq_some_iff, h.sound.holder?_eq_some_iff] at hi
      obtain ⟨number', hnumber, hpaths⟩ := paths_of_device hd
      rw [hi.1] at hnumber
      cases hnumber
      exact ⟨by rw [index_of_device hd, hd], by rw [hpaths]; rfl⟩
    · cases hd
  · rintro ⟨hd, rfl⟩
    obtain ⟨number, hnumber, hpaths⟩ := paths_of_device hd
    have hholder : (s.numbering.holder? d.paths.number).filter s.shows = some d.index := by
      rw [Option.filter_eq_some_iff, h.sound.holder?_eq_some_iff, hpaths]
      exact ⟨hnumber, exists_device_iff.1 ⟨d, hd⟩⟩
    rw [hholder]
    exact hd

end Consistent

/-- After any run of updates from a network that knows nothing, the interfaces with a number in use,
the listed interfaces and the interfaces with a device are those whose link the filter accepts. They
are listed once each, by increasing numbers, and the devices are listed alike; asking for any other
device reports that the network is inconsistent. -/
theorem shown_iff_hasServedLink (filter : LinkFilter) (updates : List Update) :
    let s := (empty filter).updateAll updates
    (∀ i, (∃ number, s.numbering.number? i = some number) ↔ s.HasServedLink filter i) ∧
      (∀ i, i ∈ s.shown ↔ s.HasServedLink filter i) ∧ s.shown.Nodup ∧
      (s.shown.Pairwise fun i j => ∃ m n, s.numbering.number? i = some m ∧
        s.numbering.number? j = some n ∧ m < n) ∧
      (∀ i, (∃ d, s.device i = .ok d) ↔ s.HasServedLink filter i) ∧
      (∀ i, ¬ s.HasServedLink filter i →
        ∃ fault text, s.device i = .error fault ∧ fault.toFailure = .inconsistent text) ∧
      s.shown.map s.device = s.devices.map .ok ∧ s.devices.map Device.index = s.shown := by
  intro s
  have h : s.Consistent filter := (consistent_empty filter).updateAll updates
  refine ⟨fun i => ?_, fun i => ?_, h.nodup_shown, h.pairwise_shown, fun i => ?_, fun i hi => ?_,
    s.map_device_shown, s.map_index_devices⟩
  · rw [← Option.isSome_iff_exists, h.isSome_number?, ← h.shows_eq_serves, h.shows_iff]
  · rw [mem_shown, h.shows_iff]
  · rw [exists_device_iff, h.shows_iff]
  · exact device_eq_error (by rwa [← h.shows_iff, Bool.not_eq_true] at hi)

end Network

end LinkBus
