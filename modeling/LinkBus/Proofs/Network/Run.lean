import LinkBus.Network
import LinkBus.Proofs.Inventory.Coverage
import LinkBus.Proofs.Numbering.Ownership

/-!
# Runs of a network

A network is updated by batches of messages, by events, and by retiring parked numbers, at any times
and in any order. Three things hold after every update: the inventory is in form, the numbers are
sound, and exactly the served interfaces have a number in use. An update that reports no change
leaves the network as it was.
-/

namespace LinkBus

/-- One update of a network: at some time messages arrive, or events do, or parked numbers whose
time has come are retired. -/
inductive Update
  | deliver (messages : List Message) (now debounce : Nat)
  | hear (events : List Event) (now debounce : Nat)
  | retire (now : Nat)
  deriving DecidableEq, Repr

namespace Network

/-- The network after an update, and what changed. -/
def update (s : Network) : Update → Network × Changes
  | .deliver messages now debounce => s.deliver messages now debounce
  | .hear events now debounce => s.hearAll events now debounce
  | .retire now => s.retireDue now

/-- The network after updates. -/
def updateAll (s : Network) (updates : List Update) : Network :=
  updates.foldl (fun s u => (s.update u).1) s

/-- Updates are taken one after the other. -/
theorem updateAll_append (s : Network) (first later : List Update) :
    s.updateAll (first ++ later) = (s.updateAll first).updateAll later := List.foldl_append

/-- The inventory is in form, the numbers are sound, and exactly the served interfaces have a number
in use. -/
structure Consistent (filter : LinkFilter) (s : Network) : Prop where
  /-- The inventory is in form. -/
  wellFormed : s.inventory.WellFormed
  /-- The filter decides which interfaces are served. -/
  filter_eq : s.inventory.filter = filter
  /-- The numbers are sound. -/
  sound : s.numbering.Sound
  /-- Exactly the served interfaces have a number in use. -/
  isSome_number? : ∀ i, (s.numbering.number? i).isSome = s.inventory.serves i

/-- The network before anything is known is consistent. -/
theorem consistent_empty (filter : LinkFilter) : (empty filter).Consistent filter where
  wellFormed := Inventory.wellFormed_empty filter
  filter_eq := rfl
  sound := Numbering.sound_empty
  isSome_number? _ := rfl

/-- After renumbering, the touched interfaces have a number in use if they are served, and the
others if they had one before. -/
theorem isSome_number?_foldl {inv : Inventory} (h : inv.WellFormed) (now debounce : Nat)
    (touched : List UInt32) (n : Numbering) (i : UInt32) :
    ((touched.foldl (renumberOne inv now debounce) n).number? i).isSome =
      if i ∈ touched then inv.serves i else (n.number? i).isSome := by
  have hserves : ∀ j, ((inv.link? j).isSome && inv.serves j) = inv.serves j := by
    intro j
    cases hj : inv.serves j with
    | false => exact Bool.and_false _
    | true =>
      obtain ⟨l, hl, _⟩ := (h.serves_iff j).1 hj
      rw [hl]
      rfl
  induction touched generalizing n with
  | nil => rfl
  | cons j rest ih =>
    rw [List.foldl_cons, ih]
    by_cases hrest : i ∈ rest
    · rw [if_pos hrest, if_pos (List.mem_cons_of_mem _ hrest)]
    · rw [if_neg hrest]
      by_cases hi : i = j
      · subst hi
        rw [if_pos List.mem_cons_self, renumberOne, Numbering.isSome_number?_note, hserves]
      · rw [if_neg (by simp [hi, hrest]), Numbering.number?, renumberOne,
          Numbering.find?_note_of_ne hi, ← Numbering.number?]

/-- Renumbering keeps numbers sound. -/
theorem sound_foldl {n : Numbering} (h : n.Sound) (inv : Inventory) (now debounce : Nat)
    (touched : List UInt32) : (touched.foldl (renumberOne inv now debounce) n).Sound :=
  List.foldlRecOn touched _ h fun _ hmid i _ => hmid.note i _ _ now debounce

/-- Renumbering moves no number that was given before. -/
theorem follows_foldl (n : Numbering) (inv : Inventory) (now debounce : Nat)
    (touched : List UInt32) : (touched.foldl (renumberOne inv now debounce) n).Follows n :=
  List.foldlRecOn (motive := fun (m : Numbering) => m.Follows n) touched _ (.refl n)
    fun mid hmid i _ => (mid.follows_note i _ _ now debounce).trans hmid

namespace Consistent

variable {filter : LinkFilter} {s : Network}

/-- A network stays consistent if its inventory changes within what is reported and the reported
interfaces are renumbered. -/
theorem renumber (h : s.Consistent filter) {inventory : Inventory} {changes : Changes}
    (hform : inventory.WellFormed) (hfilter : inventory.filter = s.inventory.filter)
    (hcover : changes.Cover s.inventory inventory) (now debounce : Nat) :
    ({ s with inventory }.renumber changes now debounce).Consistent filter where
  wellFormed := hform
  filter_eq := hfilter.trans h.filter_eq
  sound := sound_foldl h.sound inventory now debounce changes.toList
  isSome_number? i := by
    change ((changes.toList.foldl _ s.numbering).number? i).isSome = inventory.serves i
    rw [isSome_number?_foldl hform]
    split
    · rfl
    · next hi =>
      rw [h.isSome_number?, Bool.eq_iff_iff, h.wellFormed.serves_iff, hform.serves_iff,
        hcover.link hi, hfilter]

/-- Every update keeps a network consistent. -/
theorem update (h : s.Consistent filter) (u : Update) : (s.update u).1.Consistent filter := by
  cases u with
  | deliver messages now debounce =>
    exact h.renumber (h.wellFormed.deliverAll messages) (s.inventory.filter_deliverAll messages)
      (s.inventory.cover_deliverAll messages) now debounce
  | hear events now debounce =>
    exact h.renumber (h.wellFormed.hearAll events) (s.inventory.filter_hearAll events)
      (s.inventory.cover_hearAll events) now debounce
  | retire now =>
    exact ⟨h.wellFormed, h.filter_eq, h.sound.retireDue now,
      fun i => (congrArg Option.isSome (s.numbering.number?_retireDue now i)).trans
        (h.isSome_number? i)⟩

/-- Every run of updates keeps a network consistent. -/
theorem updateAll (h : s.Consistent filter) (updates : List Update) :
    (s.updateAll updates).Consistent filter :=
  List.foldlRecOn updates _ h fun _ hmid u _ => hmid.update u

/-- Nothing is retired where nothing is reported to be retired. -/
theorem retireDue_of_isEmpty (now : Nat) (hempty : (s.retireDue now).2.isEmpty = true) :
    (s.retireDue now).1 = s := by
  have hnone : (s.numbering.retireDue now).2 = [] := by
    obtain ⟨hindices, _⟩ := Changes.isEmpty_iff.1 hempty
    rw [List.eq_nil_iff_forall_not_mem]
    intro i hi
    have hlisted : i ∈ (s.retireDue now).2.toList :=
      Changes.mem_toList_foldl_addIndex.2 (Or.inl hi)
    rw [hindices] at hlisted
    cases hlisted
  have hsame : (s.numbering.retireDue now).1.holdings = s.numbering.holdings := by
    apply Table.ext_find?
    intro i
    rw [Numbering.find?_retireDue]
    cases hfound : s.numbering.holdings.find? i with
    | none => rfl
    | some a =>
      have hnotDue : Numbering.isDue now a = false := by
        by_contra hdue
        have hi : i ∈ (s.numbering.retireDue now).2 := by
          refine Table.mem_keys.2 ⟨a, ?_⟩
          rw [Table.find?_filter, hfound]
          simpa [Option.filter] using hdue
        rw [hnone] at hi
        cases hi
      simp [Option.filter, hnotDue]
  cases s
  simp only [Network.retireDue, Numbering.retireDue] at hsame ⊢
  rw [hsame]

/-- An update that reports no change leaves the network as it was. -/
theorem update_of_isEmpty (h : s.Consistent filter) {u : Update}
    (hempty : (s.update u).2.isEmpty = true) : (s.update u).1 = s := by
  have hrenumber : ∀ {inventory changes now debounce}, changes.isEmpty = true →
      inventory = s.inventory → ({ s with inventory }.renumber changes now debounce) = s := by
    rintro inventory changes now debounce hnone rfl
    simp only [Network.renumber, (Changes.isEmpty_iff.1 hnone).1, List.foldl_nil]
  cases u with
  | deliver messages now debounce =>
    exact hrenumber hempty ((s.inventory.cover_deliverAll messages).eq_of_isEmpty hempty
      h.wellFormed (h.wellFormed.deliverAll messages) (s.inventory.filter_deliverAll messages))
  | hear events now debounce =>
    exact hrenumber hempty ((s.inventory.cover_hearAll events).eq_of_isEmpty hempty
      h.wellFormed (h.wellFormed.hearAll events) (s.inventory.filter_hearAll events))
  | retire now => exact retireDue_of_isEmpty now hempty

end Consistent

/-- No update moves a number that was given before. -/
theorem follows_update (s : Network) (u : Update) :
    (s.update u).1.numbering.Follows s.numbering := by
  cases u with
  | deliver messages now debounce => exact follows_foldl _ _ now debounce _
  | hear events now debounce => exact follows_foldl _ _ now debounce _
  | retire now => exact s.numbering.follows_retireDue now

/-- No updates move a number that was given before. -/
theorem follows_updateAll (s : Network) (updates : List Update) :
    (s.updateAll updates).numbering.Follows s.numbering :=
  List.foldlRecOn (motive := fun (t : Network) => t.numbering.Follows s.numbering) updates _
    (.refl _) fun mid hmid u _ => (mid.follows_update u).trans hmid

end Network

end LinkBus
