import LinkBus.Proofs.Inventory.Hiding
import LinkBus.Proofs.Network.Names
import LinkBus.Proofs.Network.Shown

/-!
# Links that are not served are invisible

Links that are not served after any update of a run leave no trace in what the network shows. The
run without the events about them gives the same numbers, the same devices and the same overview.
-/

namespace LinkBus

/-- An update without the events about hidden links. -/
def Update.without (hidden : UInt32 → Bool) : Update → Update
  | deliver messages now debounce =>
    .deliver (messages.map (Message.without hidden)) now debounce
  | hear events now debounce => .hear (Event.allWithout hidden events) now debounce
  | retire now => .retire now

namespace Inventory

variable {hidden : UInt32 → Bool} {inv : Inventory}

/-- No hidden link is served. -/
def ServesNone (hidden : UInt32 → Bool) (inv : Inventory) : Prop :=
  ∀ i, hidden i = true → inv.serves i = false

/-- Hiding links that are not served leaves the served links as they are. -/
theorem ServesNone.serves_without (h : inv.ServesNone hidden) (i : UInt32) :
    (inv.without hidden).serves i = inv.serves i := by
  rw [Inventory.serves_without]
  cases hi : hidden i with
  | true => rw [h i hi]; rfl
  | false => rfl

/-- Hiding links that are not served leaves the set of served links as it is. -/
theorem ServesNone.served_without (h : inv.ServesNone hidden) :
    (inv.without hidden).served = inv.served := by
  refine IndexSet.ext_mem fun i => ?_
  have hi := h.serves_without i
  rw [Bool.eq_iff_iff] at hi
  rwa [Table.mem_keys, Table.mem_keys, ← Table.contains_iff, ← Table.contains_iff]

/-- Default routes of which none goes through a hidden link are the same without hidden links. -/
theorem filter_defaultRoutes_without {keep : Route → Bool}
    (hkeep : ∀ r, keep r = true → r.oif.any hidden = false) (family : Family) :
    ((inv.without hidden).defaultRoutes family).filter keep =
      (inv.defaultRoutes family).filter keep := by
  simp only [defaultRoutes, without, Table.values_filter, List.filter_filter]
  refine List.filter_congr fun r _ => ?_
  cases hr : keep r with
  | false => rfl
  | true => rw [hkeep r hr]; simp

/-- The default route through a link that is not hidden is the same without hidden links. -/
theorem routeVia?_without {i : UInt32} (hi : hidden i = false) (family : Family) :
    (inv.without hidden).routeVia? i family = inv.routeVia? i family := by
  have hkeep : ∀ r : Route, (r.oif == some i) = true → r.oif.any hidden = false := by
    intro r hr
    rw [beq_iff_eq.1 hr]
    exact hi
  rw [routeVia?, filter_defaultRoutes_without hkeep]
  rfl

/-- The addresses of a link that is not hidden are the same without hidden links. -/
theorem addressesOf_without {i : UInt32} (hi : hidden i = false) :
    (inv.without hidden).addressesOf i = inv.addressesOf i := by
  rw [addressesOf, addressTable_without, hi]
  rfl

end Inventory

namespace Network

/-- The network without hidden links. -/
def without (hidden : UInt32 → Bool) (s : Network) : Network :=
  { s with inventory := s.inventory.without hidden }

variable {filter : LinkFilter} {hidden : UInt32 → Bool} {s : Network}

/-! ## Updates -/

/-- Hiding links that are not served makes no difference to their numbers. -/
theorem renumberOne_without {inv : Inventory} (h : inv.ServesNone hidden) (now debounce : Nat)
    (n : Numbering) (i : UInt32) :
    renumberOne (inv.without hidden) now debounce n i = renumberOne inv now debounce n i := by
  simp only [renumberOne, h.serves_without, Inventory.link?_without]
  cases hi : hidden i with
  | false => rfl
  | true =>
    -- The name counts for a served interface only.
    simp only [h i hi, Bool.and_false]
    exact congrArg Prod.fst (n.note_not_served_congr i _ _ now debounce)

/-- A network without hidden links is consistent if none of them is served. -/
theorem Consistent.without (h : s.Consistent filter) (hnone : s.inventory.ServesNone hidden) :
    (s.without hidden).Consistent filter where
  wellFormed := h.wellFormed.without hidden
  filter_eq := h.filter_eq
  sound := h.sound
  isSome_number? i := (h.isSome_number? i).trans (hnone.serves_without i).symm

/-- The names that go with numbers are those of links, also without the hidden ones. -/
theorem NamesFit.without {inv : Inventory} {n : Numbering} {i : UInt32} (h : NamesFit inv n i)
    (hidden : UInt32 → Bool) : NamesFit (inv.without hidden) n i := by
  intro a link ha hinUse hlink
  rw [Inventory.link?_without] at hlink
  split at hlink
  · cases hlink
  · exact h a link ha hinUse hlink

/-- Renumbering after a change, with any report that covers it without hidden links, leads to the
network without them. -/
theorem renumber_without (h : s.Consistent filter)
    (hfit : ∀ i, NamesFit s.inventory s.numbering i) (hbefore : s.inventory.ServesNone hidden)
    {inventory : Inventory} (hform : inventory.WellFormed)
    (hfilter : inventory.filter = s.inventory.filter) (hafter : inventory.ServesNone hidden)
    {changes reduced : Changes} (hcover : changes.Cover s.inventory inventory)
    (hreduced : reduced.Cover (s.inventory.without hidden) (inventory.without hidden))
    (now debounce : Nat) :
    { s with inventory := inventory.without hidden }.renumber reduced now debounce =
      ({ s with inventory }.renumber changes now debounce).without hidden := by
  have hsame : { s with inventory := inventory.without hidden }.renumber reduced now debounce =
      { s with inventory := inventory.without hidden }.renumber changes now debounce :=
    (h.without hbefore).renumber_eq_of_cover (fun i => (hfit i).without hidden)
      (hform.without hidden) hfilter hreduced (hcover.without h.wellFormed hform hidden)
      now debounce
  have hone : renumberOne (inventory.without hidden) now debounce =
      renumberOne inventory now debounce :=
    funext fun n => funext fun i => renumberOne_without hafter now debounce n i
  rw [hsame]
  simp only [renumber, without, hone]

/-- An update without the events about hidden links leads to the network without them, as long as
none of them is served before or after. -/
theorem update_without (h : s.Consistent filter) (hfit : ∀ i, NamesFit s.inventory s.numbering i)
    {u : Update} (hbefore : s.inventory.ServesNone hidden)
    (hafter : (s.update u).1.inventory.ServesNone hidden) :
    ((s.without hidden).update (u.without hidden)).1 = (s.update u).1.without hidden := by
  cases u with
  | deliver messages now debounce =>
    have hinventory := h.wellFormed.deliverAll_without hidden messages
    have hreduced := (s.inventory.without hidden).cover_deliverAll
      (messages.map (Message.without hidden))
    rw [hinventory] at hreduced
    have hnetwork := renumber_without h hfit hbefore (h.wellFormed.deliverAll messages)
      (s.inventory.filter_deliverAll messages) hafter (s.inventory.cover_deliverAll messages)
      hreduced now debounce
    rw [← hinventory] at hnetwork
    exact hnetwork
  | hear events now debounce =>
    have hinventory := h.wellFormed.hearAll_without hidden events
    have hreduced := (s.inventory.without hidden).cover_hearAll (Event.allWithout hidden events)
    rw [hinventory] at hreduced
    have hnetwork := renumber_without h hfit hbefore (h.wellFormed.hearAll events)
      (s.inventory.filter_hearAll events) hafter (s.inventory.cover_hearAll events)
      hreduced now debounce
    rw [← hinventory] at hnetwork
    exact hnetwork
  | retire now => rfl

/-- After no update of a run a hidden link is served. -/
def ServesNever (filter : LinkFilter) (hidden : UInt32 → Bool) (updates : List Update) : Prop :=
  ∀ first, first <+: updates → ((empty filter).updateAll first).inventory.ServesNone hidden

/-- What is never served in a run is not served in its beginnings. -/
theorem ServesNever.of_prefix {first updates : List Update} (h : ServesNever filter hidden updates)
    (hfirst : first <+: updates) : ServesNever filter hidden first :=
  fun before hbefore => h before (hbefore.trans hfirst)

/-- A run without the events about hidden links that are never served leads to the network without
them. -/
theorem updateAll_without {updates : List Update} (h : ServesNever filter hidden updates) :
    (empty filter).updateAll (updates.map (Update.without hidden)) =
      ((empty filter).updateAll updates).without hidden := by
  induction updates using List.reverseRecOn with
  | nil => rfl
  | append_singleton rest u ih =>
    have hprefix : rest <+: rest ++ [u] := List.prefix_append rest [u]
    rw [List.map_append, updateAll_append, ih (h.of_prefix hprefix), updateAll_append]
    have hafter := h _ List.prefix_rfl
    rw [updateAll_append] at hafter
    exact update_without ((consistent_empty filter).updateAll rest)
      (namesFit_updateAll filter rest) (h rest hprefix) hafter

/-! ## What is shown -/

section Shown

variable (h : s.inventory.ServesNone hidden)
include h

/-- What is shown is not hidden. -/
theorem hidden_eq_false_of_shows {i : UInt32} (hi : s.shows i = true) : hidden i = false := by
  rw [Bool.eq_false_iff]
  intro hhidden
  simp [shows, h i hhidden] at hi

/-- Hidden links are not shown anyway. -/
theorem shows_without (i : UInt32) : (s.without hidden).shows i = s.shows i := by
  cases hi : hidden i with
  | true => simp [shows, without, h.serves_without, h i hi]
  | false => simp [shows, without, h.serves_without, Inventory.link?_without, hi]

/-- The interfaces that are shown are the same without hidden links. -/
theorem shown_without : (s.without hidden).shown = s.shown := by
  have hshows : (s.without hidden).shows = s.shows := funext (shows_without h)
  rw [shown, hshows, without, h.served_without]
  rfl

/-- The activated interfaces are the same without hidden links. -/
theorem isActivated_without (i : UInt32) :
    (s.without hidden).isActivated i = s.isActivated i := by
  rw [isActivated, isActivated, shows_without h]
  cases hi : s.shows i with
  | false => rfl
  | true =>
    have hvisible := hidden_eq_false_of_shows h hi
    simp only [without, Inventory.link?_without, Inventory.addressesOf_without hvisible, hvisible,
      Bool.false_eq_true, if_false]

/-- The interface of the best default route is the same without hidden links. -/
theorem defaultInterface?_without (family : Family) :
    (s.without hidden).defaultInterface? family = s.defaultInterface? family := by
  have hactivated : (s.without hidden).routesActivated = s.routesActivated :=
    funext fun r => congrArg r.oif.any (funext (isActivated_without h))
  have hkeep : ∀ r, s.routesActivated r = true → r.oif.any hidden = false := by
    intro r hr
    obtain ⟨i, hoif, hi⟩ := (Option.any_eq_true _ _).1 hr
    have hshows : s.shows i = true := (Bool.and_eq_true_iff.1 hi).1
    rw [hoif]
    exact hidden_eq_false_of_shows h hshows
  rw [defaultInterface?, hactivated, without, Inventory.filter_defaultRoutes_without hkeep]
  rfl

/-- The device of a shown interface is the same without hidden links. -/
theorem deviceOf_without {i : UInt32} (hi : hidden i = false) (link : Link) (number : Nat) :
    (s.without hidden).deviceOf i link number = s.deviceOf i link number := by
  have hconfig : (s.without hidden).ipConfig i = s.ipConfig i := by
    funext family
    simp only [ipConfig, without, Inventory.addressesOf_without hi,
      Inventory.routeVia?_without hi]
  have hactive : (s.without hidden).activeConnection link i = s.activeConnection link i := by
    funext state type
    simp only [activeConnection, defaultInterface?_without h]
  have haddresses : (s.without hidden).inventory.addressesOf i = s.inventory.addressesOf i :=
    Inventory.addressesOf_without hi
  simp only [deviceOf, hconfig, hactive, haddresses]

/-- Every interface has the same device without hidden links, if it has one. -/
theorem device_without (i : UInt32) : (s.without hidden).device i = s.device i := by
  have hserves : (s.without hidden).inventory.serves i = s.inventory.serves i :=
    h.serves_without i
  rw [device, device, hserves]
  cases hi : hidden i with
  | true =>
    rw [h i hi]
    rfl
  | false =>
    have hlink : (s.without hidden).inventory.link? i = s.inventory.link? i :=
      (s.inventory.link?_without hidden i).trans (by rw [hi]; rfl)
    simp only [hlink, deviceOf_without h hi]
    rfl

/-- The devices are the same without hidden links. -/
theorem devices_without : (s.without hidden).devices = s.devices := by
  simp only [devices, shown_without h, device_without h]

/-- A device is shown to lead everywhere alike without hidden links. -/
theorem isGlobal_without {d : Device} (hd : d ∈ s.devices) :
    (s.without hidden).isGlobal d = s.isGlobal d := by
  have hshows : s.shows d.index = true := exists_device_iff.1 ⟨d, mem_devices.1 hd⟩
  have hvisible := hidden_eq_false_of_shows h hshows
  simp only [isGlobal, without, Inventory.routeVia?_without hvisible]

/-- The overview is the same without hidden links. -/
theorem overview_without : (s.without hidden).overview = s.overview := by
  have hglobal : s.devices.any (s.without hidden).isGlobal = s.devices.any s.isGlobal := by
    rw [Bool.eq_iff_iff, List.any_eq_true, List.any_eq_true]
    exact exists_congr fun d => and_congr_right fun hd => by rw [isGlobal_without h hd]
  have hstate : (s.without hidden).managerState s.devices = s.managerState s.devices := by
    rw [managerState, hglobal]
    rfl
  have hprimary : (s.without hidden).primary? s.devices = s.primary? s.devices := by
    simp only [primary?, defaultInterface?_without h]
  simp only [overview, devices_without h, hstate, hprimary]

end Shown

end Network

end LinkBus
