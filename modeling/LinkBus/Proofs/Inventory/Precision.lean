import LinkBus.Proofs.Inventory.Coverage

/-!
# Precise changes

What an event reports to have changed did change. An interface that is listed has another link, other
addresses or another default route through it than before, and the routes are mentioned only if they
are not the same. Since all that changes is reported as well, an event reports no change exactly if
it leaves all tables as they were. A snapshot reports exactly what differs, and a batch of messages
reports at least that.
-/

namespace LinkBus

namespace Inventory

/-- Two inventories know another link or other addresses of an interface. -/
def DiffersAt (old new : Inventory) (i : UInt32) : Prop :=
  new.link? i ≠ old.link? i ∨ new.addressTable i ≠ old.addressTable i

/-- Two inventories know another default route through an interface. -/
def RoutedOtherwise (old new : Inventory) (i : UInt32) : Prop :=
  ∃ k, k.oif = some i ∧ k.prefixLen = 0 ∧ new.routes.find? k ≠ old.routes.find? k

end Inventory

/-- Changes tell precisely in what two inventories differ: they lose nothing and invent nothing. -/
structure Changes.Precise (c : Changes) (old new : Inventory) : Prop where
  /-- No change is reported exactly if all tables are as they were. -/
  isEmpty_iff : c.isEmpty = true ↔ new.links = old.links ∧ new.addresses = old.addresses ∧
    new.routes = old.routes ∧ new.served = old.served
  /-- An interface is listed if its link or its addresses are not the same. -/
  listed : ∀ i, old.DiffersAt new i → i ∈ c.toList
  /-- An interface is listed only if its link, its addresses or a default route through it are not
  the same. -/
  founded : ∀ i ∈ c.toList, old.DiffersAt new i ∨ old.RoutedOtherwise new i
  /-- The routes are mentioned exactly if they are not the same. -/
  routes_iff : c.routes = true ↔ new.routes ≠ old.routes

namespace Inventory

variable {inv : Inventory} {i : UInt32}

/-- The changes of a route list the interface that it goes out of. -/
theorem mem_toList_routeChange {r : Route} : i ∈ (routeChange r).toList ↔ r.oif = some i := by
  have hnone : i ∉ Changes.none.addRoutes.toList := by rintro ⟨⟩
  unfold routeChange
  split
  · next index hoif => simp [hoif, hnone, eq_comm]
  · next hoif => simp [hoif, hnone]

/-! ## One kind of event after the other -/

namespace WellFormed

/-- Who lists a link after a report about it knows another one than before. -/
theorem founded_learnLink (h : inv.WellFormed) {e : LinkReport}
    (hi : i ∈ (inv.learnLink e).2.toList) : (inv.learnLink e).1.link? i ≠ inv.link? i := by
  rw [learnLink] at hi ⊢
  split at hi
  · cases hi
  · next link hnext =>
    by_cases hsame : inv.link? e.index = some link
    · rw [if_pos hsame] at hi
      cases hi
    · rw [if_neg hsame, Changes.mem_toList_addIndex] at hi
      obtain rfl | hi := hi
      · rw [if_neg hsame, link?_putLink, if_pos rfl, h.index_of_nextLink? hnext]
        exact Ne.symm hsame
      · cases hi

/-- Who lists an interface after the removal of its link knew the link or some addresses. -/
theorem founded_forgetLink (h : inv.WellFormed) {index : UInt32}
    (hi : i ∈ (inv.forgetLink index).2.toList) : inv.DiffersAt (inv.forgetLink index).1 i := by
  have hknown : i = index ∧ (inv.links.contains index || inv.addresses.contains index) = true := by
    simp only [forgetLink, Changes.toList] at hi
    split at hi
    · next hknown =>
      rcases IndexSet.mem_keys_add.1 hi with hi | hi
      · exact ⟨hi, hknown⟩
      · cases hi
    · cases hi
  obtain ⟨rfl, hknown⟩ := hknown
  simp only [forgetLink, DiffersAt, link?_removeLink, addressTable_removeLink, if_true]
  rcases Bool.or_eq_true_iff.1 hknown with hlink | haddresses
  · obtain ⟨l, hl⟩ := Table.contains_iff.1 hlink
    left
    rw [link?, hl]
    rintro ⟨⟩
  · obtain ⟨t, ht⟩ := Table.contains_iff.1 haddresses
    right
    intro hempty
    have hnonempty := h.addresses_nonempty ht
    rw [addressTable, ht, Option.getD_some] at hempty
    rw [← hempty] at hnonempty
    cases hnonempty

end WellFormed

/-- Who lists an interface after a report of an address knows other addresses than before. -/
theorem founded_learnAddress {e : AddressReport} (hi : i ∈ (inv.learnAddress e).2.toList) :
    (inv.learnAddress e).1.addressTable i ≠ inv.addressTable i := by
  simp only [learnAddress] at hi ⊢
  split at hi
  · cases hi
  · next hnew =>
    rw [if_neg hnew]
    rcases Changes.mem_toList_addIndex.1 hi with rfl | hi
    · rw [addressTable_setAddresses, if_pos rfl]
      intro hsame
      rw [← hsame, Table.find?_insert_self] at hnew
      exact hnew rfl
    · cases hi

/-- Who lists an interface after the removal of an address knows other addresses than before. -/
theorem founded_forgetAddress {e : AddressReport} (hi : i ∈ (inv.forgetAddress e).2.toList) :
    (inv.forgetAddress e).1.addressTable i ≠ inv.addressTable i := by
  simp only [forgetAddress] at hi ⊢
  split at hi
  · next hknown =>
    rw [if_pos hknown]
    rcases Changes.mem_toList_addIndex.1 hi with rfl | hi
    · rw [addressTable_setAddresses, if_pos rfl]
      intro hsame
      obtain ⟨a, ha⟩ := Table.contains_iff.1 hknown
      rw [← hsame, Table.find?_erase, if_pos rfl] at ha
      cases ha
    · cases hi
  · cases hi

/-- A route that is news was not known under its key. -/
theorem learnRoute_news {e : RouteReport} (hnews : (inv.learnRoute e).2 ≠ .none) :
    e.prefixLen = 0 ∧ (inv.learnRoute e).2 = routeChange (.ofReport e) ∧
      (inv.learnRoute e).1.routes.find? (Route.ofReport e).key ≠
        inv.routes.find? (Route.ofReport e).key := by
  simp only [learnRoute] at hnews ⊢
  split at hnews
  · next hnew =>
    rw [if_pos hnew]
    rw [Bool.and_eq_true_iff, bne_iff_ne] at hnew
    refine ⟨(RouteReport.isTracked_iff.1 hnew.1).1, rfl, ?_⟩
    rw [Table.find?_insert_self]
    exact Ne.symm hnew.2
  · exact absurd rfl hnews

/-- A removed route was known under its key. -/
theorem WellFormed.forgetRoute_news (h : inv.WellFormed) {e : RouteReport}
    (hnews : (inv.forgetRoute e).2 ≠ .none) :
    ∃ old, old.key = (Route.ofReport e).key ∧ e.prefixLen = 0 ∧
      (inv.forgetRoute e).2 = routeChange old ∧
      (inv.forgetRoute e).1.routes.find? old.key ≠ inv.routes.find? old.key := by
  rcases inv.forgetRoute_cases e with ⟨heq, _⟩ | ⟨old, htracked, hold, heq⟩
  · rw [heq] at hnews
    exact absurd rfl hnews
  · have hkey := (h.route_place hold).1
    refine ⟨old, hkey, (RouteReport.isTracked_iff.1 htracked).1, by rw [heq], ?_⟩
    rw [heq, hkey, Table.find?_erase, if_pos rfl, hold]
    rintro ⟨⟩

/-- Who mentions the routes after the removal of a link knew one through it. -/
theorem WellFormed.routes_forgetLink (h : inv.WellFormed) {index : UInt32}
    (hroutes : (inv.forgetLink index).2.routes = true) :
    (inv.forgetLink index).1.routes ≠ inv.routes := by
  obtain ⟨r, hr, hoif⟩ := List.any_eq_true.1 hroutes
  intro hsame
  have hkept : (inv.forgetLink index).1.routes.find? r.key = some r := by
    rw [hsame]
    exact h.mem_values_routes.1 hr
  simp only [forgetLink, Inventory.removeLink, Table.find?_filter, Option.filter_eq_some_iff] at hkept
  rw [beq_iff_eq.1 hoif] at hkept
  simp at hkept

/-! ## All events -/

/-- Who lists an interface after an event knows other things about it than before. -/
theorem WellFormed.founded_hear (h : inv.WellFormed) {e : Event} (hi : i ∈ (inv.hear e).2.toList) :
    inv.DiffersAt (inv.hear e).1 i ∨ inv.RoutedOtherwise (inv.hear e).1 i := by
  have hnews : (inv.hear e).2 ≠ .none := by
    intro hnone
    rw [hnone] at hi
    cases hi
  cases e with
  | newLink e => exact Or.inl (Or.inl (h.founded_learnLink hi))
  | delLink e => exact Or.inl (h.founded_forgetLink hi)
  | newAddress e => exact Or.inl (Or.inr (founded_learnAddress hi))
  | delAddress e => exact Or.inl (Or.inr (founded_forgetAddress hi))
  | newRoute e =>
    obtain ⟨hlength, hchanges, hdiffers⟩ := learnRoute_news hnews
    rw [Inventory.hear, hchanges, mem_toList_routeChange] at hi
    exact Or.inr ⟨_, hi, hlength, hdiffers⟩
  | delRoute e =>
    obtain ⟨old, hkey, hlength, hchanges, hdiffers⟩ := h.forgetRoute_news hnews
    rw [Inventory.hear, hchanges, mem_toList_routeChange] at hi
    refine Or.inr ⟨old.key, hi, ?_, hdiffers⟩
    rw [hkey]
    exact hlength

/-- An event mentions the routes exactly if they are not the same. -/
theorem WellFormed.routes_hear (h : inv.WellFormed) (e : Event) :
    (inv.hear e).2.routes = true ↔ (inv.hear e).1.routes ≠ inv.routes := by
  constructor
  · intro hroutes
    have hnews : (inv.hear e).2 ≠ .none := by
      intro hnone
      rw [hnone] at hroutes
      cases hroutes
    cases e with
    | newLink e =>
      rcases inv.learnLink_cases e with ⟨heq, _⟩ | ⟨link, _, heq⟩ <;>
        rw [Inventory.hear, heq] at hroutes <;> cases hroutes
    | delLink e => exact h.routes_forgetLink hroutes
    | newAddress e =>
      rcases inv.learnAddress_cases e with ⟨heq, _⟩ | heq <;>
        rw [Inventory.hear, heq] at hroutes <;> cases hroutes
    | delAddress e =>
      rcases inv.forgetAddress_cases e with ⟨heq, _⟩ | heq <;>
        rw [Inventory.hear, heq] at hroutes <;> cases hroutes
    | newRoute e =>
      obtain ⟨_, _, hdiffers⟩ := learnRoute_news hnews
      exact fun hsame => hdiffers (congrArg (Table.find? · _) hsame)
    | delRoute e =>
      obtain ⟨_, _, _, _, hdiffers⟩ := h.forgetRoute_news hnews
      exact fun hsame => hdiffers (congrArg (Table.find? · _) hsame)
  · intro hdiffers
    by_contra hroutes
    exact hdiffers (Table.ext_find? ((inv.cover_hear e).route (Bool.eq_false_iff.2 hroutes)))

end Inventory

/-- Who covers the difference of two inventories lists every interface at which they differ. -/
theorem Changes.Cover.listed {c : Changes} {old new : Inventory} (h : c.Cover old new) {i : UInt32}
    (hdiffers : old.DiffersAt new i) : i ∈ c.toList := by
  by_contra hi
  rcases hdiffers with hlink | haddresses
  · exact hlink (h.link hi)
  · exact haddresses (Table.ext_find? (h.address hi))

/-- Who covers the difference of two inventories mentions the routes if they are not the same. -/
theorem Changes.Cover.mentioned {c : Changes} {old new : Inventory} (h : c.Cover old new)
    (hdiffers : new.routes ≠ old.routes) : c.routes = true := by
  by_contra hroutes
  exact hdiffers (Table.ext_find? (h.route (Bool.eq_false_iff.2 hroutes)))

namespace Inventory

variable {inv : Inventory}

/-- Every event reports precisely what it changes. -/
theorem WellFormed.precise_hear (h : inv.WellFormed) (e : Event) :
    (inv.hear e).2.Precise inv (inv.hear e).1 where
  isEmpty_iff := by
    constructor
    · intro hempty
      have hsame := (inv.cover_hear e).eq_of_isEmpty hempty h (h.hear e) (inv.filter_hear e)
      rw [hsame]
      exact ⟨rfl, rfl, rfl, rfl⟩
    · rintro ⟨hlinks, haddresses, hroutes, _⟩
      have hunfounded : ∀ i, i ∉ (inv.hear e).2.toList := by
        intro i hi
        rcases h.founded_hear hi with (hdiffers | hdiffers) | ⟨k, _, _, hdiffers⟩
        · exact hdiffers (by rw [link?, hlinks, link?])
        · exact hdiffers (by rw [addressTable, haddresses, addressTable])
        · exact hdiffers (by rw [hroutes])
      have hnoRoutes : (inv.hear e).2.routes = false :=
        Bool.eq_false_iff.2 fun hmentioned => (h.routes_hear e).1 hmentioned hroutes
      exact Changes.isEmpty_iff.2 ⟨List.eq_nil_iff_forall_not_mem.2 hunfounded, hnoRoutes⟩
  listed _ hdiffers := (inv.cover_hear e).listed hdiffers
  founded _ hi := h.founded_hear hi
  routes_iff := h.routes_hear e

/-- Inventories in form have different tables of addresses exactly where they know different
addresses. -/
theorem WellFormed.addressTable_ne_iff {new : Inventory} (h : inv.WellFormed)
    (hnew : new.WellFormed) {i : UInt32} :
    new.addressTable i ≠ inv.addressTable i ↔ inv.addresses.find? i ≠ new.addresses.find? i := by
  constructor
  · rintro hdiffers hsame
    exact hdiffers (by rw [addressTable, ← hsame, addressTable])
  · rintro hdiffers hsame
    exact hdiffers (by rw [h.find?_addresses, hnew.find?_addresses, hsame])

/-- What a snapshot lists are the interfaces of which it describes another link or other
addresses. -/
theorem WellFormed.mem_toList_replaceBy (h : inv.WellFormed) (snapshot : List Event) {i : UInt32} :
    i ∈ (inv.replaceBy snapshot).2.toList ↔ inv.DiffersAt (ofSnapshot inv.filter snapshot) i := by
  have hfresh : (ofSnapshot inv.filter snapshot).WellFormed :=
    (wellFormed_empty inv.filter).hearAll snapshot
  rw [replaceBy, mem_toList_difference, DiffersAt, h.addressTable_ne_iff hfresh]
  exact or_congr_left ne_comm

/-- Who is served after messages but was not before, or the other way round, has another link. -/
theorem WellFormed.link?_ne_of_serves_ne (h : inv.WellFormed) (messages : List Message)
    {i : UInt32} (hdiffers : (inv.deliverAll messages).1.serves i ≠ inv.serves i) :
    (inv.deliverAll messages).1.link? i ≠ inv.link? i := by
  intro hsame
  apply hdiffers
  rw [Bool.eq_iff_iff, (h.deliverAll messages).serves_iff, h.serves_iff, hsame,
    filter_deliverAll]

/-- Whatever messages came before: an event reports precisely what it changes; a snapshot reports
exactly the interfaces of which it describes another link or other addresses, and whether its routes
differ; and a batch of messages reports every interface whose link, addresses or service differ in
the end, and the routes if they do. -/
theorem changes_account_for_difference (filter : LinkFilter) (messages : List Message) :
    let inv := ((empty filter).deliverAll messages).1
    (∀ e, (inv.hear e).2.Precise inv (inv.hear e).1) ∧
    (∀ snapshot,
      let fresh := ofSnapshot filter snapshot
      (inv.replaceBy snapshot).1 = fresh ∧
      (∀ i, i ∈ (inv.replaceBy snapshot).2.toList ↔ inv.DiffersAt fresh i) ∧
      ((inv.replaceBy snapshot).2.routes = true ↔ fresh.routes ≠ inv.routes)) ∧
    (∀ (numbering : Numbering) (batch : List Message) (now debounce : Nat),
      let s : Network := { inventory := inv, numbering }
      let new := (s.deliver batch now debounce).1.inventory
      let changes := (s.deliver batch now debounce).2
      (∀ i, inv.DiffersAt new i ∨ new.serves i ≠ inv.serves i → i ∈ changes.toList) ∧
      (new.routes ≠ inv.routes → changes.routes = true)) := by
  intro inv
  have h : inv.WellFormed := (wellFormed_empty filter).deliverAll messages
  have hfilter : inv.filter = filter := filter_deliverAll (empty filter) messages
  refine ⟨h.precise_hear, fun snapshot => ?_, fun numbering batch now debounce => ?_⟩
  · rw [← hfilter]
    refine ⟨rfl, fun i => h.mem_toList_replaceBy snapshot, ?_⟩
    simp only [replaceBy, difference, bne_iff_ne]
    exact ne_comm
  · have hcover := inv.cover_deliverAll batch
    refine ⟨?_, hcover.mentioned⟩
    rintro i (hdiffers | hserves)
    · exact hcover.listed hdiffers
    · exact hcover.listed (Or.inl (h.link?_ne_of_serves_ne batch hserves))

end Inventory

end LinkBus
