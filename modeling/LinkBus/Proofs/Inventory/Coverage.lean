import LinkBus.Proofs.Inventory.Effect

/-!
# Reported changes

The changes that an event or a message reports cover all that it changed: a link and its addresses
are as before unless the link is listed, and so are the routes unless they are said to have changed.
In particular nothing changed where no change is reported.
-/

namespace LinkBus

/-- Changes cover the difference between two inventories. -/
structure Changes.Cover (c : Changes) (old new : Inventory) : Prop where
  /-- A link that is not listed is as before. -/
  link : ∀ {i}, i ∉ c.toList → new.link? i = old.link? i
  /-- The addresses of a link that is not listed are as before. -/
  address : ∀ {i}, i ∉ c.toList → ∀ k, new.address? i k = old.address? i k
  /-- The routes are as before unless they are said to have changed. -/
  route : c.routes = false → ∀ k, new.routes.find? k = old.routes.find? k

namespace Changes.Cover

variable {a b : Changes} {inv mid new : Inventory}

/-- Nothing has to be reported where nothing changes. -/
theorem refl (c : Changes) (inv : Inventory) : c.Cover inv inv :=
  ⟨fun _ => rfl, fun _ _ => rfl, fun _ _ => rfl⟩

/-- The changes of two occasions together cover both. -/
theorem union (hfirst : a.Cover inv mid) (hsecond : b.Cover mid new) :
    (a.union b).Cover inv new where
  link {i} hi := by
    rw [mem_toList_union, not_or] at hi
    rw [hsecond.link hi.2, hfirst.link hi.1]
  address {i} hi k := by
    rw [mem_toList_union, not_or] at hi
    rw [hsecond.address hi.2, hfirst.address hi.1]
  route hroutes k := by
    rw [routes_union, Bool.or_eq_false_iff] at hroutes
    rw [hsecond.route hroutes.2, hfirst.route hroutes.1]

/-- Where no change is reported, nothing changed. -/
theorem eq_of_isEmpty (h : a.Cover inv new) (hempty : a.isEmpty = true) (hinv : inv.WellFormed)
    (hnew : new.WellFormed) (hfilter : new.filter = inv.filter) : new = inv := by
  obtain ⟨hindices, hroutes⟩ := isEmpty_iff.1 hempty
  have hnone : ∀ i, i ∉ a.toList := fun i => by simp [hindices]
  exact hnew.ext hinv hfilter (fun i => h.link (hnone i)) (fun i => h.address (hnone i))
    (h.route hroutes)

end Changes.Cover

namespace Inventory

/-- The changes of a route mention the routes. -/
theorem routes_routeChange (r : Route) : (routeChange r).routes = true := by
  unfold routeChange
  split <;> rfl

/-- A stored link is covered by its index. -/
theorem cover_putLink (inv : Inventory) (link : Link) :
    (Changes.none.addIndex link.index).Cover inv (inv.putLink link) := by
  refine ⟨fun {i} hi => ?_, fun _ _ => rfl, fun _ _ => rfl⟩
  rw [Changes.mem_toList_addIndex, not_or] at hi
  rw [link?_putLink, if_neg hi.1]

/-- The new addresses of a link are covered by its index. -/
theorem cover_setAddresses (inv : Inventory) (index : UInt32) (table : Table AddressId Address) :
    (Changes.none.addIndex index).Cover inv (inv.setAddresses index table) := by
  refine ⟨fun _ => rfl, fun {i} hi k => ?_, fun _ _ => rfl⟩
  rw [Changes.mem_toList_addIndex, not_or] at hi
  rw [address?_setAddresses, if_neg hi.1]

/-- New routes are covered by the changes of any route. -/
theorem cover_setRoutes (inv : Inventory) (routes : Table RouteId Route) (r : Route) :
    (routeChange r).Cover inv { inv with routes } := by
  refine ⟨fun _ => rfl, fun _ _ => rfl, fun hroutes => ?_⟩
  rw [routes_routeChange] at hroutes
  cases hroutes

/-- Forgetting a link reports what is lost. -/
theorem cover_forgetLink (inv : Inventory) (index : UInt32) :
    (inv.forgetLink index).2.Cover inv (inv.forgetLink index).1 := by
  have hknown : ∀ {i}, i ∉ (inv.forgetLink index).2.toList → i = index →
      inv.links.find? index = none ∧ inv.addresses.find? index = none := by
    rintro i hi rfl
    simp only [forgetLink, Changes.toList] at hi
    split at hi
    · exact absurd (IndexSet.mem_keys_add.2 (Or.inl rfl)) hi
    · next hunknown => simpa [Table.contains] using hunknown
  constructor
  · intro i hi
    change (inv.removeLink index).link? i = inv.link? i
    rw [link?_removeLink]
    split
    · next heq => rw [heq, link?, (hknown hi heq).1]
    · rfl
  · intro i hi k
    change (inv.removeLink index).address? i k = inv.address? i k
    rw [address?_removeLink]
    split
    · next heq => rw [heq, address?, addressTable, (hknown hi heq).2, Option.getD_none]; rfl
    · rfl
  · intro hroutes k
    change (inv.routes.filter fun _ r => r.oif != some index).find? k = inv.routes.find? k
    simp only [forgetLink, List.any_eq_false] at hroutes
    rw [Table.find?_filter]
    cases hr : inv.routes.find? k with
    | none => rfl
    | some r =>
      have hother := hroutes r (Table.mem_values.2 ⟨k, hr⟩)
      simpa [Option.filter] using hother

/-- Every event reports all that it changes. -/
theorem cover_hear (inv : Inventory) (e : Event) : (inv.hear e).2.Cover inv (inv.hear e).1 := by
  cases e with
  | newLink e =>
    rcases inv.learnLink_cases e with ⟨heq, _⟩ | ⟨link, _, heq⟩
    · rw [hear, heq]
      exact .refl _ _
    · rw [hear, heq]
      exact inv.cover_putLink link
  | delLink e => exact inv.cover_forgetLink e.index
  | newAddress e =>
    rcases inv.learnAddress_cases e with ⟨heq, _⟩ | heq
    · rw [hear, heq]
      exact .refl _ _
    · rw [hear, heq]
      exact inv.cover_setAddresses _ _
  | delAddress e =>
    rcases inv.forgetAddress_cases e with ⟨heq, _⟩ | heq
    · rw [hear, heq]
      exact .refl _ _
    · rw [hear, heq]
      exact inv.cover_setAddresses _ _
  | newRoute e =>
    rcases inv.learnRoute_cases e with ⟨heq, _⟩ | ⟨_, heq⟩
    · rw [hear, heq]
      exact .refl _ _
    · rw [hear, heq]
      exact inv.cover_setRoutes _ _
  | delRoute e =>
    rcases inv.forgetRoute_cases e with ⟨heq, _⟩ | ⟨old, _, _, heq⟩
    · rw [hear, heq]
      exact .refl _ _
    · rw [hear, heq]
      exact inv.cover_setRoutes _ _

/-- Every run of events reports all that it changes. -/
theorem cover_hearAll (inv : Inventory) (events : List Event) :
    (inv.hearAll events).2.Cover inv (inv.hearAll events).1 := by
  refine List.foldlRecOn (motive := fun (p : Inventory × Changes) => p.2.Cover inv p.1) events _
    (.refl _ _) ?_
  rintro ⟨mid, changes⟩ hcover e _
  exact hcover.union (cover_hear mid e)

/-- The difference of two inventories lists the interfaces that they know different links or
addresses of. -/
theorem mem_toList_difference {old new : Inventory} {i : UInt32} :
    i ∈ (old.difference new).toList ↔
      old.links.find? i ≠ new.links.find? i ∨ old.addresses.find? i ≠ new.addresses.find? i := by
  simp only [difference, Changes.toList, IndexSet.mem_keys_foldl_add, List.mem_filter,
    Bool.or_eq_true, bne_iff_ne]
  constructor
  · rintro (⟨_, hdiffers⟩ | hnone)
    · exact hdiffers
    · cases hnone
  · intro hdiffers
    refine Or.inl ⟨?_, hdiffers⟩
    by_contra hunknown
    simp only [List.mem_append, not_or, Table.not_mem_keys] at hunknown
    obtain ⟨⟨⟨hold, hnew⟩, hold'⟩, hnew'⟩ := hunknown
    rcases hdiffers with hlinks | haddresses
    · exact hlinks (hold.trans hnew.symm)
    · exact haddresses (hold'.trans hnew'.symm)

/-- The difference of two inventories covers it. -/
theorem cover_difference (old new : Inventory) : (old.difference new).Cover old new := by
  have hsame : ∀ {i}, i ∉ (old.difference new).toList →
      new.links.find? i = old.links.find? i ∧ new.addresses.find? i = old.addresses.find? i := by
    intro i hi
    rw [mem_toList_difference, not_or, not_not, not_not] at hi
    exact ⟨hi.1.symm, hi.2.symm⟩
  constructor
  · exact fun hi => (hsame hi).1
  · intro i hi k
    rw [address?, addressTable, (hsame hi).2]
    rfl
  · intro hroutes k
    have heq : old.routes = new.routes := by simpa [difference] using hroutes
    rw [heq]

/-- Every message reports all that it changes. -/
theorem cover_deliver (inv : Inventory) (m : Message) :
    (inv.deliver m).2.Cover inv (inv.deliver m).1 := by
  cases m with
  | events events => exact cover_hearAll inv events
  | snapshot events => exact cover_difference inv _

/-- Messages report all that they change. -/
theorem cover_deliverAll (inv : Inventory) (messages : List Message) :
    (inv.deliverAll messages).2.Cover inv (inv.deliverAll messages).1 := by
  refine List.foldlRecOn (motive := fun (p : Inventory × Changes) => p.2.Cover inv p.1) messages _
    (.refl _ _) ?_
  rintro ⟨mid, changes⟩ hcover m _
  exact hcover.union (cover_deliver mid m)

end Inventory

end LinkBus
