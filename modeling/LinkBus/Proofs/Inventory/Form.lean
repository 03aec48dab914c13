import LinkBus.Inventory
import LinkBus.Proofs.Table.Contents

/-!
# The form of an inventory

Every record stands at its own place: a link under its index, an address under its link and key, a
route under its key. No link has an empty table of addresses, and the links that are served are
those that the filter accepts. Each event keeps this form, and an inventory in this form is
determined by its filter, its links, its addresses and its routes.
-/

namespace LinkBus

namespace Inventory

/-- The address of a link with a key. -/
def address? (inv : Inventory) (index : UInt32) (key : AddressId) : Option Address :=
  (inv.addressTable index).find? key

/-- Every record stands at its own place, and exactly the links that the filter accepts are
served. -/
structure WellFormed (inv : Inventory) : Prop where
  /-- A link stands under its index. -/
  link_index : ∀ {i l}, inv.link? i = some l → l.index = i
  /-- A link without addresses has no table of them. -/
  addresses_nonempty : ∀ {i t}, inv.addresses.find? i = some t → t.isEmpty = false
  /-- An address stands under its link and its key, and has the family of its number. -/
  address_place : ∀ {i k a}, inv.address? i k = some a →
    a.index = i ∧ a.key = k ∧ a.family = a.address.family
  /-- A route stands under its key, leads everywhere and is not in the local table. -/
  route_place : ∀ {k r}, inv.routes.find? k = some r →
    r.key = k ∧ r.prefixLen = 0 ∧ r.table ≠ localTable
  /-- A link is served if the filter accepts what is known of it. -/
  serves_iff : ∀ i, inv.serves i = true ↔ ∃ l, inv.link? i = some l ∧ inv.filter.serves l = true

/-- The inventory that knows nothing is in form. -/
theorem wellFormed_empty (filter : LinkFilter) : (empty filter).WellFormed where
  link_index h := by cases h
  addresses_nonempty h := by cases h
  address_place h := by cases h
  route_place h := by cases h
  serves_iff i := by simp [serves, empty, Table.contains, link?, EmptyCollection.emptyCollection]

/-- Storing a link changes that link only. -/
@[simp] theorem link?_putLink (inv : Inventory) (link : Link) (i : UInt32) :
    (inv.putLink link).link? i = if i = link.index then some link else inv.link? i :=
  Table.find?_insert ..

/-- A removed link is not known any more, and other links stay as they are. -/
@[simp] theorem link?_removeLink (inv : Inventory) (index i : UInt32) :
    (inv.removeLink index).link? i = if i = index then none else inv.link? i :=
  Table.find?_erase ..

/-- A removed link has no addresses, and those of other links stay as they are. -/
theorem addressTable_removeLink (inv : Inventory) (index i : UInt32) :
    (inv.removeLink index).addressTable i = if i = index then ∅ else inv.addressTable i := by
  simp only [addressTable, removeLink, Table.find?_erase]
  split <;> rfl

/-- Addresses of a removed link are not found any more. -/
@[simp] theorem address?_removeLink (inv : Inventory) (index i : UInt32) (key : AddressId) :
    (inv.removeLink index).address? i key = if i = index then none else inv.address? i key := by
  rw [address?, addressTable_removeLink]
  split <;> rfl

/-- Replacing the addresses of a link replaces those of that link only. -/
theorem addressTable_setAddresses (inv : Inventory) (index i : UInt32)
    (table : Table AddressId Address) :
    (inv.setAddresses index table).addressTable i =
      if i = index then table else inv.addressTable i := by
  simp only [addressTable, setAddresses]
  by_cases hempty : table.isEmpty = true
  · have htable : table = ∅ := Table.ext_find? (Table.isEmpty_iff.1 hempty)
    rw [if_pos hempty, Table.find?_erase]
    split
    · exact htable.symm
    · rfl
  · rw [if_neg hempty, Table.find?_insert]
    split <;> rfl

/-- Addresses are found in the table that replaced those of their link. -/
@[simp] theorem address?_setAddresses (inv : Inventory) (index i : UInt32)
    (table : Table AddressId Address) (key : AddressId) :
    (inv.setAddresses index table).address? i key =
      if i = index then table.find? key else inv.address? i key := by
  rw [address?, addressTable_setAddresses]
  split <;> rfl

namespace WellFormed

variable {inv : Inventory}

/-- Storing a link keeps the form. -/
theorem putLink (h : inv.WellFormed) (link : Link) : (inv.putLink link).WellFormed where
  link_index {i l} hl := by
    rw [link?_putLink] at hl
    split at hl
    · next hi =>
      cases hl
      exact hi.symm
    · exact h.link_index hl
  addresses_nonempty := h.addresses_nonempty
  address_place := h.address_place
  route_place := h.route_place
  serves_iff i := by
    have hold := h.serves_iff i
    rw [link?_putLink]
    simp only [serves, Table.contains_iff, Inventory.putLink] at hold ⊢
    by_cases hserved : inv.filter.serves link = true
    · rw [if_pos hserved, IndexSet.add, Table.find?_insert]
      by_cases hi : i = link.index
      · simp [hi, hserved]
      · simp [hi, hold]
    · rw [if_neg hserved, Table.find?_erase]
      by_cases hi : i = link.index
      · simp [hi, hserved]
      · simp [hi, hold]

/-- Forgetting a link keeps the form. -/
theorem removeLink (h : inv.WellFormed) (index : UInt32) : (inv.removeLink index).WellFormed where
  link_index {i l} hl := by
    rw [link?_removeLink] at hl
    split at hl
    · cases hl
    · exact h.link_index hl
  addresses_nonempty {i t} ht := by
    simp only [Inventory.removeLink, Table.find?_erase] at ht
    split at ht
    · cases ht
    · exact h.addresses_nonempty ht
  address_place {i k a} ha := by
    rw [address?_removeLink] at ha
    split at ha
    · cases ha
    · exact h.address_place ha
  route_place {k r} hr := by
    simp only [Inventory.removeLink, Table.find?_filter, Option.filter_eq_some_iff] at hr
    exact h.route_place hr.1
  serves_iff i := by
    have hold := h.serves_iff i
    rw [link?_removeLink]
    simp only [serves, Table.contains_iff, Inventory.removeLink, Table.find?_erase] at hold ⊢
    by_cases hi : i = index
    · simp [hi]
    · simp [hi, hold]

/-- Replacing the addresses of a link by addresses of that link keeps the form. -/
theorem setAddresses (h : inv.WellFormed) {index : UInt32} {table : Table AddressId Address}
    (htable : ∀ {k a}, table.find? k = some a →
      a.index = index ∧ a.key = k ∧ a.family = a.address.family) :
    (inv.setAddresses index table).WellFormed where
  link_index := h.link_index
  addresses_nonempty {i t} ht := by
    simp only [Inventory.setAddresses] at ht
    by_cases hempty : table.isEmpty = true
    · rw [if_pos hempty, Table.find?_erase] at ht
      split at ht
      · cases ht
      · exact h.addresses_nonempty ht
    · rw [if_neg hempty, Table.find?_insert] at ht
      split at ht
      · cases ht
        simpa using hempty
      · exact h.addresses_nonempty ht
  address_place {i k a} ha := by
    rw [address?_setAddresses] at ha
    split at ha
    · next hi => exact hi ▸ htable ha
    · exact h.address_place ha
  route_place := h.route_place
  serves_iff := h.serves_iff

/-- Replacing the routes by routes that stand at their place keeps the form. -/
theorem setRoutes (h : inv.WellFormed) {routes : Table RouteId Route}
    (hroutes : ∀ {k r}, routes.find? k = some r →
      r.key = k ∧ r.prefixLen = 0 ∧ r.table ≠ localTable) :
    WellFormed { inv with routes } where
  link_index := h.link_index
  addresses_nonempty := h.addresses_nonempty
  address_place := h.address_place
  route_place := hroutes
  serves_iff := h.serves_iff

/-- The table of a link's addresses is kept exactly if there are any. -/
theorem find?_addresses (h : inv.WellFormed) (i : UInt32) :
    inv.addresses.find? i =
      if (inv.addressTable i).isEmpty then none else some (inv.addressTable i) := by
  cases ht : inv.addresses.find? i with
  | none =>
    have htable : inv.addressTable i = ∅ := by rw [addressTable, ht, Option.getD_none]
    rw [htable]
    rfl
  | some t =>
    have htable : inv.addressTable i = t := by rw [addressTable, ht, Option.getD_some]
    rw [htable, h.addresses_nonempty ht]
    rfl

/-- The records of links are the links that are known. -/
theorem mem_values_links (h : inv.WellFormed) {l : Link} :
    l ∈ inv.links.values ↔ inv.link? l.index = some l := by
  rw [Table.mem_values]
  refine ⟨?_, fun hl => ⟨_, hl⟩⟩
  rintro ⟨i, hi⟩
  rw [h.link_index hi]
  exact hi

/-- The records of all tables of addresses are the addresses that are known. -/
theorem mem_values_addresses (h : inv.WellFormed) {a : Address} :
    a ∈ inv.addresses.values.flatMap Table.values ↔ inv.address? a.index a.key = some a := by
  rw [List.mem_flatMap]
  constructor
  · rintro ⟨t, ht, ha⟩
    obtain ⟨i, hi⟩ := Table.mem_values.1 ht
    obtain ⟨k, hk⟩ := Table.mem_values.1 ha
    have hknown : inv.address? i k = some a := by
      rw [address?, addressTable, hi, Option.getD_some, hk]
    obtain ⟨hindex, hkey, _⟩ := h.address_place hknown
    rw [hindex, hkey, hknown]
  · intro ha
    refine ⟨inv.addressTable a.index, ?_, Table.mem_values.2 ⟨a.key, ha⟩⟩
    have hsome : (inv.addressTable a.index).isEmpty ≠ true := by
      intro hempty
      rw [address?, Table.isEmpty_iff.1 hempty] at ha
      cases ha
    exact Table.mem_values.2 ⟨a.index, (h.find?_addresses a.index).trans (if_neg hsome)⟩

/-- The records of routes are the routes that are known. -/
theorem mem_values_routes (h : inv.WellFormed) {r : Route} :
    r ∈ inv.routes.values ↔ inv.routes.find? r.key = some r := by
  rw [Table.mem_values]
  refine ⟨?_, fun hr => ⟨_, hr⟩⟩
  rintro ⟨k, hk⟩
  rw [(h.route_place hk).1]
  exact hk

/-- An inventory in form is determined by its filter, links, addresses and routes. -/
theorem ext {other : Inventory} (h : inv.WellFormed) (hother : other.WellFormed)
    (hfilter : inv.filter = other.filter) (hlinks : ∀ i, inv.link? i = other.link? i)
    (haddresses : ∀ i k, inv.address? i k = other.address? i k)
    (hroutes : ∀ k, inv.routes.find? k = other.routes.find? k) : inv = other := by
  have hserved : inv.served = other.served := Table.ext_find? fun i => by
    have hiff : inv.serves i = true ↔ other.serves i = true := by
      rw [h.serves_iff, hother.serves_iff, hlinks, hfilter]
    simp only [serves, Table.contains] at hiff
    cases hl : inv.served.find? i <;> cases hr : other.served.find? i <;> simp_all
  have htables : inv.addresses = other.addresses := Table.ext_find? fun i => by
    have hsame : inv.addressTable i = other.addressTable i := Table.ext_find? (haddresses i)
    rw [h.find?_addresses, hother.find?_addresses, hsame]
  have hlinkTables : inv.links = other.links := Table.ext_find? hlinks
  have hrouteTables : inv.routes = other.routes := Table.ext_find? hroutes
  cases inv
  cases other
  simp_all

end WellFormed

end Inventory

end LinkBus
