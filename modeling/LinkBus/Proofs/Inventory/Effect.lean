import LinkBus.Network
import LinkBus.Proofs.Inventory.Form

/-!
# The effect of events on single records

What an event makes of one link, of one address and of one route depends on that record alone: on
what was known of it before, and on the event. A run of events therefore acts on each record on its
own. All events and messages keep the form of an inventory and its filter.
-/

namespace LinkBus

namespace Event

/-- What is known of a link after an event. -/
def onLink (index : UInt32) (link : Option Link) : Event → Option Link
  | .newLink e =>
    if e.index = index then
      match link with
      | some current => some (current.after e)
      | none => if e.lacksName then none else some (.ofReport e)
    else link
  | .delLink e => if e.index = index then none else link
  | _ => link

/-- What is known of an address of a link after an event. -/
def onAddress (index : UInt32) (key : AddressId) (address : Option Address) :
    Event → Option Address
  | .newAddress e =>
    if e.index = index ∧ (Address.ofReport e).key = key then some (.ofReport e) else address
  | .delAddress e =>
    if e.index = index ∧ (Address.ofReport e).key = key then none else address
  | .delLink e => if e.index = index then none else address
  | _ => address

/-- What is known of a route after an event. -/
def onRoute (key : RouteId) (route : Option Route) : Event → Option Route
  | .newRoute e => if e.isTracked ∧ (Route.ofReport e).key = key then some (.ofReport e) else route
  | .delRoute e => if e.isTracked ∧ (Route.ofReport e).key = key then none else route
  | .delLink e => if key.oif = some e.index then none else route
  | _ => route

end Event

/-- A tracked route is a default route outside the local table. -/
theorem RouteReport.isTracked_iff {e : RouteReport} :
    e.isTracked = true ↔ e.prefixLen = 0 ∧ e.unicast = true ∧ e.table ≠ localTable := by
  simp [isTracked, and_assoc]

namespace Inventory

/-- A report about a link either leads to no news or to the next record of that link. -/
theorem learnLink_cases (inv : Inventory) (e : LinkReport) :
    (inv.learnLink e = (inv, .none) ∧ inv.nextLink? e = inv.link? e.index) ∨
      ∃ link, inv.nextLink? e = some link ∧
        inv.learnLink e = (inv.putLink link, Changes.none.addIndex link.index) := by
  unfold learnLink
  cases hnext : inv.nextLink? e with
  | none =>
    refine Or.inl ⟨rfl, ?_⟩
    unfold nextLink? at hnext
    cases hlink : inv.link? e.index with
    | none => rfl
    | some current => simp [hlink] at hnext
  | some link =>
    by_cases hsame : inv.link? e.index = some link
    · exact Or.inl ⟨if_pos hsame, hsame.symm⟩
    · exact Or.inr ⟨link, rfl, if_neg hsame⟩

/-- An address that is known already leads to no news; any other is stored. -/
theorem learnAddress_cases (inv : Inventory) (e : AddressReport) :
    (inv.learnAddress e = (inv, .none) ∧
        inv.address? e.index (Address.ofReport e).key = some (.ofReport e)) ∨
      inv.learnAddress e =
        (inv.setAddresses e.index
            ((inv.addressTable e.index).insert (Address.ofReport e).key (.ofReport e)),
          Changes.none.addIndex e.index) := by
  unfold learnAddress
  by_cases hknown : inv.address? e.index (Address.ofReport e).key = some (.ofReport e)
  · exact Or.inl ⟨if_pos hknown, hknown⟩
  · exact Or.inr (if_neg hknown)

/-- The removal of an unknown address leads to no news; a known one is erased. -/
theorem forgetAddress_cases (inv : Inventory) (e : AddressReport) :
    (inv.forgetAddress e = (inv, .none) ∧
        inv.address? e.index (Address.ofReport e).key = none) ∨
      inv.forgetAddress e =
        (inv.setAddresses e.index ((inv.addressTable e.index).erase (Address.ofReport e).key),
          Changes.none.addIndex e.index) := by
  unfold forgetAddress
  by_cases hknown : (inv.addressTable e.index).contains (Address.ofReport e).key = true
  · exact Or.inr (if_pos hknown)
  · refine Or.inl ⟨if_neg hknown, ?_⟩
    simpa [Table.contains, address?] using hknown

/-- A route that is not tracked or known already leads to no news; any other is stored. -/
theorem learnRoute_cases (inv : Inventory) (e : RouteReport) :
    (inv.learnRoute e = (inv, .none) ∧
        (e.isTracked = true → inv.routes.find? (Route.ofReport e).key = some (.ofReport e))) ∨
      (e.isTracked = true ∧ inv.learnRoute e =
        ({ inv with routes := inv.routes.insert (Route.ofReport e).key (.ofReport e) },
          routeChange (.ofReport e))) := by
  unfold learnRoute
  by_cases hnews :
      (e.isTracked && inv.routes.find? (Route.ofReport e).key != some (.ofReport e)) = true
  · exact Or.inr ⟨(Bool.and_eq_true_iff.1 hnews).1, if_pos hnews⟩
  · refine Or.inl ⟨if_neg hnews, fun htracked => ?_⟩
    simpa [htracked] using hnews

/-- The removal of a route that is not tracked or unknown leads to no news; any other is erased. -/
theorem forgetRoute_cases (inv : Inventory) (e : RouteReport) :
    (inv.forgetRoute e = (inv, .none) ∧
        (e.isTracked = true → inv.routes.find? (Route.ofReport e).key = none)) ∨
      ∃ old, e.isTracked = true ∧ inv.routes.find? (Route.ofReport e).key = some old ∧
        inv.forgetRoute e =
          ({ inv with routes := inv.routes.erase (Route.ofReport e).key }, routeChange old) := by
  unfold forgetRoute
  by_cases htracked : e.isTracked = true
  · simp only [if_pos htracked]
    cases hold : inv.routes.find? (Route.ofReport e).key with
    | none => exact Or.inl ⟨rfl, fun _ => rfl⟩
    | some old => exact Or.inr ⟨old, htracked, rfl, rfl⟩
  · simp [htracked]

/-- A report about a link leaves the addresses and the routes alone. -/
theorem learnLink_frame (inv : Inventory) (e : LinkReport) :
    ∃ links served, (inv.learnLink e).1 = { inv with links, served } := by
  rcases inv.learnLink_cases e with ⟨heq, _⟩ | ⟨_, _, heq⟩
  · exact ⟨_, _, by rw [heq]⟩
  · exact ⟨_, _, by rw [heq, putLink]⟩

/-- A report about an address leaves the links and the routes alone. -/
theorem learnAddress_frame (inv : Inventory) (e : AddressReport) :
    ∃ addresses, (inv.learnAddress e).1 = { inv with addresses } := by
  rcases inv.learnAddress_cases e with ⟨heq, _⟩ | heq
  · exact ⟨_, by rw [heq]⟩
  · exact ⟨_, by rw [heq, setAddresses]⟩

/-- The removal of an address leaves the links and the routes alone. -/
theorem forgetAddress_frame (inv : Inventory) (e : AddressReport) :
    ∃ addresses, (inv.forgetAddress e).1 = { inv with addresses } := by
  rcases inv.forgetAddress_cases e with ⟨heq, _⟩ | heq
  · exact ⟨_, by rw [heq]⟩
  · exact ⟨_, by rw [heq, setAddresses]⟩

/-- A report about a route leaves the links and the addresses alone. -/
theorem learnRoute_frame (inv : Inventory) (e : RouteReport) :
    ∃ routes, (inv.learnRoute e).1 = { inv with routes } := by
  rcases inv.learnRoute_cases e with ⟨heq, _⟩ | ⟨_, heq⟩
  · exact ⟨_, by rw [heq]⟩
  · exact ⟨_, by rw [heq]⟩

/-- The removal of a route leaves the links and the addresses alone. -/
theorem forgetRoute_frame (inv : Inventory) (e : RouteReport) :
    ∃ routes, (inv.forgetRoute e).1 = { inv with routes } := by
  rcases inv.forgetRoute_cases e with ⟨heq, _⟩ | ⟨_, _, _, heq⟩
  · exact ⟨_, by rw [heq]⟩
  · exact ⟨_, by rw [heq]⟩

namespace WellFormed

variable {inv : Inventory}

/-- The next record of a link is a record of that link. -/
theorem index_of_nextLink? (h : inv.WellFormed) {e : LinkReport} {link : Link}
    (hnext : inv.nextLink? e = some link) : link.index = e.index := by
  unfold nextLink? at hnext
  split at hnext
  · next current hcurrent =>
    cases hnext
    change current.index = e.index
    exact h.link_index hcurrent
  · split at hnext
    · cases hnext
    · cases hnext
      rfl

/-- Every event keeps the form. -/
theorem hear (h : inv.WellFormed) (e : Event) : (inv.hear e).1.WellFormed := by
  cases e with
  | newLink e =>
    rcases inv.learnLink_cases e with ⟨heq, _⟩ | ⟨link, _, heq⟩
    · rwa [Inventory.hear, heq]
    · rw [Inventory.hear, heq]
      exact h.putLink link
  | delLink e => exact h.removeLink e.index
  | newAddress e =>
    rcases inv.learnAddress_cases e with ⟨heq, _⟩ | heq
    · rwa [Inventory.hear, heq]
    · rw [Inventory.hear, heq]
      refine h.setAddresses fun {k a} ha => ?_
      rw [Table.find?_insert] at ha
      split at ha
      · next hk =>
        cases ha
        exact ⟨rfl, hk.symm, rfl⟩
      · exact h.address_place ha
  | delAddress e =>
    rcases inv.forgetAddress_cases e with ⟨heq, _⟩ | heq
    · rwa [Inventory.hear, heq]
    · rw [Inventory.hear, heq]
      refine h.setAddresses fun {k a} ha => ?_
      rw [Table.find?_erase] at ha
      split at ha
      · cases ha
      · exact h.address_place ha
  | newRoute e =>
    rcases inv.learnRoute_cases e with ⟨heq, _⟩ | ⟨htracked, heq⟩
    · rwa [Inventory.hear, heq]
    · rw [Inventory.hear, heq]
      obtain ⟨hlength, _, htable⟩ := RouteReport.isTracked_iff.1 htracked
      refine h.setRoutes fun {k r} hr => ?_
      rw [Table.find?_insert] at hr
      split at hr
      · next hk =>
        cases hr
        exact ⟨hk.symm, hlength, htable⟩
      · exact h.route_place hr
  | delRoute e =>
    rcases inv.forgetRoute_cases e with ⟨heq, _⟩ | ⟨old, _, _, heq⟩
    · rwa [Inventory.hear, heq]
    · rw [Inventory.hear, heq]
      refine h.setRoutes fun {k r} hr => ?_
      rw [Table.find?_erase] at hr
      split at hr
      · cases hr
      · exact h.route_place hr

/-- An event acts on each link on its own. -/
theorem link?_hear (h : inv.WellFormed) (e : Event) (i : UInt32) :
    (inv.hear e).1.link? i = e.onLink i (inv.link? i) := by
  cases e with
  | newLink e =>
    have hnext : e.index = i → inv.nextLink? e = Event.onLink i (inv.link? i) (.newLink e) := by
      rintro rfl
      simp only [Event.onLink, if_true]
      rfl
    rcases inv.learnLink_cases e with ⟨heq, hsame⟩ | ⟨link, hlink, heq⟩
    · rw [Inventory.hear, heq]
      by_cases hi : e.index = i
      · rw [← hnext hi, hsame, hi]
      · simp [Event.onLink, hi]
    · have hindex := h.index_of_nextLink? hlink
      rw [Inventory.hear, heq, link?_putLink, hindex]
      by_cases hi : e.index = i
      · rw [← hnext hi, if_pos hi.symm, hlink]
      · rw [if_neg (Ne.symm hi)]
        simp [Event.onLink, hi]
  | delLink e =>
    simp only [Inventory.hear, forgetLink, link?_removeLink, Event.onLink, eq_comm]
  | newAddress e =>
    obtain ⟨_, heq⟩ := inv.learnAddress_frame e
    rw [Inventory.hear, heq]
    rfl
  | delAddress e =>
    obtain ⟨_, heq⟩ := inv.forgetAddress_frame e
    rw [Inventory.hear, heq]
    rfl
  | newRoute e =>
    obtain ⟨_, heq⟩ := inv.learnRoute_frame e
    rw [Inventory.hear, heq]
    rfl
  | delRoute e =>
    obtain ⟨_, heq⟩ := inv.forgetRoute_frame e
    rw [Inventory.hear, heq]
    rfl

/-- An event acts on each address on its own. -/
theorem address?_hear (inv : Inventory) (e : Event) (i : UInt32) (k : AddressId) :
    (inv.hear e).1.address? i k = e.onAddress i k (inv.address? i k) := by
  cases e with
  | newLink e =>
    obtain ⟨_, _, heq⟩ := inv.learnLink_frame e
    rw [Inventory.hear, heq]
    rfl
  | delLink e =>
    simp only [Inventory.hear, forgetLink, address?_removeLink, Event.onAddress, eq_comm]
  | newAddress e =>
    rcases inv.learnAddress_cases e with ⟨heq, hsame⟩ | heq
    · rw [Inventory.hear, heq, Event.onAddress]
      split
      · next hplace => rw [← hplace.1, ← hplace.2, hsame]
      · rfl
    · rw [Inventory.hear, heq, address?_setAddresses, Table.find?_insert, Event.onAddress]
      by_cases hi : i = e.index <;> by_cases hk : k = (Address.ofReport e).key <;>
        simp [hi, hk, eq_comm, address?]
  | delAddress e =>
    rcases inv.forgetAddress_cases e with ⟨heq, hnone⟩ | heq
    · rw [Inventory.hear, heq, Event.onAddress]
      split
      · next hplace => rw [← hplace.1, ← hplace.2, hnone]
      · rfl
    · rw [Inventory.hear, heq, address?_setAddresses, Table.find?_erase, Event.onAddress]
      by_cases hi : i = e.index <;> by_cases hk : k = (Address.ofReport e).key <;>
        simp [hi, hk, eq_comm, address?]
  | newRoute e =>
    obtain ⟨_, heq⟩ := inv.learnRoute_frame e
    rw [Inventory.hear, heq]
    rfl
  | delRoute e =>
    obtain ⟨_, heq⟩ := inv.forgetRoute_frame e
    rw [Inventory.hear, heq]
    rfl

/-- An event acts on each route on its own. -/
theorem find?_routes_hear (h : inv.WellFormed) (e : Event) (k : RouteId) :
    (inv.hear e).1.routes.find? k = e.onRoute k (inv.routes.find? k) := by
  cases e with
  | newLink e =>
    obtain ⟨_, _, heq⟩ := inv.learnLink_frame e
    rw [Inventory.hear, heq]
    rfl
  | delLink e =>
    simp only [Inventory.hear, forgetLink, Inventory.removeLink, Table.find?_filter, Event.onRoute]
    cases hr : inv.routes.find? k with
    | none => simp
    | some r =>
      have hoif : r.oif = k.oif := by
        rw [← (h.route_place hr).1]
        rfl
      simp [Option.filter, hoif]
  | newAddress e =>
    obtain ⟨_, heq⟩ := inv.learnAddress_frame e
    rw [Inventory.hear, heq]
    rfl
  | delAddress e =>
    obtain ⟨_, heq⟩ := inv.forgetAddress_frame e
    rw [Inventory.hear, heq]
    rfl
  | newRoute e =>
    rcases inv.learnRoute_cases e with ⟨heq, hsame⟩ | ⟨htracked, heq⟩
    · rw [Inventory.hear, heq, Event.onRoute]
      split
      · next hplace => rw [← hplace.2, hsame hplace.1]
      · rfl
    · rw [Inventory.hear, heq, Event.onRoute, Table.find?_insert]
      simp [htracked, eq_comm]
  | delRoute e =>
    rcases inv.forgetRoute_cases e with ⟨heq, hnone⟩ | ⟨_, htracked, _, heq⟩
    · rw [Inventory.hear, heq, Event.onRoute]
      split
      · next hplace => rw [← hplace.2, hnone hplace.1]
      · rfl
    · rw [Inventory.hear, heq, Event.onRoute, Table.find?_erase]
      simp [htracked, eq_comm]

end WellFormed

/-- No event changes the filter. -/
@[simp] theorem filter_hear (inv : Inventory) (e : Event) : (inv.hear e).1.filter = inv.filter := by
  cases e with
  | newLink e =>
    obtain ⟨_, _, heq⟩ := inv.learnLink_frame e
    rw [hear, heq]
  | delLink e => rfl
  | newAddress e =>
    obtain ⟨_, heq⟩ := inv.learnAddress_frame e
    rw [hear, heq]
  | delAddress e =>
    obtain ⟨_, heq⟩ := inv.forgetAddress_frame e
    rw [hear, heq]
  | newRoute e =>
    obtain ⟨_, heq⟩ := inv.learnRoute_frame e
    rw [hear, heq]
  | delRoute e =>
    obtain ⟨_, heq⟩ := inv.forgetRoute_frame e
    rw [hear, heq]

/-- The inventory after events is found by taking them into account one by one. -/
theorem hearAll_fst (inv : Inventory) (events : List Event) :
    (inv.hearAll events).1 = events.foldl (fun inv e => (inv.hear e).1) inv :=
  (List.foldl_hom Prod.fst fun _ _ => rfl).symm

/-- No run of events changes the filter. -/
@[simp] theorem filter_hearAll (inv : Inventory) (events : List Event) :
    (inv.hearAll events).1.filter = inv.filter := by
  rw [hearAll_fst]
  induction events generalizing inv with
  | nil => rfl
  | cons e rest ih => rw [List.foldl_cons, ih, filter_hear]

namespace WellFormed

variable {inv : Inventory}

/-- Every run of events keeps the form. -/
theorem hearAll (h : inv.WellFormed) (events : List Event) :
    (inv.hearAll events).1.WellFormed := by
  rw [hearAll_fst]
  induction events generalizing inv with
  | nil => exact h
  | cons e rest ih => exact ih (h.hear e)

/-- What every event maps on its own, a run of events maps event by event. -/
theorem observe_hearAll {α : Type} (observe : Inventory → α) (on : α → Event → α)
    (hhear : ∀ {inv : Inventory}, inv.WellFormed → ∀ e,
      observe (inv.hear e).1 = on (observe inv) e)
    (h : inv.WellFormed) (events : List Event) :
    observe (inv.hearAll events).1 = events.foldl on (observe inv) := by
  rw [hearAll_fst]
  induction events generalizing inv with
  | nil => rfl
  | cons e rest ih => rw [List.foldl_cons, ih (h.hear e), hhear h, List.foldl_cons]

/-- A run of events acts on each link on its own. -/
theorem link?_hearAll (h : inv.WellFormed) (events : List Event) (i : UInt32) :
    (inv.hearAll events).1.link? i = events.foldl (Event.onLink i) (inv.link? i) :=
  observe_hearAll (·.link? i) (Event.onLink i) (fun h e => h.link?_hear e i) h events

/-- A run of events acts on each address on its own. -/
theorem address?_hearAll (h : inv.WellFormed) (events : List Event) (i : UInt32) (k : AddressId) :
    (inv.hearAll events).1.address? i k =
      events.foldl (Event.onAddress i k) (inv.address? i k) :=
  observe_hearAll (·.address? i k) (Event.onAddress i k) (fun _ e => address?_hear _ e i k) h events

/-- A run of events acts on each route on its own. -/
theorem find?_routes_hearAll (h : inv.WellFormed) (events : List Event) (k : RouteId) :
    (inv.hearAll events).1.routes.find? k =
      events.foldl (Event.onRoute k) (inv.routes.find? k) :=
  observe_hearAll (·.routes.find? k) (Event.onRoute k) (fun h e => h.find?_routes_hear e k) h events

/-- Every message keeps the form. -/
theorem deliver (h : inv.WellFormed) (m : Message) : (inv.deliver m).1.WellFormed := by
  cases m with
  | events events => exact h.hearAll events
  | snapshot events => exact (wellFormed_empty inv.filter).hearAll events

end WellFormed

/-- No message changes the filter. -/
@[simp] theorem filter_deliver (inv : Inventory) (m : Message) :
    (inv.deliver m).1.filter = inv.filter := by
  cases m with
  | events events => exact filter_hearAll inv events
  | snapshot events => exact filter_hearAll (empty inv.filter) events

/-- The inventory after messages is found by taking them into account one by one. -/
theorem deliverAll_fst (inv : Inventory) (messages : List Message) :
    (inv.deliverAll messages).1 = messages.foldl (fun inv m => (inv.deliver m).1) inv :=
  (List.foldl_hom Prod.fst fun _ _ => rfl).symm

/-- No batch of messages changes the filter. -/
@[simp] theorem filter_deliverAll (inv : Inventory) (messages : List Message) :
    (inv.deliverAll messages).1.filter = inv.filter := by
  refine List.foldlRecOn (motive := fun (p : Inventory × Changes) => p.1.filter = inv.filter)
    messages _ rfl ?_
  rintro ⟨mid, changes⟩ hfilter m _
  exact (filter_deliver mid m).trans hfilter

/-- Every batch of messages keeps the form. -/
theorem WellFormed.deliverAll {inv : Inventory} (h : inv.WellFormed) (messages : List Message) :
    (inv.deliverAll messages).1.WellFormed := by
  refine List.foldlRecOn (motive := fun (p : Inventory × Changes) => p.1.WellFormed) messages _ h ?_
  rintro ⟨mid, changes⟩ hmid m _
  exact hmid.deliver m

/-- After any messages, every link, address and route that is known stands at its own place, no
link has an empty table of addresses, only default routes outside the local table are known, and
the links that are served are those that the filter accepts. -/
theorem every_record_in_place (filter : LinkFilter) (messages : List Message) :
    let inv := ((empty filter).deliverAll messages).1
    (∀ i l, inv.links.find? i = some l → l.index = i) ∧
    (∀ i table, inv.addresses.find? i = some table → table.isEmpty = false ∧
      ∀ k a, table.find? k = some a → a.index = i ∧ a.key = k ∧ a.family = a.address.family) ∧
    (∀ k r, inv.routes.find? k = some r → r.key = k ∧ r.prefixLen = 0 ∧ r.table ≠ localTable) ∧
    ∀ i, i ∈ inv.served.keys ↔ ∃ l, inv.links.find? i = some l ∧ filter.classOf l = .served := by
  intro inv
  have h : inv.WellFormed := (wellFormed_empty filter).deliverAll messages
  have hfilter : inv.filter = filter := filter_deliverAll (empty filter) messages
  refine ⟨fun i l hl => h.link_index hl, fun i table htable => ?_, fun k r hr => h.route_place hr,
    fun i => ?_⟩
  · refine ⟨h.addresses_nonempty htable, fun k a ha => h.address_place ?_⟩
    rw [address?, addressTable, htable]
    exact ha
  · have hserves : i ∈ inv.served.keys ↔ inv.serves i = true :=
      Table.mem_keys.trans Table.contains_iff.symm
    rw [hserves, h.serves_iff i, hfilter]
    simp only [link?, LinkFilter.serves, beq_iff_eq]

end Inventory

end LinkBus
