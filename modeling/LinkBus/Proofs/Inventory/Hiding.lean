import LinkBus.Proofs.Inventory.Coverage

/-!
# Hiding links

Hiding some links takes their records, their addresses and the routes through them out of an
inventory. An event is about one interface and leaves the records of all others alone, so it makes
no difference whether links are hidden at the end, or the events about them are left out on the way.
-/

namespace LinkBus

/-- Whether an event is about a hidden link. -/
def Event.concerns (hidden : UInt32 → Bool) (e : Event) : Bool := e.index?.any hidden

/-- The events that are not about hidden links. -/
def Event.allWithout (hidden : UInt32 → Bool) (events : List Event) : List Event :=
  events.filter fun e => !e.concerns hidden

/-- A message without the events about hidden links. -/
def Message.without (hidden : UInt32 → Bool) : Message → Message
  | events es => .events (Event.allWithout hidden es)
  | snapshot es => .snapshot (Event.allWithout hidden es)

namespace Event

/-- An event about another interface leaves a link alone. -/
theorem onLink_of_index_ne {e : Event} {i : UInt32} (h : e.index? ≠ some i) (link : Option Link) :
    e.onLink i link = link := by
  cases e with
  | newLink e => exact if_neg fun heq => h (congrArg some heq)
  | delLink e => exact if_neg fun heq => h (congrArg some heq)
  | _ => rfl

/-- An event about another interface leaves an address alone. -/
theorem onAddress_of_index_ne {e : Event} {i : UInt32} (h : e.index? ≠ some i) (k : AddressId)
    (address : Option Address) : e.onAddress i k address = address := by
  cases e with
  | delLink e => exact if_neg fun heq => h (congrArg some heq)
  | newAddress e => exact if_neg fun heq => h (congrArg some heq.1)
  | delAddress e => exact if_neg fun heq => h (congrArg some heq.1)
  | _ => rfl

/-- An event about another interface leaves a route alone. -/
theorem onRoute_of_index_ne {e : Event} {k : RouteId} (h : e.index? ≠ k.oif)
    (route : Option Route) : e.onRoute k route = route := by
  cases e with
  | delLink e => exact if_neg fun heq => h heq.symm
  | newRoute e => exact if_neg fun heq => h (congrArg RouteId.oif heq.2)
  | delRoute e => exact if_neg fun heq => h (congrArg RouteId.oif heq.2)
  | _ => rfl

/-- Of an event and a record, if one is hidden and the other is not, they belong to different
interfaces. -/
theorem index_ne_of_concerns_ne {hidden : UInt32 → Bool} {e : Event} {place : Option UInt32}
    (h : e.concerns hidden ≠ place.any hidden) : e.index? ≠ place := fun heq =>
  h (congrArg (Option.any hidden) heq)

end Event

namespace Inventory

/-- The inventory without hidden links, their addresses and the routes through them. -/
def without (hidden : UInt32 → Bool) (inv : Inventory) : Inventory where
  filter := inv.filter
  links := inv.links.filter fun i _ => !hidden i
  addresses := inv.addresses.filter fun i _ => !hidden i
  routes := inv.routes.filter fun _ r => !r.oif.any hidden
  served := inv.served.filter fun i _ => !hidden i

variable {hidden : UInt32 → Bool} {inv : Inventory}

/-- A hidden link is not known; any other is known as before. -/
theorem link?_without (hidden : UInt32 → Bool) (inv : Inventory) (i : UInt32) :
    (inv.without hidden).link? i = if hidden i then none else inv.link? i := by
  refine (Table.find?_filter_keys inv.links (fun i => !hidden i) i).trans ?_
  cases hidden i <;> rfl

/-- A hidden link has no addresses; those of any other are as before. -/
theorem find?_addresses_without (hidden : UInt32 → Bool) (inv : Inventory) (i : UInt32) :
    (inv.without hidden).addresses.find? i =
      if hidden i then none else inv.addresses.find? i := by
  refine (Table.find?_filter_keys inv.addresses (fun i => !hidden i) i).trans ?_
  cases hidden i <;> rfl

/-- A hidden link has an empty table of addresses; that of any other is as before. -/
theorem addressTable_without (hidden : UInt32 → Bool) (inv : Inventory) (i : UInt32) :
    (inv.without hidden).addressTable i = if hidden i then ∅ else inv.addressTable i := by
  rw [addressTable, find?_addresses_without]
  cases hidden i <;> rfl

/-- No address of a hidden link is found; those of any other are as before. -/
theorem address?_without (hidden : UInt32 → Bool) (inv : Inventory) (i : UInt32) (k : AddressId) :
    (inv.without hidden).address? i k = if hidden i then none else inv.address? i k := by
  rw [address?, addressTable_without]
  cases hidden i <;> rfl

/-- A hidden link is not served; any other is served as before. -/
theorem serves_without (hidden : UInt32 → Bool) (inv : Inventory) (i : UInt32) :
    (inv.without hidden).serves i = (!hidden i && inv.serves i) := by
  refine (congrArg Option.isSome
    (Table.find?_filter_keys inv.served (fun i => !hidden i) i)).trans ?_
  cases hidden i <;> rfl

namespace WellFormed

/-- No route through a hidden link is found; any other is found as before. -/
theorem find?_routes_without (h : inv.WellFormed) (hidden : UInt32 → Bool) (k : RouteId) :
    (inv.without hidden).routes.find? k =
      if k.oif.any hidden then none else inv.routes.find? k := by
  refine (Table.find?_filter inv.routes (fun _ r => !r.oif.any hidden) k).trans ?_
  cases hr : inv.routes.find? k with
  | none => simp
  | some r =>
    have hoif : r.oif = k.oif := by
      rw [← (h.route_place hr).1]
      rfl
    rw [Option.filter_some, hoif]
    cases k.oif.any hidden <;> rfl

/-- Hiding links keeps the form. -/
theorem without (h : inv.WellFormed) (hidden : UInt32 → Bool) :
    (inv.without hidden).WellFormed where
  link_index {i l} hl := by
    rw [link?_without] at hl
    split at hl
    · cases hl
    · exact h.link_index hl
  addresses_nonempty {i t} ht := by
    rw [find?_addresses_without] at ht
    split at ht
    · cases ht
    · exact h.addresses_nonempty ht
  address_place {i k a} ha := by
    rw [address?_without] at ha
    split at ha
    · cases ha
    · exact h.address_place ha
  route_place {k r} hr := by
    rw [h.find?_routes_without] at hr
    split at hr
    · cases hr
    · exact h.route_place hr
  serves_iff i := by
    have hserves := h.serves_iff i
    rw [serves_without, link?_without]
    cases hidden i with
    | true => simp
    | false => exact hserves

/-! ## Events -/

/-- An event about a hidden link leads to no difference. -/
theorem without_hear_of_concerns (h : inv.WellFormed) {e : Event}
    (he : e.concerns hidden = true) : (inv.hear e).1.without hidden = inv.without hidden := by
  have hother : ∀ {place : Option UInt32}, ¬ place.any hidden = true → e.index? ≠ place := by
    intro place hplace
    exact Event.index_ne_of_concerns_ne fun heq => hplace (heq ▸ he)
  refine ((h.hear e).without hidden).ext (h.without hidden) (filter_hear inv e) ?_ ?_ ?_
  · intro i
    rw [link?_without, link?_without, h.link?_hear]
    split
    · rfl
    · next hi => exact Event.onLink_of_index_ne (hother hi) _
  · intro i k
    rw [address?_without, address?_without, address?_hear]
    split
    · rfl
    · next hi => exact Event.onAddress_of_index_ne (hother hi) _ _
  · intro k
    rw [(h.hear e).find?_routes_without, h.find?_routes_without, h.find?_routes_hear]
    split
    · rfl
    · next hk => exact Event.onRoute_of_index_ne (hother hk) _

/-- Any other event acts on an inventory without hidden links as on the whole one. -/
theorem hear_without (h : inv.WellFormed) {e : Event} (he : e.concerns hidden = false) :
    ((inv.without hidden).hear e).1 = (inv.hear e).1.without hidden := by
  have hother : ∀ {place : Option UInt32}, place.any hidden = true → e.index? ≠ place := by
    intro place hplace
    have hne : e.concerns hidden ≠ place.any hidden := by
      rw [he, hplace]
      exact Bool.false_ne_true
    exact Event.index_ne_of_concerns_ne hne
  refine ((h.without hidden).hear e).ext ((h.hear e).without hidden) ?_ ?_ ?_ ?_
  · exact (filter_hear _ e).trans (filter_hear inv e).symm
  · intro i
    rw [(h.without hidden).link?_hear, link?_without, link?_without, h.link?_hear]
    split
    · next hi => exact Event.onLink_of_index_ne (hother hi) _
    · rfl
  · intro i k
    rw [address?_hear, address?_without, address?_without, address?_hear]
    split
    · next hi => exact Event.onAddress_of_index_ne (hother hi) _ _
    · rfl
  · intro k
    rw [(h.without hidden).find?_routes_hear, h.find?_routes_without,
      (h.hear e).find?_routes_without, h.find?_routes_hear]
    split
    · next hk => exact Event.onRoute_of_index_ne (hother hk) _
    · rfl

end WellFormed

/-- A run of events without those about hidden links leads to the inventory without them. -/
theorem WellFormed.hearAll_without (h : inv.WellFormed) (hidden : UInt32 → Bool)
    (events : List Event) :
    ((inv.without hidden).hearAll (Event.allWithout hidden events)).1 =
      (inv.hearAll events).1.without hidden := by
  rw [hearAll_fst, hearAll_fst]
  induction events generalizing inv with
  | nil => rfl
  | cons e rest ih =>
    cases he : e.concerns hidden with
    | true =>
      rw [Event.allWithout, List.filter_cons_of_neg (by simp [he]), List.foldl_cons,
        ← h.without_hear_of_concerns he]
      exact ih (h.hear e)
    | false =>
      rw [Event.allWithout, List.filter_cons_of_pos (by simp [he]), List.foldl_cons,
        List.foldl_cons, h.hear_without he]
      exact ih (h.hear e)

/-- A message without the events about hidden links leads to the inventory without them. -/
theorem WellFormed.deliver_without (h : inv.WellFormed) (hidden : UInt32 → Bool) (m : Message) :
    ((inv.without hidden).deliver (m.without hidden)).1 = (inv.deliver m).1.without hidden := by
  cases m with
  | events events => exact h.hearAll_without hidden events
  | snapshot events => exact (wellFormed_empty inv.filter).hearAll_without hidden events

/-- Messages without the events about hidden links lead to the inventory without them. -/
theorem WellFormed.deliverAll_without (h : inv.WellFormed) (hidden : UInt32 → Bool)
    (messages : List Message) :
    ((inv.without hidden).deliverAll (messages.map (Message.without hidden))).1 =
      (inv.deliverAll messages).1.without hidden := by
  rw [deliverAll_fst, deliverAll_fst]
  induction messages generalizing inv with
  | nil => rfl
  | cons m rest ih =>
    rw [List.map_cons, List.foldl_cons, List.foldl_cons, h.deliver_without]
    exact ih (h.deliver m)

end Inventory

/-- Changes that cover a difference still cover it without hidden links. -/
theorem Changes.Cover.without {c : Changes} {old new : Inventory} (h : c.Cover old new)
    (hold : old.WellFormed) (hnew : new.WellFormed) (hidden : UInt32 → Bool) :
    c.Cover (old.without hidden) (new.without hidden) where
  link hi := by rw [Inventory.link?_without, Inventory.link?_without, h.link hi]
  address hi k := by rw [Inventory.address?_without, Inventory.address?_without, h.address hi]
  route hroutes k := by
    rw [hnew.find?_routes_without, hold.find?_routes_without, h.route hroutes]

end LinkBus
