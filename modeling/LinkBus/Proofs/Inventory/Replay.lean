import LinkBus.Proofs.Inventory.Repetition

/-!
# Dumps and replayed events

A dump is taken while events go on: its links, its addresses and its routes may show three different
moments, and the events since an earlier moment are still queued. Replaying the queue over the dump
nevertheless leads to the inventory that heard every event once, because the events between that
moment and the dump may be heard twice.
-/

namespace LinkBus

/-- Two moments of a history cut it into what came before the first, what came between them, and
what came after the second. -/
theorem exists_cut {α : Type} {j k : Nat} (h : j ≤ k) (history : List α) :
    ∃ before between after, history = before ++ between ++ after ∧
      history.take k = before ++ between ∧ history.drop j = between ++ after := by
  obtain ⟨d, rfl⟩ := Nat.exists_eq_add_of_le h
  have hrest := List.take_append_drop d (history.drop j)
  refine ⟨history.take j, (history.drop j).take d, (history.drop j).drop d, ?_, ?_, hrest.symm⟩
  · rw [List.append_assoc, hrest, List.take_append_drop]
  · rw [List.take_add]

/-- Replaying the events since the first moment over a record of the second moment leads to the
record after the whole history, if hearing the events between them twice changes nothing. -/
theorem Overwrites.foldl_drop_foldl_take {α : Type} {step : Option α → Event → Option α}
    (h : Overwrites step) {j k : Nat} (hjk : j ≤ k) (history : List Event) (x : Option α) :
    (history.drop j).foldl step ((history.take k).foldl step x) = history.foldl step x := by
  obtain ⟨before, between, after, hall, htake, hdrop⟩ := exists_cut hjk history
  rw [htake, hdrop, hall]
  simp only [List.foldl_append]
  rw [h.foldl_foldl]

/-- The same holds of links, if all events are clear. -/
theorem Event.foldl_drop_foldl_take {i : UInt32} {x : Option Link} {j k : Nat} (hjk : j ≤ k)
    {history : List Event} (hclear : areClear i x history = true) :
    (history.drop j).foldl (onLink i) ((history.take k).foldl (onLink i) x) =
      history.foldl (onLink i) x := by
  obtain ⟨before, between, after, hall, htake, hdrop⟩ := exists_cut hjk history
  rw [hall, areClear_append, areClear_append, Bool.and_eq_true, Bool.and_eq_true] at hclear
  rw [htake, hdrop, hall]
  simp only [List.foldl_append]
  rw [foldl_onLink_foldl hclear.1.2]

/-- Steps that move the start to the target or not at all, and never away from the target, arrive
there if one of them moves. -/
theorem foldl_eq_of_settles {α β : Type} {step : β → α → β} {start target : β} {l : List α}
    (hstay : ∀ e ∈ l, step target e = target)
    (hmove : ∀ e ∈ l, step start e = start ∨ step start e = target)
    (harrive : start = target ∨ ∃ e ∈ l, step start e = target) : l.foldl step start = target := by
  induction l with
  | nil =>
    rcases harrive with h | ⟨e, he, _⟩
    · exact h
    · cases he
  | cons e rest ih =>
    have hstayRest : ∀ e ∈ rest, step target e = target := fun e he =>
      hstay e (List.mem_cons_of_mem _ he)
    rw [List.foldl_cons]
    by_cases hfirst : step start e = target
    · rw [hfirst]
      exact List.foldlRecOn (motive := (· = target)) rest step rfl fun b hb a ha => by
        rw [hb, hstayRest a ha]
    · have hsame : step start e = start := (hmove e List.mem_cons_self).resolve_right hfirst
      rw [hsame]
      refine ih hstayRest (fun e he => hmove e (List.mem_cons_of_mem _ he)) ?_
      rcases harrive with h | ⟨a, ha, hreach⟩
      · exact Or.inl h
      · rcases List.mem_cons.1 ha with rfl | ha
        · exact absurd hreach hfirst
        · exact Or.inr ⟨a, ha, hreach⟩

namespace Inventory

/-- An event belongs to a dump: a named report of a link as it was at one moment, a report of an
address as it was at a second moment, or a report of a route that is either not tracked or as it was
at a third moment. -/
def Reported (ofLinks ofAddresses ofRoutes : Inventory) : Event → Prop
  | .newLink e => e.lacksName = false ∧ ofLinks.link? e.index = some (.ofReport e)
  | .newAddress e =>
    ofAddresses.address? e.index (Address.ofReport e).key = some (.ofReport e)
  | .newRoute e =>
    e.isTracked = true → ofRoutes.routes.find? (Route.ofReport e).key = some (.ofReport e)
  | _ => False

/-- A dump reports the links, the addresses and the routes of three moments, in any order. -/
structure IsDump (ofLinks ofAddresses ofRoutes : Inventory) (dump : List Event) : Prop where
  /-- Nothing else is reported. -/
  reported : ∀ e ∈ dump, Reported ofLinks ofAddresses ofRoutes e
  /-- Every link is reported. -/
  links : ∀ {i l}, ofLinks.link? i = some l → ∃ e, .newLink e ∈ dump ∧ e.index = i
  /-- Every address is reported. -/
  addresses : ∀ {i k a}, ofAddresses.address? i k = some a →
    ∃ e, .newAddress e ∈ dump ∧ e.index = i ∧ (Address.ofReport e).key = k
  /-- Every route is reported. -/
  routes : ∀ {k r}, ofRoutes.routes.find? k = some r →
    ∃ e, .newRoute e ∈ dump ∧ e.isTracked = true ∧ (Route.ofReport e).key = k

end Inventory

/-- A report that mentions every attribute of a link. -/
def Link.report (l : Link) : LinkReport where
  index := l.index
  name := some l.name
  layerType := l.layerType
  flags := l.flags
  kind := l.kind
  oper := some l.oper
  carrier := some l.carrier
  mtu := some l.mtu
  hwAddress := some l.hwAddress

/-- A report of an address. -/
def Address.report (a : Address) : AddressReport where
  index := a.index
  address := a.address
  prefixLen := a.prefixLen
  scope := a.scope
  flags := a.flags
  label := a.label

/-- A report of a route. -/
def Route.report (r : Route) : RouteReport where
  family := r.family
  destination := r.destination
  prefixLen := r.prefixLen
  gateway := r.gateway
  oif := r.oif
  metric := r.metric
  table := r.table
  unicast := true

/-- A report of an address with the family of its number is a report of that address. -/
theorem Address.ofReport_report {a : Address} (h : a.family = a.address.family) :
    Address.ofReport a.report = a := by
  cases a
  simp_all [ofReport, report]

namespace Inventory

/-- The dump that reports the records of three moments in the order of their tables. -/
def dump (ofLinks ofAddresses ofRoutes : Inventory) : List Event :=
  ofLinks.links.values.map (fun l => .newLink l.report) ++
    (ofAddresses.addresses.values.flatMap Table.values).map (fun a => .newAddress a.report) ++
    ofRoutes.routes.values.map fun r => .newRoute r.report

/-- The dump reports the known links, addresses and routes. -/
theorem mem_dump {ofLinks ofAddresses ofRoutes : Inventory} (hlinks : ofLinks.WellFormed)
    (haddresses : ofAddresses.WellFormed) (hroutes : ofRoutes.WellFormed) {e : Event} :
    e ∈ dump ofLinks ofAddresses ofRoutes ↔
      (∃ l, ofLinks.link? l.index = some l ∧ .newLink l.report = e) ∨
      (∃ a, ofAddresses.address? a.index a.key = some a ∧ .newAddress a.report = e) ∨
      ∃ r, ofRoutes.routes.find? r.key = some r ∧ .newRoute r.report = e := by
  simp only [dump, List.mem_append, List.mem_map, hlinks.mem_values_links,
    haddresses.mem_values_addresses, hroutes.mem_values_routes, or_assoc]

/-- The records of three moments can be dumped. -/
theorem isDump_dump {ofLinks ofAddresses ofRoutes : Inventory} (hlinks : ofLinks.WellFormed)
    (haddresses : ofAddresses.WellFormed) (hroutes : ofRoutes.WellFormed) :
    IsDump ofLinks ofAddresses ofRoutes (dump ofLinks ofAddresses ofRoutes) := by
  have haddress : ∀ {i k a}, ofAddresses.address? i k = some a → Address.ofReport a.report = a :=
    fun ha => Address.ofReport_report (haddresses.address_place ha).2.2
  constructor
  · intro e he
    rcases (mem_dump hlinks haddresses hroutes).1 he with
      ⟨l, hl, rfl⟩ | ⟨a, ha, rfl⟩ | ⟨r, hr, rfl⟩
    · exact ⟨rfl, hl⟩
    · rw [Reported, haddress ha]
      exact ha
    · exact fun _ => hr
  · intro i l hl
    obtain rfl := hlinks.link_index hl
    exact ⟨l.report, (mem_dump hlinks haddresses hroutes).2 (Or.inl ⟨l, hl, rfl⟩), rfl⟩
  · intro i k a ha
    obtain ⟨rfl, rfl, _⟩ := haddresses.address_place ha
    refine ⟨a.report, ?_, rfl, congrArg Address.key (haddress ha)⟩
    exact (mem_dump hlinks haddresses hroutes).2 (Or.inr (Or.inl ⟨a, ha, rfl⟩))
  · intro k r hr
    obtain ⟨rfl, hlength, htable⟩ := hroutes.route_place hr
    refine ⟨r.report, ?_, RouteReport.isTracked_iff.2 ⟨hlength, rfl, htable⟩, rfl⟩
    exact (mem_dump hlinks haddresses hroutes).2 (Or.inr (Or.inr ⟨r, hr, rfl⟩))

namespace IsDump

variable {ofLinks ofAddresses ofRoutes : Inventory} {dump : List Event}

/-- Who hears a dump knows its links. -/
theorem link?_hearAll (h : IsDump ofLinks ofAddresses ofRoutes dump) (filter : LinkFilter)
    (i : UInt32) : ((empty filter).hearAll dump).1.link? i = ofLinks.link? i := by
  have hown : ∀ {r}, .newLink r ∈ dump → r.index = i →
      ofLinks.link? i = some (.ofReport r) ∧ (Event.newLink r).onLink i none = ofLinks.link? i := by
    rintro r hr rfl
    obtain ⟨hname, hlink⟩ := h.reported _ hr
    rw [Event.onLink_none rfl (by simp [Event.isClear, hname]), hlink]
    exact ⟨rfl, rfl⟩
  have hother : ∀ {e x}, e ∈ dump → (∀ r, e = .newLink r → r.index ≠ i) → e.onLink i x = x := by
    intro e x he hindex
    rcases e.onLink_cases i with hkeep | hremove | ⟨r, rfl, hi⟩
    · exact hkeep x
    · have hreported := h.reported e he
      cases e with
      | delLink r => exact hreported.elim
      | newLink r => exact if_neg (hindex r rfl)
      | _ => rfl
    · exact absurd hi (hindex r rfl)
  rw [(wellFormed_empty filter).link?_hearAll]
  refine foldl_eq_of_settles (fun e he => ?_) (fun e he => ?_) ?_
  · by_cases hindex : ∃ r, e = .newLink r ∧ r.index = i
    · obtain ⟨r, rfl, hi⟩ := hindex
      rw [(hown he hi).1, Event.onLink_some hi, Link.ofReport_after, LinkReport.followedBy_self]
    · exact hother he fun r hr hi => hindex ⟨r, hr, hi⟩
  · by_cases hindex : ∃ r, e = .newLink r ∧ r.index = i
    · obtain ⟨r, rfl, hi⟩ := hindex
      exact Or.inr (hown he hi).2
    · exact Or.inl (hother he fun r hr hi => hindex ⟨r, hr, hi⟩)
  · cases hlink : ofLinks.link? i with
    | none => exact Or.inl rfl
    | some l =>
      obtain ⟨r, hr, hi⟩ := h.links hlink
      exact Or.inr ⟨_, hr, (hown hr hi).2.trans hlink⟩

/-- Who hears a dump knows its addresses. -/
theorem address?_hearAll (h : IsDump ofLinks ofAddresses ofRoutes dump) (filter : LinkFilter)
    (i : UInt32) (k : AddressId) :
    ((empty filter).hearAll dump).1.address? i k = ofAddresses.address? i k := by
  have hstep : ∀ e ∈ dump, ∀ x, e.onAddress i k x = x ∨ e.onAddress i k x = ofAddresses.address? i k
      := by
    intro e he x
    have hreported := h.reported e he
    cases e with
    | newAddress r =>
      rw [Event.onAddress]
      split
      · next hplace =>
        rw [← hplace.1, ← hplace.2]
        exact Or.inr hreported.symm
      · exact Or.inl rfl
    | delLink r => exact hreported.elim
    | delAddress r => exact hreported.elim
    | _ => exact Or.inl rfl
  rw [(wellFormed_empty filter).address?_hearAll]
  refine foldl_eq_of_settles (fun e he => ?_) (fun e he => hstep e he _) ?_
  · rcases hstep e he (ofAddresses.address? i k) with h | h <;> exact h
  · cases haddress : ofAddresses.address? i k with
    | none => exact Or.inl rfl
    | some a =>
      obtain ⟨r, hr, hi, hk⟩ := h.addresses haddress
      refine Or.inr ⟨_, hr, ?_⟩
      have hreported : ofAddresses.address? r.index (Address.ofReport r).key = _ := h.reported _ hr
      rw [Event.onAddress, if_pos ⟨hi, hk⟩, ← hreported, hi, hk, haddress]

/-- Who hears a dump knows its routes. -/
theorem find?_routes_hearAll (h : IsDump ofLinks ofAddresses ofRoutes dump) (filter : LinkFilter)
    (k : RouteId) :
    ((empty filter).hearAll dump).1.routes.find? k = ofRoutes.routes.find? k := by
  have hstep : ∀ e ∈ dump, ∀ x, e.onRoute k x = x ∨ e.onRoute k x = ofRoutes.routes.find? k := by
    intro e he x
    have hreported := h.reported e he
    cases e with
    | newRoute r =>
      rw [Event.onRoute]
      split
      · next hplace =>
        rw [← hplace.2]
        exact Or.inr (hreported hplace.1).symm
      · exact Or.inl rfl
    | delLink r => exact hreported.elim
    | delRoute r => exact hreported.elim
    | _ => exact Or.inl rfl
  rw [(wellFormed_empty filter).find?_routes_hearAll]
  refine foldl_eq_of_settles (fun e he => ?_) (fun e he => hstep e he _) ?_
  · rcases hstep e he (ofRoutes.routes.find? k) with h | h <;> exact h
  · cases hroute : ofRoutes.routes.find? k with
    | none => exact Or.inl rfl
    | some a =>
      obtain ⟨r, hr, htracked, hk⟩ := h.routes hroute
      refine Or.inr ⟨_, hr, ?_⟩
      have hreported : ofRoutes.routes.find? (Route.ofReport r).key = _ := h.reported _ hr htracked
      rw [Event.onRoute, if_pos ⟨htracked, hk⟩, ← hreported, hk, hroute]

end IsDump

/-- Replaying the events that were queued since a moment `j` over a dump leads to the inventory that
heard the whole history, whatever was known before the dump. The links, the addresses and the
routes of the dump may show any three moments from `j` on. -/
theorem replay_over_dump {filter : LinkFilter} {history dump : List Event} {j k₁ k₂ k₃ : Nat}
    (hunderstood : (empty filter).understandsAll history = true)
    (hlinks : j ≤ k₁) (haddresses : j ≤ k₂) (hroutes : j ≤ k₃)
    (hdump : IsDump ((empty filter).hearAll (history.take k₁)).1
      ((empty filter).hearAll (history.take k₂)).1
      ((empty filter).hearAll (history.take k₃)).1 dump) :
    (((empty filter).hearAll dump).1.hearAll (history.drop j)).1 =
        ((empty filter).hearAll history).1 ∧
      ∀ inv : Inventory, inv.filter = filter →
        ((inv.replaceBy dump).1.hearAll (history.drop j)).1 =
          ((empty filter).hearAll history).1 := by
  have hempty := wellFormed_empty filter
  have hfresh := hempty.hearAll dump
  have hreplayed : (((empty filter).hearAll dump).1.hearAll (history.drop j)).1 =
      ((empty filter).hearAll history).1 := by
    refine (hfresh.hearAll _).ext (hempty.hearAll _) ?_ (fun i => ?_) (fun i k => ?_) fun k => ?_
    · simp only [filter_hearAll]
    · rw [hfresh.link?_hearAll, hdump.link?_hearAll, hempty.link?_hearAll, hempty.link?_hearAll]
      exact Event.foldl_drop_foldl_take hlinks (hempty.areClear hunderstood i)
    · rw [hfresh.address?_hearAll, hdump.address?_hearAll, hempty.address?_hearAll,
        hempty.address?_hearAll]
      exact (Event.overwrites_onAddress i k).foldl_drop_foldl_take haddresses _ _
    · rw [hfresh.find?_routes_hearAll, hdump.find?_routes_hearAll, hempty.find?_routes_hearAll,
        hempty.find?_routes_hearAll]
      exact (Event.overwrites_onRoute k).foldl_drop_foldl_take hroutes _ _
  refine ⟨hreplayed, fun inv hfilter => ?_⟩
  rw [← hreplayed, ← hfilter]
  rfl

/-- A link that is renamed in its absence: it comes with an address, reports itself once without
its name, gets a route, goes, and comes back under another name with another address. -/
def renamedInAbsence : List Event :=
  [.newLink { index := 2, name := some "eth0", layerType := 1, flags := 1, mtu := some 1500 },
    .newAddress { index := 2, address := .v4 0xC0000205, prefixLen := 24 },
    .newLink { index := 2, layerType := 1, flags := 0x10001, carrier := some true },
    .newRoute { family := .v4, gateway := some (.v4 0xC0000201), oif := some 2, metric := 100 },
    .delLink { index := 2 },
    .newLink { index := 2, name := some "usb0", layerType := 1, flags := 1, mtu := some 9000 },
    .newAddress { index := 2, address := .v4 0xC6336405, prefixLen := 24 }]

/-- The links of the dump are those before the removal, its addresses those after it, and its routes
those of the end. -/
theorem replay_over_dump_renamedInAbsence :
    (empty {}).understandsAll renamedInAbsence = true ∧
      (((empty {}).hearAll (dump ((empty {}).hearAll (renamedInAbsence.take 4)).1
          ((empty {}).hearAll (renamedInAbsence.take 5)).1
          ((empty {}).hearAll (renamedInAbsence.take 7)).1)).1.hearAll
            (renamedInAbsence.drop 1)).1 =
        ((empty {}).hearAll renamedInAbsence).1 := by
  have hform := wellFormed_empty {}
  have hunderstood : (empty {}).understandsAll renamedInAbsence = true := by decide
  exact ⟨hunderstood, (replay_over_dump hunderstood (by decide) (by decide) (by decide)
    (isDump_dump (hform.hearAll _) (hform.hearAll _) (hform.hearAll _))).1⟩

end Inventory

end LinkBus
