import LinkBus.Proofs.Inventory.Hiding

/-!
# Interleaved events

An event is about one interface or about none. It acts on what is known of that interface alone, and
what it reports to have changed depends on that alone. So it makes no difference in which order
events about different interfaces arrive: two runs that interleave the same events of each interface
lead to the same inventory and report the same changes.
-/

namespace LinkBus

namespace Event

/-- The events of a run that are about one interface, or those that are about none. -/
def allAbout (place : Option UInt32) (events : List Event) : List Event :=
  events.filter fun e => e.index? == place

/-- Two runs interleave the same events: those about each interface are the same in the same order,
and so are those about no interface. -/
def Interleaved (first second : List Event) : Prop :=
  ∀ place, allAbout place first = allAbout place second

/-- The interfaces that are mentioned decide whether two runs interleave the same events. -/
theorem interleaved_iff {first second : List Event} :
    Interleaved first second ↔
      ∀ e ∈ first ++ second, allAbout e.index? first = allAbout e.index? second := by
  constructor
  · exact fun h e _ => h e.index?
  · intro h place
    by_cases hmentioned : ∃ e ∈ first ++ second, e.index? = place
    · obtain ⟨e, he, rfl⟩ := hmentioned
      exact h e he
    · have hnone : ∀ events : List Event, (∀ e ∈ events, e ∈ first ++ second) →
          allAbout place events = [] := by
        intro events hevents
        rw [allAbout, List.filter_eq_nil_iff]
        intro e he hplace
        exact hmentioned ⟨e, hevents e he, by simpa using hplace⟩
      rw [hnone first fun e he => List.mem_append_left _ he,
        hnone second fun e he => List.mem_append_right _ he]

instance (first second : List Event) : Decidable (Interleaved first second) :=
  decidable_of_iff _ interleaved_iff.symm

end Event

namespace Inventory

/-- Among the known routes is one through an interface exactly if one is known under a key with this
interface. -/
theorem WellFormed.any_routes_iff {inv : Inventory} (h : inv.WellFormed) {place : Option UInt32} :
    (inv.routes.values.any fun r => r.oif == place) = true ↔
      ∃ k : RouteId, k.oif = place ∧ (inv.routes.find? k).isSome = true := by
  simp only [List.any_eq_true, beq_iff_eq, Option.isSome_iff_exists]
  constructor
  · rintro ⟨r, hr, hoif⟩
    exact ⟨r.key, hoif, r, h.mem_values_routes.1 hr⟩
  · rintro ⟨k, hoif, r, hk⟩
    refine ⟨r, Table.mem_values.2 ⟨k, hk⟩, ?_⟩
    rw [← hoif, ← (h.route_place hk).1]
    rfl

/-- Two inventories know the same of one interface: its link, its addresses and the routes through
it. Of no interface they know the routes without one. -/
structure AgreeOn (place : Option UInt32) (a b : Inventory) : Prop where
  /-- The link is the same. -/
  link : ∀ {i}, place = some i → a.link? i = b.link? i
  /-- The addresses are the same. -/
  address : ∀ {i}, place = some i → ∀ k, a.address? i k = b.address? i k
  /-- The routes through the interface are the same. -/
  route : ∀ {k : RouteId}, k.oif = place → a.routes.find? k = b.routes.find? k

variable {place : Option UInt32} {a b : Inventory}

namespace AgreeOn

/-- Everyone agrees with themselves. -/
theorem refl (place : Option UInt32) (a : Inventory) : AgreeOn place a a :=
  ⟨fun _ => rfl, fun _ _ => rfl, fun _ => rfl⟩

/-- Who knows the same addresses of an interface has the same table of them. -/
theorem find?_addresses (h : AgreeOn place a b) (ha : a.WellFormed) (hb : b.WellFormed)
    {i : UInt32} (hi : place = some i) : a.addresses.find? i = b.addresses.find? i := by
  have hsame : a.addressTable i = b.addressTable i := Table.ext_find? (h.address hi)
  rw [ha.find?_addresses, hb.find?_addresses, hsame]

/-- Who knows the same routes through an interface finds one or none alike. -/
theorem any_routes (h : AgreeOn place a b) (ha : a.WellFormed) (hb : b.WellFormed) :
    (a.routes.values.any fun r => r.oif == place) =
      b.routes.values.any fun r => r.oif == place := by
  rw [Bool.eq_iff_iff, ha.any_routes_iff, hb.any_routes_iff]
  refine exists_congr fun k => and_congr_right fun hoif => ?_
  rw [h.route hoif]

/-- What an event reports depends on what is known of its interface alone. -/
theorem snd_hear {e : Event} (h : AgreeOn e.index? a b) (ha : a.WellFormed) (hb : b.WellFormed) :
    (a.hear e).2 = (b.hear e).2 := by
  cases e with
  | newLink e =>
    have hlink : a.link? e.index = b.link? e.index := h.link rfl
    simp only [Inventory.hear, learnLink, nextLink?]
    rw [hlink]
    split
    · rfl
    · split <;> rfl
  | delLink e =>
    have hlink : a.links.contains e.index = b.links.contains e.index :=
      congrArg Option.isSome (h.link rfl)
    have haddresses : a.addresses.contains e.index = b.addresses.contains e.index :=
      congrArg Option.isSome (h.find?_addresses ha hb rfl)
    have hroutes := h.any_routes ha hb
    rw [Event.index?] at hroutes
    simp only [Inventory.hear, forgetLink]
    rw [hlink, haddresses, hroutes]
  | newAddress e =>
    have haddress : a.address? e.index (Address.ofReport e).key = b.address? e.index _ :=
      h.address rfl _
    simp only [address?] at haddress
    simp only [Inventory.hear, learnAddress]
    rw [haddress]
    split <;> rfl
  | delAddress e =>
    have haddress : (a.addressTable e.index).contains (Address.ofReport e).key =
        (b.addressTable e.index).contains _ := congrArg Option.isSome (h.address rfl _)
    simp only [Inventory.hear, forgetAddress]
    rw [haddress]
    split <;> rfl
  | newRoute e =>
    have hroute : a.routes.find? (Route.ofReport e).key = b.routes.find? _ := h.route rfl
    simp only [Inventory.hear, learnRoute]
    rw [hroute]
    split <;> rfl
  | delRoute e =>
    have hroute : a.routes.find? (Route.ofReport e).key = b.routes.find? _ := h.route rfl
    simp only [Inventory.hear, forgetRoute]
    rw [hroute]
    split <;> rfl

/-- Who agreed on an interface still does after the same event. -/
theorem hear (h : AgreeOn place a b) (ha : a.WellFormed) (hb : b.WellFormed) (e : Event) :
    AgreeOn place (a.hear e).1 (b.hear e).1 where
  link hi := by rw [ha.link?_hear, hb.link?_hear, h.link hi]
  address hi k := by rw [WellFormed.address?_hear, WellFormed.address?_hear, h.address hi]
  route hk := by rw [ha.find?_routes_hear, hb.find?_routes_hear, h.route hk]

/-- Who agreed on an interface still does if one of them hears an event about another one. -/
theorem hear_left (h : AgreeOn place a b) (ha : a.WellFormed) {e : Event}
    (he : e.index? ≠ place) : AgreeOn place (a.hear e).1 b where
  link hi := by rw [ha.link?_hear, Event.onLink_of_index_ne (hi ▸ he), h.link hi]
  address hi k := by
    rw [WellFormed.address?_hear, Event.onAddress_of_index_ne (hi ▸ he), h.address hi]
  route hk := by rw [ha.find?_routes_hear, Event.onRoute_of_index_ne (hk ▸ he), h.route hk]

/-- Who agreed on an interface still does after events of which one of them hears only those about
this interface. -/
theorem hearAll (h : AgreeOn place a b) (ha : a.WellFormed) (hb : b.WellFormed)
    (events : List Event) :
    AgreeOn place (a.hearAll events).1 (b.hearAll (Event.allAbout place events)).1 := by
  rw [hearAll_fst, hearAll_fst]
  induction events generalizing a b with
  | nil => exact h
  | cons e rest ih =>
    -- Either both hear the event, or the first one hears it alone and it is about another interface.
    rw [Event.allAbout, List.foldl_cons]
    by_cases he : e.index? = place
    · rw [List.filter_cons_of_pos (by simpa using he), List.foldl_cons]
      exact ih (h.hear ha hb e) (ha.hear e) (hb.hear e)
    · rw [List.filter_cons_of_neg (by simpa using he)]
      exact ih (h.hear_left ha he) (ha.hear e) hb

end AgreeOn

/-- Inventories that agree on every interface and have the same filter are the same. -/
theorem WellFormed.eq_of_agreeOn (ha : a.WellFormed) (hb : b.WellFormed)
    (hfilter : a.filter = b.filter) (h : ∀ place, AgreeOn place a b) : a = b :=
  ha.ext hb hfilter (fun i => (h (some i)).link rfl) (fun i => (h (some i)).address rfl)
    fun k => (h k.oif).route rfl

/-! ## Reported changes -/

/-- What is reported about each event of a run, together with the interface that it is about. -/
def reports : Inventory → List Event → List (Option UInt32 × Changes)
  | _, [] => []
  | inv, e :: rest => (e.index?, (inv.hear e).2) :: (inv.hear e).1.reports rest

/-- The reports about one interface are those of the events about it. -/
theorem AgreeOn.filter_reports (h : AgreeOn place a b) (ha : a.WellFormed) (hb : b.WellFormed)
    (events : List Event) :
    (a.reports events).filter (fun r => r.1 == place) =
      b.reports (Event.allAbout place events) := by
  induction events generalizing a b with
  | nil => rfl
  | cons e rest ih =>
    rw [reports, Event.allAbout]
    by_cases he : e.index? = place
    · subst he
      rw [List.filter_cons_of_pos (by simp), List.filter_cons_of_pos (by simp), reports,
        h.snd_hear ha hb]
      exact congrArg _ (ih (h.hear ha hb e) (ha.hear e) (hb.hear e))
    · rw [List.filter_cons_of_neg (by simpa using he), List.filter_cons_of_neg (by simpa using he)]
      exact ih (h.hear_left ha he) (ha.hear e) hb

/-- A run reports what its events report. -/
theorem snd_hearAll (inv : Inventory) (events : List Event) :
    (inv.hearAll events).2 = (inv.reports events).foldl (fun c r => c.union r.2) .none := by
  have hrun : ∀ (inv : Inventory) (c : Changes),
      (events.foldl (fun p e => ((hear p.1 e).1, p.2.union (hear p.1 e).2)) (inv, c)).2 =
        (inv.reports events).foldl (fun c r => c.union r.2) c := by
    induction events with
    | nil => exact fun _ _ => rfl
    | cons e rest ih => exact fun inv c => ih _ _
  exact hrun inv .none

end Inventory

namespace Changes

/-- Changes that list the same interfaces and agree about the routes are the same. -/
theorem ext_mem {c d : Changes} (hlist : ∀ i, i ∈ c.toList ↔ i ∈ d.toList)
    (hroutes : c.routes = d.routes) : c = d := by
  have hindices : c.indices = d.indices := IndexSet.ext_mem hlist
  cases c
  cases d
  simp_all

/-- A union of reports lists what any of them lists. -/
theorem mem_toList_foldl_union {α : Type} {report : α → Changes} {rs : List α} {c : Changes}
    {i : UInt32} : i ∈ (rs.foldl (fun c r => c.union (report r)) c).toList ↔
      i ∈ c.toList ∨ ∃ r ∈ rs, i ∈ (report r).toList := by
  induction rs generalizing c with
  | nil => simp
  | cons r rest ih => simp [ih, or_assoc]

/-- A union of reports mentions the routes if any of them does. -/
theorem routes_foldl_union {α : Type} {report : α → Changes} {rs : List α} {c : Changes} :
    (rs.foldl (fun c r => c.union (report r)) c).routes = true ↔
      c.routes = true ∨ ∃ r ∈ rs, (report r).routes = true := by
  induction rs generalizing c with
  | nil => simp
  | cons r rest ih => simp [ih, or_assoc]

end Changes

/-- Runs that interleave the same events lead to the same inventory and report the same changes. -/
theorem Inventory.WellFormed.hearAll_eq_of_interleaved {inv : Inventory} (hinv : inv.WellFormed)
    {first second : List Event} (h : Event.Interleaved first second) :
    inv.hearAll first = inv.hearAll second := by
  have hreports : ∀ r, r ∈ inv.reports first ↔ r ∈ inv.reports second := by
    intro r
    have hfiltered : (inv.reports first).filter (fun s => s.1 == r.1) =
        (inv.reports second).filter fun s => s.1 == r.1 := by
      rw [(AgreeOn.refl r.1 inv).filter_reports hinv hinv,
        (AgreeOn.refl r.1 inv).filter_reports hinv hinv, h r.1]
    have hmem := congrArg (r ∈ ·) hfiltered
    simpa using hmem
  have hinventory : (inv.hearAll first).1 = (inv.hearAll second).1 := by
    refine (hinv.hearAll first).eq_of_agreeOn (hinv.hearAll second) ?_ fun place => ?_
    · rw [filter_hearAll, filter_hearAll]
    · have hfirst := (AgreeOn.refl place inv).hearAll hinv hinv first
      have hsecond := (AgreeOn.refl place inv).hearAll hinv hinv second
      rw [h place] at hfirst
      exact ⟨fun hi => (hfirst.link hi).trans (hsecond.link hi).symm,
        fun hi k => (hfirst.address hi k).trans (hsecond.address hi k).symm,
        fun hk => (hfirst.route hk).trans (hsecond.route hk).symm⟩
  have hchanges : (inv.hearAll first).2 = (inv.hearAll second).2 := by
    rw [snd_hearAll, snd_hearAll]
    refine Changes.ext_mem (fun i => ?_) ?_
    · rw [Changes.mem_toList_foldl_union, Changes.mem_toList_foldl_union]
      simp only [hreports]
    · rw [Bool.eq_iff_iff, Changes.routes_foldl_union, Changes.routes_foldl_union]
      simp only [hreports]
  exact Prod.ext hinventory hchanges

/-- Runs that interleave the same events lead every network whose inventory came about by messages
to the same links, addresses, routes, served links and numbers, and report the same changes. -/
theorem Network.order_across_interfaces_immaterial (filter : LinkFilter) (messages : List Message)
    (numbering : Numbering) {first second : List Event} (h : Event.Interleaved first second)
    (now debounce : Nat) :
    let s : Network := { inventory := ((Inventory.empty filter).deliverAll messages).1, numbering }
    s.hearAll first now debounce = s.hearAll second now debounce := by
  intro s
  have hform : s.inventory.WellFormed := (Inventory.wellFormed_empty filter).deliverAll messages
  rw [Network.hearAll, Network.hearAll, hform.hearAll_eq_of_interleaved h]

/-- A link goes away with its address while another one comes: the route without an interface, the
removal and the news may arrive in any order. -/
theorem Network.order_across_interfaces_immaterial_twoLinks :
    let gone : List Event := [.newAddress { index := 2, address := .v4 1#32 }, .delLink { index := 2 }]
    let come : List Event := [.newLink { index := 3, name := some "eth1" }, .newRoute
      { family := .v4, oif := some 3 }]
    let route : Event := .newRoute { family := .v4 }
    let s : Network := { inventory := ((Inventory.empty {}).deliverAll
      [.events [.newLink { index := 2, name := some "eth0" }]]).1 }
    gone ++ come ++ [route] ≠ route :: (come ++ gone) ∧
      Event.Interleaved (gone ++ come ++ [route]) (route :: (come ++ gone)) ∧
      s.hearAll (gone ++ come ++ [route]) 0 500 = s.hearAll (route :: (come ++ gone)) 0 500 :=
  ⟨by decide, by decide, order_across_interfaces_immaterial {} _ {} (by decide) 0 500⟩

end LinkBus
