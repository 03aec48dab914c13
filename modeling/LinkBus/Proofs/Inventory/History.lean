import LinkBus.Proofs.Inventory.Belated
import Mathlib.Data.List.DropRight

/-!
# What a history of events comes to

What an inventory that started empty knows can be read off the whole history of events, without
running it: each record is what the last event that concerns it says. An address or a route is known
if that event announces it, and is then as announced. A link is known if it was reported with a name
since its last removal, and each of its attributes is the last value that was reported since the
first such report. Events about routes that are not tracked count for nothing, also if they have the
key of a route that is.
-/

namespace LinkBus

namespace LinkReport

/-- The last value of an attribute that some reports carry. -/
def lastValue {α : Type} (value : LinkReport → Option α) (reports : List LinkReport) : Option α :=
  (reports.filterMap value).getLast?

/-- One more report decides an attribute that it carries. -/
theorem lastValue_concat {α : Type} (value : LinkReport → Option α) (reports : List LinkReport)
    (r : LinkReport) :
    lastValue value (reports ++ [r]) = (value r).or (lastValue value reports) := by
  rw [lastValue, List.filterMap_append, List.getLast?_append, lastValue]
  cases hvalue : value r <;> simp [hvalue]

/-- An attribute that two successive reports have from the later one that carries it is the last one
that any number of them carry. -/
theorem joined_eq_lastValue {α : Type} (value : LinkReport → Option α)
    (hfollowed : ∀ a b, value (followedBy a b) = (value b).or (value a))
    (first : LinkReport) (later : List LinkReport) :
    value (first.joined later) = lastValue value (first :: later) := by
  induction later using List.reverseRecOn with
  | nil =>
    cases hvalue : value first <;> simp [joined, lastValue, hvalue]
  | append_singleton rest last ih =>
    have hjoined : first.joined (rest ++ [last]) = (first.joined rest).followedBy last := by
      rw [joined, List.foldl_append, List.foldl_cons, List.foldl_nil, joined]
    rw [hjoined, hfollowed, ih, ← List.cons_append, lastValue_concat]

/-- What two successive reports have from the later one is what the last one says. -/
theorem joined_eq_last {α : Type} (value : LinkReport → α)
    (hfollowed : ∀ a b, value (followedBy a b) = value b)
    (first : LinkReport) (later : List LinkReport) :
    value (first.joined later) = value ((first :: later).getLast (List.cons_ne_nil _ _)) := by
  induction later using List.reverseRecOn with
  | nil => rfl
  | append_singleton rest last ih =>
    rw [joined, List.foldl_append, List.foldl_cons, List.foldl_nil, hfollowed]
    simp

end LinkReport

namespace Event

/-- The events after the last one that removes a link. -/
def sinceRemoval (i : UInt32) (events : List Event) : List Event :=
  events.rtakeWhile fun e => !e.removes i

/-- The reports about a link since it was created: since its last removal, from the first one with a
name on. -/
def life (i : UInt32) (events : List Event) : List LinkReport := timely i (sinceRemoval i events)

/-- Whether an event is about an address or removes its link. -/
def concernsAddress (i : UInt32) (k : AddressId) : Event → Bool
  | .newAddress e | .delAddress e => decide (e.index = i ∧ (Address.ofReport e).key = k)
  | .delLink e => decide (e.index = i)
  | _ => false

/-- The address that an event announces. -/
def address? : Event → Option Address
  | .newAddress e => some (.ofReport e)
  | _ => none

/-- Whether an event is about a route of a key or removes the interface of the key. -/
def concernsRoute (k : RouteId) : Event → Bool
  | .newRoute e | .delRoute e => decide ((Route.ofReport e).key = k)
  | .delLink e => decide (k.oif = some e.index)
  | _ => false

/-- Whether an event is about a tracked route, or about something else than a route. -/
def isTracked : Event → Bool
  | .newRoute e | .delRoute e => e.isTracked
  | _ => true

/-- The route that an event announces. -/
def route? : Event → Option Route
  | .newRoute e => some (.ofReport e)
  | _ => none

/-- Where each event either does not concern a record or replaces it, the last event that concerns
it decides. -/
theorem foldl_eq_last {α : Type} {step : Option α → Event → Option α} {concerns : Event → Bool}
    {said : Event → Option α} (hstep : ∀ x e, step x e = if concerns e then said e else x)
    (events : List Event) :
    events.foldl step none = ((events.filter concerns).getLast?).bind said := by
  induction events using List.reverseRecOn with
  | nil => rfl
  | append_singleton rest last ih =>
    rw [List.foldl_append, List.foldl_cons, List.foldl_nil, hstep, ih, List.filter_append]
    by_cases hconcerns : concerns last = true
    · simp [hconcerns]
    · simp [hconcerns]

/-- An event replaces the addresses that it concerns. -/
theorem onAddress_eq (i : UInt32) (k : AddressId) (x : Option Address) (e : Event) :
    e.onAddress i k x = if e.concernsAddress i k then e.address? else x := by
  cases e <;> simp [onAddress, concernsAddress, address?]

/-- An event replaces the routes that it concerns, unless it is about one that is not tracked. -/
theorem onRoute_eq (k : RouteId) (x : Option Route) (e : Event) :
    e.onRoute k x = if e.isTracked && e.concernsRoute k then e.route? else x := by
  cases e <;> simp [onRoute, concernsRoute, isTracked, route?]

/-- Events after the last removal do not remove the link. -/
theorem removes_of_mem_sinceRemoval {i : UInt32} {events : List Event} {e : Event}
    (he : e ∈ sinceRemoval i events) : e.removes i = false := by
  simpa using List.mem_rtakeWhile_imp he

/-- What comes before the last removal of a link does not count for it. -/
theorem foldl_onLink_sinceRemoval (i : UInt32) (events : List Event) :
    events.foldl (onLink i) none = (sinceRemoval i events).foldl (onLink i) none := by
  induction events using List.reverseRecOn with
  | nil => rfl
  | append_singleton rest last ih =>
    by_cases hremoves : last.removes i = true
    · have hsince : sinceRemoval i (rest ++ [last]) = [] :=
        List.rtakeWhile_concat_neg _ _ _ (by simp [hremoves])
      obtain ⟨r, rfl, hindex⟩ : ∃ r, last = .delLink r ∧ r.index = i := by
        cases last with
        | delLink r => exact ⟨r, rfl, beq_iff_eq.1 hremoves⟩
        | _ => cases hremoves
      rw [hsince, List.foldl_append, List.foldl_cons, List.foldl_nil, onLink, if_pos hindex]
      rfl
    · have hsince : sinceRemoval i (rest ++ [last]) = sinceRemoval i rest ++ [last] :=
        List.rtakeWhile_concat_pos _ _ _ (by simp [hremoves])
      rw [hsince, List.foldl_append, List.foldl_append, ih]

/-- A link has a life exactly if it was reported with a name since its last removal. -/
theorem life_ne_nil_iff {i : UInt32} {events : List Event} :
    life i events ≠ [] ↔ ∃ e ∈ reportsOf i (sinceRemoval i events), e.name.isSome = true := by
  rw [life, timely, ne_eq, List.dropWhile_eq_nil_iff]
  simp [LinkReport.lacksName, Option.isSome_iff_ne_none]

end Event

namespace Inventory

open Event LinkReport

variable {filter : LinkFilter} {events : List Event} {i : UInt32}

/-- An inventory that started empty knows a link by the reports of its life, taken together. -/
theorem link?_hearAll_empty (filter : LinkFilter) (events : List Event) (i : UInt32) :
    ((empty filter).hearAll events).1.link? i =
      match life i events with
      | [] => none
      | first :: later => some (.ofReport (first.joined later)) := by
  rw [(wellFormed_empty filter).link?_hearAll]
  change events.foldl (onLink i) none = _
  rw [foldl_onLink_sinceRemoval, foldl_onLink_none fun e he => removes_of_mem_sinceRemoval he]
  rfl

/-- The reports about a link are about this link. -/
theorem index_of_mem_reportsOf {r : LinkReport} (hr : r ∈ reportsOf i events) : r.index = i := by
  obtain ⟨e, -, he⟩ := List.mem_filterMap.1 hr
  cases e with
  | newLink r' =>
    by_cases hindex : r'.index = i
    · rw [report?, if_pos hindex, Option.some.injEq] at he
      rwa [← he]
    · rw [report?, if_neg hindex] at he
      cases he
  | _ => cases he

/-- A link that an inventory knows that started empty has each attribute from the last report of its
life that mentions it; the hardware type, the flags and the carrier are those of the last report. -/
theorem link_eq_of_life {l : Link} (hlink : ((empty filter).hearAll events).1.link? i = some l) :
    ∃ last, (life i events).getLast? = some last ∧ l =
      { index := i
        name := (lastValue (·.name) (life i events)).getD ""
        layerType := last.layerType
        kind := lastValue (·.kind) (life i events)
        flags := last.flags
        oper := (lastValue (·.oper) (life i events)).getD .unknown
        carrier := last.carrier.getD (hasFlag last.flags flagLowerUp)
        mtu := (lastValue (·.mtu) (life i events)).getD 0
        hwAddress := (lastValue (·.hwAddress) (life i events)).getD [] } := by
  rw [link?_hearAll_empty] at hlink
  cases hlife : life i events with
  | nil =>
    rw [hlife] at hlink
    cases hlink
  | cons first later =>
    rw [hlife, Option.some.injEq] at hlink
    refine ⟨(first :: later).getLast (List.cons_ne_nil _ _), List.getLast?_eq_some_getLast _, ?_⟩
    have hfirst : first.index = i :=
      index_of_mem_reportsOf (List.dropWhile_subset _
        (show first ∈ life i events by rw [hlife]; exact List.mem_cons_self))
    have hindex : (first.joined later).index = i := by
      refine List.foldlRecOn (motive := fun (r : LinkReport) => r.index = i) later _ hfirst ?_
      exact fun r hr _ _ => hr
    -- The carrier attribute and the flags both come from the last report, so the carrier does too.
    have hcarrier : (first.joined later).carrierOrFlag =
        ((first :: later).getLast (List.cons_ne_nil _ _)).carrierOrFlag :=
      joined_eq_last carrierOrFlag (fun _ _ => rfl) first later
    rw [← hlink, Link.ofReport, hindex, hcarrier,
      joined_eq_lastValue (·.name) fun _ _ => rfl,
      joined_eq_lastValue (·.kind) fun _ _ => rfl,
      joined_eq_lastValue (·.oper) fun _ _ => rfl,
      joined_eq_lastValue (·.mtu) fun _ _ => rfl,
      joined_eq_lastValue (·.hwAddress) fun _ _ => rfl,
      joined_eq_last (·.layerType) fun _ _ => rfl,
      joined_eq_last (·.flags) fun _ _ => rfl]
    rfl

/-- The last event that concerns a record decides what an inventory that started empty knows of it.
A link is known exactly if it was reported with a name since its last removal. It then has its
name, its kind, its operational state, its packet size and its hardware address from the last report
of its life that carries them, and its hardware type, its flags and its carrier from the last report.
An address or a route is known exactly if the last event that concerns it announces it, where events
about routes that are not tracked do not count. -/
theorem records_hearAll_empty (filter : LinkFilter) (events : List Event) :
    let inv := ((empty filter).hearAll events).1
    (∀ i, (inv.link? i).isSome = true ↔
      ∃ e ∈ reportsOf i (sinceRemoval i events), e.name.isSome = true) ∧
    (∀ i l, inv.link? i = some l → ∃ last, (life i events).getLast? = some last ∧ l =
      { index := i
        name := (lastValue (·.name) (life i events)).getD ""
        layerType := last.layerType
        kind := lastValue (·.kind) (life i events)
        flags := last.flags
        oper := (lastValue (·.oper) (life i events)).getD .unknown
        carrier := last.carrier.getD (hasFlag last.flags flagLowerUp)
        mtu := (lastValue (·.mtu) (life i events)).getD 0
        hwAddress := (lastValue (·.hwAddress) (life i events)).getD [] }) ∧
    (∀ i k, inv.address? i k =
      ((events.filter (concernsAddress i k)).getLast?).bind Event.address?) ∧
    (∀ k, inv.routes.find? k =
      ((events.filter fun e => e.isTracked && e.concernsRoute k).getLast?).bind Event.route?) := by
  intro inv
  have hform := wellFormed_empty filter
  refine ⟨fun i => ?_, fun i l hlink => link_eq_of_life hlink, fun i k => ?_, fun k => ?_⟩
  · rw [← life_ne_nil_iff, link?_hearAll_empty]
    cases life i events <;> simp
  · change ((empty filter).hearAll events).1.address? i k = _
    rw [hform.address?_hearAll]
    exact foldl_eq_last (onAddress_eq i k) events
  · change ((empty filter).hearAll events).1.routes.find? k = _
    rw [hform.find?_routes_hearAll]
    exact foldl_eq_last (onRoute_eq k) events

/-- A default route that is announced as a unicast route and then removed as a route of another
type. Both events have the same key, but only the first one is about a tracked route. -/
def removedAsOther : List Event :=
  let route : RouteReport := { family := .v4, gateway := some (.v4 0x0a000001#32), oif := some 2 }
  [.newRoute route, .delRoute { route with unicast := false }]

/-- The last event of the key of a tracked route does not decide whether its route is known, since
the event can be about a route that is not tracked. -/
theorem route_survives_untracked_removal :
    ∃ k : RouteId, k.prefixLen = 0 ∧ k.table ≠ localTable ∧
      ¬ ((((empty {}).hearAll removedAsOther).1.routes.find? k).isSome = true ↔
        ∃ r, (removedAsOther.filter (concernsRoute k)).getLast? = some (.newRoute r)) := by
  refine ⟨⟨254, .v4, none, 0, 0, some 2⟩, by decide, by decide, fun hiff => ?_⟩
  obtain ⟨r, hr⟩ := hiff.1 (by decide)
  have hlast : (removedAsOther.filter
      (concernsRoute ⟨254, .v4, none, 0, 0, some 2⟩)).getLast?.bind Event.route? = none := by decide
  rw [hr] at hlast
  cases hlast

end Inventory

end LinkBus
