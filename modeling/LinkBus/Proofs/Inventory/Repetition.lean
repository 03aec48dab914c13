import LinkBus.Proofs.Inventory.Effect

/-!
# Hearing events twice

A run of events heard twice in a row has the effect of hearing it once. For addresses and routes the
last event that writes a record decides. For links the attributes of all reports since the last
removal are merged, and merging them again changes nothing, provided that no report without a name
comes before the link is known.
-/

namespace LinkBus

/-- One report that says what two successive reports of a link say. -/
def LinkReport.followedBy (first second : LinkReport) : LinkReport where
  index := first.index
  name := second.name.or first.name
  layerType := second.layerType
  flags := second.flags
  changeMask := second.changeMask
  kind := second.kind.or first.kind
  oper := second.oper.or first.oper
  carrier := second.carrier
  mtu := second.mtu.or first.mtu
  hwAddress := second.hwAddress.or first.hwAddress

/-- A report that is repeated says what it says once. -/
theorem LinkReport.followedBy_self (e : LinkReport) : e.followedBy e = e := by
  simp [followedBy]

namespace Link

/-- Two successive reports of a known link are as good as one. -/
theorem after_after (l : Link) (a b : LinkReport) :
    (l.after a).after b = l.after (a.followedBy b) := by
  simp [after, LinkReport.followedBy, LinkReport.carrierOrFlag, Option.getD_or, Option.or_assoc]

/-- A first report and its successor are as good as one first report. -/
theorem ofReport_after (a b : LinkReport) :
    (ofReport a).after b = ofReport (a.followedBy b) := by
  simp [after, ofReport, LinkReport.followedBy, LinkReport.carrierOrFlag, Option.getD_or]

end Link

/-! ## Runs of events on one record -/

/-- Every event either leaves a record alone or writes it, whatever it was before. -/
def Overwrites {α : Type} (step : Option α → Event → Option α) : Prop :=
  ∀ e, (∀ x, step x e = x) ∨ ∃ v, ∀ x, step x e = v

/-- A run of events that leave a record alone or write it does one of the two itself. -/
theorem Overwrites.foldl {α : Type} {step : Option α → Event → Option α} (h : Overwrites step)
    (events : List Event) :
    (∀ x, events.foldl step x = x) ∨ ∃ v, ∀ x, events.foldl step x = v := by
  induction events with
  | nil => exact Or.inl fun _ => rfl
  | cons e rest ih =>
    rcases ih with hkeep | ⟨v, hwrite⟩
    · rcases h e with hfirst | ⟨v, hfirst⟩
      · exact Or.inl fun x => by rw [List.foldl_cons, hfirst, hkeep]
      · exact Or.inr ⟨v, fun x => by rw [List.foldl_cons, hfirst, hkeep]⟩
    · exact Or.inr ⟨v, fun x => by rw [List.foldl_cons, hwrite]⟩

/-- Where events overwrite, hearing a run a second time changes nothing. -/
theorem Overwrites.foldl_foldl {α : Type} {step : Option α → Event → Option α}
    (h : Overwrites step) (events : List Event) (x : Option α) :
    events.foldl step (events.foldl step x) = events.foldl step x := by
  rcases h.foldl events with hkeep | ⟨v, hwrite⟩
  · rw [hkeep, hkeep]
  · rw [hwrite, hwrite]

/-- Events overwrite addresses. -/
theorem Event.overwrites_onAddress (i : UInt32) (k : AddressId) : Overwrites (onAddress i k) := by
  intro e
  cases e with
  | newAddress r =>
    by_cases hplace : r.index = i ∧ (Address.ofReport r).key = k
    · exact Or.inr ⟨some (.ofReport r), fun _ => if_pos hplace⟩
    · exact Or.inl fun _ => if_neg hplace
  | delAddress r =>
    by_cases hplace : r.index = i ∧ (Address.ofReport r).key = k
    · exact Or.inr ⟨none, fun _ => if_pos hplace⟩
    · exact Or.inl fun _ => if_neg hplace
  | delLink r =>
    by_cases hindex : r.index = i
    · exact Or.inr ⟨none, fun _ => if_pos hindex⟩
    · exact Or.inl fun _ => if_neg hindex
  | newLink r => exact Or.inl fun _ => rfl
  | newRoute r => exact Or.inl fun _ => rfl
  | delRoute r => exact Or.inl fun _ => rfl

/-- Events overwrite routes. -/
theorem Event.overwrites_onRoute (k : RouteId) : Overwrites (onRoute k) := by
  intro e
  cases e with
  | newRoute r =>
    by_cases hplace : r.isTracked ∧ (Route.ofReport r).key = k
    · exact Or.inr ⟨some (.ofReport r), fun _ => if_pos hplace⟩
    · exact Or.inl fun _ => if_neg hplace
  | delRoute r =>
    by_cases hplace : r.isTracked ∧ (Route.ofReport r).key = k
    · exact Or.inr ⟨none, fun _ => if_pos hplace⟩
    · exact Or.inl fun _ => if_neg hplace
  | delLink r =>
    by_cases hoif : k.oif = some r.index
    · exact Or.inr ⟨none, fun _ => if_pos hoif⟩
    · exact Or.inl fun _ => if_neg hoif
  | newLink r => exact Or.inl fun _ => rfl
  | newAddress r => exact Or.inl fun _ => rfl
  | delAddress r => exact Or.inl fun _ => rfl

/-- Whether an event can be understood given what is known of a link: a report about it without a
name presupposes that it is known. -/
def Event.isClear (index : UInt32) (link : Option Link) : Event → Bool
  | .newLink e => !(e.index = index ∧ e.lacksName) || link.isSome
  | _ => true

/-- Whether all events can be understood, one after the other. -/
def Event.areClear (index : UInt32) : Option Link → List Event → Bool
  | _, [] => true
  | link, e :: rest => e.isClear index link && areClear index (e.onLink index link) rest

/-- An event leaves a link alone, removes it, or reports about it. -/
theorem Event.onLink_cases (i : UInt32) (e : Event) :
    (∀ x, e.onLink i x = x) ∨ (∀ x, e.onLink i x = none) ∨ ∃ r, e = .newLink r ∧ r.index = i := by
  cases e with
  | newLink r =>
    by_cases hindex : r.index = i
    · exact Or.inr (Or.inr ⟨r, rfl, hindex⟩)
    · exact Or.inl fun _ => if_neg hindex
  | delLink r =>
    by_cases hindex : r.index = i
    · exact Or.inr (Or.inl fun _ => if_pos hindex)
    · exact Or.inl fun _ => if_neg hindex
  | newAddress r => exact Or.inl fun _ => rfl
  | delAddress r => exact Or.inl fun _ => rfl
  | newRoute r => exact Or.inl fun _ => rfl
  | delRoute r => exact Or.inl fun _ => rfl

/-- A report about a known link is merged into what is known. -/
theorem Event.onLink_some {i : UInt32} {r : LinkReport} (hindex : r.index = i) (l : Link) :
    (newLink r).onLink i (some l) = some (l.after r) := by
  rw [onLink, if_pos hindex]

/-- A clear report about an unknown link makes it known. -/
theorem Event.onLink_none {i : UInt32} {r : LinkReport} (hindex : r.index = i)
    (hclear : (newLink r).isClear i none = true) :
    (newLink r).onLink i none = some (.ofReport r) := by
  have hname : r.lacksName = false := by simpa [isClear, hindex] using hclear
  rw [onLink, if_pos hindex]
  simp only [hname, Bool.false_eq_true, if_false]

/-- A run of events leaves a link alone, leads to the same outcome from everywhere, or says as much
as one report. -/
theorem Event.foldl_onLink_cases (i : UInt32) (events : List Event) :
    (∀ x, events.foldl (onLink i) x = x) ∨ (∃ v, ∀ x, events.foldl (onLink i) x = v) ∨
      ∃ r, (∀ l, events.foldl (onLink i) (some l) = some (l.after r)) ∧
        (areClear i none events = true → events.foldl (onLink i) none = some (.ofReport r)) := by
  induction events with
  | nil => exact Or.inl fun _ => rfl
  | cons e rest ih =>
    rcases e.onLink_cases i with hkeep | hremove | ⟨first, rfl, hindex⟩
    · rcases ih with h | ⟨v, h⟩ | ⟨r, hsome, hnone⟩
      · exact Or.inl fun x => by rw [List.foldl_cons, hkeep, h]
      · exact Or.inr (Or.inl ⟨v, fun x => by rw [List.foldl_cons, h]⟩)
      · refine Or.inr (Or.inr ⟨r, fun l => by rw [List.foldl_cons, hkeep, hsome], fun hclear => ?_⟩)
        simp only [areClear, Bool.and_eq_true, hkeep] at hclear
        rw [List.foldl_cons, hkeep, hnone hclear.2]
    · exact Or.inr (Or.inl ⟨rest.foldl (onLink i) none, fun x => by
        rw [List.foldl_cons, hremove]⟩)
    · rcases ih with h | ⟨v, h⟩ | ⟨r, hsome, _⟩
      · refine Or.inr (Or.inr ⟨first, fun l => ?_, fun hclear => ?_⟩)
        · rw [List.foldl_cons, onLink_some hindex, h]
        · rw [areClear, Bool.and_eq_true] at hclear
          rw [List.foldl_cons, onLink_none hindex hclear.1, h]
      · exact Or.inr (Or.inl ⟨v, fun x => by rw [List.foldl_cons, h]⟩)
      · refine Or.inr (Or.inr ⟨first.followedBy r, fun l => ?_, fun hclear => ?_⟩)
        · rw [List.foldl_cons, onLink_some hindex, hsome, Link.after_after]
        · rw [areClear, Bool.and_eq_true] at hclear
          rw [List.foldl_cons, onLink_none hindex hclear.1, hsome, Link.ofReport_after]

/-- Hearing clear events about a link a second time changes nothing. -/
theorem Event.foldl_onLink_foldl {i : UInt32} {x : Option Link} {events : List Event}
    (hclear : areClear i x events = true) :
    events.foldl (onLink i) (events.foldl (onLink i) x) = events.foldl (onLink i) x := by
  rcases foldl_onLink_cases i events with h | ⟨v, h⟩ | ⟨r, hsome, hnone⟩
  · rw [h, h]
  · rw [h, h]
  · cases x with
    | none => rw [hnone hclear, hsome, Link.ofReport_after, LinkReport.followedBy_self]
    | some l => rw [hsome, hsome, Link.after_after, LinkReport.followedBy_self]

/-- Clear events are clear up to any moment, and from there on. -/
theorem Event.areClear_append {i : UInt32} {x : Option Link} {first second : List Event} :
    areClear i x (first ++ second) =
      (areClear i x first && areClear i (first.foldl (onLink i) x) second) := by
  induction first generalizing x with
  | nil => rfl
  | cons e rest ih => rw [List.cons_append, areClear, ih, areClear, List.foldl_cons, Bool.and_assoc]

namespace Inventory

/-- Whether an event can be understood: a report without a name must be about a known link. -/
def understands (inv : Inventory) : Event → Bool
  | .newLink e => !e.lacksName || (inv.link? e.index).isSome
  | _ => true

/-- Whether all events can be understood, one after the other. -/
def understandsAll : Inventory → List Event → Bool
  | _, [] => true
  | inv, e :: rest => inv.understands e && (inv.hear e).1.understandsAll rest

/-- What an inventory understands is clear about each link. -/
theorem WellFormed.areClear {inv : Inventory} (h : inv.WellFormed) {events : List Event}
    (hunderstood : inv.understandsAll events = true) (i : UInt32) :
    Event.areClear i (inv.link? i) events = true := by
  induction events generalizing inv with
  | nil => rfl
  | cons e rest ih =>
    rw [understandsAll, Bool.and_eq_true] at hunderstood
    rw [Event.areClear, Bool.and_eq_true, ← h.link?_hear]
    refine ⟨?_, ih (h.hear e) hunderstood.2⟩
    have hfirst := hunderstood.1
    cases e with
    | newLink r =>
      by_cases hindex : r.index = i
      · subst hindex
        simpa [Event.isClear, understands] using hfirst
      · simp [Event.isClear, hindex]
    | _ => rfl

end Inventory

end LinkBus
