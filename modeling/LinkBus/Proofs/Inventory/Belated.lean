import LinkBus.Proofs.Inventory.Repetition

/-!
# Reports that come before their link

A report without a name about an unknown link is ignored. If the link becomes known later in the same
run and the run is heard again, then the report is not ignored any more: an attribute that only
such reports mention is now told. This is the one way in which hearing a run a second time can
change anything. Only the kind, the operational state, the packet size and the hardware address
can be left behind like this, since the other attributes follow from the last report.
-/

namespace LinkBus

/-- An attribute of a link that keeps its value unless a report mentions it. -/
inductive LinkAttribute
  | kind
  | oper
  | mtu
  | hwAddress
  deriving DecidableEq, Repr

namespace LinkReport

/-- Whether a report mentions an attribute. -/
def mentions (a : LinkAttribute) (e : LinkReport) : Bool :=
  match a with
  | .kind => e.kind.isSome
  | .oper => e.oper.isSome
  | .mtu => e.mtu.isSome
  | .hwAddress => e.hwAddress.isSome

/-- Whether a report tells another value of an attribute than the one that a link has of which no
report mentions it. -/
def tells (a : LinkAttribute) (e : LinkReport) : Bool :=
  match a with
  | .kind => e.kind.isSome
  | .oper => e.oper.getD .unknown != .unknown
  | .mtu => e.mtu.getD 0 != 0
  | .hwAddress => e.hwAddress.getD [] != []

/-- Whether the last of some reports that mentions an attribute tells another value of it. -/
def lastTells (a : LinkAttribute) (reports : List LinkReport) : Bool :=
  (reports.filter (mentions a)).getLast?.any (tells a)

variable {a : LinkAttribute} {first second : LinkReport}

/-- A report that does not mention an attribute tells nothing about it. -/
theorem tells_of_not_mentions {e : LinkReport} (h : e.mentions a = false) : e.tells a = false := by
  cases a <;> simp_all [mentions, tells]

/-- Two successive reports mention what either does. -/
theorem mentions_followedBy :
    (first.followedBy second).mentions a = (first.mentions a || second.mentions a) := by
  cases a <;> simp [mentions, followedBy, Bool.or_comm]

/-- Of two successive reports the later one that mentions an attribute decides what they tell. -/
theorem tells_followedBy :
    (first.followedBy second).tells a =
      if second.mentions a then second.tells a else first.tells a := by
  cases hsecond : second.mentions a with
  | false =>
    cases a <;> rw [mentions, Option.isSome_eq_false_iff, Option.isNone_iff_eq_none] at hsecond <;>
      simp [tells, followedBy, hsecond]
  | true =>
    cases a <;> obtain ⟨v, hv⟩ := Option.isSome_iff_exists.1 hsecond <;>
      simp [tells, followedBy, hv]

/-- One report that says what successive reports say. -/
def joined (first : LinkReport) (later : List LinkReport) : LinkReport := later.foldl followedBy first

/-- Successive reports mention what any of them does. -/
theorem mentions_joined {later : List LinkReport} :
    (first.joined later).mentions a = (first :: later).any (mentions a) := by
  induction later generalizing first with
  | nil => simp [joined]
  | cons second rest ih =>
    rw [joined, List.foldl_cons, ← joined, ih]
    simp [mentions_followedBy, Bool.or_assoc]

/-- Of successive reports the last one that mentions an attribute decides what they tell. -/
theorem tells_joined {later : List LinkReport} :
    (first.joined later).tells a = lastTells a (first :: later) := by
  induction later using List.reverseRecOn with
  | nil =>
    cases hfirst : first.mentions a with
    | true => simp [joined, lastTells, hfirst]
    | false => simp [joined, lastTells, hfirst, tells_of_not_mentions hfirst]
  | append_singleton rest last ih =>
    rw [joined, List.foldl_append, List.foldl_cons, List.foldl_nil, ← joined, tells_followedBy, ih,
      lastTells, lastTells, ← List.cons_append, List.filter_append, List.getLast?_append]
    cases hlast : last.mentions a <;> simp [hlast]

/-- Successive reports have a name if any of them does. -/
theorem lacksName_joined {later : List LinkReport} (hname : first.lacksName = false) :
    (first.joined later).lacksName = false := by
  induction later generalizing first with
  | nil => exact hname
  | cons second rest ih =>
    apply ih
    simp only [lacksName, Option.isNone_eq_false_iff] at hname ⊢
    simp [followedBy, hname]

end LinkReport

namespace Link

/-- A known link follows successive reports as it follows them joined. -/
theorem foldl_after (l : Link) (first : LinkReport) (later : List LinkReport) :
    later.foldl after (l.after first) = l.after (first.joined later) := by
  induction later generalizing first with
  | nil => rfl
  | cons second rest ih => rw [List.foldl_cons, after_after, ih, LinkReport.joined]; rfl

/-- Successive reports that are heard a second time tell a known link nothing new. -/
theorem foldl_after_foldl (l : Link) (reports : List LinkReport) :
    reports.foldl after (reports.foldl after l) = reports.foldl after l := by
  cases reports with
  | nil => rfl
  | cons first later =>
    rw [List.foldl_cons, List.foldl_cons, foldl_after, foldl_after, after_after,
      LinkReport.followedBy_self]

/-- A new link follows successive reports as it follows them joined. -/
theorem foldl_after_ofReport (first : LinkReport) (later : List LinkReport) :
    later.foldl after (ofReport first) = ofReport (first.joined later) := by
  induction later generalizing first with
  | nil => rfl
  | cons second rest ih => rw [List.foldl_cons, ofReport_after, ih, LinkReport.joined]; rfl

/-- Who has a value of their own keeps it; everyone else keeps the default unless an early value is
another one. -/
theorem getD_getD_eq_iff {α : Type} [DecidableEq α] (own early : Option α) (default : α) :
    own.getD (early.getD (own.getD default)) = own.getD default ↔
      ((early.getD default != default) = true → own.isSome = true) := by
  cases own <;> simp

/-- A new link that hears an early report and then everything again is as before exactly if its own
reports mention what the early one tells. -/
theorem ofReport_after_eq_iff {early e : LinkReport} (hname : e.lacksName = false) :
    (ofReport e).after (early.followedBy e) = ofReport e ↔
      ∀ a, early.tells a = true → e.mentions a = true := by
  obtain ⟨name, hname⟩ : ∃ name, e.name = some name := by
    simpa [LinkReport.lacksName, Option.isSome_iff_exists] using hname
  have hkind : (e.kind.or early.kind).or e.kind = e.kind ↔
      (early.kind.isSome = true → e.kind.isSome = true) := by
    cases e.kind <;> simp [Option.isSome_iff_ne_none]
  have hfields : (ofReport e).after (early.followedBy e) = ofReport e ↔
      (early.tells .kind = true → e.mentions .kind = true) ∧
      (early.tells .oper = true → e.mentions .oper = true) ∧
      (early.tells .mtu = true → e.mentions .mtu = true) ∧
      (early.tells .hwAddress = true → e.mentions .hwAddress = true) := by
    simp [after, ofReport, LinkReport.followedBy, LinkReport.carrierOrFlag, hname,
      LinkReport.mentions, LinkReport.tells, getD_getD_eq_iff, hkind]
  rw [hfields]
  refine ⟨?_, fun h => ⟨h .kind, h .oper, h .mtu, h .hwAddress⟩⟩
  rintro ⟨hkind, hoper, hmtu, hhw⟩ a
  cases a
  · exact hkind
  · exact hoper
  · exact hmtu
  · exact hhw

end Link

namespace Event

/-- What an event reports about a link. -/
def report? (i : UInt32) : Event → Option LinkReport
  | .newLink e => if e.index = i then some e else none
  | _ => none

/-- Whether an event removes a link. -/
def removes (i : UInt32) : Event → Bool
  | .delLink e => e.index == i
  | _ => false

/-- The reports about a link in a run of events. -/
def reportsOf (i : UInt32) (events : List Event) : List LinkReport := events.filterMap (report? i)

/-- The reports about a link that come before the first one with a name. -/
def belated (i : UInt32) (events : List Event) : List LinkReport :=
  (reportsOf i events).takeWhile LinkReport.lacksName

/-- The reports about a link from the first one with a name on. -/
def timely (i : UInt32) (events : List Event) : List LinkReport :=
  (reportsOf i events).dropWhile LinkReport.lacksName

/-- A run of events leaves something about a link behind: the link is unknown before and becomes
known without being removed, and the reports that came too early for it tell an attribute that none
of the others mentions. -/
structure LeavesBehind (i : UInt32) (link : Option Link) (events : List Event) : Prop where
  /-- The link is unknown before. -/
  unknown : link = none
  /-- The link is not removed. -/
  kept : ∀ e ∈ events, e.removes i = false
  /-- The link becomes known. -/
  learned : timely i events ≠ []
  /-- An attribute is told too early, and is not mentioned any more. -/
  untold : ∃ a, LinkReport.lastTells a (belated i events) = true ∧
    ∀ e ∈ timely i events, e.mentions a = false

variable {i : UInt32} {events : List Event}

/-- A link that is removed in a run ends the same whatever it was before. -/
theorem foldl_onLink_of_removes {e : Event} (he : e ∈ events) (hremoves : e.removes i = true) :
    ∃ v, ∀ x, events.foldl (onLink i) x = v := by
  induction events with
  | nil => cases he
  | cons first rest ih =>
    rcases List.mem_cons.1 he with rfl | he
    · refine ⟨rest.foldl (onLink i) none, fun x => ?_⟩
      cases e with
      | delLink r => rw [List.foldl_cons, onLink, if_pos (beq_iff_eq.1 hremoves)]
      | _ => cases hremoves
    · obtain ⟨v, hv⟩ := ih he
      exact ⟨v, fun x => hv _⟩

/-- An event that does not remove a link acts on it by what it reports about it. -/
theorem onLink_of_kept {e : Event} (hkept : e.removes i = false) (x : Option Link) :
    (e.report? i = none ∧ e.onLink i x = x) ∨
      ∃ r, e.report? i = some r ∧ e = .newLink r ∧ r.index = i := by
  cases e with
  | newLink r =>
    by_cases hindex : r.index = i
    · exact Or.inr ⟨r, if_pos hindex, rfl, hindex⟩
    · exact Or.inl ⟨if_neg hindex, if_neg hindex⟩
  | delLink r => exact Or.inl ⟨rfl, if_neg (by simpa [removes] using hkept)⟩
  | _ => exact Or.inl ⟨rfl, rfl⟩

/-- A known link that is not removed follows the reports about it. -/
theorem foldl_onLink_some (hkept : ∀ e ∈ events, e.removes i = false) (l : Link) :
    events.foldl (onLink i) (some l) = some ((reportsOf i events).foldl Link.after l) := by
  induction events generalizing l with
  | nil => rfl
  | cons e rest ih =>
    have hrest := fun f hf => hkept f (List.mem_cons_of_mem _ hf)
    rcases onLink_of_kept (hkept e List.mem_cons_self) (some l) with
      ⟨hnone, hsame⟩ | ⟨r, hr, rfl, hindex⟩
    · rw [List.foldl_cons, hsame, ih hrest, reportsOf, reportsOf, List.filterMap_cons_none hnone]
    · rw [List.foldl_cons, onLink_some hindex, ih hrest, reportsOf, reportsOf,
        List.filterMap_cons_some hr, List.foldl_cons]

/-- An unknown link that is not removed becomes what the reports from the first one with a name on
say. -/
theorem foldl_onLink_none (hkept : ∀ e ∈ events, e.removes i = false) :
    events.foldl (onLink i) none =
      match timely i events with
      | [] => none
      | first :: later => some (.ofReport (first.joined later)) := by
  induction events with
  | nil => rfl
  | cons e rest ih =>
    have hrest := fun f hf => hkept f (List.mem_cons_of_mem _ hf)
    rcases onLink_of_kept (hkept e List.mem_cons_self) none with
      ⟨hnone, hsame⟩ | ⟨r, hr, rfl, hindex⟩
    · have htimely : timely i (e :: rest) = timely i rest := by
        rw [timely, timely, reportsOf, List.filterMap_cons_none hnone, reportsOf]
      rw [List.foldl_cons, hsame, ih hrest, htimely]
    · have hreports : reportsOf i (.newLink r :: rest) = r :: reportsOf i rest := by
        rw [reportsOf, List.filterMap_cons_some hr, reportsOf]
      cases hname : r.lacksName with
      | true =>
        have htimely : timely i (.newLink r :: rest) = timely i rest := by
          rw [timely, hreports, List.dropWhile_cons_of_pos hname, timely]
        rw [List.foldl_cons, onLink, if_pos hindex]
        simp only [hname, if_true]
        rw [ih hrest, htimely]
      | false =>
        have htimely : timely i (.newLink r :: rest) = r :: reportsOf i rest := by
          rw [timely, hreports, List.dropWhile_cons_of_neg (by simp [hname])]
        have hclear : (newLink r).isClear i none = true := by simp [isClear, hname]
        rw [List.foldl_cons, onLink_none hindex hclear, foldl_onLink_some hrest, htimely,
          Link.foldl_after_ofReport]

/-- The reports about a link are those that come too early and the others. -/
theorem belated_append_timely (i : UInt32) (events : List Event) :
    belated i events ++ timely i events = reportsOf i events :=
  List.takeWhile_append_dropWhile

/-- The first of the reports that do not come too early has a name. -/
theorem lacksName_of_timely {first : LinkReport} {later : List LinkReport}
    (htimely : timely i events = first :: later) : first.lacksName = false := by
  have hhead := List.head?_dropWhile_not LinkReport.lacksName (reportsOf i events)
  rw [← timely, htimely] at hhead
  simpa using hhead

/-- A run that makes a link known leaves something about it behind exactly if what came too early
tells an attribute that what came later, taken together, does not mention. -/
theorem leavesBehind_none_iff (hkept : ∀ e ∈ events, e.removes i = false) {first : LinkReport}
    {later : List LinkReport} (htimely : timely i events = first :: later) :
    LeavesBehind i none events ↔ ∃ a, LinkReport.lastTells a (belated i events) = true ∧
      (first.joined later).mentions a = false := by
  have hmentions : ∀ a, (first.joined later).mentions a = false ↔
      ∀ e ∈ timely i events, e.mentions a = false := by
    intro a
    rw [LinkReport.mentions_joined, htimely, List.any_eq_false]
    simp
  simp only [hmentions]
  exact ⟨fun h => h.untold, fun h => ⟨rfl, hkept, by simp [htimely], h⟩⟩

/-- Hearing a run a second time leaves a link alone exactly if the run leaves nothing about it
behind. -/
theorem foldl_onLink_foldl_eq_iff (i : UInt32) (x : Option Link) (events : List Event) :
    events.foldl (onLink i) (events.foldl (onLink i) x) = events.foldl (onLink i) x ↔
      ¬ LeavesBehind i x events := by
  by_cases hkept : ∀ e ∈ events, e.removes i = false
  · cases x with
    | some l =>
      refine iff_of_true ?_ fun h => nomatch h.unknown
      rw [foldl_onLink_some hkept, foldl_onLink_some hkept, Link.foldl_after_foldl]
    | none =>
      rw [foldl_onLink_none hkept]
      cases htimely : timely i events with
      | nil =>
        refine iff_of_true ?_ fun h => h.learned htimely
        simp only [foldl_onLink_none hkept, htimely]
      | cons first later =>
        -- The second time all reports are heard, those that came too early before the others.
        rw [foldl_onLink_some hkept, ← belated_append_timely, List.foldl_append, htimely,
          List.foldl_cons, Link.foldl_after, Option.some.injEq,
          leavesBehind_none_iff hkept htimely]
        cases hbelated : belated i events with
        | nil =>
          refine iff_of_true ?_ fun ⟨_, htells, _⟩ => nomatch htells
          rw [List.foldl_nil, Link.ofReport_after, LinkReport.followedBy_self]
        | cons early more =>
          rw [List.foldl_cons, Link.foldl_after, Link.after_after,
            Link.ofReport_after_eq_iff (LinkReport.lacksName_joined (lacksName_of_timely htimely))]
          simp [LinkReport.tells_joined]
  · push Not at hkept
    obtain ⟨e, he, hremoves⟩ := hkept
    rw [Bool.ne_false_iff] at hremoves
    obtain ⟨v, hv⟩ := foldl_onLink_of_removes he hremoves
    refine iff_of_true (by rw [hv, hv]) fun h => ?_
    rw [h.kept e he] at hremoves
    cases hremoves

end Event

namespace Inventory

variable {inv : Inventory}

/-- Hearing a run a second time changes no address. -/
theorem WellFormed.addresses_hearAll_hearAll (h : inv.WellFormed) (events : List Event) :
    ((inv.hearAll events).1.hearAll events).1.addresses = (inv.hearAll events).1.addresses := by
  have honce := h.hearAll events
  apply Table.ext_find?
  intro i
  have htable : ((inv.hearAll events).1.hearAll events).1.addressTable i =
      (inv.hearAll events).1.addressTable i := by
    apply Table.ext_find?
    intro k
    change Inventory.address? _ i k = Inventory.address? _ i k
    rw [honce.address?_hearAll, h.address?_hearAll,
      (Event.overwrites_onAddress i k).foldl_foldl]
  rw [(honce.hearAll events).find?_addresses, honce.find?_addresses, htable]

/-- Hearing a run a second time changes no route. -/
theorem WellFormed.routes_hearAll_hearAll (h : inv.WellFormed) (events : List Event) :
    ((inv.hearAll events).1.hearAll events).1.routes = (inv.hearAll events).1.routes := by
  apply Table.ext_find?
  intro k
  rw [(h.hearAll events).find?_routes_hearAll, h.find?_routes_hearAll,
    (Event.overwrites_onRoute k).foldl_foldl]

/-- Hearing a run a second time changes a link exactly if the run left something about it behind. -/
theorem WellFormed.link?_hearAll_hearAll_iff (h : inv.WellFormed) (events : List Event)
    (i : UInt32) :
    ((inv.hearAll events).1.hearAll events).1.link? i = (inv.hearAll events).1.link? i ↔
      ¬ Event.LeavesBehind i (inv.link? i) events := by
  rw [(h.hearAll events).link?_hearAll, h.link?_hearAll, Event.foldl_onLink_foldl_eq_iff]

/-- Whatever messages came before: hearing a run of events a second time changes no address and no
route, and it changes what is known of a link, or whether it is served, only if the run left
something about that link behind. Nothing at all changes exactly if nothing was left behind. -/
theorem replay_unless_left_behind (filter : LinkFilter) (messages : List Message)
    (events : List Event) :
    let inv := ((empty filter).deliverAll messages).1
    let once := (inv.hearAll events).1
    let twice := (once.hearAll events).1
    twice.addresses = once.addresses ∧ twice.routes = once.routes ∧
    (∀ i, twice.link? i = once.link? i ↔ ¬ Event.LeavesBehind i (inv.link? i) events) ∧
    (∀ i, ¬ Event.LeavesBehind i (inv.link? i) events → twice.serves i = once.serves i) ∧
    (twice = once ↔ ∀ i, ¬ Event.LeavesBehind i (inv.link? i) events) := by
  intro inv once twice
  have h : inv.WellFormed := (wellFormed_empty filter).deliverAll messages
  have honce : once.WellFormed := h.hearAll events
  have htwice : twice.WellFormed := honce.hearAll events
  have hfilter : twice.filter = once.filter := filter_hearAll once events
  have haddresses : twice.addresses = once.addresses := h.addresses_hearAll_hearAll events
  have hroutes : twice.routes = once.routes := h.routes_hearAll_hearAll events
  have hlink : ∀ i, twice.link? i = once.link? i ↔ _ := h.link?_hearAll_hearAll_iff events
  refine ⟨haddresses, hroutes, hlink, fun i hi => ?_, fun hsame i => ?_, fun hnone => ?_⟩
  · rw [Bool.eq_iff_iff, htwice.serves_iff, honce.serves_iff, (hlink i).2 hi, hfilter]
  · exact (hlink i).1 (by rw [hsame])
  · refine htwice.ext honce hfilter (fun i => (hlink i).2 (hnone i)) (fun i k => ?_) fun k => ?_
    · rw [address?, addressTable, haddresses]
      rfl
    · rw [hroutes]

/-- A packet size that is announced before the link is known is told when the same events are heard
again. -/
theorem replay_tells_early_mtu :
    let events : List Event :=
      [.newLink { index := 2, mtu := some 9000 }, .newLink { index := 2, name := some "eth0" }]
    let once := ((empty {}).hearAll events).1
    let twice := (once.hearAll events).1
    (once.link? 2).map Link.mtu = some 0 ∧ (twice.link? 2).map Link.mtu = some 9000 ∧
      twice.links ≠ once.links := by
  decide

end Inventory

end LinkBus
