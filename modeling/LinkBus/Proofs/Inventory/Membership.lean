import LinkBus.Proofs.Inventory.Repetition

/-!
# What membership depends on

The class of a link depends on its hardware type, its kind, its name and whether it is flagged as a
loopback. These four are its make. Messages that say the same about the makes of links therefore
lead to the same served links, whatever else they say, and a known link comes into service or goes
out of it only when it is removed or its make changes.
-/

namespace LinkBus

/-- What decides the class of a link. -/
structure Make where
  /-- The hardware type. -/
  layerType : UInt16
  /-- Whether the link is flagged as a loopback. -/
  loopback : Bool
  /-- The kind of a virtual link. -/
  kind : Option String
  /-- The name of the interface. -/
  name : String
  deriving DecidableEq, Repr

namespace Make

/-- The make of a link that was not known before its report. -/
def ofReport (e : LinkReport) : Make where
  layerType := e.layerType
  loopback := hasFlag e.flags flagLoopback
  kind := e.kind
  name := e.name.getD ""

/-- The make of a link after a later report. -/
def after (m : Make) (e : LinkReport) : Make where
  layerType := e.layerType
  loopback := hasFlag e.flags flagLoopback
  kind := e.kind.or m.kind
  name := e.name.getD m.name

end Make

namespace Link

/-- The make of a link. -/
def make (l : Link) : Make where
  layerType := l.layerType
  loopback := hasFlag l.flags flagLoopback
  kind := l.kind
  name := l.name

/-- A report gives a new link its make. -/
@[simp] theorem make_ofReport (e : LinkReport) : (ofReport e).make = .ofReport e := rfl

/-- A report changes the make of a known link. -/
@[simp] theorem make_after (l : Link) (e : LinkReport) : (l.after e).make = l.make.after e := rfl

end Link

namespace LinkFilter

variable (filter : LinkFilter) {l l' : Link}

/-- Loopbacks are a class of their own. -/
theorem classOf_eq_loopback_iff : filter.classOf l = .loopback ↔ l.isLoopback = true := by
  unfold classOf
  split
  · next hloopback => exact iff_of_true rfl hloopback
  · next hloopback =>
    refine iff_of_false ?_ hloopback
    split_ifs <;> simp

/-- Links of the same type, kind and name are of the same class unless only one of them is a
loopback. -/
theorem classOf_eq_classOf_iff (htype : l.layerType = l'.layerType) (hkind : l.kind = l'.kind)
    (hname : l.name = l'.name) :
    filter.classOf l = filter.classOf l' ↔ l.isLoopback = l'.isLoopback := by
  constructor
  · intro hclass
    rw [Bool.eq_iff_iff, ← filter.classOf_eq_loopback_iff, hclass, classOf_eq_loopback_iff]
  · intro hloopback
    simp only [classOf, hloopback, htype, hkind, hname]

/-- Links of one make are of one class. -/
theorem classOf_congr (h : l.make = l'.make) : filter.classOf l = filter.classOf l' := by
  have htype : l.layerType = l'.layerType := congrArg Make.layerType h
  have hflag : hasFlag l.flags flagLoopback = hasFlag l'.flags flagLoopback :=
    congrArg Make.loopback h
  refine (filter.classOf_eq_classOf_iff htype (congrArg Make.kind h) (congrArg Make.name h)).2 ?_
  rw [Link.isLoopback, Link.isLoopback, htype, hflag]

end LinkFilter

namespace Event

/-- The make of a link after an event. -/
def onMake (index : UInt32) (make : Option Make) : Event → Option Make
  | .newLink e =>
    if e.index = index then
      match make with
      | some current => some (current.after e)
      | none => if e.lacksName then none else some (.ofReport e)
    else make
  | .delLink e => if e.index = index then none else make
  | _ => make

/-- What an event makes of the make of a link depends on that make alone. -/
theorem map_make_onLink (i : UInt32) (link : Option Link) (e : Event) :
    (e.onLink i link).map Link.make = e.onMake i (link.map Link.make) := by
  cases e with
  | newLink r =>
    simp only [onLink, onMake]
    by_cases hindex : r.index = i
    · rw [if_pos hindex, if_pos hindex]
      cases link with
      | some l => simp only [Option.map_some, Link.make_after]
      | none =>
        simp only [Option.map_none]
        split_ifs
        · rfl
        · rw [Option.map_some, Link.make_ofReport]
    · rw [if_neg hindex, if_neg hindex]
  | delLink r =>
    simp only [onLink, onMake]
    split_ifs <;> rfl
  | newAddress r => rfl
  | delAddress r => rfl
  | newRoute r => rfl
  | delRoute r => rfl

/-- The make of a known link stays as it is unless the link is removed or reported to be of another
make. -/
theorem onMake_some_cases (i : UInt32) (m : Make) (e : Event) :
    e.onMake i (some m) = some m ∨ (∃ r, e = .delLink r ∧ r.index = i) ∨
      ∃ r, e = .newLink r ∧ r.index = i ∧ m.after r ≠ m := by
  cases e with
  | newLink r =>
    by_cases hindex : r.index = i
    · by_cases hsame : m.after r = m
      · left
        rw [onMake, if_pos hindex, hsame]
      · exact Or.inr (Or.inr ⟨r, rfl, hindex, hsame⟩)
    · exact Or.inl (if_neg hindex)
  | delLink r =>
    by_cases hindex : r.index = i
    · exact Or.inr (Or.inl ⟨r, rfl, hindex⟩)
    · exact Or.inl (if_neg hindex)
  | newAddress r => exact Or.inl rfl
  | delAddress r => exact Or.inl rfl
  | newRoute r => exact Or.inl rfl
  | delRoute r => exact Or.inl rfl

/-- An event without all that has no influence on makes; nothing is left of events about addresses
and routes. -/
def bare : Event → Option Event
  | .newLink e => some (.newLink
      { index := e.index, name := e.name, layerType := e.layerType,
        flags := e.flags &&& flagLoopback, kind := e.kind })
  | .delLink e => some (.delLink { index := e.index })
  | _ => none

/-- What is left of an event has the effect of the event on makes. -/
theorem onMake_of_bare {e e' : Event} (h : e.bare = some e') (i : UInt32) (make : Option Make) :
    e'.onMake i make = e.onMake i make := by
  have hflag (flags : UInt32) :
      hasFlag (flags &&& flagLoopback) flagLoopback = hasFlag flags flagLoopback := by
    rw [hasFlag, hasFlag, UInt32.and_assoc, UInt32.and_self]
  cases e with
  | newLink r =>
    cases h
    simp only [onMake, LinkReport.lacksName, Make.after, Make.ofReport, hflag]
    rfl
  | delLink r =>
    cases h
    rfl
  | newAddress r => cases h
  | delAddress r => cases h
  | newRoute r => cases h
  | delRoute r => cases h

/-- Events of which nothing is left have no effect on makes. -/
theorem onMake_of_bare_eq_none {e : Event} (h : e.bare = none) (i : UInt32)
    (make : Option Make) : e.onMake i make = make := by
  cases e with
  | newLink r => cases h
  | delLink r => cases h
  | newAddress r => rfl
  | delAddress r => rfl
  | newRoute r => rfl
  | delRoute r => rfl

/-- What is left of a run of events has the effect of the run on makes. -/
theorem foldl_onMake_bare (i : UInt32) (make : Option Make) (events : List Event) :
    (events.filterMap bare).foldl (onMake i) make = events.foldl (onMake i) make := by
  induction events generalizing make with
  | nil => rfl
  | cons e rest ih =>
    cases hbare : e.bare with
    | none => rw [List.filterMap_cons_none hbare, ih, List.foldl_cons, onMake_of_bare_eq_none hbare]
    | some e' =>
      rw [List.filterMap_cons_some hbare, List.foldl_cons, ih, onMake_of_bare hbare,
        List.foldl_cons]

end Event

/-- A message without all that has no influence on makes. -/
def Message.bare : Message → Message
  | .events heard => .events (heard.filterMap Event.bare)
  | .snapshot dumped => .snapshot (dumped.filterMap Event.bare)

namespace Inventory

/-- The make of a link. -/
def make? (inv : Inventory) (index : UInt32) : Option Make := (inv.link? index).map Link.make

namespace WellFormed

variable {inv inv' : Inventory} {i : UInt32}

/-- An event acts on the make of each link on its own. -/
theorem make?_hear (h : inv.WellFormed) (e : Event) (i : UInt32) :
    (inv.hear e).1.make? i = e.onMake i (inv.make? i) := by
  rw [make?, h.link?_hear, Event.map_make_onLink, make?]

/-- A run of events acts on the make of each link on its own. -/
theorem make?_hearAll (h : inv.WellFormed) (events : List Event) (i : UInt32) :
    (inv.hearAll events).1.make? i = events.foldl (Event.onMake i) (inv.make? i) :=
  observe_hearAll (·.make? i) (Event.onMake i) (fun h e => h.make?_hear e i) h events

/-- Inventories that know links of the same makes still do after a message and after what is left of
it. -/
theorem make?_deliver_bare (h : inv.WellFormed) (h' : inv'.WellFormed)
    (hmake : inv.make? i = inv'.make? i) (m : Message) :
    (inv.deliver m.bare).1.make? i = (inv'.deliver m).1.make? i := by
  cases m with
  | events events =>
    change (inv.hearAll _).1.make? i = (inv'.hearAll events).1.make? i
    rw [h.make?_hearAll, h'.make?_hearAll, Event.foldl_onMake_bare, hmake]
  | snapshot events =>
    change ((empty _).hearAll _).1.make? i = ((empty _).hearAll events).1.make? i
    rw [(wellFormed_empty _).make?_hearAll, (wellFormed_empty _).make?_hearAll,
      Event.foldl_onMake_bare]
    rfl

/-- Inventories that know links of the same makes still do after messages and after what is left of
them. -/
theorem make?_deliverAll_bare (h : inv.WellFormed) (h' : inv'.WellFormed)
    (hmake : inv.make? i = inv'.make? i) (messages : List Message) :
    (inv.deliverAll (messages.map Message.bare)).1.make? i =
      (inv'.deliverAll messages).1.make? i := by
  rw [deliverAll_fst, deliverAll_fst]
  induction messages generalizing inv inv' with
  | nil => exact hmake
  | cons m rest ih => exact ih (h.deliver m.bare) (h'.deliver m) (h.make?_deliver_bare h' hmake m)

/-- A link of the same make is served by both of two inventories with one filter, or by none. -/
theorem serves_congr (h : inv.WellFormed) (h' : inv'.WellFormed)
    (hfilter : inv.filter = inv'.filter) (hmake : inv.make? i = inv'.make? i) :
    inv.serves i = inv'.serves i := by
  -- The records may differ; the filter cannot tell them apart if their makes do not.
  rw [Bool.eq_iff_iff, h.serves_iff, h'.serves_iff, hfilter]
  unfold make? at hmake
  cases hlink : inv.link? i with
  | none =>
    rw [hlink, Option.map_none, eq_comm, Option.map_eq_none_iff] at hmake
    rw [hmake]
  | some l =>
    rw [hlink, Option.map_some, eq_comm, Option.map_eq_some_iff] at hmake
    obtain ⟨l', hlink', hmake⟩ := hmake
    simp only [hlink', Option.some.injEq, exists_eq_left', LinkFilter.serves,
      inv'.filter.classOf_congr hmake]

/-- The links that are served after messages are those served after what is left of them. -/
theorem served_deliverAll_bare (h : inv.WellFormed) (messages : List Message) :
    (inv.deliverAll (messages.map Message.bare)).1.served = (inv.deliverAll messages).1.served := by
  -- Sets of indices are equal if they have the same members, and these are the links served.
  refine IndexSet.ext_mem fun i => ?_
  have hserves : (inv.deliverAll (messages.map Message.bare)).1.serves i =
      (inv.deliverAll messages).1.serves i :=
    (h.deliverAll _).serves_congr (h.deliverAll messages)
      (by rw [filter_deliverAll, filter_deliverAll]) (h.make?_deliverAll_bare h rfl messages)
  rw [Table.mem_keys, Table.mem_keys, ← Table.contains_iff, ← Table.contains_iff]
  exact Bool.eq_iff_iff.1 hserves

/-- A known link comes into service or goes out of it only when it is removed or its make
changes. -/
theorem removed_or_remade (h : inv.WellFormed) {e : Event} {l : Link}
    (hknown : inv.link? i = some l) (hdiffers : (inv.hear e).1.serves i ≠ inv.serves i) :
    (∃ r, e = .delLink r ∧ r.index = i) ∨
      ∃ r, e = .newLink r ∧ r.index = i ∧ (l.after r).make ≠ l.make := by
  have hmake : inv.make? i = some l.make := by rw [make?, hknown, Option.map_some]
  rcases e.onMake_some_cases i l.make with hkeep | hchange
  · refine absurd ((h.hear e).serves_congr h (filter_hear inv e) ?_) hdiffers
    rw [h.make?_hear, hmake, hkeep]
  · exact hchange

end WellFormed

/-- Whatever the filter: links of the same type, kind and name are of the same class unless only one
of them is a loopback; messages that say the same about the makes of links lead to the same
served links; and an event brings a known link into service or out of it only if it removes the
link or reports another make of it. -/
theorem membership_depends_on_make (filter : LinkFilter) :
    (∀ l l' : Link, l.layerType = l'.layerType → l.kind = l'.kind → l.name = l'.name →
      (filter.classOf l = filter.classOf l' ↔ l.isLoopback = l'.isLoopback)) ∧
    (∀ messages messages' : List Message,
      messages.map Message.bare = messages'.map Message.bare →
      ((empty filter).deliverAll messages).1.served =
        ((empty filter).deliverAll messages').1.served) ∧
    ∀ (messages : List Message) (e : Event) (i : UInt32) (l : Link),
      let inv := ((empty filter).deliverAll messages).1
      inv.link? i = some l → (inv.hear e).1.serves i ≠ inv.serves i →
      (∃ r, e = .delLink r ∧ r.index = i) ∨
        ∃ r, e = .newLink r ∧ r.index = i ∧ (l.after r).make ≠ l.make := by
  have hempty : (empty filter).WellFormed := wellFormed_empty filter
  refine ⟨fun l l' => filter.classOf_eq_classOf_iff, fun messages messages' hbare => ?_,
    fun messages e i l => (hempty.deliverAll messages).removed_or_remade⟩
  rw [← hempty.served_deliverAll_bare, hbare, hempty.served_deliverAll_bare]

/-- An Ethernet link that is up. -/
def etherUp : LinkReport :=
  { index := 2, name := some "eth0", layerType := 1, flags := 0x10003, oper := some .up }

/-- Type, kind and name alone do not decide: the loopback flag takes a link out of service although
these three stay as they are. -/
theorem loopback_flag_ends_service :
    let flagged := { etherUp with flags := 0x1000b }
    let known := Link.ofReport etherUp
    let inv := ((empty {}).deliverAll [.events [.newLink etherUp]]).1
    let new := (inv.hear (.newLink flagged)).1
    inv.link? 2 = some known ∧ new.link? 2 = some (known.after flagged) ∧
      (known.after flagged).layerType = known.layerType ∧
      (known.after flagged).kind = known.kind ∧ (known.after flagged).name = known.name ∧
      inv.filter.classOf known = .served ∧
      inv.filter.classOf (known.after flagged) = .loopback ∧
      inv.serves 2 = true ∧ new.serves 2 = false := by
  decide

end Inventory

end LinkBus
