import LinkBus.Proofs.Network.Names
import LinkBus.Proofs.Numbering.Course

/-!
# Interfaces that come back under another name

Numbers are brought in line with the inventory once for each update, so they only know what an
interface looks like between updates. An interface that is gone between two updates, and is served
again later under another name, gets a number that was never given before. If it goes and comes back
within one update, this looks like a new name for the same interface, and it keeps its number.
-/

namespace LinkBus

namespace Network

/-! ## Absence -/

/-- An observation that an interface is not served keeps the name of its number. -/
theorem name_note_of_not_served {n : Numbering} {i j : UInt32} {name : Option String}
    {now debounce : Nat} {b : Holding}
    (hb : (n.note j name false now debounce).1.holdings.find? i = some b) :
    ∃ a, n.holdings.find? i = some a ∧ a.name = b.name := by
  by_cases hi : i = j
  · subst hi
    rw [Numbering.find?_note_not_served, Option.map_eq_some_iff] at hb
    obtain ⟨a, ha, rfl⟩ := hb
    exact ⟨a, ha, rfl⟩
  · rw [Numbering.find?_note_of_ne hi] at hb
    exact ⟨b, hb, rfl⟩

/-- Renumbering keeps the name of the number of an interface that is not served. -/
theorem name_foldl {inv : Inventory} {i : UInt32} (hi : inv.serves i = false) (now debounce : Nat)
    (touched : List UInt32) {n : Numbering} {b : Holding}
    (hb : (touched.foldl (renumberOne inv now debounce) n).holdings.find? i = some b) :
    ∃ a, n.holdings.find? i = some a ∧ a.name = b.name := by
  induction touched generalizing n with
  | nil => exact ⟨b, hb, rfl⟩
  | cons j rest ih =>
    obtain ⟨a, ha, hname⟩ := ih hb
    by_cases hj : i = j
    · subst hj
      rw [renumberOne, hi, Bool.and_false] at ha
      obtain ⟨c, hc, hname'⟩ := name_note_of_not_served ha
      exact ⟨c, hc, hname'.trans hname⟩
    · rw [renumberOne, Numbering.find?_note_of_ne hj] at ha
      exact ⟨a, ha, hname⟩

/-- An update after which an interface is not served keeps the name of its number. -/
theorem name_update {s : Network} {u : Update} {i : UInt32}
    (hi : (s.update u).1.inventory.serves i = false) {b : Holding}
    (hb : (s.update u).1.numbering.holdings.find? i = some b) :
    ∃ a, s.numbering.holdings.find? i = some a ∧ a.name = b.name := by
  cases u with
  | deliver messages now debounce => exact name_foldl hi now debounce _ hb
  | hear events now debounce => exact name_foldl hi now debounce _ hb
  | retire now =>
    change (s.numbering.retireDue now).1.holdings.find? i = some b at hb
    rw [Numbering.find?_retireDue, Option.filter_eq_some_iff] at hb
    exact ⟨b, hb.1, rfl⟩

/-- As long as an interface is not served, the name of its number is the one that it had before. -/
theorem name_updateAll {s : Network} {i : UInt32} {updates : List Update}
    (hgone : ∀ first, first <+: updates → first ≠ [] →
      (s.updateAll first).inventory.serves i = false) {b : Holding}
    (hb : (s.updateAll updates).numbering.holdings.find? i = some b) :
    ∃ a, s.numbering.holdings.find? i = some a ∧ a.name = b.name := by
  induction updates generalizing s with
  | nil => exact ⟨b, hb, rfl⟩
  | cons u rest ih =>
    have hrest : ∀ first, first <+: rest → first ≠ [] →
        ((s.update u).1.updateAll first).inventory.serves i = false := fun first hfirst _ =>
      hgone (u :: first) (List.cons_prefix_cons.2 ⟨rfl, hfirst⟩) (List.cons_ne_nil _ _)
    obtain ⟨a, ha, hname⟩ := ih hrest hb
    have hfirst := hgone [u] (List.cons_prefix_cons.2 ⟨rfl, List.nil_prefix⟩) (List.cons_ne_nil _ _)
    obtain ⟨c, hc, hname'⟩ := name_update hfirst ha
    exact ⟨c, hc, hname'.trans hname⟩

/-! ## Return -/

/-- What is known of an interface that is absent: its number, if it has one, is parked under another
name than that of its return; or it is back and has a number above a bound. -/
def AbsentOrRenumbered (name : String) (bound : Nat) (n : Numbering) (i : UInt32) : Prop :=
  (∀ b, n.holdings.find? i = some b → b.parkedUntil ≠ none ∧ b.name ≠ name) ∨
    ∃ b, n.holdings.find? i = some b ∧ bound < b.number

/-- An absent interface that is served under another name gets the next number, and one that is back
keeps a number above the bound. -/
theorem absentOrRenumbered_note {n : Numbering} {i : UInt32} {name : String} {bound : Nat}
    (hbound : bound ≤ n.last) (h : AbsentOrRenumbered name bound n i) (now debounce : Nat) :
    AbsentOrRenumbered name bound (n.note i (some name) true now debounce).1 i := by
  obtain ⟨b, hb, _, _, hcases⟩ := n.find?_note_served i (some name) now debounce
  rcases hcases with ⟨a, ha, hsame, hkept⟩ | ⟨hnext, _⟩
  · rcases h with habsent | ⟨c, hc, hlt⟩
    · obtain ⟨hparked, hname⟩ := habsent a ha
      rcases hkept with hnone | hmatch
      · exact absurd hnone hparked
      · exact absurd (beq_iff_eq.1 hmatch).symm hname
    · rw [ha, Option.some.injEq] at hc
      subst hc
      exact Or.inr ⟨b, hb, hsame ▸ hlt⟩
  · exact Or.inr ⟨b, hb, hnext ▸ Nat.lt_succ_of_le hbound⟩

/-- Renumbering gives an absent interface that is served under another name a number above all that
were given before. -/
theorem absentOrRenumbered_foldl {inv : Inventory} {i : UInt32} {link : Link}
    (hlink : inv.link? i = some link) (hserved : inv.serves i = true) (now debounce : Nat)
    (touched : List UInt32) {n : Numbering} {bound : Nat} (hbound : bound ≤ n.last)
    (h : AbsentOrRenumbered link.name bound n i) :
    AbsentOrRenumbered link.name bound (touched.foldl (renumberOne inv now debounce) n) i := by
  induction touched generalizing n with
  | nil => exact h
  | cons j rest ih =>
    have hlast := (n.follows_note j ((inv.link? j).map Link.name)
      ((inv.link? j).isSome && inv.serves j) now debounce).last_le
    refine ih (Nat.le_trans hbound hlast) ?_
    by_cases hj : i = j
    · subst hj
      rw [renumberOne, hlink, hserved]
      exact absentOrRenumbered_note hbound h now debounce
    · simp only [AbsentOrRenumbered, renumberOne, Numbering.find?_note_of_ne hj]
      exact h

/-- An absent interface that is served after an update under another name holds a number then that
was not given before. -/
theorem last_lt_of_return {filter : LinkFilter} {s : Network} (h : s.Consistent filter) {u : Update}
    {i : UInt32} {link : Link} (hlink : (s.update u).1.inventory.link? i = some link)
    (hserved : (s.update u).1.inventory.serves i = true)
    (habsent : ∀ b, s.numbering.holdings.find? i = some b →
      b.parkedUntil ≠ none ∧ b.name ≠ link.name) :
    ∃ b, (s.update u).1.numbering.holdings.find? i = some b ∧ s.numbering.last < b.number := by
  have hinUse : ((s.update u).1.numbering.number? i).isSome = true :=
    ((h.update u).isSome_number? i).trans hserved
  obtain ⟨number, hnumber⟩ := Option.isSome_iff_exists.1 hinUse
  obtain ⟨b, hb, hnone, _⟩ := Numbering.number?_eq_some_iff.1 hnumber
  have hafter : AbsentOrRenumbered link.name s.numbering.last (s.update u).1.numbering i := by
    cases u with
    | deliver messages now debounce =>
      exact absentOrRenumbered_foldl hlink hserved now debounce _ (Nat.le_refl _) (Or.inl habsent)
    | hear events now debounce =>
      exact absentOrRenumbered_foldl hlink hserved now debounce _ (Nat.le_refl _) (Or.inl habsent)
    | retire now =>
      refine Or.inl fun c hc => ?_
      change (s.numbering.retireDue now).1.holdings.find? i = some c at hc
      rw [Numbering.find?_retireDue, Option.filter_eq_some_iff] at hc
      exact habsent c hc.1
  rcases hafter with hparked | hrenumbered
  · exact absurd hnone (hparked b hb).1
  · exact hrenumbered

/-- In every run of updates, let an interface be served at some time under one name, not be served
after each of some later updates, and then be served again under another name. From its return on it
never holds a number that it or any other interface held before. -/
theorem recreated_never_holds_old_number (filter : LinkFilter) (before absence : List Update)
    (u : Update) (later : List Update) {i : UInt32} {old new : Link}
    (hold : ((empty filter).updateAll before).inventory.link? i = some old)
    (hserved : ((empty filter).updateAll before).inventory.serves i = true)
    (habsence : absence ≠ [])
    (hgone : ∀ first, first <+: absence → first ≠ [] →
      ((empty filter).updateAll (before ++ first)).inventory.serves i = false)
    (hnew : ((empty filter).updateAll (before ++ absence ++ [u])).inventory.link? i = some new)
    (hback : ((empty filter).updateAll (before ++ absence ++ [u])).inventory.serves i = true)
    (hname : new.name ≠ old.name) :
    ∀ earlier, earlier <+: before ++ absence → ∀ j number,
      ((empty filter).updateAll earlier).numbering.Holds j number →
        ¬ ((empty filter).updateAll
            (before ++ absence ++ u :: later)).numbering.Holds i number := by
  have hconsistent := consistent_empty filter
  set s := (empty filter).updateAll (before ++ absence) with hs
  have hreturn : (empty filter).updateAll (before ++ absence ++ [u]) = (s.update u).1 :=
    updateAll_append ..
  rw [hreturn] at hnew hback
  -- Before its return the interface has at most a parked number, under its old name.
  have habsent : ∀ b, s.numbering.holdings.find? i = some b →
      b.parkedUntil ≠ none ∧ b.name ≠ new.name := by
    intro b hb
    constructor
    · intro hnone
      have hsome : (s.numbering.number? i).isSome = false :=
        ((hconsistent.updateAll _).isSome_number? i).trans (hgone absence List.prefix_rfl habsence)
      rw [Numbering.number?_eq_some_iff.2 ⟨b, hb, hnone, rfl⟩] at hsome
      cases hsome
    · rw [hs, updateAll_append] at hb
      obtain ⟨a, ha, hsame⟩ := name_updateAll
        (fun first hfirst hne => updateAll_append (empty filter) before first ▸
          hgone first hfirst hne) hb
      have hinUse : (((empty filter).updateAll before).numbering.number? i).isSome = true :=
        ((hconsistent.updateAll _).isSome_number? i).trans hserved
      obtain ⟨number, hnumber⟩ := Option.isSome_iff_exists.1 hinUse
      obtain ⟨c, hc, hnone, _⟩ := Numbering.number?_eq_some_iff.1 hnumber
      rw [ha, Option.some.injEq] at hc
      subst hc
      rw [← hsame, namesFit_updateAll filter before i a old ha hnone hold]
      exact hname.symm
  obtain ⟨b, hb, hlt⟩ := last_lt_of_return (hconsistent.updateAll _) hnew hback habsent
  rintro earlier ⟨rest, hrest⟩ j number hearlier hlater
  have hbound : number ≤ s.numbering.last := by
    have hle := (hconsistent.updateAll earlier).sound.le_last_of_holds hearlier
    have hfollows := follows_updateAll ((empty filter).updateAll earlier) rest
    rw [← updateAll_append, hrest, ← hs] at hfollows
    exact Nat.le_trans hle hfollows.last_le
  rw [updateAll_append, ← hs] at hlater
  change ((s.update u).1.updateAll later).numbering.Holds i number at hlater
  have hheld : (s.update u).1.numbering.Holds i number :=
    (follows_updateAll _ later).holds hlater
      (Nat.le_trans hbound (s.follows_update u).last_le)
  obtain ⟨c, hc, rfl⟩ := hheld
  rw [hb, Option.some.injEq] at hc
  subst hc
  exact absurd hbound (Nat.not_le.2 hlt)

/-- A report about an Ethernet link of some name that is up. -/
def ethernetReport (name : String) : LinkReport :=
  { index := 2, name := some name, layerType := 1, flags := 0x10003, oper := some .up }

/-- A link that is removed at one time and replaced at another does not leave its number to the new
one. -/
theorem recreated_never_holds_old_number_replaced :
    let before := [Update.hear [.newLink (ethernetReport "eth0")] 0 500]
    let absence := [Update.hear [.delLink { index := 2 }] 10 500]
    let u := Update.hear [.newLink (ethernetReport "usb0")] 20 500
    ((empty {}).updateAll before).inventory.link? 2 = some (.ofReport (ethernetReport "eth0")) ∧
      ((empty {}).updateAll before).inventory.serves 2 = true ∧
      ((empty {}).updateAll (before ++ absence)).inventory.serves 2 = false ∧
      ((empty {}).updateAll (before ++ absence ++ [u])).inventory.link? 2 =
        some (.ofReport (ethernetReport "usb0")) ∧
      ((empty {}).updateAll (before ++ absence ++ [u])).inventory.serves 2 = true ∧
      ((empty {}).updateAll before).numbering.Holds 2 1 ∧
      ¬ ((empty {}).updateAll (before ++ absence ++ u :: [.retire 600])).numbering.Holds 2 1 := by
  intro before absence u
  have hold : ((empty {}).updateAll before).inventory.link? 2 =
      some (.ofReport (ethernetReport "eth0")) := by decide
  have hserved : ((empty {}).updateAll before).inventory.serves 2 = true := by decide
  have habsent : ((empty {}).updateAll (before ++ absence)).inventory.serves 2 = false := by decide
  have hgone : ∀ first, first <+: absence → first ≠ [] →
      ((empty {}).updateAll (before ++ first)).inventory.serves 2 = false := by
    intro first hfirst hne
    rcases List.prefix_cons_iff.1 hfirst with rfl | ⟨rest, rfl, hrest⟩
    · exact absurd rfl hne
    · rw [List.prefix_nil.1 hrest]
      exact habsent
  have hnew : ((empty {}).updateAll (before ++ absence ++ [u])).inventory.link? 2 =
      some (.ofReport (ethernetReport "usb0")) := by decide
  have hback : ((empty {}).updateAll (before ++ absence ++ [u])).inventory.serves 2 = true := by
    decide
  have hheld : ((empty {}).updateAll before).numbering.Holds 2 1 :=
    ⟨{ number := 1, name := "eth0" }, by decide, rfl⟩
  exact ⟨hold, hserved, habsent, hnew, hback, hheld,
    recreated_never_holds_old_number {} before absence u [.retire 600] hold hserved (by decide)
      hgone hnew hback (by decide) before (List.prefix_append _ _) 2 1 hheld⟩

/-- A link that is removed and replaced within one update leaves its number to the new one. -/
theorem recreated_within_update_keeps_number :
    let s := (empty {}).updateAll [.hear [.newLink (ethernetReport "eth0")] 0 500]
    let t := s.updateAll
      [.hear [.delLink { index := 2 }, .newLink (ethernetReport "usb0")] 10 500]
    ((s.inventory.link? 2).map Link.name = some "eth0" ∧ s.numbering.number? 2 = some 1) ∧
      (t.inventory.link? 2).map Link.name = some "usb0" ∧ t.numbering.number? 2 = some 1 := by
  decide

end Network

end LinkBus
