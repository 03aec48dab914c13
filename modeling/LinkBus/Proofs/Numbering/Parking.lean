import LinkBus.Proofs.Numbering.Course
import LinkBus.Proofs.Table.Contents
import Mathlib.Data.List.Nodup
import Mathlib.Data.List.Perm.Subperm

/-!
# Parked numbers

Retiring takes exactly the parked numbers whose time has come, and no number in use. The next
retirement is the earliest deadline, so it tells whether there is anything to retire, and after
retiring it lies ahead. A number is parked by an observation each time, and leaves that state once:
it is in use again, gives way to another one, or is retired. So along every course no more numbers
are retired than were parked.
-/

namespace LinkBus

/-- The number that was parked, if one was. -/
def NumberingChange.parked? : NumberingChange → Option Nat
  | parked number => some number
  | _ => none

namespace Numbering

/-- The number of an interface is parked until some time. -/
def ParkedUntil (n : Numbering) (index : UInt32) (deadline : Nat) : Prop :=
  ∃ a, n.holdings.find? index = some a ∧ a.parkedUntil = some deadline

/-- The interfaces whose number is parked. -/
def parked (n : Numbering) : List UInt32 := (n.holdings.filter fun _ a => !a.inUse).keys

/-- The numbers that a step parks: one, or none. -/
def parkedBy (n : Numbering) : NumberingStep → List Nat
  | .note index name served now debounce =>
    (n.note index name served now debounce).2.parked?.toList
  | .retire _ => []

/-- The interfaces whose number a step retires. -/
def retiredBy (n : Numbering) : NumberingStep → List UInt32
  | .note .. => []
  | .retire now => (n.retireDue now).2

/-- What steps do of some kind, one after the other. -/
def gather {α : Type} (kind : Numbering → NumberingStep → List α) (n : Numbering) :
    List NumberingStep → List α
  | [] => []
  | s :: rest => kind n s ++ gather kind (n.step s) rest

variable {n : Numbering} {i : UInt32} {now deadline : Nat}

/-! ## Deadlines -/

/-- A number that is parked is parked until some time. -/
theorem mem_parked : i ∈ n.parked ↔ ∃ deadline, n.ParkedUntil i deadline := by
  rw [parked, Table.mem_keys]
  simp only [Table.find?_filter, Option.filter_eq_some_iff, ParkedUntil]
  constructor
  · rintro ⟨a, ha, hparked⟩
    obtain ⟨deadline, hdeadline⟩ : ∃ deadline, a.parkedUntil = some deadline := by
      simpa [Holding.inUse, Option.isSome_iff_exists] using hparked
    exact ⟨deadline, a, ha, hdeadline⟩
  · rintro ⟨deadline, a, ha, hdeadline⟩
    exact ⟨a, ha, by simp [Holding.inUse, hdeadline]⟩

/-- The deadlines among which the next retirement is chosen are those of the parked numbers. -/
theorem mem_deadlines :
    deadline ∈ n.holdings.values.filterMap Holding.parkedUntil ↔ ∃ i, n.ParkedUntil i deadline := by
  simp only [List.mem_filterMap, Table.mem_values, ParkedUntil]
  constructor
  · rintro ⟨a, ⟨i, ha⟩, hdeadline⟩
    exact ⟨i, a, ha, hdeadline⟩
  · rintro ⟨i, a, ha, hdeadline⟩
    exact ⟨a, ⟨i, ha⟩, hdeadline⟩

/-- The next retirement is the earliest deadline. -/
theorem nextRetirement?_eq_some_iff :
    n.nextRetirement? = some deadline ↔ (∃ i, n.ParkedUntil i deadline) ∧
      ∀ i later, n.ParkedUntil i later → deadline ≤ later := by
  rw [nextRetirement?, List.min?_eq_some_iff, mem_deadlines]
  refine and_congr_right fun _ => ⟨fun h i later hlater => h later (mem_deadlines.2 ⟨i, hlater⟩), ?_⟩
  intro h later hlater
  obtain ⟨i, hi⟩ := mem_deadlines.1 hlater
  exact h i later hi

/-- There is a next retirement as long as a number is parked. -/
theorem exists_nextRetirement? (h : n.ParkedUntil i deadline) :
    ∃ next ∈ n.nextRetirement?, next ≤ deadline := by
  cases hnext : n.nextRetirement? with
  | none =>
    rw [nextRetirement?, List.min?_eq_none_iff] at hnext
    have hmem := mem_deadlines.2 ⟨i, h⟩
    rw [hnext] at hmem
    cases hmem
  | some next => exact ⟨next, rfl, (nextRetirement?_eq_some_iff.1 hnext).2 i deadline h⟩

/-! ## Retiring -/

/-- A number is due if it is parked until a time that has come. -/
theorem isDue_iff {a : Holding} :
    isDue now a = true ↔ ∃ deadline, a.parkedUntil = some deadline ∧ deadline ≤ now := by
  simp [isDue, Option.any_eq_true]

/-- Exactly the numbers that are parked until a time that has come are retired. -/
theorem mem_retireDue :
    i ∈ (n.retireDue now).2 ↔ ∃ deadline, n.ParkedUntil i deadline ∧ deadline ≤ now := by
  rw [retireDue, Table.mem_keys]
  simp only [Table.find?_filter, Option.filter_eq_some_iff, isDue_iff, ParkedUntil]
  constructor
  · rintro ⟨a, ha, deadline, hdeadline, hdue⟩
    exact ⟨deadline, ⟨a, ha, hdeadline⟩, hdue⟩
  · rintro ⟨deadline, ⟨a, ha, hdeadline⟩, hdue⟩
    exact ⟨a, ha, deadline, hdeadline, hdue⟩

/-- What is kept is what is not parked until a time that has come. -/
theorem find?_retireDue_eq_some_iff {a : Holding} :
    (n.retireDue now).1.holdings.find? i = some a ↔
      n.holdings.find? i = some a ∧ ∀ deadline ∈ a.parkedUntil, now < deadline := by
  rw [find?_retireDue, Option.filter_eq_some_iff, Bool.not_eq_true', ← Bool.not_eq_true, isDue_iff]
  simp

/-- A retired number is not held any more. -/
theorem find?_retireDue_of_mem (h : i ∈ (n.retireDue now).2) :
    (n.retireDue now).1.holdings.find? i = none := by
  obtain ⟨deadline, ⟨a, ha, hdeadline⟩, hdue⟩ := mem_retireDue.1 h
  rw [Option.eq_none_iff_forall_ne_some]
  intro b hb
  obtain ⟨hb, hahead⟩ := find?_retireDue_eq_some_iff.1 hb
  obtain rfl : a = b := Option.some.inj (ha.symm.trans hb)
  exact absurd (hahead deadline hdeadline) (Nat.not_lt.2 hdue)

/-- A number that is not retired stays as it is. -/
theorem find?_retireDue_of_not_mem (h : i ∉ (n.retireDue now).2) :
    (n.retireDue now).1.holdings.find? i = n.holdings.find? i := by
  apply Option.ext
  intro a
  rw [find?_retireDue_eq_some_iff, and_iff_left_iff_imp]
  intro ha deadline hdeadline
  by_contra hdue
  exact h (mem_retireDue.2 ⟨deadline, ⟨a, ha, hdeadline⟩, Nat.le_of_not_lt hdue⟩)

/-- After retiring the deadlines are those of before that lie ahead. -/
theorem parkedUntil_retireDue :
    (n.retireDue now).1.ParkedUntil i deadline ↔ n.ParkedUntil i deadline ∧ now < deadline := by
  simp only [ParkedUntil, find?_retireDue_eq_some_iff]
  constructor
  · rintro ⟨a, ⟨ha, hahead⟩, hdeadline⟩
    exact ⟨⟨a, ha, hdeadline⟩, hahead deadline hdeadline⟩
  · rintro ⟨⟨a, ha, hdeadline⟩, hahead⟩
    refine ⟨a, ⟨ha, fun later hlater => ?_⟩, hdeadline⟩
    obtain rfl : deadline = later := Option.some.inj (hdeadline.symm.trans hlater)
    exact hahead

/-- After retiring the next retirement lies ahead. -/
theorem lt_of_nextRetirement?_retireDue (h : (n.retireDue now).1.nextRetirement? = some deadline) :
    now < deadline := by
  obtain ⟨i, hi⟩ := (nextRetirement?_eq_some_iff.1 h).1
  exact (parkedUntil_retireDue.1 hi).2

/-- Something is retired exactly if the time of the next retirement has come. -/
theorem exists_mem_retireDue_iff :
    (∃ i, i ∈ (n.retireDue now).2) ↔ ∃ deadline ∈ n.nextRetirement?, deadline ≤ now := by
  constructor
  · rintro ⟨i, hi⟩
    obtain ⟨deadline, hparked, hdue⟩ := mem_retireDue.1 hi
    obtain ⟨next, hnext, hle⟩ := exists_nextRetirement? hparked
    exact ⟨next, hnext, Nat.le_trans hle hdue⟩
  · rintro ⟨deadline, hnext, hdue⟩
    obtain ⟨i, hparked⟩ := (nextRetirement?_eq_some_iff.1 hnext).1
    exact ⟨i, mem_retireDue.2 ⟨deadline, hparked, hdue⟩⟩

/-! ## As many as were parked -/

/-- What later steps do comes after what the first ones do. -/
theorem gather_append {α : Type} (kind : Numbering → NumberingStep → List α) (n : Numbering)
    (first later : List NumberingStep) :
    gather kind n (first ++ later) = gather kind n first ++ gather kind (n.stepAll first) later := by
  induction first generalizing n with
  | nil => rfl
  | cons s rest ih =>
    have hrest := ih (n.step s)
    rw [List.cons_append, gather, gather, hrest, List.append_assoc]
    rfl

/-- What is parked either is retired or stays parked. -/
theorem length_parked_retireDue (n : Numbering) (now : Nat) :
    (n.retireDue now).1.parked.length + (n.retireDue now).2.length = n.parked.length := by
  have hdisjoint : (n.retireDue now).1.parked.Disjoint (n.retireDue now).2 := by
    intro i hkept hretired
    obtain ⟨deadline, a, ha, _⟩ := mem_parked.1 hkept
    rw [find?_retireDue_of_mem hretired] at ha
    cases ha
  have hnodup : ((n.retireDue now).1.parked ++ (n.retireDue now).2).Nodup :=
    List.Nodup.append (Table.nodup_keys _) (Table.nodup_keys _) hdisjoint
  have hsame : ∀ i, i ∈ (n.retireDue now).1.parked ++ (n.retireDue now).2 ↔ i ∈ n.parked := by
    intro i
    rw [List.mem_append, mem_parked, mem_parked, mem_retireDue, ← exists_or]
    refine exists_congr fun deadline => ?_
    rw [parkedUntil_retireDue, ← and_or_left, and_iff_left (Nat.lt_or_ge now deadline)]
  rw [← List.length_append]
  exact ((List.perm_ext_iff_of_nodup hnodup (Table.nodup_keys _)).2 hsame).length_eq

/-- An observation parks the number in use of an interface that is not served, and no other. -/
theorem parked?_note (n : Numbering) (i : UInt32) (name : Option String) (served : Bool)
    (now debounce : Nat) :
    (n.note i name served now debounce).2.parked? = if served then none else n.number? i := by
  cases hfound : n.holdings.find? i with
  | none => cases served <;> simp [note, number?, hfound, giveNext, NumberingChange.parked?]
  | some a =>
    cases hparked : a.parkedUntil with
    | none =>
      cases served <;>
        simp [note, number?, hfound, hparked, Holding.inUse, Option.filter, NumberingChange.parked?]
    | some deadline =>
      cases served with
      | true =>
        simp only [note, hfound, hparked]
        split <;> rfl
      | false =>
        simp [note, number?, hfound, hparked, Holding.inUse, Option.filter,
          NumberingChange.parked?]

/-- After an observation no other numbers are parked than before, and the one that it parks. -/
theorem mem_parked_note {j : UInt32} {name : Option String} {served : Bool} {debounce : Nat}
    (h : j ∈ (n.note i name served now debounce).1.parked) :
    j ∈ n.parked ∨ j = i ∧ (n.note i name served now debounce).2.parked?.isSome := by
  obtain ⟨deadline, b, hb, hdeadline⟩ := mem_parked.1 h
  by_cases hj : j = i
  · subst hj
    cases served with
    | true =>
      -- a number is in use after its interface was seen to be served
      obtain ⟨c, hc, hinUse, _⟩ := n.find?_note_served j name now debounce
      obtain rfl : b = c := Option.some.inj (hb.symm.trans hc)
      rw [hdeadline] at hinUse
      cases hinUse
    | false =>
      rw [find?_note_not_served, Option.map_eq_some_iff] at hb
      obtain ⟨a, ha, _⟩ := hb
      cases hparked : a.parkedUntil with
      | none =>
        have hnumber : n.number? j = some a.number := number?_eq_some_iff.2 ⟨a, ha, hparked, rfl⟩
        refine .inr ⟨rfl, ?_⟩
        rw [parked?_note, if_neg Bool.false_ne_true, hnumber]
        rfl
      | some before => exact .inl (mem_parked.2 ⟨before, a, ha, hparked⟩)
  · rw [find?_note_of_ne hj] at hb
    exact .inl (mem_parked.2 ⟨deadline, b, hb, hdeadline⟩)

/-- A step parks one number at most, and what is retired was parked. -/
theorem length_parked_step (n : Numbering) (s : NumberingStep) :
    (n.step s).parked.length + (n.retiredBy s).length ≤
      n.parked.length + (n.parkedBy s).length := by
  cases s with
  | note i name served now debounce =>
    have hnodup : (n.note i name served now debounce).1.parked.Nodup := Table.nodup_keys _
    change (n.note i name served now debounce).1.parked.length + 0 ≤
      n.parked.length + (n.note i name served now debounce).2.parked?.toList.length
    cases hchange : (n.note i name served now debounce).2.parked? with
    | none =>
      refine hnodup.length_le_of_subset fun j hj => ?_
      obtain hbefore | ⟨_, hparked⟩ := mem_parked_note hj
      · exact hbefore
      · rw [hchange] at hparked
        cases hparked
    | some number =>
      have hsubset : (n.note i name served now debounce).1.parked ⊆ i :: n.parked := fun j hj =>
        (mem_parked_note hj).elim (List.mem_cons_of_mem i) fun h => h.1 ▸ List.mem_cons_self
      exact hnodup.length_le_of_subset hsubset
  | retire now => exact Nat.le_of_eq (n.length_parked_retireDue now)

/-- No more numbers are parked at the end or were retired than were parked at first or since. -/
theorem length_parked_stepAll (n : Numbering) (steps : List NumberingStep) :
    (n.stepAll steps).parked.length + (gather retiredBy n steps).length ≤
      n.parked.length + (gather parkedBy n steps).length := by
  induction steps generalizing n with
  | nil => exact Nat.le_refl _
  | cons s rest ih =>
    have hstep := n.length_parked_step s
    have hrest := ih (n.step s)
    have hlast : n.stepAll (s :: rest) = (n.step s).stepAll rest := rfl
    rw [hlast, gather, gather, List.length_append, List.length_append]
    omega

end Numbering

end LinkBus
