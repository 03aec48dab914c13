import LinkBus.Proofs.Numbering.Ownership

/-!
# The course of a numbering

A numbering is led through observations and retirements in any order. The numbers that are given on
the way are 1, 2, 3 and so on. A number stays with the interface that got it: it may be parked and
come back, but once its interface has lost it nobody ever holds it again, and an interface gets
another number only after the one before was parked.
-/

namespace LinkBus

/-- What happens to a numbering: an interface is observed, or parked numbers whose time has come are
retired. -/
inductive NumberingStep
  | note (index : UInt32) (name : Option String) (served : Bool) (now debounce : Nat)
  | retire (now : Nat)
  deriving DecidableEq, Repr

/-- The number that was given, if one was. -/
def NumberingChange.given? : NumberingChange → Option Nat
  | given number => some number
  | _ => none

namespace Numbering

/-- An interface holds a number, in use or parked. -/
def Holds (n : Numbering) (index : UInt32) (number : Nat) : Prop :=
  ∃ a, n.holdings.find? index = some a ∧ a.number = number

/-- An interface holds a number that is parked. -/
def Parks (n : Numbering) (index : UInt32) (number : Nat) : Prop :=
  ∃ a, n.holdings.find? index = some a ∧ a.number = number ∧ a.inUse = false

/-- The numbering after a step. -/
def step (n : Numbering) : NumberingStep → Numbering
  | .note index name served now debounce => (n.note index name served now debounce).1
  | .retire now => (n.retireDue now).1

/-- The numbering after steps. -/
def stepAll (n : Numbering) (steps : List NumberingStep) : Numbering := steps.foldl step n

/-- The number that a step gives, if it gives one. -/
def givenBy? (n : Numbering) : NumberingStep → Option Nat
  | .note index name served now debounce => (n.note index name served now debounce).2.given?
  | .retire _ => none

/-- The numbers that steps give, in the order in which they are given. -/
def givenBy (n : Numbering) : List NumberingStep → List Nat
  | [] => []
  | s :: rest => (n.givenBy? s).toList ++ (n.step s).givenBy rest

variable {n : Numbering}

/-- Steps are taken one after the other. -/
theorem stepAll_append (n : Numbering) (first later : List NumberingStep) :
    n.stepAll (first ++ later) = (n.stepAll first).stepAll later := List.foldl_append

/-! ## Who holds a number -/

/-- Steps keep numbers sound. -/
theorem Sound.step (h : n.Sound) (s : NumberingStep) : (n.step s).Sound := by
  cases s with
  | note index name served now debounce => exact h.note index name served now debounce
  | retire now => exact h.retireDue now

/-- Steps keep numbers sound, however many there are. -/
theorem Sound.stepAll (h : n.Sound) (steps : List NumberingStep) : (n.stepAll steps).Sound :=
  List.foldlRecOn steps _ h fun _ hmid s _ => hmid.step s

/-- No step moves a number that was given before. -/
theorem follows_step (n : Numbering) (s : NumberingStep) : (n.step s).Follows n := by
  cases s with
  | note index name served now debounce => exact n.follows_note index name served now debounce
  | retire now => exact n.follows_retireDue now

/-- No steps move a number that was given before. -/
theorem follows_stepAll (n : Numbering) (steps : List NumberingStep) :
    (n.stepAll steps).Follows n :=
  List.foldlRecOn (motive := fun (m : Numbering) => m.Follows n) steps _ (.refl n)
    fun mid hmid s _ => (mid.follows_step s).trans hmid

/-- A number is held by one interface. -/
theorem Sound.holds_inj (h : n.Sound) {i j : UInt32} {number : Nat} (hi : n.Holds i number)
    (hj : n.Holds j number) : i = j := by
  obtain ⟨a, ha, hsame⟩ := hi
  obtain ⟨b, hb, hsame'⟩ := hj
  exact h.unique ha hb (hsame.trans hsame'.symm)

/-- A number that is held is not above the last one given. -/
theorem Sound.le_last_of_holds (h : n.Sound) {i : UInt32} {number : Nat} (hi : n.Holds i number) :
    number ≤ n.last := by
  obtain ⟨a, ha, rfl⟩ := hi
  exact h.le_last ha

/-- Whoever holds an old number held it already. -/
theorem Follows.holds {new old : Numbering} (h : new.Follows old) {i : UInt32} {number : Nat}
    (hi : new.Holds i number) (hle : number ≤ old.last) : old.Holds i number := by
  obtain ⟨a, ha, rfl⟩ := hi
  exact h.held ha hle

/-- A number that its interface has lost is not held by anybody later. -/
theorem Sound.not_holds (h : n.Sound) {mid last : Numbering} (hmid : mid.Follows n)
    (hlast : last.Follows mid) {i : UInt32} {number : Nat} (hi : n.Holds i number)
    (hlost : ¬ mid.Holds i number) (j : UInt32) : ¬ last.Holds j number := by
  intro hj
  have hle := h.le_last_of_holds hi
  have hheld : mid.Holds j number := hlast.holds hj (Nat.le_trans hle hmid.last_le)
  obtain rfl : j = i := h.holds_inj (hmid.holds hheld hle) hi
  exact hlost hheld

/-! ## The numbers that are given -/

/-- An observation that gives a number gives the next one; any other leaves the last one given as
it is. -/
theorem last_note (n : Numbering) (i : UInt32) (name : Option String) (served : Bool)
    (now debounce : Nat) :
    ((n.note i name served now debounce).2.given? = none ∧
        (n.note i name served now debounce).1.last = n.last) ∨
      ((n.note i name served now debounce).2.given? = some (n.last + 1) ∧
        (n.note i name served now debounce).1.last = n.last + 1) := by
  unfold note
  split
  · split
    · exact Or.inl ⟨rfl, rfl⟩
    · split
      · exact Or.inl ⟨rfl, rfl⟩
      · exact Or.inr ⟨rfl, rfl⟩
  · split <;> exact Or.inl ⟨rfl, rfl⟩
  · exact Or.inr ⟨rfl, rfl⟩
  · exact Or.inl ⟨rfl, rfl⟩

/-- A step that gives a number gives the next one; any other leaves the last one given as it is. -/
theorem last_step (n : Numbering) (s : NumberingStep) :
    (n.givenBy? s = none ∧ (n.step s).last = n.last) ∨
      (n.givenBy? s = some (n.last + 1) ∧ (n.step s).last = n.last + 1) := by
  cases s with
  | note index name served now debounce => exact n.last_note index name served now debounce
  | retire now => exact Or.inl ⟨rfl, rfl⟩

/-- Steps give the numbers that follow the last one given, without a gap. -/
theorem givenBy_eq_range' (n : Numbering) (steps : List NumberingStep) :
    n.givenBy steps = List.range' (n.last + 1) ((n.stepAll steps).last - n.last) := by
  induction steps generalizing n with
  | nil => simp [givenBy, stepAll]
  | cons s rest ih =>
    have hle := ((n.step s).follows_stepAll rest).last_le
    have hrest := ih (n.step s)
    change (n.givenBy? s).toList ++ (n.step s).givenBy rest =
      List.range' (n.last + 1) (((n.step s).stepAll rest).last - n.last)
    rcases n.last_step s with ⟨hgiven, hlast⟩ | ⟨hgiven, hlast⟩
    · rw [hgiven, hrest, hlast]
      rfl
    · rw [hlast] at hle hrest
      obtain ⟨more, hmore⟩ := Nat.exists_eq_add_of_le hle
      have hcount : n.last + 1 + more - n.last = more + 1 := by omega
      rw [hgiven, hrest, hmore, Nat.add_sub_cancel_left, hcount, List.range'_succ]
      rfl

/-! ## Numbers in use -/

/-- After an observation a number in use is still in use or parked. -/
theorem number?_note_or_parks {i j : UInt32} {number : Nat} (h : n.number? i = some number)
    (name : Option String) (served : Bool) (now debounce : Nat) :
    (n.note j name served now debounce).1.number? i = some number ∨
      (n.note j name served now debounce).1.Parks i number := by
  by_cases hi : i = j
  · subst hi
    obtain ⟨a, ha, hinUse, rfl⟩ := number?_eq_some_iff.1 h
    cases served with
    | true =>
      obtain ⟨b, hb, hinUse', _, hcases⟩ := n.find?_note_served i name now debounce
      rcases hcases with ⟨c, hc, hsame, _⟩ | ⟨_, hother⟩
      · rw [ha, Option.some.injEq] at hc
        subst hc
        exact Or.inl (number?_eq_some_iff.2 ⟨b, hb, hinUse', hsame⟩)
      · exact absurd hinUse (hother a ha).1
    | false =>
      have hparked := n.find?_note_not_served i name now debounce
      rw [ha, Option.map_some] at hparked
      exact Or.inr ⟨_, hparked, rfl, rfl⟩
  · rw [number?, find?_note_of_ne hi, ← number?]
    exact Or.inl h

/-- After a step a number in use is still in use or parked. -/
theorem number?_step_or_parks {i : UInt32} {number : Nat} (h : n.number? i = some number)
    (s : NumberingStep) :
    (n.step s).number? i = some number ∨ (n.step s).Parks i number := by
  cases s with
  | note index name served now debounce => exact number?_note_or_parks h name served now debounce
  | retire now => exact Or.inl ((n.number?_retireDue now i).trans h)

/-- An interface whose number in use is another one than before had the old one parked in
between. -/
theorem exists_parks_of_number?_ne {i : UInt32} {old new : Nat} (hne : old ≠ new)
    {steps : List NumberingStep} (hold : n.number? i = some old)
    (hnew : (n.stepAll steps).number? i = some new) :
    ∃ lead, lead <+: steps ∧ (n.stepAll lead).Parks i old := by
  induction steps generalizing n with
  | nil => exact absurd (Option.some.inj (hold.symm.trans hnew)) hne
  | cons s rest ih =>
    rcases number?_step_or_parks hold s with hinUse | hparks
    · obtain ⟨lead, hlead, hparks⟩ := ih hinUse hnew
      exact ⟨s :: lead, List.cons_prefix_cons.2 ⟨rfl, hlead⟩, hparks⟩
    · exact ⟨[s], List.cons_prefix_cons.2 ⟨rfl, List.nil_prefix⟩, hparks⟩

/-- Whatever is observed and retired, in any order and at any times, no number is held by two
interfaces, and all held numbers lie between 1 and the last one given. The numbers are given in the
order 1, 2, 3 and so on, so that the last one says how many were given. A number that its interface
has lost is not held by anybody later, a number in use gives way to another one only after it was
parked, and the user of a number is the interface that has it in use. -/
theorem numbers_unique_for_life (steps : List NumberingStep) :
    let n := stepAll {} steps
    (∀ i j number, n.Holds i number → n.Holds j number → i = j) ∧
      (∀ i number, n.Holds i number → 1 ≤ number ∧ number ≤ n.last) ∧
      givenBy {} steps = List.range' 1 n.last ∧
      (∀ first between later, steps = first ++ between ++ later →
        ∀ i number, (stepAll {} first).Holds i number →
          ¬ (stepAll {} (first ++ between)).Holds i number → ∀ j, ¬ n.Holds j number) ∧
      (∀ first later, steps = first ++ later →
        ∀ i old new, (stepAll {} first).number? i = some old → n.number? i = some new →
          old ≠ new → ∃ lead, lead <+: later ∧ (stepAll {} (first ++ lead)).Parks i old) ∧
      ∀ i number, n.number? i = some number ↔ n.holder? number = some i := by
  intro n
  have hsound : n.Sound := sound_empty.stepAll steps
  refine ⟨fun i j number hi hj => hsound.holds_inj hi hj, ?_, givenBy_eq_range' {} steps, ?_, ?_,
    fun i number => hsound.holder?_eq_some_iff.symm⟩
  · rintro i _ ⟨a, ha, rfl⟩
    exact ⟨hsound.pos ha, hsound.le_last ha⟩
  · rintro first between later rfl i number hi hlost j
    have hfirst : (stepAll {} first).Sound := sound_empty.stepAll first
    have hmid : (stepAll {} (first ++ between)).Follows (stepAll {} first) := by
      rw [stepAll_append]
      exact follows_stepAll _ between
    have hlast : n.Follows (stepAll {} (first ++ between)) := by
      rw [show n = _ from stepAll_append {} (first ++ between) later]
      exact follows_stepAll _ later
    exact hfirst.not_holds hmid hlast hi hlost j
  · rintro first later rfl i old new hold hnew hne
    rw [show n = _ from stepAll_append {} first later] at hnew
    obtain ⟨lead, hlead, hparks⟩ := exists_parks_of_number?_ne hne hold hnew
    exact ⟨lead, hlead, by rwa [stepAll_append]⟩

end Numbering

end LinkBus
