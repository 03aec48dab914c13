import LinkBus.Proofs.Numbering.Course

/-!
# How long a parked number is kept

A parked number is kept until it is retired, and it is retired by the first retirement at or after
its deadline, not by the deadline itself. So an interface that comes back under its old name before
the deadline has its number again. After the deadline it gets another one if there was a retirement
in between; without one it still has the old number.
-/

namespace LinkBus

/-- Whether a step observes that an interface is served. -/
def NumberingStep.serves (index : UInt32) : NumberingStep → Bool
  | note i _ served _ _ => i == index && served
  | retire _ => false

namespace Numbering

variable {n : Numbering} {i : UInt32}

/-- An interface without a number gets none as long as it is not served. -/
theorem find?_step_of_none (h : n.holdings.find? i = none) {s : NumberingStep}
    (habsent : s.serves i = false) : (n.step s).holdings.find? i = none := by
  cases s with
  | note j name served now debounce =>
    by_cases hi : i = j
    · subst hi
      have hunserved : served = false := by simpa [NumberingStep.serves] using habsent
      rw [step, hunserved, find?_note_not_served, h, Option.map_none]
    · exact (find?_note_of_ne hi name served now debounce).trans h
  | retire now => rw [step, find?_retireDue, h, Option.filter_none]

/-- A parked number stays parked as long as its interface is not served and no retirement comes at
or after its deadline. -/
theorem find?_step_of_parked {a : Holding} {deadline : Nat} (ha : n.holdings.find? i = some a)
    (hdeadline : a.parkedUntil = some deadline) {s : NumberingStep}
    (habsent : s.serves i = false) (hearly : ∀ time, s = .retire time → time < deadline) :
    (n.step s).holdings.find? i = some a := by
  cases s with
  | note j name served now debounce =>
    by_cases hi : i = j
    · subst hi
      have hunserved : served = false := by simpa [NumberingStep.serves] using habsent
      rw [step, hunserved, find?_note_not_served, ha, Option.map_some, hdeadline, Option.getD_some,
        ← hdeadline]
    · exact (find?_note_of_ne hi name served now debounce).trans ha
  | retire now =>
    have hbefore := hearly now rfl
    have hnotDue : isDue now a = false := by simp [isDue, hdeadline, hbefore]
    rw [step, find?_retireDue, ha, Option.filter_some, hnotDue]
    rfl

/-- A retirement at or after the deadline of a parked number retires it. -/
theorem find?_step_of_due {a : Holding} {deadline now : Nat} (ha : n.holdings.find? i = some a)
    (hdeadline : a.parkedUntil = some deadline) (hdue : deadline ≤ now) :
    (n.step (.retire now)).holdings.find? i = none := by
  have hisDue : isDue now a = true := by simp [isDue, hdeadline, hdue]
  rw [step, find?_retireDue, ha, Option.filter_some, hisDue]
  rfl

/-- An interface without a number gets none as long as it is never served. -/
theorem find?_stepAll_of_none (h : n.holdings.find? i = none) {steps : List NumberingStep}
    (habsent : ∀ s ∈ steps, s.serves i = false) : (n.stepAll steps).holdings.find? i = none :=
  List.foldlRecOn (motive := fun (m : Numbering) => m.holdings.find? i = none) steps _ h
    fun _ hmid s hs => find?_step_of_none hmid (habsent s hs)

/-- A parked number is kept as long as its interface is never served and no retirement comes at or
after its deadline. -/
theorem find?_stepAll_of_parked {a : Holding} {deadline : Nat} (ha : n.holdings.find? i = some a)
    (hdeadline : a.parkedUntil = some deadline) {steps : List NumberingStep}
    (habsent : ∀ s ∈ steps, s.serves i = false)
    (hearly : ∀ time, .retire time ∈ steps → time < deadline) :
    (n.stepAll steps).holdings.find? i = some a :=
  List.foldlRecOn (motive := fun (m : Numbering) => m.holdings.find? i = some a) steps _ ha
    fun _ hmid s hs => find?_step_of_parked hmid hdeadline (habsent s hs)
      fun time htime => hearly time (htime ▸ hs)

/-- A parked number is gone after a retirement at or after its deadline, as long as its interface
is never served. -/
theorem find?_stepAll_of_due {a : Holding} {deadline now : Nat} (ha : n.holdings.find? i = some a)
    (hdeadline : a.parkedUntil = some deadline) {steps : List NumberingStep}
    (habsent : ∀ s ∈ steps, s.serves i = false) (hretire : .retire now ∈ steps)
    (hdue : deadline ≤ now) : (n.stepAll steps).holdings.find? i = none := by
  induction steps generalizing n with
  | nil => cases hretire
  | cons s rest ih =>
    have hrest : ∀ s ∈ rest, s.serves i = false := fun s hs =>
      habsent s (List.mem_cons_of_mem _ hs)
    change ((n.step s).stepAll rest).holdings.find? i = none
    -- The first retirement that is late enough ends the holding; before it the holding stays.
    by_cases hlate : ∃ time, s = .retire time ∧ deadline ≤ time
    · obtain ⟨time, rfl, htime⟩ := hlate
      exact find?_stepAll_of_none (find?_step_of_due ha hdeadline htime) hrest
    · have hearly : ∀ time, s = .retire time → time < deadline := fun time htime =>
        Nat.lt_of_not_le fun hle => hlate ⟨time, htime, hle⟩
      rcases List.mem_cons.1 hretire with rfl | hretire
      · exact absurd (hearly now rfl) (Nat.not_lt.2 hdue)
      · exact ih (find?_step_of_parked ha hdeadline (habsent s List.mem_cons_self) hearly) hrest
          hretire

/-- An interface that comes back under its name has its parked number again. -/
theorem note_of_parked {a : Holding} {deadline : Nat} (ha : n.holdings.find? i = some a)
    (hdeadline : a.parkedUntil = some deadline) (now debounce : Nat) :
    (n.note i (some a.name) true now debounce).2 = .returned a.number := by
  simp [note, ha, hdeadline]

/-- An interface without a number is given the next one. -/
theorem note_of_none (h : n.holdings.find? i = none) (name : Option String) (now debounce : Nat) :
    (n.note i name true now debounce).2 = .given (n.last + 1) := by
  simp [note, h, giveNext]

/-- An interface that is not served any more has its number parked until the end of the window. -/
theorem find?_step_of_inUse {a : Holding} (ha : n.holdings.find? i = some a)
    (hinUse : a.inUse = true) (name : Option String) (now debounce : Nat) :
    (n.step (.note i name false now debounce)).holdings.find? i =
      some { a with parkedUntil := some (now + debounce) } := by
  rw [step, find?_note_not_served, ha, Option.map_some, Option.isNone_iff_eq_none.1 hinUse]
  rfl

/-- Whatever went before, let an interface have a number in use, let it be parked at some time, and
let the interface come back under its name, without being served in between and without a
retirement later than that. It has its number again exactly if all retirements in between came
before the end of the window; otherwise it is given a number above all that were given before. So it
always has its number again inside the window, and where parked numbers are retired at the time of
its return, it has its number again only inside the window. -/
theorem returned_iff_not_retired (course between : List NumberingStep) {i : UInt32} {a : Holding}
    (ha : (stepAll {} course).holdings.find? i = some a) (hinUse : a.inUse = true)
    (gone : Option String) (parkedAt debounce now later : Nat)
    (habsent : ∀ s ∈ between, s.serves i = false)
    (htimes : ∀ time, .retire time ∈ between → time ≤ now) :
    let m := stepAll {} (course ++ .note i gone false parkedAt debounce :: between)
    let change := (m.note i (some a.name) true now later).2
    (change = .returned a.number ↔
        ∀ time, .retire time ∈ between → time < parkedAt + debounce) ∧
      (change ≠ .returned a.number → change = .given (m.last + 1) ∧ a.number < m.last + 1) ∧
      (now < parkedAt + debounce → change = .returned a.number) ∧
      (.retire now ∈ between → (change = .returned a.number ↔ now < parkedAt + debounce)) := by
  intro m change
  have hparked := find?_step_of_inUse ha hinUse gone parkedAt debounce
  have hm : m = ((stepAll {} course).step (.note i gone false parkedAt debounce)).stepAll between :=
    stepAll_append {} course _
  have hkept : (∀ time, .retire time ∈ between → time < parkedAt + debounce) →
      change = .returned a.number := by
    intro hearly
    have hfound := find?_stepAll_of_parked hparked rfl habsent hearly
    rw [← hm] at hfound
    exact note_of_parked hfound rfl now later
  have hretired : ∀ time, .retire time ∈ between → parkedAt + debounce ≤ time →
      change = .given (m.last + 1) := by
    intro time htime hdue
    have hnone := find?_stepAll_of_due hparked rfl habsent htime hdue
    rw [← hm] at hnone
    exact note_of_none hnone _ now later
  have hiff : change = .returned a.number ↔
      ∀ time, .retire time ∈ between → time < parkedAt + debounce := by
    refine ⟨fun hreturned time htime => ?_, hkept⟩
    by_contra hlate
    rw [hretired time htime (Nat.le_of_not_lt hlate)] at hreturned
    cases hreturned
  refine ⟨hiff, fun hother => ?_, fun hnow => hkept fun time htime => ?_, fun hretire => ?_⟩
  · rw [ne_eq, hiff, not_forall] at hother
    obtain ⟨time, hother⟩ := hother
    rw [Classical.not_imp, Nat.not_lt] at hother
    have hle : a.number ≤ m.last := by
      have hlast := (follows_stepAll (stepAll {} course)
        (.note i gone false parkedAt debounce :: between)).last_le
      rw [← stepAll_append] at hlast
      exact Nat.le_trans ((sound_empty.stepAll course).le_last ha) hlast
    exact ⟨hretired time hother.1 hother.2, Nat.lt_succ_of_le hle⟩
  · exact Nat.lt_of_le_of_lt (htimes time htime) hnow
  · refine hiff.trans ⟨fun hearly => hearly now hretire, fun hnow time htime => ?_⟩
    exact Nat.lt_of_le_of_lt (htimes time htime) hnow

/-- An interface that is back one moment before the end of its window has its number again. -/
theorem returned_iff_not_retired_insideWindow :
    let course := [NumberingStep.note 2 (some "eth0") true 0 500]
    let between := [NumberingStep.retire 300, .note 3 (some "eth1") true 400 500, .retire 499]
    let m := stepAll {} (course ++ .note 2 none false 0 500 :: between)
    (stepAll {} course).holdings.find? 2 = some { number := 1, name := "eth0" } ∧
      (∀ s ∈ between, s.serves 2 = false) ∧ (∀ time, .retire time ∈ between → time ≤ 499) ∧
      (m.note 2 (some "eth0") true 499 500).2 = .returned 1 := by
  intro course between m
  have hheld : (stepAll {} course).holdings.find? 2 = some { number := 1, name := "eth0" } := by
    decide
  have habsent : ∀ s ∈ between, s.serves 2 = false := by decide
  have htimes : ∀ time, .retire time ∈ between → time ≤ 499 := by simp [between]
  exact ⟨hheld, habsent, htimes,
    (returned_iff_not_retired course between hheld rfl none 0 500 499 500 habsent htimes).2.2.1
      (by decide)⟩

/-- Without a retirement in between, an interface that is back at the end of its window still has
its number again. -/
theorem returned_at_deadline :
    let n := stepAll {} [.note 2 (some "eth0") true 0 500, .note 2 none false 0 500]
    n.holdings.find? 2 = some { number := 1, name := "eth0", parkedUntil := some 500 } ∧
      (n.note 2 (some "eth0") true 500 500).2 = .returned 1 := by
  decide

end Numbering

end LinkBus
