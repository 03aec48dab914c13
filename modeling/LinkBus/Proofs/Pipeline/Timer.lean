import LinkBus.Proofs.Network.Observations
import LinkBus.Proofs.Pipeline.Courses

/-!
# The timer of the pipeline

The timer is armed with the next retirement, and each round retires all numbers whose time has come.
So after a round the timer is armed with a later time, or not at all, and a round that the timer
alone begins has a number to retire. Each number that is retired was parked before, so no more
rounds are begun by the timer than numbers were parked.
-/

namespace LinkBus

variable {debounce since now : Nat} {s : Network} {r : Round} {rounds : List Round}

/-! ## One round -/

/-- Exactly the interfaces whose number is retired are reported. -/
theorem Network.mem_toList_retireDue {i : UInt32} :
    i ∈ (s.retireDue now).2.toList ↔ i ∈ (s.numbering.retireDue now).2 :=
  Changes.mem_toList_foldl_addIndex.trans (or_iff_left List.not_mem_nil)

/-- A round that the timer begins touches nothing but the numbers that are due. -/
theorem Round.numbering_effect_of_isTimed (h : r.isTimed = true) (debounce : Nat) (s : Network) :
    (r.effect debounce s).1.numbering = (s.numbering.retireDue r.at_).1 := by
  rw [Round.effect, List.isEmpty_iff.1 h]
  rfl

/-- A round that the timer begins retires the numbers that are due. -/
theorem Round.retirements_of_isTimed (h : r.isTimed = true) (debounce : Nat) (s : Network) :
    s.retirements (r.updates debounce) = (s.numbering.retireDue r.at_).2 := by
  rw [Round.updates, List.isEmpty_iff.1 h]
  exact List.append_nil _

/-- After a round the next retirement lies ahead. -/
theorem Round.lt_of_nextRetirement? {deadline : Nat}
    (h : (r.effect debounce s).1.numbering.nextRetirement? = some deadline) : r.at_ < deadline :=
  Numbering.lt_of_nextRetirement?_retireDue h

/-! ## Rows of rounds -/

namespace Timely

/-- Where all deadlines lie ahead, the timer begins no round at once. -/
theorem lt_of_isTimed (h : Timely debounce s since rounds)
    (hahead : ∀ deadline ∈ s.numbering.nextRetirement?, since < deadline) (hr : r ∈ rounds)
    (htimed : r.isTimed = true) : since < r.at_ := by
  induction h with
  | nil => cases hr
  | @cons s since first rest clock timer _ ih =>
    rcases List.mem_cons.1 hr with rfl | hr
    · obtain ⟨deadline, hnext, hdue⟩ := timer htimed
      exact Nat.lt_of_lt_of_le (hahead deadline hnext) hdue
    · have hlater : first.at_ < r.at_ := ih (fun _ => Round.lt_of_nextRetirement?) hr
      exact Nat.lt_of_le_of_lt clock hlater

/-- A round that the timer begins is later than every round before it. -/
theorem pairwise_lt (h : Timely debounce s since rounds) :
    rounds.Pairwise fun earlier later => later.isTimed = true → earlier.at_ < later.at_ := by
  induction h with
  | nil => exact .nil
  | cons _ _ hrest ih =>
    refine .cons (fun later hlater htimed => ?_) ih
    exact hrest.lt_of_isTimed (fun _ => Round.lt_of_nextRetirement?) hlater htimed

/-- When the timer begins a round, it was armed with a time that has come. -/
theorem exists_deadline (h : Timely debounce s since rounds) {before after : List Round}
    (hrounds : rounds = before ++ r :: after) (htimed : r.isTimed = true) :
    ∃ deadline ∈ (s.through debounce before).numbering.nextRetirement?, deadline ≤ r.at_ := by
  induction before generalizing s since rounds with
  | nil =>
    subst hrounds
    cases h with
    | cons _ timer _ => exact timer htimed
  | cons first rest ih =>
    subst hrounds
    cases h with
    | cons _ _ later => exact ih later rfl

/-- A round that the timer begins retires a number that is due. -/
theorem exists_retired (h : Timely debounce s since rounds) {before after : List Round}
    (hrounds : rounds = before ++ r :: after) (htimed : r.isTimed = true) :
    ∃ i deadline, (s.through debounce before).numbering.ParkedUntil i deadline ∧
      deadline ≤ r.at_ ∧
      (s.through debounce (before ++ [r])).numbering.holdings.find? i = none := by
  obtain ⟨i, hi⟩ := Numbering.exists_mem_retireDue_iff.2 (h.exists_deadline hrounds htimed)
  obtain ⟨deadline, hparked, hdue⟩ := Numbering.mem_retireDue.1 hi
  refine ⟨i, deadline, hparked, hdue, ?_⟩
  rw [Network.through_concat, Round.numbering_effect_of_isTimed htimed]
  exact Numbering.find?_retireDue_of_mem hi

/-- Each round that the timer begins makes up for a number that was parked: it retires one, at
least. -/
theorem length_timed_le (h : Timely debounce s since rounds) :
    (s.through debounce rounds).numbering.parked.length +
        (rounds.filter Round.isTimed).length ≤
      s.numbering.parked.length +
        (s.parkings (rounds.flatMap (Round.updates debounce))).length := by
  induction h with
  | nil => exact Nat.le_refl _
  | @cons s since r rest clock timer later ih =>
    have hround := s.length_retirements_le (r.updates debounce)
    have hthrough : s.through debounce (r :: rest) =
        (r.effect debounce s).1.through debounce rest := rfl
    have hretired : r.isTimed = true → 0 < (s.retirements (r.updates debounce)).length := by
      intro htimed
      obtain ⟨i, hi⟩ := Numbering.exists_mem_retireDue_iff.2 (timer htimed)
      rw [Round.retirements_of_isTimed htimed]
      exact List.length_pos_of_mem hi
    rw [← Round.effect_fst] at hround
    rw [hthrough, List.flatMap_cons, Network.parkings_append, ← Round.effect_fst,
      List.length_append, List.filter_cons]
    split
    · next htimed =>
      have hone := hretired htimed
      rw [List.length_cons]
      omega
    · omega

/-- From the first moment on, the timer begins no more rounds than numbers are parked. -/
theorem length_timed_le_parkings {filter : LinkFilter} {setup : List Update}
    (h : Timely debounce ((Network.empty filter).updateAll setup) since rounds) :
    (rounds.filter Round.isTimed).length ≤
      ((Network.empty filter).parkings
        (setup ++ rounds.flatMap (Round.updates debounce))).length := by
  have hsetup := (Network.empty filter).length_retirements_le setup
  have hrounds := h.length_timed_le
  have hnone : (Network.empty filter).numbering.parked.length = 0 := rfl
  rw [Network.parkings_append, List.length_append]
  omega

end Timely

/-! ## The timer does not spin -/

/-- Whatever a network went through, and however long numbers stay parked, after a round no number
is parked until a time that has come, so the next retirement lies ahead if there is one. Retiring
takes exactly the numbers that are parked until a time that has come, and no number in use. So along
all rounds of a clock that never goes back and a timer that is never early, a round that the timer
alone begins is later than all rounds before it and retires a number that is due, and there are no
more such rounds than numbers were parked. Whatever a pipeline lives through is made of such
rounds. -/
theorem timer_never_spins (filter : LinkFilter) (setup : List Update) :
    let s := (Network.empty filter).updateAll setup
    (∀ messages now debounce,
      let t := ((s.deliver messages now debounce).1.retireDue now).1
      (∀ i deadline, t.numbering.ParkedUntil i deadline → now < deadline) ∧
        ∀ deadline ∈ t.numbering.nextRetirement?, now < deadline) ∧
    (∀ now i, let t := (s.retireDue now).1
      (i ∈ (s.retireDue now).2.toList ↔
        ∃ deadline, s.numbering.ParkedUntil i deadline ∧ deadline ≤ now) ∧
      t.numbering.holdings.find? i =
        (if i ∈ (s.retireDue now).2.toList then none else s.numbering.holdings.find? i) ∧
      t.numbering.number? i = s.numbering.number? i) ∧
    (∀ debounce since rounds, Timely debounce s since rounds →
      (rounds.Pairwise fun earlier later => later.isTimed = true → earlier.at_ < later.at_) ∧
      (∀ before r after, rounds = before ++ r :: after → r.isTimed = true →
        ∃ i deadline, (s.through debounce before).numbering.ParkedUntil i deadline ∧
          deadline ≤ r.at_ ∧
          (s.through debounce (before ++ [r])).numbering.holdings.find? i = none) ∧
      (rounds.filter Round.isTimed).length ≤
        ((Network.empty filter).parkings
          (setup ++ rounds.flatMap (Round.updates debounce))).length) ∧
    ∀ c : Course, ∃ rounds opened, Timely c.debounce s 0 rounds ∧
      Pipeline.Account (c.start s) (c.arrivals s) (c.closing? s) rounds opened (c.finish s) := by
  intro s
  refine ⟨fun messages now debounce => ⟨fun i deadline h => ?_, fun deadline h => ?_⟩,
    fun now i => ⟨?_, ?_, ?_⟩, fun debounce since rounds h => ⟨h.pairwise_lt, ?_, ?_⟩,
    fun c => ?_⟩
  · exact (Numbering.parkedUntil_retireDue.1 h).2
  · exact Numbering.lt_of_nextRetirement?_retireDue h
  · rw [← Numbering.mem_retireDue]
    exact Network.mem_toList_retireDue
  · split
    · next hretired =>
      exact Numbering.find?_retireDue_of_mem (Network.mem_toList_retireDue.1 hretired)
    · next hkept =>
      exact Numbering.find?_retireDue_of_not_mem fun h =>
        hkept (Network.mem_toList_retireDue.2 h)
  · exact Numbering.number?_retireDue ..
  · exact fun before r after hrounds htimed => h.exists_retired hrounds htimed
  · exact h.length_timed_le_parkings
  · obtain ⟨rounds, opened, h⟩ := c.exists_ledger s
    exact ⟨rounds, opened, h.timely, h.toAccount⟩

/-- A link that was removed: messages that change nothing leave the timer armed, and the timer
begins one round, three milliseconds late, for the one number that was parked. -/
theorem timer_never_spins_removed :
    let link : LinkReport :=
      { index := 2, name := some "eth0", layerType := 1, flags := 0x10003, oper := some .up }
    let setup := [Update.hear [.newLink link] 0 500, .hear [.delLink { index := 2 }] 10 500]
    let s := (Network.empty {}).updateAll setup
    let rounds := [Round.mk 300 [(250, .events [])], Round.mk 513 []]
    s.numbering.ParkedUntil 2 510 ∧ Timely 500 s 10 rounds ∧
      (rounds.filter Round.isTimed).length = 1 ∧
      1 ≤ ((Network.empty {}).parkings
        (setup ++ rounds.flatMap (Round.updates 500))).length := by
  intro link setup s rounds
  have hparked : s.numbering.ParkedUntil 2 510 :=
    ⟨{ number := 1, name := "eth0", parkedUntil := some 510 }, by decide, rfl⟩
  have hnext : (s.through 500 [Round.mk 300 [(250, .events [])]]).numbering.nextRetirement? =
      some 510 := by decide
  have htimely : Timely 500 s 10 rounds :=
    .cons (by decide) nofun (.cons (by decide) (fun _ => ⟨510, hnext, by decide⟩) .nil)
  have hcount : (rounds.filter Round.isTimed).length = 1 := rfl
  refine ⟨hparked, htimely, hcount, ?_⟩
  rw [← hcount]
  exact ((timer_never_spins {} setup).2.2.1 500 10 rounds htimely).2.2

end LinkBus
