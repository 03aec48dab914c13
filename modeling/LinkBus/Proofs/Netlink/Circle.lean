import LinkBus.Proofs.Netlink.Sequence
import Mathlib.Data.List.Infix
import Mathlib.Data.Nat.ModEq

/-!
# The circle of sequence numbers

A call that draws a number increments the counter until what the counter held before was not zero.
This takes one increment, or two where the counter holds zero. Along a row of calls the numbers go
round in a circle through all words but zero, so a number comes back exactly after as many calls as
there are numbers.

Increments cannot be divided, but two calls may take turns with them. Whichever call makes an
increment, the numbers that end the calls are the same as if the calls came one after the other, and
zero is held at most once in as many increments as there are words. An exchange draws such a row,
however its calls interleave.
-/

namespace LinkBus.Netlink

/-! ## One call -/

/-- Increments a counter until what it held before is not zero. Tells how often the counter was
incremented, what it held before the last time, and what it holds then. -/
def incrementPastZero (counter : UInt32) : Nat × UInt32 × UInt32 :=
  if counter = 0 then
    let (increments, seq, next) := incrementPastZero (counter + 1)
    (increments + 1, seq, next)
  else (1, counter, counter + 1)
termination_by if counter = 0 then 1 else 0
decreasing_by simp_all

variable {counter : UInt32}

/-- A counter that does not hold zero is incremented once. -/
theorem incrementPastZero_of_ne_zero (h : counter ≠ 0) :
    incrementPastZero counter = (1, counter, counter + 1) := by
  rw [incrementPastZero, if_neg h]

/-- Drawing a number is incrementing past zero, which takes a second increment only from zero. -/
theorem incrementPastZero_eq (counter : UInt32) :
    incrementPastZero counter = (if counter = 0 then 2 else 1, nextSequence counter) := by
  by_cases h : counter = 0
  · subst h
    rw [incrementPastZero, if_pos rfl, incrementPastZero_of_ne_zero (by decide)]
    rfl
  · rw [incrementPastZero_of_ne_zero h, if_neg h, nextSequence, if_neg h]

/-- Zero is never drawn. -/
theorem nextSequence_ne_zero (counter : UInt32) : (nextSequence counter).1 ≠ 0 := by
  intro hzero
  have hplace := toNat_nextSequence counter
  rw [hzero] at hplace
  exact absurd hplace (Nat.succ_ne_zero _).symm

/-! ## Rows of calls -/

/-- A row of draws has the same number at two places exactly if these are whole rounds apart. -/
theorem draws_eq_iff {count i j : Nat} {seq later : UInt32}
    (hi : (draws count counter).1[i]? = some seq) (hj : (draws count counter).1[j]? = some later) :
    seq = later ↔ i % numberCount = j % numberCount := by
  have hseq := (getElem?_draws.1 hi).2
  have hlater := (getElem?_draws.1 hj).2
  rw [← UInt32.toNat_inj, hseq, hlater, Nat.succ_inj]
  exact Nat.ModEq.add_iff_left rfl

/-- In a row where equal elements are whole periods apart, a part that is no longer than a period
has no element twice. -/
theorem nodup_part {α : Type} {row part : List α} {period : Nat}
    (hperiod : ∀ (i j : Nat) (a : α), row[i]? = some a → row[j]? = some a →
      i % period = j % period)
    (hpart : part <:+: row) (hlength : part.length ≤ period) : part.Nodup := by
  obtain ⟨offset, _, hfound⟩ := List.infix_iff_getElem?.1 hpart
  rw [List.nodup_iff_getElem?_ne_getElem?]
  intro i j hij hj heq
  have hi : i < part.length := hij.trans hj
  rw [List.getElem?_eq_getElem hi, List.getElem?_eq_getElem hj, Option.some_inj] at heq
  have hsame := hperiod (i + offset) (j + offset) part[i] (hfound i hi) (heq ▸ hfound j hj)
  -- two places of the part are less than one period apart
  have hmod : i % period = j % period := Nat.ModEq.add_right_cancel' offset hsame
  rw [Nat.mod_eq_of_lt (by omega), Nat.mod_eq_of_lt (by omega)] at hmod
  omega

/-- Draws within one round are distinct. -/
theorem nodup_part_of_draws {count : Nat} {part : List UInt32}
    (hpart : part <:+: (draws count counter).1) (hlength : part.length ≤ numberCount) :
    part.Nodup :=
  nodup_part (fun _ _ _ hi hj => (draws_eq_iff hi hj).1 rfl) hpart hlength

/-! ## Calls that take turns -/

/-- What a counter holds before each of some increments, whichever calls make them. -/
def readings : (increments : Nat) → (counter : UInt32) → List UInt32
  | 0, _ => []
  | increments + 1, counter => counter :: readings increments (counter + 1)

/-- A counter counts the increments, and starts again after the last word. -/
theorem getElem?_readings {increments k : Nat} {held : UInt32} :
    (readings increments counter)[k]? = some held ↔
      k < increments ∧ held.toNat = (counter.toNat + k) % UInt32.size := by
  induction increments generalizing counter k with
  | zero => simp [readings]
  | succ increments ih =>
    rw [readings]
    cases k with
    | zero =>
      have hheld : (counter.toNat + 0) % UInt32.size = counter.toNat :=
        Nat.mod_eq_of_lt counter.toNat_lt
      rw [List.getElem?_cons_zero, hheld, UInt32.toNat_inj, Option.some_inj]
      exact ⟨fun h => ⟨Nat.succ_pos increments, h.symm⟩, fun h => h.2.symm⟩
    | succ k =>
      have hnext : ((counter + 1).toNat + k) % UInt32.size =
          (counter.toNat + (k + 1)) % UInt32.size := by
        have hadd : (counter + 1).toNat = (counter.toNat + 1) % UInt32.size :=
          UInt32.toNat_add counter 1
        rw [hadd, Nat.mod_add_mod, Nat.add_assoc, Nat.add_comm 1 k]
      rw [List.getElem?_cons_succ, ih, hnext, Nat.succ_lt_succ_iff]

/-- The calls that end are those that meet something else than zero, and they end with the numbers
of calls that come one after the other. -/
theorem filter_readings (increments : Nat) (counter : UInt32) :
    (readings increments counter).filter (· ≠ 0) =
      (draws ((readings increments counter).countP (· ≠ 0)) counter).1 := by
  induction increments generalizing counter with
  | zero => rfl
  | succ increments ih =>
    rw [readings, List.filter_cons, List.countP_cons]
    by_cases h : counter = 0
    · -- an increment of zero ends no call, and the next one goes on as if from one
      subst h
      have hskip : ∀ count, (draws count 0).1 = (draws count 1).1 := fun count => by
        cases count <;> rfl
      rw [if_neg (by decide), if_neg (by decide), Nat.add_zero, hskip]
      exact ih 1
    · have hnext : nextSequence counter = (counter, counter + 1) := if_neg h
      have hne : decide (counter ≠ 0) = true := decide_eq_true h
      rw [if_pos hne, if_pos hne, draws, hnext, ih]

/-- Zero is held at most once in as many increments as there are words. -/
theorem count_zero_part_of_readings {increments : Nat} {part : List UInt32}
    (hpart : part <:+: readings increments counter) (hlength : part.length ≤ UInt32.size) :
    part.count 0 ≤ 1 := by
  refine List.nodup_iff_count_le_one.1 (nodup_part (fun i j held hi hj => ?_) hpart hlength) 0
  have hsame := (getElem?_readings.1 hi).2.symm.trans (getElem?_readings.1 hj).2
  exact Nat.ModEq.add_left_cancel' counter.toNat hsame

/-! ## Calls of an exchange -/

namespace Exchange

variable {e next : Exchange}

/-- Some numbers are drawn from an exchange, one after the other. -/
structure Draws (e next : Exchange) (count : Nat) : Prop where
  /-- They are logged after those that were drawn before. -/
  drawn_eq : drawnNumbers next.log = drawnNumbers e.log ++ (draws count e.counter).1
  /-- The counter is the one that they leave. -/
  counter_eq : next.counter = (draws count e.counter).2

/-- Nothing is drawn where neither the counter nor the numbers in the log change. -/
theorem Draws.none (hdrawn : drawnNumbers next.log = drawnNumbers e.log)
    (hcounter : next.counter = e.counter) : e.Draws next 0 where
  drawn_eq := hdrawn.trans (List.append_nil _).symm
  counter_eq := hcounter

/-- A call draws one number. -/
theorem Draws.one {c : Nat} (hlog : next.log = (e.draw c).log)
    (hcounter : next.counter = (e.draw c).counter) : e.Draws next 1 where
  drawn_eq := by
    rw [hlog, Exchange.draw, drawnNumbers, List.filterMap_append]
    rfl
  counter_eq := hcounter

/-- More numbers are drawn from the counter that the first ones leave. -/
theorem Draws.trans {mid : Exchange} {count more : Nat} (h : e.Draws mid count)
    (hmore : mid.Draws next more) : e.Draws next (count + more) where
  drawn_eq := by rw [hmore.drawn_eq, h.drawn_eq, h.counter_eq, draws_add, List.append_assoc]
  counter_eq := by rw [hmore.counter_eq, h.counter_eq, draws_add]

/-- A move draws one number, or none. -/
theorem draws_of_step? {m : Move} (hstep : e.step? m = some next) :
    ∃ count, e.Draws next count := by
  cases m with
  | change index up =>
    simp only [step?] at hstep
    split at hstep
    · obtain rfl := Option.some.inj hstep
      exact ⟨1, .one rfl rfl⟩
    · obtain rfl := Option.some.inj hstep
      exact ⟨0, .none rfl rfl⟩
  | dump =>
    obtain rfl := Option.some.inj hstep
    exact ⟨0, .none rfl rfl⟩
  | take c =>
    obtain ⟨_, _, hstep⟩ := Option.bind_eq_some_iff.1 hstep
    obtain ⟨_, _, hstep⟩ := Option.bind_eq_some_iff.1 hstep
    split at hstep <;> cases hstep
    exact ⟨0, .none rfl rfl⟩
  | draw c =>
    obtain ⟨_, _, hstep⟩ := Option.bind_eq_some_iff.1 hstep
    split at hstep <;> cases hstep
    exact ⟨1, .one (c := c) rfl rfl⟩
  | refuseChanges =>
    obtain rfl := Option.some.inj hstep
    exact ⟨0, .none rfl rfl⟩
  | queue receipt =>
    obtain rfl := Option.some.inj hstep
    exact ⟨0, .none (by simp [drawnNumbers]) rfl⟩
  | send c =>
    obtain ⟨_, _, hstep⟩ := Option.bind_eq_some_iff.1 hstep
    split at hstep <;> cases hstep
    exact ⟨0, .none (by simp [drawnNumbers, put]) rfl⟩
  | _ =>
    obtain ⟨_, _, hstep⟩ := Option.bind_eq_some_iff.1 hstep
    repeat' split at hstep
    all_goals cases hstep
    all_goals exact ⟨0, .none rfl rfl⟩

/-- Moves draw numbers one after the other. -/
theorem draws_of_run? {last : Exchange} {moves : List Move} (hrun : e.run? moves = some last) :
    ∃ count, e.Draws last count := by
  induction moves generalizing e with
  | nil => exact ⟨0, Option.some.inj hrun ▸ .none rfl rfl⟩
  | cons m rest ih =>
    rw [run?_cons] at hrun
    obtain ⟨next, hstep, hrest⟩ := Option.bind_eq_some_iff.1 hrun
    obtain ⟨count, hfirst⟩ := draws_of_step? hstep
    obtain ⟨more, hlater⟩ := ih hrest
    exact ⟨count + more, hfirst.trans hlater⟩

end Exchange

/-! ## The circle -/

/-- Wherever the counter stands, a call increments it at most twice and draws a number other than
zero. Along any row of calls zero is never drawn, the numbers of no more than `2 ^ 32 - 1` calls
after one another are distinct, and two calls draw the same number exactly if they are a multiple
of so many calls apart. Calls that take turns with their increments draw the same row, and a call
meets zero twice only if `2 ^ 32 - 1` increments come in between. The calls of an exchange draw such
a row, however they interleave. -/
theorem numbers_return_after_round (counter : UInt32) :
    ((incrementPastZero counter).1 ≤ 2 ∧ (incrementPastZero counter).2 = nextSequence counter ∧
      (nextSequence counter).1 ≠ 0) ∧
    (∀ count, let row := (draws count counter).1
      0 ∉ row ∧
      (∀ part, part <:+: row → part.length ≤ 2 ^ 32 - 1 → part.Nodup) ∧
      ∀ (i j : Nat) (seq later : UInt32), row[i]? = some seq → row[j]? = some later →
        (seq = later ↔ i % (2 ^ 32 - 1) = j % (2 ^ 32 - 1))) ∧
    (∀ increments, let held := readings increments counter
      held.filter (· ≠ 0) = (draws (held.countP (· ≠ 0)) counter).1 ∧
      ∀ part, part <:+: held → part.length ≤ 2 ^ 32 → part.count 0 ≤ 1) ∧
    ∀ (e last : Exchange) (moves : List Move), e.counter = counter → e.run? moves = some last →
      ∃ count, drawnNumbers last.log = drawnNumbers e.log ++ (draws count counter).1 ∧
        last.counter = (draws count counter).2 := by
  refine ⟨⟨?_, ?_, nextSequence_ne_zero counter⟩, fun count => ⟨fun hzero => ?_, ?_, ?_⟩,
    fun increments => ⟨filter_readings increments counter, ?_⟩, ?_⟩
  · rw [incrementPastZero_eq]
    change (if counter = 0 then 2 else 1) ≤ 2
    split <;> omega
  · rw [incrementPastZero_eq]
  · obtain ⟨k, _, hseq⟩ := mem_draws.1 hzero
    exact absurd hseq (Nat.succ_ne_zero _).symm
  · exact fun part hpart hlength => nodup_part_of_draws hpart hlength
  · exact fun i j seq later hi hj => draws_eq_iff hi hj
  · exact fun part hpart hlength => count_zero_part_of_readings hpart hlength
  · rintro e last moves rfl hrun
    obtain ⟨count, h⟩ := Exchange.draws_of_run? hrun
    exact ⟨count, h.drawn_eq, h.counter_eq⟩

/-- Three changes that are asked for when the counter stands before the last word: the number after
the last word is one. -/
theorem numbers_return_after_round_lastWord :
    let start : Exchange := { counter := 4294967294 }
    ∃ last count, start.run? [.change 2 true, .change 3 true, .change 2 false] = some last ∧
      drawnNumbers last.log = (draws count 4294967294).1 ∧
      drawnNumbers last.log = [4294967294, 4294967295, 1] ∧ (drawnNumbers last.log).Nodup := by
  intro start
  obtain ⟨_, hrows, _, hruns⟩ := numbers_return_after_round 4294967294
  obtain ⟨last, hrun, hdrawn⟩ : ∃ last,
      start.run? [.change 2 true, .change 3 true, .change 2 false] = some last ∧
        drawnNumbers last.log = [4294967294, 4294967295, 1] := ⟨_, rfl, by decide⟩
  obtain ⟨count, hrow, -⟩ := hruns start last _ rfl hrun
  have hlog : drawnNumbers last.log = (draws count 4294967294).1 := hrow
  refine ⟨last, count, hrun, hlog, hdrawn, (hrows count).2.1 _ (hlog ▸ List.infix_rfl) ?_⟩
  rw [hdrawn]
  decide

end LinkBus.Netlink
