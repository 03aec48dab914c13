import LinkBus.Proofs.Exchange.Sound

/-!
# Drawing sequence numbers

Numbers are drawn in a circle through all words but zero. So a number comes back only after all
others were drawn, wherever the counter stood at first.
-/

namespace LinkBus.Netlink

/-- The numbers that are drawn one after the other, and the counter after them. -/
def draws : (count : Nat) → (counter : UInt32) → List UInt32 × UInt32
  | 0, counter => ([], counter)
  | count + 1, counter =>
    let (seq, counter) := nextSequence counter
    let (rest, counter) := draws count counter
    (seq :: rest, counter)

/-- The place in the circle of the number that a counter gives next. -/
def place (counter : UInt32) : Nat := counter.toNat - 1

variable {counter : UInt32}

theorem place_lt (counter : UInt32) : place counter < numberCount := by
  have h := counter.toNat_lt
  simp only [place, numberCount, UInt32.size]
  omega

/-- The number that is drawn is the one at the place. -/
theorem toNat_nextSequence (counter : UInt32) :
    (nextSequence counter).1.toNat = place counter + 1 := by
  by_cases h : counter = 0
  · subst h
    rfl
  · have hne : counter.toNat ≠ 0 := fun hzero => h (UInt32.toNat_inj.1 hzero)
    rw [nextSequence, if_neg h]
    change counter.toNat = counter.toNat - 1 + 1
    omega

/-- The next place follows, and after the last one comes the first. -/
theorem place_nextSequence (counter : UInt32) :
    place (nextSequence counter).2 = (place counter + 1) % numberCount := by
  by_cases h : counter = 0
  · subst h
    rfl
  · have hne : counter.toNat ≠ 0 := fun hzero => h (UInt32.toNat_inj.1 hzero)
    have hlt := counter.toNat_lt
    have hnext : (counter + 1).toNat = (counter.toNat + 1) % 2 ^ 32 := UInt32.toNat_add counter 1
    rw [nextSequence, if_neg h]
    simp only [place, hnext, numberCount, UInt32.size]
    omega

/-- The number at some place of a row of draws. -/
theorem getElem?_draws {count k : Nat} {seq : UInt32} :
    (draws count counter).1[k]? = some seq ↔
      k < count ∧ seq.toNat = (place counter + k) % numberCount + 1 := by
  induction count generalizing counter k with
  | zero => simp [draws]
  | succ count ih =>
    rw [draws]
    cases k with
    | zero =>
      have hplace : (place counter + 0) % numberCount = place counter :=
        Nat.mod_eq_of_lt (place_lt counter)
      rw [List.getElem?_cons_zero, hplace, ← toNat_nextSequence, UInt32.toNat_inj, Option.some_inj]
      exact ⟨fun h => ⟨Nat.succ_pos count, h.symm⟩, fun h => h.2.symm⟩
    | succ k =>
      have hplace : (place (nextSequence counter).2 + k) % numberCount =
          (place counter + (k + 1)) % numberCount := by
        rw [place_nextSequence, Nat.mod_add_mod, Nat.add_assoc, Nat.add_comm 1 k]
      rw [List.getElem?_cons_succ, ih, hplace, Nat.succ_lt_succ_iff]

/-- The numbers that are drawn are those at the places of the row. -/
theorem mem_draws {count : Nat} {seq : UInt32} :
    seq ∈ (draws count counter).1 ↔
      ∃ k < count, seq.toNat = (place counter + k) % numberCount + 1 := by
  simp only [List.mem_iff_getElem?, getElem?_draws]

/-- More draws go on from the counter that the first ones leave. -/
theorem draws_add (count more : Nat) (counter : UInt32) :
    draws (count + more) counter =
      ((draws count counter).1 ++ (draws more (draws count counter).2).1,
        (draws more (draws count counter).2).2) := by
  induction count generalizing counter with
  | zero => rw [Nat.zero_add, draws, List.nil_append]
  | succ count ih =>
    rw [Nat.succ_add]
    simp only [draws, ih, List.cons_append]

/-- The place after some draws. -/
theorem place_draws (count : Nat) (counter : UInt32) :
    place (draws count counter).2 = (place counter + count) % numberCount := by
  induction count generalizing counter with
  | zero => rw [draws, Nat.add_zero, Nat.mod_eq_of_lt (place_lt counter)]
  | succ count ih =>
    rw [draws, ih, place_nextSequence, Nat.mod_add_mod, Nat.add_assoc, Nat.add_comm 1 count]

/-- What is drawn after some draws is among all draws. -/
theorem mem_draws_add {between more : Nat} {seq : UInt32}
    (h : seq ∈ (draws more (draws between counter).2).1) :
    seq ∈ (draws (between + more) counter).1 := by
  rw [draws_add]
  exact List.mem_append_right _ h

/-- Two rows of draws, one after the other, have no number in common before the circle is closed. -/
theorem ne_of_mem_draws {count more : Nat} {seq later : UInt32}
    (hround : count + more ≤ numberCount) (hseq : seq ∈ (draws count counter).1)
    (hlater : later ∈ (draws more (draws count counter).2).1) : seq ≠ later := by
  obtain ⟨j, hj, hseq⟩ := mem_draws.1 hseq
  obtain ⟨k, hk, hlater⟩ := mem_draws.1 hlater
  rw [place_draws, Nat.mod_add_mod, Nat.add_assoc] at hlater
  intro heq
  rw [heq] at hseq
  -- the two places are less than one round apart
  simp only [numberCount, UInt32.size] at hround hseq hlater
  omega

end LinkBus.Netlink
