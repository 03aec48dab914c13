import LinkBus.Wire.Message

/-!
# Checked steps

Steps that a machine can carry out only if their result is there: parts of some bytes, and numbers
in words of a fixed width. A step that cannot be carried out is a fault, after which nothing goes
on. Each step comes with the condition under which it is carried out, and with its result.
-/

namespace LinkBus.Wire

/-- Why a machine cannot go on. -/
inductive Fault
  /-- Bytes are asked for that are not there. -/
  | outOfRange
  /-- A sum or a difference does not fit in its word. -/
  | overflow
  /-- The negation of a code does not fit in its word. -/
  | negation
  deriving DecidableEq, Repr

namespace Checked

/-! ## Parts of some bytes -/

variable {bytes : List UInt8}

/-- The bytes from a place on. -/
def sliceFrom (bytes : List UInt8) (start : Nat) : Except Fault (List UInt8) :=
  if start ≤ bytes.length then .ok (bytes.drop start) else .error .outOfRange

/-- The bytes before a place. -/
def sliceTo (bytes : List UInt8) (stop : Nat) : Except Fault (List UInt8) :=
  if stop ≤ bytes.length then .ok (bytes.take stop) else .error .outOfRange

/-- The number held in `count` bytes at an offset, each of which is looked up. -/
def numberAt (bytes : List UInt8) (offset : Nat) : (count : Nat) → Except Fault Nat
  | 0 => .ok 0
  | count + 1 =>
    match bytes[offset]? with
    | none => .error .outOfRange
    | some low => (numberAt bytes (offset + 1) count).map (low.toNat + 256 * ·)

theorem sliceFrom_of_le {start : Nat} (h : start ≤ bytes.length) :
    sliceFrom bytes start = .ok (bytes.drop start) := if_pos h

theorem sliceTo_of_le {stop : Nat} (h : stop ≤ bytes.length) :
    sliceTo bytes stop = .ok (bytes.take stop) := if_pos h

/-- Bytes that are there hold the number that is read from them. -/
theorem numberAt_of_le {offset count : Nat} (h : offset + count ≤ bytes.length) :
    numberAt bytes offset count = .ok (field bytes offset count) := by
  induction count generalizing offset with
  | zero => rfl
  | succ count ih =>
    have hlt : offset < bytes.length := by omega
    rw [numberAt, List.getElem?_eq_getElem hlt, ih (by omega), field, field,
      List.drop_eq_getElem_cons hlt, List.take_succ_cons]
    rfl

/-! ## Words -/

variable {n : Nat}

/-- The sum of two words. -/
def add (a b : BitVec n) : Except Fault (BitVec n) :=
  if a.uaddOverflow b then .error .overflow else .ok (a + b)

/-- The difference of two words. -/
def sub (a b : BitVec n) : Except Fault (BitVec n) :=
  if a.usubOverflow b then .error .overflow else .ok (a - b)

/-- The sum of two words, or the greatest word if the sum does not fit. -/
def addSaturating (a b : BitVec n) : BitVec n :=
  if a.uaddOverflow b then BitVec.allOnes n else a + b

/-- A length rounded up to a multiple of four, with the last two bits of a sum cleared. -/
def roundUp (length : BitVec n) : Except Fault (BitVec n) :=
  (add length 4#n).bind fun sum => (sub sum 1#n).map fun last => last &&& ~~~3#n

/-- The negation of a code. -/
def negate (code : BitVec 32) : Except Fault (BitVec 32) :=
  if code.negOverflow then .error .negation else .ok (-code)

/-- A number up to the greatest word is kept in a word. -/
theorem toNat_ofNat_of_le {number : Nat} (h : number ≤ (BitVec.allOnes n).toNat) :
    (BitVec.ofNat n number).toNat = number := by
  have hpos := Nat.two_pow_pos n
  rw [BitVec.toNat_allOnes] at h
  rw [BitVec.toNat_ofNat, Nat.mod_eq_of_lt (by omega)]

theorem add_of_le {a b : BitVec n} (h : a.toNat + b.toNat ≤ (BitVec.allOnes n).toNat) :
    add a b = .ok (a + b) := by
  have hpos := Nat.two_pow_pos n
  rw [BitVec.toNat_allOnes] at h
  refine if_neg ?_
  rw [BitVec.uaddOverflow, decide_eq_true_eq]
  omega

theorem sub_of_le {a b : BitVec n} (h : b.toNat ≤ a.toNat) : sub a b = .ok (a - b) := by
  refine if_neg ?_
  rw [BitVec.usubOverflow, decide_eq_true_eq]
  omega

theorem toNat_addSaturating (a b : BitVec n) :
    (addSaturating a b).toNat = min (a.toNat + b.toNat) (BitVec.allOnes n).toNat := by
  have hpos := Nat.two_pow_pos n
  rw [addSaturating, BitVec.uaddOverflow, BitVec.toNat_allOnes]
  split
  · next h =>
    rw [decide_eq_true_eq] at h
    rw [BitVec.toNat_allOnes]
    omega
  · next h =>
    rw [decide_eq_true_eq] at h
    rw [BitVec.toNat_add_of_lt (by omega)]
    omega

/-- Clearing the last two bits of a word leaves a multiple of four. -/
theorem toNat_clear (a : BitVec n) : (a &&& ~~~3#n).toNat = a.toNat / 4 * 4 := by
  -- the bits that stay are those of the word shifted out of place and back
  have hshift : a &&& ~~~3#n = (a >>> 2) <<< 2 := by
    ext i hi
    have hthree : (3#n)[i] = Nat.testBit 3 i := by
      rw [← BitVec.getLsbD_eq_getElem, BitVec.getLsbD_ofNat, decide_eq_true hi, Bool.true_and]
    simp only [BitVec.getElem_and, BitVec.getElem_not, BitVec.getElem_shiftLeft, hthree]
    match i with
    | 0 => simp
    | 1 => exact Bool.and_false _
    | i + 2 =>
      have hhigh : Nat.testBit 3 (i + 2) = false := by
        refine Nat.testBit_lt_two_pow ?_
        have hpos := Nat.two_pow_pos i
        rw [Nat.pow_add]
        omega
      have hsum : 2 + i = i + 2 := Nat.add_comm 2 i
      simp [hhigh, hsum, BitVec.getLsbD_eq_getElem hi]
  rw [hshift, BitVec.toNat_shiftLeft, BitVec.toNat_ushiftRight, Nat.shiftLeft_eq,
    Nat.shiftRight_eq_div_pow]
  exact Nat.mod_eq_of_lt (Nat.lt_of_le_of_lt (Nat.div_mul_le_self _ _) a.isLt)

/-- A length with some room above it is rounded up. -/
theorem roundUp_of_le {length : Nat} (h : length + 4 ≤ (BitVec.allOnes n).toNat) :
    roundUp (BitVec.ofNat n length) = .ok (BitVec.ofNat n (align length)) := by
  have hpos := Nat.two_pow_pos n
  have hmost : (BitVec.allOnes n).toNat = 2 ^ n - 1 := BitVec.toNat_allOnes
  have hlength : (BitVec.ofNat n length).toNat = length := toNat_ofNat_of_le (by omega)
  have hfour : (4#n).toNat = 4 := toNat_ofNat_of_le (by omega)
  have hone : (1#n).toNat = 1 := toNat_ofNat_of_le (by omega)
  have hsum : (BitVec.ofNat n length + 4#n).toNat = length + 4 := by
    rw [BitVec.toNat_add_of_lt (by omega), hlength, hfour]
  have hlast : (BitVec.ofNat n length + 4#n - 1#n).toNat = length + 3 := by
    rw [BitVec.toNat_sub_of_le (by rw [BitVec.le_def]; omega), hsum, hone]
    rfl
  rw [roundUp, add_of_le (by omega), Except.bind, sub_of_le (by omega), Except.map]
  congr 1
  refine BitVec.eq_of_toNat_eq ?_
  rw [toNat_clear, hlast, BitVec.toNat_ofNat, align, Nat.mod_eq_of_lt (by omega)]

/-- Only the least code cannot be negated. -/
theorem negate_eq_error_iff {code : BitVec 32} {fault : Fault} :
    negate code = .error fault ↔ fault = .negation ∧ code = BitVec.intMin 32 := by
  rw [negate, BitVec.negOverflow_eq]
  by_cases h : code = BitVec.intMin 32
  · subst h
    simp [eq_comm]
  · simp [h]

/-- Every other code has its negation. -/
theorem negate_of_ne {code : BitVec 32} (h : code ≠ BitVec.intMin 32) :
    negate code = .ok (-code) ∧ (-code).toInt = -code.toInt := by
  have hfits : ¬ code.negOverflow = true := by simpa [BitVec.negOverflow_eq] using h
  exact ⟨if_neg hfits, BitVec.toInt_neg_of_not_negOverflow hfits⟩

end Checked

end LinkBus.Wire
