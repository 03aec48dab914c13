import LinkBus.Text.Digits

/-!
# Numbers and their digits

A number can be read back from its decimal digits, and a hexadecimal digit has the value that it was
made from. What is read as a decimal number is the digits of that number, behind any number of zeros
and, where the reader allows it, a plus sign.
-/

namespace LinkBus.Text

/-! ## Decimal digits -/

/-- A decimal digit has the value that it was made from. -/
theorem digitValue?_lowerDigit {n : Nat} (h : n < 10) : digitValue? 10 (lowerDigit n) = some n := by
  have hall : ∀ d : Fin 10, digitValue? 10 (lowerDigit d) = some (d : Nat) := by decide
  exact hall ⟨n, h⟩

/-- Reading goes on with the second of two pieces where it got with the first. -/
theorem readDigits_append (base acc : Nat) (first second : List Char) :
    readDigits base acc (first ++ second) =
      (readDigits base acc first).bind fun mid => readDigits base mid second := by
  induction first generalizing acc with
  | nil => rfl
  | cons c rest ih =>
    simp only [List.cons_append, readDigits, Option.bind_assoc]
    exact congrArg _ (funext fun d => ih _)

/-- The digits of a number are never empty. -/
theorem decimal_ne_nil (n : Nat) : decimal n ≠ [] := by
  unfold decimal
  split <;> simp

/-- The last digit of a number is that of its remainder. -/
theorem getLast?_decimal (n : Nat) : (decimal n).getLast? = some (lowerDigit (n % 10)) := by
  unfold decimal
  split
  · next hn => rw [Nat.mod_eq_of_lt hn, List.getLast?_singleton]
  · rw [List.getLast?_append, List.getLast?_singleton, Option.some_or]

/-- The digits of a number stand for it. -/
theorem readDigits_decimal (n : Nat) : readDigits 10 0 (decimal n) = some n := by
  induction n using Nat.strongRecOn with
  | ind n ih =>
    unfold decimal
    split
    · next hn => simp [readDigits, digitValue?_lowerDigit hn]
    · next hn =>
      have hlast : n % 10 < 10 := Nat.mod_lt n (by decide)
      rw [readDigits_append, ih (n / 10) (by omega)]
      simp only [Option.bind_some, readDigits, digitValue?_lowerDigit hlast, Option.some.injEq]
      omega

/-- A number can be read back from its digits. -/
theorem readNumber?_decimal (n : Nat) : readNumber? 10 (decimal n) = some n := by
  have hread := readDigits_decimal n
  unfold readNumber?
  split
  · next hnil => exact absurd hnil (decimal_ne_nil n)
  · exact hread

/-- Different numbers have different digits. -/
theorem decimal_inj {m n : Nat} : decimal m = decimal n ↔ m = n := by
  constructor
  · intro h
    have hread := readDigits_decimal m
    rw [h, readDigits_decimal] at hread
    exact (Option.some.inj hread).symm
  · exact congrArg decimal

/-- All characters of a number are digits. -/
theorem mem_decimal {n : Nat} {c : Char} (h : c ∈ decimal n) : ∃ d < 10, c = lowerDigit d := by
  induction n using Nat.strongRecOn with
  | ind n ih =>
    unfold decimal at h
    split at h
    · next hn => exact ⟨n, hn, List.mem_singleton.1 h⟩
    · next hn =>
      obtain h | h := List.mem_append.1 h
      · exact ih (n / 10) (by omega) h
      · exact ⟨n % 10, Nat.mod_lt n (by decide), List.mem_singleton.1 h⟩

/-- The first digit of a number is zero only if the number is. -/
theorem decimal_eq_cons {n : Nat} (h : 0 < n) :
    ∃ d rest, decimal n = lowerDigit d :: rest ∧ 0 < d ∧ d < 10 := by
  induction n using Nat.strongRecOn with
  | ind n ih =>
    unfold decimal
    split
    · next hn => exact ⟨n, [], rfl, h, hn⟩
    · next hn =>
      obtain ⟨d, rest, hdigits, hd⟩ := ih (n / 10) (by omega) (by omega)
      exact ⟨d, rest ++ [lowerDigit (n % 10)], by rw [hdigits, List.cons_append], hd⟩

/-! ## Reading decimal numbers -/

/-- Each decimal digit has one character. -/
theorem digitValue?_eq_some_iff {c : Char} {d : Nat} :
    digitValue? 10 c = some d ↔ d < 10 ∧ c = lowerDigit d := by
  constructor
  · intro h
    obtain ⟨hhex, hlt⟩ := Option.filter_eq_some_iff.1 h
    have hd : d < 10 := of_decide_eq_true hlt
    have hnat : c.toNat = 48 + d := by
      unfold hexValue? at hhex
      simp only [Char.le_def, UInt32.le_iff_toNat_le, Char.reduceVal, UInt32.reduceToNat] at hhex
      have hval : c.toNat = c.val.toNat := rfl
      split at hhex
      · cases hhex
        omega
      · split at hhex
        · cases hhex
          omega
        · split at hhex <;> cases hhex
          omega
    refine ⟨hd, ?_⟩
    rw [lowerDigit, if_pos hd, ← hnat, Char.ofNat_toNat]
  · rintro ⟨hd, rfl⟩
    exact digitValue?_lowerDigit hd

/-- A further digit of a number other than zero stands behind its digits. -/
theorem decimal_mul_add {m d : Nat} (hm : 0 < m) (hd : d < 10) :
    decimal (m * 10 + d) = decimal m ++ [lowerDigit d] := by
  rw [decimal, if_neg (by omega), show (m * 10 + d) / 10 = m by omega,
    show (m * 10 + d) % 10 = d by omega]

/-- A digit is a number of its own. -/
theorem decimal_of_lt {d : Nat} (hd : d < 10) : decimal d = [lowerDigit d] := by
  rw [decimal, if_pos hd]

/-- Zeros before the digits of a number do not change it. -/
theorem readDigits_zeros (zeros : Nat) (text : List Char) :
    readDigits 10 0 (List.replicate zeros '0' ++ text) = readDigits 10 0 text := by
  induction zeros with
  | zero => rfl
  | succ zeros ih => exact ih

/-- A number other than zero that is continued by a text has that text behind its digits. -/
theorem decimal_of_readDigits {acc n : Nat} {text : List Char} (hacc : 0 < acc)
    (h : readDigits 10 acc text = some n) : decimal n = decimal acc ++ text := by
  induction text generalizing acc with
  | nil =>
    obtain rfl : acc = n := Option.some.inj h
    exact (List.append_nil _).symm
  | cons c rest ih =>
    obtain ⟨d, hd, hrest⟩ := Option.bind_eq_some_iff.1 h
    obtain ⟨hlt, rfl⟩ := digitValue?_eq_some_iff.1 hd
    rw [ih (by omega) hrest, decimal_mul_add hacc hlt, List.append_assoc, List.singleton_append]

/-- What is read as a number is its digits, behind any number of zeros. -/
theorem readNumber?_eq_some_iff {text : List Char} {n : Nat} :
    readNumber? 10 text = some n ↔ ∃ zeros, text = List.replicate zeros '0' ++ decimal n := by
  constructor
  · intro h
    induction text with
    | nil => cases h
    | cons c rest ih =>
      obtain ⟨d, hd, hrest⟩ := Option.bind_eq_some_iff.1 h
      obtain ⟨hlt, rfl⟩ := digitValue?_eq_some_iff.1 hd
      rw [Nat.zero_mul, Nat.zero_add] at hrest
      obtain rfl | hpos := Nat.eq_zero_or_pos d
      · cases rest with
        | nil =>
          obtain rfl : 0 = n := Option.some.inj hrest
          exact ⟨0, (decimal_of_lt hlt).symm⟩
        | cons next more =>
          obtain ⟨zeros, hzeros⟩ := ih hrest
          exact ⟨zeros + 1, by rw [hzeros]; rfl⟩
      · exact ⟨0, by rw [decimal_of_readDigits hpos hrest, decimal_of_lt hlt]; rfl⟩
  · rintro ⟨zeros, rfl⟩
    have hread := (readDigits_zeros zeros (decimal n)).trans (readDigits_decimal n)
    unfold readNumber?
    split
    · next hnil => exact absurd (List.append_eq_nil_iff.1 hnil).2 (decimal_ne_nil n)
    · exact hread

/-- The digits of a number, with zeros and perhaps a plus sign before them. -/
def padded (plus : Bool) (zeros n : Nat) : List Char :=
  (if plus then ['+'] else []) ++ (List.replicate zeros '0' ++ decimal n)

/-- No number has a plus sign among its digits. -/
theorem plus_not_mem_decimal (n : Nat) : '+' ∉ decimal n := by
  intro h
  obtain ⟨d, hd, hplus⟩ := mem_decimal h
  have hall : ∀ d : Fin 10, '+' ≠ lowerDigit d := by decide
  exact hall ⟨d, hd⟩ hplus

/-- A plus sign and zeros before the digits of a number make another text of it. -/
theorem padded_eq_decimal_iff {plus : Bool} {zeros m n : Nat} :
    padded plus zeros m = decimal n ↔ plus = false ∧ zeros = 0 ∧ m = n := by
  constructor
  · intro h
    cases plus with
    | true =>
      have hplus : '+' ∈ decimal n := h ▸ List.mem_cons_self
      exact absurd hplus (plus_not_mem_decimal n)
    | false =>
      change List.replicate zeros '0' ++ decimal m = decimal n at h
      have hread := readNumber?_decimal n
      rw [← h, readNumber?_eq_some_iff.2 ⟨zeros, rfl⟩] at hread
      obtain rfl := Option.some.inj hread
      have hlength := congrArg List.length h
      rw [List.length_append, List.length_replicate] at hlength
      exact ⟨rfl, by omega, rfl⟩
  · rintro ⟨rfl, rfl, rfl⟩
    rfl

/-- What is read as an unsigned number is its digits, perhaps with zeros and a plus sign before
them. -/
theorem readUnsigned?_eq_some_iff {bound n : Nat} {text : List Char} :
    readUnsigned? bound text = some n ↔ n < bound ∧ ∃ plus zeros, text = padded plus zeros n := by
  have hdigits : ∀ digits : List Char,
      (readNumber? 10 digits).filter (· < bound) = some n ↔
        n < bound ∧ ∃ zeros, digits = List.replicate zeros '0' ++ decimal n := by
    intro digits
    rw [Option.filter_eq_some_iff, readNumber?_eq_some_iff, decide_eq_true_eq, and_comm]
  unfold readUnsigned?
  split
  · next rest =>
    rw [hdigits]
    refine and_congr_right fun _ => ⟨fun ⟨zeros, hrest⟩ => ⟨true, zeros, by rw [hrest]; rfl⟩, ?_⟩
    rintro ⟨plus, zeros, htext⟩
    cases plus with
    | true => exact ⟨zeros, (List.cons.inj htext).2⟩
    | false =>
      have hplus : '+' ∈ padded false zeros n := htext ▸ List.mem_cons_self
      rw [padded, if_neg Bool.false_ne_true, List.nil_append] at hplus
      rcases List.mem_append.1 hplus with hzero | hdigit
      · exact absurd (List.eq_of_mem_replicate hzero) (by decide)
      · exact absurd hdigit (plus_not_mem_decimal n)
  · next hplain =>
    rw [hdigits]
    refine and_congr_right fun _ => ⟨fun ⟨zeros, htext⟩ => ⟨false, zeros, htext⟩, ?_⟩
    rintro ⟨plus, zeros, rfl⟩
    cases plus with
    | true => exact absurd rfl (hplain _)
    | false => exact ⟨zeros, rfl⟩

/-! ## Hexadecimal digits -/

/-- A hexadecimal digit has the value that it was made from. -/
theorem digitValue?_upperDigit {n : Nat} (h : n < 16) :
    digitValue? 16 (upperDigit n) = some n := by
  have hall : ∀ d : Fin 16, digitValue? 16 (upperDigit d) = some (d : Nat) := by decide
  exact hall ⟨n, h⟩

end LinkBus.Text
