/-!
# Numbers in decimal and hexadecimal

Decimal text has no leading zero; reading accepts leading zeros and, where the caller asks for it,
a plus sign. Hexadecimal comes in both letter cases.
-/

namespace LinkBus.Text

/-- The digit of a value below sixteen, with lower-case letters. -/
def lowerDigit (n : Nat) : Char :=
  if n < 10 then Char.ofNat (48 + n) else Char.ofNat (87 + n)

/-- The digit of a value below sixteen, with upper-case letters. -/
def upperDigit (n : Nat) : Char :=
  if n < 10 then Char.ofNat (48 + n) else Char.ofNat (55 + n)

/-- The value of a hexadecimal digit of either case. -/
def hexValue? (c : Char) : Option Nat :=
  if '0' ≤ c ∧ c ≤ '9' then some (c.toNat - 48)
  else if 'a' ≤ c ∧ c ≤ 'f' then some (c.toNat - 87)
  else if 'A' ≤ c ∧ c ≤ 'F' then some (c.toNat - 55)
  else none

/-- The value of a digit in a base of at most sixteen. -/
def digitValue? (base : Nat) (c : Char) : Option Nat :=
  (hexValue? c).filter (· < base)

/-- The decimal digits of a number, without leading zeros. -/
def decimal (n : Nat) : List Char :=
  if n < 10 then [lowerDigit n] else decimal (n / 10) ++ [lowerDigit (n % 10)]
termination_by n

/-- The lower-case hexadecimal digits of a number, without leading zeros. -/
def hex (n : Nat) : List Char :=
  if n < 16 then [lowerDigit n] else hex (n / 16) ++ [lowerDigit (n % 16)]
termination_by n

/-- The two lower-case hexadecimal digits of a byte. -/
def byteHex (b : UInt8) : List Char :=
  [lowerDigit (b.toNat / 16), lowerDigit (b.toNat % 16)]

/-- The two upper-case hexadecimal digits of a byte. -/
def byteHexUpper (b : UInt8) : List Char :=
  [upperDigit (b.toNat / 16), upperDigit (b.toNat % 16)]

/-- Continues a number with further digits; `none` at a character that is no digit of the base. -/
def readDigits (base : Nat) : Nat → List Char → Option Nat
  | acc, [] => some acc
  | acc, c :: rest => (digitValue? base c).bind fun d => readDigits base (acc * base + d) rest

/-- Reads a number: at least one digit and nothing else. -/
def readNumber? (base : Nat) : List Char → Option Nat
  | [] => none
  | digits => readDigits base 0 digits

/-- Reads an unsigned decimal number below a bound. A plus sign may stand before the digits. -/
def readUnsigned? (bound : Nat) (text : List Char) : Option Nat :=
  let digits := match text with
    | '+' :: rest => rest
    | other => other
  (readNumber? 10 digits).filter (· < bound)

end LinkBus.Text
