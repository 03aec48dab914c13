import LinkBus.Text.Digits

/-!
# The text of a duration

Whole and fractional seconds from one second on, otherwise milliseconds. A fraction has as many
digits as it needs.
-/

namespace LinkBus

/-- Drops the zeros at the end of some digits. -/
def dropTrailingZeros (digits : List Char) : List Char :=
  (digits.reverse.dropWhile (· = '0')).reverse

/-- The text of a duration given in milliseconds. -/
def durationText (ms : Nat) : String :=
  if ms = 0 then "0ns"
  else if ms < 1000 then s!"{ms}ms"
  else
    let part := ms % 1000
    let digits := dropTrailingZeros
      [Text.lowerDigit (part / 100), Text.lowerDigit (part / 10 % 10), Text.lowerDigit (part % 10)]
    if digits.isEmpty then s!"{ms / 1000}s"
    else s!"{ms / 1000}." ++ String.ofList digits ++ "s"

end LinkBus
