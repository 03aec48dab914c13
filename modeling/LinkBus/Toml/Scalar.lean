import LinkBus.Toml.Node

/-!
# Numbers, dates and truth values in TOML

A scalar without quotes is recognised from its whole text. Underscores stand between digits only.
Integers have a prefix for their base or no leading zero and fit into 128 bits; a float needs a
fraction, an exponent or a name and must not be too large; dates and times must exist.
-/

namespace LinkBus.Toml

/-- Whether a character is a decimal digit. -/
def isDigit (c : Char) : Bool := (Text.digitValue? 10 c).isSome

/-- Removes underscores that stand between two digits of a base; `none` if there are others or no
digit at all. -/
def plainDigits? (base : Nat) : List Char → Option (List Char)
  | [] => none
  | [c] => if (Text.digitValue? base c).isSome then some [c] else none
  | c :: '_' :: rest =>
    if (Text.digitValue? base c).isSome then (plainDigits? base rest).map (c :: ·) else none
  | c :: rest =>
    if (Text.digitValue? base c).isSome then (plainDigits? base rest).map (c :: ·) else none

/-- The value of digits of a base. -/
def digits? (base : Nat) (text : List Char) : Option Nat :=
  (plainDigits? base text).bind (Text.readNumber? base)

/-- Splits a sign off a text. -/
def splitSign : List Char → Bool × List Char
  | '-' :: rest => (true, rest)
  | '+' :: rest => (false, rest)
  | text => (false, text)

/-- Decimal digits without a leading zero. -/
def wholePart? (text : List Char) : Option (List Char) :=
  (plainDigits? 10 text).filter fun ds => ds.length = 1 || ds.head? != some '0'

/-- The integer that a text denotes, of any size. -/
def integer? : List Char → Option Int
  | '0' :: 'x' :: rest => (digits? 16 rest).map Int.ofNat
  | '0' :: 'o' :: rest => (digits? 8 rest).map Int.ofNat
  | '0' :: 'b' :: rest => (digits? 2 rest).map Int.ofNat
  | text =>
    let (negative, rest) := splitSign text
    ((wholePart? rest).bind (Text.readNumber? 10)).map fun n => if negative then -n else n

/-- Whether an integer has a place among the words of up to 128 bits. -/
def fitsWord (n : Int) : Bool := -Int.pow 2 127 ≤ n && n < Int.pow 2 128

/-- From this value on a number is infinite as a float: halfway past the greatest float. -/
def floatBound : Nat := Nat.pow 2 1024 - Nat.pow 2 970

/-- Whether digits times a power of ten are below the range where floats end. -/
def isFinite (mantissa : Nat) (exponent : Int) : Bool :=
  if mantissa = 0 then true
  else
    let size := (Text.decimal mantissa).length + exponent
    if size < 300 then true
    else if 320 < size then false
    else if exponent < 0 then mantissa < floatBound * Nat.pow 10 exponent.natAbs
    else mantissa * Nat.pow 10 exponent.natAbs < floatBound

/-- The exponent that stands after a mantissa; `none` if it is malformed. -/
def exponent? : List Char → Option Int
  | [] => some 0
  | e :: rest =>
    if e = 'e' ∨ e = 'E' then
      let (negative, ds) := splitSign rest
      (digits? 10 ds).map fun n => if negative then -(n : Int) else n
    else none

/-- The digits of a fraction and the text after them; `none` if there is a point without digits. -/
def fraction? : List Char → Option (List Char × List Char)
  | '.' :: rest =>
    let ds := rest.takeWhile fun c => isDigit c || c = '_'
    (plainDigits? 10 ds).map (·, rest.drop ds.length)
  | text => some ([], text)

/-- Whether a text denotes a float that is not too large. -/
def isFloat (text : List Char) : Bool :=
  let (_, rest) := splitSign text
  if rest = "inf".toList ∨ rest = "nan".toList then true
  else
    let whole := rest.takeWhile fun c => isDigit c || c = '_'
    let after := rest.drop whole.length
    if after.isEmpty then false
    else
      match wholePart? whole, fraction? after with
      | some ds, some (fs, after) =>
        match exponent? after, Text.readNumber? 10 (ds ++ fs) with
        | some e, some m => isFinite m (e - fs.length)
        | _, _ => false
      | _, _ => false

/-- A number of exactly `count` digits and the text after it. -/
def fixedDigits? (count : Nat) (text : List Char) : Option (Nat × List Char) :=
  let ds := text.take count
  if ds.length = count ∧ ds.all isDigit then
    (Text.readNumber? 10 ds).map (·, text.drop count)
  else none

/-- The text after a character that must be there. -/
def after? (p : Char → Bool) : List Char → Option (List Char)
  | c :: rest => if p c then some rest else none
  | [] => none

/-- The number of days of a month. -/
def daysIn (year month : Nat) : Nat :=
  if month = 2 then
    if year % 4 = 0 ∧ (year % 100 ≠ 0 ∨ year % 400 = 0) then 29 else 28
  else if [4, 6, 9, 11].contains month then 30
  else 31

/-- The text after a date that exists. -/
def date? (text : List Char) : Option (List Char) := do
  let (year, text) ← fixedDigits? 4 text
  let (month, text) ← after? (· = '-') text >>= fixedDigits? 2
  let (day, text) ← after? (· = '-') text >>= fixedDigits? 2
  if 1 ≤ month ∧ month ≤ 12 ∧ 1 ≤ day ∧ day ≤ daysIn year month then some text else none

/-- The text after the fraction of a second, which may be missing. -/
def secondFraction? (text : List Char) : Option (List Char) :=
  match text with
  | '.' :: rest =>
    let ds := rest.takeWhile isDigit
    if ds.isEmpty then none else some (rest.drop ds.length)
  | _ => some text

/-- The text after a time of day that exists. Its seconds may be missing. -/
def time? (text : List Char) : Option (List Char) := do
  let (hour, text) ← fixedDigits? 2 text
  let (minute, text) ← after? (· = ':') text >>= fixedDigits? 2
  if 23 < hour ∨ 59 < minute then none
  match text with
  | ':' :: rest =>
    let (second, rest) ← fixedDigits? 2 rest
    if second ≤ 60 then secondFraction? rest else none
  | _ => some text

/-- Whether a text is empty or an offset from universal time. -/
def isOffset (text : List Char) : Bool :=
  match text with
  | [] => true
  | c :: rest =>
    if c = 'Z' ∨ c = 'z' then rest.isEmpty
    else if c = '+' ∨ c = '-' then
      match fixedDigits? 2 rest with
      | some (hour, rest) =>
        match after? (· = ':') rest >>= fixedDigits? 2 with
        | some (minute, rest) => rest.isEmpty && hour ≤ 23 && minute ≤ 59
        | none => false
      | none => false
    else false

/-- Whether a text denotes a date, a time, or both. -/
def isDateTime (text : List Char) : Bool :=
  match date? text with
  | some [] => true
  | some (c :: rest) =>
    (c = 'T' || c = 't' || c = ' ') && (time? rest).any isOffset
  | none => (time? text).any List.isEmpty

/-- The value of a scalar without quotes. -/
def scalar? (text : List Char) : Option Node :=
  if text = "true".toList then some (.boolean true)
  else if text = "false".toList then some (.boolean false)
  else
    match integer? text with
    | some n => if fitsWord n then some (.integer n) else none
    | none =>
      if isFloat text then some .float
      else if isDateTime text then some .dateTime
      else none

end LinkBus.Toml
