import LinkBus.Ip

/-!
# Reading IP addresses

The whole text must be an address. IPv4 numbers have one to three digits, no leading zero and are
at most 255. IPv6 groups have one to four digits; `::` stands for at least one group of zeros, and
the last two groups may be written as an IPv4 address.

Readers return what they read together with the text that follows.
-/

namespace LinkBus.Ip

/-- Reads a number of one to `most` digits; further digits after these are an error. -/
def readPart (base most : Nat) (leadingZeros : Bool) (text : List Char) :
    Option (Nat × List Char) :=
  let digits := text.takeWhile fun c => (Text.digitValue? base c).isSome
  if digits.length > most then none
  else if !leadingZeros && digits.head? = some '0' && digits.length > 1 then none
  else (Text.readNumber? base digits).map (·, text.drop digits.length)

/-- Reads one byte in decimal. -/
def readByte (text : List Char) : Option (Nat × List Char) :=
  (readPart 10 3 false text).filter (·.1 < 256)

/-- Reads one character that must be there. -/
def expect (c : Char) : List Char → Option (List Char)
  | d :: rest => if c = d then some rest else none
  | [] => none

/-- Reads four decimal bytes separated by dots. -/
def readDotted (text : List Char) : Option (Nat × List Char) := do
  let (a, text) ← readByte text
  let (b, text) ← expect '.' text >>= readByte
  let (c, text) ← expect '.' text >>= readByte
  let (d, text) ← expect '.' text >>= readByte
  pure (((a * 256 + b) * 256 + c) * 256 + d, text)

/-- What reading a row of groups gave: the groups, whether the last two came from a dotted end, and
the text that follows. -/
structure GroupRow where
  groups : List Nat
  dotted : Bool
  rest : List Char

/-- Reads at most `room` groups separated by colons. `first` says that no colon comes before the
next group. A dotted end needs room for two groups. -/
def readGroups : (room : Nat) → (first : Bool) → List Char → GroupRow
  | 0, _, text => ⟨[], false, text⟩
  | room + 1, first, text =>
    let next := if first then some text else expect ':' text
    match if room = 0 then none else next >>= readDotted with
    | some (n, rest) => ⟨[n / 0x10000, n % 0x10000], true, rest⟩
    | none =>
      match next >>= readPart 16 4 true with
      | none => ⟨[], false, text⟩
      | some (g, rest) =>
        let row := readGroups room false rest
        ⟨g :: row.groups, row.dotted, row.rest⟩

/-- The value of eight groups. -/
def ofGroups (gs : List Nat) : Nat := gs.foldl (fun acc g => acc * 0x10000 + g) 0

/-- Reads an IPv6 address. -/
def readV6 (text : List Char) : Option (Nat × List Char) := do
  let head := readGroups 8 true text
  if head.groups.length = 8 then
    return (ofGroups head.groups, head.rest)
  if head.dotted then none
  let rest ← expect ':' head.rest >>= expect ':'
  let tail := readGroups (7 - head.groups.length) true rest
  let zeros := List.replicate (8 - head.groups.length - tail.groups.length) 0
  return (ofGroups (head.groups ++ zeros ++ tail.groups), tail.rest)

/-- The address that a text denotes, if it denotes one. -/
def parse? (text : List Char) : Option Ip :=
  match readDotted text with
  | some (n, rest) => if rest.isEmpty then some (v4 (BitVec.ofNat 32 n)) else none
  | none =>
    match readV6 text with
    | some (n, rest) => if rest.isEmpty then some (v6 (BitVec.ofNat 128 n)) else none
    | none => none

end LinkBus.Ip
