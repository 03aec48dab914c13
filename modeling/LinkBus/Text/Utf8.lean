/-!
# UTF-8

Strict reading of UTF-8: shortest forms only, no surrogates, nothing above U+10FFFF. Bytes that do
not follow these rules have no text.
-/

namespace LinkBus.Text

/-- The six low bits of a continuation byte. -/
def continuation? (b : UInt8) : Option Nat :=
  if 0x80 ≤ b.toNat ∧ b.toNat < 0xc0 then some (b.toNat - 0x80) else none

/-- The character of a code point that is at least `least` and no surrogate. -/
def scalar? (least n : Nat) : Option Char :=
  if h : n.isValidChar then
    if least ≤ n then some (Char.ofNatAux n h) else none
  else none

/-- Reads one character and returns it with the bytes that follow it. -/
def readChar? : List UInt8 → Option (Char × List UInt8)
  | [] => none
  | a :: rest =>
    let n := a.toNat
    if n < 0x80 then (scalar? 0 n).map (·, rest)
    else if n < 0xc0 then none
    else if n < 0xe0 then
      match rest with
      | b :: rest => do
        let y ← continuation? b
        (scalar? 0x80 ((n - 0xc0) * 64 + y)).map (·, rest)
      | _ => none
    else if n < 0xf0 then
      match rest with
      | b :: c :: rest => do
        let y ← continuation? b
        let z ← continuation? c
        (scalar? 0x800 (((n - 0xe0) * 64 + y) * 64 + z)).map (·, rest)
      | _ => none
    else if n < 0xf8 then
      match rest with
      | b :: c :: d :: rest => do
        let y ← continuation? b
        let z ← continuation? c
        let w ← continuation? d
        (scalar? 0x10000 ((((n - 0xf0) * 64 + y) * 64 + z) * 64 + w)).map (·, rest)
      | _ => none
    else none

/-- Reads characters while there are bytes; at most `fuel` of them. -/
def readChars? : Nat → List UInt8 → Option (List Char)
  | _, [] => some []
  | 0, _ :: _ => none
  | fuel + 1, bytes => (readChar? bytes).bind fun r => (readChars? fuel r.2).map (r.1 :: ·)

/-- The text of some bytes, if they are UTF-8. Every character takes at least one byte. -/
def decodeUtf8? (bytes : List UInt8) : Option (List Char) := readChars? bytes.length bytes

/-- The bytes of a text. -/
def utf8 (text : String) : List UInt8 := text.toUTF8.toList

end LinkBus.Text
