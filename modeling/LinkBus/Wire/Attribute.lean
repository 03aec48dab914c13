import LinkBus.Wire.Message
import LinkBus.Text.Utf8

/-!
# Attributes

The body of a message is a row of attributes: a length that counts its own four header bytes, a
type, and a value. The two top bits of the type are flags and do not belong to it. The next
attribute starts at the following multiple of four; after the last one the padding may be missing.
-/

namespace LinkBus.Wire

/-- A type and the bytes of a value. -/
structure Attribute where
  type : Nat
  value : List UInt8
  deriving DecidableEq, Repr

namespace Attribute

/-- Cuts the first attribute off some bytes; `none` if its length does not fit. -/
def cut? (bytes : List UInt8) : Option (Attribute × List UInt8) :=
  if bytes.length < 4 then none
  else
    let length := field bytes 0 2
    if length < 4 ∨ bytes.length < length then none
    else
      some (⟨field bytes 2 2 % 0x4000, (bytes.take length).drop 4⟩, bytes.drop (align length))

/-- Cutting an attribute off leaves fewer bytes. -/
theorem cut?_shorter {bytes rest : List UInt8} {a : Attribute} (h : cut? bytes = some (a, rest)) :
    rest.length < bytes.length := by
  unfold cut? at h
  split at h
  · cases h
  · simp only at h
    split at h
    · cases h
    · cases h
      simp only [align, List.length_drop]
      omega

/-- All attributes of some bytes; `none` if one of them does not fit. -/
def readAll? (bytes : List UInt8) : Option (List Attribute) :=
  if bytes.isEmpty then some []
  else
    match h : cut? bytes with
    | none => none
    | some (a, rest) =>
      have := cut?_shorter h
      (readAll? rest).map (a :: ·)
termination_by bytes.length

/-- The value as a number of exactly `count` bytes. -/
def number? (a : Attribute) (count : Nat) : Option Nat :=
  if a.value.length = count then some (littleEndian a.value) else none

/-- The value as a 32-bit word. -/
def word? (a : Attribute) : Option UInt32 := (a.number? 4).map UInt32.ofNat

/-- The value as a text. One trailing zero byte does not belong to it. -/
def text? (a : Attribute) : Option String :=
  let bytes := if a.value.getLast? = some 0 then a.value.dropLast else a.value
  (Text.decodeUtf8? bytes).map String.ofList

/-- The value as an address of four or sixteen bytes. -/
def ip? (a : Attribute) : Option Ip := Ip.ofOctets? a.value

end Attribute

/-- The last value that a reading finds in a list: later items take precedence. -/
def lastSome {α β : Type} (read : α → Option β) (items : List α) : Option β :=
  items.foldl (fun found item => (read item).or found) none

end LinkBus.Wire
