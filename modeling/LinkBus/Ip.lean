import LinkBus.Table
import LinkBus.Text.Digits

/-!
# IP addresses and their text

An address is a word of 32 or 128 bits. Its text follows RFC 5952: IPv4 as four decimal numbers,
IPv6 in lower-case groups with the longest run of at least two zero groups written `::` (the first
of several longest), and IPv4-mapped IPv6 addresses with a dotted end.
-/

namespace LinkBus

/-- The address family of an address, a route or a configuration. -/
inductive Family
  | v4
  | v6
  deriving DecidableEq, Repr

/-- An IPv4 or IPv6 address. -/
inductive Ip
  | v4 (bits : BitVec 32)
  | v6 (bits : BitVec 128)
  deriving DecidableEq, Repr

/-- The number whose base-256 digits are the given bytes, the first one the most significant. -/
def bigEndian (bytes : List UInt8) : Nat := bytes.foldl (fun acc b => acc * 256 + b.toNat) 0

/-- The number whose base-256 digits are the given bytes, the first one the least significant. -/
def littleEndian : List UInt8 → Nat
  | [] => 0
  | b :: rest => b.toNat + 256 * littleEndian rest

namespace Family

/-- The place of a family in key order: IPv4 comes first. -/
def code : Family → Nat
  | v4 => 0
  | v6 => 1

/-- Families are told apart by their place. -/
theorem code_injective {a b : Family} (h : a.code = b.code) : a = b := by
  cases a <;> cases b <;> simp_all [code]

/-- The name under which records show a family. -/
def name : Family → String
  | v4 => "V4"
  | v6 => "V6"

end Family

namespace Ip

/-- The family of an address. -/
def family : Ip → Family
  | v4 _ => .v4
  | v6 _ => .v6

/-- The bytes of an address, the most significant one first. -/
def octets : Ip → List UInt8
  | v4 bits => (List.range 4).map fun i => UInt8.ofNat (bits.toNat >>> (8 * (3 - i)))
  | v6 bits => (List.range 16).map fun i => UInt8.ofNat (bits.toNat >>> (8 * (15 - i)))

/-- The address of four or sixteen bytes. -/
def ofOctets? (bytes : List UInt8) : Option Ip :=
  if bytes.length = 4 then some (v4 (BitVec.ofNat 32 (bigEndian bytes)))
  else if bytes.length = 16 then some (v6 (BitVec.ofNat 128 (bigEndian bytes)))
  else none

/-- The place of an address in key order: IPv4 before IPv6, then by value. -/
def code : Ip → List Nat
  | v4 bits => [0, bits.toNat]
  | v6 bits => [1, bits.toNat]

/-- Addresses are told apart by their place. -/
theorem code_injective {a b : Ip} (h : a.code = b.code) : a = b := by
  cases a <;> cases b <;> simp [code, BitVec.toNat_inj] at h <;> simp [h]

/-- The eight 16-bit groups of an IPv6 address. -/
def groups (bits : BitVec 128) : List Nat :=
  (List.range 8).map fun i => bits.toNat >>> (16 * (7 - i)) % 0x10000

/-- Four decimal numbers joined by dots. -/
def dotted (n : Nat) : List Char :=
  let part (i : Nat) := Text.decimal (n >>> (8 * (3 - i)) % 256)
  List.intercalate ['.'] ((List.range 4).map part)

/-- The number of zero groups that a list begins with. -/
def zeroRun (gs : List Nat) : Nat := (gs.takeWhile (· = 0)).length

/-- The position and length of the longest run of zero groups, the first one of several; the
arguments are the position reached and the best run before it. -/
def longestZeroRun : Nat → Nat × Nat → List Nat → Nat × Nat
  | _, best, [] => best
  | i, best, g :: gs =>
    let run := zeroRun (g :: gs)
    longestZeroRun (i + 1) (if best.2 < run then (i, run) else best) gs

/-- Groups in hexadecimal, joined by colons. -/
def joinGroups (gs : List Nat) : List Char := List.intercalate [':'] (gs.map Text.hex)

/-- The text of an address. -/
def chars : Ip → List Char
  | v4 bits => dotted bits.toNat
  | v6 bits =>
    if bits.toNat >>> 32 = 0xffff then "::ffff:".toList ++ dotted (bits.toNat % UInt32.size)
    else
      let gs := groups bits
      let (start, length) := longestZeroRun 0 (0, 0) gs
      if length < 2 then joinGroups gs
      else joinGroups (gs.take start) ++ [':', ':'] ++ joinGroups (gs.drop (start + length))

/-- The text of an address. -/
def text (ip : Ip) : String := String.ofList ip.chars

end Ip

/-- Addresses are ordered by family, then by value. -/
instance : Key Ip where
  code := Ip.code
  code_injective _ _ := Ip.code_injective

end LinkBus
