/-!
# SHA-1

The digest of FIPS 180-4 over lists of bytes: padding to blocks of 64 bytes, a schedule of eighty
words for each block, and eighty rounds on a state of five words.
-/

namespace LinkBus.Sha1

/-- The five words of the state. -/
structure Digest where
  a : UInt32
  b : UInt32
  c : UInt32
  d : UInt32
  e : UInt32
  deriving DecidableEq, Repr

/-- The state before the first block. -/
def start : Digest := ⟨0x67452301, 0xefcdab89, 0x98badcfe, 0x10325476, 0xc3d2e1f0⟩

/-- A word turned left by some bits. -/
def rotate (x : UInt32) (n : UInt32) : UInt32 := (x <<< n) ||| (x >>> (32 - n))

/-- The bytes of a number, the most significant one first. -/
def beBytes (count n : Nat) : List UInt8 :=
  (List.range count).map fun i => UInt8.ofNat (n >>> (8 * (count - 1 - i)))

/-- The message with a one bit, zeros and its length in bits, a multiple of 64 bytes long. -/
def pad (message : List UInt8) : List UInt8 :=
  let zeros := (119 - message.length % 64) % 64
  message ++ [0x80] ++ List.replicate zeros 0 ++ beBytes 8 (8 * message.length)

/-- The words of some bytes, four bytes to a word. -/
def words : List UInt8 → List UInt32
  | p :: q :: r :: s :: rest =>
    ((p.toUInt32 <<< 24) ||| (q.toUInt32 <<< 16) ||| (r.toUInt32 <<< 8) ||| s.toUInt32) ::
      words rest
  | _ => []

/-- Extends a schedule by `count` words. The list holds the words in reverse order. -/
def extend : (count : Nat) → List UInt32 → List UInt32
  | 0, w => w
  | count + 1, w =>
    let next := rotate (w.getD 2 0 ^^^ w.getD 7 0 ^^^ w.getD 13 0 ^^^ w.getD 15 0) 1
    extend count (next :: w)

/-- The eighty words of a block. -/
def schedule (block : List UInt32) : List UInt32 := (extend 64 block.reverse).reverse

/-- The function and the constant of a round. -/
def mixing (t : Nat) (b c d : UInt32) : UInt32 × UInt32 :=
  if t < 20 then ((b &&& c) ||| (~~~b &&& d), 0x5a827999)
  else if t < 40 then (b ^^^ c ^^^ d, 0x6ed9eba1)
  else if t < 60 then ((b &&& c) ||| (b &&& d) ||| (c &&& d), 0x8f1bbcdc)
  else (b ^^^ c ^^^ d, 0xca62c1d6)

/-- One round. -/
def round (s : Digest) (t : Nat) (w : UInt32) : Digest :=
  let (f, k) := mixing t s.b s.c s.d
  ⟨rotate s.a 5 + f + s.e + k + w, s.a, rotate s.b 30, s.c, s.d⟩

/-- The rounds from number `t` on, one for each word. -/
def rounds (s : Digest) : (t : Nat) → List UInt32 → Digest
  | _, [] => s
  | t, w :: ws => rounds (round s t w) (t + 1) ws

/-- Takes one block into the state. -/
def addBlock (s : Digest) (block : List UInt32) : Digest :=
  let r := rounds s 0 (schedule block)
  ⟨s.a + r.a, s.b + r.b, s.c + r.c, s.d + r.d, s.e + r.e⟩

/-- Takes `count` blocks of sixteen words into the state. -/
def addBlocks : (count : Nat) → Digest → List UInt32 → Digest
  | 0, s, _ => s
  | count + 1, s, ws => addBlocks count (addBlock s (ws.take 16)) (ws.drop 16)

/-- The twenty bytes of the digest of a message. -/
def hash (message : List UInt8) : List UInt8 :=
  let ws := words (pad message)
  let s := addBlocks (ws.length / 16) start ws
  [s.a, s.b, s.c, s.d, s.e].flatMap fun w => beBytes 4 w.toNat

end LinkBus.Sha1
