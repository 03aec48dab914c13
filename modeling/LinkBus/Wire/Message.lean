import LinkBus.Ip

/-!
# Messages in a datagram

A datagram is a row of messages. Each begins with a header of 16 bytes that holds its length, type,
flags, sequence number and sender, all little-endian, and the next one starts at the following
multiple of four bytes. A length that does not fit ends the reading with a fault.
-/

namespace LinkBus.Wire

/-- The length of a message header in bytes. -/
def headerLength : Nat := 16

/-- The number of bytes that a part of the given length takes, rounded up to a multiple of four. -/
def align (n : Nat) : Nat := (n + 3) / 4 * 4

/-- The bytes of a number, the least significant one first. -/
def leBytes : (count : Nat) → Nat → List UInt8
  | 0, _ => []
  | count + 1, n => UInt8.ofNat (n % 256) :: leBytes count (n / 256)

/-- The number held in `count` bytes at an offset. -/
def field (bytes : List UInt8) (offset count : Nat) : Nat :=
  littleEndian ((bytes.drop offset).take count)

/-- A message cut out of a datagram. -/
structure Message where
  type : Nat
  seq : UInt32
  payload : List UInt8
  deriving DecidableEq, Repr

/-- Why a datagram cannot be cut into messages any further. -/
inductive FramingFault
  | truncatedHeader (left : Nat)
  | belowHeader (length : Nat)
  | pastEnd (length left : Nat)
  deriving DecidableEq, Repr

/-- The wording of a framing fault. -/
def FramingFault.message : FramingFault → String
  | truncatedHeader left => s!"truncated header ({left} bytes)"
  | belowHeader length => s!"nlmsg_len {length} below header size"
  | pastEnd length left => s!"nlmsg_len {length} exceeds remaining {left} bytes"

/-- Cuts the first message off some bytes and returns it with the bytes that follow it. -/
def cut (bytes : List UInt8) : Except FramingFault (Message × List UInt8) :=
  if bytes.length < headerLength then .error (.truncatedHeader bytes.length)
  else
    let length := field bytes 0 4
    if length < headerLength then .error (.belowHeader length)
    else if bytes.length < length then .error (.pastEnd length bytes.length)
    else
      .ok ({ type := field bytes 4 2
             seq := UInt32.ofNat (field bytes 8 4)
             payload := (bytes.take length).drop headerLength },
        bytes.drop (align length))

/-- Cutting a message off leaves fewer bytes. -/
theorem cut_shorter {bytes rest : List UInt8} {m : Message} (h : cut bytes = .ok (m, rest)) :
    rest.length < bytes.length := by
  unfold cut at h
  split at h
  · cases h
  · simp only at h
    split at h
    · cases h
    · split at h
      · cases h
      · cases h
        simp only [headerLength, align, List.length_drop] at *
        omega

/-- The messages of a datagram in order, and the fault that ended them early, if any. -/
def messages (bytes : List UInt8) : List Message × Option FramingFault :=
  if bytes.isEmpty then ([], none)
  else
    match h : cut bytes with
    | .error fault => ([], some fault)
    | .ok (m, rest) =>
      have := cut_shorter h
      let (ms, fault) := messages rest
      (m :: ms, fault)
termination_by bytes.length

end LinkBus.Wire
