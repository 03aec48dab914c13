import LinkBus.Wire.Link
import LinkBus.Wire.Address
import LinkBus.Wire.Route

/-!
# Frames

A frame is what one message of a datagram means to the reader: an event, the end of a dump, an
acknowledgment, a report of lost messages, or nothing. A message whose payload cannot be read is a
fault of that message alone; a fault of the framing ends the datagram.
-/

namespace LinkBus.Wire

/-- What a message means. -/
inductive Frame
  | event (seq : UInt32) (event : Event)
  | done (seq : UInt32)
  | ack (seq : UInt32) (errno : Option Int)
  | overrun
  | ignored
  deriving DecidableEq, Repr

/-- Why some bytes are not a frame. -/
inductive Malformed
  | framing (fault : FramingFault)
  | payload (type : Nat)
  deriving DecidableEq, Repr

/-- The wording of a malformed frame. -/
def Malformed.message : Malformed → String
  | framing fault => fault.message
  | payload type => s!"type {type}"

/-- The signed number that a 32-bit word holds in two's complement. -/
def signed (n : Nat) : Int := (BitVec.ofNat 32 n).toInt

/-- The error number of an acknowledgment's code: none for zero, otherwise the code negated in two's
complement. -/
def ackErrno (code : BitVec 32) : Option Int := if code = 0 then none else some (-code).toInt

/-- The code in the payload of an error message, if it is long enough to hold one. -/
def Message.errorCode? (m : Message) : Option (BitVec 32) :=
  if m.type = 2 ∧ 4 ≤ m.payload.length then some (BitVec.ofNat 32 (field m.payload 0 4)) else none

/-- Reads the payload of a message; `none` if it is malformed. -/
def Frame.read? (m : Message) : Option Frame :=
  match m.type with
  | 2 => m.errorCode?.map fun code => .ack m.seq (ackErrno code)
  | 3 => if m.payload.isEmpty ∨ 4 ≤ m.payload.length then some (.done m.seq) else none
  | 4 => some .overrun
  | 16 => (readLink? m.payload).map fun l => .event m.seq (.newLink l)
  | 17 => (readLink? m.payload).map fun l => .event m.seq (.delLink l)
  | 20 => (readAddress? m.payload).map fun
    | some a => .event m.seq (.newAddress a)
    | none => .ignored
  | 21 => (readAddress? m.payload).map fun
    | some a => .event m.seq (.delAddress a)
    | none => .ignored
  | 24 => (readRoute? m.payload).map fun
    | some r => .event m.seq (.newRoute r)
    | none => .ignored
  | 25 => (readRoute? m.payload).map fun
    | some r => .event m.seq (.delRoute r)
    | none => .ignored
  | _ => some .ignored

/-- The frame of a message. -/
def Frame.ofMessage (m : Message) : Except Malformed Frame :=
  match Frame.read? m with
  | some frame => .ok frame
  | none => .error (.payload m.type)

/-- The frames of a datagram in order. A fault of the framing is the last item. -/
def readFrames (bytes : List UInt8) : List (Except Malformed Frame) :=
  let (ms, fault) := messages bytes
  ms.map Frame.ofMessage ++ fault.toList.map fun f => .error (.framing f)

/-- Whether the framing of a datagram is broken. -/
def framingFails (bytes : List UInt8) : Bool := (messages bytes).2.isSome

/-- The event of a frame. -/
def Frame.event? : Except Malformed Frame → Option Event
  | .ok (.event _ e) => some e
  | _ => none

/-- The events of a datagram in order. Messages that cannot be read are left out; a fault of the
framing is an error. -/
def readEvents (bytes : List UInt8) : Except Malformed (List Event) :=
  match (messages bytes).2 with
  | some fault => .error (.framing fault)
  | none => .ok ((readFrames bytes).filterMap Frame.event?)

end LinkBus.Wire
