import LinkBus.Netlink.Kernel
import LinkBus.Wire.Frame

/-!
# Waiting for the answer to a request

A request carries a sequence number, and only frames with its number answer it. A dump is answered
by events and a last frame that ends them, a change by an acknowledgment; an error acknowledgment
ends either. What is received and does not answer the request is thrown away, with it all that
follows the answer in its datagram.
-/

namespace LinkBus.Netlink

open Wire

/-- Where waiting stands after a frame. -/
inductive Waiting (σ α : Type)
  | more (state : σ)
  | answered (result : Except Failure α)

/-- What a frame means to a dump that has gathered some events. -/
def dumpFrame (seq : UInt32) (events : List Event) : Frame → Waiting (List Event) (List Event)
  | .event s event => .more (if s = seq then events ++ [event] else events)
  | .done s => if s = seq then .answered (.ok events) else .more events
  | .ack s (some errno) => if s = seq then .answered (.error (.rejected errno)) else .more events
  | _ => .more events

/-- What a frame means to a change. -/
def ackFrame (seq : UInt32) (_ : Unit) : Frame → Waiting Unit Unit
  | .ack s none => if s = seq then .answered (.ok ()) else .more ()
  | .ack s (some errno) => if s = seq then .answered (.error (.rejected errno)) else .more ()
  | _ => .more ()

/-- Goes through the frames of a datagram up to an answer. Malformed frames are skipped. -/
def scan {σ α : Type} (step : σ → Frame → Waiting σ α) :
    σ → List (Except Malformed Frame) → Waiting σ α
  | state, [] => .more state
  | state, .error _ :: rest => scan step state rest
  | state, .ok frame :: rest =>
    match step state frame with
    | .more state => scan step state rest
    | .answered result => .answered result

/-- How many bytes of a datagram are received. There is always some room. -/
def room (bufferSize : UInt64) : Nat := if bufferSize = 0 then 64 else bufferSize.toNat

/-- Receives until there is an answer, which is missing if nothing is left to receive, and tells
what is left. -/
def await {σ α : Type} (size : Nat) (step : σ → Frame → Waiting σ α) :
    σ → List Receipt → Option (Except Failure α) × List Receipt
  | _, [] => (none, [])
  | _, .fault errno :: rest => (some (.error (.io (.errno errno))), rest)
  | state, .datagram bytes :: rest =>
    match scan step state (readFrames (bytes.take size)) with
    | .more state => await size step state rest
    | .answered result => (some result, rest)

end LinkBus.Netlink
