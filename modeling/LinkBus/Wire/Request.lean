import LinkBus.Wire.Message

/-!
# Requests

The four messages that are sent to the kernel: three that ask for all links, addresses or routes,
and one that sets the administrative state of one link. In the last one the change mask names the
up flag alone, so no other flag of the link can change.
-/

namespace LinkBus.Wire

/-- What is asked of the kernel. -/
inductive Request
  | dumpLinks
  | dumpAddresses
  | dumpRoutes
  | setLink (index : UInt32) (up : Bool)
  deriving DecidableEq, Repr

/-- The flags of a request for all records: a request that is answered by a dump. -/
def dumpFlags : Nat := 0x301

/-- The flags of a request that changes something: a request that is acknowledged. -/
def ackFlags : Nat := 0x5

/-- A message: its header and its payload. -/
def envelope (type flags : Nat) (seq : UInt32) (payload : List UInt8) : List UInt8 :=
  leBytes 4 (headerLength + payload.length) ++ leBytes 2 type ++ leBytes 2 flags ++
    leBytes 4 seq.toNat ++ leBytes 4 0 ++ payload

/-- The header of a link message: index, flags and change mask. -/
def linkHeader (index : UInt32) (flags mask : Nat) : List UInt8 :=
  leBytes 4 0 ++ leBytes 4 index.toNat ++ leBytes 4 flags ++ leBytes 4 mask

/-- The bytes of a request with its sequence number. -/
def Request.toBytes (request : Request) (seq : UInt32) : List UInt8 :=
  match request with
  | .dumpLinks => envelope 18 dumpFlags seq (leBytes 16 0)
  | .dumpAddresses => envelope 22 dumpFlags seq (leBytes 8 0)
  | .dumpRoutes => envelope 26 dumpFlags seq (leBytes 12 0)
  | .setLink index up => envelope 19 ackFlags seq (linkHeader index (if up then 1 else 0) 1)

end LinkBus.Wire
