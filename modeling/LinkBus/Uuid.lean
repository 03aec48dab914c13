import LinkBus.Uuid.Sha1
import LinkBus.Text.Digits
import LinkBus.Text.Utf8

/-!
# Identifiers of connections

A connection is identified by the name of its interface, through a UUID of version 5: the SHA-1
digest of a fixed namespace and the name, with the version and the variant set.
-/

namespace LinkBus

/-- The namespace of connection identifiers. -/
def identifierNamespace : List UInt8 :=
  [0x6e, 0x6d, 0x73, 0x68, 0x69, 0x6d, 0x4c, 0x0a,
   0x8f, 0x3e, 0x1b, 0x2d, 0x9c, 0x47, 0xa5, 0xe1]

/-- The sixteen bytes of a UUID of version 5. -/
def uuidBytes (scope name : List UInt8) : List UInt8 :=
  let digest := (Sha1.hash (scope ++ name)).take 16
  digest.mapIdx fun i b =>
    if i = 6 then (b &&& 0x0f) ||| 0x50
    else if i = 8 then (b &&& 0x3f) ||| 0x80
    else b

/-- Sixteen bytes in the usual five groups of hexadecimal digits. -/
def uuidText (bytes : List UInt8) : String :=
  let digits (start count : Nat) := ((bytes.drop start).take count).flatMap Text.byteHex
  String.ofList (List.intercalate ['-']
    [digits 0 4, digits 4 2, digits 6 2, digits 8 2, digits 10 6])

/-- The identifier of the connection of an interface. -/
def connectionIdentifier (interface : String) : String :=
  uuidText (uuidBytes identifierNamespace (Text.utf8 interface))

end LinkBus
