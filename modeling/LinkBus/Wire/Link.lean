import LinkBus.Event
import LinkBus.Wire.Attribute

/-!
# Link messages

A header of 16 bytes (family, hardware type, index, flags, change mask) and attributes. Every
attribute of a known type has to be well-formed, also where nothing is taken from it; attributes of
other types are skipped. Of repeated attributes the last one counts.
-/

namespace LinkBus.Wire

/-- The hardware types that have a meaning, as ranges. -/
def hardwareTypes : List (Nat × Nat) :=
  [(0, 8), (15, 15), (19, 19), (23, 24), (27, 27), (32, 32), (256, 260), (264, 264), (270, 272),
   (280, 280), (512, 513), (516, 519), (768, 787), (800, 805), (820, 826), (65534, 65535)]

/-- The hardware type of a number on the wire. One without a meaning reads as 65535. -/
def hardwareType (n : Nat) : UInt16 :=
  if hardwareTypes.any fun r => decide (r.1 ≤ n ∧ n ≤ r.2) then UInt16.ofNat n else 65535

/-- What one attribute says about a link. -/
inductive LinkPart
  | name (name : String)
  | hwAddress (bytes : List UInt8)
  | mtu (mtu : UInt32)
  | oper (state : OperState)
  | carrier (present : Bool)
  | info (kind : Option String)
  | other
  deriving DecidableEq, Repr

/-- Reads the attributes that describe the kind of a link. The arguments are the kind read so far
and the kind of membership that waits for its data. Data of a kind needs the kind before it, and
each kind of membership takes data once. The result is the first kind. -/
def readKind? (kind membership : Option String) : List Attribute → Option (Option String)
  | [] => some kind
  | a :: rest =>
    match a.type with
    | 1 => do
      let k ← a.text?
      readKind? (kind.or (some k)) membership rest
    | 2 | 3 => if kind.isSome then readKind? kind membership rest else none
    | 4 => do
      let k ← a.text?
      readKind? kind (some k) rest
    | 5 => if membership.isSome then readKind? kind none rest else none
    | _ => readKind? kind membership rest

/-- Reads the description of a link's kind, which holds at least one attribute. -/
def linkKind? (value : List UInt8) : Option (Option String) := do
  let attributes ← Attribute.readAll? value
  if attributes.isEmpty then none else readKind? none none attributes

/-- The attribute types that hold a 32-bit word nothing is taken from. -/
def linkWords : List Nat :=
  [5, 10, 13, 19, 21, 27, 30, 31, 32, 35, 40, 41, 47, 48, 50, 51]

/-- What an attribute says about a link; `none` if its value is malformed. -/
def LinkPart.ofAttribute? (a : Attribute) : Option LinkPart :=
  match a.type with
  | 1 => some (.hwAddress a.value)
  | 3 => a.text?.map .name
  | 4 => a.word?.map .mtu
  | 16 => (a.number? 1).map fun n => .oper (OperState.ofWire n)
  | 18 => (linkKind? a.value).map .info
  | 33 => (a.number? 1).map fun n => .carrier (n != 0)
  | 6 | 20 | 38 => a.text?.map fun _ => .other
  | 17 | 39 => (a.number? 1).map fun _ => .other
  | type => if linkWords.contains type then a.word?.map fun _ => .other else some .other

/-- The event that a header and the parts of its attributes describe. -/
def linkReport (payload : List UInt8) (parts : List LinkPart) : LinkReport :=
  { index := UInt32.ofNat (field payload 4 4)
    layerType := hardwareType (field payload 2 2)
    flags := UInt32.ofNat (field payload 8 4)
    changeMask := UInt32.ofNat (field payload 12 4)
    name := lastSome (fun | .name n => some n | _ => none) parts
    hwAddress := lastSome (fun | .hwAddress b => some b | _ => none) parts
    mtu := lastSome (fun | .mtu n => some n | _ => none) parts
    oper := lastSome (fun | .oper s => some s | _ => none) parts
    carrier := lastSome (fun | .carrier c => some c | _ => none) parts
    kind := (lastSome (fun | .info k => some k | _ => none) parts).join }

/-- Reads a link message; `none` if it is malformed. -/
def readLink? (payload : List UInt8) : Option LinkReport := do
  if payload.length < 16 then none
  let attributes ← Attribute.readAll? (payload.drop 16)
  let parts ← attributes.mapM LinkPart.ofAttribute?
  return linkReport payload parts

end LinkBus.Wire
