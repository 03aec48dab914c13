import LinkBus.Property

/-!
# Values on the bus

Every value on the bus has a type, which is written as a signature. A list and a dictionary carry
the types of what they hold, so that an empty one has a type too.
-/

namespace LinkBus.Bus

/-- The types of values. -/
inductive ValueType
  | byte
  | flag
  | number
  | text
  | path
  | variant
  | list (item : ValueType)
  | dict (key value : ValueType)
  | pair (first second : ValueType)
  deriving DecidableEq, Repr

/-- How a type is written. -/
def ValueType.signature : ValueType → String
  | byte => "y"
  | flag => "b"
  | number => "u"
  | text => "s"
  | path => "o"
  | variant => "v"
  | list item => "a" ++ item.signature
  | dict key value => "a\x7b" ++ key.signature ++ value.signature ++ "\x7d"
  | pair first second => "(" ++ first.signature ++ second.signature ++ ")"

/-- A value. The keys of a dictionary are texts or paths. -/
inductive Value
  | byte (b : UInt8)
  | flag (b : Bool)
  | number (n : UInt32)
  | text (s : String)
  | path (p : String)
  | variant (v : Value)
  | list (item : ValueType) (items : List Value)
  | dict (key value : ValueType) (entries : List (String × Value))
  | pair (first second : Value)
  deriving Repr, Inhabited

namespace Value

/-- The type of a value. -/
def type : Value → ValueType
  | byte _ => .byte
  | flag _ => .flag
  | number _ => .number
  | text _ => .text
  | path _ => .path
  | variant _ => .variant
  | list item _ => .list item
  | dict key value _ => .dict key value
  | pair first second => .pair first.type second.type

/-- A list of paths. -/
def paths (ps : List String) : Value := list .path (ps.map path)

/-- A list of texts. -/
def texts (ss : List String) : Value := list .text (ss.map text)

/-- A dictionary from texts to values of any type. -/
def properties (entries : List (String × Value)) : Value :=
  dict .text .variant (entries.map fun e => (e.1, variant e.2))

/-- The type of such dictionaries. -/
def propertiesType : ValueType := .dict .text .variant

/-- The type of a dictionary of such dictionaries. -/
def sectionsType : ValueType := .dict .text propertiesType

/-- A dictionary of dictionaries of values of any type. -/
def sections (entries : List (String × List (String × Value))) : Value :=
  dict .text propertiesType (entries.map fun e => (e.1, properties e.2))

/-- Addresses with their prefix lengths. -/
def addressData (addresses : List (Ip × UInt8)) : Value :=
  list propertiesType (addresses.map fun a =>
    properties [("address", text a.1.text), ("prefix", number a.2.toUInt32)])

/-- An announced property as a value. -/
def ofProperty : AnnouncedValue → Value
  | .number n => number n
  | .flag b => flag b
  | .text s => text s
  | .path p => path p
  | .paths ps => paths ps
  | .addresses as => addressData as

end Value

/-- How the types of the arguments of a message are written. -/
def signature : List ValueType → String
  | [] => ""
  | [type] => type.signature
  | types => "(" ++ String.join (types.map ValueType.signature) ++ ")"

/-- The signature of the arguments of a message. -/
def bodySignature (body : List Value) : String := signature (body.map Value.type)

end LinkBus.Bus
