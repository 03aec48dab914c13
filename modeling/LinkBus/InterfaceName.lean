import LinkBus.Failure
import LinkBus.Text.CharLiteral

/-!
# Interface names given by clients

A name that the kernel could have: one to 15 bytes, not one of the two directory names, and only
visible ASCII characters other than slash and colon.
-/

namespace LinkBus

/-- Why a text cannot be the name of an interface. -/
inductive NameFault
  | empty
  | tooLong
  | directory (name : String)
  | character (name : String) (c : Char)
  deriving DecidableEq, Repr

/-- The greatest length of an interface name in bytes. -/
def maxNameLength : Nat := 15

/-- The wording of a fault in a name. -/
def NameFault.message : NameFault → String
  | empty => "Interface name cannot be empty"
  | tooLong => s!"Interface name too long (max {maxNameLength} characters)"
  | directory name => "Invalid interface name '" ++ name ++ "'"
  | character name c =>
    "Invalid interface name '" ++ name ++ "': contains invalid character " ++ Text.charLiteral c

/-- Whether a character may stand in an interface name. -/
def isNameChar (c : Char) : Bool := '!' ≤ c && c ≤ '~' && c ≠ '/' && c ≠ ':'

/-- Checks a name. Of several faults the first one in this order is reported. -/
def checkInterfaceName (name : String) : Except NameFault Unit :=
  if name.isEmpty then .error .empty
  else if maxNameLength < name.utf8ByteSize then .error .tooLong
  else if name = "." ∨ name = ".." then .error (.directory name)
  else
    match name.toList.find? fun c => !isNameChar c with
    | some c => .error (.character name c)
    | none => .ok ()

/-- Checks a name that a client gave. -/
def acceptInterfaceName (name : String) : Except Failure Unit :=
  (checkInterfaceName name).mapError fun fault => .invalidParameter fault.message

end LinkBus
