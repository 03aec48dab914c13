import LinkBus.Errno

/-!
# Failures

Everything that can go wrong, with its wording, and the error that a bus client is answered with.
A refusal by the kernel for lack of privilege becomes an access error on the bus; faults of the
client's argument and missing objects have errors of their own; the rest is a general failure.
-/

namespace LinkBus

/-- The kinds of error that a bus client can be answered with. -/
inductive BusErrorKind
  | accessDenied
  | failed
  | invalidArgs
  | notSupported
  | signatureMismatch
  | timedOut
  | unknownInterface
  | unknownMethod
  | unknownObject
  | unknownProperty
  deriving DecidableEq, Repr

/-- The bus-wide name of an error kind. -/
def BusErrorKind.name : BusErrorKind → String
  | accessDenied => "org.freedesktop.DBus.Error.AccessDenied"
  | failed => "org.freedesktop.DBus.Error.Failed"
  | invalidArgs => "org.freedesktop.DBus.Error.InvalidArgs"
  | notSupported => "org.freedesktop.DBus.Error.NotSupported"
  | signatureMismatch => "org.freedesktop.zbus.Error"
  | timedOut => "org.freedesktop.DBus.Error.TimedOut"
  | unknownInterface => "org.freedesktop.DBus.Error.UnknownInterface"
  | unknownMethod => "org.freedesktop.DBus.Error.UnknownMethod"
  | unknownObject => "org.freedesktop.DBus.Error.UnknownObject"
  | unknownProperty => "org.freedesktop.DBus.Error.UnknownProperty"

/-- An error on the bus: its kind and a text for people. -/
structure BusError where
  kind : BusErrorKind
  text : String
  deriving DecidableEq, Repr

/-- What went wrong on a socket. -/
inductive IoFault
  | errno (errno : Int)
  | attemptsExhausted
  deriving DecidableEq, Repr

/-- The wording of a socket fault. -/
def IoFault.message : IoFault → String
  | errno n => osErrorText n
  | attemptsExhausted => "netlink resubscription attempts exhausted"

/-- What went wrong between this service and the bus. -/
inductive BusFault
  | unreachable
  | reply (error : BusError)
  | other (text : String)
  deriving DecidableEq, Repr

/-- The wording of a bus fault. -/
def BusFault.message : BusFault → String
  | unreachable => "no bus answers"
  | reply error => s!"{error.kind.name}: {error.text}"
  | other text => text

/-- Everything that can go wrong. -/
inductive Failure
  | malformed (detail : String)
  | rejected (errno : Int)
  | timeout (detail : String)
  | inconsistent (detail : String)
  | nameTaken (name : String)
  | io (fault : IoFault)
  | bus (fault : BusFault)
  | config (detail : String)
  | invalidParameter (detail : String)
  | notFound (detail : String)
  | shuttingDown
  deriving DecidableEq, Repr

namespace Failure

/-- The wording of a failure. -/
def message : Failure → String
  | malformed detail => s!"Malformed netlink message: {detail}"
  | rejected errno => s!"Request rejected by kernel (errno {errno}): {osErrorText errno}"
  | timeout detail => s!"Timeout: {detail}"
  | inconsistent detail => s!"Inconsistent state: {detail}"
  | nameTaken name => s!"Bus name {name} is already owned by another service"
  | io fault => s!"IO error: {fault.message}"
  | bus fault => s!"D-Bus error: {fault.message}"
  | config detail => s!"Configuration error: {detail}"
  | invalidParameter detail => s!"Invalid parameter: {detail}"
  | notFound detail => s!"Not found: {detail}"
  | shuttingDown => "Daemon is shutting down"

/-- Whether trying again may help: a socket fault or a missing answer. -/
def isTransient : Failure → Bool
  | io _ | timeout _ => true
  | _ => false

/-- Operation not permitted. -/
def eperm : Int := 1

/-- Permission denied. -/
def eacces : Int := 13

/-- The error that a bus client is answered with. -/
def toBusError (failure : Failure) : BusError :=
  match failure with
  | rejected errno =>
    ⟨if errno = eperm ∨ errno = eacces then .accessDenied else .failed, failure.message⟩
  | invalidParameter detail => ⟨.invalidArgs, detail⟩
  | notFound detail => ⟨.unknownObject, detail⟩
  | timeout detail => ⟨.timedOut, detail⟩
  | bus (.reply error) => error
  | _ => ⟨.failed, failure.message⟩

end Failure

end LinkBus
