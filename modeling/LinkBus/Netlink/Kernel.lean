import LinkBus.Failure

/-!
# A scripted kernel

The kernel as its clients meet it: it opens sockets or refuses to, takes requests or refuses them,
and answers a request with what will be received on the socket that sent it. What it does is given
by a script; what was asked of it is logged. Past the end of the script it grants everything and
answers nothing.
-/

namespace LinkBus.Netlink

/-- What one receive on a socket yields. -/
inductive Receipt
  | datagram (bytes : List UInt8)
  | fault (errno : Int)
  deriving DecidableEq, Repr

/-- How a request is met. -/
inductive Reply
  | queued (receipts : List Receipt)
  | refused (errno : Int)
  deriving DecidableEq, Repr

/-- The script that is left, and the log. A number other than zero in `opens` is a refusal. -/
structure Kernel where
  /-- How the next openings of sockets end: zero or an error number. -/
  opens : List Int := []
  /-- How the next requests are met. -/
  replies : List Reply := []
  /-- The groups of the sockets that were opened. -/
  opened : List UInt32 := []
  /-- The requests that were sent. -/
  sent : List (List UInt8) := []
  deriving DecidableEq, Repr

namespace Kernel

/-- Lengthens the script. -/
def supply (kernel : Kernel) (opens : List Int) (replies : List Reply) : Kernel :=
  { kernel with opens := kernel.opens ++ opens, replies := kernel.replies ++ replies }

/-- Opens a socket that listens to some multicast groups. -/
def openSocket (kernel : Kernel) (groups : UInt32) : Kernel × Except Failure Unit :=
  let errno := kernel.opens.headD 0
  let kernel := { kernel with opens := kernel.opens.tail }
  if errno = 0 then ({ kernel with opened := kernel.opened ++ [groups] }, .ok ())
  else (kernel, .error (.io (.errno errno)))

/-- Sends a request, and tells what will be received for it. -/
def send (kernel : Kernel) (request : List UInt8) : Kernel × Except Failure (List Receipt) :=
  let kernel' :=
    { kernel with replies := kernel.replies.tail, sent := kernel.sent ++ [request] }
  match kernel.replies.headD (.queued []) with
  | .queued receipts => (kernel', .ok receipts)
  | .refused errno => (kernel', .error (.io (.errno errno)))

end Kernel

end LinkBus.Netlink
