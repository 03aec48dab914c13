import LinkBus.Netlink.Exchange

/-!
# Closing down

At the end of the service no more changes are taken, and what is under way gets some time to end:
somebody waits until the socket is free, up to a time limit.

The socket is given in the order in which it was asked for, and whoever asks for it does so at once.
So it is the turn of a call when no call before it is under way any more, and the turn of the wait
when this holds of all calls that began before it. Calls that begin later come after the wait. When
the wait has its turn, it is over, and the socket is free again.
-/

namespace LinkBus.Netlink

/-- Whether none of the calls before a place is under way. -/
def Exchange.isClear (e : Exchange) (place : Nat) : Bool :=
  (e.calls.take place).all fun call => !call.isUnderWay

/-- How far the wait for a free socket is. -/
inductive Drain
  /-- Nobody waits. -/
  | idle
  /-- Somebody waits, after the calls before a place. -/
  | waiting (place : Nat)
  /-- The wait is over: the socket was free in time, or it was not. -/
  | ended (free : Bool)
  deriving DecidableEq, Repr

/-- Whether a call has to wait because somebody waits before it. -/
def Drain.holdsUp (drain : Drain) (c : Nat) : Bool :=
  match drain with
  | waiting place => place ≤ c
  | _ => false

/-- The calls, and the wait for a free socket. -/
structure Closing where
  /-- The calls and the socket that they share. -/
  exchange : Exchange := {}
  /-- How far the wait is. -/
  drain : Drain := .idle

/-- One thing that happens while calls and a wait take turns. -/
inductive Turn
  /-- A move of the calls. -/
  | move (m : Move)
  /-- Somebody begins to wait. -/
  | drain
  /-- Whoever waits is given the socket. -/
  | free
  /-- The time limit of the wait is over. -/
  | limit

namespace Closing

/-- Whether a move keeps the order in which the socket was asked for. -/
def inOrder (s : Closing) : Move → Bool
  | .take c => s.exchange.isClear c && !s.drain.holdsUp c
  | _ => true

/-- What follows a turn, if the turn is possible. When its time limit is over, a wait that has its
turn still counts as in time. -/
def step? (s : Closing) : Turn → Option Closing
  | .move m =>
    if s.inOrder m then (s.exchange.step? m).map fun exchange => { s with exchange } else none
  | .drain =>
    match s.drain with
    | .waiting _ => none
    | _ => some { s with drain := .waiting s.exchange.calls.length }
  | .free =>
    match s.drain with
    | .waiting place =>
      if s.exchange.isClear place then some { s with drain := .ended true } else none
    | _ => none
  | .limit =>
    match s.drain with
    | .waiting place => some { s with drain := .ended (s.exchange.isClear place) }
    | _ => none

/-- What follows turns, if they are possible one after the other. -/
def run? (s : Closing) (turns : List Turn) : Option Closing := turns.foldlM step? s

end Closing

end LinkBus.Netlink
