import LinkBus.Netlink.Reader
import Mathlib.Algebra.Group.Nat.Defs

/-!
# Attempts after a loss

An attempt asks for a fresh socket, and for a dump once the socket is open. The delays between
attempts double up to the longest one, which gives the delay before each attempt in closed form.
-/

namespace LinkBus.Netlink

/-- The sockets that were opened through a client, and the requests that were sent. -/
def Client.logs (c : Client) : List UInt32 × List (List UInt8) := (c.kernel.opened, c.kernel.sent)

/-- A socket is opened and logged, or refused; opening one sends nothing. -/
theorem Kernel.openSocket_cases (kernel : Kernel) (groups : UInt32) :
    ((kernel.openSocket groups).2 = .ok () ∧
      (kernel.openSocket groups).1.opened = kernel.opened ++ [groups] ∧
      (kernel.openSocket groups).1.sent = kernel.sent) ∨
    ∃ failure, (kernel.openSocket groups).2 = .error failure ∧
      (kernel.openSocket groups).1.opened = kernel.opened ∧
      (kernel.openSocket groups).1.sent = kernel.sent := by
  simp only [openSocket]
  split
  · exact .inl ⟨rfl, rfl, rfl⟩
  · exact .inr ⟨_, rfl, rfl, rfl⟩

/-! ## One attempt -/

/-- An attempt: when it is made, and the client that makes it. -/
structure Attempt where
  time : Nat
  client : Client

namespace Attempt

/-- Whether the fresh socket is granted. -/
def opening (a : Attempt) : Except Failure Unit := (a.client.kernel.openSocket eventGroups).2

/-- The client once it has asked for the socket. -/
def opened (a : Attempt) : Client :=
  { a.client with kernel := (a.client.kernel.openSocket eventGroups).1 }

/-- How the dump ends. Without a socket none is asked for. -/
def answer? (a : Attempt) : Option (Timed (List Event)) :=
  match a.opening with
  | .ok _ => some a.opened.dump.2
  | .error _ => none

/-- The client when the attempt is over. -/
def after (a : Attempt) : Client :=
  match a.opening with
  | .ok _ => a.opened.dump.1
  | .error _ => a.opened

/-- When the attempt is over. -/
def ended (a : Attempt) : Nat := a.time + (a.answer?.map Timed.elapsed).getD 0

/-- The snapshot, if the socket was granted and the dump succeeded. -/
def snapshot? (a : Attempt) : Option (List Event) := a.answer?.bind (·.result.toOption)

/-- The failure of the dump that no further attempt would get past. -/
def refusal? (a : Attempt) : Option Failure :=
  match a.answer? with
  | some ⟨_, .error failure⟩ => if failure.isTransient then none else some failure
  | _ => none

/-- Whether another attempt may help. -/
def isVain (a : Attempt) : Bool := a.snapshot?.isNone && a.refusal?.isNone

/-- Nothing is sent before the socket is open: without one the attempt opens and sends nothing, and
with one the dump is that of a client that has sent nothing since. -/
inductive OpensFirst (a : Attempt) : Prop
  | refused {failure : Failure} (hopening : a.opening = .error failure)
      (hlogs : a.after.logs = a.client.logs)
  | granted (hopening : a.opening = .ok ())
      (hlogs : a.opened.logs = (a.client.kernel.opened ++ [eventGroups], a.client.kernel.sent))
      (hafter : a.after = a.opened.dump.1)

variable {a : Attempt}

/-- An attempt without a socket is in vain and over at once. -/
theorem of_opening_error {failure : Failure} (h : a.opening = .error failure) :
    a.isVain = true ∧ a.ended = a.time ∧ a.after = a.opened := by
  simp [isVain, snapshot?, refusal?, ended, after, answer?, h]

/-- An attempt with a socket lasts as long as its dump. -/
theorem of_opening_ok (h : a.opening = .ok ()) :
    a.answer? = some a.opened.dump.2 ∧ a.ended = a.time + a.opened.dump.2.elapsed ∧
      a.after = a.opened.dump.1 := by
  simp [ended, after, answer?, h]

/-- Every attempt asks for its socket first. -/
theorem opensFirst (a : Attempt) : a.OpensFirst := by
  rcases a.client.kernel.openSocket_cases eventGroups with
    ⟨hopening, hopened, hsent⟩ | ⟨failure, hopening, hopened, hsent⟩
  · exact .granted hopening (Prod.ext hopened hsent) (of_opening_ok hopening).2.2
  · refine .refused hopening ?_
    rw [(of_opening_error hopening).2.2]
    exact Prod.ext hopened hsent

/-- A dump that succeeds makes the attempt succeed. -/
theorem snapshot?_of_ok {answer : Timed (List Event)} {events : List Event}
    (h : a.answer? = some answer) (hresult : answer.result = .ok events) :
    a.snapshot? = some events := by
  simp [snapshot?, h, hresult, Except.toOption]

/-- A transient failure of the dump makes the attempt vain. -/
theorem isVain_of_transient {answer : Timed (List Event)} {failure : Failure}
    (h : a.answer? = some answer) (hresult : answer.result = .error failure)
    (htransient : failure.isTransient = true) : a.isVain = true := by
  obtain ⟨elapsed, result⟩ := answer
  obtain rfl : result = .error failure := hresult
  simp [isVain, snapshot?, refusal?, h, htransient, Except.toOption]

/-- Any other failure of the dump is a refusal. -/
theorem refusal?_of_not_transient {answer : Timed (List Event)} {failure : Failure}
    (h : a.answer? = some answer) (hresult : answer.result = .error failure)
    (htransient : ¬ failure.isTransient) : a.refusal? = some failure := by
  obtain ⟨elapsed, result⟩ := answer
  obtain rfl : result = .error failure := hresult
  simp [refusal?, h, htransient]

end Attempt

/-! ## Delays -/

/-- The delay before the attempt that comes after `k` others. -/
def pause (settings : NetlinkConfig) (k : Nat) : Nat :=
  min (settings.backoffInitial.toNat * 2 ^ k) settings.backoffMax.toNat

/-- The longest span, in whole milliseconds, whose seconds are a number of 64 bits. -/
def longestSpan : Nat := (2 ^ 64 - 1) * 1000 + 999

/-- The delays that are left after some attempts. -/
def delaysAfter (settings : NetlinkConfig) (k : Nat) : Delays :=
  ⟨pause settings k, settings.backoffMax.toNat⟩

/-- Each delay is the one before, doubled and capped. -/
theorem pause_succ (settings : NetlinkConfig) (k : Nat) :
    pause settings (k + 1) = min (2 * pause settings k) settings.backoffMax.toNat := by
  unfold pause
  rw [Nat.pow_succ, ← Nat.mul_assoc]
  omega

/-- Doubling the delay leaves those after one attempt more. -/
theorem next_delaysAfter (settings : NetlinkConfig) (k : Nat) :
    (delaysAfter settings k).next = delaysAfter settings (k + 1) := by
  rw [delaysAfter, Delays.next, delaysAfter, pause_succ]

/-- No delay exceeds the longest one. -/
theorem pause_le (settings : NetlinkConfig) (k : Nat) :
    pause settings k ≤ settings.backoffMax.toNat :=
  Nat.min_le_right ..

/-- The delays never decrease. -/
theorem pause_le_succ (settings : NetlinkConfig) (k : Nat) :
    pause settings k ≤ pause settings (k + 1) := by
  have := pause_le settings k
  rw [pause_succ]
  omega

/-- A delay can be doubled before it is capped. -/
theorem two_mul_pause_le (settings : NetlinkConfig) (k : Nat) :
    2 * pause settings k ≤ longestSpan := by
  have hpause := pause_le settings k
  have hword := settings.backoffMax.toNat_lt
  unfold longestSpan
  omega

/-- Settings that are accepted put their delays in order. -/
theorem backoffInitial_le_of_check {config : Config} (h : config.check = .ok ()) :
    config.netlink.backoffInitial ≤ config.netlink.backoffMax := by
  unfold Config.check at h
  grind

/-- Under settings that are accepted, the first delay needs no cap. -/
theorem delays_eq_delaysAfter {config : Config} (h : config.check = .ok ()) :
    Reader.delays config.netlink = delaysAfter config.netlink 0 := by
  have hle := UInt64.le_iff_toNat_le.1 (backoffInitial_le_of_check h)
  rw [Reader.delays, delaysAfter, pause, Nat.pow_zero, Nat.mul_one, Nat.min_eq_left hle]

end LinkBus.Netlink
