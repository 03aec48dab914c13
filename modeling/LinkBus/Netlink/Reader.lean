import LinkBus.Netlink.Client
import LinkBus.Network

/-!
# Reading events

The reader passes on the events of a multicast socket. When events were lost it opens a fresh
socket, dumps, and passes on the dump as a snapshot; failed attempts are repeated with growing
delays, a limited number of times.

Times are milliseconds. Each step of `Reader.step?` does the next thing that is due up to a given
time, and `Reader.run` does all of them. What arrives on the socket is received at once, and what is
passed on is taken at once. A reader that is told to stop receives nothing more, but a dump that it
has asked for is waited for and passed on.
-/

namespace LinkBus.Netlink

open Wire

/-- The multicast groups of links, addresses and routes. -/
def eventGroups : UInt32 := 1361

/-- What a receive on the multicast socket means. -/
inductive Reading
  | events (events : List Event)
  | lost
  deriving DecidableEq, Repr

/-- Whether a frame reports lost events. -/
def isOverrun : Except Malformed Frame → Bool
  | .ok .overrun => true
  | _ => false

/-- Reads a datagram. Frames that cannot be read are left out. -/
def Reading.ofDatagram (bytes : List UInt8) : Reading :=
  if (readFrames bytes).any isOverrun then .lost
  else .events ((readFrames bytes).filterMap Frame.event?)

/-- Reads what was received. A fault of the socket means that events were lost. -/
def Receipt.read (size : Nat) : Receipt → Reading
  | datagram bytes => Reading.ofDatagram (bytes.take size)
  | fault _ => .lost

/-- The delays between attempts: the next one, and the longest. -/
structure Delays where
  /-- The next delay. -/
  delay : Nat
  /-- No delay is longer. -/
  longest : Nat
  deriving DecidableEq, Repr

/-- The delays after the next one. A delay is twice the one before, up to the longest. -/
def Delays.next (b : Delays) : Delays := { b with delay := min (2 * b.delay) b.longest }

/-- What the reader is doing: reading, waiting to try again, waiting for a dump that will have some
result, or nothing any more. Where it may still try again, `left` says how often. -/
inductive Phase
  | reading
  | sleeping (wake left : Nat) (delays : Delays)
  | dumping (wake left : Nat) (delays : Delays) (result : Except Failure (List Event))
  | ended (at_ : Nat) (result : Except Failure Unit)

/-- The reader at one moment. -/
structure Reader where
  /-- The client that dumps. -/
  client : Client
  /-- The time up to which everything was done. -/
  now : Nat := 0
  /-- What the reader is doing. -/
  phase : Phase := .reading
  /-- What waits on the newest multicast socket. -/
  inbox : List Receipt := []
  /-- Whether the reader was told to stop. -/
  cancelled : Bool := false
  /-- Whether anyone takes what is passed on. -/
  listening : Bool := true
  /-- What was passed on, and when. -/
  passed : List (Nat × Message) := []

namespace Reader

/-- Ends reading. -/
def finish (r : Reader) (result : Except Failure Unit) : Reader :=
  { r with phase := .ended r.now result }

/-- Passes on a message; without a listener it ends reading. -/
def pass (r : Reader) (message : Message) : Reader :=
  if r.listening then { r with phase := .reading, passed := r.passed ++ [(r.now, message)] }
  else r.finish (.ok ())

/-- Goes on at some time. The client waits until then. -/
def advance (r : Reader) (time : Nat) : Reader :=
  if r.now < time then { r with now := time, client := r.client.idle } else r

/-- Gets ready for the next attempt, if one is left. What waits on the socket is lost. -/
def retry (r : Reader) (left : Nat) (delays : Delays) : Reader :=
  match left with
  | 0 => { r with inbox := [] }.finish (.error (.io .attemptsExhausted))
  | left + 1 =>
    { r with inbox := [], phase := .sleeping (r.now + delays.delay) left delays.next }

/-- The delays under some settings. -/
def delays (settings : NetlinkConfig) : Delays :=
  ⟨settings.backoffInitial.toNat, settings.backoffMax.toNat⟩

/-- Starts over after a loss. -/
def recover (r : Reader) : Reader :=
  r.retry r.client.settings.maxAttempts.toNat (delays r.client.settings)

/-- Opens a fresh socket and asks for a dump. -/
def attempt (r : Reader) (left : Nat) (b : Delays) : Reader :=
  match r.client.kernel.openSocket eventGroups with
  | (kernel, .error _) => { r with client.kernel := kernel }.retry left b
  | (kernel, .ok _) =>
    let (client, answer) := { r.client with kernel }.dump
    { r with
      client
      inbox := []
      phase := .dumping (r.now + answer.elapsed) left b answer.result }

/-- Goes on after a dump: with a snapshot, with another attempt, or not at all. -/
def conclude (r : Reader) (left : Nat) (b : Delays) : Except Failure (List Event) → Reader
  | .ok events => r.pass (.snapshot events)
  | .error failure =>
    if failure.isTransient then r.retry left b
    else { r with inbox := [] }.finish (.error failure)

/-- Takes the next receipt. -/
def take (r : Reader) (receipt : Receipt) (rest : List Receipt) : Reader :=
  match receipt.read (room r.client.settings.receiveBuffer) with
  | .events [] => { r with inbox := rest }
  | .events events => { r with inbox := rest }.pass (.events events)
  | .lost => { r with inbox := rest }.recover

/-- Does the next thing that is due up to some time, if there is one. -/
def step? (limit : Nat) (r : Reader) : Option Reader :=
  match r.phase with
  | .reading =>
    if r.cancelled then some (r.finish (.ok ()))
    else match r.inbox with
      | [] => none
      | receipt :: rest => some (r.take receipt rest)
  | .sleeping wake left b =>
    if r.cancelled then some (r.finish (.ok ()))
    else if wake ≤ limit then some ((r.advance wake).attempt left b)
    else none
  | .dumping wake left b result =>
    if wake ≤ limit then some ((r.advance wake).conclude left b result)
    else none
  | .ended .. => none

end Reader

/-- How far a phase is from the end of what it can do without anything more to read. -/
def Phase.rank : Phase → Nat
  | ended .. => 0
  | reading => 1
  | dumping _ left .. => 2 * left + 2
  | sleeping _ left _ => 2 * left + 3

namespace Reader

/-- A reader is closer to rest than another if it has less to read, or no more to read and its
phase is closer to an end. -/
def Closer (a b : Reader) : Prop :=
  Prod.Lex (· < ·) (· < ·) (a.inbox.length, a.phase.rank) (b.inbox.length, b.phase.rank)

/-- Nothing more to read and a phase closer to an end is closer to rest. -/
theorem closer_of_rank {a b : Reader} (hinbox : a.inbox.length ≤ b.inbox.length)
    (hrank : a.phase.rank < b.phase.rank) : Closer a b := by
  rcases Nat.lt_or_eq_of_le hinbox with h | h
  · exact Prod.Lex.left _ _ h
  · unfold Closer
    rw [h]
    exact Prod.Lex.right _ hrank

/-- Less to read is closer to rest. -/
theorem closer_of_inbox {a b : Reader} (h : a.inbox.length < b.inbox.length) : Closer a b :=
  Prod.Lex.left _ _ h

/-- Passing on a message leaves what waits on the socket alone. -/
theorem pass_inbox (r : Reader) (m : Message) : (r.pass m).inbox = r.inbox := by
  unfold pass finish
  split <;> rfl

/-- Passing on a message leads back to reading or to the end. -/
theorem pass_rank (r : Reader) (m : Message) : (r.pass m).phase.rank ≤ 1 := by
  unfold pass finish
  split <;> simp [Phase.rank]

/-- Nothing arrives by going on. -/
@[simp]
theorem advance_inbox (r : Reader) (time : Nat) : (r.advance time).inbox = r.inbox := by
  unfold advance
  split <;> rfl

/-- Another attempt drops what waits on the socket. -/
theorem retry_inbox (r : Reader) (left : Nat) (b : Delays) : (r.retry left b).inbox = [] := by
  cases left <;> rfl

/-- Getting ready for an attempt uses it up. -/
theorem retry_rank (r : Reader) (left : Nat) (b : Delays) :
    (r.retry left b).phase.rank ≤ 2 * left + 1 := by
  cases left <;> simp [retry, finish, Phase.rank]
  omega

/-- A fresh socket begins empty. -/
theorem attempt_inbox (r : Reader) (left : Nat) (b : Delays) : (r.attempt left b).inbox = [] := by
  unfold attempt
  split
  · exact retry_inbox ..
  · rfl

/-- An attempt leads to a dump or uses up another one. -/
theorem attempt_rank (r : Reader) (left : Nat) (b : Delays) :
    (r.attempt left b).phase.rank ≤ 2 * left + 2 := by
  unfold attempt
  split
  · exact Nat.le_succ_of_le (retry_rank ..)
  · simp [Phase.rank]

/-- Going on after a dump adds nothing to read. -/
theorem conclude_inbox (r : Reader) (left : Nat) (b : Delays)
    (result : Except Failure (List Event)) :
    (r.conclude left b result).inbox.length ≤ r.inbox.length := by
  unfold conclude
  split
  · simp [pass_inbox]
  · split
    · simp [retry_inbox]
    · simp [finish]

/-- A dump is over once its result is there. -/
theorem conclude_rank (r : Reader) (left : Nat) (b : Delays)
    (result : Except Failure (List Event)) :
    (r.conclude left b result).phase.rank ≤ 2 * left + 1 := by
  unfold conclude
  split
  · have := pass_rank r
    grind
  · split
    · exact retry_rank ..
    · simp [finish, Phase.rank]

/-- After a receipt only the rest waits, or nothing. -/
theorem take_inbox (r : Reader) (receipt : Receipt) (rest : List Receipt) :
    (r.take receipt rest).inbox.length ≤ rest.length := by
  unfold take recover
  split <;> simp [pass_inbox, retry_inbox]

/-- Each step brings the reader closer to rest. -/
theorem step?_closer {limit : Nat} {r next : Reader} (h : r.step? limit = some next) :
    Closer next r := by
  unfold step? at h
  split at h
  · next hphase =>
    split at h
    · injection h with h
      subst h
      exact closer_of_rank (by simp [finish]) (by simp [finish, Phase.rank, hphase])
    · split at h
      · contradiction
      · next hinbox =>
        injection h with h
        subst h
        refine closer_of_inbox ?_
        rw [hinbox]
        exact Nat.lt_succ_of_le (take_inbox ..)
  · next wake left b hphase =>
    split at h
    · injection h with h
      subst h
      exact closer_of_rank (by simp [finish]) (by simp [finish, Phase.rank, hphase])
    · split at h
      · injection h with h
        subst h
        refine closer_of_rank (by simp [attempt_inbox]) (Nat.lt_of_le_of_lt (attempt_rank ..) ?_)
        simp [hphase, Phase.rank]
      · contradiction
  · next wake left b result hphase =>
    split at h
    · injection h with h
      subst h
      refine closer_of_rank ?_ (Nat.lt_of_le_of_lt (conclude_rank ..) ?_)
      · simpa using conclude_inbox (r.advance wake) left b result
      simp [hphase, Phase.rank]
    · contradiction
  · contradiction

/-- Does all that is due up to some time. When nothing is, the client waits. -/
def run (limit : Nat) (r : Reader) : Reader :=
  match _h : r.step? limit with
  | none => { r with now := max r.now limit, client := r.client.idle }
  | some next => run limit next
termination_by (r.inbox.length, r.phase.rank)
decreasing_by exact step?_closer _h

/-- What happens to the reader from outside. -/
inductive Stimulus
  | supply (opens : List Int) (replies : List Reply)
  | push (receipts : List Receipt)
  | cancel
  | hangUp

/-- Takes a stimulus. Only an open socket can receive: none is open after the end, and what arrives
before a fresh socket is open goes to one that is about to be closed. -/
def feel (r : Reader) : Stimulus → Reader
  | .supply opens replies => { r with client.kernel := r.client.kernel.supply opens replies }
  | .push receipts =>
    match r.phase with
    | .reading | .dumping .. => { r with inbox := r.inbox ++ receipts }
    | .sleeping .. | .ended .. => r
  | .cancel => { r with cancelled := true }
  | .hangUp => { r with listening := false }

/-- Lives through stimuli at given times. -/
def play (r : Reader) (timeline : List (Nat × Stimulus)) : Reader :=
  timeline.foldl (fun r s => ((r.run s.1).feel s.2).run s.1) r

/-- When and how reading ended, if it did. -/
def outcome? (r : Reader) : Option (Nat × Except Failure Unit) :=
  match r.phase with
  | .ended at_ result => some (at_, result)
  | _ => none

/-- When the reader goes on by itself, at the latest. -/
def wake (r : Reader) : Nat :=
  match r.phase with
  | .sleeping wake .. | .dumping wake .. => wake
  | _ => r.now

/-- Stops the reader and lets it end. A dump that was asked for is waited for. -/
def stop (r : Reader) : Reader :=
  let r := r.feel .cancel
  r.run (max r.now r.wake)

end Reader

end LinkBus.Netlink
