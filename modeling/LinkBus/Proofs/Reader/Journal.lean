import LinkBus.Proofs.Reader.Datagrams

/-!
# The journal of the reader

The journal of a reader tells, in order, what arrived on its socket, what it received, when it
opened fresh sockets and how the dumps ended that it asked for, when it was told to stop and how it
ended. What it should pass on is told by the journal: the events of each datagram that it received,
and after a loss one dump, which was asked for once a fresh socket was open. Nothing else is passed
on, nothing twice, and nothing that arrived on a socket after it reported a loss. Nothing that
arrived is left unread, and a loss without a dump has a reason.
-/

namespace LinkBus.Netlink

/-- What happens around a reader. -/
inductive Entry
  /-- Something arrived on the socket. -/
  | arrived (receipts : List Receipt)
  /-- Something was received. -/
  | received (receipt : Receipt)
  /-- A fresh socket was asked for, and if it was opened, a dump. -/
  | attempted (client : Client)
  /-- The dump ended. -/
  | dumped (result : Except Failure (List Event))
  /-- The reader was told to stop. -/
  | cancelled
  /-- From now on nobody takes what is passed on. -/
  | hungUp
  /-- The reader came to its end. -/
  | ended (result : Except Failure Unit)

namespace Reader

/-- What the reader does next, if anything is due. -/
def deed (r : Reader) : List Entry :=
  match r.phase with
  | .reading => if r.cancelled then [] else r.inbox.head?.toList.map .received
  | .sleeping wake _ _ => if r.cancelled then [] else [.attempted (r.advance wake).client]
  | .dumping _ _ _ result => [.dumped result]
  | .ended .. => []

/-- How the reader has come to its end, if it has. -/
def ending (r : Reader) : List Entry :=
  match r.phase with
  | .ended _ result => [.ended result]
  | _ => []

/-- What happens while the reader does all that is due up to some time. -/
def record (limit : Nat) (r : Reader) : List Entry :=
  match _h : r.step? limit with
  | none => []
  | some next => r.deed ++ next.ending ++ record limit next
termination_by (r.inbox.length, r.phase.rank)
decreasing_by exact step?_closer _h

/-- What the reader notices of a stimulus. -/
def noticed (r : Reader) : Stimulus → List Entry
  | .push receipts =>
    match r.phase with
    | .reading | .dumping .. => [.arrived receipts]
    | .sleeping .. | .ended .. => []
  | .cancel => [.cancelled]
  | .hangUp => [.hungUp]
  | .supply .. => []

/-- What happens while the reader lives through stimuli at given times. -/
def journal (r : Reader) : List (Nat × Stimulus) → List Entry
  | [] => []
  | (time, s) :: rest =>
    let met := (r.run time).feel s
    r.record time ++ (r.run time).noticed s ++ met.record time ++ (met.run time).journal rest

end Reader

/-- What a reader is about: it reads, it has lost events and has some attempts left, it waits for a
dump that some client asked for, or it passes on nothing any more. -/
inductive Mode
  | reading
  | lost (left : Nat)
  | asked (client : Client) (left : Nat)
  | silent

namespace Mode

/-- Whether a reader in some mode has nothing to do before something happens or its time comes. -/
def Rests (stopping : Bool) (waiting : List Receipt) : Mode → Prop
  | reading => stopping = false ∧ waiting = []
  | lost left => stopping = false ∧ 0 < left
  | asked .. | silent => True

/-- Whether a reader in some mode stops when it is told to: while it reads, and while it waits
before an attempt. A dump that was asked for is waited for. -/
def heeds : Mode → Bool
  | reading | lost (_ + 1) => true
  | lost 0 | asked .. | silent => false

/-- Whether a reader in some mode is on its way out of a loss. -/
def recovers : Mode → Bool
  | lost _ | asked .. => true
  | reading | silent => false

end Mode

/-- What a reader passes on, if it begins in some mode while something waits on its socket. It may
have been told to stop before. Once everything is settled, it is not on its way out of a loss. -/
inductive Told (settings : NetlinkConfig) (settled : Bool) :
    (stopping : Bool) → Mode → (waiting : List Receipt) → List Entry → List Message → Prop
  /-- Nothing happens any more, and nothing is left to do. -/
  | nil {stopping : Bool} {mode : Mode} {waiting : List Receipt}
      (hrests : mode.Rests stopping waiting) (hsettled : settled = true → mode.recovers = false) :
      Told settings settled stopping mode waiting [] []
  /-- What arrives on the socket waits after what arrived before. -/
  | arrived {stopping : Bool} {mode : Mode} {waiting receipts : List Receipt} {rest : List Entry}
      {messages : List Message}
      (hrest : Told settings settled stopping mode (waiting ++ receipts) rest messages) :
      Told settings settled stopping mode waiting (.arrived receipts :: rest) messages
  /-- From now on the reader may stop. -/
  | cancelled {stopping : Bool} {mode : Mode} {waiting : List Receipt} {rest : List Entry}
      {messages : List Message} (hrest : Told settings settled true mode waiting rest messages) :
      Told settings settled stopping mode waiting (.cancelled :: rest) messages
  /-- A datagram without events is not passed on. -/
  | quiet {stopping : Bool} {waiting : List Receipt} {receipt : Receipt} {rest : List Entry}
      {messages : List Message} (hread : receipt.read (room settings.receiveBuffer) = .events [])
      (hrest : Told settings settled stopping .reading waiting rest messages) :
      Told settings settled stopping .reading (receipt :: waiting) (.received receipt :: rest)
        messages
  /-- All events of a datagram are passed on. -/
  | events {stopping : Bool} {waiting : List Receipt} {receipt : Receipt} {events : List Event}
      {rest : List Entry} {messages : List Message}
      (hread : receipt.read (room settings.receiveBuffer) = .events events) (hsome : events ≠ [])
      (hrest : Told settings settled stopping .reading waiting rest messages) :
      Told settings settled stopping .reading (receipt :: waiting) (.received receipt :: rest)
        (.events events :: messages)
  /-- A socket that reports a loss is given up, with all that waits on it. -/
  | loss {stopping : Bool} {waiting : List Receipt} {receipt : Receipt} {rest : List Entry}
      {messages : List Message} (hread : receipt.read (room settings.receiveBuffer) = .lost)
      (hrest : Told settings settled stopping (.lost settings.maxAttempts.toNat) [] rest messages) :
      Told settings settled stopping .reading (receipt :: waiting) (.received receipt :: rest)
        messages
  /-- A socket that is refused is asked for again. -/
  | refused {stopping : Bool} {left : Nat} {waiting : List Receipt} {client : Client}
      {failure : Failure} {rest : List Entry} {messages : List Message}
      (hopen : (client.kernel.openSocket eventGroups).2 = .error failure)
      (hrest : Told settings settled stopping (.lost left) [] rest messages) :
      Told settings settled stopping (.lost (left + 1)) waiting (.attempted client :: rest) messages
  /-- Once a fresh socket is open, a dump is asked for. -/
  | asked {stopping : Bool} {left : Nat} {waiting : List Receipt} {client : Client}
      {rest : List Entry} {messages : List Message}
      (hopen : (client.kernel.openSocket eventGroups).2 = .ok ())
      (hrest : Told settings settled stopping
        (.asked { client with kernel := (client.kernel.openSocket eventGroups).1 } left) [] rest
        messages) :
      Told settings settled stopping (.lost (left + 1)) waiting (.attempted client :: rest) messages
  /-- A dump that fails is not passed on, and the fresh socket is given up. -/
  | failed {stopping : Bool} {left : Nat} {waiting : List Receipt} {client : Client}
      {failure : Failure} {rest : List Entry} {messages : List Message}
      (hdump : client.dump.2.result = .error failure) (htransient : failure.isTransient = true)
      (hrest : Told settings settled stopping (.lost left) [] rest messages) :
      Told settings settled stopping (.asked client left) waiting (.dumped (.error failure) :: rest)
        messages
  /-- A dump that succeeds is passed on as a snapshot, and what has arrived on the fresh socket
  since it was opened is read. -/
  | snapshot {stopping : Bool} {left : Nat} {waiting : List Receipt} {client : Client}
      {events : List Event} {rest : List Entry} {messages : List Message}
      (hdump : client.dump.2.result = .ok events)
      (hrest : Told settings settled stopping .reading waiting rest messages) :
      Told settings settled stopping (.asked client left) waiting (.dumped (.ok events) :: rest)
        (.snapshot events :: messages)
  /-- Nothing is passed on where nobody takes it. -/
  | hungUp {stopping : Bool} {mode : Mode} {waiting : List Receipt} {rest : List Entry} :
      Told settings settled stopping mode waiting (.hungUp :: rest) []
  /-- A reader that was told to stop ends, unless it waits for a dump. -/
  | stopped {mode : Mode} {waiting : List Receipt} {rest : List Entry}
      (hheeds : mode.heeds = true) :
      Told settings settled true mode waiting (.ended (.ok ()) :: rest) []
  /-- A reader without attempts left ends. -/
  | exhausted {stopping : Bool} {waiting : List Receipt} {rest : List Entry} :
      Told settings settled stopping (.lost 0) waiting
        (.ended (.error (.io .attemptsExhausted)) :: rest) []
  /-- A reader ends with a failure of its dump that another attempt would not get past. -/
  | rejected {stopping : Bool} {left : Nat} {waiting : List Receipt} {client : Client}
      {failure : Failure} {rest : List Entry}
      (hdump : client.dump.2.result = .error failure) (hfinal : failure.isTransient = false) :
      Told settings settled stopping (.asked client left) waiting
        (.dumped (.error failure) :: .ended (.error failure) :: rest) []
  /-- Nothing is passed on any more. -/
  | silent {stopping : Bool} {waiting : List Receipt} {entries : List Entry} :
      Told settings settled stopping .silent waiting entries []

namespace Entry

/-- The message that an entry gives rise to. -/
def message? (size : Nat) : Entry → Option Message
  | received receipt =>
    match receipt.read size with
    | .events [] | .lost => none
    | .events events => some (.events events)
  | dumped (.ok events) => some (.snapshot events)
  | _ => none

/-- Whether no message is passed on after an entry. -/
def isLast : Entry → Bool
  | hungUp | ended _ => true
  | _ => false

/-- Whether an entry says that the reader was told to stop. -/
def isCancel : Entry → Bool
  | cancelled => true
  | _ => false

/-- Whether an entry is about a fresh socket that was asked for. -/
def isAttempt : Entry → Bool
  | attempted _ => true
  | _ => false

/-- Whether an entry tells of something that happened to the reader. -/
def isMeanwhile : Entry → Bool
  | arrived _ | cancelled => true
  | _ => false

/-- Whether an entry belongs to attempts that came to nothing. -/
def isVain : Entry → Bool
  | arrived _ | cancelled | attempted _ | dumped (.error _) => true
  | _ => false

/-- What an entry says has arrived. -/
def arrivals : Entry → List Receipt
  | arrived receipts => receipts
  | _ => []

end Entry

/-- The messages that entries give rise to. -/
def messagesOf (size : Nat) (entries : List Entry) : List Message :=
  (entries.takeWhile fun e => !e.isLast).filterMap (Entry.message? size)

/-- The messages of an entry come before those of later entries. -/
theorem messagesOf_cons (size : Nat) (e : Entry) (entries : List Entry) :
    messagesOf size (e :: entries) =
      if e.isLast then [] else (e.message? size).toList ++ messagesOf size entries := by
  cases hlast : e.isLast with
  | true => simp [messagesOf, hlast]
  | false => cases hmessage : e.message? size <;> simp [messagesOf, hlast, hmessage]

/-- Whether the reader is told to stop in the course of some entries. -/
def stops (entries : List Entry) : Bool := entries.any Entry.isCancel

@[simp]
theorem stops_nil : stops [] = false := rfl

@[simp]
theorem stops_cons (e : Entry) (entries : List Entry) :
    stops (e :: entries) = (e.isCancel || stops entries) := rfl

namespace Told

variable {settings : NetlinkConfig} {settled stopping : Bool} {mode : Mode} {waiting : List Receipt}
  {entries : List Entry} {messages : List Message}

/-- Nothing is told of a reader that passes on nothing any more. -/
theorem eq_nil_of_silent (h : Told settings settled stopping .silent waiting entries messages) :
    messages = [] := by
  generalize hmode : Mode.silent = mode at h
  induction h with
  | nil => rfl
  | arrived _ ih => exact ih hmode
  | cancelled _ ih => exact ih hmode
  | hungUp => rfl
  | stopped => rfl
  | silent => rfl
  | _ => cases hmode

/-- What is told before the end are the messages of the entries in order. -/
theorem eq_messagesOf (h : Told settings settled stopping mode waiting entries messages)
    (hmode : mode ≠ .silent) : messages = messagesOf (room settings.receiveBuffer) entries := by
  induction h with
  | nil => rfl
  | arrived _ ih => exact ih hmode
  | cancelled _ ih => exact ih hmode
  | quiet hread _ ih => simpa [messagesOf_cons, Entry.isLast, Entry.message?, hread] using ih nofun
  | events hread _ _ ih =>
    simpa [messagesOf_cons, Entry.isLast, Entry.message?, hread] using ih nofun
  | loss hread _ ih => simpa [messagesOf_cons, Entry.isLast, Entry.message?, hread] using ih nofun
  | refused _ _ ih => exact ih nofun
  | asked _ _ ih => exact ih nofun
  | failed _ _ _ ih => exact ih nofun
  | snapshot _ _ ih => exact congrArg _ (ih nofun)
  | silent => exact absurd rfl hmode
  | _ => rfl

end Told

/-! ## After a loss -/

/-- Why no snapshot follows some attempts that came to nothing, if there were some attempts left
before them: the journal goes no further, nobody takes what is passed on, or the reader ended for
one of three reasons. -/
inductive GivesUp (settled : Bool) (left : Nat) (stopping : Bool) (tries : List Entry) :
    List Entry → Prop
  /-- The next attempt is not due yet, or its dump has not ended. -/
  | pending (hsettled : settled = false) : GivesUp settled left stopping tries []
  /-- Nobody takes what is passed on. -/
  | hungUp {rest : List Entry} : GivesUp settled left stopping tries (.hungUp :: rest)
  /-- The reader was told to stop, and heeded it before the next attempt. -/
  | stopped {rest : List Entry} (hleft : tries.countP Entry.isAttempt < left)
      (hstops : (stopping || stops tries) = true) :
      GivesUp settled left stopping tries (.ended (.ok ()) :: rest)
  /-- All attempts have been made. -/
  | exhausted {rest : List Entry} (hmade : tries.countP Entry.isAttempt = left) :
      GivesUp settled left stopping tries (.ended (.error (.io .attemptsExhausted)) :: rest)
  /-- The last dump has failed in a way that another attempt would not get past. -/
  | rejected (earlier : List Entry) {rest : List Entry} {failure : Failure}
      (htries : tries = earlier ++ [.dumped (.error failure)])
      (hfinal : failure.isTransient = false) :
      GivesUp settled left stopping tries (.ended (.error failure) :: rest)

/-- What is passed on after a loss, if some attempts are left and the reader may have been told to
stop: first of all one snapshot, that of a client which asked for a dump once it had opened a fresh
socket, after attempts that all came to nothing; and what is read next arrived on the fresh socket.
Otherwise nothing at all, for a reason. -/
inductive Recovers (settings : NetlinkConfig) (settled : Bool) (left : Nat) (stopping : Bool) :
    List Entry → List Message → Prop
  | abandoned (tries : List Entry) {rest : List Entry} (htries : ∀ e ∈ tries, e.isVain = true)
      (hrest : GivesUp settled left stopping tries rest) :
      Recovers settings settled left stopping (tries ++ rest) []
  | mended (tries meanwhile : List Entry) {client : Client} {events : List Event}
      {rest : List Entry} {later : List Message} (htries : ∀ e ∈ tries, e.isVain = true)
      (hleft : tries.countP Entry.isAttempt < left)
      (hopen : (client.kernel.openSocket eventGroups).2 = .ok ())
      (hmeanwhile : ∀ e ∈ meanwhile, e.isMeanwhile = true)
      (hdump : { client with kernel := (client.kernel.openSocket eventGroups).1 }.dump.2.result =
        .ok events)
      (hlater : Told settings settled (stopping || stops (tries ++ meanwhile)) .reading
        (meanwhile.flatMap Entry.arrivals) rest later) :
      Recovers settings settled left stopping
        (tries ++ .attempted client :: (meanwhile ++ .dumped (.ok events) :: rest))
        (.snapshot events :: later)

/-- What is passed on while a dump is awaited: its snapshot, or what is passed on after another
loss. -/
inductive Awaits (settings : NetlinkConfig) (settled : Bool) (left : Nat) (stopping : Bool)
    (client : Client) (waiting : List Receipt) : List Entry → List Message → Prop
  | again {entries : List Entry} {messages : List Message}
      (h : Recovers settings settled left stopping entries messages) :
      Awaits settings settled left stopping client waiting entries messages
  | mended (meanwhile : List Entry) {events : List Event} {rest : List Entry}
      {later : List Message} (hmeanwhile : ∀ e ∈ meanwhile, e.isMeanwhile = true)
      (hdump : client.dump.2.result = .ok events)
      (hlater : Told settings settled (stopping || stops meanwhile) .reading
        (waiting ++ meanwhile.flatMap Entry.arrivals) rest later) :
      Awaits settings settled left stopping client waiting
        (meanwhile ++ .dumped (.ok events) :: rest) (.snapshot events :: later)

section Losses

variable {settings : NetlinkConfig} {left : Nat} {settled stopping stopping' : Bool}
  {waiting : List Receipt} {client : Client} {entries : List Entry} {messages : List Message}

/-- One more entry of the attempts that came to nothing. -/
theorem GivesUp.cons (e : Entry) {tries rest : List Entry}
    (h : GivesUp settled left stopping' tries rest)
    (hstops : stopping' = (stopping || e.isCancel)) :
    GivesUp settled (left + if e.isAttempt then 1 else 0) stopping (e :: tries) rest := by
  cases h with
  | pending hsettled => exact .pending hsettled
  | hungUp => exact .hungUp
  | stopped hleft h =>
    refine .stopped ?_ (by rwa [hstops, Bool.or_assoc] at h)
    rw [List.countP_cons]
    omega
  | exhausted hmade => exact .exhausted (by rw [List.countP_cons, hmade])
  | rejected earlier htries hfinal =>
    exact .rejected (e :: earlier) (congrArg (e :: ·) htries) hfinal

/-- One more entry before came to nothing. -/
theorem Recovers.cons (e : Entry) (h : Recovers settings settled left stopping' entries messages)
    (he : e.isVain = true) (hstops : stopping' = (stopping || e.isCancel)) :
    Recovers settings settled (left + if e.isAttempt then 1 else 0) stopping (e :: entries)
      messages := by
  cases h with
  | abandoned tries htries hrest =>
    exact .abandoned (e :: tries) (List.forall_mem_cons.2 ⟨he, htries⟩) (hrest.cons e hstops)
  | mended tries meanwhile htries hleft hopen hmeanwhile hdump hlater =>
    refine .mended (e :: tries) meanwhile (List.forall_mem_cons.2 ⟨he, htries⟩) ?_ hopen hmeanwhile
      hdump ?_
    · rw [List.countP_cons]
      omega
    · rwa [hstops, Bool.or_assoc, ← stops_cons] at hlater

/-- Something happens to the reader while a dump is awaited. -/
theorem Awaits.cons (e : Entry)
    (h : Awaits settings settled left stopping' client (waiting ++ e.arrivals) entries messages)
    (he : e.isMeanwhile = true) (hstops : stopping' = (stopping || e.isCancel)) :
    Awaits settings settled left stopping client waiting (e :: entries) messages := by
  have hvain : e.isVain = true ∧ e.isAttempt = false := by
    cases e with
    | arrived => exact ⟨rfl, rfl⟩
    | cancelled => exact ⟨rfl, rfl⟩
    | _ => cases he
  cases h with
  | again h => exact .again (by simpa [hvain.2] using h.cons e hvain.1 hstops)
  | mended meanwhile hmeanwhile hdump hlater =>
    refine .mended (e :: meanwhile) (List.forall_mem_cons.2 ⟨he, hmeanwhile⟩) hdump ?_
    rwa [hstops, Bool.or_assoc, ← stops_cons, List.append_assoc, ← List.flatMap_cons] at hlater

end Losses

namespace Told

variable {settings : NetlinkConfig} {settled stopping : Bool} {mode : Mode} {waiting : List Receipt}
  {entries : List Entry} {messages : List Message}

/-- After a loss, and while a dump is awaited, nothing is told before a snapshot. -/
theorem recovers_or_awaits (h : Told settings settled stopping mode waiting entries messages) :
    (∀ left, mode = .lost left → Recovers settings settled left stopping entries messages) ∧
      ∀ client left, mode = .asked client left →
        Awaits settings settled left stopping client waiting entries messages := by
  have habandon : ∀ {left stopping rest}, GivesUp settled left stopping [] rest →
      Recovers settings settled left stopping rest [] := fun h => .abandoned [] nofun h
  induction h with
  | nil hrests hsettled =>
    refine ⟨fun _ hmode => habandon (.pending ?_),
      fun _ _ hmode => .again (habandon (.pending ?_))⟩
    all_goals
      subst hmode
      simpa [Mode.recovers] using hsettled
  | hungUp => exact ⟨fun _ _ => habandon .hungUp, fun _ _ _ => .again (habandon .hungUp)⟩
  | stopped hheeds =>
    refine ⟨fun left hmode => habandon (.stopped ?_ rfl), fun _ _ hmode => ?_⟩
    all_goals subst hmode
    · cases left with
      | zero => cases hheeds
      | succ left => exact Nat.succ_pos left
    · cases hheeds
  | exhausted =>
    refine ⟨fun left hmode => ?_, nofun⟩
    obtain rfl := Mode.lost.inj hmode
    exact habandon (.exhausted rfl)
  | rejected _ hfinal =>
    exact ⟨nofun, fun _ _ _ => .again
      (.abandoned [_] (by simp [Entry.isVain]) (.rejected [] rfl hfinal))⟩
  | quiet => exact ⟨nofun, nofun⟩
  | events => exact ⟨nofun, nofun⟩
  | loss => exact ⟨nofun, nofun⟩
  | silent => exact ⟨nofun, nofun⟩
  | @arrived _ _ _ receipts _ _ _ ih =>
    exact ⟨fun left hmode => (ih.1 left hmode).cons (.arrived receipts) rfl (Bool.or_false _).symm,
      fun client left hmode =>
        (ih.2 client left hmode).cons (.arrived receipts) rfl (Bool.or_false _).symm⟩
  | cancelled _ ih =>
    refine ⟨fun left hmode => (ih.1 left hmode).cons .cancelled rfl (Bool.or_true _).symm,
      fun client left hmode => .cons .cancelled ?_ rfl (Bool.or_true _).symm⟩
    simpa [Entry.arrivals] using ih.2 client left hmode
  | @refused _ _ _ client _ _ _ _ _ ih =>
    refine ⟨fun left hmode => ?_, nofun⟩
    obtain rfl := Mode.lost.inj hmode
    exact (ih.1 _ rfl).cons (.attempted client) rfl (Bool.or_false _).symm
  | @asked _ _ _ client _ _ hopen _ ih =>
    refine ⟨fun left hmode => ?_, nofun⟩
    obtain rfl := Mode.lost.inj hmode
    cases ih.2 _ _ rfl with
    | again hagain => exact hagain.cons (.attempted client) rfl (Bool.or_false _).symm
    | mended meanwhile hmeanwhile hdump hlater =>
      exact .mended [] meanwhile nofun (Nat.succ_pos _) hopen hmeanwhile hdump hlater
  | @failed _ _ _ _ failure _ _ _ _ _ ih =>
    refine ⟨nofun, fun client left hmode => ?_⟩
    obtain ⟨-, rfl⟩ := Mode.asked.inj hmode
    exact .again ((ih.1 _ rfl).cons (.dumped (.error failure)) rfl (Bool.or_false _).symm)
  | snapshot hdump hrest =>
    refine ⟨nofun, fun client left hmode => ?_⟩
    obtain ⟨rfl, -⟩ := Mode.asked.inj hmode
    exact .mended [] nofun hdump (by simpa using hrest)

/-- After each loss that is told before the end, what is told next is a snapshot, or nothing for a
reason. -/
theorem recovers_of_loss {before after : List Entry} {receipt : Receipt}
    (h : Told settings settled stopping mode waiting (before ++ .received receipt :: after)
      messages)
    (hmode : mode ≠ .silent) (hbefore : ∀ e ∈ before, e.isLast = false)
    (hloss : receipt.read (room settings.receiveBuffer) = .lost) :
    ∃ later, messages = messagesOf (room settings.receiveBuffer) before ++ later ∧
      Recovers settings settled settings.maxAttempts.toNat (stopping || stops before) after
        later := by
  induction before generalizing stopping mode waiting messages with
  | nil =>
    cases h with
    | quiet hread => exact nomatch hread.symm.trans hloss
    | events hread => exact nomatch hread.symm.trans hloss
    | loss _ hrest => exact ⟨messages, rfl, by simpa using hrest.recovers_or_awaits.1 _ rfl⟩
    | silent => exact absurd rfl hmode
  | cons e before ih =>
    obtain ⟨he, hgoing⟩ := List.forall_mem_cons.1 hbefore
    rw [List.cons_append] at h
    rw [messagesOf_cons, he, stops_cons, ← Bool.or_assoc]
    generalize htail : before ++ .received receipt :: after = tail at h
    have hnext : ∀ {stopping mode waiting messages},
        Told settings settled stopping mode waiting tail messages → mode ≠ .silent →
        ∃ later, messages = messagesOf (room settings.receiveBuffer) before ++ later ∧
          Recovers settings settled settings.maxAttempts.toNat (stopping || stops before) after
            later :=
      fun hrest hmode => ih (htail ▸ hrest) hmode hgoing
    cases h with
    | hungUp => cases he
    | stopped => cases he
    | exhausted => cases he
    | silent => exact absurd rfl hmode
    | rejected =>
      -- The end comes next, but no entry before the loss is the last one.
      cases before with
      | nil => cases htail
      | cons e' before =>
        obtain ⟨rfl, -⟩ := List.cons.inj htail
        cases hgoing _ List.mem_cons_self
    | arrived hrest => simpa [Entry.message?, Entry.isCancel] using hnext hrest hmode
    | cancelled hrest => simpa [Entry.message?, Entry.isCancel] using hnext hrest hmode
    | quiet hread hrest => simpa [Entry.message?, Entry.isCancel, hread] using hnext hrest nofun
    | loss hread hrest => simpa [Entry.message?, Entry.isCancel, hread] using hnext hrest nofun
    | refused _ hrest => simpa [Entry.message?, Entry.isCancel] using hnext hrest nofun
    | asked _ hrest => simpa [Entry.message?, Entry.isCancel] using hnext hrest nofun
    | failed _ _ hrest => simpa [Entry.message?, Entry.isCancel] using hnext hrest nofun
    | events hread _ hrest =>
      simpa [Entry.message?, Entry.isCancel, hread] using hnext hrest nofun
    | snapshot _ hrest => simpa [Entry.message?, Entry.isCancel] using hnext hrest nofun

end Told

end LinkBus.Netlink
