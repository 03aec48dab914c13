import LinkBus.Proofs.Netlink.Client
import LinkBus.Proofs.Netlink.Sequence
import LinkBus.Proofs.Netlink.Waiting
import LinkBus.Proofs.Wire.Envelope

/-!
# What a dump lists

A dump asks for links, addresses and routes, one after the other, each under a number of its own. It
lists the events with these numbers that are received after the request was sent and before the last
frame with its number. It fails exactly if sending or receiving fails, if an error acknowledgment
with the number of a request comes before the last frame, or if its time ends first.
-/

namespace LinkBus.Netlink

open Wire

namespace Client

/-- The number of the next request. -/
def number (c : Client) : UInt32 := (nextSequence c.counter).1

/-- What becomes of the next request when it is sent. -/
def reply (c : Client) (request : Request) : Except Failure (List Receipt) :=
  (c.kernel.send (request.toBytes c.number)).2

/-- The client after it has sent a request, with what then waits on the socket, and what it has then
seen the socket ready for. -/
def afterSending (c : Client) (request : Request) (inbox : List Receipt) (readiness : Readiness) :
    Client :=
  { c with
    counter := (nextSequence c.counter).2
    kernel := (c.kernel.send (request.toBytes c.number)).1
    inbox
    readiness }

/-- A dump may wait for its socket, unless its time limit is zero. -/
def isPatient (c : Client) : Bool := c.settings.startupTimeout.toNat ≠ 0

/-- A request of a dump is answered with a list: it is sent in time, and of the frames that are
received after that, the last one of its answer is the first that ends the answer. -/
structure Lists (c : Client) (request : Request) (events : List Event) (next : Client) : Prop where
  /-- The socket is waited for, or was seen ready. -/
  inTime : c.isPatient = true ∨ c.readiness = ⟨true, true⟩
  /-- The list is what is received, and the client goes on with the rest. -/
  listed : ∃ receipts rest, c.reply request = .ok receipts ∧
    EndsWith (room c.settings.receiveBuffer) c.number (c.inbox ++ receipts) (.done c.number)
      events rest ∧
    next = c.afterSending request rest ⟨true, true⟩

/-- The time limit of a dump ends before a request is answered. -/
inductive IsLate (c : Client) (request : Request) : Prop
  /-- There is no time to wait until the request can be sent. -/
  | unsent (noTime : c.isPatient = false) (notReady : c.readiness.send = false)
  /-- The request is sent, but there is no time to wait until something can be received. -/
  | unread {receipts : List Receipt} (noTime : c.isPatient = false)
      (ready : c.readiness = ⟨true, false⟩) (sent : c.reply request = .ok receipts)
  /-- The request is sent, and no frame ends the answer in time. -/
  | silent {receipts : List Receipt} {earlier : List (List UInt8)}
      (inTime : c.isPatient = true ∨ c.readiness = ⟨true, true⟩)
      (sent : c.reply request = .ok receipts)
      (waiting_eq : c.inbox ++ receipts = earlier.map .datagram)
      (unended : Unended (room c.settings.receiveBuffer) c.number earlier)

/-- The failure of a dump whose time is over. -/
def overdueDump (c : Client) : Failure :=
  .timeout s!"netlink dump exceeded {durationText c.settings.startupTimeout.toNat}"

/-- A request of a dump fails. -/
inductive Fails (c : Client) (request : Request) : Failure → Prop
  /-- Sending fails. -/
  | unsent {errno : Int} (inTime : c.isPatient = true ∨ c.readiness.send = true)
      (refused : c.reply request = .error (.io (.errno errno))) :
      Fails c request (.io (.errno errno))
  /-- Receiving fails before a frame ends the answer. -/
  | unread {errno : Int} {receipts rest : List Receipt} {earlier : List (List UInt8)}
      (inTime : c.isPatient = true ∨ c.readiness = ⟨true, true⟩)
      (sent : c.reply request = .ok receipts)
      (waiting_eq : c.inbox ++ receipts = earlier.map .datagram ++ .fault errno :: rest)
      (unended : Unended (room c.settings.receiveBuffer) c.number earlier) :
      Fails c request (.io (.errno errno))
  /-- An error acknowledgment is the first frame that ends the answer. -/
  | refused {errno : Int} {receipts rest : List Receipt} {events : List Event}
      (inTime : c.isPatient = true ∨ c.readiness = ⟨true, true⟩)
      (sent : c.reply request = .ok receipts)
      (ends : EndsWith (room c.settings.receiveBuffer) c.number (c.inbox ++ receipts)
        (.ack c.number (some errno)) events rest) :
      Fails c request (.rejected errno)
  /-- The time limit ends first. -/
  | overdue (late : c.IsLate request) : Fails c request c.overdueDump

/-! ## One request -/

variable {c next : Client} {request : Request}

/-- A socket on which a request can be sent is not waited for. -/
theorem readiness_awaitSend (h : c.readiness.send = true) :
    c.awaitSend.readiness = c.readiness := by
  rw [awaitSend, if_pos h]

/-- Asking for a list, step by step. -/
theorem ask_eq (c : Client) (request : Request) :
    c.ask c.isPatient request dumpFrame [] =
      if !c.isPatient && !c.readiness.send then
        ({ c with counter := (nextSequence c.counter).2 }, none)
      else
        match c.reply request with
        | .error failure =>
          (c.afterSending request c.inbox c.awaitSend.readiness, some (.error failure))
        | .ok receipts =>
          if !c.isPatient && !c.awaitSend.readiness.receive then
            (c.afterSending request (c.inbox ++ receipts) c.awaitSend.readiness, none)
          else
            let heard := await (room c.settings.receiveBuffer) (dumpFrame c.number) []
              (c.inbox ++ receipts)
            (c.afterSending request heard.2 ⟨true, heard.1.isSome⟩, heard.1) := by
  obtain ⟨settings, counter, accepting, inbox, ⟨send, receive⟩, kernel⟩ := c
  cases send <;> rfl

/-- A request that is sent in time waits for its answer. -/
theorem ask_of_heard {receipts rest : List Receipt} {answer : Option (Except Failure (List Event))}
    (inTime : c.isPatient = true ∨ c.readiness = ⟨true, true⟩)
    (sent : c.reply request = .ok receipts)
    (heard : Heard (room c.settings.receiveBuffer) c.number (c.inbox ++ receipts) answer rest) :
    c.ask c.isPatient request dumpFrame [] =
      (c.afterSending request rest ⟨true, answer.isSome⟩, answer) := by
  have hsend : ¬ (!c.isPatient && !c.readiness.send) = true := by
    rcases inTime with h | h <;> simp [h]
  have hreceive : ¬ (!c.isPatient && !c.awaitSend.readiness.receive) = true := by
    rcases inTime with h | h
    · simp [h]
    · simp [readiness_awaitSend, h]
  rw [ask_eq, if_neg hsend, sent]
  simp only
  rw [if_neg hreceive, heard.await_eq]

/-- A request whose reply is one datagram with the last frame of the answer lists the events before
this frame. -/
theorem Lists.of_datagram {bytes : List UInt8} {before after : List (Except Malformed Frame)}
    (hpatient : c.isPatient = true) (hinbox : c.inbox = [])
    (hreply : c.reply request = .ok [.datagram bytes])
    (hframes : readFrames (bytes.take (room c.settings.receiveBuffer)) =
      before ++ .ok (.done c.number) :: after)
    (hbefore : ∀ item ∈ before, endsAnswer c.number item = false) :
    c.Lists request (before.filterMap (listedUnder? c.number))
      (c.afterSending request [] ⟨true, true⟩) where
  inTime := .inl hpatient
  listed := by
    have hwaiting : c.inbox ++ [.datagram bytes] = [].map .datagram ++ .datagram bytes :: [] := by
      rw [hinbox]
      rfl
    exact ⟨[.datagram bytes], [], hreply,
      ⟨[], bytes, before, after, hwaiting, hframes, hbefore, rfl⟩, rfl⟩

/-- A request that is listed is answered with the list. -/
theorem Lists.ask_eq {events : List Event} (h : c.Lists request events next) :
    c.ask c.isPatient request dumpFrame [] = (next, some (.ok events)) := by
  obtain ⟨receipts, rest, hsent, hends, rfl⟩ := h.listed
  exact ask_of_heard h.inTime hsent (.listed hends)

/-- A request that fails is answered with the failure, or not at all in time. -/
theorem Fails.ask_eq {failure : Failure} (h : c.Fails request failure) :
    (c.ask c.isPatient request dumpFrame []).2 = some (.error failure) ∨
      (c.ask c.isPatient request dumpFrame []).2 = none ∧ failure = c.overdueDump := by
  cases h with
  | unsent inTime refused =>
    have hsend : ¬ (!c.isPatient && !c.readiness.send) = true := by
      rcases inTime with h | h <;> simp [h]
    rw [Client.ask_eq, if_neg hsend, refused]
    exact .inl rfl
  | unread inTime sent waiting_eq unended =>
    rw [ask_of_heard inTime sent (.faulted unended waiting_eq)]
    exact .inl rfl
  | refused inTime sent ends =>
    rw [ask_of_heard inTime sent (.refused ends)]
    exact .inl rfl
  | overdue late =>
    refine .inr ⟨?_, rfl⟩
    cases late with
    | unsent noTime notReady =>
      rw [Client.ask_eq, if_pos (by simp [noTime, notReady])]
    | unread noTime ready sent =>
      rw [Client.ask_eq, if_neg (by simp [ready]), sent]
      simp only
      rw [if_pos (by simp [noTime, readiness_awaitSend, ready])]
    | silent inTime sent waiting_eq unended =>
      rw [ask_of_heard inTime sent (.silent unended waiting_eq)]

/-- A request is listed or fails. -/
theorem exists_lists_or_fails (c : Client) (request : Request) :
    (∃ events next, c.Lists request events next) ∨ ∃ failure, c.Fails request failure := by
  by_cases hsend : c.isPatient = true ∨ c.readiness.send = true
  · cases hreply : c.reply request with
    | error failure =>
      obtain ⟨errno, rfl⟩ := Kernel.errno_of_send hreply
      exact .inr ⟨_, .unsent hsend hreply⟩
    | ok receipts =>
      by_cases hreceive : c.isPatient = true ∨ c.readiness = ⟨true, true⟩
      · obtain ⟨answer, rest, hheard⟩ := exists_heard (room c.settings.receiveBuffer) c.number
          (c.inbox ++ receipts)
        cases hheard with
        | listed ends => exact .inl ⟨_, _, hreceive, receipts, rest, hreply, ends, rfl⟩
        | refused ends => exact .inr ⟨_, .refused hreceive hreply ends⟩
        | faulted unended waiting_eq =>
          exact .inr ⟨_, .unread hreceive hreply waiting_eq unended⟩
        | silent unended waiting_eq =>
          exact .inr ⟨_, .overdue (.silent hreceive hreply waiting_eq unended)⟩
      · obtain ⟨hpatient, hready⟩ := not_or.1 hreceive
        refine .inr ⟨_, .overdue (.unread (Bool.eq_false_iff.2 hpatient) ?_ hreply)⟩
        have hsendReady := hsend.resolve_left hpatient
        cases hvalue : c.readiness with
        | mk send receive =>
          rw [hvalue] at hready hsendReady
          cases receive <;> simp_all
  · obtain ⟨hpatient, hready⟩ := not_or.1 hsend
    exact .inr ⟨_, .overdue (.unsent (Bool.eq_false_iff.2 hpatient) (Bool.eq_false_iff.2 hready))⟩

/-! ## One request after the other -/

/-- Requests are answered with lists one after the other. -/
inductive ListsAll : Client → List Request → List Event → Client → Prop
  | nil (c : Client) : ListsAll c [] [] c
  | cons {c next last : Client} {request : Request} {rest : List Request}
      {events later : List Event} (lists : c.Lists request events next)
      (listsRest : ListsAll next rest later last) :
      ListsAll c (request :: rest) (events ++ later) last

/-- One of some requests fails after those before it were answered with lists. -/
inductive FailsIn (failure : Failure) : Client → List Request → Prop
  | here {c : Client} {request : Request} {rest : List Request}
      (fails : c.Fails request failure) : FailsIn failure c (request :: rest)
  | later {c next : Client} {request : Request} {rest : List Request} {events : List Event}
      (lists : c.Lists request events next) (failsRest : FailsIn failure next rest) :
      FailsIn failure c (request :: rest)

/-- A client that goes on after an answer has the same time limits and sizes. -/
theorem Lists.settings_eq {events : List Event} (h : c.Lists request events next) :
    next.settings = c.settings := by
  obtain ⟨receipts, rest, _, _, rfl⟩ := h.listed
  rfl

theorem Lists.isPatient_eq {events : List Event} (h : c.Lists request events next) :
    next.isPatient = c.isPatient := by
  rw [isPatient, h.settings_eq, isPatient]

theorem Lists.overdueDump_eq {events : List Event} (h : c.Lists request events next) :
    next.overdueDump = c.overdueDump := by
  rw [overdueDump, h.settings_eq, overdueDump]

/-- After a request that is listed, dumping goes on with those that are left. -/
theorem Lists.dumpAll_cons {events : List Event} (h : c.Lists request events next)
    (gathered : List Event) (rest : List Request) :
    c.dumpAll c.isPatient gathered (request :: rest) =
      next.dumpAll next.isPatient (gathered ++ events) rest := by
  rw [dumpAll, h.ask_eq, h.isPatient_eq]

/-- The lists of requests that are all answered are joined. -/
theorem ListsAll.dumpAll_eq {requests : List Request} {events : List Event}
    (h : c.ListsAll requests events next) (gathered : List Event) :
    c.dumpAll c.isPatient gathered requests = (next, some (.ok (gathered ++ events))) := by
  induction h generalizing gathered with
  | nil => rw [dumpAll, List.append_nil]
  | cons lists _ ih => rw [lists.dumpAll_cons, ih, List.append_assoc]

/-- Where a request fails, dumping ends with the failure, or with no answer in time. -/
theorem FailsIn.dumpAll_eq {failure : Failure} {requests : List Request}
    (h : FailsIn failure c requests) (gathered : List Event) :
    (c.dumpAll c.isPatient gathered requests).2 = some (.error failure) ∨
      (c.dumpAll c.isPatient gathered requests).2 = none ∧ failure = c.overdueDump := by
  induction h generalizing gathered with
  | @here c request rest fails =>
    have hanswer := fails.ask_eq
    rw [dumpAll]
    generalize c.ask c.isPatient request dumpFrame [] = asked at hanswer ⊢
    obtain ⟨last, answer⟩ := asked
    rcases hanswer with hanswer | ⟨hanswer, hfailure⟩
    · obtain rfl : answer = _ := hanswer
      exact .inl rfl
    · obtain rfl : answer = _ := hanswer
      exact .inr ⟨rfl, hfailure⟩
  | later lists _ ih =>
    rw [lists.dumpAll_cons, ← lists.overdueDump_eq]
    exact ih _

/-- Requests are answered one after the other to the end, or one of them fails. -/
theorem exists_listsAll_or_failsIn (c : Client) (requests : List Request) :
    (∃ events last, c.ListsAll requests events last) ∨ ∃ failure, FailsIn failure c requests := by
  induction requests generalizing c with
  | nil => exact .inl ⟨[], c, .nil c⟩
  | cons request rest ih =>
    rcases c.exists_lists_or_fails request with ⟨events, next, hlists⟩ | ⟨failure, hfails⟩
    · rcases ih next with ⟨later, last, hrest⟩ | ⟨failure, hfails⟩
      · exact .inl ⟨_, last, .cons hlists hrest⟩
      · exact .inr ⟨failure, .later hlists hfails⟩
    · exact .inr ⟨failure, .here hfails⟩

/-- What a dump asks for. -/
def dumpRequests : List Request := [.dumpLinks, .dumpAddresses, .dumpRoutes]

/-- What an answer to a dump comes to: it is there at once, or the time is over without it. -/
def timed (c : Client) (answer : Option (Except Failure (List Event))) : Timed (List Event) where
  elapsed := if answer.isSome then 0 else c.settings.startupTimeout.toNat
  result := answer.getD (.error c.overdueDump)

/-- Dumping is asking for one table after the other. -/
theorem dump_eq (c : Client) :
    c.dump = ((c.dumpAll c.isPatient [] dumpRequests).1,
      c.timed (c.dumpAll c.isPatient [] dumpRequests).2) := by
  have hpatient : decide (c.settings.startupTimeout.toNat ≠ 0) = c.isPatient := rfl
  rw [dump, hpatient, dumpRequests]
  generalize c.dumpAll c.isPatient [] [.dumpLinks, .dumpAddresses, .dumpRoutes] = dumped
  obtain ⟨last, _ | result⟩ := dumped
  · rfl
  · rfl

/-- A dump whose requests are all answered lists what the answers list. -/
theorem ListsAll.result_dump {events : List Event} (h : c.ListsAll dumpRequests events next) :
    c.dump.2.result = .ok events := by
  rw [dump_eq, h.dumpAll_eq]
  rfl

/-- A dump with a request that fails after others were answered fails with it. -/
theorem FailsIn.result_dump {failure : Failure} (h : FailsIn failure c dumpRequests) :
    c.dump.2.result = .error failure := by
  rw [dump_eq]
  rcases h.dumpAll_eq [] with hanswer | ⟨hanswer, rfl⟩
  · rw [hanswer]
    rfl
  · rw [hanswer]
    rfl

/-- A dump lists what the answers to its requests list, and lists nothing else. -/
theorem dump_eq_ok_iff {events : List Event} :
    c.dump.2.result = .ok events ↔ ∃ last, c.ListsAll dumpRequests events last := by
  refine ⟨fun h => ?_, fun ⟨last, hall⟩ => hall.result_dump⟩
  rcases c.exists_listsAll_or_failsIn dumpRequests with ⟨events', last, hall⟩ | ⟨failure, hfails⟩
  · obtain rfl := Except.ok.inj (h.symm.trans hall.result_dump)
    exact ⟨last, hall⟩
  · cases h.symm.trans hfails.result_dump

/-- A dump fails exactly if one of its requests fails after those before it were answered. -/
theorem dump_eq_error_iff {failure : Failure} :
    c.dump.2.result = .error failure ↔ FailsIn failure c dumpRequests := by
  refine ⟨fun h => ?_, FailsIn.result_dump⟩
  rcases c.exists_listsAll_or_failsIn dumpRequests with ⟨events, last, hall⟩ | ⟨failure', hfails⟩
  · cases h.symm.trans hall.result_dump
  · obtain rfl := Except.error.inj (h.symm.trans hfails.result_dump)
    exact hfails

/-- Links, addresses and routes are listed one after the other. -/
theorem listsAll_dumpRequests_iff {events : List Event} :
    (∃ last, c.ListsAll dumpRequests events last) ↔
      ∃ c₁ c₂ c₃ links addresses routes, c.Lists .dumpLinks links c₁ ∧
        c₁.Lists .dumpAddresses addresses c₂ ∧ c₂.Lists .dumpRoutes routes c₃ ∧
        events = links ++ addresses ++ routes := by
  constructor
  · rintro ⟨last, hall⟩
    obtain _ | ⟨hlinks, _ | ⟨haddresses, _ | ⟨hroutes, _ | _⟩⟩⟩ := hall
    exact ⟨_, _, _, _, _, _, hlinks, haddresses, hroutes, by simp⟩
  · rintro ⟨_, _, c₃, links, addresses, routes, hlinks, haddresses, hroutes, rfl⟩
    refine ⟨c₃, ?_⟩
    have hall := ListsAll.cons hlinks (.cons haddresses (.cons hroutes (.nil c₃)))
    rwa [List.append_nil, ← List.append_assoc] at hall

/-- The request for links fails, or that for addresses after it, or that for routes after both. -/
theorem failsIn_dumpRequests_iff {failure : Failure} :
    FailsIn failure c dumpRequests ↔
      c.Fails .dumpLinks failure ∨
      (∃ c₁ links, c.Lists .dumpLinks links c₁ ∧ c₁.Fails .dumpAddresses failure) ∨
      ∃ c₁ c₂ links addresses, c.Lists .dumpLinks links c₁ ∧
        c₁.Lists .dumpAddresses addresses c₂ ∧ c₂.Fails .dumpRoutes failure := by
  constructor
  · rintro (hfails | ⟨hlinks, hfails | ⟨haddresses, hfails | ⟨_, hnone⟩⟩⟩)
    · exact .inl hfails
    · exact .inr (.inl ⟨_, _, hlinks, hfails⟩)
    · exact .inr (.inr ⟨_, _, _, _, hlinks, haddresses, hfails⟩)
    · cases hnone
  · rintro (hfails | ⟨_, _, hlinks, hfails⟩ | ⟨_, _, _, _, hlinks, haddresses, hfails⟩)
    · exact .here hfails
    · exact .later hlinks (.here hfails)
    · exact .later hlinks (.later haddresses (.here hfails))

/-! ## Numbers -/

/-- Asking draws one number. -/
theorem counter_ask (c : Client) (request : Request) :
    (c.ask c.isPatient request dumpFrame []).1.counter = (nextSequence c.counter).2 := by
  rw [ask_eq]
  split
  · rfl
  · split
    · rfl
    · split <;> rfl

/-- Asking sends the request under the number that it draws, or it sends nothing and there is no
answer. -/
theorem sent_ask (c : Client) (request : Request) :
    (c.ask c.isPatient request dumpFrame []).1.kernel.sent =
        c.kernel.sent ++ [request.toBytes c.number] ∨
      (c.ask c.isPatient request dumpFrame []).1.kernel.sent = c.kernel.sent ∧
        (c.ask c.isPatient request dumpFrame []).2 = none := by
  have hsend : (c.kernel.send (request.toBytes c.number)).1.sent =
      c.kernel.sent ++ [request.toBytes c.number] := by
    simp only [Kernel.send]
    split <;> rfl
  rw [ask_eq]
  split
  · exact .inr ⟨rfl, rfl⟩
  · split
    · exact .inl hsend
    · split
      · exact .inl hsend
      · exact .inl hsend

/-- Asking changes no time limit. -/
theorem isPatient_ask (c : Client) (request : Request) :
    (c.ask c.isPatient request dumpFrame []).1.isPatient = c.isPatient := by
  rw [isPatient, settings_ask, isPatient]

/-- A row of requests draws one number after the other, as far as it gets, and sends each request
under its number. Only the last one may be left unsent. -/
theorem numbers_dumpAll (c : Client) (events : List Event) (requests : List Request) :
    ∃ drawn ≤ requests.length, ∃ sent ≤ drawn, drawn ≤ sent + 1 ∧
      (c.dumpAll c.isPatient events requests).1.counter = (draws drawn c.counter).2 ∧
        (c.dumpAll c.isPatient events requests).1.kernel.sent = c.kernel.sent ++
          List.zipWith Request.toBytes (requests.take sent) (draws drawn c.counter).1 := by
  induction requests generalizing c events with
  | nil => exact ⟨0, Nat.le_refl 0, 0, Nat.le_refl 0, Nat.zero_le 1, rfl, (List.append_nil _).symm⟩
  | cons request rest ih =>
    have hcounter := c.counter_ask request
    have hsent := c.sent_ask request
    have hpatient := c.isPatient_ask request
    have hone : 1 ≤ (request :: rest).length := Nat.succ_le_succ (Nat.zero_le _)
    rw [dumpAll]
    generalize c.ask c.isPatient request dumpFrame [] = asked at hcounter hsent hpatient ⊢
    obtain ⟨next, answer⟩ := asked
    simp only at hcounter hsent hpatient
    rcases answer with _ | failure | more
    · rcases hsent with hsent | ⟨hsent, -⟩
      · exact ⟨1, hone, 1, Nat.le_refl 1, Nat.le_succ 1, hcounter, hsent⟩
      · refine ⟨1, hone, 0, Nat.zero_le 1, Nat.le_refl 1, hcounter, ?_⟩
        exact hsent.trans (List.append_nil _).symm
    · have hsent := hsent.resolve_right fun h => Option.some_ne_none _ h.2
      exact ⟨1, hone, 1, Nat.le_refl 1, Nat.le_succ 1, hcounter, hsent⟩
    · have hsent := hsent.resolve_right fun h => Option.some_ne_none _ h.2
      obtain ⟨drawn, hdrawn, sent, hle, hall, hlast, hlog⟩ := ih next (events ++ more)
      rw [hpatient] at hlast hlog
      rw [hcounter] at hlast hlog
      refine ⟨drawn + 1, Nat.succ_le_succ hdrawn, sent + 1, Nat.succ_le_succ hle,
        Nat.succ_le_succ hall, hlast, ?_⟩
      simp only
      rw [hlog, hsent, List.append_assoc]
      rfl

/-! ## A dump of three datagrams -/

/-- A new client whose first request is answered with some datagram, and the others with empty
lists. -/
def answeredBy (first : List UInt8) : Client where
  kernel.replies :=
    [.queued [.datagram first], .queued [.datagram (lastMessage 2 0)],
      .queued [.datagram (lastMessage 3 0)]]

/-- Such a client lists the events before the first last frame. -/
theorem dump_answeredBy {first : List UInt8} {before after : List (Except Malformed Frame)}
    (hframes : readFrames (first.take (room (answeredBy first).settings.receiveBuffer)) =
      before ++ .ok (.done 1) :: after)
    (hbefore : ∀ item ∈ before, endsAnswer 1 item = false) :
    (answeredBy first).dump.1.kernel.sent = [Request.dumpLinks.toBytes 1,
        Request.dumpAddresses.toBytes 2, Request.dumpRoutes.toBytes 3] ∧
      (answeredBy first).dump.2.result = .ok (before.filterMap (listedUnder? 1)) := by
  have hempty : ∀ seq, readFrames ((lastMessage seq 0).take
      (room (answeredBy first).settings.receiveBuffer)) = [] ++ .ok (.done seq) :: [] := by
    intro seq
    have hshort : (lastMessage seq 0).take (room (answeredBy first).settings.receiveBuffer) =
      lastMessage seq 0 := rfl
    rw [hshort, readFrames_lastMessage, List.nil_append]
  have hnone : ∀ seq, ∀ item ∈ [], endsAnswer seq item = false :=
    fun _ _ hmem => absurd hmem List.not_mem_nil
  let c₁ := (answeredBy first).afterSending .dumpLinks [] ⟨true, true⟩
  let c₂ := c₁.afterSending .dumpAddresses [] ⟨true, true⟩
  let c₃ := c₂.afterSending .dumpRoutes [] ⟨true, true⟩
  have hlinks : (answeredBy first).Lists .dumpLinks (before.filterMap (listedUnder? 1)) c₁ :=
    .of_datagram rfl rfl rfl hframes hbefore
  have haddresses : c₁.Lists .dumpAddresses ([].filterMap (listedUnder? 2)) c₂ :=
    .of_datagram rfl rfl rfl (hempty 2) (hnone 2)
  have hroutes : c₂.Lists .dumpRoutes ([].filterMap (listedUnder? 3)) c₃ :=
    .of_datagram rfl rfl rfl (hempty 3) (hnone 3)
  have hall : (answeredBy first).ListsAll dumpRequests _ c₃ :=
    .cons hlinks (.cons haddresses (.cons hroutes (.nil c₃)))
  constructor
  · rw [dump_eq, hall.dumpAll_eq]
    rfl
  · rw [hall.result_dump]
    simp

end Client

end LinkBus.Netlink
