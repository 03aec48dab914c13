import LinkBus.Proofs.Exchange.Sound

/-!
# Answers belong to their requests

Calls share one socket, and what answers one of them too late is received by the next. If the kernel
acknowledges only what it was sent, a call is nevertheless granted or refused by the acknowledgment
of its own request, whatever the order in which calls start, wait, send, receive and end.
-/

namespace LinkBus.Netlink

open Wire

/-- A kernel that acknowledges only numbers under which it was sent a request before. -/
def Honest (log : List Happening) : Prop :=
  ∀ before bytes after, log = before ++ .queued (.datagram bytes) :: after →
    ∀ seq errno, .ok (.ack seq errno) ∈ readFrames bytes →
      ∃ c request, .sent c seq request ∈ before

/-- The kernel answered a request of a call: after the call had sent it, an acknowledgment with its
number came to the socket, and the number is that of no other request. -/
def Confirmed (log : List Happening) (c : Nat) (request : Request) (errno : Option Int) : Prop :=
  ∃ seq before bytes after, log = before ++ .queued (.datagram bytes) :: after ∧
    .ok (.ack seq errno) ∈ readFrames bytes ∧ .sent c seq request ∈ before ∧
    ∀ c' request', .sent c' seq request' ∈ log → c' = c ∧ request' = request

/-- A frame that belongs to a request other than the given one. -/
def IsForeign (log : List Happening) (c : Nat) (request : Request) (frame : Frame) : Prop :=
  ∃ seq c' request', number? frame = some seq ∧ .sent c' seq request' ∈ log ∧
    (c' ≠ c ∨ request' ≠ request)

namespace Exchange

namespace Sound

variable {e : Exchange} {c : Nat}

/-- An honest kernel acknowledges a request after it was sent. -/
theorem confirmed (h : e.Sound) (hhonest : Honest e.log) {request : Request} {errno : Option Int}
    (hack : Acknowledged e.log c request errno) : Confirmed e.log c request errno := by
  obtain ⟨seq, bytes, hsent, hqueued, hframe⟩ := hack
  obtain ⟨before, after, hlog⟩ := List.append_of_mem hqueued
  obtain ⟨c', request', hbefore⟩ := hhonest before bytes after hlog seq errno hframe
  have hmem : ∀ entry ∈ before, entry ∈ e.log := fun entry hentry =>
    hlog ▸ List.mem_append_left _ hentry
  obtain ⟨rfl, rfl⟩ := h.eq_of_sent (hmem _ hbefore) hsent
  exact ⟨seq, before, bytes, after, hlog, hframe, hbefore, fun c' request' hsent' =>
    h.eq_of_sent hsent' hsent⟩

/-- Frames of other requests may be left out of what a call receives. -/
theorem scan_foreign (h : e.Sound) {call : Call} {seq : UInt32} {events : List Event}
    {request : Request} {left : List Request} (hfound : e.calls[c]? = some call)
    (hstage : call.stage = .receiving seq events) (hleft : call.left = request :: left)
    {frames : List (Except Malformed Frame)} {keep : Except Malformed Frame → Bool}
    (hforeign : ∀ frame, .ok frame ∈ frames → keep (.ok frame) = false →
      IsForeign e.log c request frame) :
    scan (hear request seq) events (frames.filter keep) =
      scan (hear request seq) events frames := by
  obtain ⟨request', left', hleft', hsent⟩ := (h.logged c call hfound).receiving seq events hstage
  obtain ⟨rfl, rfl⟩ := List.cons.inj (hleft.symm.trans hleft')
  refine scan_filter (fun frame hmem hkeep state => ?_) events
  obtain ⟨other, c', request', hnumber, hother, hne⟩ := hforeign frame hmem hkeep
  refine hear_of_number_ne hnumber fun heq => ?_
  subst heq
  obtain ⟨rfl, rfl⟩ := h.eq_of_sent hother hsent
  exact hne.elim (fun hc => hc rfl) fun hrequest => hrequest rfl

end Sound

/-- However calls and the kernel take turns, as long as the sequence numbers do not run out and the
kernel acknowledges only what it was sent: a change that was granted was acknowledged by the kernel,
a call that was refused was refused by the kernel with the same error, each by the answer to the
call's own request, and frames that belong to other requests make no difference to a call. -/
theorem answers_are_own (settings : NetlinkConfig) (moves : List Move) (e : Exchange)
    (hrun : (opened settings).run? moves = some e)
    (hbound : (drawnNumbers e.log).length < numberCount) (hhonest : Honest e.log) :
    (∀ (c : Nat) (call : Call) (index : UInt32) (up : Bool), e.calls[c]? = some call →
      call.requests = [.setLink index up] →
        (∀ events, call.stage = .ended (.ok events) →
          Confirmed e.log c (.setLink index up) none) ∧
        ∀ errno, call.stage = .ended (.error (.rejected errno)) →
          Confirmed e.log c (.setLink index up) (some errno)) ∧
    (∀ (c : Nat) (call : Call) (errno : Int), e.calls[c]? = some call →
      call.stage = .ended (.error (.rejected errno)) →
        ∃ request ∈ call.requests, Confirmed e.log c request (some errno)) ∧
    ∀ (c : Nat) (call : Call) (seq : UInt32) (events : List Event) (request : Request)
      (left : List Request), e.calls[c]? = some call → call.stage = .receiving seq events →
        call.left = request :: left →
          ∀ (frames : List (Except Malformed Frame)) (keep : Except Malformed Frame → Bool),
            (∀ frame, .ok frame ∈ frames → keep (.ok frame) = false →
              IsForeign e.log c request frame) →
            scan (hear request seq) events (frames.filter keep) =
              scan (hear request seq) events frames := by
  have h : e.Sound := (Sound.opened settings).run hrun (Nat.le_of_lt hbound)
  have hrefused : ∀ (c : Nat) (call : Call) (errno : Int), e.calls[c]? = some call →
      call.stage = .ended (.error (.rejected errno)) →
        ∃ request ∈ call.requests, Confirmed e.log c request (some errno) := by
    intro c call errno hfound hstage
    obtain ⟨request, hmem, hack⟩ := (h.logged c call hfound).refused errno hstage
    exact ⟨request, hmem, h.confirmed hhonest hack⟩
  refine ⟨fun c call index up hfound hrequests => ⟨fun events hstage => ?_, fun errno hstage => ?_⟩,
    hrefused, fun c call seq events request left hfound hstage hleft frames keep hforeign =>
      h.scan_foreign hfound hstage hleft hforeign⟩
  · exact h.confirmed hhonest ((h.logged c call hfound).granted index up events hrequests hstage)
  · obtain ⟨request, hmem, hconfirmed⟩ := hrefused c call errno hfound hstage
    rw [hrequests, List.mem_singleton] at hmem
    exact hmem ▸ hconfirmed

/-- The acknowledgment of the number one, which comes too late. -/
def lateGrant : List UInt8 := [20, 0, 0, 0, 2, 0, 0, 0, 1, 0, 0, 0, 0, 0, 0, 0, 0, 0, 0, 0]

/-- The refusal of the number two. -/
def refusal : List UInt8 := [20, 0, 0, 0, 2, 0, 0, 0, 2, 0, 0, 0, 0, 0, 0, 0, 255, 255, 255, 255]

/-- A datagram with one message has one frame. -/
theorem readFrames_of_cut {bytes : List UInt8} {m : Wire.Message} (h : cut bytes = .ok (m, [])) :
    readFrames bytes = [Frame.ofMessage m] := by
  rw [readFrames_of_cut_eq_ok h, readFrames_nil]

/-- The frame of the late acknowledgment. -/
theorem readFrames_lateGrant : readFrames lateGrant = [.ok (.ack 1 none)] :=
  readFrames_of_cut (m := ⟨2, 1, [0, 0, 0, 0]⟩) rfl

/-- The frame of the refusal. -/
theorem readFrames_refusal : readFrames refusal = [.ok (.ack 2 (some 1))] :=
  readFrames_of_cut (m := ⟨2, 2, [255, 255, 255, 255]⟩) rfl

/-- A change whose time was over is granted while the next one waits, and that one is refused. -/
def lateMoves : List Move :=
  [.change 2 true, .take 0, .send 0, .expire 0, .change 3 false, .take 1, .send 1,
    .queue (.datagram lateGrant), .queue (.datagram refusal), .receive 1, .receive 1]

/-- The exchange at the end of these moves. -/
def afterGrant (inbox : List Receipt) (holder : Option Nat) (stage : Call.Stage) : Exchange where
  counter := 3
  inbox := inbox
  holder := holder
  calls := [.change 2 true (.ended (.error (overdue {} (.setLink 2 true)))), .change 3 false stage]
  log := [.drew 0 1, .sent 0 1 (.setLink 2 true), .drew 1 2, .sent 1 2 (.setLink 3 false),
    .queued (.datagram lateGrant), .queued (.datagram refusal)]

/-- The moves are possible, and the late acknowledgment is left aside. -/
theorem run?_lateMoves : (opened {}).run? lateMoves =
    some (afterGrant [] none (.ended (.error (.rejected 1)))) := by
  have hlate : Call.receive (room 32768) (.change 3 false (.receiving 2 [])) (.setLink 3 false) []
      2 [] (.datagram lateGrant) = .change 3 false (.receiving 2 []) := by
    rw [Call.receive, List.take_of_length_le (by decide), readFrames_lateGrant]
    rfl
  have hrefused : Call.receive (room 32768) (.change 3 false (.receiving 2 [])) (.setLink 3 false)
      [] 2 [] (.datagram refusal) = .change 3 false (.ended (.error (.rejected 1))) := by
    rw [Call.receive, List.take_of_length_le (by decide), readFrames_refusal]
    rfl
  have hstart : (opened {}).run? (lateMoves.take 9) = some (afterGrant
      [.datagram lateGrant, .datagram refusal] (some 1) (.receiving 2 [])) := rfl
  have hfirst : (afterGrant [.datagram lateGrant, .datagram refusal] (some 1)
      (.receiving 2 [])).step? (.receive 1) =
        some (afterGrant [.datagram refusal] (some 1) (.receiving 2 [])) :=
    (step?_receive rfl rfl rfl rfl).trans (congrArg (fun call =>
      some ((afterGrant [.datagram refusal] (some 1) (.receiving 2 [])).put 1 call)) hlate)
  have hsecond : (afterGrant [.datagram refusal] (some 1) (.receiving 2 [])).step? (.receive 1) =
      some (afterGrant [] none (.ended (.error (.rejected 1)))) :=
    (step?_receive rfl rfl rfl rfl).trans (congrArg (fun call =>
      some ((afterGrant [] (some 1) (.receiving 2 [])).put 1 call)) hrefused)
  rw [show lateMoves = lateMoves.take 9 ++ [.receive 1, .receive 1] from rfl, run?_append, hstart,
    Option.bind_some, run?_cons, hfirst, Option.bind_some, run?_cons, hsecond]
  rfl

/-- A kernel stays honest while it acknowledges what it was sent. -/
theorem honest_concat {log : List Happening} {entry : Happening} (h : Honest log)
    (hentry : ∀ bytes, entry = .queued (.datagram bytes) → ∀ seq errno,
      .ok (.ack seq errno) ∈ readFrames bytes → ∃ c request, .sent c seq request ∈ log) :
    Honest (log ++ [entry]) := by
  intro before bytes after hlog
  rcases List.eq_nil_or_concat' after with rfl | ⟨after, last, rfl⟩
  · obtain ⟨rfl, hlast⟩ := List.append_inj' hlog rfl
    exact hentry bytes (List.cons.inj hlast).1
  · rw [← List.cons_append, ← List.append_assoc] at hlog
    exact h before bytes after (List.append_inj' hlog rfl).1

/-- In these moves the kernel acknowledges what it was sent. -/
theorem honest_afterGrant : Honest (afterGrant [] none (.ended (.error (.rejected 1)))).log := by
  have hrequests : Honest [.drew 0 1, .sent 0 1 (.setLink 2 true), .drew 1 2,
      .sent 1 2 (.setLink 3 false)] := by
    intro before bytes after hlog
    have hmem : .queued (.datagram bytes) ∈ before ++ .queued (.datagram bytes) :: after :=
      List.mem_append_right _ List.mem_cons_self
    rw [← hlog] at hmem
    simp at hmem
  refine honest_concat (honest_concat hrequests fun bytes heq seq errno hframe => ?_)
    fun bytes heq seq errno hframe => ?_
  · cases heq
    rw [readFrames_lateGrant, List.mem_singleton] at hframe
    cases hframe
    exact ⟨0, .setLink 2 true, by decide⟩
  · cases heq
    rw [readFrames_refusal, List.mem_singleton] at hframe
    cases hframe
    exact ⟨1, .setLink 3 false, by decide⟩

/-- The late acknowledgment does not grant the change that receives it. -/
theorem answers_are_own_lateGrant :
    (opened {}).run? lateMoves = some (afterGrant [] none (.ended (.error (.rejected 1)))) ∧
      Honest (afterGrant [] none (.ended (.error (.rejected 1)))).log ∧
      Confirmed (afterGrant [] none (.ended (.error (.rejected 1)))).log 1 (.setLink 3 false)
        (some 1) := by
  have hanswers := answers_are_own {} lateMoves _ run?_lateMoves (by decide) honest_afterGrant
  exact ⟨run?_lateMoves, honest_afterGrant, (hanswers.1 1 _ 3 false rfl rfl).2 1 rfl⟩

end Exchange

end LinkBus.Netlink
