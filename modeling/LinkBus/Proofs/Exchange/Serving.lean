import LinkBus.Proofs.Exchange.Sound
import LinkBus.Proofs.Netlink.Client

/-!
# The moves of one call

Where a client carries out a call, the exchange makes moves: asking a request is a row of moves, in
which the call sends its request, the kernel queues what it replies, and the call receives until its
request is answered.
-/

namespace LinkBus.Netlink

open Wire

/-- Whether a call has the socket. -/
def Call.hasSocket (call : Call) : Bool :=
  match call.stage with
  | .holding | .sending _ | .receiving .. => true
  | _ => false

/-- The end of a call is no longer under way, and a call with requests left has the socket. -/
theorem Call.hasSocket_settle {call : Call} (hsocket : call.hasSocket = true)
    (left : List Request) (result : Except Failure (List Event)) :
    (call.settle left result).hasSocket = call.hasSocket ∨
      (call.settle left result).isUnderWay = false := by
  cases result with
  | error failure => exact .inr rfl
  | ok more =>
    cases left with
    | nil => exact .inr rfl
    | cons request rest => exact .inl hsocket.symm

/-- An exchange whose last call is the one that a client carries out. -/
structure Exchange.Serves (e : Exchange) (c : Client) (before : List Call) (call : Call) :
    Prop where
  /-- The time limits and sizes are the same. -/
  settings_eq : e.settings = c.settings
  /-- The next number is the same. -/
  counter_eq : e.counter = c.counter
  /-- Changes are taken or not. -/
  accepting_eq : e.accepting = c.accepting
  /-- The same waits on the socket. -/
  inbox_eq : e.inbox = c.inbox
  /-- The call is the last one. -/
  calls_eq : e.calls = before ++ [call]
  /-- No other call has the socket. -/
  holder_eq : e.holder = if call.hasSocket then some before.length else none

namespace Exchange

variable {e : Exchange} {c c' : Client} {before : List Call} {call call' : Call}

namespace Serves

/-- The call is found at its place. -/
theorem found (h : e.Serves c before call) : e.calls[before.length]? = some call := by
  rw [h.calls_eq, List.getElem?_concat_length]

/-- What the client keeps to itself makes no difference. -/
theorem of_eq (h : e.Serves c before call) (hsettings : c'.settings = c.settings)
    (hcounter : c'.counter = c.counter) (haccepting : c'.accepting = c.accepting)
    (hinbox : c'.inbox = c.inbox) : e.Serves c' before call :=
  ⟨h.settings_eq.trans hsettings.symm, h.counter_eq.trans hcounter.symm,
    h.accepting_eq.trans haccepting.symm, h.inbox_eq.trans hinbox.symm, h.calls_eq, h.holder_eq⟩

/-- The call goes on with the socket, or leaves it at its end. -/
theorem put (h : e.Serves c before call)
    (hcall : call'.hasSocket = call.hasSocket ∨ call'.isUnderWay = false) :
    (e.put before.length call').Serves c before call' where
  settings_eq := h.settings_eq
  counter_eq := h.counter_eq
  accepting_eq := h.accepting_eq
  inbox_eq := h.inbox_eq
  calls_eq := by
    change e.calls.set before.length call' = _
    rw [h.calls_eq]
    simp
  holder_eq := by
    change (if call'.isUnderWay then e.holder else e.holder.filter (· != before.length)) = _
    have hsocket : call'.hasSocket = true → call'.isUnderWay = true := by
      unfold Call.hasSocket Call.isUnderWay
      cases call'.stage <;> simp
    rw [h.holder_eq]
    cases hunder : call'.isUnderWay with
    | true =>
      have hsame := hcall.resolve_right (by simp [hunder])
      rw [hsame]
      rfl
    | false =>
      have hnone : call'.hasSocket = false := by
        by_contra hsome
        simp [hsocket (by simpa using hsome)] at hunder
      cases call.hasSocket <;> simp [hnone]

end Serves

/-- After some moves the last call has become another one. -/
def Reaches (e : Exchange) (c : Client) (before : List Call) (call : Call) : Prop :=
  ∃ moves last, e.run? moves = some last ∧ last.Serves c before call

namespace Reaches

/-- No move is needed where nothing changes. -/
theorem refl (h : e.Serves c before call) : e.Reaches c before call := ⟨[], e, rfl, h⟩

/-- One move more at the beginning. -/
theorem head {m : Move} {next : Exchange} (hstep : e.step? m = some next)
    (h : next.Reaches c before call) : e.Reaches c before call := by
  obtain ⟨moves, last, hrun, hlast⟩ := h
  refine ⟨m :: moves, last, ?_, hlast⟩
  rw [run?_cons, hstep, Option.bind_some, hrun]

/-- More moves at the beginning. -/
theorem of_run {moves : List Move} {mid : Exchange} (hrun : e.run? moves = some mid)
    (h : mid.Reaches c before call) : e.Reaches c before call := by
  obtain ⟨more, last, hmore, hlast⟩ := h
  refine ⟨moves ++ more, last, ?_, hlast⟩
  rw [run?_append, hrun, Option.bind_some, hmore]

end Reaches

end Exchange

/-- What a call has become once its request was answered or given up. -/
def Call.After (call : Call) (left : List Request) (answer : Option (Except Failure (List Event)))
    (call' : Call) : Prop :=
  match answer with
  | some result => call' = call.settle left result
  | none => call'.requests = call.requests ∧ call'.left = call.left ∧ call'.canExpire = true

/-- What becomes of a call does not depend on how far it was. -/
theorem Call.After.of_stage {call call' : Call} {stage : Stage} {left : List Request}
    {answer : Option (Except Failure (List Event))}
    (h : ({ call with stage }).After left answer call') : call.After left answer call' := by
  cases answer with
  | none => exact h
  | some result => cases result <;> exact h

namespace Exchange.Serves

variable {e : Exchange} {c : Client} {before : List Call} {call : Call} {request : Request}
  {left : List Request} {seq : UInt32} {events : List Event}

/-- Receiving until there is an answer is a row of moves. -/
theorem await (h : e.Serves c before call) (hstage : call.stage = .receiving seq events)
    (hleft : call.left = request :: left) :
    ∃ call', call.After left (Netlink.await (room c.settings.receiveBuffer) (hear request seq)
        events c.inbox).1 call' ∧
      e.Reaches { c with
        inbox := (Netlink.await (room c.settings.receiveBuffer) (hear request seq) events
          c.inbox).2 } before call' := by
  generalize hinbox : c.inbox = inbox
  induction inbox generalizing e c call events with
  | nil =>
    refine ⟨call, ⟨rfl, rfl, ?_⟩, .refl (h.of_eq rfl rfl rfl hinbox.symm)⟩
    simp [Call.canExpire, hstage]
  | cons receipt rest ih =>
    have hstep : e.step? (.receive before.length) = some ({ e with inbox := rest }.put
        before.length (call.receive (room c.settings.receiveBuffer) request left seq events
          receipt)) := by
      rw [← h.settings_eq]
      exact step?_receive h.found hstage hleft (h.inbox_eq.trans hinbox)
    have hsocket : call.hasSocket = true := by simp [Call.hasSocket, hstage]
    have hrest : Serves { e with inbox := rest } { c with inbox := rest } before call :=
      ⟨h.settings_eq, h.counter_eq, h.accepting_eq, rfl, h.calls_eq, h.holder_eq⟩
    cases receipt with
    | fault errno =>
      rw [Call.receive] at hstep
      exact ⟨_, rfl, .head hstep (.refl (hrest.put (Call.hasSocket_settle hsocket _ _)))⟩
    | datagram bytes =>
      rw [Netlink.await]
      rw [Call.receive] at hstep
      cases hscan : scan (hear request seq) events
          (readFrames (bytes.take (room c.settings.receiveBuffer))) with
      | answered result =>
        rw [hscan] at hstep
        exact ⟨_, rfl, .head hstep (.refl (hrest.put (Call.hasSocket_settle hsocket _ _)))⟩
      | more events' =>
        rw [hscan] at hstep
        have hgoes : Call.hasSocket { call with stage := .receiving seq events' } =
            call.hasSocket := hsocket.symm
        obtain ⟨call', hafter, hreaches⟩ := ih (hrest.put (.inl hgoes)) rfl hleft rfl
        exact ⟨call', hafter.of_stage, .head hstep hreaches⟩

/-- What the kernel queues comes to the socket. -/
theorem queue (h : e.Serves c before call) (receipts : List Receipt) :
    e.Reaches { c with inbox := c.inbox ++ receipts } before call := by
  induction receipts generalizing e c with
  | nil => exact .refl (h.of_eq rfl rfl rfl (List.append_nil _))
  | cons receipt rest ih =>
    have hnext : Serves { e with
        inbox := e.inbox ++ [receipt], log := e.log ++ [.queued receipt] }
        { c with inbox := c.inbox ++ [receipt] } before call :=
      ⟨h.settings_eq, h.counter_eq, h.accepting_eq, by rw [h.inbox_eq], h.calls_eq, h.holder_eq⟩
    have hrest := ih hnext
    rw [List.append_assoc] at hrest
    exact .head (m := .queue receipt) rfl hrest

/-- A call that waits takes the free socket. -/
theorem take (h : e.Serves c before call) {call' : Call} (htake : call.take? = some call') :
    ∃ next, e.step? (.take before.length) = some next ∧ next.Serves c before call' := by
  have hsockets : call.hasSocket = false ∧ call'.hasSocket = true ∧ call'.isUnderWay = true := by
    unfold Call.take? at htake
    unfold Call.hasSocket
    split at htake
    · next seq hstage =>
      obtain rfl := Option.some.inj htake
      simp [hstage, Call.isUnderWay]
    · next hstage =>
      obtain rfl := Option.some.inj htake
      simp [hstage, Call.isUnderWay]
    · cases htake
  have hfree : e.holder = none := by rw [h.holder_eq, hsockets.1]; rfl
  refine ⟨{ e.put before.length call' with holder := some before.length }, ?_,
    h.settings_eq, h.counter_eq, h.accepting_eq, h.inbox_eq, ?_, by rw [hsockets.2.1]; rfl⟩
  · simp [step?, h.found, htake, hfree]
  · change e.calls.set before.length call' = _
    rw [h.calls_eq]
    simp

/-- A request that is sent. -/
theorem send (h : e.Serves c before call) (hstage : call.stage = .sending seq)
    (hleft : call.left = request :: left) :
    ∃ next, e.step? (.send before.length) = some next ∧
      next.Serves c before { call with stage := .receiving seq [] } := by
  have hsocket : Call.hasSocket { call with stage := .receiving seq [] } = call.hasSocket := by
    simp [Call.hasSocket, hstage]
  have hlogged :
      Serves { e with log := e.log ++ [.sent before.length seq request] } c before call :=
    ⟨h.settings_eq, h.counter_eq, h.accepting_eq, h.inbox_eq, h.calls_eq, h.holder_eq⟩
  exact ⟨_, by simp [step?, h.found, hstage, hleft], hlogged.put (.inl hsocket)⟩

/-- A request that cannot be sent. -/
theorem fail (h : e.Serves c before call) (hstage : call.stage = .sending seq) (errno : Int) :
    ∃ next, e.step? (.fail before.length errno) = some next ∧
      next.Serves c before (call.settle [] (.error (.io (.errno errno)))) :=
  ⟨_, by simp [step?, h.found, hstage], h.put (.inr rfl)⟩

/-- Asking a request under a number that was drawn is a row of moves. A change has waited until it
can send. -/
theorem ask (h : e.Serves { c with counter := (nextSequence c.counter).2 } before call)
    (hstage : call.stage = .sending (nextSequence c.counter).1)
    (hleft : call.left = request :: left) (patient : Bool)
    (hready : ∀ index up, request = .setLink index up → c.readiness.send = true) :
    ∃ call', call.After left (c.ask patient request (hear request) []).2 call' ∧
      e.Reaches (c.ask patient request (hear request) []).1 before call' := by
  simp only [Client.ask]
  split
  · next hblocked =>
    refine ⟨call, ⟨rfl, rfl, ?_⟩, .refl h⟩
    have hnotReady : c.readiness.send = false := by simp_all
    unfold Call.canExpire
    rw [hstage, hleft]
    cases request with
    | setLink index up => simp [hready index up rfl] at hnotReady
    | _ => rfl
  · rw [Client.awaitSend_eq]
    simp only
    split
    · next failure hrefused =>
      obtain ⟨errno, rfl⟩ := Kernel.errno_of_send hrefused
      obtain ⟨next, hstep, hnext⟩ := h.fail hstage errno
      exact ⟨_, rfl, .head hstep (.refl (hnext.of_eq rfl rfl rfl rfl))⟩
    · next receipts hqueued =>
      obtain ⟨next, hstep, hnext⟩ := h.send hstage hleft
      obtain ⟨moves, mid, hrun, hmid⟩ := hnext.queue receipts
      split
      · exact ⟨{ call with stage := .receiving _ [] }, ⟨rfl, rfl, rfl⟩,
          .head hstep (.of_run hrun (.refl (hmid.of_eq rfl rfl rfl rfl)))⟩
      · obtain ⟨call', hafter, hreaches⟩ := hmid.await rfl hleft
        obtain ⟨more, last, hmore, hlast⟩ := hreaches
        exact ⟨call', hafter.of_stage, .head hstep (.of_run hrun
          ⟨more, last, hmore, hlast.of_eq rfl rfl rfl rfl⟩)⟩

/-- The time of a call is over. -/
theorem expire (h : e.Serves c before call) (hleft : call.left = request :: left)
    (hcan : call.canExpire = true) :
    ∃ next, e.step? (.expire before.length) = some next ∧
      next.Serves c before
        { call with stage := .ended (.error (overdue c.settings request)) } := by
  rw [← h.settings_eq]
  refine ⟨e.put before.length { call with stage := .ended (.error (overdue e.settings request)) },
    ?_, h.put (.inr rfl)⟩
  simp [step?, h.found, hleft, hcan]

end Exchange.Serves

/-- A call whose time can be over may come to its end so. -/
theorem Exchange.Reaches.expire {e : Exchange} {c : Client} {before : List Call} {call : Call}
    {request : Request} {left : List Request} (h : e.Reaches c before call)
    (hleft : call.left = request :: left) (hcan : call.canExpire = true) :
    e.Reaches c before { call with stage := .ended (.error (overdue c.settings request)) } := by
  obtain ⟨moves, last, hrun, hlast⟩ := h
  obtain ⟨next, hexpire, hnext⟩ := hlast.expire hleft hcan
  exact .of_run hrun (.head hexpire (.refl hnext))

end LinkBus.Netlink
