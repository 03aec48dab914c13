import LinkBus.Proofs.Exchange.Serving

/-!
# One call after the other

A client that carries out its calls one after the other makes moves of the exchange: each change and
each dump is a row of moves that starts and ends with a free socket, and ends as it ended for the
client.
-/

namespace LinkBus.Netlink

open Wire

/-! ## Changes -/

section Changes

variable (index : UInt32) (up : Bool) (seq : UInt32) (events : List Event)

/-- A change hears acknowledgments and keeps its events. -/
theorem scan_hear_setLink (frames : List (Except Malformed Frame)) :
    scan (hear (.setLink index up) seq) events frames =
      match scan (ackFrame seq) () frames with
      | .more _ => .more events
      | .answered result => .answered (result.map fun _ => events) := by
  induction frames with
  | nil => rfl
  | cons item rest ih =>
    cases item with
    | error fault => exact ih
    | ok frame =>
      rw [scan, scan, hear]
      cases ackFrame seq () frame with
      | more state => exact ih
      | answered result => rfl

/-- Waiting for an acknowledgment. -/
theorem await_hear_setLink (size : Nat) (inbox : List Receipt) :
    await size (hear (.setLink index up) seq) events inbox =
      ((await size (ackFrame seq) () inbox).1.map (Except.map fun _ => events),
        (await size (ackFrame seq) () inbox).2) := by
  induction inbox with
  | nil => rfl
  | cons receipt rest ih =>
    cases receipt with
    | fault errno => rfl
    | datagram bytes =>
      rw [await, await, scan_hear_setLink]
      cases scan (ackFrame seq) () (readFrames (bytes.take size)) with
      | more state => exact ih
      | answered result => rfl

/-- Asking for a change. -/
theorem ask_hear_setLink (c : Client) (patient : Bool) :
    c.ask patient (.setLink index up) (hear (.setLink index up)) events =
      ((c.ask patient (.setLink index up) ackFrame ()).1,
        (c.ask patient (.setLink index up) ackFrame ()).2.map (Except.map fun _ => events)) := by
  simp only [Client.ask]
  split
  · rfl
  · split
    · rfl
    · split
      · rfl
      · simp only [await_hear_setLink, Option.isSome_map]

end Changes

/-- An exchange with a free socket that a client may use. -/
structure Exchange.Idles (e : Exchange) (c : Client) : Prop where
  /-- The time limits and sizes are the same. -/
  settings_eq : e.settings = c.settings
  /-- The next number is the same. -/
  counter_eq : e.counter = c.counter
  /-- Changes are taken or not. -/
  accepting_eq : e.accepting = c.accepting
  /-- The same waits on the socket. -/
  inbox_eq : e.inbox = c.inbox
  /-- No call has the socket. -/
  holder_eq : e.holder = none

namespace Exchange

variable {e : Exchange} {c : Client}

/-- A call that is added waits for the socket, or is at its end. -/
theorem Idles.add (h : e.Idles c) (call : Call) (hsocket : call.hasSocket = false) :
    (e.add call).Serves c e.calls call :=
  ⟨h.settings_eq, h.counter_eq, h.accepting_eq, h.inbox_eq, rfl, by
    rw [hsocket]
    exact h.holder_eq⟩

/-- A change that a client makes begins with a row of moves that take no time. After them it has come
to its end, or only the end of its time is left to it. -/
theorem setLink_begins (h : e.Idles c) (index : UInt32) (up : Bool) :
    ∃ call, call.requests = [.setLink index up] ∧
      e.Reaches (c.setLink index up).1 e.calls call ∧
      (call.stage = .ended ((c.setLink index up).2.result.map fun _ => []) ∧
          (c.setLink index up).2.elapsed = 0 ∨
        call.left = [.setLink index up] ∧ call.canExpire = true ∧
          (c.setLink index up).2.result =
            .error (overdue (c.setLink index up).1.settings (.setLink index up)) ∧
          0 < (c.setLink index up).2.elapsed) := by
  unfold Client.setLink
  cases haccepting : c.accepting with
  | false =>
    have hstep : e.step? (.change index up) =
        some (e.add (.change index up (.ended (.error .shuttingDown)))) := by
      simp [step?, h.accepting_eq, haccepting]
    exact ⟨_, rfl, .head hstep (.refl (h.add _ rfl)), .inl ⟨rfl, rfl⟩⟩
  | true =>
    have hstep : e.step? (.change index up) = some ((e.draw e.calls.length).add
        (.change index up (.waiting (some (nextSequence e.counter).1)))) := by
      simp [step?, h.accepting_eq, haccepting]
    have hdrawn : (e.draw e.calls.length).Idles { c with counter := (nextSequence c.counter).2 } :=
      ⟨h.settings_eq, by rw [← h.counter_eq]; rfl, h.accepting_eq, h.inbox_eq, h.holder_eq⟩
    obtain ⟨next, htake, hnext⟩ := (hdrawn.add (.change index up
      (.waiting (some (nextSequence e.counter).1))) rfl).take rfl
    have hasking : next.Serves { c.awaitSend with
        counter := (nextSequence c.awaitSend.counter).2 } e.calls
        (.change index up (.sending (nextSequence c.awaitSend.counter).1)) := by
      rw [Client.awaitSend_eq, ← h.counter_eq]
      exact hnext.of_eq rfl (by rw [h.counter_eq]) rfl rfl
    obtain ⟨call', hafter, hreaches⟩ := hasking.ask rfl rfl (c.settings.requestTimeout.toNat ≠ 0)
      fun _ _ _ => c.send_awaitSend
    have hsettings := c.awaitSend.settings_ask (c.settings.requestTimeout.toNat ≠ 0)
      (.setLink index up) ackFrame ()
    rw [Client.settings_awaitSend] at hsettings
    rw [ask_hear_setLink] at hafter hreaches
    simp only [if_true]
    generalize c.awaitSend.ask _ (.setLink index up) ackFrame () = asked
      at hafter hreaches hsettings ⊢
    obtain ⟨c', answer⟩ := asked
    cases answer with
    | some result =>
      obtain rfl : call' = _ := hafter
      refine ⟨_, ?_, .head hstep (.head htake hreaches), .inl ⟨?_, rfl⟩⟩
      all_goals cases result <;> rfl
    | none =>
      obtain ⟨hrequests, hleft, hcan⟩ := hafter
      have hresult : overdue c'.settings (.setLink index up) = .timeout
          (s!"kernel did not acknowledge link set for index {index} within " ++
            durationText c.settings.requestTimeout.toNat) := by
        rw [show c'.settings = c.settings from hsettings]
        rfl
      rcases Nat.eq_zero_or_pos c.settings.requestTimeout.toNat with hzero | hpos
      · exact ⟨{ call' with stage := .ended (.error (overdue c'.settings (.setLink index up))) },
          hrequests, .head hstep (.head htake (hreaches.expire (hleft.trans rfl) hcan)),
          .inl ⟨congrArg (fun failure => Call.Stage.ended (.error failure)) hresult, hzero⟩⟩
      · exact ⟨call', hrequests, .head hstep (.head htake hreaches),
          .inr ⟨hleft.trans rfl, hcan, congrArg Except.error hresult.symm, hpos⟩⟩

/-- A change that a client makes is a row of moves, which ends like the change. -/
theorem setLink_reaches (h : e.Idles c) (index : UInt32) (up : Bool) :
    ∃ call, call.requests = [.setLink index up] ∧
      call.stage = .ended ((c.setLink index up).2.result.map fun _ => []) ∧
      e.Reaches (c.setLink index up).1 e.calls call := by
  obtain ⟨call, hrequests, hreaches, ⟨hstage, -⟩ | ⟨hleft, hcan, hresult, -⟩⟩ :=
    setLink_begins h index up
  · exact ⟨call, hrequests, hstage, hreaches⟩
  · refine ⟨_, ?_, ?_, hreaches.expire hleft hcan⟩
    · exact hrequests
    · rw [hresult]
      rfl

end Exchange

/-! ## Dumps -/

/-- The failure of a dump whose time is over. -/
theorem IsDump.overdue_eq {request : Request} (h : IsDump request) (settings : NetlinkConfig) :
    overdue settings request =
      .timeout s!"netlink dump exceeded {durationText settings.startupTimeout.toNat}" := by
  cases request with
  | setLink index up => exact absurd rfl (h index up)
  | _ => rfl

/-- What a dump has become: it has ended, or still waits for the entries of a table. -/
def Call.Dumped (call : Call) : Option (Except Failure (List Event)) → Prop
  | some result => call.stage = .ended result
  | none => call.canExpire = true ∧ ∃ request left, call.left = request :: left ∧ IsDump request

namespace Exchange

variable {e : Exchange} {c : Client} {before : List Call} {call : Call}

/-- A call that needs a number draws it. -/
theorem Serves.draw (h : e.Serves c before call) (hstage : call.stage = .holding) :
    ∃ next, e.step? (.draw before.length) = some next ∧
      next.Serves { c with counter := (nextSequence c.counter).2 } before
        { call with stage := .sending (nextSequence c.counter).1 } := by
  have hsocket : Call.hasSocket { call with stage := .sending (nextSequence c.counter).1 } =
      call.hasSocket := by
    simp [Call.hasSocket, hstage]
  have hdrawn : (e.draw before.length).Serves
      { c with counter := (nextSequence c.counter).2 } before call :=
    ⟨h.settings_eq, by rw [← h.counter_eq]; rfl, h.accepting_eq, h.inbox_eq, h.calls_eq,
      h.holder_eq⟩
  refine ⟨_, ?_, hdrawn.put (.inl hsocket)⟩
  simp [step?, h.found, hstage, h.counter_eq]

/-- Dumping one table after the other is a row of moves. -/
theorem Serves.dumpAll (patient : Bool) {requests : List Request} (hne : requests ≠ [])
    (hdumps : ∀ request ∈ requests, IsDump request) (h : e.Serves c before call)
    (hstage : call.stage = .holding) (hleft : call.left = requests) :
    ∃ call', call'.requests = call.requests ∧
      call'.Dumped (c.dumpAll patient call.listed requests).2 ∧
      e.Reaches (c.dumpAll patient call.listed requests).1 before call' := by
  induction requests generalizing e c call with
  | nil => exact absurd rfl hne
  | cons request rest ih =>
    have hdump := hdumps request List.mem_cons_self
    obtain ⟨next, hdraw, hnext⟩ := h.draw hstage
    obtain ⟨call', hafter, hreaches⟩ := hnext.ask rfl hleft patient fun index up heq =>
      absurd heq (hdump index up)
    rw [hdump.hear_eq] at hafter hreaches
    rw [Client.dumpAll]
    generalize c.ask patient request dumpFrame [] = asked at hafter hreaches ⊢
    obtain ⟨c', answer⟩ := asked
    cases answer with
    | none =>
      obtain ⟨hrequests, hsame, hcan⟩ := hafter
      exact ⟨call', hrequests, ⟨hcan, request, rest, hsame.trans hleft, hdump⟩,
        .head hdraw hreaches⟩
    | some result =>
      obtain rfl : call' = _ := hafter
      cases result with
      | error failure =>
        refine ⟨_, ?_, ?_, .head hdraw hreaches⟩
        all_goals rfl
      | ok more =>
        cases rest with
        | nil =>
          refine ⟨_, ?_, ?_, .head hdraw hreaches⟩
          all_goals rfl
        | cons request' rest =>
          obtain ⟨moves, mid, hrun, hmid⟩ := hreaches
          obtain ⟨call', hrequests, hdumped, hrest⟩ := ih (List.cons_ne_nil _ _)
            (fun request hmem => hdumps request (List.mem_cons_of_mem _ hmem)) hmid rfl rfl
          exact ⟨call', hrequests, hdumped, .head hdraw (.of_run hrun hrest)⟩

/-- A dump that a client asks for is a row of moves, which ends like the dump. -/
theorem dump_reaches (h : e.Idles c) :
    ∃ call, call.requests = [.dumpLinks, .dumpAddresses, .dumpRoutes] ∧
      call.stage = .ended c.dump.2.result ∧ e.Reaches c.dump.1 e.calls call := by
  have hstep : e.step? .dump = some (e.add .dump) := rfl
  obtain ⟨next, htake, hnext⟩ := (h.add .dump rfl).take rfl
  obtain ⟨call, hrequests, hdumped, hreaches⟩ := hnext.dumpAll
    (c.settings.startupTimeout.toNat ≠ 0) (List.cons_ne_nil _ _)
    (by simp [IsDump]) rfl rfl
  have hsettings := c.settings_dumpAll (c.settings.startupTimeout.toNat ≠ 0) []
    [.dumpLinks, .dumpAddresses, .dumpRoutes]
  unfold Client.dump
  change call.Dumped (c.dumpAll _ [] _).2 at hdumped
  change next.Reaches (c.dumpAll _ [] _).1 _ _ at hreaches
  simp only
  generalize c.dumpAll _ [] [.dumpLinks, .dumpAddresses, .dumpRoutes] = dumped
    at hdumped hreaches hsettings ⊢
  obtain ⟨c', answer⟩ := dumped
  cases answer with
  | some result => exact ⟨call, hrequests, hdumped, .head hstep (.head htake hreaches)⟩
  | none =>
    obtain ⟨hcan, request, left, hleft, hdump⟩ := hdumped
    have hresult : overdue c'.settings request = .timeout
        s!"netlink dump exceeded {durationText c.settings.startupTimeout.toNat}" := by
      rw [show c'.settings = c.settings from hsettings, hdump.overdue_eq]
    exact ⟨{ call with stage := .ended (.error (overdue c'.settings request)) },
      hrequests, congrArg (fun failure => Call.Stage.ended (.error failure)) hresult,
      .head hstep (.head htake (hreaches.expire hleft hcan))⟩

end Exchange

/-! ## Errands -/

/-- What a client can be asked for. -/
inductive Errand
  /-- Turning an interface on or off. -/
  | setLink (index : UInt32) (up : Bool)
  /-- Listing all tables. -/
  | dump

namespace Client

/-- Carries out an errand. A change lists nothing. -/
def carryOut (c : Client) : Errand → Client × Except Failure (List Event)
  | .setLink index up => ((c.setLink index up).1, (c.setLink index up).2.result.map fun _ => [])
  | .dump => (c.dump.1, c.dump.2.result)

/-- Carries out errands one after the other. -/
def carryOutAll (c : Client) : List Errand → Client × List (Except Failure (List Event))
  | [] => (c, [])
  | errand :: rest =>
    let (c, result) := c.carryOut errand
    let (c, results) := c.carryOutAll rest
    (c, result :: results)

end Client

namespace Exchange

variable {e : Exchange} {c : Client}

/-- At the end of a call the socket is free. -/
theorem Serves.idles {before : List Call} {call : Call} {result : Except Failure (List Event)}
    (h : e.Serves c before call) (hstage : call.stage = .ended result) : e.Idles c :=
  ⟨h.settings_eq, h.counter_eq, h.accepting_eq, h.inbox_eq, by
    rw [h.holder_eq, Call.hasSocket, hstage]
    rfl⟩

/-- An errand is a row of moves, which ends like the errand. -/
theorem carryOut_reaches (h : e.Idles c) (errand : Errand) :
    ∃ call, call.stage = .ended (c.carryOut errand).2 ∧
      e.Reaches (c.carryOut errand).1 e.calls call := by
  cases errand with
  | setLink index up =>
    obtain ⟨call, -, hstage, hreaches⟩ := setLink_reaches h index up
    exact ⟨call, hstage, hreaches⟩
  | dump =>
    obtain ⟨call, -, hstage, hreaches⟩ := dump_reaches h
    exact ⟨call, hstage, hreaches⟩

/-- Errands that a client carries out one after the other are a row of moves: each of them is a
call, which ends like the errand. -/
theorem carryOutAll_reaches (h : e.Idles c) (errands : List Errand) :
    ∃ moves last, e.run? moves = some last ∧ last.Idles (c.carryOutAll errands).1 ∧
      last.calls.map (·.stage) =
        e.calls.map (·.stage) ++ (c.carryOutAll errands).2.map Call.Stage.ended := by
  induction errands generalizing e c with
  | nil => exact ⟨[], e, rfl, h, by simp [Client.carryOutAll]⟩
  | cons errand rest ih =>
    obtain ⟨call, hstage, moves, mid, hrun, hmid⟩ := carryOut_reaches h errand
    obtain ⟨more, last, hmore, hlast, hstages⟩ := ih (hmid.idles hstage)
    refine ⟨moves ++ more, last, ?_, hlast, ?_⟩
    · rw [run?_append, hrun, Option.bind_some, hmore]
    · rw [hstages, hmid.calls_eq]
      simp [Client.carryOutAll, hstage]

end Exchange

end LinkBus.Netlink
