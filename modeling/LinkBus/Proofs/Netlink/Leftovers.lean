import LinkBus.Proofs.Netlink.Dumps

/-!
# What a dump does not hear

A dump hears the frames with its own numbers alone. Whatever else is received before, between or
behind them, a dump takes the same course. Each dump draws its own numbers, and none of them is a
number of the dump before it. So what a dump has left behind on the socket, or what comes late for
it, makes no difference to the next one.
-/

namespace LinkBus.Netlink

open Wire

/-! ## Receiving when only some frames count -/

/-- Whether a frame carries one of some numbers. -/
def carries (numbers : List UInt32) : Except Malformed Frame → Bool
  | .ok frame => (number? frame).any numbers.contains
  | .error _ => false

/-- What a receipt comes to: the frames of a datagram that count, or a fault. -/
inductive Gist
  | frames (items : List (Except Malformed Frame))
  | fault (errno : Int)

section Gists

variable (size : Nat) (keep : Except Malformed Frame → Bool)

/-- What a receipt comes to, if anything of it counts. -/
def Receipt.gist? : Receipt → Option Gist
  | .fault errno => some (.fault errno)
  | .datagram bytes =>
    match (readFrames (bytes.take size)).filter keep with
    | [] => none
    | item :: items => some (.frames (item :: items))

/-- What receipts come to, one after the other. -/
def gists (receipts : List Receipt) : List Gist := receipts.filterMap (Receipt.gist? size keep)

@[simp] theorem gists_append (first second : List Receipt) :
    gists size keep (first ++ second) = gists size keep first ++ gists size keep second :=
  List.filterMap_append

/-- What comes for a request that meets a reply. -/
def Reply.gists : Reply → Except Failure (List Gist)
  | .queued receipts => .ok (Netlink.gists size keep receipts)
  | .refused errno => .error (.io (.errno errno))

end Gists

/-- Goes through what receipts come to until there is an answer, and tells what is left. -/
def awaitGists {σ α : Type} (step : σ → Frame → Waiting σ α) :
    σ → List Gist → Option (Except Failure α) × List Gist
  | _, [] => (none, [])
  | _, .fault errno :: rest => (some (.error (.io (.errno errno))), rest)
  | state, .frames items :: rest =>
    match scan step state items with
    | .more state => awaitGists step state rest
    | .answered result => (some result, rest)

section Waiting

variable {size : Nat} {keep : Except Malformed Frame → Bool}

/-- If frames that do not count change nothing, then receipts are heard as what they come to. -/
theorem awaitGists_gists {σ α : Type} {step : σ → Frame → Waiting σ α}
    (hskip : ∀ frame, keep (.ok frame) = false → ∀ state, step state frame = .more state)
    (state : σ) (receipts : List Receipt) :
    awaitGists step state (gists size keep receipts) =
      ((await size step state receipts).1, gists size keep (await size step state receipts).2) := by
  induction receipts generalizing state with
  | nil => rfl
  | cons receipt rest ih =>
    cases receipt with
    | fault errno => rfl
    | datagram bytes =>
      have hscan : scan step state ((readFrames (bytes.take size)).filter keep) =
          scan step state (readFrames (bytes.take size)) :=
        scan_filter (fun frame _ hkeep => hskip frame hkeep) state
      rw [gists, List.filterMap_cons, Receipt.gist?, await]
      cases hkept : (readFrames (bytes.take size)).filter keep with
      | nil =>
        rw [hkept, scan] at hscan
        rw [← hscan]
        exact ih state
      | cons item items =>
        rw [hkept] at hscan
        rw [← hscan]
        simp only [awaitGists]
        cases scan step state (item :: items) with
        | more state => exact ih state
        | answered result => rfl

/-- A frame without the number of a request changes nothing for it. -/
theorem dumpFrame_of_number?_ne {seq : UInt32} {frame : Frame} (h : number? frame ≠ some seq)
    (events : List Event) : dumpFrame seq events frame = .more events := by
  cases hnumber : number? frame with
  | none => cases frame <;> first | rfl | cases hnumber
  | some other =>
    have hne : other ≠ seq := fun heq => h (heq ▸ hnumber)
    have hheard : hear .dumpLinks seq events frame = .more events := hear_of_number_ne hnumber hne
    exact hheard

end Waiting

/-! ## Clients for which the same counts -/

namespace Client

/-- Two clients draw the same numbers and have the same time limits, and the same comes to them as
far as frames count. -/
structure AgreeOn (keep : Except Malformed Frame → Bool) (c c' : Client) : Prop where
  /-- They have the same time limits and sizes. -/
  settings : c'.settings = c.settings
  /-- They draw the same numbers. -/
  counter : c'.counter = c.counter
  /-- Where a dump does not wait for the socket, it was seen ready for the same. -/
  readiness : c.isPatient = true ∨ c'.readiness = c.readiness
  /-- What waits comes to the same. -/
  inbox : gists (room c.settings.receiveBuffer) keep c'.inbox =
    gists (room c.settings.receiveBuffer) keep c.inbox
  /-- What will come for requests comes to the same. -/
  replies : c'.kernel.replies.map (Reply.gists (room c.settings.receiveBuffer) keep) =
    c.kernel.replies.map (Reply.gists (room c.settings.receiveBuffer) keep)

namespace AgreeOn

variable {keep : Except Malformed Frame → Bool} {c c' : Client} {request : Request}

theorem isPatient (h : AgreeOn keep c c') : c'.isPatient = c.isPatient := by
  rw [Client.isPatient, h.settings, Client.isPatient]

theorem number (h : AgreeOn keep c c') : c'.number = c.number := by
  rw [Client.number, h.counter, Client.number]

theorem counter_next (h : AgreeOn keep c c') :
    (nextSequence c'.counter).2 = (nextSequence c.counter).2 := by
  rw [h.counter]

/-- The clients have no time to wait for the same. -/
theorem noTime {ready ready' : Bool} (h : AgreeOn keep c c')
    (hready : c.isPatient = true ∨ ready' = ready) :
    (!c'.isPatient && !ready') = (!c.isPatient && !ready) := by
  rw [h.isPatient]
  rcases hready with hpatient | rfl
  · simp [hpatient]
  · rfl

/-- What becomes of a request is what the next reply of the script comes to. -/
theorem map_reply (size : Nat) (keep : Except Malformed Frame → Bool) (c : Client)
    (request : Request) :
    (c.reply request).map (gists size keep) =
      ((c.kernel.replies.map (Reply.gists size keep)).head?).getD (.ok []) := by
  rw [reply, Kernel.send]
  cases c.kernel.replies with
  | nil => rfl
  | cons reply rest => cases reply <;> rfl

/-- The same request comes to the same. -/
theorem reply (h : AgreeOn keep c c') (request : Request) :
    (c'.reply request).map (gists (room c.settings.receiveBuffer) keep) =
      (c.reply request).map (gists (room c.settings.receiveBuffer) keep) := by
  rw [map_reply, h.replies, ← map_reply]

/-- After a request, the replies that are left still come to the same. -/
theorem replies_send (h : AgreeOn keep c c') (bytes bytes' : List UInt8) :
    (c'.kernel.send bytes').1.replies.map (Reply.gists (room c.settings.receiveBuffer) keep) =
      (c.kernel.send bytes).1.replies.map (Reply.gists (room c.settings.receiveBuffer) keep) := by
  have htail : ∀ (kernel : Kernel) (bytes : List UInt8),
      (kernel.send bytes).1.replies = kernel.replies.tail := by
    intro kernel bytes
    rw [Kernel.send]
    cases kernel.replies.headD (.queued []) <;> rfl
  rw [htail, htail, List.map_tail, List.map_tail, h.replies]

/-- Clients that were ready for the same still are when they can send. -/
theorem readiness_awaitSend (h : AgreeOn keep c c')
    (hsend : ¬ (!c.isPatient && !c.readiness.send) = true) :
    c.isPatient = true ∨ c'.awaitSend.readiness = c.awaitSend.readiness := by
  cases hpatient : c.isPatient with
  | true => exact .inl rfl
  | false =>
    have hready : c.readiness.send = true := by simpa [hpatient] using hsend
    have hsame := h.readiness.resolve_left (by simp [hpatient])
    rw [Client.readiness_awaitSend hready, Client.readiness_awaitSend (hsame ▸ hready)]
    exact .inr hsame

/-- After the same request, clients agree if what waits comes to the same. -/
theorem afterSending (h : AgreeOn keep c c') {inbox inbox' : List Receipt}
    {readiness readiness' : Readiness}
    (hinbox : gists (room c.settings.receiveBuffer) keep inbox' =
      gists (room c.settings.receiveBuffer) keep inbox)
    (hreadiness : c.isPatient = true ∨ readiness' = readiness) :
    AgreeOn keep (c.afterSending request inbox readiness)
      (c'.afterSending request inbox' readiness') where
  settings := h.settings
  counter := h.counter_next
  readiness := hreadiness
  inbox := hinbox
  replies := h.replies_send _ _

/-- The answers to the same request come to the same. -/
theorem await (h : AgreeOn keep c c') {inbox inbox' : List Receipt}
    (hkeep : ∀ frame, number? frame = some c.number → keep (.ok frame) = true)
    (hinbox : gists (room c.settings.receiveBuffer) keep inbox' =
      gists (room c.settings.receiveBuffer) keep inbox) :
    let heard := Netlink.await (room c.settings.receiveBuffer) (dumpFrame c.number) [] inbox
    let heard' := Netlink.await (room c'.settings.receiveBuffer) (dumpFrame c'.number) [] inbox'
    heard'.1 = heard.1 ∧ gists (room c.settings.receiveBuffer) keep heard'.2 =
      gists (room c.settings.receiveBuffer) keep heard.2 := by
  have hskip : ∀ frame, keep (.ok frame) = false → ∀ events,
      dumpFrame c.number events frame = .more events := by
    intro frame hfalse events
    refine dumpFrame_of_number?_ne (fun hnumber => ?_) events
    rw [hkeep frame hnumber] at hfalse
    cases hfalse
  have hgists : awaitGists (dumpFrame c.number) []
      (gists (room c.settings.receiveBuffer) keep inbox) = _ := awaitGists_gists hskip [] inbox
  rw [← hinbox, awaitGists_gists hskip] at hgists
  rw [h.settings, h.number]
  exact Prod.mk.inj hgists

/-- If the frames with its number count, a request is answered alike, and the clients agree after
it. -/
theorem ask (h : AgreeOn keep c c')
    (hkeep : ∀ frame, number? frame = some c.number → keep (.ok frame) = true)
    (request : Request) :
    (c'.ask c'.isPatient request dumpFrame []).2 = (c.ask c.isPatient request dumpFrame []).2 ∧
      AgreeOn keep (c.ask c.isPatient request dumpFrame []).1
        (c'.ask c'.isPatient request dumpFrame []).1 := by
  have hunsent := h.noTime (h.readiness.imp_right (congrArg Readiness.send))
  have hreply := h.reply request
  rw [ask_eq, ask_eq, hunsent]
  split
  · exact ⟨rfl, h.settings, h.counter_next, h.readiness, h.inbox, h.replies⟩
  · next hsend =>
    have hready := h.readiness_awaitSend hsend
    -- both requests are refused alike, or both are taken
    cases hc : c.reply request <;> cases hc' : c'.reply request <;> rw [hc, hc'] at hreply
    case error.error failure failure' =>
      obtain rfl := Except.error.inj hreply
      exact ⟨rfl, h.afterSending h.inbox hready⟩
    case error.ok => cases hreply
    case ok.error => cases hreply
    case ok.ok receipts receipts' =>
      have hinbox : gists (room c.settings.receiveBuffer) keep (c'.inbox ++ receipts') =
          gists (room c.settings.receiveBuffer) keep (c.inbox ++ receipts) := by
        rw [gists_append, gists_append, h.inbox, Except.ok.inj hreply]
      have hunread := h.noTime (hready.imp_right (congrArg Readiness.receive))
      obtain ⟨hanswer, hrest⟩ := h.await hkeep hinbox
      simp only
      rw [hunread]
      split
      · exact ⟨rfl, h.afterSending hinbox hready⟩
      · exact ⟨hanswer, h.afterSending hrest (.inr (by rw [hanswer]))⟩

/-- If the frames with its numbers count, a row of requests is answered alike. -/
theorem dumpAll {requests : List Request} (h : AgreeOn keep c c')
    (hkeep : ∀ frame seq, number? frame = some seq →
      seq ∈ (draws requests.length c.counter).1 → keep (.ok frame) = true)
    (events : List Event) :
    (c'.dumpAll c'.isPatient events requests).2 = (c.dumpAll c.isPatient events requests).2 := by
  induction requests generalizing c c' events with
  | nil => rfl
  | cons request rest ih =>
    obtain ⟨hanswer, hnext⟩ := h.ask (fun frame hnumber =>
      hkeep frame c.number hnumber List.mem_cons_self) request
    have hcounter := c.counter_ask request
    have hpatient := isPatient_ask c request
    have hpatient' := isPatient_ask c' request
    rw [Client.dumpAll, Client.dumpAll]
    generalize c.ask c.isPatient request dumpFrame [] = asked at hanswer hnext hcounter hpatient ⊢
    generalize c'.ask c'.isPatient request dumpFrame [] = asked' at hanswer hnext hpatient' ⊢
    obtain ⟨next, answer⟩ := asked
    obtain ⟨next', answer'⟩ := asked'
    obtain rfl : answer' = answer := hanswer
    rcases answer' with _ | failure | more
    · rfl
    · rfl
    · have hrest := ih hnext (fun frame seq hnumber hmem => hkeep frame seq hnumber ?_)
        (events ++ more)
      · simp only at hpatient hpatient' ⊢
        rw [← hpatient, ← hpatient']
        exact hrest
      · simp only at hcounter hmem
        rw [hcounter] at hmem
        exact List.mem_cons_of_mem _ hmem

/-- If the frames with its numbers count, a dump takes the same course. -/
theorem dump (h : AgreeOn keep c c')
    (hkeep : ∀ frame seq, number? frame = some seq →
      seq ∈ (draws dumpRequests.length c.counter).1 → keep (.ok frame) = true) :
    c'.dump.2 = c.dump.2 := by
  rw [dump_eq, dump_eq, timed, timed, overdueDump, overdueDump, h.settings, h.dumpAll hkeep []]

end AgreeOn

/-- The numbers of a dump, and the requests that it has sent under them. The last one may be left
unsent. -/
theorem numbers_dump (c : Client) :
    ∃ drawn ≤ dumpRequests.length, ∃ sent ≤ drawn, drawn ≤ sent + 1 ∧
      c.dump.1.counter = (draws drawn c.counter).2 ∧
        c.dump.1.kernel.sent = c.kernel.sent ++
          List.zipWith Request.toBytes (dumpRequests.take sent) (draws drawn c.counter).1 := by
  rw [dump_eq]
  exact c.numbers_dumpAll [] dumpRequests

/-- Datagrams without a frame that counts come to nothing where they wait in front of the others. -/
theorem AgreeOn.of_leftovers {keep : Except Malformed Frame → Bool} (c : Client)
    {leftovers : List (List UInt8)}
    (h : ∀ item ∈ framesIn (room c.settings.receiveBuffer) leftovers, keep item = false) :
    AgreeOn keep c { c with inbox := leftovers.map .datagram ++ c.inbox } where
  settings := rfl
  counter := rfl
  readiness := .inr rfl
  replies := rfl
  inbox := by
    have hnone : gists (room c.settings.receiveBuffer) keep (leftovers.map .datagram) = [] := by
      rw [gists, List.filterMap_eq_nil_iff, List.forall_mem_map]
      intro bytes hbytes
      have hframes : (readFrames (bytes.take (room c.settings.receiveBuffer))).filter keep = [] :=
        List.filter_eq_nil_iff.2 fun item hmem =>
          Bool.eq_false_iff.1 (h item (List.mem_flatMap.2 ⟨bytes, hbytes, hmem⟩))
      rw [Receipt.gist?, hframes]
    rw [gists_append, hnone, List.nil_append]

section Later

variable {counter : UInt32} {drawn between : Nat} {next : Client}

/-- What was left behind under numbers that were drawn before makes no difference to a dump, unless
the circle of numbers is closed between. -/
theorem AgreeOn.dump_of_leftovers {next' : Client}
    (hround : drawn + (between + dumpRequests.length) ≤ numberCount)
    (hnext : next.counter = (draws between (draws drawn counter).2).2)
    (h : AgreeOn (fun item => !carries (draws drawn counter).1 item) next next') :
    next'.dump.2 = next.dump.2 := by
  refine h.dump fun frame seq hnumber hmem => ?_
  rw [hnext] at hmem
  have hnot : seq ∉ (draws drawn counter).1 := fun hseq =>
    ne_of_mem_draws hround hseq (mem_draws_add hmem) rfl
  simp [carries, hnumber, hnot]

/-- So it does not matter which of these frames still wait on the socket when a dump begins. -/
theorem dump_behind_leftovers {leftovers : List (List UInt8)}
    (hround : drawn + (between + dumpRequests.length) ≤ numberCount)
    (hnext : next.counter = (draws between (draws drawn counter).2).2)
    (h : ∀ item ∈ framesIn (room next.settings.receiveBuffer) leftovers,
      carries (draws drawn counter).1 item = true) :
    (dump { next with inbox := leftovers.map .datagram ++ next.inbox }).2 = next.dump.2 := by
  have hnone : ∀ item ∈ framesIn (room next.settings.receiveBuffer) leftovers,
      (!carries (draws drawn counter).1 item) = false := fun item hmem => by simp [h item hmem]
  exact (AgreeOn.of_leftovers next hnone).dump_of_leftovers hround hnext

end Later

/-! ## What a dump lists -/

/-- A dump lists links, then addresses, then routes: the events with the number of each request that
come in the datagrams which are received after it was sent, up to the first last frame with the
number. It fails exactly if one of its requests fails after those before it were listed: sending or
receiving fails, an error acknowledgment with its number comes before the last frame, or the time is
over. Frames with other numbers make no difference. Nor does what the dump leaves behind, under the
numbers with which it sent its requests, to any dump after it, until all numbers were drawn. -/
theorem dump_lists_answers (c : Client) :
    (∀ events, c.dump.2.result = .ok events ↔
      ∃ c₁ c₂ c₃ links addresses routes, c.Lists .dumpLinks links c₁ ∧
        c₁.Lists .dumpAddresses addresses c₂ ∧ c₂.Lists .dumpRoutes routes c₃ ∧
        events = links ++ addresses ++ routes) ∧
    (∀ failure, c.dump.2.result = .error failure ↔
      c.Fails .dumpLinks failure ∨
      (∃ c₁ links, c.Lists .dumpLinks links c₁ ∧ c₁.Fails .dumpAddresses failure) ∨
      ∃ c₁ c₂ links addresses, c.Lists .dumpLinks links c₁ ∧
        c₁.Lists .dumpAddresses addresses c₂ ∧ c₂.Fails .dumpRoutes failure) ∧
    (∀ c', AgreeOn (carries (draws dumpRequests.length c.counter).1) c c' →
      c'.dump.2 = c.dump.2) ∧
    ∃ drawn ≤ dumpRequests.length, c.dump.1.counter = (draws drawn c.counter).2 ∧
      (∃ sent ≤ drawn, drawn ≤ sent + 1 ∧ c.dump.1.kernel.sent = c.kernel.sent ++
        List.zipWith Request.toBytes (dumpRequests.take sent) (draws drawn c.counter).1) ∧
      ∀ (between : Nat) (next next' : Client),
        drawn + (between + dumpRequests.length) ≤ numberCount →
        next.counter = (draws between c.dump.1.counter).2 →
        AgreeOn (fun item => !carries (draws drawn c.counter).1 item) next next' →
          next'.dump.2 = next.dump.2 := by
  refine ⟨fun events => dump_eq_ok_iff.trans listsAll_dumpRequests_iff,
    fun failure => dump_eq_error_iff.trans failsIn_dumpRequests_iff, fun c' h => ?_, ?_⟩
  · refine h.dump fun frame seq hnumber hmem => ?_
    simp [carries, hnumber, hmem]
  · obtain ⟨drawn, hdrawn, sent, hsent, hall, hcounter, hlog⟩ := c.numbers_dump
    refine ⟨drawn, hdrawn, hcounter, ⟨sent, hsent, hall, hlog⟩, ?_⟩
    intro between next next' hround hnext h
    rw [hcounter] at hnext
    exact h.dump_of_leftovers hround hnext

/-- A client whose second request is answered before it is sent, behind the last message of the
first answer. -/
def hurried : Client := answeredBy (lastMessage 1 0 ++ linkMessage 2 2)

/-- The event that comes with the number of the second request before the last frame with this
number is not listed. -/
theorem hurried_answer_unlisted :
    hurried.dump.1.kernel.sent = [Request.dumpLinks.toBytes 1, Request.dumpAddresses.toBytes 2,
        Request.dumpRoutes.toBytes 3] ∧
      framesIn (room hurried.settings.receiveBuffer)
          [lastMessage 1 0 ++ linkMessage 2 2, lastMessage 2 0, lastMessage 3 0] =
        [.ok (.done 1), .ok (.event 2 (.newLink (bareLink 2))), .ok (.done 2), .ok (.done 3)] ∧
      hurried.dump.2.result = .ok [] := by
  have hshort : ∀ seq, (lastMessage seq 0).take (room hurried.settings.receiveBuffer) =
      lastMessage seq 0 := fun _ => rfl
  have hshared : (lastMessage 1 0 ++ linkMessage 2 2).take (room hurried.settings.receiveBuffer) =
      lastMessage 1 0 ++ linkMessage 2 2 := rfl
  have hframes : readFrames (lastMessage 1 0 ++ linkMessage 2 2) =
      [] ++ .ok (.done 1) :: [.ok (.event 2 (.newLink (bareLink 2)))] := by
    rw [readFrames_lastMessage_append, readFrames_linkMessage, List.nil_append]
  obtain ⟨hsent, hresult⟩ := dump_answeredBy (hshared.symm ▸ hframes) (by simp)
  exact ⟨hsent, by simp [framesIn, hshared, hshort, hframes, readFrames_lastMessage], hresult⟩

end Client

end LinkBus.Netlink
