import LinkBus.Proofs.Exchange.Hearing
import Mathlib.Data.List.Nodup
import Mathlib.Data.List.Pairwise

/-!
# Numbers and answers of calls

As long as the sequence numbers do not run out, each is drawn once and sent at most once. So a call
that was answered was answered by the frame with the number of its own request: each move keeps it
so, and with it each run.
-/

namespace LinkBus.Netlink

open Wire

/-- The numbers that were drawn. -/
def drawnNumbers (log : List Happening) : List UInt32 :=
  log.filterMap fun
    | .drew _ seq => some seq
    | _ => none

/-- The numbers under which requests were sent. -/
def sentNumbers (log : List Happening) : List UInt32 :=
  log.filterMap fun
    | .sent _ seq _ => some seq
    | _ => none

/-- How many numbers there are. -/
def numberCount : Nat := UInt32.size - 1

/-- A request was acknowledged: it was sent under some number, and an acknowledgment with this
number came to the socket. -/
def Acknowledged (log : List Happening) (c : Nat) (request : Request) (errno : Option Int) : Prop :=
  ∃ seq bytes, .sent c seq request ∈ log ∧ .queued (.datagram bytes) ∈ log ∧
    .ok (.ack seq errno) ∈ readFrames bytes

/-- The number that a call has drawn and not used yet. -/
def Call.unused? (call : Call) : Option UInt32 :=
  match call.stage with
  | .waiting seq => seq
  | .sending seq => some seq
  | _ => none

/-- What a call has done is in the log. -/
structure Call.Logged (log : List Happening) (c : Nat) (call : Call) : Prop where
  /-- It asks for nothing but its requests. -/
  left_suffix : call.left <:+ call.requests
  /-- A number that it has not used yet was drawn by it and not sent. -/
  unused : ∀ seq ∈ call.unused?, .drew c seq ∈ log ∧ seq ∉ sentNumbers log
  /-- While it receives, its request was sent. -/
  receiving : ∀ seq events, call.stage = .receiving seq events →
    ∃ request left, call.left = request :: left ∧ .sent c seq request ∈ log
  /-- A change that was granted was acknowledged. -/
  granted : ∀ index up events, call.requests = [.setLink index up] →
    call.stage = .ended (.ok events) → Acknowledged log c (.setLink index up) none
  /-- A call that was refused has a request that was acknowledged with the error. -/
  refused : ∀ errno, call.stage = .ended (.error (.rejected errno)) →
    ∃ request ∈ call.requests, Acknowledged log c request (some errno)

/-- The log and the calls belong together. -/
structure Exchange.Sound (e : Exchange) : Prop where
  /-- The numbers that were drawn are the first ones. -/
  drawn_eq : drawnNumbers e.log =
    (List.range (drawnNumbers e.log).length).map fun k => UInt32.ofNat (k + 1)
  /-- The counter is at the next one. -/
  counter_eq : e.counter = UInt32.ofNat ((drawnNumbers e.log).length + 1)
  /-- Requests are sent under numbers that were drawn for them. -/
  drawn_of_sent : ∀ c seq request, .sent c seq request ∈ e.log → .drew c seq ∈ e.log
  /-- No number is sent twice. -/
  nodup_sent : (sentNumbers e.log).Nodup
  /-- What waits on the socket came to it. -/
  queued : ∀ receipt ∈ e.inbox, .queued receipt ∈ e.log
  /-- What the calls have done is in the log. -/
  logged : ∀ (c : Nat) (call : Call), e.calls[c]? = some call → call.Logged e.log c

variable {log : List Happening} {c : Nat} {call : Call} {e : Exchange}

/-! ## Numbers -/

/-- The numbers of the log come from its entries. -/
theorem mem_drawnNumbers {seq : UInt32} :
    seq ∈ drawnNumbers log ↔ ∃ c, .drew c seq ∈ log := by
  rw [drawnNumbers, List.mem_filterMap]
  constructor
  · rintro ⟨entry, hmem, hseq⟩
    cases entry <;> cases hseq
    exact ⟨_, hmem⟩
  · rintro ⟨c, hmem⟩
    exact ⟨_, hmem, rfl⟩

/-- The numbers that were sent come from the entries of the log. -/
theorem mem_sentNumbers {seq : UInt32} :
    seq ∈ sentNumbers log ↔ ∃ c request, .sent c seq request ∈ log := by
  rw [sentNumbers, List.mem_filterMap]
  constructor
  · rintro ⟨entry, hmem, hseq⟩
    cases entry <;> cases hseq
    exact ⟨_, _, hmem⟩
  · rintro ⟨c, request, hmem⟩
    exact ⟨_, hmem, rfl⟩

/-- Entries with the same number are the same if no number occurs twice. -/
theorem eq_of_nodup_filterMap {α β : Type} {f : α → Option β} {l : List α}
    (h : (l.filterMap f).Nodup) {a b : α} (ha : a ∈ l) (hb : b ∈ l) {x : β}
    (hax : f a = some x) (hbx : f b = some x) : a = b := by
  by_contra hne
  have hpairs : l.Pairwise fun a b => ∀ x ∈ f a, ∀ y ∈ f b, x ≠ y := List.pairwise_filterMap.1 h
  have : Std.Symm fun a b => ∀ x ∈ f a, ∀ y ∈ f b, x ≠ y :=
    ⟨fun a b hab x hx y hy => (hab y hy x hx).symm⟩
  exact hpairs.forall ha hb hne x hax x hbx rfl

/-- As long as they do not run out, the first numbers are distinct. -/
theorem nodup_firstNumbers {n : Nat} (h : n ≤ numberCount) :
    ((List.range n).map fun k => UInt32.ofNat (k + 1)).Nodup := by
  refine List.Nodup.map_on (fun a ha b hb hab => ?_) List.nodup_range
  have hab := congrArg UInt32.toNat hab
  rw [List.mem_range] at ha hb
  simp only [UInt32.toNat_ofNat', numberCount, UInt32.size] at hab h
  omega

namespace Exchange.Sound

/-- No number was drawn twice. -/
theorem nodup_drawn (h : e.Sound) (hbound : (drawnNumbers e.log).length ≤ numberCount) :
    (drawnNumbers e.log).Nodup := by
  rw [h.drawn_eq]
  exact nodup_firstNumbers hbound

/-- The next number is not zero, and the counter moves on by one. -/
theorem nextSequence_counter (h : e.Sound)
    (hbound : (drawnNumbers e.log).length < numberCount) :
    nextSequence e.counter = (UInt32.ofNat ((drawnNumbers e.log).length + 1),
      UInt32.ofNat ((drawnNumbers e.log).length + 2)) := by
  have hne : UInt32.ofNat ((drawnNumbers e.log).length + 1) ≠ 0 := by
    intro hzero
    have hzero := congrArg UInt32.toNat hzero
    simp only [numberCount, UInt32.size] at hbound
    rw [UInt32.toNat_ofNat', Nat.mod_eq_of_lt (by omega)] at hzero
    cases hzero
  rw [h.counter_eq, nextSequence, if_neg hne, ← UInt32.ofNat_one, ← UInt32.ofNat_add]

end Exchange.Sound

/-! ## What the log keeps -/

/-- Acknowledgments stay. -/
theorem Acknowledged.append {request : Request} {errno : Option Int}
    (h : Acknowledged log c request errno) (more : List Happening) :
    Acknowledged (log ++ more) c request errno := by
  obtain ⟨seq, bytes, hsent, hqueued, hframe⟩ := h
  exact ⟨seq, bytes, List.mem_append_left _ hsent, List.mem_append_left _ hqueued, hframe⟩

/-- A call stays logged unless its number is sent. -/
theorem Call.Logged.append (h : call.Logged log c) {more : List Happening}
    (hunused : ∀ seq ∈ call.unused?, seq ∉ sentNumbers more) : call.Logged (log ++ more) c where
  left_suffix := h.left_suffix
  unused seq hseq := by
    obtain ⟨hdrew, hsent⟩ := h.unused seq hseq
    refine ⟨List.mem_append_left _ hdrew, ?_⟩
    rw [sentNumbers, List.filterMap_append, List.mem_append]
    exact not_or.2 ⟨hsent, hunused seq hseq⟩
  receiving seq events hstage := by
    obtain ⟨request, left, hleft, hsent⟩ := h.receiving seq events hstage
    exact ⟨request, left, hleft, List.mem_append_left _ hsent⟩
  granted index up events hrequests hstage :=
    (h.granted index up events hrequests hstage).append more
  refused errno hstage := by
    obtain ⟨request, hmem, hack⟩ := h.refused errno hstage
    exact ⟨request, hmem, hack.append more⟩

/-- A call that neither has an unused number, nor receives, nor was answered, has nothing to log. -/
theorem Call.logged_of_silent (hleft : call.left <:+ call.requests) (hunused : call.unused? = none)
    (hreceiving : ∀ seq events, call.stage ≠ .receiving seq events)
    (hgranted : ∀ events, call.stage ≠ .ended (.ok events))
    (hrefused : ∀ errno, call.stage ≠ .ended (.error (.rejected errno))) :
    call.Logged log c where
  left_suffix := hleft
  unused seq hseq := by
    rw [hunused] at hseq
    cases hseq
  receiving seq events hstage := absurd hstage (hreceiving seq events)
  granted _ _ events _ hstage := absurd hstage (hgranted events)
  refused errno hstage := absurd hstage (hrefused errno)

/-- Replacing a call logs nothing. -/
@[simp] theorem Exchange.log_put (e : Exchange) (c : Nat) (call : Call) :
    (e.put c call).log = e.log := rfl

namespace Exchange.Sound

/-- A call may be replaced by one that is logged. -/
theorem put (h : e.Sound) (hcall : call.Logged e.log c) : (e.put c call).Sound where
  drawn_eq := h.drawn_eq
  counter_eq := h.counter_eq
  drawn_of_sent := h.drawn_of_sent
  nodup_sent := h.nodup_sent
  queued := h.queued
  logged c' call' hfound := by
    change (e.calls.set c call)[c']? = some call' at hfound
    rw [List.getElem?_set] at hfound
    split at hfound
    · next heq =>
      subst heq
      split at hfound
      · exact Option.some.inj hfound ▸ hcall
      · cases hfound
    · exact h.logged c' call' hfound

/-- A call may be added that is logged. -/
theorem add (h : e.Sound) (hcall : call.Logged e.log e.calls.length) : (e.add call).Sound where
  drawn_eq := h.drawn_eq
  counter_eq := h.counter_eq
  drawn_of_sent := h.drawn_of_sent
  nodup_sent := h.nodup_sent
  queued := h.queued
  logged c' call' hfound := by
    change (e.calls ++ [call])[c']? = some call' at hfound
    rw [List.getElem?_append] at hfound
    split at hfound
    · exact h.logged c' call' hfound
    · next hge =>
      obtain ⟨hlt, rfl⟩ := List.getElem?_eq_some_iff.1 hfound
      have hc : c' = e.calls.length := by
        simp only [List.length_singleton] at hlt
        omega
      subst hc
      change Call.Logged e.log e.calls.length _
      simpa using hcall

/-- A number may be drawn as long as there is one. It was not sent before. -/
theorem draw (h : e.Sound) (c : Nat) (hbound : (drawnNumbers (e.draw c).log).length ≤ numberCount) :
    (e.draw c).Sound ∧ .drew c (nextSequence e.counter).1 ∈ (e.draw c).log ∧
      (nextSequence e.counter).1 ∉ sentNumbers (e.draw c).log := by
  have hdrawn : drawnNumbers (e.draw c).log =
      drawnNumbers e.log ++ [(nextSequence e.counter).1] := by
    simp [Exchange.draw, drawnNumbers]
  have hsent : sentNumbers (e.draw c).log = sentNumbers e.log := by
    simp [Exchange.draw, sentNumbers]
  rw [hdrawn, List.length_append, List.length_singleton] at hbound
  have hnext := h.nextSequence_counter hbound
  have hsound : (e.draw c).Sound :=
    { drawn_eq := by
        rw [hdrawn, List.length_append, List.length_singleton, List.range_succ, List.map_append,
          ← h.drawn_eq, hnext]
        rfl
      counter_eq := by
        rw [hdrawn, List.length_append, List.length_singleton, Exchange.draw, hnext]
      drawn_of_sent := fun c' seq request hmem => by
        obtain hmem | hmem := List.mem_append.1 hmem
        · exact List.mem_append_left _ (h.drawn_of_sent c' seq request hmem)
        · simp at hmem
      nodup_sent := hsent ▸ h.nodup_sent
      queued := fun receipt hreceipt => List.mem_append_left _ (h.queued receipt hreceipt)
      logged := fun c' call' hfound => (h.logged c' call' hfound).append fun _ _ => by
        simp [sentNumbers] }
  refine ⟨hsound, List.mem_append_right _ List.mem_cons_self, fun hmem => ?_⟩
  -- a number that was sent was drawn, but this one is new
  rw [hsent] at hmem
  obtain ⟨c', request, hmem⟩ := mem_sentNumbers.1 hmem
  have hold := mem_drawnNumbers.2 ⟨c', h.drawn_of_sent c' _ request hmem⟩
  have hnodup : (drawnNumbers (e.draw c).log).Nodup := by
    refine hsound.nodup_drawn ?_
    rw [hdrawn, List.length_append, List.length_singleton]
    exact hbound
  rw [hdrawn] at hnodup
  exact (List.nodup_append.1 hnodup).2.2 _ hold _ List.mem_cons_self rfl

/-- Something may come to the socket. -/
theorem queue (h : e.Sound) (receipt : Receipt) :
    Exchange.Sound { e with
      inbox := e.inbox ++ [receipt], log := e.log ++ [.queued receipt] } where
  drawn_eq := by simpa [drawnNumbers] using h.drawn_eq
  counter_eq := by simpa [drawnNumbers] using h.counter_eq
  drawn_of_sent c seq request hmem := by
    obtain hmem | hmem := List.mem_append.1 hmem
    · exact List.mem_append_left _ (h.drawn_of_sent c seq request hmem)
    · simp at hmem
  nodup_sent := by simpa [sentNumbers] using h.nodup_sent
  queued receipt' hreceipt := by
    obtain hold | hnew := List.mem_append.1 hreceipt
    · exact List.mem_append_left _ (h.queued receipt' hold)
    · obtain rfl := List.mem_singleton.1 hnew
      exact List.mem_append_right _ List.mem_cons_self
  logged c call hfound := (h.logged c call hfound).append fun _ _ => by simp [sentNumbers]

/-- Two calls never have the same number. -/
theorem eq_of_drew (h : e.Sound) (hbound : (drawnNumbers e.log).length ≤ numberCount)
    {c c' : Nat} {seq : UInt32} (hc : .drew c seq ∈ e.log) (hc' : .drew c' seq ∈ e.log) :
    c = c' :=
  (Happening.drew.inj (eq_of_nodup_filterMap (h.nodup_drawn hbound) hc hc' rfl rfl)).1

/-- Two requests are never sent under the same number. -/
theorem eq_of_sent (h : e.Sound) {c c' : Nat} {seq : UInt32} {request request' : Request}
    (hc : .sent c seq request ∈ e.log) (hc' : .sent c' seq request' ∈ e.log) :
    c = c' ∧ request = request' := by
  have hsame := Happening.sent.inj (eq_of_nodup_filterMap h.nodup_sent hc hc' rfl rfl)
  exact ⟨hsame.1, hsame.2.2⟩

/-- A call may send a request under its number. -/
theorem send (h : e.Sound) (hbound : (drawnNumbers e.log).length ≤ numberCount) {seq : UInt32}
    {request : Request} {rest : List Request} (hfound : e.calls[c]? = some call)
    (hstage : call.stage = .sending seq) (hleft : call.left = request :: rest) :
    ({ e with log := e.log ++ [Happening.sent c seq request] }.put c
      { call with stage := .receiving seq [] }).Sound := by
  have hlogged := h.logged c call hfound
  obtain ⟨hdrew, hunsent⟩ := hlogged.unused seq (by simp [Call.unused?, hstage])
  refine ⟨?_, ?_, ?_, ?_, ?_, ?_⟩
  · simpa [drawnNumbers, Exchange.put] using h.drawn_eq
  · simpa [drawnNumbers, Exchange.put] using h.counter_eq
  · intro c' seq' request' hmem
    obtain hmem | hmem := List.mem_append.1 hmem
    · exact List.mem_append_left _ (h.drawn_of_sent c' seq' request' hmem)
    · obtain ⟨rfl, rfl, rfl⟩ := Happening.sent.inj (List.mem_singleton.1 hmem)
      exact List.mem_append_left _ hdrew
  · have hnumbers : sentNumbers (e.log ++ [Happening.sent c seq request]) =
        sentNumbers e.log ++ [seq] := by
      simp [sentNumbers]
    change (sentNumbers (e.log ++ [Happening.sent c seq request])).Nodup
    rw [hnumbers]
    exact List.Nodup.append h.nodup_sent (List.nodup_singleton seq) (by simpa using hunsent)
  · exact fun receipt hreceipt => List.mem_append_left _ (h.queued receipt hreceipt)
  · intro c' call' hfound'
    change (e.calls.set c _)[c']? = some call' at hfound'
    rw [List.getElem?_set] at hfound'
    split at hfound'
    · next heq =>
      subst heq
      split at hfound'
      · obtain rfl := Option.some.inj hfound'
        exact {
          left_suffix := hlogged.left_suffix
          unused := nofun
          receiving := fun seq' events hstage' => by
            obtain ⟨rfl, _⟩ := Call.Stage.receiving.inj hstage'
            exact ⟨request, rest, hleft, List.mem_append_right _ List.mem_cons_self⟩
          granted := nofun
          refused := nofun }
      · cases hfound'
    · next hne =>
      -- the number of another call was drawn by that call
      refine (h.logged c' call' hfound').append fun seq' hseq' hsent => hne ?_
      obtain rfl : seq' = seq := by simpa [sentNumbers] using hsent
      exact h.eq_of_drew hbound hdrew ((h.logged c' call' hfound').unused seq' hseq').1

end Exchange.Sound

/-- A call that takes the socket keeps its number. -/
theorem Call.Logged.take (h : call.Logged log c) {taken : Call} (htake : call.take? = some taken) :
    taken.Logged log c := by
  have hunused := h.unused
  unfold Call.take? at htake
  unfold Call.unused? at hunused
  split at htake
  · next seq hstage =>
    obtain rfl := Option.some.inj htake
    rw [hstage] at hunused
    exact ⟨h.left_suffix, hunused, nofun, nofun, nofun⟩
  · obtain rfl := Option.some.inj htake
    exact logged_of_silent h.left_suffix rfl nofun nofun nofun
  · cases htake

/-- An answer is logged if it was acknowledged. -/
theorem Call.Logged.settle (h : call.Logged log c) {request : Request} {left : List Request}
    (hleft : call.left = request :: left) {result : Except Failure (List Event)}
    (hrefused : ∀ errno, result = .error (.rejected errno) →
      Acknowledged log c request (some errno))
    (hgranted : ∀ events index up, result = .ok events → request = .setLink index up →
      Acknowledged log c request none) :
    (call.settle left result).Logged log c := by
  have hsuffix : request :: left <:+ call.requests := hleft ▸ h.left_suffix
  have hmem : request ∈ call.requests := hsuffix.subset List.mem_cons_self
  cases result with
  | error failure =>
    refine ⟨h.left_suffix, nofun, nofun, nofun, fun errno hstage => ⟨request, hmem, ?_⟩⟩
    exact hrefused errno (Call.Stage.ended.inj hstage)
  | ok more =>
    have hrest : left <:+ call.requests := (List.suffix_cons request left).trans hsuffix
    unfold Call.settle
    simp only
    split
    · refine ⟨hrest, nofun, nofun, fun index up events hrequests _ => ?_, nofun⟩
      rw [show call.requests = _ from hrequests, List.mem_singleton] at hmem
      exact hmem ▸ hgranted more index up rfl hmem
    · exact logged_of_silent hrest rfl nofun nofun nofun

/-- What is received is logged. -/
theorem Call.Logged.receive (h : call.Logged log c) {size : Nat} {request : Request}
    {left : List Request} {seq : UInt32} {events : List Event} {receipt : Receipt}
    (hstage : call.stage = .receiving seq events) (hleft : call.left = request :: left)
    (hqueued : .queued receipt ∈ log) :
    (call.receive size request left seq events receipt).Logged log c := by
  obtain ⟨request', left', hleft', hsent⟩ := h.receiving seq events hstage
  obtain ⟨rfl, rfl⟩ := List.cons.inj (hleft.symm.trans hleft')
  cases receipt with
  | fault errno =>
    unfold Call.receive
    exact h.settle hleft (fun _ hresult => nomatch hresult) fun _ _ _ hresult => nomatch hresult
  | datagram bytes =>
    unfold Call.receive
    simp only
    split
    · refine ⟨h.left_suffix, nofun, fun seq' events' hstage' => ?_, nofun, nofun⟩
      obtain ⟨rfl, _⟩ := Call.Stage.receiving.inj hstage'
      exact ⟨request, left, hleft, hsent⟩
    · next result hanswer =>
      obtain ⟨_, frame, hframe, hhear⟩ := scan_eq_answered hanswer
      refine h.settle hleft (fun errno hresult => ?_) fun more index up hresult hrequest => ?_
      · subst hresult
        obtain ⟨errno', rfl, herrno⟩ := hear_eq_error hhear
        rw [Failure.rejected.inj herrno]
        exact ⟨seq, bytes, hsent, hqueued, mem_readFrames_of_take hframe⟩
      · subst hresult hrequest
        obtain rfl := hear_setLink_eq_ok hhear
        exact ⟨seq, bytes, hsent, hqueued, mem_readFrames_of_take hframe⟩

namespace Exchange

/-- Every move keeps log and calls together, unless the numbers run out. -/
theorem Sound.step (h : e.Sound) {next : Exchange} {m : Move} (hstep : e.step? m = some next)
    (hbound : (drawnNumbers next.log).length ≤ numberCount) : next.Sound := by
  cases m with
  | change index up =>
    simp only [step?] at hstep
    split at hstep
    · obtain rfl := Option.some.inj hstep
      obtain ⟨hdraw, hdrew, hfresh⟩ := h.draw e.calls.length hbound
      refine hdraw.add {
        left_suffix := List.suffix_refl _
        unused := fun seq hseq => ?_
        receiving := nofun
        granted := nofun
        refused := nofun }
      obtain rfl := Option.some.inj hseq
      exact ⟨hdrew, hfresh⟩
    · obtain rfl := Option.some.inj hstep
      exact h.add (Call.logged_of_silent (List.suffix_refl _) rfl nofun nofun nofun)
  | dump =>
    obtain rfl := Option.some.inj hstep
    exact h.add (Call.logged_of_silent (List.suffix_refl _) rfl nofun nofun nofun)
  | take c =>
    obtain ⟨call, hfound, hstep⟩ := Option.bind_eq_some_iff.1 hstep
    obtain ⟨taken, htake, hstep⟩ := Option.bind_eq_some_iff.1 hstep
    split at hstep
    · obtain rfl := Option.some.inj hstep
      have hput := h.put ((h.logged c call hfound).take htake)
      exact ⟨hput.drawn_eq, hput.counter_eq, hput.drawn_of_sent, hput.nodup_sent, hput.queued,
        hput.logged⟩
    · cases hstep
  | draw c =>
    obtain ⟨call, hfound, hstep⟩ := Option.bind_eq_some_iff.1 hstep
    split at hstep
    · obtain rfl := Option.some.inj hstep
      obtain ⟨hdraw, hdrew, hfresh⟩ := h.draw c hbound
      refine hdraw.put {
        left_suffix := (h.logged c call hfound).left_suffix
        unused := fun seq hseq => ?_
        receiving := nofun
        granted := nofun
        refused := nofun }
      obtain rfl := Option.some.inj hseq
      exact ⟨hdrew, hfresh⟩
    · cases hstep
  | send c =>
    obtain ⟨call, hfound, hstep⟩ := Option.bind_eq_some_iff.1 hstep
    split at hstep
    · next seq request rest hstage hleft =>
      obtain rfl := Option.some.inj hstep
      have hbound : (drawnNumbers e.log).length ≤ numberCount := by
        simpa [drawnNumbers] using hbound
      exact h.send hbound hfound hstage hleft
    · cases hstep
  | fail c errno =>
    obtain ⟨call, hfound, hstep⟩ := Option.bind_eq_some_iff.1 hstep
    split at hstep
    · obtain rfl := Option.some.inj hstep
      exact h.put (Call.logged_of_silent (h.logged c call hfound).left_suffix rfl nofun nofun nofun)
    · cases hstep
  | receive c =>
    obtain ⟨call, hfound, hstep⟩ := Option.bind_eq_some_iff.1 hstep
    split at hstep
    · next seq events request left receipt inbox hstage hleft hinbox =>
      obtain rfl := Option.some.inj hstep
      have hqueued : ∀ receipt ∈ e.inbox, .queued receipt ∈ e.log := h.queued
      rw [hinbox, List.forall_mem_cons] at hqueued
      have hrest : Sound { e with inbox } :=
        ⟨h.drawn_eq, h.counter_eq, h.drawn_of_sent, h.nodup_sent, hqueued.2, h.logged⟩
      exact hrest.put ((h.logged c call hfound).receive hstage hleft hqueued.1)
    · cases hstep
  | expire c =>
    obtain ⟨call, hfound, hstep⟩ := Option.bind_eq_some_iff.1 hstep
    split at hstep
    · next request left hleft =>
      split at hstep
      · obtain rfl := Option.some.inj hstep
        have hoverdue : ∀ errno, overdue e.settings request ≠ .rejected errno := by
          cases request <;> exact nofun
        exact h.put (Call.logged_of_silent (h.logged c call hfound).left_suffix rfl nofun nofun
          fun errno hstage => hoverdue errno (Except.error.inj (Call.Stage.ended.inj hstage)))
      · cases hstep
    · cases hstep
  | drop c =>
    obtain ⟨call, hfound, hstep⟩ := Option.bind_eq_some_iff.1 hstep
    split at hstep
    · obtain rfl := Option.some.inj hstep
      exact h.put (Call.logged_of_silent (h.logged c call hfound).left_suffix rfl nofun nofun nofun)
    · cases hstep
  | refuseChanges =>
    obtain rfl := Option.some.inj hstep
    exact ⟨h.drawn_eq, h.counter_eq, h.drawn_of_sent, h.nodup_sent, h.queued, h.logged⟩
  | queue receipt =>
    obtain rfl := Option.some.inj hstep
    exact h.queue receipt

/-- The log only grows. -/
theorem log_prefix_step {e next : Exchange} {m : Move} (hstep : e.step? m = some next) :
    e.log <+: next.log := by
  cases m with
  | change index up =>
    simp only [step?] at hstep
    split at hstep
    · obtain rfl := Option.some.inj hstep
      exact List.prefix_append ..
    · obtain rfl := Option.some.inj hstep
      exact List.prefix_rfl
  | dump =>
    obtain rfl := Option.some.inj hstep
    exact List.prefix_rfl
  | refuseChanges =>
    obtain rfl := Option.some.inj hstep
    exact List.prefix_rfl
  | queue receipt =>
    obtain rfl := Option.some.inj hstep
    exact List.prefix_append ..
  | take c =>
    obtain ⟨_, _, hstep⟩ := Option.bind_eq_some_iff.1 hstep
    obtain ⟨_, _, hstep⟩ := Option.bind_eq_some_iff.1 hstep
    split at hstep <;> cases hstep
    exact List.prefix_rfl
  | _ =>
    obtain ⟨_, _, hstep⟩ := Option.bind_eq_some_iff.1 hstep
    repeat' split at hstep
    all_goals cases hstep
    all_goals first | exact List.prefix_append .. | exact List.prefix_rfl

/-! ## Runs -/

/-- The exchange before the first call. -/
def opened (settings : NetlinkConfig) : Exchange := { settings }

/-- Moves are made one after the other. -/
theorem run?_cons (e : Exchange) (m : Move) (moves : List Move) :
    e.run? (m :: moves) = (e.step? m).bind fun next => next.run? moves := rfl

/-- Moves are made in order. -/
theorem run?_append (e : Exchange) (moves more : List Move) :
    e.run? (moves ++ more) = (e.run? moves).bind fun mid => mid.run? more := List.foldlM_append

/-- A call that has sent its request receives what has waited longest. -/
theorem step?_receive {e : Exchange} {c : Nat} {call : Call} {seq : UInt32} {events : List Event}
    {request : Request} {left : List Request} {receipt : Receipt} {inbox : List Receipt}
    (hfound : e.calls[c]? = some call) (hstage : call.stage = .receiving seq events)
    (hleft : call.left = request :: left) (hinbox : e.inbox = receipt :: inbox) :
    e.step? (.receive c) = some ({ e with inbox }.put c
      (call.receive (room e.settings.receiveBuffer) request left seq events receipt)) := by
  simp [step?, hfound, hstage, hleft, hinbox]

/-- The log only grows. -/
theorem log_prefix_run {e last : Exchange} {moves : List Move} (hrun : e.run? moves = some last) :
    e.log <+: last.log := by
  induction moves generalizing e with
  | nil => exact Option.some.inj hrun ▸ List.prefix_rfl
  | cons m rest ih =>
    rw [run?_cons] at hrun
    obtain ⟨next, hstep, hrest⟩ := Option.bind_eq_some_iff.1 hrun
    exact (log_prefix_step hstep).trans (ih hrest)

namespace Sound

variable {e : Exchange}

/-- Before the first call log and calls are empty. -/
theorem opened (settings : NetlinkConfig) : (opened settings).Sound where
  drawn_eq := rfl
  counter_eq := rfl
  drawn_of_sent := nofun
  nodup_sent := List.nodup_nil
  queued := nofun
  logged := nofun

/-- All moves keep log and calls together, unless the numbers run out. -/
theorem run (h : e.Sound) {last : Exchange} {moves : List Move}
    (hrun : e.run? moves = some last) (hbound : (drawnNumbers last.log).length ≤ numberCount) :
    last.Sound := by
  induction moves generalizing e with
  | nil => exact Option.some.inj hrun ▸ h
  | cons m rest ih =>
    rw [run?_cons] at hrun
    obtain ⟨next, hstep, hrest⟩ := Option.bind_eq_some_iff.1 hrun
    have hfewer : (drawnNumbers next.log).length ≤ (drawnNumbers last.log).length :=
      ((log_prefix_run hrest).filterMap _).length_le
    exact ih (h.step hstep (Nat.le_trans hfewer hbound)) hrest

end Sound

end Exchange

end LinkBus.Netlink
