import LinkBus.Netlink.Closing
import LinkBus.Proofs.Exchange.Moves
import LinkBus.Proofs.Exchange.Sequential

/-!
# The end of changes

When changes are no longer taken, those that are under way can still send, and no others: a call
that begins later is refused at once or only dumps. The socket is given in order, so a wait for it
has its turn when the calls before it are at their end, and these were the last that could send a
change.
-/

namespace LinkBus.Netlink

open Wire

/-! ## What a move leaves -/

namespace Exchange

variable {e next : Exchange} {m : Move} {n : Nat}

/-- A place is clear if no call before it is under way. -/
theorem isClear_iff : e.isClear n = true ↔
    ∀ c call, c < n → e.calls[c]? = some call → call.isUnderWay = false := by
  simp only [isClear, List.all_eq_true, Bool.not_eq_true', List.mem_iff_getElem?]
  constructor
  · intro h c call hlt hfound
    exact h call ⟨c, by rw [List.getElem?_take_of_lt hlt, hfound]⟩
  · rintro h call ⟨c, hfound⟩
    have hlt : c < n := by
      have hlen := (List.getElem?_eq_some_iff.1 hfound).1
      rw [List.length_take] at hlen
      omega
    rw [List.getElem?_take_of_lt hlt] at hfound
    exact h c call hlt hfound

/-- A place that is not clear has a first call before it that is under way. -/
theorem exists_first_of_not_isClear (h : e.isClear n = false) :
    ∃ c call, c < n ∧ e.calls[c]? = some call ∧ call.isUnderWay = true ∧ e.isClear c = true := by
  induction n with
  | zero => simp [isClear] at h
  | succ n ih =>
    cases hclear : e.isClear n with
    | false =>
      obtain ⟨c, call, hlt, hcall⟩ := ih hclear
      exact ⟨c, call, by omega, hcall⟩
    | true =>
      have hnot : ¬ e.isClear (n + 1) = true := by simp [h]
      rw [isClear_iff] at hnot
      push Not at hnot
      obtain ⟨c, call, hlt, hfound, hunder⟩ := hnot
      have hle : ¬ c < n := fun hlt => hunder (isClear_iff.1 hclear c call hlt hfound)
      obtain rfl : c = n := by omega
      exact ⟨c, call, hlt, hfound, by simpa using hunder, hclear⟩

/-- There is one first call that is under way. -/
theorem eq_of_isClear {c c' : Nat} {call call' : Call} (hclear : e.isClear c = true)
    (hfound : e.calls[c]? = some call) (hunder : call.isUnderWay = true)
    (hclear' : e.isClear c' = true) (hfound' : e.calls[c']? = some call')
    (hunder' : call'.isUnderWay = true) : c = c' := by
  obtain hlt | heq | hgt := Nat.lt_trichotomy c c'
  · rw [isClear_iff.1 hclear' c call hlt hfound] at hunder
    cases hunder
  · exact heq
  · rw [isClear_iff.1 hclear c' call' hgt hfound'] at hunder'
    cases hunder'

/-- Changes are not taken, and calls from a place on only dump. -/
structure QuietFrom (e : Exchange) (n : Nat) : Prop where
  /-- Changes are not taken. -/
  accepting : e.accepting = false
  /-- A call that can still send only dumps. -/
  dumps : ∀ c call, n ≤ c → e.calls[c]? = some call → call.isUnderWay = true →
    ∀ request ∈ call.left, IsDump request

/-- Where changes are not taken, calls to come only dump. -/
theorem quietFrom_length (h : e.accepting = false) : e.QuietFrom e.calls.length where
  accepting := h
  dumps c call hle hfound := by
    have hlt : c < e.calls.length := (List.getElem?_eq_some_iff.1 hfound).1
    omega

/-- If no call before the place is under way, then no call at all sends a change. -/
theorem QuietFrom.of_isClear (h : e.QuietFrom n) (hclear : e.isClear n = true) :
    e.QuietFrom 0 where
  accepting := h.accepting
  dumps c call _ hfound hunder := by
    have hle : n ≤ c := by
      by_contra hlt
      rw [isClear_iff.1 hclear c call (by omega) hfound] at hunder
      cases hunder
    exact h.dumps c call hle hfound hunder

namespace Follows

/-- A clear place stays clear. -/
theorem isClear (h : e.Follows next m) (hle : n ≤ e.calls.length) (hclear : e.isClear n = true) :
    next.isClear n = true := by
  rw [isClear_iff] at hclear ⊢
  intro c call hlt hfound
  by_contra hunder
  obtain ⟨before, hfound, hbefore, -⟩ | ⟨rfl, -⟩ := h.origin hfound (by simpa using hunder)
  · rw [hclear c before hlt hfound] at hbefore
    cases hbefore
  · omega

/-- Where changes are not taken, calls from a place on still only dump after a move. -/
theorem quietFrom (h : e.Follows next m) (hquiet : e.QuietFrom n) : next.QuietFrom n where
  accepting := by
    by_contra haccepting
    have hbefore := h.accepting (by simpa using haccepting)
    rw [hquiet.accepting] at hbefore
    cases hbefore
  dumps c call hle hfound hunder request hmem := by
    obtain ⟨before, hfound, hbefore, hsuffix⟩ | ⟨rfl, haccepting | hdumps⟩ :=
      h.origin hfound hunder
    · exact hquiet.dumps c before hle hfound hbefore request (hsuffix.subset hmem)
    · rw [hquiet.accepting] at haccepting
      cases haccepting
    · exact hdumps request hmem

/-- A change is then only sent by a call before the place. -/
theorem lt_of_sent (h : e.Follows next m) (hquiet : e.QuietFrom n) :
    ∃ later, next.log = e.log ++ later ∧
      ∀ c seq index up, .sent c seq (.setLink index up) ∈ later → c < n := by
  obtain ⟨later, hlog, hsent⟩ := h.log
  refine ⟨later, hlog, fun c seq index up hmem => ?_⟩
  obtain ⟨call, hfound, hunder, hleft⟩ := hsent c seq _ hmem
  by_contra hle
  exact hquiet.dumps c call (by omega) hfound hunder _ hleft index up rfl

end Follows

end Exchange

/-! ## Turns and runs -/

namespace Closing

variable {s s' : Closing} {t : Turn} {turns : List Turn} {n : Nat}

/-- Turns follow one another. -/
theorem run?_cons (s : Closing) (t : Turn) (turns : List Turn) :
    s.run? (t :: turns) = (s.step? t).bind fun next => next.run? turns := rfl

/-- Turns are taken in order. -/
theorem run?_append (s : Closing) (turns more : List Turn) :
    s.run? (turns ++ more) = (s.run? turns).bind fun mid => mid.run? more := List.foldlM_append

/-- What every turn keeps, a run keeps. -/
theorem of_run? {P : Closing → Prop} (hkeeps : ∀ s t s', P s → s.step? t = some s' → P s')
    (h : P s) (hrun : s.run? turns = some s') : P s' := by
  induction turns generalizing s with
  | nil => exact Option.some.inj hrun ▸ h
  | cons t rest ih =>
    rw [run?_cons] at hrun
    obtain ⟨next, hstep, hrest⟩ := Option.bind_eq_some_iff.1 hrun
    exact ih (hkeeps s t next h hstep) hrest

/-- A move of the calls keeps the order of the socket and leaves the wait as it is. -/
theorem of_move {m : Move} (h : s.step? (.move m) = some s') :
    s.inOrder m = true ∧ s.exchange.step? m = some s'.exchange ∧ s'.drain = s.drain := by
  simp only [step?] at h
  split at h
  · next hordered =>
    obtain ⟨exchange, hstep, rfl⟩ := Option.map_eq_some_iff.1 h
    exact ⟨hordered, hstep, rfl⟩
  · cases h

/-- A turn is a move of the calls in the order of the socket, or leaves the calls alone. -/
theorem follows_of_step? (h : s.step? t = some s') :
    s'.exchange = s.exchange ∨
      ∃ m, t = .move m ∧ s.inOrder m = true ∧ s.exchange.Follows s'.exchange m := by
  cases t with
  | move m =>
    obtain ⟨hordered, hstep, -⟩ := of_move h
    exact Or.inr ⟨m, rfl, hordered, Exchange.follows_of_step? hstep⟩
  | drain =>
    simp only [step?] at h
    split at h
    · cases h
    · obtain rfl := Option.some.inj h
      exact Or.inl rfl
  | free =>
    simp only [step?] at h
    split at h
    · split at h
      · obtain rfl := Option.some.inj h
        exact Or.inl rfl
      · cases h
    · cases h
  | limit =>
    simp only [step?] at h
    split at h
    · obtain rfl := Option.some.inj h
      exact Or.inl rfl
    · cases h

/-- The wait ends in time if its turn has come. It ends late only when its time limit is over. -/
theorem ended_of_step? {free : Bool} (hwaiting : s.drain = .waiting n) (h : s.step? t = some s')
    (hended : s'.drain = .ended free) :
    s'.exchange = s.exchange ∧ s.exchange.isClear n = free ∧ (free = false → t = .limit) := by
  cases t with
  | move m =>
    obtain ⟨-, -, hsame⟩ := of_move h
    rw [hsame, hwaiting] at hended
    cases hended
  | drain =>
    rw [step?, hwaiting] at h
    cases h
  | free =>
    simp only [step?, hwaiting] at h
    split at h
    · next hclear =>
      obtain rfl := Option.some.inj h
      cases hended
      exact ⟨rfl, hclear, fun hfalse => by cases hfalse⟩
    · cases h
  | limit =>
    simp only [step?, hwaiting] at h
    obtain rfl := Option.some.inj h
    cases hended
    exact ⟨rfl, rfl, fun _ => rfl⟩

/-- What the calls and the log of a service look like. -/
structure Orderly (e : Exchange) : Prop where
  /-- Only calls send. -/
  sent_lt : ∀ c seq request, .sent c seq request ∈ e.log → c < e.calls.length
  /-- The socket belongs to the first call that is under way. -/
  holder : ∀ c, e.holder = some c →
    e.isClear c = true ∧ ∃ call, e.calls[c]? = some call ∧ call.isUnderWay = true

/-- The order is kept by a turn. -/
theorem Orderly.step (h : Orderly s.exchange) (hstep : s.step? t = some s') :
    Orderly s'.exchange := by
  obtain heq | ⟨m, -, hordered, hfollows⟩ := follows_of_step? hstep
  · exact heq ▸ h
  have hclear : ∀ {c call}, s.exchange.calls[c]? = some call → s.exchange.isClear c = true →
      s'.exchange.isClear c = true := fun hfound =>
    hfollows.isClear (Nat.le_of_lt (List.getElem?_eq_some_iff.1 hfound).1)
  constructor
  · intro c seq request hsent
    obtain ⟨later, hlog, hlater⟩ := hfollows.log
    rw [hlog, List.mem_append] at hsent
    obtain hsent | hsent := hsent
    · exact Nat.lt_of_lt_of_le (h.sent_lt c seq request hsent) hfollows.length_le
    · obtain ⟨call, hfound, -⟩ := hlater c seq request hsent
      exact Nat.lt_of_lt_of_le (List.getElem?_eq_some_iff.1 hfound).1 hfollows.length_le
  · intro c hholder
    obtain hbefore | ⟨hmove, call, call', hgoes⟩ := hfollows.holder_cases hholder
    · obtain ⟨hcleared, call, hfound, hunder⟩ := h.holder c hbefore
      exact ⟨hclear hfound hcleared, hfollows.exists_of_holder hholder hfound hunder⟩
    · -- The call takes the socket when its turn has come.
      subst hmove
      rw [inOrder, Bool.and_eq_true] at hordered
      exact ⟨hclear hgoes.found hordered.1,
        hfollows.exists_of_holder hholder hgoes.found hgoes.isUnderWay⟩

/-- Every service is orderly. -/
theorem Orderly.of_run {settings : NetlinkConfig}
    (hrun : run? { exchange := .opened settings } turns = some s) : Orderly s.exchange :=
  of_run? (P := fun s => Orderly s.exchange) (fun _ _ _ => Orderly.step)
    ⟨fun _ _ _ hsent => absurd hsent List.not_mem_nil, fun _ hholder => by cases hholder⟩ hrun

/-- Where changes are not taken, only calls before a place send changes in a run. -/
theorem quietFrom_of_run? (h : s.exchange.QuietFrom n) (hrun : s.run? turns = some s') :
    s'.exchange.QuietFrom n ∧ ∃ later, s'.exchange.log = s.exchange.log ++ later ∧
      ∀ c seq index up, .sent c seq (.setLink index up) ∈ later → c < n := by
  refine of_run? (P := fun s' => s'.exchange.QuietFrom n ∧
    ∃ later, s'.exchange.log = s.exchange.log ++ later ∧
      ∀ c seq index up, .sent c seq (.setLink index up) ∈ later → c < n) ?_
    ⟨h, [], (List.append_nil _).symm, fun _ _ _ _ hsent => absurd hsent List.not_mem_nil⟩ hrun
  rintro mid t next ⟨hquiet, later, hlog, hlater⟩ hstep
  obtain heq | ⟨m, -, -, hfollows⟩ := follows_of_step? hstep
  · exact heq.symm ▸ ⟨hquiet, later, hlog, hlater⟩
  obtain ⟨more, hmore, hlt⟩ := hfollows.lt_of_sent hquiet
  refine ⟨hfollows.quietFrom hquiet, later ++ more, by rw [hmore, hlog, List.append_assoc], ?_⟩
  intro c seq index up hsent
  obtain hsent | hsent := List.mem_append.1 hsent
  · exact hlater c seq index up hsent
  · exact hlt c seq index up hsent

/-- A call at its end stays as it is in a run, and sends nothing more. -/
theorem ended_of_run? {c : Nat} {call : Call} (hfound : s.exchange.calls[c]? = some call)
    (hended : call.isUnderWay = false) (hrun : s.run? turns = some s') :
    s'.exchange.calls[c]? = some call ∧ ∀ seq request,
      .sent c seq request ∈ s'.exchange.log → .sent c seq request ∈ s.exchange.log := by
  refine of_run? (P := fun s' => s'.exchange.calls[c]? = some call ∧ ∀ seq request,
    .sent c seq request ∈ s'.exchange.log → .sent c seq request ∈ s.exchange.log) ?_
    ⟨hfound, fun _ _ => id⟩ hrun
  rintro mid t next ⟨hmid, hsilent⟩ hstep
  obtain heq | ⟨m, -, -, hfollows⟩ := follows_of_step? hstep
  · exact heq.symm ▸ ⟨hmid, hsilent⟩
  refine ⟨hfollows.found_of_ended hmid hended, fun seq request hsent => hsilent seq request ?_⟩
  obtain ⟨more, hmore, hsender⟩ := hfollows.log
  rw [hmore, List.mem_append] at hsent
  refine hsent.resolve_right fun hsent => ?_
  obtain ⟨sender, hsame, hunder, -⟩ := hsender c seq request hsent
  obtain rfl : sender = call := Option.some.inj (hsame.symm.trans hmid)
  rw [hended] at hunder
  cases hunder

/-! ## The end of changes -/

/-- A change that is asked for when changes are not taken is refused at once. -/
theorem refused_of_step? {index : UInt32} {up : Bool} (h : s.exchange.accepting = false)
    (hstep : s.step? (.move (.change index up)) = some s') :
    s'.exchange.log = s.exchange.log ∧ s'.exchange.calls =
      s.exchange.calls ++ [.change index up (.ended (.error .shuttingDown))] := by
  obtain ⟨-, hstep, -⟩ := of_move hstep
  simp only [Exchange.step?, h, Bool.false_eq_true, if_false, Option.some.injEq] at hstep
  rw [← hstep]
  exact ⟨rfl, rfl⟩

/-- A change that is asked for when changes are not taken has its refusal for good, and sends
nothing. -/
theorem refused_of_run? {index : UInt32} {up : Bool} (horderly : Orderly s.exchange)
    (h : s.exchange.accepting = false)
    (hrun : s.run? (.move (.change index up) :: turns) = some s') :
    s'.exchange.calls[s.exchange.calls.length]? =
        some (.change index up (.ended (.error .shuttingDown))) ∧
      ∀ seq request, .sent s.exchange.calls.length seq request ∉ s'.exchange.log := by
  rw [run?_cons] at hrun
  obtain ⟨next, hnext, hrest⟩ := Option.bind_eq_some_iff.1 hrun
  obtain ⟨hlog, hcalls⟩ := refused_of_step? h hnext
  have hfound : next.exchange.calls[s.exchange.calls.length]? =
      some (.change index up (.ended (.error .shuttingDown))) := by
    rw [hcalls, List.getElem?_concat_length]
  obtain ⟨hstays, hsilent⟩ := ended_of_run? hfound rfl hrest
  refine ⟨hstays, fun seq request hsent => ?_⟩
  have hbefore := hsilent seq request hsent
  rw [hlog] at hbefore
  exact Nat.lt_irrefl _ (horderly.sent_lt _ seq request hbefore)

/-- Changes that are no longer taken are not taken again. -/
theorem accepting_of_run? (hrun : s.run? (.move .refuseChanges :: turns) = some s') :
    s'.exchange.accepting = false := by
  rw [run?_cons] at hrun
  obtain ⟨closed, hclosed, hrest⟩ := Option.bind_eq_some_iff.1 hrun
  have hrefusing : closed.exchange.accepting = false := by
    obtain ⟨-, hstep, -⟩ := of_move hclosed
    rw [← Option.some.inj hstep]
  exact (quietFrom_of_run? (Exchange.quietFrom_length hrefusing) hrest).1.accepting

/-- At the end of the service changes come to their end. A change that begins when changes are no
longer taken is refused and sends nothing. Somebody who then waits for the socket is told that it is
free only if all calls that began before are at their end, and no change is sent from then on. That
it is not free is only said at the end of the time limit, if one of these calls is still under way:
the first of them, which has the socket unless nobody has it. -/
theorem shutdown_drains_changes (settings : NetlinkConfig) (before between : List Turn)
    (s : Closing) (hrun : run? { exchange := .opened settings }
      (before ++ .move .refuseChanges :: between) = some s) :
    (∀ index up turns s', s.run? (.move (.change index up) :: turns) = some s' →
      s'.exchange.calls[s.exchange.calls.length]? =
        some (.change index up (.ended (.error .shuttingDown))) ∧
      ∀ seq request, .sent s.exchange.calls.length seq request ∉ s'.exchange.log) ∧
    ∀ turns s₁ t s₂, s.run? (.drain :: turns) = some s₁ →
      s₁.drain = .waiting s.exchange.calls.length → s₁.step? t = some s₂ →
      (s₂.drain = .ended true →
        (∀ c call, c < s.exchange.calls.length → s₂.exchange.calls[c]? = some call →
          call.isUnderWay = false) ∧
        ∀ more s₃, s₂.run? more = some s₃ → ∃ later, s₃.exchange.log = s₂.exchange.log ++ later ∧
          ∀ c seq index up, .sent c seq (.setLink index up) ∉ later) ∧
      (s₂.drain = .ended false → t = .limit ∧
        ∃ c call, c < s.exchange.calls.length ∧ s₂.exchange.calls[c]? = some call ∧
          call.isUnderWay = true ∧ s₂.exchange.isClear c = true ∧
          ∀ holder, s₂.exchange.holder = some holder → holder = c) := by
  have horderly := Orderly.of_run hrun
  have haccepting : s.exchange.accepting = false := by
    rw [run?_append] at hrun
    obtain ⟨opened, -, hrest⟩ := Option.bind_eq_some_iff.1 hrun
    exact accepting_of_run? hrest
  refine ⟨fun index up turns s' hturns => refused_of_run? horderly haccepting hturns,
    fun turns s₁ t s₂ hturns hwaiting hstep => ⟨fun hended => ?_, fun hended => ?_⟩⟩
  · obtain ⟨hsame, hclear, -⟩ := ended_of_step? hwaiting hstep hended
    have hquiet := (quietFrom_of_run? (Exchange.quietFrom_length haccepting) hturns).1
    have hnone : s₂.exchange.QuietFrom 0 := hsame ▸ hquiet.of_isClear hclear
    rw [← hsame] at hclear
    refine ⟨Exchange.isClear_iff.1 hclear, fun more s₃ hmore => ?_⟩
    obtain ⟨-, later, hlog, hsent⟩ := quietFrom_of_run? hnone hmore
    refine ⟨later, hlog, fun c seq index up hmem => ?_⟩
    exact Nat.not_lt_zero c (hsent c seq index up hmem)
  · obtain ⟨hsame, hclear, hlimit⟩ := ended_of_step? hwaiting hstep hended
    have hwaited : Orderly s₁.exchange :=
      of_run? (P := fun s => Orderly s.exchange) (fun _ _ _ => Orderly.step) horderly hturns
    rw [← hsame] at hclear hwaited
    obtain ⟨c, call, hlt, hfound, hunder, hfirst⟩ := Exchange.exists_first_of_not_isClear hclear
    refine ⟨hlimit rfl, c, call, hlt, hfound, hunder, hfirst, fun holder hholder => ?_⟩
    obtain ⟨hbefore, other, hother, hothers⟩ := hwaited.holder holder hholder
    exact Exchange.eq_of_isClear hbefore hother hothers hfirst hfound hunder

/-- A change has sent its request when changes are no longer taken. -/
def lastChange : List Turn := [.move (.change 2 true), .move (.take 0), .move (.send 0)]

/-- Without an answer to this change the socket is not free at the time limit of the wait, and free
after the time limit of the change. -/
theorem shutdown_drains_changes_unanswered :
    ∃ s, run? { exchange := .opened {} } (lastChange ++ .move .refuseChanges :: []) = some s ∧
      (∃ s₁ s₂, s.run? [.drain, .move (.change 3 false)] = some s₁ ∧ s₁.step? .limit = some s₂ ∧
        s₂.drain = .ended false ∧ ∃ c call, c < 1 ∧ s₂.exchange.calls[c]? = some call ∧
          call.isUnderWay = true ∧ ∀ holder, s₂.exchange.holder = some holder → holder = c) ∧
      ∃ s₁ s₂, s.run? [.drain, .move (.expire 0)] = some s₁ ∧ s₁.step? .free = some s₂ ∧
        s₂.drain = .ended true ∧ ∀ more s₃, s₂.run? more = some s₃ →
          ∃ later, s₃.exchange.log = s₂.exchange.log ++ later ∧
            ∀ c seq index up, .sent c seq (.setLink index up) ∉ later := by
  refine ⟨_, rfl, ⟨_, _, rfl, rfl, rfl, ?_⟩, _, _, rfl, rfl, rfl, ?_⟩
  · obtain ⟨-, c, call, hlt, hfound, hunder, -, hholder⟩ :=
      ((shutdown_drains_changes {} lastChange [] _ rfl).2 [.move (.change 3 false)] _ .limit _
        rfl rfl rfl).2 rfl
    exact ⟨c, call, hlt, hfound, hunder, hholder⟩
  · exact (((shutdown_drains_changes {} lastChange [] _ rfl).2 [.move (.expire 0)] _ .free _
      rfl rfl rfl).1 rfl).2

/-! ## A wait beside a change -/

section Beside

variable {e mid : Exchange} {soon : List Move}

/-- While all calls but the last one are at their end, moves keep the order of the socket. -/
theorem run?_map_move {place : Nat} (hclear : e.isClear place = true)
    (hplace : place ≤ e.calls.length) (hrun : e.run? soon = some mid)
    (hmid : mid.calls.length = place + 1) :
    run? { exchange := e } (soon.map .move) = some { exchange := mid } := by
  induction soon generalizing e with
  | nil => exact Option.some.inj hrun ▸ rfl
  | cons m rest ih =>
    have hlength := Exchange.length_le_of_run? hrun
    rw [Exchange.run?_cons] at hrun
    obtain ⟨next, hstep, hrest⟩ := Option.bind_eq_some_iff.1 hrun
    have hfollows := Exchange.follows_of_step? hstep
    have hordered : inOrder { exchange := e } m = true := by
      cases m with
      | take c =>
        obtain ⟨call, hfound, -⟩ := Option.bind_eq_some_iff.1 hstep
        have hlt := (List.getElem?_eq_some_iff.1 hfound).1
        have hbefore : e.isClear c = true := Exchange.isClear_iff.2 fun c' call' hlt' hfound' =>
          Exchange.isClear_iff.1 hclear c' call' (by omega) hfound'
        simp [inOrder, hbefore, Drain.holdsUp]
      | _ => rfl
    rw [List.map_cons, run?_cons, step?, if_pos hordered, hstep]
    exact ih (hfollows.isClear hplace hclear) (Nat.le_trans hplace hfollows.length_le) hrest

/-- Somebody begins to wait after some moves of the last call. -/
theorem run?_map_move_drain (hclear : e.isClear e.calls.length = true)
    (hrun : e.run? soon = some mid) (hmid : mid.calls.length = e.calls.length + 1)
    (turns : List Turn) :
    run? { exchange := e } (soon.map .move ++ .drain :: turns) =
      run? { exchange := mid, drain := .waiting mid.calls.length } turns := by
  rw [run?_append, run?_map_move hclear (Nat.le_refl _) hrun hmid]
  rfl

/-- Behind calls at their end, the place after the last call is clear if that call is at its end. -/
theorem isClear_of_serves {c : Client} {call : Call} (hclear : e.isClear e.calls.length = true)
    (h : mid.Serves c e.calls call) : mid.isClear mid.calls.length = !call.isUnderWay := by
  rw [Exchange.isClear, List.take_length] at hclear
  rw [Exchange.isClear, List.take_length, h.calls_eq, List.all_append, hclear]
  simp

/-- Somebody begins to wait one millisecond after a client has begun a change on a free socket. The
moves of the change take no time, apart from the end of its time, if it needs that. It comes before
the wait has its turn, or the wait has come to the end of its own time, just as `awaitFree` tells
from the time that the change takes. -/
theorem awaitFree_beside_setLink {c : Client} (h : e.Idles c)
    (hclear : e.isClear e.calls.length = true) (index : UInt32) (up : Bool) (now limit : Nat) :
    let elapsed := (c.setLink index up).2.elapsed
    let late : List Move := if elapsed = 0 then [] else [.expire e.calls.length]
    ∃ soon last, e.run? (soon ++ late) = some last ∧ last.Idles (c.setLink index up).1 ∧
      (run? { exchange := e } (soon.map .move ++ .drain ::
        if now + elapsed ≤ now + 1 + limit then late.map .move ++ [.free] else [.limit])).map
          drain = some (.ended (awaitFree (now + 1) (now + elapsed) limit).1) := by
  intro elapsed late
  obtain ⟨call, -, ⟨soon, mid, hrun, hmid⟩, hend⟩ := Exchange.setLink_begins h index up
  have hlength : ∀ {last c call}, Exchange.Serves last c e.calls call →
      last.calls.length = e.calls.length + 1 := fun h => by rw [h.calls_eq, List.length_append]; rfl
  have hplace := isClear_of_serves hclear hmid
  obtain ⟨hstage, hzero⟩ | ⟨hleft, hcan, -, hpos⟩ := hend
  · have hlate : late = [] := if_pos hzero
    refine ⟨soon, mid, by rw [hlate, List.append_nil, hrun], hmid.idles hstage, ?_⟩
    rw [Call.isUnderWay, hstage] at hplace
    rw [run?_map_move_drain hclear hrun (hlength hmid), hlate, awaitFree, if_pos (by omega),
      if_pos (by omega)]
    simp [run?, step?, hplace]
  · obtain ⟨last, hexpire, hlast⟩ := hmid.expire hleft hcan
    have hlate : late = [.expire e.calls.length] := if_neg (Nat.ne_of_gt hpos)
    refine ⟨soon, last, ?_, hlast.idles rfl, ?_⟩
    · rw [hlate, Exchange.run?_append, hrun, Option.bind_some, Exchange.run?_cons, hexpire]
      rfl
    rw [Call.isUnderWay_of_canExpire hcan] at hplace
    have hfree : last.isClear last.calls.length = true := isClear_of_serves hclear hlast
    rw [hlength hlast, ← hlength hmid] at hfree
    rw [run?_map_move_drain hclear hrun (hlength hmid), hlate, awaitFree]
    split
    · simp [run?, step?, inOrder, hexpire, hfree]
    · simp [run?, step?, hplace]

end Beside

end Closing

end LinkBus.Netlink
