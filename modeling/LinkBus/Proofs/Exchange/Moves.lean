import LinkBus.Proofs.Exchange.Sound

/-!
# What a move does

A move adds a call, or lets a call that is under way go on, or concerns no call at all. Only a call
that is under way sends, and only what it still asks for. A call that is no longer under way stays
as it is.
-/

namespace LinkBus.Netlink

open Wire

namespace Exchange

variable {e next : Exchange} {m : Move}

/-- A call is added. If it is under way, then changes are still taken or it only dumps. -/
structure Begins (e next : Exchange) (call : Call) : Prop where
  /-- It comes after all others. -/
  calls_eq : next.calls = e.calls ++ [call]
  /-- It does not have the socket. -/
  holder_eq : next.holder = e.holder
  /-- Changes are refused when they are no longer taken. -/
  taken : call.isUnderWay = true → e.accepting = true ∨ ∀ request ∈ call.left, IsDump request

/-- A call that is under way goes on: it takes the socket, keeps it or goes without it, or comes to
its end. -/
structure GoesOn (e next : Exchange) (m : Move) (c : Nat) (call call' : Call) : Prop where
  /-- The call is found at its place. -/
  found : e.calls[c]? = some call
  /-- It is under way. -/
  isUnderWay : call.isUnderWay = true
  /-- It is the only one that goes on. -/
  calls_eq : next.calls = e.calls.set c call'
  /-- It asks for nothing new. -/
  left_suffix : call'.left <:+ call.left
  /-- It takes the socket that nobody has, or leaves it at its end. -/
  holder_eq : m = .take c ∧ next.holder = some c ∧ call'.isUnderWay = true ∨
    next.holder = if call'.isUnderWay then e.holder else e.holder.filter (· != c)

/-- What one move does. -/
structure Follows (e next : Exchange) (m : Move) : Prop where
  /-- Changes that are not taken are not taken later either. -/
  accepting : next.accepting = true → e.accepting = true
  /-- Only a call that is under way sends, and only a request that it has left. -/
  log : ∃ more, next.log = e.log ++ more ∧ ∀ c seq request, .sent c seq request ∈ more →
    ∃ call, e.calls[c]? = some call ∧ call.isUnderWay = true ∧ request ∈ call.left
  /-- A call is added, or one goes on, or none is concerned. -/
  calls : (∃ call, e.Begins next call) ∨ (∃ c call call', e.GoesOn next m c call call') ∨
    next.calls = e.calls ∧ next.holder = e.holder

end Exchange

namespace Call

/-- A call that takes the socket is under way before and after, and asks for the same. -/
theorem of_take? {call taken : Call} (h : call.take? = some taken) :
    call.isUnderWay = true ∧ taken.isUnderWay = true ∧ taken.left = call.left := by
  unfold take? at h
  split at h
  · next hstage =>
    obtain rfl := Option.some.inj h
    exact ⟨by rw [isUnderWay, hstage], rfl, rfl⟩
  · next hstage =>
    obtain rfl := Option.some.inj h
    exact ⟨by rw [isUnderWay, hstage], rfl, rfl⟩
  · cases h

/-- A call whose time can be over is under way. -/
theorem isUnderWay_of_canExpire {call : Call} (h : call.canExpire = true) :
    call.isUnderWay = true := by
  unfold canExpire at h
  unfold isUnderWay
  cases hstage : call.stage <;> simp [hstage] at h ⊢

/-- What a call asks for after an answer. -/
theorem left_settle {call : Call} {left : List Request} (h : left <:+ call.left)
    (result : Except Failure (List Event)) : (call.settle left result).left <:+ call.left := by
  cases result with
  | error failure => exact List.suffix_rfl
  | ok more => exact h

/-- What a call asks for after it has received. -/
theorem left_receive {call : Call} {request : Request} {left : List Request}
    (hleft : call.left = request :: left) (size : Nat) (seq : UInt32) (events : List Event)
    (receipt : Receipt) :
    (call.receive size request left seq events receipt).left <:+ call.left := by
  have hsuffix : left <:+ call.left := hleft ▸ List.suffix_cons request left
  unfold receive
  split
  · exact left_settle hsuffix _
  · split
    · exact List.suffix_rfl
    · exact left_settle hsuffix _

end Call

namespace Exchange

variable {e next : Exchange} {m : Move}

/-- A call that is put in the place of one that is under way lets that one go on. -/
theorem goesOn_put {b : Exchange} {c : Nat} {call call' : Call} (hcalls : b.calls = e.calls)
    (hholder : b.holder = e.holder) (hfound : e.calls[c]? = some call)
    (hunder : call.isUnderWay = true) (hleft : call'.left <:+ call.left) :
    e.GoesOn (b.put c call') m c call call' :=
  ⟨hfound, hunder, by rw [put, hcalls], hleft, Or.inr (by rw [put, hholder])⟩

/-- Every move adds a call, lets one go on, or concerns none. -/
theorem follows_of_step? (h : e.step? m = some next) : e.Follows next m := by
  have hsame : ∃ more, e.log = e.log ++ more ∧ ∀ c seq request, .sent c seq request ∈ more →
      ∃ call, e.calls[c]? = some call ∧ call.isUnderWay = true ∧ request ∈ call.left :=
    ⟨[], (List.append_nil _).symm, fun _ _ _ hsent => absurd hsent List.not_mem_nil⟩
  have hdrawn : ∀ c, ∃ more, (e.draw c).log = e.log ++ more ∧
      ∀ c seq request, .sent c seq request ∈ more →
        ∃ call, e.calls[c]? = some call ∧ call.isUnderWay = true ∧ request ∈ call.left :=
    fun c => ⟨_, rfl, by simp⟩
  cases m with
  | change index up =>
    simp only [step?] at h
    split at h
    · next haccepting =>
      obtain rfl := Option.some.inj h
      exact ⟨id, hdrawn _, Or.inl ⟨_, rfl, rfl, fun _ => Or.inl haccepting⟩⟩
    · obtain rfl := Option.some.inj h
      exact ⟨id, hsame, Or.inl ⟨_, rfl, rfl, fun hunder => by cases hunder⟩⟩
  | dump =>
    obtain rfl := Option.some.inj h
    exact ⟨id, hsame, Or.inl ⟨_, rfl, rfl, fun _ => Or.inr (by simp [Call.dump, IsDump])⟩⟩
  | take c =>
    obtain ⟨call, hfound, h⟩ := Option.bind_eq_some_iff.1 h
    obtain ⟨taken, htake, h⟩ := Option.bind_eq_some_iff.1 h
    obtain ⟨hunder, htaken, hleft⟩ := Call.of_take? htake
    split at h
    · obtain rfl := Option.some.inj h
      exact ⟨id, hsame, Or.inr (Or.inl ⟨c, call, taken, hfound, hunder, rfl,
        hleft ▸ List.suffix_rfl, Or.inl ⟨rfl, rfl, htaken⟩⟩)⟩
    · cases h
  | draw c =>
    obtain ⟨call, hfound, h⟩ := Option.bind_eq_some_iff.1 h
    split at h
    · next hstage =>
      obtain rfl := Option.some.inj h
      have hunder : call.isUnderWay = true := by rw [Call.isUnderWay, hstage]
      exact ⟨id, hdrawn c, Or.inr (Or.inl ⟨c, call, _,
        goesOn_put rfl rfl hfound hunder List.suffix_rfl⟩)⟩
    · cases h
  | send c =>
    obtain ⟨call, hfound, h⟩ := Option.bind_eq_some_iff.1 h
    split at h
    · next seq request rest hstage hleft =>
      obtain rfl := Option.some.inj h
      have hunder : call.isUnderWay = true := by rw [Call.isUnderWay, hstage]
      refine ⟨id, ⟨_, rfl, fun c' seq' request' hsent => ?_⟩, Or.inr (Or.inl ⟨c, call, _,
        goesOn_put rfl rfl hfound hunder List.suffix_rfl⟩)⟩
      obtain ⟨rfl, _, rfl⟩ := Happening.sent.inj (List.mem_singleton.1 hsent)
      exact ⟨call, hfound, hunder, hleft ▸ List.mem_cons_self⟩
    · cases h
  | fail c errno =>
    obtain ⟨call, hfound, h⟩ := Option.bind_eq_some_iff.1 h
    split at h
    · next hstage =>
      obtain rfl := Option.some.inj h
      have hunder : call.isUnderWay = true := by rw [Call.isUnderWay, hstage]
      exact ⟨id, hsame, Or.inr (Or.inl ⟨c, call, _,
        goesOn_put rfl rfl hfound hunder List.suffix_rfl⟩)⟩
    · cases h
  | receive c =>
    obtain ⟨call, hfound, h⟩ := Option.bind_eq_some_iff.1 h
    split at h
    · next seq events request left receipt inbox hstage hleft hinbox =>
      obtain rfl := Option.some.inj h
      have hunder : call.isUnderWay = true := by rw [Call.isUnderWay, hstage]
      exact ⟨id, hsame, Or.inr (Or.inl ⟨c, call, _,
        goesOn_put (b := { e with inbox }) rfl rfl hfound hunder (Call.left_receive hleft ..)⟩)⟩
    · cases h
  | expire c =>
    obtain ⟨call, hfound, h⟩ := Option.bind_eq_some_iff.1 h
    split at h
    · next request left hleft =>
      split at h
      · next hcan =>
        obtain rfl := Option.some.inj h
        exact ⟨id, hsame, Or.inr (Or.inl ⟨c, call, _, goesOn_put rfl rfl hfound
          (Call.isUnderWay_of_canExpire hcan) List.suffix_rfl⟩)⟩
      · cases h
    · cases h
  | drop c =>
    obtain ⟨call, hfound, h⟩ := Option.bind_eq_some_iff.1 h
    split at h
    · next hunder =>
      obtain rfl := Option.some.inj h
      exact ⟨id, hsame, Or.inr (Or.inl ⟨c, call, _,
        goesOn_put rfl rfl hfound hunder List.suffix_rfl⟩)⟩
    · cases h
  | refuseChanges =>
    obtain rfl := Option.some.inj h
    exact ⟨fun htaken => absurd htaken Bool.false_ne_true, hsame, Or.inr (Or.inr ⟨rfl, rfl⟩)⟩
  | queue receipt =>
    obtain rfl := Option.some.inj h
    exact ⟨id, ⟨_, rfl, by simp⟩, Or.inr (Or.inr ⟨rfl, rfl⟩)⟩

/-! ## What a move leaves -/

namespace Follows

variable {c : Nat} {call call' : Call}

/-- A call that is under way was so before, or begins. -/
theorem origin (h : e.Follows next m) (hfound : next.calls[c]? = some call')
    (hunder : call'.isUnderWay = true) :
    (∃ call, e.calls[c]? = some call ∧ call.isUnderWay = true ∧ call'.left <:+ call.left) ∨
      c = e.calls.length ∧ (e.accepting = true ∨ ∀ request ∈ call'.left, IsDump request) := by
  obtain ⟨begun, hbegins⟩ | ⟨place, call, after, hgoes⟩ | ⟨hcalls, -⟩ := h.calls
  · rw [hbegins.calls_eq] at hfound
    by_cases hlt : c < e.calls.length
    · rw [List.getElem?_append_left hlt] at hfound
      exact Or.inl ⟨call', hfound, hunder, List.suffix_rfl⟩
    · obtain ⟨hlen, -⟩ := List.getElem?_eq_some_iff.1 hfound
      rw [List.length_append, List.length_singleton] at hlen
      obtain rfl : c = e.calls.length := by omega
      rw [List.getElem?_concat_length] at hfound
      obtain rfl := Option.some.inj hfound
      exact Or.inr ⟨rfl, hbegins.taken hunder⟩
  · rw [hgoes.calls_eq] at hfound
    by_cases heq : place = c
    · subst heq
      obtain ⟨hlt, hset⟩ := List.getElem?_eq_some_iff.1 hfound
      rw [List.getElem_set_self] at hset
      exact Or.inl ⟨call, hgoes.found, hgoes.isUnderWay, hset ▸ hgoes.left_suffix⟩
    · rw [List.getElem?_set_ne heq] at hfound
      exact Or.inl ⟨call', hfound, hunder, List.suffix_rfl⟩
  · rw [hcalls] at hfound
    exact Or.inl ⟨call', hfound, hunder, List.suffix_rfl⟩

/-- A call stays as it is, or goes on. -/
theorem kept (h : e.Follows next m) (hfound : e.calls[c]? = some call) :
    next.calls[c]? = some call ∨
      ∃ call', e.GoesOn next m c call call' ∧ next.calls[c]? = some call' := by
  have hlt : c < e.calls.length := (List.getElem?_eq_some_iff.1 hfound).1
  obtain ⟨begun, hbegins⟩ | ⟨place, before, after, hgoes⟩ | ⟨hcalls, -⟩ := h.calls
  · rw [hbegins.calls_eq, List.getElem?_append_left hlt, hfound]
    exact Or.inl rfl
  · by_cases heq : place = c
    · subst heq
      obtain rfl : before = call := Option.some.inj (hgoes.found.symm.trans hfound)
      refine Or.inr ⟨after, hgoes, ?_⟩
      rw [hgoes.calls_eq, List.getElem?_set_self hlt]
    · rw [hgoes.calls_eq, List.getElem?_set_ne heq, hfound]
      exact Or.inl rfl
  · rw [hcalls, hfound]
    exact Or.inl rfl

/-- A call that is not under way stays as it is. -/
theorem found_of_ended (h : e.Follows next m) (hfound : e.calls[c]? = some call)
    (hended : call.isUnderWay = false) : next.calls[c]? = some call := by
  obtain hsame | ⟨call', hgoes, -⟩ := h.kept hfound
  · exact hsame
  · rw [hgoes.isUnderWay] at hended
    cases hended

/-- Calls are not forgotten. -/
theorem length_le (h : e.Follows next m) : e.calls.length ≤ next.calls.length := by
  obtain ⟨begun, hbegins⟩ | ⟨place, before, after, hgoes⟩ | ⟨hcalls, -⟩ := h.calls
  · rw [hbegins.calls_eq, List.length_append]
    omega
  · exact Nat.le_of_eq (by rw [hgoes.calls_eq, List.length_set])
  · exact Nat.le_of_eq (by rw [hcalls])

/-- Whoever has the socket had it, or takes it. -/
theorem holder_cases (h : e.Follows next m) (hholder : next.holder = some c) :
    e.holder = some c ∨ m = .take c ∧ ∃ call call', e.GoesOn next m c call call' := by
  obtain ⟨begun, hbegins⟩ | ⟨place, call, call', hgoes⟩ | ⟨-, hsame⟩ := h.calls
  · exact Or.inl (hbegins.holder_eq.symm.trans hholder)
  · obtain ⟨hmove, htaken, -⟩ | hkept := hgoes.holder_eq
    · obtain rfl : place = c := Option.some.inj (htaken.symm.trans hholder)
      exact Or.inr ⟨hmove, call, call', hgoes⟩
    · rw [hkept] at hholder
      split at hholder
      · exact Or.inl hholder
      · exact Or.inl (Option.filter_eq_some_iff.1 hholder).1
  · exact Or.inl (hsame.symm.trans hholder)

/-- A call that is under way and then has the socket is still under way. -/
theorem exists_of_holder (h : e.Follows next m) (hholder : next.holder = some c)
    (hfound : e.calls[c]? = some call) (hunder : call.isUnderWay = true) :
    ∃ call', next.calls[c]? = some call' ∧ call'.isUnderWay = true := by
  obtain hsame | ⟨call', hgoes, hnext⟩ := h.kept hfound
  · exact ⟨call, hsame, hunder⟩
  · refine ⟨call', hnext, ?_⟩
    obtain ⟨-, -, htaken⟩ | hkept := hgoes.holder_eq
    · exact htaken
    · by_contra hended
      rw [if_neg hended, hholder, eq_comm, Option.filter_eq_some_iff] at hkept
      simp at hkept

end Follows

/-- No call is forgotten along a run. -/
theorem length_le_of_run? {last : Exchange} {moves : List Move} (hrun : e.run? moves = some last) :
    e.calls.length ≤ last.calls.length := by
  induction moves generalizing e with
  | nil => exact Nat.le_of_eq (Option.some.inj hrun ▸ rfl)
  | cons m rest ih =>
    rw [run?_cons] at hrun
    obtain ⟨next, hstep, hrest⟩ := Option.bind_eq_some_iff.1 hrun
    exact Nat.le_trans (follows_of_step? hstep).length_le (ih hrest)

end Exchange

end LinkBus.Netlink
