import LinkBus.Pipeline
import LinkBus.Proofs.Network.Shown

/-!
# Rounds of the pipeline

What the pipeline does by itself is a row of rounds: each applies a batch as a whole, retires the
numbers that are due then, and publishes once what changed, if anything did. A round is begun by a
message, or by the timer, which is armed with the next retirement.
-/

namespace LinkBus

/-- What the pipeline does at one time: it applies a batch and retires what is due. The batch is
empty where only numbers are retired. -/
structure Round where
  /-- When it happens. -/
  at_ : Nat
  /-- The messages, and when they arrived. -/
  batch : List (Nat × Message)

/-- The network after a round, and what the batch and the retired numbers changed together. -/
def Round.effect (debounce : Nat) (r : Round) (s : Network) : Network × Changes :=
  let (s, changes) := s.deliver (r.batch.map Prod.snd) r.at_ debounce
  let (s, retired) := s.retireDue r.at_
  (s, changes.union retired)

/-- Whether the timer alone began a round: no message did. -/
def Round.isTimed (r : Round) : Bool := r.batch.isEmpty

/-- The updates that a round makes. -/
def Round.updates (debounce : Nat) (r : Round) : List Update :=
  [.deliver (r.batch.map Prod.snd) r.at_ debounce, .retire r.at_]

/-- A round makes its updates. -/
theorem Round.effect_fst (debounce : Nat) (r : Round) (s : Network) :
    (r.effect debounce s).1 = s.updateAll (r.updates debounce) := rfl

/-- The network after rounds. -/
def Network.through (debounce : Nat) (s : Network) (rounds : List Round) : Network :=
  s.updateAll (rounds.flatMap (Round.updates debounce))

/-- One round more. -/
theorem Network.through_concat (debounce : Nat) (s : Network) (rounds : List Round) (r : Round) :
    s.through debounce (rounds ++ [r]) = (r.effect debounce (s.through debounce rounds)).1 := by
  rw [Network.through, List.flatMap_append, Network.updateAll_append, List.flatMap_singleton]
  rfl

/-- Rounds that a pipeline may go through from some network and some time on. The clock never goes
back. The timer is armed with the next retirement, and begins a round then or later. -/
inductive Timely (debounce : Nat) : Network → Nat → List Round → Prop
  | nil {s : Network} {since : Nat} : Timely debounce s since []
  | cons {s : Network} {since : Nat} {r : Round} {rest : List Round} (clock : since ≤ r.at_)
    (timer : r.isTimed = true → ∃ deadline ∈ s.numbering.nextRetirement?, deadline ≤ r.at_)
    (later : Timely debounce (r.effect debounce s).1 r.at_ rest) : Timely debounce s since (r :: rest)

/-- One round more that comes in time. -/
theorem Timely.concat {debounce since : Nat} {s : Network} {rounds : List Round} {r : Round}
    (h : Timely debounce s since rounds) (hsince : since ≤ r.at_)
    (hlast : ∀ earlier ∈ rounds, earlier.at_ ≤ r.at_)
    (htimer : r.isTimed = true →
      ∃ deadline ∈ (s.through debounce rounds).numbering.nextRetirement?, deadline ≤ r.at_) :
    Timely debounce s since (rounds ++ [r]) := by
  induction h with
  | nil => exact .cons hsince htimer .nil
  | cons clock timer _ ih =>
    rw [List.forall_mem_cons] at hlast
    exact .cons clock timer (ih hlast.1 hlast.2 htimer)

/-- What rounds work on: the network, what was announced of it, and what was published. -/
structure Standing where
  /-- The network. -/
  network : Network
  /-- What was announced of it. -/
  memo : BusMemo
  /-- What was published. -/
  published : List Publication

namespace Standing

/-- A round replaces the network, and publishes what changed if anything did. -/
def take (debounce : Nat) (s : Standing) (r : Round) : Standing :=
  let (network, changes) := r.effect debounce s.network
  let (memo, plan) := s.memo.advance network changes
  let news := if changes.isEmpty then [] else [⟨r.at_, changes, network, plan⟩]
  { network, memo, published := s.published ++ news }

/-- Rounds, one after the other. -/
def takeAll (debounce : Nat) (s : Standing) (rounds : List Round) : Standing :=
  rounds.foldl (take debounce) s

/-- One round more. -/
theorem takeAll_concat (debounce : Nat) (s : Standing) (rounds : List Round) (r : Round) :
    s.takeAll debounce (rounds ++ [r]) = (s.takeAll debounce rounds).take debounce r :=
  List.foldl_append

/-- The network is led through the rounds. -/
theorem network_takeAll (debounce : Nat) (s : Standing) (rounds : List Round) :
    (s.takeAll debounce rounds).network = s.network.through debounce rounds := by
  induction rounds generalizing s with
  | nil => rfl
  | cons r rest ih => exact ih (s.take debounce r)

/-- Rounds lead to the inventory that heard the messages of their batches, one after the other. -/
theorem inventory_takeAll (debounce : Nat) (s : Standing) (rounds : List Round) :
    (s.takeAll debounce rounds).network.inventory =
      (s.network.inventory.deliverAll ((rounds.flatMap Round.batch).map Prod.snd)).1 := by
  induction rounds generalizing s with
  | nil => rfl
  | cons r rest ih =>
    have hround : (s.take debounce r).network.inventory =
        (s.network.inventory.deliverAll (r.batch.map Prod.snd)).1 := rfl
    rw [takeAll, List.foldl_cons, ← takeAll, ih, hround, List.flatMap_cons, List.map_append,
      Inventory.deliverAll_fst, Inventory.deliverAll_fst, Inventory.deliverAll_fst,
      List.foldl_append]

/-- Rounds keep a network consistent. -/
theorem consistent_takeAll {filter : LinkFilter} {s : Standing}
    (h : s.network.Consistent filter) (debounce : Nat) (rounds : List Round) :
    (s.takeAll debounce rounds).network.Consistent filter :=
  List.foldlRecOn (motive := fun s : Standing => s.network.Consistent filter) rounds _ h
    fun _ hmid r _ => (hmid.update (.deliver (r.batch.map Prod.snd) r.at_ debounce)).update
      (.retire r.at_)

end Standing

namespace Pipeline

/-- What the rounds of a pipeline work on. -/
def standing (p : Pipeline) : Standing := ⟨p.network, p.memo, p.published⟩

/-- Publishing goes on from what was announced before, and adds what changed if anything did. -/
theorem standing_announce (p : Pipeline) (changes : Changes) :
    (p.announce changes).standing =
      ⟨p.network, (p.memo.advance p.network changes).1, p.published ++
        if changes.isEmpty then [] else
          [⟨p.now, changes, p.network, (p.memo.advance p.network changes).2⟩]⟩ := by
  unfold announce
  split
  · next hempty => simp [standing, BusMemo.advance, hempty]
  · rfl

/-- Ending a batch is a round. -/
theorem standing_close (p : Pipeline) (batch : List (Nat × Message)) :
    (p.close (batch.map Prod.snd)).standing = p.standing.take p.debounce ⟨p.now, batch⟩ :=
  standing_announce ..

/-- Publishing leaves everything but the standing alone. -/
theorem announce_eq (p : Pipeline) (changes : Changes) :
    p.announce changes =
      { p with
        memo := (p.announce changes).memo, published := (p.announce changes).published } := by
  unfold announce
  split <;> rfl

/-- Ending a batch leaves everything but the standing and the stage alone. -/
theorem close_eq (p : Pipeline) (batch : List Message) :
    p.close batch =
      { p with
        network := (p.close batch).network, memo := (p.close batch).memo
        published := (p.close batch).published, stage := .idle } := by
  have hnetwork : (p.close batch).network = (p.commit batch).1.network := announce_network ..
  rw [hnetwork]
  exact announce_eq (p.commit batch).1 (p.commit batch).2

/-- What the pipeline does next: it stops if it waits, it ends the open batch at once because the
queue is closed, it ends it because the window is over, or it retires what is due. -/
theorem step?_cases {limit : Nat} {p next : Pipeline} (h : p.step? limit = some next) :
    (p.stage = .idle ∧ (p.cancelled || p.closed) = true ∧ next = { p with stage := .stopped }) ∨
    (∃ until_ batch, p.stage = .gathering until_ batch ∧ p.closed = true ∧
      next = p.close batch) ∨
    (∃ until_ batch, p.stage = .gathering until_ batch ∧ p.closed = false ∧ until_ ≤ limit ∧
      next = { p with now := max p.now until_ }.close batch) ∨
    ∃ deadline, p.stage = .idle ∧ p.network.numbering.nextRetirement? = some deadline ∧
      deadline ≤ limit ∧ next = { p with now := max p.now deadline }.close [] := by
  unfold step? at h
  split at h
  · cases h
  · next until_ batch hstage =>
    split at h
    · next hclosed => exact .inr (.inl ⟨until_, batch, hstage, hclosed, (Option.some.inj h).symm⟩)
    · next hclosed =>
      split at h
      · next hdue =>
        exact .inr (.inr (.inl ⟨until_, batch, hstage, by simpa using hclosed, hdue,
          (Option.some.inj h).symm⟩))
      · cases h
  · next hstage =>
    split at h
    · next hend => exact .inl ⟨hstage, hend, (Option.some.inj h).symm⟩
    · split at h
      · cases h
      · next deadline hnext =>
        split at h
        · next hdue =>
          exact .inr (.inr (.inr ⟨deadline, hstage, hnext, hdue, (Option.some.inj h).symm⟩))
        · cases h

/-- There is nothing to do up to some time if the window of an open batch, or the first number that
is due, lies beyond that time, and nothing else ends the stage. -/
theorem step?_eq_none_iff {limit : Nat} {p : Pipeline} :
    p.step? limit = none ↔
      match p.stage with
      | .stopped => True
      | .gathering until_ _ => p.closed = false ∧ limit < until_
      | .idle => (p.cancelled || p.closed) = false ∧
          ∀ deadline ∈ p.network.numbering.nextRetirement?, limit < deadline := by
  unfold step?
  cases p.stage with
  | stopped => simp
  | gathering until_ batch => cases p.closed <;> simp
  | idle => cases p.cancelled || p.closed <;> cases p.network.numbering.nextRetirement? <;> simp

/-- After a run there is nothing to do. -/
theorem step?_run (limit : Nat) (p : Pipeline) : (p.run limit).step? limit = none := by
  fun_induction run limit p with
  | case1 p h =>
    have hrest := step?_eq_none_iff.1 h
    exact step?_eq_none_iff.2 hrest
  | case2 p next h ih => exact ih

/-- A run ends at the time up to which everything was to be done. -/
theorem now_run (limit : Nat) (p : Pipeline) : (p.run limit).now = max p.now limit := by
  fun_induction run limit p with
  | case1 p h => rfl
  | case2 p next h ih =>
    rw [ih]
    obtain ⟨_, _, rfl⟩ | ⟨_, batch, _, _, rfl⟩ | ⟨until_, batch, _, _, hdue, rfl⟩ |
      ⟨deadline, _, _, hdue, rfl⟩ := step?_cases h
    · rfl
    · rw [close_eq]
    · rw [close_eq]
      change max (max p.now until_) limit = max p.now limit
      omega
    · rw [close_eq]
      change max (max p.now deadline) limit = max p.now limit
      omega

/-- What the pipeline does by itself neither closes the queue nor opens it, and does not take back
the wish to stop. It never starts again, and it only stops if it was to. -/
theorem flags_run (limit : Nat) (p : Pipeline) :
    (p.run limit).closed = p.closed ∧ (p.run limit).cancelled = p.cancelled ∧
      (p.isRunning = false → (p.run limit).isRunning = false) ∧
      (p.isRunning = true → (p.cancelled || p.closed) = false →
        (p.run limit).isRunning = true) := by
  fun_induction run limit p with
  | case1 p h => exact ⟨rfl, rfl, id, fun hrunning _ => hrunning⟩
  | case2 p next h ih =>
    obtain ⟨_, hend, rfl⟩ | ⟨_, _, hstage, _, rfl⟩ | ⟨_, _, hstage, _, _, rfl⟩ |
      ⟨_, hstage, _, _, rfl⟩ := step?_cases h
    · exact ⟨ih.1, ih.2.1, fun _ => ih.2.2.1 rfl, fun _ hgo => by simp [hend] at hgo⟩
    all_goals
      rw [close_eq] at ih ⊢
      exact ⟨ih.1, ih.2.1, fun hstopped => by simp [isRunning, hstage] at hstopped,
        fun _ hgo => ih.2.2.2 rfl hgo⟩

/-! ## Stopping -/

/-- Whether a batch is open. -/
def isGathering (p : Pipeline) : Bool :=
  match p.stage with
  | .gathering .. => true
  | _ => false

/-- A batch that is open after a run was open before. -/
theorem gathering_of_run {limit until_ : Nat} {p : Pipeline} {batch : List Message}
    (h : (p.run limit).stage = .gathering until_ batch) : p.stage = .gathering until_ batch := by
  fun_induction run limit p with
  | case1 p _ => exact h
  | case2 p next hstep ih =>
    have hnext := ih h
    obtain ⟨_, _, rfl⟩ | ⟨_, _, _, _, rfl⟩ | ⟨_, _, _, _, _, rfl⟩ | ⟨_, _, _, _, rfl⟩ :=
      step?_cases hstep
    · cases hnext
    all_goals
      rw [close_stage] at hnext
      cases hnext

/-- A pipeline that is told to stop ends the open batch and stops. -/
theorem stage_stop (p : Pipeline) : p.stop.stage = .stopped := by
  have hrest := step?_eq_none_iff.1
    (step?_run (max (p.feel .cancel).now (p.feel .cancel).wake) (p.feel .cancel))
  have hcancelled :=
    (flags_run (max (p.feel .cancel).now (p.feel .cancel).wake) (p.feel .cancel)).2.1
  unfold stop
  generalize hstage : ((p.feel .cancel).run _).stage = stage at hrest ⊢
  cases stage with
  | stopped => rfl
  | idle =>
    have hgo := (Bool.or_eq_false_iff.1 hrest.1).1
    rw [hcancelled] at hgo
    cases hgo
  | gathering until_ batch =>
    have hbefore := gathering_of_run hstage
    have hwake : (p.feel .cancel).wake = until_ := by rw [wake, hbefore]
    have hlate : max (p.feel .cancel).now (p.feel .cancel).wake < until_ := hrest.2
    omega

end Pipeline

end LinkBus
