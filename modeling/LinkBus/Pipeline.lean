import LinkBus.Plan

/-!
# The pipeline

Messages that arrive within a window of the first one form a batch. A batch is applied as a whole,
parked numbers whose time has come are retired with it, and what changed is published once. While no
batch is open the pipeline wakes by itself when a parked number is to be retired.

Times are milliseconds. Each step of `Pipeline.step?` does the next thing that is due up to a given
time, and `Pipeline.run` does all of them. A message is taken the moment it arrives: nothing waits
in the queue. What is due in the same millisecond goes first, so the end of a window goes before a
message that arrives then, and that message opens the next batch.
-/

namespace LinkBus

namespace Numbering

/-- When a parked number is due, retiring what is due leaves fewer numbers. -/
theorem retireDue_length_lt {id : Numbering} {deadline now : Nat}
    (hnext : id.nextRetirement? = some deadline) (hdue : deadline ≤ now) :
    (id.retireDue now).1.holdings.entries.length < id.holdings.entries.length := by
  have hmem := List.min?_mem hnext
  obtain ⟨a, ha, hrelease⟩ := List.mem_filterMap.1 hmem
  obtain ⟨e, he, rfl⟩ := List.mem_map.1 ha
  refine List.length_filter_lt_length_iff_exists.2 ⟨e, he, ?_⟩
  simp [isDue, hrelease, hdue]

end Numbering

/-- What the pipeline is doing: waiting, gathering a batch up to some time, or nothing any more. -/
inductive Stage
  | idle
  | gathering (until_ : Nat) (batch : List Message)
  | stopped
  deriving DecidableEq, Repr

/-- How far a stage is from the end of what it can do without new messages. -/
def Stage.rank : Stage → Nat
  | stopped => 0
  | idle => 1
  | gathering .. => 2

/-- What was published: when, what had changed, the network after it, and the plan. -/
structure Publication where
  /-- When it happened. -/
  at_ : Nat
  /-- What had changed. -/
  changes : Changes
  /-- The network after the change. -/
  network : Network
  /-- What has to happen on the bus. -/
  plan : List BusStep

/-- The pipeline at one moment. -/
structure Pipeline where
  /-- The network. -/
  network : Network
  /-- What was announced of it. -/
  memo : BusMemo := {}
  /-- How long a batch is gathered. -/
  window : Nat
  /-- How long a number stays parked. -/
  debounce : Nat
  /-- The time up to which everything was done. -/
  now : Nat := 0
  /-- What the pipeline is doing. -/
  stage : Stage := .idle
  /-- Whether it was told to stop. -/
  cancelled : Bool := false
  /-- Whether its queue is closed. -/
  closed : Bool := false
  /-- What it published. -/
  published : List Publication := []

namespace Pipeline

/-- Applies a batch together with what is due. -/
def commit (p : Pipeline) (batch : List Message) : Pipeline × Changes :=
  let (network, changes) := p.network.deliver batch p.now p.debounce
  let (network, more) := network.retireDue p.now
  ({ p with network, stage := .idle }, changes.union more)

/-- Publishes changes, if there are any. -/
def announce (p : Pipeline) (changes : Changes) : Pipeline :=
  if changes.isEmpty then p
  else
    let (memo, plan) := p.memo.advance p.network changes
    { p with memo, published := p.published ++ [⟨p.now, changes, p.network, plan⟩] }

/-- Ends a batch: applies it and publishes what changed. -/
def close (p : Pipeline) (batch : List Message) : Pipeline :=
  let (p, changes) := p.commit batch
  p.announce changes

/-- Does the next thing that is due up to some time, if there is one. -/
def step? (limit : Nat) (p : Pipeline) : Option Pipeline :=
  match p.stage with
  | .stopped => none
  | .gathering until_ batch =>
    if p.closed then some (p.close batch)
    else if until_ ≤ limit then some ({ p with now := max p.now until_ }.close batch)
    else none
  | .idle =>
    if p.cancelled || p.closed then some { p with stage := .stopped }
    else match p.network.numbering.nextRetirement? with
      | none => none
      | some deadline =>
        if deadline ≤ limit then some ({ p with now := max p.now deadline }.close []) else none

/-- Publishing does not change what the pipeline is doing. -/
theorem announce_stage (p : Pipeline) (changes : Changes) :
    (p.announce changes).stage = p.stage := by
  unfold announce
  split <;> rfl

/-- Publishing does not change the network. -/
theorem announce_network (p : Pipeline) (changes : Changes) :
    (p.announce changes).network = p.network := by
  unfold announce
  split <;> rfl

/-- After a batch the pipeline waits. -/
theorem close_stage (p : Pipeline) (batch : List Message) : (p.close batch).stage = .idle :=
  announce_stage ..

/-- Without a batch only what is due changes. -/
theorem close_nil_numbering (p : Pipeline) :
    (p.close []).network.numbering = (p.network.numbering.retireDue p.now).1 := by
  unfold close
  simp only [announce_network]
  rfl

/-- A pipeline is closer to rest than another if its stage is, or if both are in one stage and it
holds fewer numbers. -/
def Closer (a b : Pipeline) : Prop :=
  Prod.Lex (· < ·) (· < ·) (a.stage.rank, a.network.numbering.holdings.entries.length)
    (b.stage.rank, b.network.numbering.holdings.entries.length)

/-- Each step brings the pipeline closer to rest. -/
theorem step?_closer {limit : Nat} {p next : Pipeline} (h : p.step? limit = some next) :
    Closer next p := by
  unfold step? at h
  split at h
  · contradiction
  · next until_ batch hstage =>
    have hrank : ∀ q : Pipeline, q.stage = .idle → Closer q p := fun q hq =>
      Prod.Lex.left _ _ (by simp [hq, hstage, Stage.rank])
    split at h
    · injection h with h
      exact hrank _ (h ▸ close_stage ..)
    · split at h
      · injection h with h
        exact hrank _ (h ▸ close_stage ..)
      · contradiction
  · next hstage =>
    split at h
    · injection h with h
      exact Prod.Lex.left _ _ (by simp [← h, hstage, Stage.rank])
    · split at h
      · contradiction
      · next deadline hnext =>
        split at h
        · injection h with h
          subst h
          unfold Closer
          rw [close_stage, hstage, close_nil_numbering]
          exact Prod.Lex.right _ (Numbering.retireDue_length_lt hnext (Nat.le_max_right ..))
        · contradiction

/-- Does all that is due up to some time. -/
def run (limit : Nat) (p : Pipeline) : Pipeline :=
  match _h : p.step? limit with
  | none => { p with now := max p.now limit }
  | some next => run limit next
termination_by (p.stage.rank, p.network.numbering.holdings.entries.length)
decreasing_by exact step?_closer _h

/-- What happens to the pipeline from outside. -/
inductive Stimulus
  | message (m : Message)
  | cancel
  | close

/-- Whether a message would still be taken. -/
def isRunning (p : Pipeline) : Bool := p.stage != .stopped

/-- Takes a stimulus. The first message of a batch opens the window; no message is taken after the
end or from a closed queue. -/
def feel (p : Pipeline) : Stimulus → Pipeline
  | .message m =>
    if p.closed then p
    else match p.stage with
      | .idle => { p with stage := .gathering (p.now + p.window) [m] }
      | .gathering until_ batch => { p with stage := .gathering until_ (batch ++ [m]) }
      | .stopped => p
  | .cancel => { p with cancelled := true }
  | .close => { p with closed := true }

/-- Lives up to a time, takes a stimulus then, and does what is due at once. -/
def meet (p : Pipeline) (time : Nat) (s : Stimulus) : Pipeline := ((p.run time).feel s).run time

/-- Whether a stimulus at some time is a message that nobody takes any more. -/
def refuses (p : Pipeline) (time : Nat) : Stimulus → Bool
  | .message _ => !p.closed && !(p.run time).isRunning
  | _ => false

/-- When an open batch ends, at the latest. -/
def wake (p : Pipeline) : Nat :=
  match p.stage with
  | .gathering until_ _ => until_
  | _ => p.now

/-- Stops the pipeline and lets it end. An open batch is ended first. -/
def stop (p : Pipeline) : Pipeline :=
  let p := p.feel .cancel
  p.run (max p.now p.wake)

end Pipeline

end LinkBus
