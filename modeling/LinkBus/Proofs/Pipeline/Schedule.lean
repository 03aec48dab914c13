import LinkBus.Proofs.Pipeline.Rounds

/-!
# Schedules of the pipeline

Messages, the end of the queue and the wish to stop reach the pipeline in any order and at any
times. The messages that it takes are the first of those that are sent; it takes all of them unless
it is asked to stop.
-/

namespace LinkBus.Pipeline

/-- Lives through a schedule: each stimulus comes some time after the one before. -/
def follow (p : Pipeline) (schedule : List (Nat × Stimulus)) : Pipeline :=
  schedule.foldl (fun p s => p.meet (p.now + s.1) s.2) p

/-- The message that the pipeline takes with a stimulus, and when. -/
def taken (p : Pipeline) : Stimulus → List (Nat × Message)
  | .message m => if p.closed || !p.isRunning then [] else [(p.now, m)]
  | _ => []

/-- The messages that the pipeline takes along a schedule, and when. -/
def arrivals (p : Pipeline) : List (Nat × Stimulus) → List (Nat × Message)
  | [] => []
  | (pause, s) :: rest =>
    (p.run (p.now + pause)).taken s ++ (p.meet (p.now + pause) s).arrivals rest

/-- The time at which a stimulus closes the queue, if it does. -/
def closes? (p : Pipeline) : Stimulus → Option Nat
  | .close => some p.now
  | _ => none

/-- When the queue is closed along a schedule, if it is. -/
def closing? (p : Pipeline) : List (Nat × Stimulus) → Option Nat
  | [] => none
  | (pause, s) :: rest =>
    ((p.run (p.now + pause)).closes? s).or ((p.meet (p.now + pause) s).closing? rest)

/-- A run up to some time later ends then. -/
theorem now_run_add (p : Pipeline) (pause : Nat) :
    (p.run (p.now + pause)).now = p.now + pause := by
  rw [now_run, Nat.max_eq_right (Nat.le_add_right ..)]

/-- A stimulus that comes some time later is met then. -/
theorem now_meet (p : Pipeline) (pause : Nat) (s : Stimulus) :
    (p.meet (p.now + pause) s).now = p.now + pause := by
  have hfeel : ((p.run (p.now + pause)).feel s).now = (p.run (p.now + pause)).now := by
    unfold feel
    repeat' split
    all_goals rfl
  rw [meet, now_run, hfeel, now_run_add, Nat.max_self]

/-- Messages arrive in the order of time. -/
theorem pairwise_arrivals (p : Pipeline) (schedule : List (Nat × Stimulus)) :
    (p.arrivals schedule).Pairwise (fun a later => a.1 ≤ later.1) ∧
      ∀ a ∈ p.arrivals schedule, p.now ≤ a.1 := by
  induction schedule generalizing p with
  | nil => exact ⟨.nil, nofun⟩
  | cons s rest ih =>
    obtain ⟨pause, s⟩ := s
    obtain ⟨hsorted, hlater⟩ := ih (p.meet (p.now + pause) s)
    rw [now_meet] at hlater
    have htaken : (p.run (p.now + pause)).taken s = [] ∨
        ∃ m, (p.run (p.now + pause)).taken s = [(p.now + pause, m)] := by
      cases s with
      | message m =>
        rw [taken, now_run_add]
        split
        · exact .inl rfl
        · exact .inr ⟨m, rfl⟩
      | cancel => exact .inl rfl
      | close => exact .inl rfl
    rw [arrivals]
    obtain hnone | ⟨m, hone⟩ := htaken
    · rw [hnone, List.nil_append]
      exact ⟨hsorted, fun a ha => Nat.le_trans (Nat.le_add_right ..) (hlater a ha)⟩
    · rw [hone, List.singleton_append]
      refine ⟨List.pairwise_cons.2 ⟨hlater, hsorted⟩, fun a ha => ?_⟩
      rcases List.mem_cons.1 ha with rfl | ha
      · exact Nat.le_add_right ..
      · exact Nat.le_trans (Nat.le_add_right ..) (hlater a ha)

/-! ## Messages that are taken -/

/-- The message of a stimulus, if it is one. -/
def Stimulus.message? : Stimulus → Option Message
  | message m => some m
  | _ => none

/-- The messages that are sent along a schedule. -/
def sent (schedule : List (Nat × Stimulus)) : List Message :=
  schedule.filterMap fun s => s.2.message?

/-- Whether a message would be taken. -/
def isOpen (p : Pipeline) : Bool := !p.closed && p.isRunning

/-- What a pipeline takes of a stimulus. -/
theorem map_taken (p : Pipeline) (s : Stimulus) :
    (p.taken s).map Prod.snd = if p.isOpen then s.message?.toList else [] := by
  cases s with
  | message m => cases hclosed : p.closed <;> cases hrunning : p.isRunning <;>
      simp [taken, isOpen, Stimulus.message?, hclosed, hrunning]
  | cancel => simp [taken, Stimulus.message?]
  | close => simp [taken, Stimulus.message?]

/-- No stimulus opens a closed queue, takes back the wish to stop, or starts or stops the pipeline
at once. -/
theorem flags_feel (p : Pipeline) (s : Stimulus) :
    (p.closed = true → (p.feel s).closed = true) ∧
      (p.cancelled = true → (p.feel s).cancelled = true) ∧ (p.feel s).isRunning = p.isRunning := by
  cases s with
  | message m =>
    unfold feel isRunning
    cases hclosed : p.closed <;> cases hstage : p.stage <;> simp [hclosed, hstage, bne]
  | cancel => exact ⟨id, fun _ => rfl, rfl⟩
  | close => exact ⟨fun _ => rfl, id, rfl⟩

/-- Once no message is taken, none is taken later. -/
theorem isOpen_meet {p : Pipeline} {time : Nat} (h : (p.run time).isOpen = false) (s : Stimulus) :
    (p.meet time s).isOpen = false := by
  obtain ⟨hclosed, _, hrunning⟩ := flags_feel (p.run time) s
  obtain ⟨hclosed', _, hrunning', _⟩ := flags_run time ((p.run time).feel s)
  rw [isOpen, Bool.and_eq_false_iff, Bool.not_eq_false'] at h ⊢
  rw [meet, hclosed']
  exact h.imp hclosed fun hstopped => hrunning' (hrunning.trans hstopped)

/-- No message is taken where none is taken any more. -/
theorem arrivals_of_isOpen_eq_false {p : Pipeline} (h : p.isOpen = false)
    (schedule : List (Nat × Stimulus)) : p.arrivals schedule = [] := by
  induction schedule generalizing p with
  | nil => rfl
  | cons s rest ih =>
    obtain ⟨pause, s⟩ := s
    have hrun : (p.run (p.now + pause)).isOpen = false := by
      obtain ⟨hclosed, _, hrunning, _⟩ := flags_run (p.now + pause) p
      rw [isOpen, Bool.and_eq_false_iff, Bool.not_eq_false'] at h ⊢
      exact h.imp hclosed.trans hrunning
    have htaken := map_taken (p.run (p.now + pause)) s
    rw [if_neg (by simp [hrun]), List.map_eq_nil_iff] at htaken
    rw [arrivals, htaken, ih (isOpen_meet hrun s), List.nil_append]

/-- The messages that are taken are the first of those that are sent. -/
theorem arrivals_prefix (p : Pipeline) (schedule : List (Nat × Stimulus)) :
    (p.arrivals schedule).map Prod.snd <+: sent schedule := by
  induction schedule generalizing p with
  | nil => exact List.nil_prefix
  | cons s rest ih =>
    obtain ⟨pause, s⟩ := s
    have hsent : sent ((pause, s) :: rest) = s.message?.toList ++ sent rest := by
      cases s <;> rfl
    rw [arrivals, List.map_append, map_taken, hsent]
    cases hopen : (p.run (p.now + pause)).isOpen with
    | true => exact (List.prefix_append_right_inj _).2 (ih _)
    | false =>
      rw [arrivals_of_isOpen_eq_false (isOpen_meet hopen s)]
      exact List.nil_prefix

/-- Whether nothing asks the pipeline to stop. -/
def isGoing (p : Pipeline) : Bool := p.isOpen && !p.cancelled

/-- A pipeline that is not asked to stop goes on. -/
theorem isGoing_run {p : Pipeline} (h : p.isGoing = true) (limit : Nat) :
    (p.run limit).isGoing = true := by
  obtain ⟨hclosed, hcancelled, _, hrunning⟩ := flags_run limit p
  simp only [isGoing, isOpen, Bool.and_eq_true, Bool.not_eq_true'] at h ⊢
  rw [hclosed, hcancelled]
  exact ⟨⟨h.1.1, hrunning h.1.2 (by simp [h.1.1, h.2])⟩, h.2⟩

/-- No message asks the pipeline to stop. -/
theorem isGoing_feel {p : Pipeline} (h : p.isGoing = true) (m : Message) :
    (p.feel (.message m)).isGoing = true := by
  have hrunning := (flags_feel p (.message m)).2.2
  have hflags : (p.feel (.message m)).closed = p.closed ∧
      (p.feel (.message m)).cancelled = p.cancelled := by
    simp only [feel]
    repeat' split
    all_goals exact ⟨rfl, rfl⟩
  rw [isGoing, isOpen, hrunning, hflags.1, hflags.2]
  exact h

/-- Where nothing but messages is sent, all are taken. -/
theorem arrivals_eq_sent {p : Pipeline} (h : p.isGoing = true) {schedule : List (Nat × Stimulus)}
    (hsent : ∀ s ∈ schedule, s.2.message?.isSome) :
    (p.arrivals schedule).map Prod.snd = sent schedule := by
  induction schedule generalizing p with
  | nil => rfl
  | cons s rest ih =>
    obtain ⟨pause, s⟩ := s
    cases s with
    | message m =>
      have hrun := isGoing_run h (p.now + pause)
      have hopen : (p.run (p.now + pause)).isOpen = true := (Bool.and_eq_true_iff.1 hrun).1
      have hlater := ih (isGoing_run (isGoing_feel hrun m) (p.now + pause)) fun s hs =>
        hsent s (List.mem_cons_of_mem _ hs)
      rw [arrivals, List.map_append, map_taken, if_pos hopen, meet, hlater]
      rfl
    | cancel => cases hsent _ List.mem_cons_self
    | close => cases hsent _ List.mem_cons_self

end LinkBus.Pipeline
