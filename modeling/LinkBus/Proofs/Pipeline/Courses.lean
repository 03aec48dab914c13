import LinkBus.Proofs.Pipeline.Batches
import LinkBus.Proofs.Pipeline.Schedule

/-!
# Courses of the pipeline

Whatever a pipeline lives through, there is an account of it: the batches of its arrivals, which
depend on their times alone, are applied one after the other, each as a whole. So the records depend
on the messages alone, and not on their timing.
-/

namespace LinkBus

namespace Pipeline

/-- When a batch ends whose first message arrived at some time: when the window is over, or earlier
when the queue is closed. -/
def ending (window : Nat) (closing : Option Nat) (first : Nat) : Nat :=
  closing.elim (first + window) (min (first + window))

/-- What the pipeline is doing while some batch is open. -/
inductive Fits (window : Nat) : List (Nat × Message) → Stage → Prop
  | idle : Fits window [] .idle
  | stopped : Fits window [] .stopped
  | gathering (first : Nat × Message) (rest : List (Nat × Message)) :
    Fits window (first :: rest)
      (.gathering (first.1 + window) (first.2 :: rest.map Prod.snd))

/-- What a pipeline did since it started: its rounds, and the batch that is still open. -/
structure Account (start : Pipeline) (arrivals : List (Nat × Message)) (closing : Option Nat)
    (rounds : List Round) (opened : List (Nat × Message)) (p : Pipeline) : Prop where
  /-- The network, and what was announced and published of it, are what the rounds made of them. -/
  standing_eq : p.standing = start.standing.takeAll start.debounce rounds
  /-- What the rounds applied and what is still open are the batches of all arrivals. -/
  batches_eq : (rounds.map Round.batch ++ [opened]).filter (fun batch => !batch.isEmpty) =
    batches start.window arrivals
  /-- A batch is applied when it ends. -/
  at_eq : ∀ r ∈ rounds, ∀ first rest, r.batch = first :: rest →
    r.at_ = ending start.window closing first.1
  /-- The rounds are in the order of time. -/
  pairwise_at : rounds.Pairwise fun r later => r.at_ ≤ later.at_
  /-- The pipeline gathers exactly while a batch is open. -/
  fits : Fits start.window opened p.stage

/-- An account together with what makes it last. -/
structure Ledger (start : Pipeline) (arrivals : List (Nat × Message)) (closing : Option Nat)
    (rounds : List Round) (opened : List (Nat × Message)) (p : Pipeline) : Prop extends
    Account start arrivals closing rounds opened p where
  /-- The window stays. -/
  window_eq : p.window = start.window
  /-- The time that numbers stay parked stays. -/
  debounce_eq : p.debounce = start.debounce
  /-- The queue is closed since it was closed. -/
  closed_eq : p.closed = closing.isSome
  /-- No round lies in the future. -/
  at_le : ∀ r ∈ rounds, r.at_ ≤ p.now
  /-- No batch stays open once the queue is closed. -/
  now_eq : ∀ time ∈ closing, opened ≠ [] → p.now = time
  /-- No batch stays open once its window is over. -/
  now_le : ∀ first rest, opened = first :: rest → p.now ≤ first.1 + start.window
  /-- The timer begins no round before a number is due. -/
  timely : Timely start.debounce start.network 0 rounds

namespace Ledger

variable {start p : Pipeline} {arrivals opened : List (Nat × Message)} {closing : Option Nat}
  {rounds : List Round}

/-- A pipeline that gathers holds the messages of the open batch. -/
theorem gathering (h : Ledger start arrivals closing rounds opened p) {until_ : Nat}
    {batch : List Message} (hstage : p.stage = .gathering until_ batch) :
    ∃ first rest, opened = first :: rest ∧ until_ = first.1 + start.window ∧
      batch = opened.map Prod.snd := by
  have hfits := h.fits
  rw [hstage] at hfits
  cases hfits with
  | gathering first rest => exact ⟨first, rest, rfl, rfl, rfl⟩

/-- Without an open batch the pipeline waits, or has stopped. -/
theorem idle (h : Ledger start arrivals closing rounds opened p) (hstage : p.stage = .idle) :
    opened = [] := by
  have hfits := h.fits
  rw [hstage] at hfits
  cases hfits
  rfl

/-- An open queue was not closed before. -/
theorem closing_eq_none (h : Ledger start arrivals closing rounds opened p)
    (hclosed : p.closed = false) : closing = none :=
  Option.isNone_iff_eq_none.1 (Option.isSome_eq_false_iff.1 (h.closed_eq.symm.trans hclosed))

/-- The rounds led to the network. -/
theorem through_eq (h : Ledger start arrivals closing rounds opened p) :
    start.network.through start.debounce rounds = p.network :=
  (Standing.network_takeAll start.debounce start.standing rounds).symm.trans
    (congrArg Standing.network h.standing_eq.symm)

/-- When the open batch ends, a round is added to the account. Without an open batch the round only
retires numbers, and some are due. -/
theorem close (h : Ledger start arrivals closing rounds opened p) {time : Nat} (hnow : p.now ≤ time)
    (hend : ∀ first rest, opened = first :: rest →
      time = ending start.window closing first.1)
    (hdue : opened = [] → ∃ deadline ∈ p.network.numbering.nextRetirement?, deadline ≤ time) :
    Ledger start arrivals closing (rounds ++ [⟨time, opened⟩]) []
      ({ p with now := time }.close (opened.map Prod.snd)) := by
  have hstanding := standing_close { p with now := time } opened
  rw [close_eq]
  refine { window_eq := h.window_eq, debounce_eq := h.debounce_eq, closed_eq := h.closed_eq
           fits := .idle, now_eq := fun _ _ hopen => absurd rfl hopen
           now_le := fun _ _ hopen => (nomatch hopen), standing_eq := ?_, batches_eq := ?_
           at_eq := ?_, pairwise_at := ?_, at_le := ?_, timely := ?_ }
  · rw [Standing.takeAll_concat, ← h.standing_eq, ← h.debounce_eq]
    exact hstanding
  · rw [← h.batches_eq]
    simp [List.filter_cons]
  · intro r hr first rest hbatch
    rcases List.mem_append.1 hr with hr | hr
    · exact h.at_eq r hr first rest hbatch
    · obtain rfl := List.mem_singleton.1 hr
      exact hend first rest hbatch
  · refine List.pairwise_append.2 ⟨h.pairwise_at, List.pairwise_singleton _ _, ?_⟩
    intro r hr later hlater
    obtain rfl := List.mem_singleton.1 hlater
    exact (h.at_le r hr).trans hnow
  · intro r hr
    rcases List.mem_append.1 hr with hr | hr
    · exact (h.at_le r hr).trans hnow
    · obtain rfl := List.mem_singleton.1 hr
      exact Nat.le_refl time
  · refine h.timely.concat (Nat.zero_le time) (fun r hr => (h.at_le r hr).trans hnow) fun htimed => ?_
    rw [h.through_eq]
    exact hdue (List.isEmpty_iff.1 htimed)

/-- Whatever the pipeline does next, there is an account of it. -/
theorem step (h : Ledger start arrivals closing rounds opened p) {limit : Nat} {next : Pipeline}
    (hstep : p.step? limit = some next) :
    ∃ rounds opened, Ledger start arrivals closing rounds opened next := by
  obtain ⟨hstage, _, rfl⟩ | ⟨until_, batch, hstage, hclosed, rfl⟩ |
    ⟨until_, batch, hstage, hclosed, hdue, rfl⟩ | ⟨deadline, hstage, hnext, hdue, rfl⟩ :=
      step?_cases hstep
  · obtain rfl := h.idle hstage
    exact ⟨rounds, [], { h with fits := .stopped }⟩
  · obtain ⟨first, rest, rfl, rfl, rfl⟩ := h.gathering hstage
    refine ⟨_, _, h.close (Nat.le_refl p.now) (fun first' rest' heq => ?_) nofun⟩
    cases heq
    obtain ⟨time, htime⟩ := Option.isSome_iff_exists.1 (h.closed_eq.symm.trans hclosed)
    have hnow := h.now_eq time htime (List.cons_ne_nil first rest)
    have hwithin := h.now_le first rest rfl
    rw [htime, ending, Option.elim_some]
    omega
  · obtain ⟨first, rest, rfl, rfl, rfl⟩ := h.gathering hstage
    have hwithin := h.now_le first rest rfl
    refine ⟨_, _, h.close (Nat.le_max_left ..) (fun first' rest' heq => ?_) nofun⟩
    cases heq
    rw [h.closing_eq_none hclosed, ending, Option.elim_none]
    omega
  · obtain rfl := h.idle hstage
    exact ⟨_, _, h.close (Nat.le_max_left ..) nofun
      fun _ => ⟨deadline, hnext, Nat.le_max_right ..⟩⟩

/-- There is an account of every run. -/
theorem run (h : Ledger start arrivals closing rounds opened p) (limit : Nat) :
    ∃ rounds opened, Ledger start arrivals closing rounds opened (p.run limit) := by
  fun_induction Pipeline.run limit p generalizing rounds opened with
  | case1 p hnone =>
    have hrest := step?_eq_none_iff.1 hnone
    have hopened : ∀ first rest, opened = first :: rest →
        closing = none ∧ limit < first.1 + start.window := by
      rintro first rest rfl
      have hfits := h.fits
      generalize hstage : p.stage = stage at hfits hrest
      cases hfits
      exact ⟨h.closing_eq_none hrest.1, hrest.2⟩
    refine ⟨rounds, opened, { h with at_le := fun r hr => ?_, now_eq := fun time htime hne => ?_
                                     now_le := fun first rest heq => ?_ }⟩
    · exact (h.at_le r hr).trans (Nat.le_max_left ..)
    · obtain ⟨first, rest, heq⟩ := List.exists_cons_of_ne_nil hne
      rw [(hopened first rest heq).1] at htime
      cases htime
    · exact Nat.max_le.2 ⟨h.now_le first rest heq, (hopened first rest heq).2.le⟩
  | case2 p next hsome ih =>
    obtain ⟨rounds, opened, hnext⟩ := h.step hsome
    exact ih hnext

/-- A batch that arrives joins the open batch while its window lasts, or opens a batch. -/
theorem batches_concat (h : Ledger start arrivals closing rounds opened p)
    (hclosed : p.closed = false) (m : Message)
    (hwithin : ∀ first rest, opened = first :: rest → p.now < first.1 + start.window) :
    (rounds.map Round.batch ++ [opened ++ [(p.now, m)]]).filter (fun batch => !batch.isEmpty) =
      batches start.window (arrivals ++ [(p.now, m)]) := by
  have hbatches := h.batches_eq
  cases opened with
  | nil =>
    rw [batches_concat_of_over, ← hbatches]
    · simp
    · -- the queue was open, so each batch ended when its window was over
      intro first rest hmem
      rw [← hbatches, List.mem_filter, List.mem_append, List.mem_map] at hmem
      obtain ⟨⟨r, hr, hbatch⟩ | hnil, _⟩ := hmem
      · have hat := h.at_eq r hr first rest hbatch
        rw [h.closing_eq_none hclosed, ending, Option.elim_none] at hat
        exact hat ▸ h.at_le r hr
      · cases List.mem_singleton.1 hnil
  | cons first rest =>
    rw [List.filter_append] at hbatches ⊢
    exact (batches_concat_of_within hbatches.symm (hwithin first rest rfl)).symm

/-- A message that is taken is added to the open batch. -/
theorem grow (h : Ledger start arrivals closing rounds opened p) (hclosed : p.closed = false)
    {m : Message} {stage : Stage} (hfits : Fits start.window (opened ++ [(p.now, m)]) stage)
    (hwithin : ∀ first rest, opened = first :: rest → p.now < first.1 + start.window) :
    Ledger start (arrivals ++ [(p.now, m)]) closing rounds (opened ++ [(p.now, m)])
      { p with stage } where
  standing_eq := h.standing_eq
  batches_eq := h.batches_concat hclosed m hwithin
  at_eq := h.at_eq
  pairwise_at := h.pairwise_at
  fits := hfits
  window_eq := h.window_eq
  debounce_eq := h.debounce_eq
  closed_eq := h.closed_eq
  at_le := h.at_le
  now_eq time htime := by
    rw [h.closing_eq_none hclosed] at htime
    cases htime
  now_le first rest heq := by
    cases opened with
    | nil =>
      cases heq
      exact Nat.le_add_right ..
    | cons first' rest' =>
      cases heq
      exact h.now_le first rest' rfl
  timely := h.timely

/-- There is an account of every message. -/
theorem message (h : Ledger start arrivals closing rounds opened p)
    (hrest : p.step? p.now = none) (m : Message) :
    ∃ opened, Ledger start (arrivals ++ p.taken (.message m)) closing rounds opened
      (p.feel (.message m)) := by
  have hrest := step?_eq_none_iff.1 hrest
  cases hclosed : p.closed with
  | true =>
    refine ⟨opened, ?_⟩
    simpa [taken, feel, hclosed] using h
  | false =>
    have hfits := h.fits
    generalize hstage : p.stage = stage at hfits hrest
    have hrunning : stage ≠ .stopped → p.taken (.message m) = [(p.now, m)] := fun hne => by
      simp [taken, isRunning, hclosed, hstage, hne]
    cases hfits with
    | stopped =>
      refine ⟨[], ?_⟩
      simpa [taken, feel, isRunning, hclosed, hstage] using h
    | idle =>
      have hgrown := h.grow hclosed (.gathering (p.now, m) []) (by simp)
      refine ⟨[(p.now, m)], ?_⟩
      rw [hrunning (by simp)]
      simpa [feel, hclosed, hstage, h.window_eq] using hgrown
    | gathering first rest =>
      have hgrown := h.grow hclosed (.gathering first (rest ++ [(p.now, m)]))
        fun first' rest' heq => by
          cases heq
          exact hrest.2
      refine ⟨first :: rest ++ [(p.now, m)], ?_⟩
      rw [hrunning (by simp)]
      simpa [feel, hclosed, hstage] using hgrown

/-- The end of the queue ends the open batch now, and no earlier one. -/
theorem closeQueue (h : Ledger start arrivals closing rounds opened p) :
    Ledger start arrivals (closing.or (some p.now)) rounds opened (p.feel .close) := by
  cases hclosing : closing with
  | some time =>
    subst hclosing
    exact { h with closed_eq := rfl }
  | none =>
    subst hclosing
    refine { h with
      closed_eq := rfl, at_eq := fun r hr first rest hbatch => ?_
      now_eq := fun time htime _ => Option.some.inj htime }
    have hat := h.at_eq r hr first rest hbatch
    have hle := h.at_le r hr
    rw [hat, ending, Option.elim_none] at hle
    rw [hat, Option.none_or, ending, ending, Option.elim_none, Option.elim_some,
      Nat.min_eq_left hle]

/-- There is an account of every stimulus. -/
theorem feel (h : Ledger start arrivals closing rounds opened p) (hrest : p.step? p.now = none)
    (s : Stimulus) :
    ∃ opened, Ledger start (arrivals ++ p.taken s) (closing.or (p.closes? s)) rounds opened
      (p.feel s) := by
  cases s with
  | message m => simpa [closes?] using h.message hrest m
  | cancel => exact ⟨opened, by simpa [taken, closes?] using { h with }⟩
  | close => exact ⟨opened, by simpa [taken, closes?] using h.closeQueue⟩

/-- There is an account of every schedule. -/
theorem follow (h : Ledger start arrivals closing rounds opened p)
    (schedule : List (Nat × Stimulus)) :
    ∃ rounds opened, Ledger start (arrivals ++ p.arrivals schedule)
      (closing.or (p.closing? schedule)) rounds opened (p.follow schedule) := by
  induction schedule generalizing p arrivals closing rounds opened with
  | nil =>
    rw [Pipeline.arrivals, closing?, List.append_nil, Option.or_none]
    exact ⟨rounds, opened, h⟩
  | cons s rest ih =>
    obtain ⟨pause, s⟩ := s
    obtain ⟨rounds, opened, hrun⟩ := h.run (p.now + pause)
    have hrest : (p.run (p.now + pause)).step? (p.run (p.now + pause)).now = none := by
      rw [now_run_add]
      exact step?_run ..
    obtain ⟨opened, hfelt⟩ := hrun.feel hrest s
    obtain ⟨rounds, opened, hmet⟩ := hfelt.run (p.now + pause)
    obtain ⟨rounds, opened, hlast⟩ := ih hmet
    rw [List.append_assoc, Option.or_assoc] at hlast
    exact ⟨rounds, opened, hlast⟩

end Ledger

namespace Account

variable {start p : Pipeline} {arrivals opened : List (Nat × Message)} {closing : Option Nat}
  {rounds : List Round}

/-- Each message that was taken is in exactly one batch, in the order of arrival. -/
theorem flatMap_batch (h : Account start arrivals closing rounds opened p) :
    rounds.flatMap Round.batch ++ opened = arrivals := by
  rw [← flatten_batches start.window arrivals, ← h.batches_eq, List.flatten_filter_not_isEmpty,
    List.flatten_append, List.flatten_singleton, List.flatMap]

/-- The inventory has heard the messages of the batches that were applied. -/
theorem inventory_eq (h : Account start arrivals closing rounds opened p) :
    p.network.inventory =
      (start.network.inventory.deliverAll ((rounds.flatMap Round.batch).map Prod.snd)).1 := by
  have hstanding := congrArg (fun s : Standing => s.network.inventory) h.standing_eq
  exact hstanding.trans (Standing.inventory_takeAll ..)

/-- The network is as consistent as at the start. -/
theorem consistent (h : Account start arrivals closing rounds opened p) {filter : LinkFilter}
    (hstart : start.network.Consistent filter) : p.network.Consistent filter := by
  have hnetwork : p.network = (start.standing.takeAll start.debounce rounds).network :=
    congrArg Standing.network h.standing_eq
  rw [hnetwork]
  exact Standing.consistent_takeAll hstart start.debounce rounds

end Account

end Pipeline

/-! ## Courses -/

/-- The settings of a pipeline, and the schedule that it lives through. -/
structure Course where
  /-- What was announced before. -/
  memo : BusMemo
  /-- How long a batch is gathered. -/
  window : Nat
  /-- How long a number stays parked. -/
  debounce : Nat
  /-- What happens, each some time after the one before. -/
  schedule : List (Nat × Pipeline.Stimulus)

namespace Course

open Pipeline (Account Ledger)

variable (c : Course) (s : Network)

/-- The pipeline before the schedule. -/
def start : Pipeline :=
  { network := s, memo := c.memo, window := c.window, debounce := c.debounce }

/-- The pipeline after the schedule. -/
def finish : Pipeline := (c.start s).follow c.schedule

/-- The messages that are taken, and when. -/
def arrivals : List (Nat × Message) := (c.start s).arrivals c.schedule

/-- When the queue is closed, if it is. -/
def closing? : Option Nat := (c.start s).closing? c.schedule

/-- The messages that are sent. -/
def sent : List Message := Pipeline.sent c.schedule

/-- There is an account of every course. -/
theorem exists_ledger :
    ∃ rounds opened,
      Ledger (c.start s) (c.arrivals s) (c.closing? s) rounds opened (c.finish s) := by
  have hstart : Ledger (c.start s) [] none [] [] (c.start s) :=
    { standing_eq := rfl, batches_eq := by simp [batches], at_eq := nofun
      pairwise_at := .nil, fits := .idle, window_eq := rfl, debounce_eq := rfl, closed_eq := rfl
      at_le := nofun, now_eq := nofun, now_le := nofun, timely := .nil }
  exact hstart.follow c.schedule

/-- A course that is stopped ends without an open batch. -/
theorem exists_account_stop :
    ∃ rounds, Account (c.start s) (c.arrivals s) (c.closing? s) rounds [] (c.finish s).stop := by
  obtain ⟨rounds, opened, h⟩ := c.exists_ledger s
  have hcancelled : Ledger (c.start s) (c.arrivals s) (c.closing? s) rounds opened
    ((c.finish s).feel .cancel) := { h with }
  obtain ⟨rounds, opened, hstop⟩ := hcancelled.run
    (max ((c.finish s).feel .cancel).now ((c.finish s).feel .cancel).wake)
  have hfits : Pipeline.Fits (c.start s).window opened (c.finish s).stop.stage := hstop.fits
  rw [Pipeline.stage_stop] at hfits
  cases hfits
  exact ⟨rounds, hstop.toAccount⟩

/-- A course without an open batch has heard all messages that were taken, one after the other. -/
theorem inventory_finish (h : (c.finish s).isGathering = false) :
    (c.finish s).network.inventory =
      (s.inventory.deliverAll ((c.arrivals s).map Prod.snd)).1 := by
  obtain ⟨rounds, opened, hledger⟩ := c.exists_ledger s
  have hopened : opened = [] := by
    have hfits := hledger.fits
    unfold Pipeline.isGathering at h
    generalize (c.finish s).stage = stage at h hfits
    cases hfits with
    | idle => rfl
    | stopped => rfl
    | gathering => cases h
  rw [hledger.inventory_eq, ← hledger.flatMap_batch, hopened, List.append_nil]
  rfl

/-- Courses differ in their timing alone: along each of them the messages that are taken, the first
of those that are sent, are put into batches by their times of arrival, and each batch is applied as
a whole and published at most once. A course that is stopped ends its last batch before it stops.
Without an open batch the records are those of the messages taken one after the other, and any two
courses with the same messages have the same records and show the same interfaces. -/
theorem messages_determine_records (filter : LinkFilter) (setup : List Update) :
    let s := (Network.empty filter).updateAll setup
    (∀ c : Course, ∃ rounds opened,
      Account (c.start s) (c.arrivals s) (c.closing? s) rounds opened (c.finish s) ∧
      (c.arrivals s).Pairwise (fun a later => a.1 ≤ later.1) ∧
      rounds.flatMap Round.batch ++ opened = c.arrivals s ∧
      (c.finish s).network.inventory =
        (s.inventory.deliverAll ((rounds.flatMap Round.batch).map Prod.snd)).1) ∧
    (∀ c : Course, (c.arrivals s).map Prod.snd <+: c.sent ∧
      ((∀ a ∈ c.schedule, a.2.message?.isSome) → (c.arrivals s).map Prod.snd = c.sent)) ∧
    (∀ c : Course, (c.finish s).stop.stage = .stopped ∧
      (∃ rounds, Account (c.start s) (c.arrivals s) (c.closing? s) rounds [] (c.finish s).stop) ∧
      (c.finish s).stop.network.inventory =
        (s.inventory.deliverAll ((c.arrivals s).map Prod.snd)).1) ∧
    (∀ c : Course, (c.finish s).isGathering = false →
      (c.finish s).network.inventory =
        (s.inventory.deliverAll ((c.arrivals s).map Prod.snd)).1) ∧
    ∀ c c' : Course, (c.finish s).isGathering = false → (c'.finish s).isGathering = false →
      (c.arrivals s).map Prod.snd = (c'.arrivals s).map Prod.snd →
      (c.finish s).network.inventory = (c'.finish s).network.inventory ∧
        ∀ i, i ∈ (c.finish s).network.shown ↔ i ∈ (c'.finish s).network.shown := by
  intro s
  have hs : s.Consistent filter := (Network.consistent_empty filter).updateAll setup
  have hconsistent (c : Course) : (c.finish s).network.Consistent filter := by
    obtain ⟨rounds, opened, h⟩ := c.exists_ledger s
    exact h.consistent hs
  refine ⟨fun c => ?_, fun c => ?_, fun c => ?_, fun c => c.inventory_finish s,
    fun c c' hsettled hsettled' hsame => ?_⟩
  · obtain ⟨rounds, opened, h⟩ := c.exists_ledger s
    exact ⟨rounds, opened, h.toAccount, (Pipeline.pairwise_arrivals _ _).1, h.flatMap_batch,
      h.inventory_eq⟩
  · exact ⟨Pipeline.arrivals_prefix _ _, Pipeline.arrivals_eq_sent rfl⟩
  · obtain ⟨rounds, h⟩ := c.exists_account_stop s
    refine ⟨Pipeline.stage_stop _, ⟨rounds, h⟩, ?_⟩
    rw [h.inventory_eq, ← h.flatMap_batch, List.append_nil]
    rfl
  · have hinventory : (c.finish s).network.inventory = (c'.finish s).network.inventory := by
      rw [c.inventory_finish s hsettled, c'.inventory_finish s hsettled', hsame]
    refine ⟨hinventory, fun i => ?_⟩
    rw [Network.mem_shown, Network.mem_shown, (hconsistent c).shows_eq_serves,
      (hconsistent c').shows_eq_serves, hinventory]

end Course

end LinkBus
