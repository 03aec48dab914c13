import LinkBus.Proofs.Reader.Attempts
import LinkBus.Proofs.Reader.Passages

/-!
# The course of a recovery

After a loss the reader makes attempts until one succeeds, one is refused for good, it is told to
stop while it waits, or no attempt is left. This holds whatever the kernel grants and answers, and
whatever happens to the reader meanwhile.
-/

namespace LinkBus.Netlink

namespace Reader

variable {start r next : Reader} {attempts : List Attempt} {limit left : Nat}

/-- Whether the reader is on its way out of a loss. -/
def recovers (r : Reader) : Bool :=
  match r.phase with
  | .sleeping .. | .dumping .. => true
  | _ => false

/-- Whether the reader waits before an attempt. -/
def sleeps (r : Reader) : Bool :=
  match r.phase with
  | .sleeping .. => true
  | _ => false

/-- The attempts that the next step makes: at most one. -/
def nextAttempts (r : Reader) : List Attempt :=
  match r.phase with
  | .sleeping wake _ _ =>
    if r.cancelled then [] else [⟨(r.advance wake).now, (r.advance wake).client⟩]
  | _ => []

/-- Where the recovery from one loss can lead, and the attempts that were made on the way. -/
inductive Recovery (start : Reader) : List Attempt → Reader → Prop
  /-- Events were lost. -/
  | begins : Recovery start [] start.recover
  /-- The reader does what is due. -/
  | step {attempts : List Attempt} {r next : Reader} {limit : Nat}
      (h : Recovery start attempts r) (hrecovers : r.recovers = true)
      (hstep : r.step? limit = some next) : Recovery start (attempts ++ r.nextAttempts) next
  /-- Nothing is due, and time passes. -/
  | waits {attempts : List Attempt} {r : Reader} {limit : Nat} (h : Recovery start attempts r)
      (hrecovers : r.recovers = true) (hstep : r.step? limit = none) :
      Recovery start attempts { r with now := max r.now limit, client := r.client.idle }
  /-- Something happens to the reader. -/
  | feels {attempts : List Attempt} {r : Reader} (s : Stimulus) (h : Recovery start attempts r)
      (hrecovers : r.recovers = true) : Recovery start attempts (r.feel s)

/-! ## The law of a recovery -/

/-- How many attempts there are. -/
def allowed (start : Reader) : Nat := start.client.settings.maxAttempts.toNat

/-- When the last of some attempts was over. Before the first one this is the time of the loss. -/
def lastOver (start : Reader) (attempts : List Attempt) : Nat :=
  (attempts.getLast?.map Attempt.ended).getD start.now

/-- The client after the last of some attempts. -/
def lastClient (start : Reader) (attempts : List Attempt) : Client :=
  (attempts.getLast?.map Attempt.after).getD start.client

/-- When the next attempt is due. -/
def due (start : Reader) (attempts : List Attempt) : Nat :=
  start.lastOver attempts + pause start.client.settings attempts.length

/-- How far a recovery has come after some attempts. -/
inductive UnderWay (start : Reader) (attempts : List Attempt) (r : Reader) : Prop
  /-- All attempts were vain, and another one is due later. -/
  | waits {left : Nat} (hvain : ∀ a ∈ attempts, a.isVain = true)
      (hleft : attempts.length + left + 1 = start.allowed)
      (hphase : r.phase = .sleeping (start.due attempts) left
        (delaysAfter start.client.settings (attempts.length + 1)))
      (hsince : start.lastOver attempts ≤ r.now) (huntil : r.now ≤ start.due attempts)
      (hpassed : r.passed = start.passed)
  /-- The last attempt has got its socket and waits for its dump. -/
  | asks {earlier : List Attempt} {a : Attempt} {answer : Timed (List Event)} {left : Nat}
      (hattempts : attempts = earlier ++ [a]) (hanswer : a.answer? = some answer)
      (hleft : attempts.length + left = start.allowed)
      (hphase : r.phase = .dumping a.ended left
        (delaysAfter start.client.settings attempts.length) answer.result)
      (huntil : r.now ≤ a.ended) (hpassed : r.passed = start.passed)

/-- How a recovery has ended after some attempts. -/
inductive Over (start : Reader) (attempts : List Attempt) (r : Reader) : Prop
  /-- The last attempt has succeeded. Its snapshot is passed on, if anyone takes it. -/
  | mended {earlier : List Attempt} {a : Attempt} {events : List Event}
      (hattempts : attempts = earlier ++ [a]) (hsnapshot : a.snapshot? = some events)
      (hphase : r.phase = if r.listening then .reading else .ended a.ended (.ok ()))
      (hpassed : r.passed =
        start.passed ++ if r.listening then [(a.ended, .snapshot events)] else [])
  /-- The dump of the last attempt was refused for good. -/
  | refused {earlier : List Attempt} {a : Attempt} {failure : Failure}
      (hattempts : attempts = earlier ++ [a]) (hrefusal : a.refusal? = some failure)
      (hphase : r.phase = .ended a.ended (.error failure)) (hpassed : r.passed = start.passed)
  /-- The reader was told to stop before the next attempt was due. -/
  | stopped (hvain : ∀ a ∈ attempts, a.isVain = true) (hleft : attempts.length < start.allowed)
      (hcancelled : r.cancelled = true) (hphase : r.phase = .ended r.now (.ok ()))
      (hsince : start.lastOver attempts ≤ r.now) (huntil : r.now ≤ start.due attempts)
      (hpassed : r.passed = start.passed)
  /-- All attempts that there are were vain. -/
  | exhausted (hvain : ∀ a ∈ attempts, a.isVain = true) (hleft : attempts.length = start.allowed)
      (hphase : r.phase = .ended (start.lastOver attempts) (.error (.io .attemptsExhausted)))
      (hpassed : r.passed = start.passed)

/-- The law of a recovery. -/
structure Course (start : Reader) (attempts : List Attempt) (r : Reader) : Prop where
  /-- There are not more attempts than allowed. -/
  bounded : attempts.length ≤ start.allowed
  /-- Each attempt is made when it is due, by a client that has asked for nothing since the attempt
  before, and only where all attempts before were vain. -/
  made : ∀ earlier a later, attempts = earlier ++ a :: later →
    a.time = start.due earlier ∧ a.client.logs = (start.lastClient earlier).logs ∧
      ∀ b ∈ earlier, b.isVain = true
  /-- Nothing was asked for since the last attempt. -/
  logs_eq : r.client.logs = (start.lastClient attempts).logs
  /-- The recovery is under way or has ended. -/
  stage : start.UnderWay attempts r ∨ start.Over attempts r

/-- A recovery that has ended does not go on. -/
theorem Over.recovers_eq_false (h : start.Over attempts r) : r.recovers = false := by
  cases h with
  | mended _ _ hphase =>
    rw [recovers, hphase]
    cases r.listening <;> rfl
  | refused _ _ hphase => rw [recovers, hphase]
  | stopped _ _ _ hphase => rw [recovers, hphase]
  | exhausted _ _ hphase => rw [recovers, hphase]

/-- A recovery that goes on is under way. -/
theorem Course.underWay (h : start.Course attempts r) (hrecovers : r.recovers = true) :
    start.UnderWay attempts r :=
  h.stage.resolve_right fun hover => by simp [hover.recovers_eq_false] at hrecovers

@[simp]
theorem lastOver_concat (start : Reader) (attempts : List Attempt) (a : Attempt) :
    start.lastOver (attempts ++ [a]) = a.ended := by
  simp [lastOver]

@[simp]
theorem lastClient_concat (start : Reader) (attempts : List Attempt) (a : Attempt) :
    start.lastClient (attempts ++ [a]) = a.after := by
  simp [lastClient]

/-- What holds of each attempt in view of those before it, and of one attempt more in view of all,
holds of each with that one. -/
theorem forall_split_concat {P : List Attempt → Attempt → Prop} {a : Attempt}
    (h : ∀ earlier b later, attempts = earlier ++ b :: later → P earlier b) (ha : P attempts a)
    (earlier : List Attempt) (b : Attempt) (later : List Attempt)
    (heq : attempts ++ [a] = earlier ++ b :: later) : P earlier b := by
  rcases List.eq_nil_or_concat later with rfl | ⟨later, c, rfl⟩
  · obtain ⟨rfl, hab⟩ := List.append_inj' heq rfl
    obtain rfl := List.singleton_inj.1 hab
    exact ha
  · rw [List.concat_eq_append, ← List.cons_append, ← List.append_assoc] at heq
    exact h earlier b later (List.append_inj' heq rfl).1

/-! ## What a step changes -/

/-- Going on until a later time ends there. -/
theorem now_advance {time : Nat} (h : r.now ≤ time) : (r.advance time).now = time := by
  unfold advance
  split
  · rfl
  · omega

/-- Going on asks the kernel for nothing. -/
theorem logs_advance (r : Reader) (time : Nat) :
    (r.advance time).client.logs = r.client.logs := by
  unfold advance
  split <;> rfl

/-- Going on after a dump changes nothing of the client. -/
theorem client_conclude (r : Reader) (left : Nat) (b : Delays)
    (result : Except Failure (List Event)) : (r.conclude left b result).client = r.client := by
  unfold conclude pass
  split
  · split <;> rfl
  · split
    · exact (r.retry_frame left b).1
    · rfl

/-- An attempt is vain at once, or waits for its dump. -/
theorem attempt_cases (r : Reader) (left : Nat) (b : Delays) {a : Attempt}
    (ha : a = ⟨r.now, r.client⟩) :
    (a.isVain = true ∧ a.ended = r.now ∧
      r.attempt left b = { r with client := a.after }.retry left b) ∨
    ∃ answer, a.answer? = some answer ∧ r.now ≤ a.ended ∧
      r.attempt left b =
        { r with client := a.after, inbox := [], phase := .dumping a.ended left b answer.result } := by
  subst ha
  unfold attempt
  split
  · next kernel failure hopen =>
    have hopening : (Attempt.mk r.now r.client).opening = .error failure :=
      congrArg Prod.snd hopen
    obtain ⟨hvain, hended, hafter⟩ := Attempt.of_opening_error hopening
    refine .inl ⟨hvain, hended, ?_⟩
    rw [hafter, Attempt.opened, hopen]
  · next kernel _ hopen =>
    have hopening : (Attempt.mk r.now r.client).opening = .ok () := congrArg Prod.snd hopen
    obtain ⟨hanswer, hended, hafter⟩ := Attempt.of_opening_ok hopening
    refine .inr ⟨_, hanswer, ?_, ?_⟩
    · rw [hended]
      exact Nat.le_add_right ..
    · rw [hended, hafter, Attempt.opened, hopen]

/-- An attempt leaves the client as it is after it. -/
theorem client_attempt (r : Reader) (left : Nat) (b : Delays) :
    (r.attempt left b).client = (Attempt.mk r.now r.client).after := by
  rcases r.attempt_cases left b rfl with ⟨-, -, hattempt⟩ | ⟨answer, -, -, hattempt⟩
  · rw [hattempt, (retry_frame ..).1]
  · rw [hattempt]

/-- Once its dump has ended, an attempt has succeeded, is vain or was refused for good. -/
theorem conclude_cases (r : Reader) (left : Nat) (b : Delays) {a : Attempt}
    {answer : Timed (List Event)} (hanswer : a.answer? = some answer) :
    (∃ events, a.snapshot? = some events ∧
      r.conclude left b answer.result = r.pass (.snapshot events)) ∨
    (a.isVain = true ∧ r.conclude left b answer.result = r.retry left b) ∨
    ∃ failure, a.refusal? = some failure ∧
      r.conclude left b answer.result = { r with inbox := [] }.finish (.error failure) := by
  cases hresult : answer.result with
  | ok events => exact .inl ⟨events, Attempt.snapshot?_of_ok hanswer hresult, rfl⟩
  | error failure =>
    by_cases htransient : failure.isTransient = true
    · exact .inr (.inl ⟨Attempt.isVain_of_transient hanswer hresult htransient, if_pos htransient⟩)
    · exact .inr (.inr ⟨failure, Attempt.refusal?_of_not_transient hanswer hresult htransient,
        if_neg htransient⟩)

/-! ## Where a step leads -/

/-- After a vain attempt the reader waits for the next one, if one is left. -/
theorem stage_retry (hvain : ∀ a ∈ attempts, a.isVain = true)
    (hleft : attempts.length + left = start.allowed) (hnow : r.now = start.lastOver attempts)
    (hpassed : r.passed = start.passed) {b : Delays}
    (hb : b = delaysAfter start.client.settings attempts.length) :
    start.UnderWay attempts (r.retry left b) ∨ start.Over attempts (r.retry left b) := by
  subst hb
  cases left with
  | zero => exact .inr (.exhausted hvain hleft (by rw [← hnow]; rfl) hpassed)
  | succ left =>
    refine .inl (.waits hvain hleft ?_ (Nat.le_of_eq hnow.symm) ?_ hpassed)
    · rw [due, ← hnow, ← next_delaysAfter]
      rfl
    · exact Nat.le_trans (Nat.le_of_eq hnow) (Nat.le_add_right ..)

/-- An attempt that is due becomes the last one, and waits for its dump or was vain. -/
theorem stage_attempt (hvain : ∀ a ∈ attempts, a.isVain = true)
    (hleft : attempts.length + left + 1 = start.allowed) (hpassed : r.passed = start.passed)
    {b : Delays} (hb : b = delaysAfter start.client.settings (attempts.length + 1)) {a : Attempt}
    (ha : a = ⟨r.now, r.client⟩) :
    start.UnderWay (attempts ++ [a]) (r.attempt left b) ∨
      start.Over (attempts ++ [a]) (r.attempt left b) := by
  have hlength : (attempts ++ [a]).length = attempts.length + 1 := List.length_append
  have hleft' : (attempts ++ [a]).length + left = start.allowed := by omega
  rw [← hlength] at hb
  rcases r.attempt_cases left b ha with ⟨hvain', hended, hattempt⟩ |
    ⟨answer, hanswer, hended, hattempt⟩
  · rw [hattempt]
    refine stage_retry (r := { r with client := a.after }) ?_ hleft' ?_ hpassed hb
    · simpa [or_imp, forall_and] using ⟨hvain, hvain'⟩
    · rw [lastOver_concat, hended]
  · rw [hattempt, hb]
    exact .inl (.asks rfl hanswer hleft' rfl hended hpassed)

/-- Once the dump has ended, the last attempt has succeeded, was refused for good or was vain. -/
theorem stage_conclude {earlier : List Attempt} {a : Attempt} {answer : Timed (List Event)}
    (hattempts : attempts = earlier ++ [a]) (hvain : ∀ b ∈ earlier, b.isVain = true)
    (hanswer : a.answer? = some answer) (hleft : attempts.length + left = start.allowed)
    (hnow : r.now = a.ended) (hpassed : r.passed = start.passed) {b : Delays}
    (hb : b = delaysAfter start.client.settings attempts.length) :
    start.UnderWay attempts (r.conclude left b answer.result) ∨
      start.Over attempts (r.conclude left b answer.result) := by
  rcases r.conclude_cases left b hanswer with ⟨events, hsnapshot, hconclude⟩ |
    ⟨hvain', hconclude⟩ | ⟨failure, hrefusal, hconclude⟩
  · rw [hconclude, pass]
    refine .inr (.mended hattempts hsnapshot ?_ ?_)
    all_goals split <;> simp_all [finish]
  · rw [hconclude]
    refine stage_retry ?_ hleft ?_ hpassed hb
    · simpa [hattempts, or_imp, forall_and] using ⟨hvain, hvain'⟩
    · rw [hnow, hattempts, lastOver_concat]
  · rw [hconclude]
    exact .inr (.refused hattempts hrefusal (by rw [← hnow]; rfl) hpassed)

/-- A reader that waits before an attempt goes on when the attempt is due. -/
theorem wake_of_sleeping {time : Nat} {b : Delays} (hphase : r.phase = .sleeping time left b) :
    r.wake = time := by
  rw [wake, hphase]

/-- A reader that waits for a dump goes on when the dump has ended. -/
theorem wake_of_dumping {time : Nat} {b : Delays} {result : Except Failure (List Event)}
    (hphase : r.phase = .dumping time left b result) : r.wake = time := by
  rw [wake, hphase]

/-- The attempts that come next while the reader waits before an attempt. -/
theorem nextAttempts_of_sleeping {wake : Nat} {b : Delays}
    (hphase : r.phase = .sleeping wake left b) :
    r.nextAttempts =
      if r.cancelled then [] else [⟨(r.advance wake).now, (r.advance wake).client⟩] := by
  rw [nextAttempts, hphase]

/-! ## The law holds along every recovery -/

/-- A step keeps to the law. -/
theorem Course.step (h : start.Course attempts r) (hrecovers : r.recovers = true)
    (hstep : r.step? limit = some next) :
    start.Course (attempts ++ r.nextAttempts) next := by
  cases h.underWay hrecovers with
  | @waits left hvain hleft hphase hsince huntil hpassed =>
    simp only [step?, hphase] at hstep
    rw [nextAttempts_of_sleeping hphase]
    split at hstep
    · next hcancelled =>
      obtain rfl := Option.some.inj hstep
      rw [if_pos hcancelled, List.append_nil]
      exact ⟨h.bounded, h.made, h.logs_eq,
        .inr (.stopped hvain (by omega) hcancelled rfl hsince huntil hpassed)⟩
    · next hcancelled =>
      split at hstep
      · obtain rfl := Option.some.inj hstep
        have hlogs := (r.logs_advance (start.due attempts)).trans h.logs_eq
        have hpassed' := (r.passed_advance (start.due attempts)).trans hpassed
        rw [if_neg hcancelled]
        refine ⟨?_, ?_, ?_, stage_attempt hvain hleft hpassed' rfl rfl⟩
        · rw [List.length_append, List.length_singleton]
          omega
        · exact forall_split_concat h.made ⟨now_advance huntil, hlogs, hvain⟩
        · rw [lastClient_concat, client_attempt]
      · cases hstep
  | @asks earlier a answer left hattempts hanswer hleft hphase huntil hpassed =>
    simp only [step?, hphase] at hstep
    split at hstep
    · obtain rfl := Option.some.inj hstep
      have hpassed' := (r.passed_advance a.ended).trans hpassed
      rw [nextAttempts, hphase, List.append_nil]
      refine ⟨h.bounded, h.made, ?_, stage_conclude hattempts (h.made earlier a [] hattempts).2.2
        hanswer hleft (now_advance huntil) hpassed' rfl⟩
      rw [client_conclude, logs_advance]
      exact h.logs_eq
    · cases hstep

/-- Time that passes until the reader goes on by itself keeps to the law, and so does anything that
leaves alone what the law is about. -/
theorem Course.frame (h : start.Course attempts r) (hrecovers : r.recovers = true)
    (hphase : next.phase = r.phase) (hlogs : next.client.logs = r.client.logs)
    (hpassed : next.passed = r.passed) (hsince : r.now ≤ next.now)
    (huntil : next.now ≤ max r.now r.wake) : start.Course attempts next := by
  refine ⟨h.bounded, h.made, hlogs.trans h.logs_eq, .inl ?_⟩
  cases h.underWay hrecovers with
  | waits hvain hleft hphase' hsince' huntil' hpassed' =>
    rw [wake_of_sleeping hphase'] at huntil
    exact .waits hvain hleft (hphase.trans hphase') (by omega) (by omega) (hpassed.trans hpassed')
  | asks hattempts hanswer hleft hphase' huntil' hpassed' =>
    rw [wake_of_dumping hphase'] at huntil
    exact .asks hattempts hanswer hleft (hphase.trans hphase') (by omega) (hpassed.trans hpassed')

/-- When the reader goes on by itself something is due, and as long as nothing is, it has to
wait. -/
theorem exists_step (hrecovers : r.recovers = true) :
    ∃ next, r.step? r.wake = some next ∧
      ∀ limit, r.step? limit = some next ∨ limit < r.wake ∧ r.step? limit = none := by
  suffices h : ∃ next, ∀ limit, r.step? limit = some next ∨ limit < r.wake ∧ r.step? limit = none by
    obtain ⟨next, hnext⟩ := h
    exact ⟨next, (hnext _).resolve_right fun hlt => Nat.lt_irrefl _ hlt.1, hnext⟩
  cases hphase : r.phase with
  | sleeping time left b =>
    simp only [wake_of_sleeping hphase, step?, hphase]
    by_cases hcancelled : r.cancelled = true
    · exact ⟨_, fun limit => .inl (if_pos hcancelled)⟩
    · refine ⟨(r.advance time).attempt left b, fun limit => ?_⟩
      grind
  | dumping time left b result =>
    simp only [wake_of_dumping hphase, step?, hphase]
    refine ⟨(r.advance time).conclude left b result, fun limit => ?_⟩
    grind
  | reading => simp [recovers, hphase] at hrecovers
  | ended => simp [recovers, hphase] at hrecovers

/-- What happens to a reader changes nothing of what the law is about. -/
theorem feel_frame (r : Reader) (s : Stimulus) :
    (r.feel s).phase = r.phase ∧ (r.feel s).client.logs = r.client.logs ∧
      (r.feel s).passed = r.passed ∧ (r.feel s).now = r.now := by
  cases s with
  | push receipts =>
    unfold feel
    dsimp only
    split <;> exact ⟨rfl, rfl, rfl, rfl⟩
  | _ => exact ⟨rfl, rfl, rfl, rfl⟩

/-- Every recovery keeps to the law. -/
theorem Recovery.course
    (hdelays : delays start.client.settings = delaysAfter start.client.settings 0)
    (h : Recovery start attempts r) : start.Course attempts r := by
  induction h with
  | begins =>
    refine ⟨Nat.zero_le _, by simp, ?_, ?_⟩
    · exact congrArg Client.logs (retry_frame ..).1
    · exact stage_retry (by simp) (Nat.zero_add _) rfl rfl hdelays
  | step _ hrecovers hstep ih => exact ih.step hrecovers hstep
  | @waits _ r limit _ hrecovers hstep ih =>
    obtain ⟨next, -, hnext⟩ := exists_step hrecovers
    have hlimit : limit < r.wake := by
      rcases hnext limit with hsome | ⟨hlt, -⟩
      · simp [hsome] at hstep
      · exact hlt
    exact ih.frame hrecovers rfl rfl rfl (Nat.le_max_left ..) (by dsimp only; omega)
  | @feels _ r s _ hrecovers ih =>
    obtain ⟨hphase, hlogs, hpassed, hnow⟩ := r.feel_frame s
    exact ih.frame hrecovers hphase hlogs hpassed (Nat.le_of_eq hnow.symm) (by omega)

/-! ## A recovery ends -/

@[simp]
theorem cancelled_retry (r : Reader) (left : Nat) (b : Delays) :
    (r.retry left b).cancelled = r.cancelled := by
  cases left <;> rfl

@[simp]
theorem cancelled_attempt (r : Reader) (left : Nat) (b : Delays) :
    (r.attempt left b).cancelled = r.cancelled := by
  rcases r.attempt_cases left b rfl with ⟨-, -, hattempt⟩ | ⟨answer, -, -, hattempt⟩
  · rw [hattempt, cancelled_retry]
  · rw [hattempt]

@[simp]
theorem cancelled_conclude (r : Reader) (left : Nat) (b : Delays)
    (result : Except Failure (List Event)) :
    (r.conclude left b result).cancelled = r.cancelled := by
  unfold conclude pass
  split
  · split <;> rfl
  · split
    · exact cancelled_retry ..
    · rfl

/-- On its way out of a loss the reader is not told to stop by itself. -/
theorem cancelled_step (hrecovers : r.recovers = true) (hstep : r.step? limit = some next) :
    next.cancelled = r.cancelled := by
  cases hphase : r.phase with
  | sleeping time left b =>
    simp only [step?, hphase] at hstep
    split at hstep
    · obtain rfl := Option.some.inj hstep
      rfl
    · split at hstep
      · obtain rfl := Option.some.inj hstep
        simp
      · cases hstep
  | dumping time left b result =>
    simp only [step?, hphase] at hstep
    split at hstep
    · obtain rfl := Option.some.inj hstep
      simp
    · cases hstep
  | reading => simp [recovers, hphase] at hrecovers
  | ended => simp [recovers, hphase] at hrecovers

/-- Doing what is due first changes nothing of a run. -/
theorem run_of_step (hstep : r.step? limit = some next) : r.run limit = next.run limit := by
  rw [run.eq_def limit r]
  split
  · next hnone => simp [hstep] at hnone
  · next hsome => rw [Option.some.inj (hstep.symm.trans hsome)]

/-- Where nothing is due, the reader waits. -/
theorem run_of_none (hstep : r.step? limit = none) :
    r.run limit = { r with now := max r.now limit, client := r.client.idle } := by
  rw [run.eq_def limit r]
  split
  · rfl
  · next hsome => simp [hstep] at hsome

/-- A run of a reader that is left alone carries the recovery on, and from some time on it goes
through the end of the recovery. -/
theorem Recovery.run {start : Reader} {attempts : List Attempt} {r : Reader}
    (h : Recovery start attempts r) :
    ∃ late, ∀ limit, ∃ more last, Recovery start (attempts ++ more) last ∧
      last.cancelled = r.cancelled ∧
      (limit < late ∧ r.run limit = last ∨
        last.recovers = false ∧ r.run limit = last.run limit) := by
  cases hrecovers : r.recovers with
  | false =>
    exact ⟨0, fun _ => ⟨[], r, by rwa [List.append_nil], rfl, .inr ⟨hrecovers, rfl⟩⟩⟩
  | true =>
    obtain ⟨next, hwake, hnext⟩ := exists_step hrecovers
    have hcloser := step?_closer hwake
    obtain ⟨late, hlate⟩ := Recovery.run (h.step hrecovers hwake)
    refine ⟨max late r.wake, fun limit => ?_⟩
    rcases hnext limit with hstep | ⟨hlt, hstep⟩
    · obtain ⟨more, last, hlast, hcancelled, hrun⟩ := hlate limit
      rw [← run_of_step hstep] at hrun
      rw [List.append_assoc] at hlast
      refine ⟨_, last, hlast, hcancelled.trans (cancelled_step hrecovers hstep), ?_⟩
      exact hrun.imp_left fun hshort => ⟨by omega, hshort.2⟩
    · refine ⟨[], r.run limit, ?_, ?_, .inl ⟨by omega, rfl⟩⟩
      · rw [List.append_nil, run_of_none hstep]
        exact h.waits hrecovers hstep
      · rw [run_of_none hstep]
termination_by (r.inbox.length, r.phase.rank)
decreasing_by exact hcloser

/-- A reader that is left alone for long enough has come out of every loss: it reads, or has come to
its end. -/
theorem exists_settled (r : Reader) :
    ∃ late, ∀ limit, late ≤ limit → (r.run limit).recovers = false := by
  cases hrecovers : r.recovers with
  | true =>
    obtain ⟨next, hwake, hnext⟩ := exists_step hrecovers
    have hcloser := step?_closer hwake
    obtain ⟨late, hlate⟩ := exists_settled next
    refine ⟨max late r.wake, fun limit hlimit => ?_⟩
    have hstep : r.step? limit = some next := (hnext limit).resolve_right fun hlt => by omega
    rw [run_of_step hstep]
    exact hlate limit (by omega)
  | false =>
    -- What a reader does that reads does not depend on the time.
    have hsame : ∀ limit, r.step? limit = r.step? 0 := by
      intro limit
      unfold recovers at hrecovers
      unfold step?
      split <;> simp_all
    cases hstep : r.step? 0 with
    | none =>
      refine ⟨0, fun limit _ => ?_⟩
      rw [run_of_none ((hsame limit).trans hstep)]
      exact hrecovers
    | some next =>
      have hcloser := step?_closer hstep
      obtain ⟨late, hlate⟩ := exists_settled next
      refine ⟨late, fun limit hlimit => ?_⟩
      rw [run_of_step ((hsame limit).trans hstep)]
      exact hlate limit hlimit
termination_by (r.inbox.length, r.phase.rank)
decreasing_by all_goals exact hcloser

/-- A reader that is told to stop while it waits before an attempt stops at once. -/
theorem outcome?_run_of_cancelled (hsleeps : r.sleeps = true) (hcancelled : r.cancelled = true)
    (limit : Nat) : (r.run limit).outcome? = some (r.now, .ok ()) := by
  have hstep : r.step? limit = some (r.finish (.ok ())) := by
    unfold sleeps at hsleeps
    unfold step?
    split <;> simp_all
  rw [run_of_step hstep, run_of_none rfl]
  rfl

/-- **After a loss** the reader makes at most as many attempts as allowed. The delays before them
double up to the longest one, never decrease and can always be doubled, and each attempt opens its
socket before it asks for a dump. The recovery ends with the first attempt that succeeds, with the
first one that is refused for good, when the reader is told to stop before an attempt is due, or
with the last attempt. -/
theorem recovery_backs_off_and_ends {config : Config} (hconfig : config.check = .ok ())
    (start : Reader) (hsettings : start.client.settings = config.netlink) :
    (∀ k, pause config.netlink k ≤ pause config.netlink (k + 1) ∧
      pause config.netlink k ≤ config.netlink.backoffMax.toNat ∧
      2 * pause config.netlink k ≤ longestSpan) ∧
    ∀ attempts r, Recovery start attempts r →
      start.Course attempts r ∧ (∀ a ∈ attempts, a.OpensFirst) ∧
      (r.sleeps = true → r.cancelled = true →
        ∀ limit, (r.run limit).outcome? = some (r.now, .ok ())) ∧
      ∃ late, ∀ limit, ∃ more last, Recovery start (attempts ++ more) last ∧
        last.cancelled = r.cancelled ∧
        (limit < late ∧ r.run limit = last ∨
          last.recovers = false ∧ r.run limit = last.run limit) := by
  have hdelays : delays start.client.settings = delaysAfter start.client.settings 0 := by
    rw [hsettings]
    exact delays_eq_delaysAfter hconfig
  refine ⟨fun k => ⟨pause_le_succ _ k, pause_le _ k, two_mul_pause_le _ k⟩, fun attempts r h => ?_⟩
  exact ⟨h.course hdelays, fun a _ => a.opensFirst, outcome?_run_of_cancelled, h.run⟩

/-- A reader that has just lost events and will be refused its first socket. -/
def unlucky : Reader where
  client.kernel.opens := [105]
  now := 1000

/-- The first attempt comes 100 ms after the loss, the second one 200 ms after the first. -/
theorem recovery_of_unlucky :
    ({} : Config).check = .ok () ∧ unlucky.client.settings = ({} : Config).netlink ∧
      ∃ a r, Recovery unlucky [a] r ∧ unlucky.Course [a] r ∧ a.time = 1100 ∧
        r.phase = .sleeping 1300 8 ⟨400, 5000⟩ := by
  have hconfig : ({} : Config).check = .ok () := rfl
  have hstep : unlucky.recover.step? 1100 =
      some ((unlucky.recover.advance 1100).attempt 9 ⟨200, 5000⟩) := rfl
  have h : Recovery unlucky [⟨1100, { unlucky.client with readiness.send := true }⟩]
      ((unlucky.recover.advance 1100).attempt 9 ⟨200, 5000⟩) :=
    .step .begins rfl hstep
  have hlaw := (recovery_backs_off_and_ends hconfig unlucky rfl).2
  exact ⟨hconfig, rfl, _, _, h, (hlaw _ _ h).1, rfl, rfl⟩

end Reader

end LinkBus.Netlink
