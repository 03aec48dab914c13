import LinkBus.Proofs.Netlink.Client
import LinkBus.Proofs.Reader.Journal

/-!
# The reader follows its journal

Whatever the reader does, it passes on what its journal tells, and nothing more once nobody takes
what it passes on. When it has done all that is due, nothing is left to do.
-/

namespace LinkBus.Netlink

namespace Reader

variable {settings : NetlinkConfig} {limit : Nat} {mode : Mode} {r next : Reader}

/-- Getting ready for an attempt changes neither the client nor what was passed on. -/
theorem retry_frame (r : Reader) (left : Nat) (b : Delays) :
    (r.retry left b).client = r.client ∧ (r.retry left b).listening = r.listening ∧
      (r.retry left b).passed = r.passed := by
  cases left <;> exact ⟨rfl, rfl, rfl⟩

/-! Going on until some time only changes the time, and what the client is ready for. -/

@[simp]
theorem settings_advance (r : Reader) (time : Nat) :
    (r.advance time).client.settings = r.client.settings := by
  unfold advance
  split <;> rfl

@[simp]
theorem listening_advance (r : Reader) (time : Nat) :
    (r.advance time).listening = r.listening := by
  unfold advance
  split <;> rfl

@[simp]
theorem cancelled_advance (r : Reader) (time : Nat) :
    (r.advance time).cancelled = r.cancelled := by
  unfold advance
  split <;> rfl

@[simp]
theorem passed_advance (r : Reader) (time : Nat) : (r.advance time).passed = r.passed := by
  unfold advance
  split <;> rfl

/-! ## Without a listener -/

/-- One reader comes out of another with the same listener, and without one it has passed on nothing
more. -/
def KeepsSilence (r next : Reader) : Prop :=
  next.listening = r.listening ∧ (r.listening = false → next.passed = r.passed)

/-- What keeps silence twice keeps silence. -/
theorem KeepsSilence.trans {mid : Reader} (h : r.KeepsSilence mid) (h' : mid.KeepsSilence next) :
    r.KeepsSilence next :=
  ⟨h'.1.trans h.1, fun hnone => (h'.2 (h.1.trans hnone)).trans (h.2 hnone)⟩

/-- A message without a listener is not passed on. -/
theorem keepsSilence_pass (r : Reader) (m : Message) : r.KeepsSilence (r.pass m) := by
  unfold pass
  split
  · next hlistening => exact ⟨rfl, fun hnone => absurd hlistening (by simp [hnone])⟩
  · exact ⟨rfl, fun _ => rfl⟩

/-- Getting ready for an attempt passes nothing on. -/
theorem keepsSilence_retry (r : Reader) (left : Nat) (b : Delays) :
    r.KeepsSilence (r.retry left b) :=
  ⟨(r.retry_frame left b).2.1, fun _ => (r.retry_frame left b).2.2⟩

/-- Going on passes nothing on. -/
theorem keepsSilence_advance (r : Reader) (time : Nat) : r.KeepsSilence (r.advance time) :=
  ⟨r.listening_advance time, fun _ => r.passed_advance time⟩

/-- What is received without a listener is not passed on. -/
theorem keepsSilence_take (r : Reader) (receipt : Receipt) (rest : List Receipt) :
    r.KeepsSilence (r.take receipt rest) := by
  have hinbox : r.KeepsSilence { r with inbox := rest } := ⟨rfl, fun _ => rfl⟩
  unfold take
  split
  · exact hinbox
  · exact hinbox.trans (keepsSilence_pass ..)
  · exact hinbox.trans (keepsSilence_retry ..)

/-- An attempt passes nothing on. -/
theorem keepsSilence_attempt (r : Reader) (left : Nat) (b : Delays) :
    r.KeepsSilence (r.attempt left b) := by
  unfold attempt
  split
  · next kernel _ _ =>
    have hkernel : r.KeepsSilence { r with client.kernel := kernel } := ⟨rfl, fun _ => rfl⟩
    exact hkernel.trans (keepsSilence_retry ..)
  · exact ⟨rfl, fun _ => rfl⟩

/-- A dump without a listener is not passed on. -/
theorem keepsSilence_conclude (r : Reader) (left : Nat) (b : Delays)
    (result : Except Failure (List Event)) : r.KeepsSilence (r.conclude left b result) := by
  unfold conclude
  split
  · exact r.keepsSilence_pass _
  · split
    · exact r.keepsSilence_retry left b
    · exact ⟨rfl, fun _ => rfl⟩

/-- Without a listener the next step passes nothing on. -/
theorem keepsSilence_step (hstep : r.step? limit = some next) : r.KeepsSilence next := by
  have hfinish : r.KeepsSilence (r.finish (.ok ())) := ⟨rfl, fun _ => rfl⟩
  rw [step?] at hstep
  split at hstep
  · split at hstep
    · exact Option.some.inj hstep ▸ hfinish
    · split at hstep
      · cases hstep
      · exact Option.some.inj hstep ▸ r.keepsSilence_take _ _
  · split at hstep
    · exact Option.some.inj hstep ▸ hfinish
    · split at hstep
      · exact Option.some.inj hstep ▸ (r.keepsSilence_advance _).trans (keepsSilence_attempt ..)
      · cases hstep
  · split at hstep
    · exact Option.some.inj hstep ▸ (r.keepsSilence_advance _).trans (keepsSilence_conclude ..)
    · cases hstep
  · cases hstep

/-! ## What the reader is about -/

/-- Somebody takes what the reader passes on, and the reader has some settings. -/
structure Heard (settings : NetlinkConfig) (r : Reader) : Prop where
  /-- Somebody listens. -/
  listening_eq : r.listening = true
  /-- The settings of the reader. -/
  settings_eq : r.client.settings = settings

/-- Whether a mode fits a reader. -/
inductive Fits (settings : NetlinkConfig) : Mode → Reader → Prop
  | reading {r : Reader} (hheard : r.Heard settings) (hphase : r.phase = .reading) :
    Fits settings .reading r
  | lost {r : Reader} {wake left : Nat} {delays : Delays} (hheard : r.Heard settings)
      (hphase : r.phase = .sleeping wake left delays) : Fits settings (.lost (left + 1)) r
  | asked {r : Reader} {wake left : Nat} {delays : Delays} {client : Client}
      (hheard : r.Heard settings)
      (hphase : r.phase = .dumping wake left delays client.dump.2.result) :
      Fits settings (.asked client left) r
  | ended {r : Reader} {at_ : Nat} {result : Except Failure Unit}
      (hphase : r.phase = .ended at_ result) : Fits settings .silent r
  | unheard {r : Reader} (hlistening : r.listening = false) : Fits settings .silent r

/-- A mode fits readers that differ in nothing that it is about. -/
theorem Fits.of_same (h : Fits settings mode r) (hphase : next.phase = r.phase)
    (hlistening : next.listening = r.listening)
    (hsettings : next.client.settings = r.client.settings) : Fits settings mode next := by
  have hheard : r.Heard settings → next.Heard settings := fun h =>
    ⟨hlistening.trans h.listening_eq, hsettings.trans h.settings_eq⟩
  cases h with
  | reading h hphase' => exact .reading (hheard h) (hphase.trans hphase')
  | lost h hphase' => exact .lost (hheard h) (hphase.trans hphase')
  | asked h hphase' => exact .asked (hheard h) (hphase.trans hphase')
  | ended hphase' => exact .ended (hphase.trans hphase')
  | unheard hnone => exact .unheard (hlistening.trans hnone)

/-- Some entries lead to a reader: whatever is told of it is told after some messages. -/
inductive Leads (settings : NetlinkConfig) (stopping : Bool) (mode : Mode) (waiting : List Receipt)
    (entries : List Entry) (next : Reader) (messages : List Message) : Prop
  | intro (mode' : Mode) (hfits : Fits settings mode' next) (htold : ∀ settled rest later,
      Told settings settled next.cancelled mode' next.inbox rest later →
        Told settings settled stopping mode waiting (entries ++ rest) (messages ++ later)) :
      Leads settings stopping mode waiting entries next messages

/-- One reader comes out of another along some entries, and has passed on what is told of them. -/
structure Passage (settings : NetlinkConfig) (mode : Mode) (r : Reader) (entries : List Entry)
    (next : Reader) (messages : List Message) : Prop where
  /-- The messages are passed on. -/
  passed_eq : next.passed.map Prod.snd = r.passed.map Prod.snd ++ messages
  /-- The messages are told. -/
  leads : Leads settings r.cancelled mode r.inbox entries next messages

/-- An end that has a reason is told. -/
theorem leads_finish {stopping : Bool} {waiting : List Receipt} {result : Except Failure Unit}
    (r : Reader) (h : ∀ settled rest,
      Told settings settled stopping mode waiting (.ended result :: rest) []) :
    Leads settings stopping mode waiting (r.finish result).ending (r.finish result) [] := by
  refine ⟨.silent, .ended rfl, fun settled rest later hlater => ?_⟩
  rw [hlater.eq_nil_of_silent]
  exact h settled rest

/-- Before the next attempt nothing is told, and without one the end. -/
theorem Heard.leads_retry (h : r.Heard settings) (left : Nat) (b : Delays) :
    Leads settings r.cancelled (.lost left) [] (r.retry left b).ending (r.retry left b) [] := by
  cases left with
  | zero => exact leads_finish { r with inbox := [] } fun _ _ => .exhausted
  | succ left =>
    exact ⟨.lost (left + 1), .lost ⟨h.listening_eq, h.settings_eq⟩ rfl, fun _ _ _ => id⟩

/-- One entry more at the beginning. -/
theorem Leads.cons {stopping : Bool} {waiting waiting' : List Receipt} {mode' : Mode} {e : Entry}
    {entries : List Entry} {messages : List Message}
    (h : Leads settings stopping mode' waiting' entries next messages)
    (htold : ∀ settled rest later, Told settings settled stopping mode' waiting' rest later →
      Told settings settled stopping mode waiting (e :: rest) later) :
    Leads settings stopping mode waiting (e :: entries) next messages := by
  obtain ⟨mode'', hfits, hrest⟩ := h
  exact ⟨mode'', hfits, fun settled rest later hlater => htold _ _ _ (hrest _ _ _ hlater)⟩

/-! ## What a step passes on -/

/-- What was received is told. -/
theorem Heard.passage_take {receipt : Receipt} {waiting : List Receipt} (h : r.Heard settings)
    (hphase : r.phase = .reading) (hinbox : r.inbox = receipt :: waiting) :
    ∃ messages, Passage settings .reading r
      (.received receipt :: (r.take receipt waiting).ending) (r.take receipt waiting) messages := by
  obtain ⟨hlistening, rfl⟩ := h
  unfold take
  split
  · next hread =>
    refine ⟨[], (List.append_nil _).symm, .reading, .reading ⟨hlistening, rfl⟩ hphase,
      fun settled rest later hlater => ?_⟩
    rw [hinbox, ending, hphase]
    exact .quiet hread hlater
  · next events hsome hread =>
    refine ⟨[.events events], ?_⟩
    rw [pass, if_pos hlistening]
    refine ⟨List.map_append, .reading, .reading ⟨hlistening, rfl⟩ rfl,
      fun settled rest later hlater => ?_⟩
    rw [hinbox]
    exact .events hread (fun hnil => hsome hnil) hlater
  · next hread =>
    obtain ⟨-, -, hpassed⟩ := retry_frame { r with inbox := waiting }
      r.client.settings.maxAttempts.toNat (delays r.client.settings)
    refine ⟨[], (congrArg _ hpassed).trans (List.append_nil _).symm, ?_⟩
    rw [hinbox]
    have hheard : { r with inbox := waiting }.Heard r.client.settings := ⟨hlistening, rfl⟩
    exact (hheard.leads_retry _ _).cons fun _ _ _ => .loss hread

/-- An attempt is told. -/
theorem Heard.passage_attempt (h : r.Heard settings) (left : Nat) (b : Delays) :
    Passage settings (.lost (left + 1)) r (.attempted r.client :: (r.attempt left b).ending)
      (r.attempt left b) [] := by
  unfold attempt
  split
  · next kernel failure hopen =>
    have hrefused : (r.client.kernel.openSocket eventGroups).2 = .error failure :=
      congrArg Prod.snd hopen
    obtain ⟨-, -, hpassed⟩ := retry_frame { r with client.kernel := kernel } left b
    have hheard : { r with client.kernel := kernel }.Heard settings :=
      ⟨h.listening_eq, h.settings_eq⟩
    exact ⟨(congrArg _ hpassed).trans (List.append_nil _).symm,
      (hheard.leads_retry left b).cons fun _ _ _ => .refused hrefused⟩
  · next kernel _ hopen =>
    have hopened : (r.client.kernel.openSocket eventGroups).2 = .ok () := congrArg Prod.snd hopen
    have hkernel : (r.client.kernel.openSocket eventGroups).1 = kernel := congrArg Prod.fst hopen
    have hsettings := (Client.settings_dump { r.client with kernel }).trans h.settings_eq
    refine ⟨(List.append_nil _).symm, .asked { r.client with kernel } left,
      .asked ⟨h.listening_eq, hsettings⟩ rfl, fun _ _ _ hlater => .asked hopened ?_⟩
    rw [hkernel]
    exact hlater

/-- The end of a dump is told. -/
theorem Heard.passage_conclude (h : r.Heard settings) (left : Nat) (b : Delays)
    (client : Client) :
    ∃ messages, Passage settings (.asked client left) r
      (.dumped client.dump.2.result :: (r.conclude left b client.dump.2.result).ending)
      (r.conclude left b client.dump.2.result) messages := by
  unfold conclude
  split
  · next events hdump =>
    rw [hdump, pass, if_pos h.listening_eq]
    exact ⟨[.snapshot events], List.map_append, .reading,
      .reading ⟨h.listening_eq, h.settings_eq⟩ rfl, fun _ _ _ => .snapshot hdump⟩
  · next failure hdump =>
    rw [hdump]
    split
    · next htransient =>
      obtain ⟨-, -, hpassed⟩ := r.retry_frame left b
      exact ⟨[], (congrArg _ hpassed).trans (List.append_nil _).symm,
        (h.leads_retry left b).cons fun _ _ _ => .failed hdump htransient⟩
    · next htransient =>
      refine ⟨[], (List.append_nil _).symm, .silent, .ended rfl,
        fun settled rest later hlater => ?_⟩
      rw [hlater.eq_nil_of_silent]
      exact .rejected hdump (Bool.eq_false_iff.2 htransient)

/-- A reader that goes on is still heard. -/
theorem Heard.advance (h : r.Heard settings) (time : Nat) : (r.advance time).Heard settings :=
  ⟨(r.listening_advance time).trans h.listening_eq, (r.settings_advance time).trans h.settings_eq⟩

/-- What comes out of a reader that has gone on comes out of the reader. -/
theorem Passage.of_advance {time : Nat} {entries : List Entry} {messages : List Message}
    (h : Passage settings mode (r.advance time) entries next messages) :
    Passage settings mode r entries next messages := by
  obtain ⟨hpassed, hleads⟩ := h
  rw [passed_advance] at hpassed
  rw [advance_inbox, cancelled_advance] at hleads
  exact ⟨hpassed, hleads⟩

/-- A reader that heeds that it was told to stop comes to its end. -/
theorem passage_stop (hcancelled : r.cancelled = true) (hheeds : mode.heeds = true) :
    Passage settings mode r (r.finish (.ok ())).ending (r.finish (.ok ())) [] :=
  ⟨(List.append_nil _).symm, leads_finish r fun _ _ => hcancelled ▸ .stopped hheeds⟩

/-- What happens without a listener is not told. -/
theorem KeepsSilence.passage (h : r.KeepsSilence next) (hlistening : r.listening = false)
    (entries : List Entry) : Passage settings .silent r entries next [] := by
  refine ⟨by rw [h.2 hlistening, List.append_nil], .silent, .unheard (h.1.trans hlistening),
    fun settled rest later hlater => ?_⟩
  rw [hlater.eq_nil_of_silent]
  exact .silent

/-- What the reader does next is told. -/
theorem Fits.step (h : Fits settings mode r) (hstep : r.step? limit = some next) :
    ∃ messages, Passage settings mode r (r.deed ++ next.ending) next messages := by
  have hbefore := hstep
  rw [deed]
  rw [step?] at hstep
  cases h with
  | reading hheard hphase =>
    rw [hphase] at hstep ⊢
    simp only at hstep
    split at hstep
    · next hcancelled =>
      obtain rfl := Option.some.inj hstep
      exact ⟨[], by simpa [hcancelled] using passage_stop hcancelled rfl⟩
    · next hcancelled =>
      split at hstep
      · cases hstep
      · next receipt waiting hinbox =>
        obtain rfl := Option.some.inj hstep
        simpa [hcancelled, hinbox] using hheard.passage_take hphase hinbox
  | @lost _ wake left b hheard hphase =>
    rw [hphase] at hstep ⊢
    simp only at hstep
    split at hstep
    · next hcancelled =>
      obtain rfl := Option.some.inj hstep
      exact ⟨[], by simpa [hcancelled] using passage_stop hcancelled rfl⟩
    · next hcancelled =>
      split at hstep
      · obtain rfl := Option.some.inj hstep
        exact ⟨[], by simpa [hcancelled] using
          ((hheard.advance wake).passage_attempt left b).of_advance⟩
      · cases hstep
  | @asked _ wake left b client hheard hphase =>
    rw [hphase] at hstep ⊢
    simp only at hstep
    split at hstep
    · obtain rfl := Option.some.inj hstep
      obtain ⟨messages, h⟩ := (hheard.advance wake).passage_conclude left b client
      exact ⟨messages, h.of_advance⟩
    · cases hstep
  | ended hphase =>
    rw [hphase] at hstep
    cases hstep
  | unheard hlistening => exact ⟨[], (keepsSilence_step hbefore).passage hlistening _⟩

/-- Passages follow one another. -/
theorem Passage.trans {mid : Reader} {entries more : List Entry} {messages : List Message}
    (h : Passage settings mode r entries mid messages)
    (hnext : ∀ mode', Fits settings mode' mid →
      ∃ later, Passage settings mode' mid more next later) :
    ∃ all, Passage settings mode r (entries ++ more) next all := by
  obtain ⟨mode', hfits, htold⟩ := h.leads
  obtain ⟨later, hlater⟩ := hnext mode' hfits
  obtain ⟨mode'', hfits', htold'⟩ := hlater.leads
  refine ⟨messages ++ later, ?_, mode'', hfits', fun settled rest last hlast => ?_⟩
  · rw [hlater.passed_eq, h.passed_eq, List.append_assoc]
  · rw [List.append_assoc, List.append_assoc]
    exact htold _ _ _ (htold' _ rest last hlast)

/-! ## What a run passes on -/

/-- A run is told. -/
theorem Fits.run (h : Fits settings mode r) (limit : Nat) :
    ∃ messages, Passage settings mode r (r.record limit) (r.run limit) messages := by
  fun_induction Reader.run limit r generalizing mode with
  | case1 r hnone =>
    have hrecord : r.record limit = [] := by
      unfold record
      split
      · rfl
      · next hsome => simp [hnone] at hsome
    rw [hrecord]
    exact ⟨[], (List.append_nil _).symm, mode, h.of_same rfl rfl rfl, fun _ _ _ => id⟩
  | case2 r next hsome ih =>
    have hrecord : r.record limit = r.deed ++ next.ending ++ next.record limit := by
      rw [record]
      split
      · next hnone => simp [hsome] at hnone
      · next next' hsome' => rw [Option.some.inj (hsome.symm.trans hsome')]
    rw [hrecord]
    obtain ⟨messages, hpassage⟩ := h.step hsome
    exact hpassage.trans fun mode' hfits => ih hfits

/-- What the reader notices is told. -/
theorem Fits.feel (h : Fits settings mode r) (s : Stimulus) :
    Passage settings mode r (r.noticed s) (r.feel s) [] := by
  cases s with
  | supply opens replies =>
    exact ⟨(List.append_nil _).symm, mode, h.of_same rfl rfl rfl, fun _ _ _ => id⟩
  | cancel =>
    exact ⟨(List.append_nil _).symm, mode, h.of_same rfl rfl rfl, fun _ _ _ => .cancelled⟩
  | hangUp =>
    refine ⟨(List.append_nil _).symm, .silent, .unheard rfl, fun _ _ _ hlater => ?_⟩
    rw [hlater.eq_nil_of_silent]
    exact .hungUp
  | push receipts =>
    have hfelt : (r.noticed (.push receipts) = [.arrived receipts] ∧
        r.feel (.push receipts) = { r with inbox := r.inbox ++ receipts }) ∨
        (r.noticed (.push receipts) = [] ∧ r.feel (.push receipts) = r) := by
      cases hphase : r.phase <;> simp [noticed, Reader.feel, hphase]
    obtain ⟨hnoticed, hfeel⟩ | ⟨hnoticed, hfeel⟩ := hfelt
    · rw [hnoticed, hfeel]
      exact ⟨(List.append_nil _).symm, mode, h.of_same rfl rfl rfl, fun _ _ _ => .arrived⟩
    · rw [hnoticed, hfeel]
      exact ⟨(List.append_nil _).symm, mode, h, fun _ _ _ => id⟩

/-- What happens while the reader lives through stimuli is told. -/
theorem Fits.play (h : Fits settings mode r) (timeline : List (Nat × Stimulus)) :
    ∃ messages, Passage settings mode r (r.journal timeline) (r.play timeline) messages := by
  induction timeline generalizing mode r with
  | nil => exact ⟨[], (List.append_nil _).symm, mode, h, fun _ _ _ => id⟩
  | cons s rest ih =>
    obtain ⟨time, s⟩ := s
    rw [journal]
    obtain ⟨_, hrun⟩ := h.run time
    obtain ⟨_, hfelt⟩ := hrun.trans fun mode' hfits => ⟨[], hfits.feel s⟩
    obtain ⟨_, hmet⟩ := hfelt.trans fun mode' hfits => hfits.run time
    exact hmet.trans fun mode' hfits => ih hfits

/-! ## Nothing is left to do -/

/-- Where nothing is due, nothing is left to do. -/
theorem Fits.rests_of_none (h : Fits settings mode r) (hnone : r.step? limit = none) :
    mode.Rests r.cancelled r.inbox := by
  rw [step?] at hnone
  cases h with
  | reading _ hphase =>
    rw [hphase] at hnone
    cases hcancelled : r.cancelled with
    | true => simp [hcancelled] at hnone
    | false =>
      cases hinbox : r.inbox with
      | nil => exact ⟨rfl, rfl⟩
      | cons receipt rest => simp [hcancelled, hinbox] at hnone
  | lost _ hphase =>
    rw [hphase] at hnone
    cases hcancelled : r.cancelled with
    | true => simp [hcancelled] at hnone
    | false => exact ⟨rfl, Nat.succ_pos _⟩
  | asked => trivial
  | ended => trivial
  | unheard => trivial

/-- After a run nothing is left to do. -/
theorem Fits.rests_run (limit : Nat) (h : Fits settings mode (r.run limit)) :
    mode.Rests (r.run limit).cancelled (r.run limit).inbox := by
  fun_induction Reader.run limit r with
  | case1 r hnone => exact (h.of_same rfl rfl rfl : Fits settings mode r).rests_of_none hnone
  | case2 r next hsome ih => exact ih h

/-- Whenever stimuli have been lived through, nothing is left to do. -/
theorem Fits.rests_play (timeline : List (Nat × Stimulus)) (hrests : ∀ {mode},
    Fits settings mode r → mode.Rests r.cancelled r.inbox)
    (h : Fits settings mode (r.play timeline)) :
    mode.Rests (r.play timeline).cancelled (r.play timeline).inbox := by
  induction timeline generalizing r with
  | nil => exact hrests h
  | cons s rest ih => exact ih (fun h' => h'.rests_run s.1) h

end Reader

end LinkBus.Netlink
