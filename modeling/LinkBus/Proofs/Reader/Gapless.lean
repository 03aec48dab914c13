import LinkBus.Proofs.Reader.Recovery

/-!
# No gap is passed off as a stream

Over its whole life, whatever happens around it, a reader passes on what its journal tells: the
events that it received, in order, and after each loss one fresh snapshot, or nothing more, for a
reason. Left alone for long enough, it comes out of every loss.
-/

namespace LinkBus.Netlink

/-- No gap in what was received is passed off as a stream: the messages are told of the entries,
they are those of the entries in order, and after each loss a fresh snapshot comes first, or
nothing, for a reason. -/
structure Gapless (settings : NetlinkConfig) (settled : Bool) (entries : List Entry)
    (messages : List Message) : Prop where
  /-- The messages are told of the entries from the beginning. -/
  told : Told settings settled false .reading [] entries messages
  /-- Each entry gives rise to its own message, in order. -/
  messages_eq : messages = messagesOf (room settings.receiveBuffer) entries
  /-- After each loss the messages go on with a recovery. -/
  recovers : ∀ before receipt after, entries = before ++ .received receipt :: after →
    (∀ e ∈ before, e.isLast = false) → receipt.Means (room settings.receiveBuffer) .lost →
      ∃ later, messages = messagesOf (room settings.receiveBuffer) before ++ later ∧
        Recovers settings settled settings.maxAttempts.toNat (stops before) after later

/-- What is told of entries has no gap. -/
theorem Told.gapless {settings : NetlinkConfig} {settled : Bool} {entries : List Entry}
    {messages : List Message} (h : Told settings settled false .reading [] entries messages) :
    Gapless settings settled entries messages where
  told := h
  messages_eq := h.eq_messagesOf nofun
  recovers := by
    rintro before receipt after rfl hbefore hloss
    simpa using h.recovers_of_loss nofun hbefore (Receipt.read_eq_iff.2 hloss)

namespace Reader

variable {settings : NetlinkConfig} {settled : Bool} {mode : Mode} {r next : Reader}
  {entries : List Entry} {messages : List Message}

/-- A reader that is not on its way out of a loss is about something else. -/
theorem Fits.recovers_eq_false (h : Fits settings mode r) (hrecovers : r.recovers = false) :
    mode.recovers = false := by
  unfold recovers at hrecovers
  cases h with
  | lost _ hphase => simp [hphase] at hrecovers
  | asked _ hphase => simp [hphase] at hrecovers
  | _ => rfl

/-- What comes out of a reader without anything left to do is all that is told. -/
theorem Passage.told (h : Passage settings mode r entries next messages)
    (hrests : ∀ {mode'}, Fits settings mode' next → mode'.Rests next.cancelled next.inbox)
    (hsettled : settled = true → next.recovers = false) :
    Told settings settled r.cancelled mode r.inbox entries messages := by
  obtain ⟨mode', hfits, htold⟩ := h.leads
  have hnil := htold settled [] [] (.nil (hrests hfits) (hfits.recovers_eq_false <| hsettled ·))
  rwa [List.append_nil, List.append_nil] at hnil

/-- Whatever happens around a reader, what it receives is read as what it means, without a cut where
it fits into the buffer, and its messages have no gap. When it is then left alone for long enough,
no loss is still to be recovered from. -/
theorem gapless_play (client : Client) (timeline : List (Nat × Stimulus)) :
    let r : Reader := { client }
    let last := r.play timeline
    let size := room client.settings.receiveBuffer
    (∀ (receipt : Receipt) reading, receipt.read size = reading ↔ receipt.Means size reading) ∧
      (∀ bytes : List UInt8, bytes.length ≤ client.settings.receiveBuffer.toNat →
        bytes.take size = bytes) ∧
      Gapless client.settings false (r.journal timeline) (last.passed.map Prod.snd) ∧
      ∃ late, ∀ time, late ≤ time → Gapless client.settings true
        (r.journal timeline ++ last.record time) ((last.run time).passed.map Prod.snd) := by
  intro r last size
  have hstart : Fits client.settings .reading r := .reading ⟨rfl, rfl⟩ rfl
  obtain ⟨messages, hplay⟩ := hstart.play timeline
  obtain ⟨late, hlate⟩ := last.exists_settled
  refine ⟨fun receipt reading => Receipt.read_eq_iff, fun bytes => take_room, ?_, late,
    fun time htime => ?_⟩
  · have hrests : ∀ {mode}, Fits client.settings mode r → mode.Rests r.cancelled r.inbox :=
      fun hfits => hfits.rests_of_none (show r.step? 0 = none from rfl)
    have htold : Told client.settings false false .reading [] (r.journal timeline) messages :=
      hplay.told (Fits.rests_play timeline hrests) nofun
    obtain rfl := hplay.passed_eq
    exact htold.gapless
  · obtain ⟨all, hall⟩ := hplay.trans fun mode' hfits => hfits.run time
    obtain rfl := hall.passed_eq
    exact (hall.told (Fits.rests_run time) fun _ => hlate time htime).gapless

end Reader

end LinkBus.Netlink
