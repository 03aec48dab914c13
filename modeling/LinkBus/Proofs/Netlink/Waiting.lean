import LinkBus.Proofs.Exchange.Hearing

/-!
# Waiting for a list

While a dump waits for the answer to one of its requests, it receives datagrams. The first frame
with the number of the request that is a last one or an error acknowledgment ends the answer; before
it, the events with the number are listed, and all else is passed over. If there is no such frame,
then the waiting ends with a fault of the socket, or with nothing more to receive.
-/

namespace LinkBus.Netlink

open Wire

/-! ## Frames of an answer -/

/-- Whether a frame ends the answer to a dump request. -/
def endsAnswer (seq : UInt32) : Except Malformed Frame → Bool
  | .ok (.done s) => s == seq
  | .ok (.ack s (some _)) => s == seq
  | _ => false

/-- The event that a frame lists for a dump request. -/
def listedUnder? (seq : UInt32) : Except Malformed Frame → Option Event
  | .ok (.event s event) => if s = seq then some event else none
  | _ => none

/-- The frames of datagrams in the order in which they are received. -/
def framesIn (size : Nat) (datagrams : List (List UInt8)) : List (Except Malformed Frame) :=
  datagrams.flatMap fun bytes => readFrames (bytes.take size)

section Frames

variable {seq : UInt32} {items : List (Except Malformed Frame)} {gathered : List Event}

/-- Frames that do not end an answer are gathered or passed over. -/
theorem dumpFrame_of_not_endsAnswer {frame : Frame} (h : endsAnswer seq (.ok frame) = false) :
    dumpFrame seq gathered frame = .more (gathered ++ (listedUnder? seq (.ok frame)).toList) := by
  cases frame with
  | event s event =>
    by_cases hseq : s = seq <;> simp [dumpFrame, listedUnder?, hseq]
  | done s =>
    have hseq : s ≠ seq := by simpa [endsAnswer] using h
    simp [dumpFrame, listedUnder?, hseq]
  | ack s errno =>
    cases errno with
    | none => simp [dumpFrame, listedUnder?]
    | some errno =>
      have hseq : s ≠ seq := by simpa [endsAnswer] using h
      simp [dumpFrame, listedUnder?, hseq]
  | overrun => simp [dumpFrame, listedUnder?]
  | ignored => simp [dumpFrame, listedUnder?]

/-- Without an end, all frames are gathered or passed over, and then those that follow. -/
theorem scan_dumpFrame_append (h : ∀ item ∈ items, endsAnswer seq item = false)
    (rest : List (Except Malformed Frame)) :
    scan (dumpFrame seq) gathered (items ++ rest) =
      scan (dumpFrame seq) (gathered ++ items.filterMap (listedUnder? seq)) rest := by
  induction items generalizing gathered with
  | nil => simp
  | cons item items ih =>
    have hitems := fun item hmem => h item (List.mem_cons_of_mem _ hmem)
    cases item with
    | error fault => exact ih hitems
    | ok frame =>
      rw [List.cons_append, scan, dumpFrame_of_not_endsAnswer (h _ List.mem_cons_self)]
      simp only
      rw [ih hitems, List.filterMap_cons]
      cases listedUnder? seq (.ok frame) <;> simp

/-- A frame that ends an answer is a last one or an error acknowledgment. -/
theorem endsAnswer_eq_true_iff {item : Except Malformed Frame} :
    endsAnswer seq item = true ↔
      item = .ok (.done seq) ∨ ∃ errno, item = .ok (.ack seq (some errno)) := by
  unfold endsAnswer
  split <;> simp_all

/-- Frames have no end, or a first one. -/
theorem exists_first_end (seq : UInt32) (items : List (Except Malformed Frame)) :
    (∀ item ∈ items, endsAnswer seq item = false) ∨
      ∃ before last after, items = before ++ last :: after ∧ endsAnswer seq last = true ∧
        ∀ item ∈ before, endsAnswer seq item = false := by
  induction items with
  | nil => exact .inl fun item hmem => absurd hmem List.not_mem_nil
  | cons item items ih =>
    cases hends : endsAnswer seq item with
    | true => exact .inr ⟨[], item, items, rfl, hends, fun _ hmem => absurd hmem List.not_mem_nil⟩
    | false =>
      rcases ih with hnone | ⟨before, last, after, rfl, hlast, hbefore⟩
      · exact .inl (List.forall_mem_cons.2 ⟨hends, hnone⟩)
      · exact .inr ⟨item :: before, last, after, rfl, hlast,
          List.forall_mem_cons.2 ⟨hends, hbefore⟩⟩

end Frames

/-! ## Receipts of an answer -/

/-- What was received begins with datagrams without an end of the answer. -/
def Unended (size : Nat) (seq : UInt32) (datagrams : List (List UInt8)) : Prop :=
  ∀ item ∈ framesIn size datagrams, endsAnswer seq item = false

/-- What waits on a socket begins with datagrams in which a frame is the first to end the answer
under a number; before it, some events are listed, and behind its datagram follows the rest. -/
def EndsWith (size : Nat) (seq : UInt32) (waiting : List Receipt) (last : Frame)
    (events : List Event) (rest : List Receipt) : Prop :=
  ∃ earlier bytes before after,
    waiting = earlier.map .datagram ++ .datagram bytes :: rest ∧
    readFrames (bytes.take size) = before ++ .ok last :: after ∧
    (∀ item ∈ framesIn size earlier ++ before, endsAnswer seq item = false) ∧
    events = (framesIn size earlier ++ before).filterMap (listedUnder? seq)

/-- How the waiting of a dump for the answer to a request ends, with what then waits. -/
inductive Heard (size : Nat) (seq : UInt32) (waiting : List Receipt) :
    Option (Except Failure (List Event)) → List Receipt → Prop
  /-- The last frame of the answer comes. -/
  | listed {events : List Event} {rest : List Receipt}
      (ends : EndsWith size seq waiting (.done seq) events rest) :
      Heard size seq waiting (some (.ok events)) rest
  /-- An error acknowledgment comes. -/
  | refused {errno : Int} {events : List Event} {rest : List Receipt}
      (ends : EndsWith size seq waiting (.ack seq (some errno)) events rest) :
      Heard size seq waiting (some (.error (.rejected errno))) rest
  /-- Receiving fails. -/
  | faulted {earlier : List (List UInt8)} {errno : Int} {rest : List Receipt}
      (unended : Unended size seq earlier)
      (waiting_eq : waiting = earlier.map .datagram ++ .fault errno :: rest) :
      Heard size seq waiting (some (.error (.io (.errno errno)))) rest
  /-- Nothing more comes. -/
  | silent {earlier : List (List UInt8)} (unended : Unended size seq earlier)
      (waiting_eq : waiting = earlier.map .datagram) : Heard size seq waiting none []

section Receipts

variable {size : Nat} {seq : UInt32} {gathered : List Event} {earlier : List (List UInt8)}

/-- Datagrams without an end are gathered, and then what follows. -/
theorem await_dumpFrame_append (h : Unended size seq earlier) (rest : List Receipt) :
    await size (dumpFrame seq) gathered (earlier.map .datagram ++ rest) =
      await size (dumpFrame seq)
        (gathered ++ (framesIn size earlier).filterMap (listedUnder? seq)) rest := by
  induction earlier generalizing gathered with
  | nil => simp [framesIn]
  | cons bytes earlier ih =>
    have hhere : ∀ item ∈ readFrames (bytes.take size), endsAnswer seq item = false :=
      fun item hmem => h item (List.mem_append_left _ hmem)
    have hrest : Unended size seq earlier := fun item hmem => h item (List.mem_append_right _ hmem)
    have hscan : scan (dumpFrame seq) gathered (readFrames (bytes.take size)) =
        .more (gathered ++ (readFrames (bytes.take size)).filterMap (listedUnder? seq)) := by
      rw [← List.append_nil (readFrames _), scan_dumpFrame_append hhere, scan, List.append_nil]
    rw [List.map_cons, List.cons_append, await, hscan]
    simp only
    rw [ih hrest, framesIn, framesIn, List.flatMap_cons, List.filterMap_append, List.append_assoc]

/-- A first end ends the waiting, with what is behind its datagram left on the socket. -/
theorem await_of_endsWith {waiting rest : List Receipt} {last : Frame} {events : List Event}
    {result : Except Failure (List Event)} (h : EndsWith size seq waiting last events rest)
    (hlast : dumpFrame seq events last = .answered result) :
    await size (dumpFrame seq) [] waiting = (some result, rest) := by
  obtain ⟨earlier, bytes, before, after, rfl, hframes, hnone, rfl⟩ := h
  have hearlier : Unended size seq earlier := fun item hmem =>
    hnone item (List.mem_append_left _ hmem)
  have hbefore : ∀ item ∈ before, endsAnswer seq item = false := fun item hmem =>
    hnone item (List.mem_append_right _ hmem)
  rw [await_dumpFrame_append hearlier, await, hframes, scan_dumpFrame_append hbefore, scan]
  rw [List.nil_append, ← List.filterMap_append, hlast]

/-- How the waiting ends is what it is heard to end with. -/
theorem Heard.await_eq {waiting rest : List Receipt}
    {answer : Option (Except Failure (List Event))} (h : Heard size seq waiting answer rest) :
    await size (dumpFrame seq) [] waiting = (answer, rest) := by
  cases h with
  | listed ends => exact await_of_endsWith ends (by simp [dumpFrame])
  | refused ends => exact await_of_endsWith ends (by simp [dumpFrame])
  | faulted unended waiting_eq =>
    rw [waiting_eq, await_dumpFrame_append unended]
    rfl
  | silent unended waiting_eq =>
    rw [waiting_eq, ← List.append_nil (List.map _ _), await_dumpFrame_append unended]
    rfl

/-- The waiting ends in one of these ways. -/
theorem exists_heard (size : Nat) (seq : UInt32) (waiting : List Receipt) :
    ∃ answer rest, Heard size seq waiting answer rest := by
  -- the datagrams before the first end, from the front to the back
  suffices h : ∀ (todo : List Receipt) (earlier : List (List UInt8)), Unended size seq earlier →
      waiting = earlier.map .datagram ++ todo → ∃ answer rest, Heard size seq waiting answer rest
    from h waiting [] (fun item hmem => absurd hmem List.not_mem_nil) rfl
  intro todo
  induction todo with
  | nil =>
    intro earlier hearlier hwaiting
    exact ⟨none, [], .silent hearlier (hwaiting.trans (List.append_nil _))⟩
  | cons receipt todo ih =>
    intro earlier hearlier hwaiting
    cases receipt with
    | fault errno => exact ⟨_, todo, .faulted hearlier hwaiting⟩
    | datagram bytes =>
      rcases exists_first_end seq (readFrames (bytes.take size)) with
        hnone | ⟨before, last, after, hframes, hlast, hbefore⟩
      · refine ih (earlier ++ [bytes]) ?_ ?_
        · intro item hmem
          rw [framesIn, List.flatMap_append, List.flatMap_singleton] at hmem
          exact (List.mem_append.1 hmem).elim (hearlier item) (hnone item)
        · rw [hwaiting, List.map_append, List.append_assoc]
          rfl
      · have hall : ∀ item ∈ framesIn size earlier ++ before, endsAnswer seq item = false :=
          fun item hmem => (List.mem_append.1 hmem).elim (hearlier item) (hbefore item)
        rcases endsAnswer_eq_true_iff.1 hlast with rfl | ⟨errno, rfl⟩
        · exact ⟨_, todo, .listed ⟨earlier, bytes, before, after, hwaiting, hframes, hall, rfl⟩⟩
        · exact ⟨_, todo, .refused ⟨earlier, bytes, before, after, hwaiting, hframes, hall, rfl⟩⟩

/-- The waiting of a dump ends as it is heard to end, and in no other way. -/
theorem await_dumpFrame_eq_iff {waiting rest : List Receipt}
    {answer : Option (Except Failure (List Event))} :
    await size (dumpFrame seq) [] waiting = (answer, rest) ↔
      Heard size seq waiting answer rest := by
  refine ⟨fun h => ?_, Heard.await_eq⟩
  obtain ⟨answer', rest', hheard⟩ := exists_heard size seq waiting
  obtain ⟨rfl, rfl⟩ := Prod.mk.inj (h.symm.trans hheard.await_eq)
  exact hheard

end Receipts

end LinkBus.Netlink
