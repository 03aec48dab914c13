import LinkBus.Netlink.Exchange
import LinkBus.Proofs.Wire.Truncation

/-!
# What a call hears

A call is answered by a frame with the number of its request alone. Frames with other numbers may
stand anywhere between the frames that it waits for: they change nothing.
-/

namespace LinkBus.Netlink

open Wire

/-- The number of the request that a frame belongs to, if it belongs to one. -/
def number? : Frame → Option UInt32
  | .event seq _ | .done seq | .ack seq _ => some seq
  | .overrun | .ignored => none

/-- A request for the entries of a table. -/
def IsDump (request : Request) : Prop := ∀ index up, request ≠ .setLink index up

/-- A dump hears the entries of its table. -/
theorem IsDump.hear_eq {request : Request} (h : IsDump request) : hear request = dumpFrame := by
  cases request with
  | setLink index up => exact absurd rfl (h index up)
  | _ => rfl

variable {request : Request} {seq : UInt32} {events : List Event} {frame : Frame}

/-- A change is answered by the acknowledgment with its number. -/
theorem ackFrame_eq_answered {result : Except Failure Unit}
    (h : ackFrame seq () frame = .answered result) :
    (frame = .ack seq none ∧ result = .ok ()) ∨
      ∃ errno, frame = .ack seq (some errno) ∧ result = .error (.rejected errno) := by
  unfold ackFrame at h
  split at h
  · split at h
    · next hseq =>
      subst hseq
      exact .inl ⟨rfl, (Waiting.answered.inj h).symm⟩
    · cases h
  · next errno =>
    split at h
    · next hseq =>
      subst hseq
      exact .inr ⟨errno, rfl, (Waiting.answered.inj h).symm⟩
    · cases h
  · cases h

/-- A dump is answered by the last frame with its number, or by an error acknowledgment with it. -/
theorem dumpFrame_eq_answered {result : Except Failure (List Event)}
    (h : dumpFrame seq events frame = .answered result) :
    (frame = .done seq ∧ result = .ok events) ∨
      ∃ errno, frame = .ack seq (some errno) ∧ result = .error (.rejected errno) := by
  unfold dumpFrame at h
  split at h
  · cases h
  · split at h
    · next hseq =>
      subst hseq
      exact .inl ⟨rfl, (Waiting.answered.inj h).symm⟩
    · cases h
  · next errno =>
    split at h
    · next hseq =>
      subst hseq
      exact .inr ⟨errno, rfl, (Waiting.answered.inj h).symm⟩
    · cases h
  · cases h

/-- A change hears acknowledgments. -/
theorem hear_setLink_eq_answered {index : UInt32} {up : Bool}
    {result : Except Failure (List Event)}
    (h : hear (.setLink index up) seq events frame = .answered result) :
    ∃ answer : Except Failure Unit, ackFrame seq () frame = .answered answer ∧
      result = answer.map fun _ => events := by
  simp only [hear] at h
  split at h
  · cases h
  · next answer hanswer => exact ⟨answer, hanswer, (Waiting.answered.inj h).symm⟩

/-- A call is refused by the error acknowledgment with its number. -/
theorem hear_eq_error {failure : Failure}
    (h : hear request seq events frame = .answered (.error failure)) :
    ∃ errno, frame = .ack seq (some errno) ∧ failure = .rejected errno := by
  have hdumped : dumpFrame seq events frame = .answered (.error failure) →
      ∃ errno, frame = .ack seq (some errno) ∧ failure = .rejected errno := by
    intro hdump
    obtain ⟨_, hresult⟩ | ⟨errno, hframe, hresult⟩ := dumpFrame_eq_answered hdump
    · cases hresult
    · exact ⟨errno, hframe, Except.error.inj hresult⟩
  cases request with
  | setLink index up =>
    obtain ⟨answer, hanswer, hresult⟩ := hear_setLink_eq_answered h
    obtain ⟨_, rfl⟩ | ⟨errno, hframe, rfl⟩ := ackFrame_eq_answered hanswer
    · cases hresult
    · exact ⟨errno, hframe, Except.error.inj hresult⟩
  | dumpLinks => exact hdumped h
  | dumpAddresses => exact hdumped h
  | dumpRoutes => exact hdumped h

/-- A change is granted by the positive acknowledgment with its number. -/
theorem hear_setLink_eq_ok {index : UInt32} {up : Bool} {more : List Event}
    (h : hear (.setLink index up) seq events frame = .answered (.ok more)) :
    frame = .ack seq none := by
  obtain ⟨answer, hanswer, hresult⟩ := hear_setLink_eq_answered h
  obtain ⟨hframe, rfl⟩ | ⟨errno, _, rfl⟩ := ackFrame_eq_answered hanswer
  · exact hframe
  · cases hresult

/-- A frame with another number changes nothing. -/
theorem hear_of_number_ne {other : UInt32} (hnumber : number? frame = some other)
    (hne : other ≠ seq) : hear request seq events frame = .more events := by
  cases frame with
  | overrun => cases hnumber
  | ignored => cases hnumber
  | event s event =>
    cases hnumber
    cases request <;> simp [hear, dumpFrame, ackFrame, hne]
  | done s =>
    cases hnumber
    cases request <;> simp [hear, dumpFrame, ackFrame, hne]
  | ack s errno =>
    cases hnumber
    cases request <;> cases errno <;> simp [hear, dumpFrame, ackFrame, hne]

/-- What answers a call is one of the frames. -/
theorem scan_eq_answered {σ α : Type} {step : σ → Frame → Waiting σ α} {state : σ}
    {frames : List (Except Malformed Frame)} {result : Except Failure α}
    (h : scan step state frames = .answered result) :
    ∃ state' frame, .ok frame ∈ frames ∧ step state' frame = .answered result := by
  fun_induction scan step state frames with
  | case1 => cases h
  | case2 state fault rest ih =>
    obtain ⟨state', frame, hmem, hstep⟩ := ih h
    exact ⟨state', frame, List.mem_cons_of_mem _ hmem, hstep⟩
  | case3 state frame rest next hnext ih =>
    obtain ⟨state', frame, hmem, hstep⟩ := ih h
    exact ⟨state', frame, List.mem_cons_of_mem _ hmem, hstep⟩
  | case4 state frame rest answer hanswer =>
    exact ⟨state, frame, List.mem_cons_self, hanswer.trans h⟩

/-- Frames that change nothing can be left out. -/
theorem scan_filter {σ α : Type} {step : σ → Frame → Waiting σ α}
    {frames : List (Except Malformed Frame)} {keep : Except Malformed Frame → Bool}
    (hskip : ∀ frame, .ok frame ∈ frames → keep (.ok frame) = false →
      ∀ state, step state frame = .more state) (state : σ) :
    scan step state (frames.filter keep) = scan step state frames := by
  induction frames generalizing state with
  | nil => rfl
  | cons item rest ih =>
    have ih := ih fun frame hmem => hskip frame (List.mem_cons_of_mem _ hmem)
    cases hkeep : keep item with
    | true =>
      rw [List.filter_cons_of_pos hkeep]
      cases item with
      | error fault => exact ih state
      | ok frame =>
        simp only [scan]
        split
        · exact ih _
        · rfl
    | false =>
      rw [List.filter_cons_of_neg (by simp [hkeep]), ih]
      cases item with
      | error fault => rfl
      | ok frame => rw [scan, hskip frame List.mem_cons_self hkeep state]

end LinkBus.Netlink
