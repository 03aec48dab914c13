import LinkBus.Wire.Cursor
import LinkBus.Proofs.Wire.Framing

/-!
# Faults of the cursor

A machine that goes through a datagram never asks for a byte that is not there, and its offsets and
lengths always fit. One step can fail: the least code that an error message can hold has no
negation. Exactly the datagrams with such a message before the end of their framing are not read to
the end; all others give the same frames and events as without any check.
-/

namespace LinkBus.Wire

/-! ## One message -/

section Message

variable {m : Message} {code : BitVec 32}

/-- A message with an error code is an acknowledgment. -/
theorem Frame.ofMessage_of_errorCode? (h : m.errorCode? = some code) :
    Frame.ofMessage m = .ok (.ack m.seq (ackErrno code)) := by
  have htype : m.type = 2 := by
    rw [Message.errorCode?] at h
    split at h
    · next hcond => exact hcond.1
    · cases h
  simp [Frame.ofMessage, Frame.read?, htype, h]

/-- The least code is not negated. -/
theorem Frame.ofMessageChecked_of_least (h : m.errorCode? = some (BitVec.intMin 32)) :
    Frame.ofMessageChecked m = .error .negation := by
  have hnegate := Checked.negate_eq_error_iff.2 ⟨rfl, rfl⟩
  have hne : BitVec.intMin 32 ≠ 0 := by decide
  simp only [Frame.ofMessageChecked, h, if_neg hne, hnegate]
  rfl

/-- Every other message is read as without a check. -/
theorem Frame.ofMessageChecked_of_ne (h : m.errorCode? ≠ some (BitVec.intMin 32)) :
    Frame.ofMessageChecked m = .ok (Frame.ofMessage m) := by
  rw [ofMessageChecked]
  split
  · rfl
  · next code hcode =>
    rw [ofMessage_of_errorCode? hcode, ackErrno]
    split
    · rfl
    · rw [(Checked.negate_of_ne fun heq => h (heq ▸ hcode)).1]
      rfl

/-- The code of an error is negated exactly, and the result fits in 32 bits. -/
theorem Frame.ofMessageChecked_of_errorCode? (h : m.errorCode? = some code) (hzero : code ≠ 0)
    (hleast : code ≠ BitVec.intMin 32) :
    Frame.ofMessageChecked m = .ok (.ok (.ack m.seq (some (-code.toInt)))) ∧
      (BitVec.intMin 32).toInt ≤ -code.toInt ∧ -code.toInt ≤ (BitVec.intMax 32).toInt := by
  obtain ⟨hnegate, hexact⟩ := Checked.negate_of_ne hleast
  refine ⟨?_, ?_, ?_⟩
  · simp only [ofMessageChecked, h, if_neg hzero, hnegate, ← hexact]
    rfl
  · rw [← hexact]
    exact BitVec.toInt_intMin_le (-code)
  · have hmost : (BitVec.intMax 32).toInt = 2147483647 := by decide
    have hlt : (-code).toInt < 2147483648 := BitVec.toInt_lt
    rw [← hexact]
    omega

end Message

/-! ## Call by call -/

namespace Cursor

variable {w : WordSize} {c c' : Cursor w}

theorem frames_of_next_none (h : c.next = .ok none) : c.frames = .ok [] := by
  rw [frames]
  split
  · next hnext => cases h.symm.trans hnext
  · rfl
  · next hnext => cases h.symm.trans hnext

theorem frames_of_next_error {fault : Fault} (h : c.next = .error fault) :
    c.frames = .error fault := by
  rw [frames]
  split
  · next hnext =>
    cases h.symm.trans hnext
    rfl
  · next hnext => cases h.symm.trans hnext
  · next hnext => cases h.symm.trans hnext

/-- Behind a frame that is read follow all others. -/
theorem frames_of_next_some {item : Except Malformed Frame} (h : c.next = .ok (some (item, c'))) :
    c.frames = c'.frames.map (item :: ·) := by
  rw [frames]
  split
  · next hnext => cases h.symm.trans hnext
  · next hnext => cases h.symm.trans hnext
  · next hnext =>
    cases h.symm.trans hnext
    rfl

theorem decode_of_next_none (h : c.next = .ok none) (events : List Event) :
    c.decode events = .ok (.ok events) := by
  rw [decode]
  split
  case h_2 => rfl
  all_goals
    next hnext => cases h.symm.trans hnext

theorem decode_of_next_error {fault : Fault} (h : c.next = .error fault) (events : List Event) :
    c.decode events = .error fault := by
  rw [decode]
  split
  case h_1 hnext =>
    cases h.symm.trans hnext
    rfl
  all_goals
    next hnext => cases h.symm.trans hnext

/-- The event of a frame comes behind those that were read before. -/
theorem decode_of_next_some {item : Except Malformed Frame} (h : c.next = .ok (some (item, c')))
    (hsound : c'.broken = false) (events : List Event) :
    c.decode events = c'.decode (events ++ (Frame.event? item).toList) := by
  rw [decode]
  split
  · next hnext => cases h.symm.trans hnext
  · next hnext => cases h.symm.trans hnext
  · next hnext =>
    cases h.symm.trans hnext
    rfl
  · next frame c'' hnot hnext =>
    cases h.symm.trans hnext
    cases frame with
    | event seq event => exact absurd rfl (hnot seq event)
    | _ => simp [Frame.event?]
  · next hnext =>
    cases h.symm.trans hnext
    simp [hsound, Frame.event?]

/-- A fault of the framing is the last that is read. -/
theorem decode_of_next_fail {fault : FramingFault} (h : c.next = .ok (some (c.fail fault)))
    (events : List Event) : c.decode events = .ok (.error (.framing fault)) := by
  rw [decode]
  split
  case h_5 hnext =>
    cases h.symm.trans hnext
    rfl
  all_goals
    next hnext => cases h.symm.trans hnext

/-! ## All calls -/

/-- Without a least code among the messages that are left, they are read as without any check. -/
theorem frames_and_decode_of_negatable {rest : List UInt8} (hsound : c.broken = false)
    (hrest : c.rest = rest)
    (hnone : ∀ m ∈ (messages rest).1, m.errorCode? ≠ some (BitVec.intMin 32)) :
    c.frames = .ok (readFrames rest) ∧
      ∀ events, c.decode events = .ok ((readEvents rest).map (events ++ ·)) := by
  fun_induction messages rest generalizing c with
  | case1 rest hempty =>
    obtain rfl := List.isEmpty_iff.1 hempty
    have hnext := next_of_end (.inr hrest)
    refine ⟨?_, fun events => ?_⟩
    · rw [frames_of_next_none hnext, readFrames_nil]
    · rw [decode_of_next_none hnext, readEvents_nil, Except.map, List.append_nil]
  | case2 rest hne fault hcut =>
    have hfilled : rest ≠ [] := mt List.isEmpty_iff.2 hne
    have hnext := next_of_cut_eq_error hsound (hrest ▸ hfilled) (hrest ▸ hcut)
    refine ⟨?_, fun events => ?_⟩
    · rw [frames_of_next_some hnext, frames_of_next_none (next_of_end (.inl rfl)),
        readFrames_of_cut_eq_error hcut hfilled]
      rfl
    · rw [decode_of_next_fail hnext, readEvents_of_cut_eq_error hcut hfilled]
      rfl
  | case3 rest hne m rest' hcut hlt ms fault heq ih =>
    obtain ⟨c', hsound', hrest', hnext⟩ := next_of_cut_eq_ok hsound (hrest ▸ hcut)
    rw [Frame.ofMessageChecked_of_ne (hnone m List.mem_cons_self)] at hnext
    have hrestnone : ∀ m ∈ (messages rest').1, m.errorCode? ≠ some (BitVec.intMin 32) := by
      rw [heq]
      exact fun m hm => hnone m (List.mem_cons_of_mem _ hm)
    obtain ⟨hframes, hdecode⟩ := ih hsound' hrest' hrestnone
    refine ⟨?_, fun events => ?_⟩
    · rw [frames_of_next_some hnext, hframes, readFrames_of_cut_eq_ok hcut]
      rfl
    · rw [decode_of_next_some hnext hsound', hdecode, readEvents_of_cut_eq_ok hcut]
      cases readEvents rest' with
      | error malformed => rfl
      | ok more => simp [Except.map]

/-- A least code among the messages that are left is a fault. -/
theorem frames_and_decode_of_least {rest : List UInt8} (hsound : c.broken = false)
    (hrest : c.rest = rest)
    (hleast : ∃ m ∈ (messages rest).1, m.errorCode? = some (BitVec.intMin 32)) :
    c.frames = .error .negation ∧ ∀ events, c.decode events = .error .negation := by
  fun_induction messages rest generalizing c with
  | case1 => simp at hleast
  | case2 => simp at hleast
  | case3 rest hne m rest' hcut hlt ms fault heq ih =>
    obtain ⟨c', hsound', hrest', hnext⟩ := next_of_cut_eq_ok hsound (hrest ▸ hcut)
    by_cases hhere : m.errorCode? = some (BitVec.intMin 32)
    · rw [Frame.ofMessageChecked_of_least hhere] at hnext
      exact ⟨frames_of_next_error hnext, decode_of_next_error hnext⟩
    · rw [Frame.ofMessageChecked_of_ne hhere] at hnext
      obtain ⟨m', hm', hlater⟩ := hleast
      have hmem : m' ∈ (messages rest').1 := by
        rw [heq]
        exact (List.mem_cons.1 hm').resolve_left fun hsame => hhere (hsame ▸ hlater)
      obtain ⟨hframes, hdecode⟩ := ih hsound' hrest' ⟨m', hmem, hlater⟩
      refine ⟨?_, fun events => ?_⟩
      · rw [frames_of_next_some hnext, hframes]
        rfl
      · rw [decode_of_next_some hnext hsound', hdecode]

end Cursor

/-! ## Datagrams with the least code -/

/-- Among the whole messages of a datagram, before the end of its framing, is an error message with
the least code. -/
def ReportsLeastCode (bytes : List UInt8) : Prop :=
  ∃ starts stop, Row bytes 0 starts stop ∧
    ∃ start ∈ starts, (Message.ofBytes (bytesAt bytes start)).errorCode? =
      some (BitVec.intMin 32)

/-- The whole messages are those that are cut off one after the other. -/
theorem reportsLeastCode_iff {bytes : List UInt8} :
    ReportsLeastCode bytes ↔
      ∃ m ∈ (messages bytes).1, m.errorCode? = some (BitVec.intMin 32) := by
  constructor
  · rintro ⟨starts, stop, hrow, start, hstart, hcode⟩
    refine ⟨_, ?_, hcode⟩
    have hread := hrow.messages_drop (.inl (Nat.dvd_zero 4))
    rw [List.drop_zero] at hread
    rw [hread]
    exact List.mem_append_left _ (List.mem_map.2 ⟨start, hstart, rfl⟩)
  · rintro ⟨m, hm, hcode⟩
    obtain ⟨starts, stop, hrow, hstop⟩ := exists_row (Nat.zero_le bytes.length)
    have hmessages : (messages bytes).1 =
        starts.map fun start => .ofBytes (bytesAt bytes start) := by
      rcases hstop with rfl | ⟨hinside, hbad⟩
      · rw [hrow.messages_eq]
      · rw [hrow.messages_eq_of_not_fitsAt hinside hbad]
    rw [hmessages] at hm
    obtain ⟨start, hstart, rfl⟩ := List.mem_map.1 hm
    exact ⟨starts, stop, hrow, start, hstart, hcode⟩

namespace Cursor

/-- On a machine with words of 32 or of 64 bits, and for every datagram in its memory, reading
frames or events to the end never asks for a byte that is not there, and no offset and no length
overflows. The one step that can fail is the negation of an error code, and it fails exactly if an
error message before the end of the framing has the least code. Without one, the frames and the
events are those of the datagram. Every other code of an error is negated exactly, and fits. -/
theorem overflow_iff_least_code (w : WordSize) (b : Buffer w) :
    (∀ fault, (start b).frames = .error fault ↔
      fault = .negation ∧ ReportsLeastCode b.bytes) ∧
    (∀ fault, (start b).decode [] = .error fault ↔
      fault = .negation ∧ ReportsLeastCode b.bytes) ∧
    (¬ ReportsLeastCode b.bytes →
      (start b).frames = .ok (readFrames b.bytes) ∧
        (start b).decode [] = .ok (readEvents b.bytes)) ∧
    ∀ (m : Message) (code : BitVec 32), m.errorCode? = some code → code ≠ 0 →
      code ≠ BitVec.intMin 32 →
        Frame.ofMessageChecked m = .ok (.ok (.ack m.seq (some (-code.toInt)))) ∧
          (BitVec.intMin 32).toInt ≤ -code.toInt ∧ -code.toInt ≤ (BitVec.intMax 32).toInt := by
  have hrest : (start b).rest = b.bytes := List.drop_zero
  have hsound : (start b).broken = false := rfl
  have hread : ¬ ReportsLeastCode b.bytes → (start b).frames = .ok (readFrames b.bytes) ∧
      (start b).decode [] = .ok (readEvents b.bytes) := by
    intro hnone
    obtain ⟨hframes, hdecode⟩ := frames_and_decode_of_negatable hsound hrest fun m hm hcode =>
      hnone (reportsLeastCode_iff.2 ⟨m, hm, hcode⟩)
    refine ⟨hframes, (hdecode []).trans ?_⟩
    cases readEvents b.bytes <;> rfl
  have hfails : ReportsLeastCode b.bytes →
      (start b).frames = .error .negation ∧ (start b).decode [] = .error .negation := by
    intro hleast
    obtain ⟨hframes, hdecode⟩ :=
      frames_and_decode_of_least hsound hrest (reportsLeastCode_iff.1 hleast)
    exact ⟨hframes, hdecode []⟩
  refine ⟨fun fault => ?_, fun fault => ?_, hread, fun m code hcode hzero hleast =>
    Frame.ofMessageChecked_of_errorCode? hcode hzero hleast⟩
  · by_cases h : ReportsLeastCode b.bytes
    · simp [(hfails h).1, h, eq_comm]
    · simp [(hread h).1, h]
  · by_cases h : ReportsLeastCode b.bytes
    · simp [(hfails h).2, h, eq_comm]
    · simp [(hread h).2, h]

/-- A datagram with one error message, which has the least code. -/
def leastError : Buffer .bits64 where
  bytes := [20, 0, 0, 0, 2, 0, 0, 0, 7, 0, 0, 0, 0, 0, 0, 0, 0, 0, 0, 128]
  length_le := by decide

/-- Its code is one of an error, but it has no negation in 32 bits, and the reading stops. -/
theorem least_code_overflows :
    messages leastError.bytes = ([⟨2, 7, [0, 0, 0, 128]⟩], none) ∧
      Message.errorCode? ⟨2, 7, [0, 0, 0, 128]⟩ = some (BitVec.intMin 32) ∧
      (BitVec.intMax 32).toInt < -(BitVec.intMin 32).toInt ∧
      (start leastError).frames = .error .negation ∧
      (start leastError).decode [] = .error .negation := by
  have hcut : cut leastError.bytes = .ok (⟨2, 7, [0, 0, 0, 128]⟩, []) := rfl
  have hmessages : messages leastError.bytes = ([⟨2, 7, [0, 0, 0, 128]⟩], none) := by
    rw [messages_of_cut_eq_ok hcut, messages_nil]
  have hcode : Message.errorCode? ⟨2, 7, [0, 0, 0, 128]⟩ = some (BitVec.intMin 32) := rfl
  have hleast : ∃ m ∈ (messages leastError.bytes).1, m.errorCode? = some (BitVec.intMin 32) := by
    rw [hmessages]
    exact ⟨_, List.mem_cons_self, hcode⟩
  obtain ⟨hframes, hdecode⟩ := frames_and_decode_of_least (c := start leastError) rfl rfl hleast
  exact ⟨hmessages, hcode, by decide, hframes, hdecode []⟩

end Cursor

end LinkBus.Wire
