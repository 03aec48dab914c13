import LinkBus.Wire.Frame

/-!
# The framing of a datagram

A datagram is well framed if it is a row of whole messages: each starts at the next multiple of four
after the one before it or at the end of the bytes, its header is there, and the length in the
header covers the header and ends within the bytes. Reading accepts exactly the well-framed
datagrams, and reads each message from its own bytes alone. Otherwise it reads the row of whole
messages up to the first place where none stands, and ends there with one fault.
-/

namespace LinkBus.Wire

/-! ## Rows of messages -/

/-- The length that the header at a place announces. -/
def lengthAt (bytes : List UInt8) (start : Nat) : Nat := field bytes start 4

/-- A whole message stands at a place. -/
structure FitsAt (bytes : List UInt8) (start : Nat) : Prop where
  /-- The header is there. -/
  header : start + headerLength ≤ bytes.length
  /-- The announced length covers the header. -/
  covers : headerLength ≤ lengthAt bytes start
  /-- The message ends within the bytes. -/
  inside : start + lengthAt bytes start ≤ bytes.length

/-- Where the message after the one at a place starts: at the next multiple of four after its end,
but not after the end of the bytes. -/
def nextStart (bytes : List UInt8) (start : Nat) : Nat :=
  min (align (start + lengthAt bytes start)) bytes.length

/-- From a place on, whole messages start at the places of a list, one where the one before it is
over, and the last one is over at some place. -/
inductive Row (bytes : List UInt8) : Nat → List Nat → Nat → Prop
  | nil (start : Nat) : Row bytes start [] start
  | cons {start stop : Nat} {starts : List Nat} (fits : FitsAt bytes start)
      (rest : Row bytes (nextStart bytes start) starts stop) :
      Row bytes start (start :: starts) stop

/-- The bytes of the message at a place. -/
def bytesAt (bytes : List UInt8) (start : Nat) : List UInt8 :=
  (bytes.drop start).take (lengthAt bytes start)

/-- The message that some bytes are. -/
def Message.ofBytes (own : List UInt8) : Message where
  type := field own 4 2
  seq := UInt32.ofNat (field own 8 4)
  payload := own.drop headerLength

/-- The message at a place. -/
def messageAt (bytes : List UInt8) (start : Nat) : Message := .ofBytes (bytesAt bytes start)

/-- The frame of the message at a place, which is read from the bytes of that message alone. -/
def frameAt (bytes : List UInt8) (start : Nat) : Except Malformed Frame :=
  Frame.ofMessage (.ofBytes (bytesAt bytes start))

theorem frameAt_eq (bytes : List UInt8) (start : Nat) :
    frameAt bytes start = Frame.ofMessage (messageAt bytes start) := rfl

/-- What is wrong with the header at a place where no whole message stands. -/
def faultAt (bytes : List UInt8) (start : Nat) : FramingFault :=
  if bytes.length < start + headerLength then .truncatedHeader (bytes.length - start)
  else if lengthAt bytes start < headerLength then .belowHeader (lengthAt bytes start)
  else .pastEnd (lengthAt bytes start) (bytes.length - start)

variable {bytes : List UInt8}

/-- A message is over before the next one starts, and within the bytes. -/
theorem FitsAt.nextStart_bounds {start : Nat} (h : FitsAt bytes start) :
    start + headerLength ≤ nextStart bytes start ∧ nextStart bytes start ≤ bytes.length := by
  obtain ⟨_, hcovers, hinside⟩ := h
  simp only [nextStart, align]
  omega

/-- A row takes up at least a header for each of its messages. -/
theorem Row.stop_bounds {start stop : Nat} {starts : List Nat} (h : Row bytes start starts stop)
    (hstart : start ≤ bytes.length) :
    start + headerLength * starts.length ≤ stop ∧ stop ≤ bytes.length := by
  induction h with
  | nil => exact ⟨by simp, hstart⟩
  | cons fits _ ih =>
    obtain ⟨hnext, hend⟩ := fits.nextStart_bounds
    obtain ⟨hlow, hhigh⟩ := ih hend
    refine ⟨?_, hhigh⟩
    rw [List.length_cons, Nat.mul_succ]
    omega

/-- From every place on there is a row of whole messages that ends at the end of the bytes or where
no whole message stands. -/
theorem exists_row {start : Nat} (hstart : start ≤ bytes.length) :
    ∃ starts stop, Row bytes start starts stop ∧
      (stop = bytes.length ∨ stop < bytes.length ∧ ¬ FitsAt bytes stop) := by
  by_cases hfits : FitsAt bytes start
  · obtain ⟨hnext, hend⟩ := hfits.nextStart_bounds
    have hless : bytes.length - nextStart bytes start < bytes.length - start := by
      have hheader := hfits.header
      simp only [headerLength] at hnext hheader
      omega
    obtain ⟨starts, stop, hrow, hstop⟩ := exists_row hend
    exact ⟨start :: starts, stop, .cons hfits hrow, hstop⟩
  · rcases Nat.eq_or_lt_of_le hstart with hend | hinside
    · exact ⟨[], start, .nil start, Or.inl hend⟩
    · exact ⟨[], start, .nil start, Or.inr ⟨hinside, hfits⟩⟩
termination_by bytes.length - start

/-! ## Cutting messages off -/

/-- The fields from a place on are those of all bytes, further back. -/
theorem field_drop (start offset count : Nat) :
    field (bytes.drop start) offset count = field bytes (start + offset) count := by
  rw [field, field, List.drop_drop]

/-- Fields of a header are found in the bytes of the message alone. -/
theorem field_take {own : List UInt8} {offset count length : Nat} (h : offset + count ≤ length) :
    field (own.take length) offset count = field own offset count := by
  rw [field, field, List.drop_take, List.take_take, Nat.min_eq_left (by omega)]

/-- Behind the last whole message nothing is left, however far its padding would reach. -/
theorem drop_nextStart {start : Nat} (haligned : 4 ∣ start) :
    bytes.drop (nextStart bytes start) =
      (bytes.drop start).drop (align (lengthAt bytes start)) := by
  have halign : align (start + lengthAt bytes start) = start + align (lengthAt bytes start) := by
    simp only [align]
    omega
  rw [List.drop_drop, nextStart, halign]
  rcases Nat.le_total (start + align (lengthAt bytes start)) bytes.length with hle | hge
  · rw [Nat.min_eq_left hle]
  · rw [Nat.min_eq_right hge, List.drop_length, List.drop_eq_nil_of_le hge]

/-- Where a whole message stands, it is cut off. -/
theorem cut_drop_of_fitsAt {start : Nat} (h : FitsAt bytes start) (haligned : 4 ∣ start) :
    cut (bytes.drop start) =
      .ok (.ofBytes (bytesAt bytes start), bytes.drop (nextStart bytes start)) := by
  obtain ⟨hheader, hcovers, hinside⟩ := h
  have hlength : field (bytes.drop start) 0 4 = lengthAt bytes start := field_drop start 0 4
  have htype : field (bytesAt bytes start) 4 2 = field (bytes.drop start) 4 2 :=
    field_take (Nat.le_trans (by decide) hcovers)
  have hseq : field (bytesAt bytes start) 8 4 = field (bytes.drop start) 8 4 :=
    field_take (Nat.le_trans (by decide) hcovers)
  simp only [cut, hlength, List.length_drop]
  rw [if_neg (by omega), if_neg (by omega), if_neg (by omega), Message.ofBytes, htype, hseq,
    drop_nextStart haligned, bytesAt]

/-- Where no whole message stands, cutting finds what is wrong. -/
theorem cut_drop_of_not_fitsAt {start : Nat} (h : ¬ FitsAt bytes start)
    (hinside : start < bytes.length) : cut (bytes.drop start) = .error (faultAt bytes start) := by
  have hlength : field (bytes.drop start) 0 4 = lengthAt bytes start := field_drop start 0 4
  simp only [cut, hlength, List.length_drop, faultAt]
  by_cases hheader : bytes.length < start + headerLength
  · rw [if_pos (by omega), if_pos hheader]
  · rw [if_neg (by omega), if_neg hheader]
    by_cases hcovers : lengthAt bytes start < headerLength
    · rw [if_pos hcovers, if_pos hcovers]
    · have hends : bytes.length < start + lengthAt bytes start :=
        Nat.lt_of_not_le fun hends => h ⟨by omega, by omega, hends⟩
      rw [if_neg hcovers, if_neg hcovers, if_pos (by omega)]

/-- No messages are read from no bytes. -/
theorem messages_nil : messages [] = ([], none) := by
  rw [messages]
  rfl

/-- Reading goes on behind a message that can be cut off. -/
theorem messages_of_cut_eq_ok {rest : List UInt8} {m : Message} (h : cut bytes = .ok (m, rest)) :
    messages bytes = (m :: (messages rest).1, (messages rest).2) := by
  have hne : ¬ bytes.isEmpty = true := by
    intro hempty
    rw [List.isEmpty_iff.1 hempty] at h
    cases h
  rw [messages, if_neg hne]
  split
  · next hfault =>
    rw [h] at hfault
    cases hfault
  · next hcut =>
    rw [h] at hcut
    cases hcut
    rfl

/-- Reading ends where nothing can be cut off. -/
theorem messages_of_cut_eq_error {fault : FramingFault} (h : cut bytes = .error fault)
    (hne : bytes ≠ []) : messages bytes = ([], some fault) := by
  rw [messages, if_neg (mt List.isEmpty_iff.1 hne)]
  split
  · next hfault =>
    rw [h] at hfault
    cases hfault
    rfl
  · next hcut =>
    rw [h] at hcut
    cases hcut

/-- The messages of a row are read one after the other, and then what follows the row. -/
theorem Row.messages_drop {start stop : Nat} {starts : List Nat} (h : Row bytes start starts stop)
    (haligned : 4 ∣ start ∨ start = bytes.length) :
    messages (bytes.drop start) =
      (starts.map (fun start => .ofBytes (bytesAt bytes start)) ++ (messages (bytes.drop stop)).1,
        (messages (bytes.drop stop)).2) := by
  induction h with
  | nil => rfl
  | @cons start stop starts fits _ ih =>
    have hstart : 4 ∣ start := by
      have hheader := fits.header
      simp only [headerLength] at hheader
      omega
    have hnext : 4 ∣ nextStart bytes start ∨ nextStart bytes start = bytes.length := by
      simp only [nextStart, align]
      omega
    rw [messages_of_cut_eq_ok (cut_drop_of_fitsAt fits hstart), ih hnext]
    rfl

/-- A well-framed datagram is read as the messages of its row. -/
theorem Row.messages_eq {starts : List Nat} (h : Row bytes 0 starts bytes.length) :
    messages bytes = (starts.map fun start => .ofBytes (bytesAt bytes start), none) := by
  have hread := h.messages_drop (Or.inl (Nat.dvd_zero 4))
  rw [List.drop_length, messages_nil, List.append_nil] at hread
  exact hread

/-- Where a row ends within the bytes and no whole message stands, reading ends with a fault. -/
theorem Row.messages_eq_of_not_fitsAt {starts : List Nat} {stop : Nat}
    (h : Row bytes 0 starts stop) (hinside : stop < bytes.length) (hbad : ¬ FitsAt bytes stop) :
    messages bytes =
      (starts.map fun start => .ofBytes (bytesAt bytes start), some (faultAt bytes stop)) := by
  have hne : bytes.drop stop ≠ [] := by
    rw [Ne, List.drop_eq_nil_iff]
    omega
  have hread := h.messages_drop (Or.inl (Nat.dvd_zero 4))
  rw [messages_of_cut_eq_error (cut_drop_of_not_fitsAt hbad hinside) hne, List.append_nil] at hread
  exact hread

/-! ## Message by message -/

section Items

variable {bytes rest : List UInt8} {m : Message}

theorem readFrames_nil : readFrames [] = [] := by
  rw [readFrames, messages_nil]
  rfl

/-- Behind the frame of the first message follow those of the rest. -/
theorem readFrames_of_cut_eq_ok (h : cut bytes = .ok (m, rest)) :
    readFrames bytes = Frame.ofMessage m :: readFrames rest := by
  rw [readFrames, messages_of_cut_eq_ok h]
  rfl

/-- Where no message can be cut off, there is one fault. -/
theorem readFrames_of_cut_eq_error {fault : FramingFault} (h : cut bytes = .error fault)
    (hne : bytes ≠ []) : readFrames bytes = [.error (.framing fault)] := by
  rw [readFrames, messages_of_cut_eq_error h hne]
  rfl

theorem readEvents_nil : readEvents [] = .ok [] := by
  rw [readEvents, messages_nil, readFrames_nil]
  rfl

/-- Behind the event of the first message, if it has one, follow those of the rest. -/
theorem readEvents_of_cut_eq_ok (h : cut bytes = .ok (m, rest)) :
    readEvents bytes =
      (readEvents rest).map ((Frame.event? (Frame.ofMessage m)).toList ++ ·) := by
  rw [readEvents, readEvents, messages_of_cut_eq_ok h, readFrames_of_cut_eq_ok h]
  cases (messages rest).2 with
  | some fault => rfl
  | none =>
    rw [List.filterMap_cons]
    cases Frame.event? (Frame.ofMessage m) <;> rfl

/-- Where no message can be cut off, the framing is broken. -/
theorem readEvents_of_cut_eq_error {fault : FramingFault} (h : cut bytes = .error fault)
    (hne : bytes ≠ []) : readEvents bytes = .error (.framing fault) := by
  rw [readEvents, messages_of_cut_eq_error h hne]

end Items

/-! ## Frames and events -/

/-- The frames of a datagram are read from its messages. -/
theorem ok_mem_readFrames_iff {frame : Frame} :
    .ok frame ∈ readFrames bytes ↔ ∃ m ∈ (messages bytes).1, Frame.ofMessage m = .ok frame := by
  simp [readFrames]

/-- A message that can be read is the frame that it is read as. -/
theorem Frame.ofMessage_eq_ok_iff {m : Message} {frame : Frame} :
    Frame.ofMessage m = .ok frame ↔ Frame.read? m = some frame := by
  rw [Frame.ofMessage]
  split
  · next hread => simp [hread]
  · next hread => simp [hread]

/-- The type of a message that reports lost events. -/
def overrunType : Nat := 4

/-- Exactly the messages of one type are read as a report of lost events. -/
theorem Message.type_eq_overrunType_iff {m : Message} :
    m.type = overrunType ↔ Frame.ofMessage m = .ok .overrun := by
  rw [Frame.ofMessage_eq_ok_iff]
  constructor
  · intro htype
    simp [Frame.read?, htype, overrunType]
  · intro h
    rw [Frame.read?] at h
    split at h
    case h_3 htype => exact htype
    -- no other type is read as such a report
    all_goals grind [Option.map_eq_some_iff]

/-- A message announces an event: its type says of which kind, and its payload says the rest. -/
inductive Message.Announces (m : Message) : Event → Prop
  | newLink {link : LinkReport} (htype : m.type = 16) (hread : readLink? m.payload = some link) :
      Announces m (.newLink link)
  | delLink {link : LinkReport} (htype : m.type = 17) (hread : readLink? m.payload = some link) :
      Announces m (.delLink link)
  | newAddress {address : AddressReport} (htype : m.type = 20)
      (hread : readAddress? m.payload = some (some address)) : Announces m (.newAddress address)
  | delAddress {address : AddressReport} (htype : m.type = 21)
      (hread : readAddress? m.payload = some (some address)) : Announces m (.delAddress address)
  | newRoute {route : RouteReport} (htype : m.type = 24)
      (hread : readRoute? m.payload = some (some route)) : Announces m (.newRoute route)
  | delRoute {route : RouteReport} (htype : m.type = 25)
      (hread : readRoute? m.payload = some (some route)) : Announces m (.delRoute route)

/-- Exactly the messages that announce an event are read as its frame. -/
theorem Message.announces_iff {m : Message} {event : Event} :
    m.Announces event ↔ ∃ seq, Frame.ofMessage m = .ok (.event seq event) := by
  constructor
  · intro h
    refine ⟨m.seq, Frame.ofMessage_eq_ok_iff.2 ?_⟩
    cases h with
    | _ htype hread => simp [Frame.read?, htype, hread]
  · rintro ⟨seq, h⟩
    rw [Frame.ofMessage_eq_ok_iff, Frame.read?] at h
    split at h
    case h_4 htype | h_5 htype =>
      obtain ⟨link, hread, heq⟩ := Option.map_eq_some_iff.1 h
      cases heq
      constructor <;> assumption
    case h_6 htype | h_7 htype | h_8 htype | h_9 htype =>
      obtain ⟨_ | report, hread, heq⟩ := Option.map_eq_some_iff.1 h
      · cases heq
      · cases heq
        constructor <;> assumption
    -- no other type is read as an event
    all_goals grind [Option.map_eq_some_iff]

namespace Row

variable {starts : List Nat} {stop : Nat}

/-- A well-framed datagram gives one frame for each of its messages. -/
theorem readFrames_eq (h : Row bytes 0 starts bytes.length) :
    readFrames bytes = starts.map (frameAt bytes) := by
  simp only [readFrames, h.messages_eq, List.map_map, Option.toList_none, List.map_nil,
    List.append_nil]
  rfl

/-- Otherwise there is one frame for each message of the row, and a fault at the end. -/
theorem readFrames_eq_of_not_fitsAt (h : Row bytes 0 starts stop) (hinside : stop < bytes.length)
    (hbad : ¬ FitsAt bytes stop) :
    readFrames bytes =
      starts.map (frameAt bytes) ++ [.error (.framing (faultAt bytes stop))] := by
  simp only [readFrames, h.messages_eq_of_not_fitsAt hinside hbad, List.map_map,
    Option.toList_some, List.map_cons, List.map_nil]
  rfl

end Row

end LinkBus.Wire
