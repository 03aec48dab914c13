import LinkBus.Wire.Checked
import LinkBus.Wire.Frame

/-!
# The cursor of a datagram

How a machine goes through a datagram. A cursor stands at an offset in the bytes, and each call of
`Cursor.next` reads the frame there and moves on, until the end of the bytes or a fault of the
framing. Offsets and lengths are words of the machine, and each step is checked: a part of the bytes
that is not there, or a number that does not fit in its word, ends the reading with a `Fault`.
-/

namespace LinkBus.Wire

/-- The width of the words of a machine. -/
inductive WordSize
  | bits32
  | bits64
  deriving DecidableEq, Repr

/-- The number of bits in a word. -/
def WordSize.bits : WordSize → Nat
  | bits32 => 32
  | bits64 => 64

/-- Bytes in memory. There are no more of them than the greatest signed word. -/
structure Buffer (w : WordSize) where
  bytes : List UInt8
  length_le : bytes.length ≤ (BitVec.intMax w.bits).toNat

/-- There is room for a length behind the bytes. -/
theorem Buffer.length_add_le {w : WordSize} (b : Buffer w) :
    b.bytes.length + 4 ≤ (BitVec.allOnes w.bits).toNat := by
  have h := b.length_le
  have hroom : (BitVec.intMax w.bits).toNat + 4 ≤ (BitVec.allOnes w.bits).toNat := by
    cases w <;> decide
  omega

/-- Reads the payload of a message with a checked negation of its error code. -/
def Frame.ofMessageChecked (m : Message) : Except Fault (Except Malformed Frame) :=
  match m.errorCode? with
  | none => .ok (Frame.ofMessage m)
  | some code =>
    if code = 0 then .ok (.ok (.ack m.seq none))
    else (Checked.negate code).map fun errno => .ok (.ack m.seq (some errno.toInt))

/-- A place in a datagram. -/
structure Cursor (w : WordSize) where
  /-- The datagram. -/
  buffer : Buffer w
  /-- The place of the next message. -/
  offset : BitVec w.bits := 0
  /-- Whether the framing was found to be broken. -/
  broken : Bool := false

namespace Cursor

variable {w : WordSize}

/-- The beginning of a datagram. -/
def start (buffer : Buffer w) : Cursor w := { buffer }

/-- The length of the datagram as a word. -/
def size (c : Cursor w) : BitVec w.bits := BitVec.ofNat w.bits c.buffer.bytes.length

/-- The bytes that are left. -/
def rest (c : Cursor w) : List UInt8 := c.buffer.bytes.drop c.offset.toNat

/-- Reports a fault of the framing, after which there are no more frames. -/
def fail (c : Cursor w) (fault : FramingFault) : Except Malformed Frame × Cursor w :=
  (.error (.framing fault), { c with broken := true })

/-- The cursor behind a message of some rounded length. -/
def advance (c : Cursor w) (length : BitVec w.bits) : Cursor w :=
  let offset := Checked.addSaturating c.offset length
  { c with offset := if c.size ≤ offset then c.size else offset }

/-- Reads the frame at the beginning of the bytes that are left, and moves on. -/
def read (c : Cursor w) (rest : List UInt8) : Except Fault (Except Malformed Frame × Cursor w) := do
  if rest.length < headerLength then
    return c.fail (.truncatedHeader rest.length)
  let length ← Checked.numberAt rest 0 4
  if length < headerLength then
    return c.fail (.belowHeader length)
  if rest.length < length then
    return c.fail (.pastEnd length rest.length)
  let type ← Checked.numberAt rest 4 2
  let seq ← Checked.numberAt rest 8 4
  let own ← Checked.sliceTo rest length
  let rounded ← Checked.roundUp (BitVec.ofNat w.bits length)
  let frame ← Frame.ofMessageChecked ⟨type, UInt32.ofNat seq, own.drop headerLength⟩
  return (frame, c.advance rounded)

/-- Reads the next frame, if there is one, and moves on. -/
def next (c : Cursor w) : Except Fault (Option (Except Malformed Frame × Cursor w)) :=
  if c.broken || decide (c.size ≤ c.offset) then .ok none
  else do
    let rest ← Checked.sliceFrom c.buffer.bytes c.offset.toNat
    return some (← c.read rest)

/-! ## What one call does -/

variable {c : Cursor w}

theorem toNat_size (c : Cursor w) : c.size.toNat = c.buffer.bytes.length := by
  have h := c.buffer.length_add_le
  exact Checked.toNat_ofNat_of_le (by omega)

theorem rest_ne_nil_iff : c.rest ≠ [] ↔ c.offset.toNat < c.buffer.bytes.length := by
  rw [rest, Ne, List.drop_eq_nil_iff]
  omega

/-- Behind a message follows what it leaves of the bytes. -/
theorem rest_advance {length : Nat} (h : length ≤ c.buffer.bytes.length) :
    (c.advance (BitVec.ofNat w.bits (align length))).rest = c.rest.drop (align length) := by
  have hroom := c.buffer.length_add_le
  have halign : align length ≤ length + 3 := by
    simp only [align]
    omega
  have hlength : (BitVec.ofNat w.bits (align length)).toNat = align length :=
    Checked.toNat_ofNat_of_le (by omega)
  have hsum := Checked.toNat_addSaturating c.offset (BitVec.ofNat w.bits (align length))
  rw [hlength] at hsum
  simp only [advance, rest, List.drop_drop]
  split
  · next hle =>
    rw [BitVec.le_def, toNat_size, hsum] at hle
    rw [toNat_size, List.drop_length, List.drop_eq_nil_of_le (by omega)]
  · next hlt =>
    rw [BitVec.le_def, toNat_size, hsum] at hlt
    rw [hsum, Nat.min_eq_left (by omega)]

/-- At the end of the bytes, and behind a fault of the framing, there are no more frames. -/
theorem next_of_end (h : c.broken = true ∨ c.rest = []) : c.next = .ok none := by
  refine if_pos ?_
  rw [Bool.or_eq_true, decide_eq_true_eq, BitVec.le_def, toNat_size]
  refine h.imp_right fun hnil => ?_
  have hle := mt rest_ne_nil_iff.2 (not_not_intro hnil)
  omega

/-- Reading a frame does what cutting off a message does: no step is missing a byte, and no length
fails to fit. -/
theorem read_eq {rest : List UInt8} (hroom : rest.length + 4 ≤ (BitVec.allOnes w.bits).toNat) :
    c.read rest = match cut rest with
      | .error fault => .ok (c.fail fault)
      | .ok (m, _) => (Frame.ofMessageChecked m).map fun frame =>
        (frame, c.advance (BitVec.ofNat w.bits (align (field rest 0 4)))) := by
  have hsize : headerLength = 16 := rfl
  rw [read, cut]
  by_cases hheader : rest.length < headerLength
  · rw [if_pos hheader, if_pos hheader]
    rfl
  · rw [if_neg hheader, if_neg hheader, Checked.numberAt_of_le (by omega)]
    change (if field rest 0 4 < headerLength then _ else _) = _
    by_cases hcovers : field rest 0 4 < headerLength
    · simp only [if_pos hcovers]
      rfl
    · simp only [if_neg hcovers]
      by_cases hpast : rest.length < field rest 0 4
      · simp only [if_pos hpast]
        rfl
      · simp only [if_neg hpast]
        rw [Checked.numberAt_of_le (by omega), Checked.numberAt_of_le (by omega),
          Checked.sliceTo_of_le (by omega),
          Checked.roundUp_of_le (by omega)]
        change Except.bind (Frame.ofMessageChecked _) _ = Except.map _ _
        cases Frame.ofMessageChecked _ <;> rfl

/-- Before the end of the bytes, a call reads a frame there. -/
theorem next_eq (hsound : c.broken = false) (hne : c.rest ≠ []) :
    c.next = (c.read c.rest).map some := by
  have hinside := rest_ne_nil_iff.1 hne
  have hwithin : ¬ (c.broken || decide (c.size ≤ c.offset)) = true := by
    rw [hsound, Bool.false_or, decide_eq_true_eq, BitVec.le_def, toNat_size]
    omega
  rw [next, if_neg hwithin, Checked.sliceFrom_of_le (Nat.le_of_lt hinside)]
  change Except.bind (c.read c.rest) _ = Except.map _ _
  cases c.read c.rest <;> rfl

theorem length_rest_le (c : Cursor w) : c.rest.length ≤ c.buffer.bytes.length := by
  rw [rest, List.length_drop]
  omega

/-- There is room for a length behind the bytes that are left. -/
theorem length_rest_add_le (c : Cursor w) :
    c.rest.length + 4 ≤ (BitVec.allOnes w.bits).toNat := by
  have hrest := c.length_rest_le
  have hroom := c.buffer.length_add_le
  omega

/-- Behind a message that can be cut off, what follows it is left. -/
theorem rest_advance_of_cut {m : Message} {rest : List UInt8} (h : cut c.rest = .ok (m, rest)) :
    (c.advance (BitVec.ofNat w.bits (align (field c.rest 0 4)))).rest = rest := by
  unfold cut at h
  split at h
  · cases h
  · simp only at h
    split at h
    · cases h
    · split at h
      · cases h
      · next hinside =>
        cases h
        have hrest := c.length_rest_le
        exact rest_advance (by omega)

/-- A call on a message that can be cut off reads it and moves behind it. -/
theorem next_of_cut_eq_ok {m : Message} {rest : List UInt8} (hsound : c.broken = false)
    (hcut : cut c.rest = .ok (m, rest)) :
    ∃ c' : Cursor w, c'.broken = false ∧ c'.rest = rest ∧
      c.next = (Frame.ofMessageChecked m).map fun frame => some (frame, c') := by
  have hne : c.rest ≠ [] := by
    intro hnil
    rw [hnil] at hcut
    cases hcut
  refine ⟨c.advance (BitVec.ofNat w.bits (align (field c.rest 0 4))), hsound,
    rest_advance_of_cut hcut, ?_⟩
  rw [next_eq hsound hne, read_eq c.length_rest_add_le, hcut]
  simp only
  cases Frame.ofMessageChecked m <;> rfl

/-- A call where no message can be cut off reports what is wrong. -/
theorem next_of_cut_eq_error {fault : FramingFault} (hsound : c.broken = false)
    (hne : c.rest ≠ []) (hcut : cut c.rest = .error fault) :
    c.next = .ok (some (c.fail fault)) := by
  rw [next_eq hsound hne, read_eq c.length_rest_add_le, hcut]
  rfl

/-! ## All calls -/

/-- How many bytes can still be read. -/
def left (c : Cursor w) : Nat := if c.broken then 0 else c.rest.length

/-- Each frame leaves fewer bytes. -/
theorem left_lt_of_next {c' : Cursor w} {item : Except Malformed Frame}
    (h : c.next = .ok (some (item, c'))) : c'.left < c.left := by
  by_cases hend : c.broken = true ∨ c.rest = []
  · rw [next_of_end hend] at h
    cases h
  · obtain ⟨hbroken, hne⟩ := not_or.1 hend
    have hsound : c.broken = false := Bool.eq_false_iff.2 hbroken
    have hleft : c.left = c.rest.length := by rw [left, if_neg hbroken]
    rw [hleft]
    cases hcut : cut c.rest with
    | error fault =>
      cases (next_of_cut_eq_error hsound hne hcut).symm.trans h
      exact List.length_pos_iff.2 hne
    | ok found =>
      obtain ⟨m, rest⟩ := found
      obtain ⟨behind, hsound', hrest, hnext⟩ := next_of_cut_eq_ok hsound hcut
      cases hframe : Frame.ofMessageChecked m with
      | error fault =>
        rw [hframe, h] at hnext
        cases hnext
      | ok frame =>
        rw [hframe, h] at hnext
        cases hnext
        rw [left, hsound', hrest]
        exact cut_shorter hcut

/-- All frames that are left. -/
def frames (c : Cursor w) : Except Fault (List (Except Malformed Frame)) :=
  match h : c.next with
  | .error fault => .error fault
  | .ok none => .ok []
  | .ok (some (item, c')) =>
    have := left_lt_of_next h
    c'.frames.map (item :: ·)
termination_by c.left

/-- The events that are left, behind those that were read before. A fault of the framing is an
error; a message that cannot be read is left out. -/
def decode (c : Cursor w) (events : List Event) : Except Fault (Except Malformed (List Event)) :=
  match h : c.next with
  | .error fault => .error fault
  | .ok none => .ok (.ok events)
  | .ok (some (.ok (.event _ event), c')) =>
    have := left_lt_of_next h
    c'.decode (events ++ [event])
  | .ok (some (.ok _, c')) =>
    have := left_lt_of_next h
    c'.decode events
  | .ok (some (.error malformed, c')) =>
    have := left_lt_of_next h
    if c'.broken then .ok (.error malformed) else c'.decode events
termination_by c.left

end Cursor

end LinkBus.Wire
