import LinkBus.Proofs.Wire.Framing
import LinkBus.Wire.Request
import Mathlib.Algebra.Group.Nat.Defs

/-!
# Messages in an envelope

A message in an envelope is cut off the front of a datagram as the message that it is, whatever
follows it there, if its type and its length fit into the fields of the header and its payload ends
where a message can start.
-/

namespace LinkBus.Wire

/-! ## Numbers in bytes -/

@[simp] theorem length_leBytes (count n : Nat) : (leBytes count n).length = count := by
  induction count generalizing n with
  | zero => rfl
  | succ count ih => rw [leBytes, List.length_cons, ih]

/-- A number is read back from its bytes, up to the digits for which there was no room. -/
theorem littleEndian_leBytes (count n : Nat) :
    littleEndian (leBytes count n) = n % 256 ^ count := by
  induction count generalizing n with
  | zero => rw [leBytes, littleEndian, Nat.pow_zero, Nat.mod_one]
  | succ count ih =>
    have hdigit : (UInt8.ofNat (n % 256)).toNat = n % 256 := by
      rw [UInt8.toNat_ofNat', Nat.mod_mod]
    rw [leBytes, littleEndian, hdigit, ih, Nat.pow_succ', Nat.mod_mul]

/-- A field at the front holds the number that was written there. -/
theorem field_leBytes_append {count n : Nat} (h : n < 256 ^ count) (rest : List UInt8) :
    field (leBytes count n ++ rest) 0 count = n := by
  have hfront : (leBytes count n ++ rest).take count = leBytes count n := by
    rw [List.take_left' (length_leBytes count n)]
  rw [field, List.drop_zero, hfront, littleEndian_leBytes, Nat.mod_eq_of_lt h]

/-- A field further back is one of the bytes behind. -/
theorem field_append_right {front rest : List UInt8} {length : Nat} (h : front.length = length)
    (offset count : Nat) :
    field (front ++ rest) (length + offset) count = field rest offset count := by
  rw [field, ← List.drop_drop, List.drop_left' h, field]

/-! ## Envelopes -/

section Envelopes

variable {type flags : Nat} {seq : UInt32} {payload : List UInt8}

theorem length_envelope :
    (envelope type flags seq payload).length = headerLength + payload.length := by
  simp [envelope, headerLength]
  omega

/-! The fields of the header, whatever follows the envelope. -/

section Fields

variable (rest : List UInt8)

theorem field_length_envelope_append (hlength : headerLength + payload.length < 256 ^ 4) :
    field (envelope type flags seq payload ++ rest) 0 4 = headerLength + payload.length := by
  simp only [envelope, List.append_assoc]
  exact field_leBytes_append hlength _

theorem field_type_envelope_append (htype : type < 256 ^ 2) :
    field (envelope type flags seq payload ++ rest) 4 2 = type := by
  simp only [envelope, List.append_assoc]
  rw [show (4 : Nat) = 4 + 0 from rfl, field_append_right (length_leBytes 4 _)]
  exact field_leBytes_append htype _

theorem field_flags_envelope_append (hflags : flags < 256 ^ 2) :
    field (envelope type flags seq payload ++ rest) 6 2 = flags := by
  simp only [envelope, List.append_assoc]
  rw [show (6 : Nat) = 4 + (2 + 0) from rfl, field_append_right (length_leBytes 4 _),
    field_append_right (length_leBytes 2 _)]
  exact field_leBytes_append hflags _

theorem field_seq_envelope_append :
    field (envelope type flags seq payload ++ rest) 8 4 = seq.toNat := by
  simp only [envelope, List.append_assoc]
  rw [show (8 : Nat) = 4 + (2 + (2 + 0)) from rfl, field_append_right (length_leBytes 4 _),
    field_append_right (length_leBytes 2 _), field_append_right (length_leBytes 2 _)]
  exact field_leBytes_append seq.toNat_lt _

theorem field_sender_envelope_append :
    field (envelope type flags seq payload ++ rest) 12 4 = 0 := by
  simp only [envelope, List.append_assoc]
  rw [show (12 : Nat) = 4 + (2 + (2 + (4 + 0))) from rfl, field_append_right (length_leBytes 4 _),
    field_append_right (length_leBytes 2 _), field_append_right (length_leBytes 2 _),
    field_append_right (length_leBytes 4 _)]
  exact field_leBytes_append (by decide) _

end Fields

/-- A message in an envelope is cut off with its type, its number and its payload. -/
theorem cut_envelope_append (htype : type < 256 ^ 2)
    (hlength : headerLength + payload.length < 256 ^ 4) (haligned : 4 ∣ payload.length)
    (rest : List UInt8) :
    cut (envelope type flags seq payload ++ rest) = .ok (⟨type, seq, payload⟩, rest) := by
  have hpayload : ((envelope type flags seq payload ++ rest).take
      (headerLength + payload.length)).drop headerLength = payload := by
    rw [List.take_left' length_envelope]
    exact List.drop_left' (by simp [headerLength])
  have hround : align (headerLength + payload.length) = headerLength + payload.length := by
    simp only [align, headerLength]
    omega
  have hrest : (envelope type flags seq payload ++ rest).drop (headerLength + payload.length) =
      rest := List.drop_left' length_envelope
  have htotal : (envelope type flags seq payload ++ rest).length =
      headerLength + payload.length + rest.length := by
    rw [List.length_append, length_envelope]
  simp only [cut, field_length_envelope_append rest hlength, field_type_envelope_append rest htype,
    field_seq_envelope_append, hpayload, hround, hrest, htotal]
  rw [if_neg (by omega), if_neg (by omega), if_neg (by omega), UInt32.ofNat_toNat]

end Envelopes

/-! ## Messages of an answer -/

/-- The flags of a message that is one of several. -/
def partFlags : Nat := 0x2

/-- The last message of an answer, with a status. -/
def lastMessage (seq : UInt32) (status : Nat) : List UInt8 :=
  envelope 3 partFlags seq (leBytes 4 status)

/-- A message about a link of which nothing but the index is known. -/
def linkMessage (seq index : UInt32) : List UInt8 :=
  envelope 16 partFlags seq (linkHeader index 0 0)

/-- What is told about a link of which nothing but the index is known. -/
def bareLink (index : UInt32) : LinkReport := linkReport (linkHeader index 0 0) []

theorem cut_lastMessage_append (seq : UInt32) (status : Nat) (rest : List UInt8) :
    cut (lastMessage seq status ++ rest) = .ok (⟨3, seq, leBytes 4 status⟩, rest) :=
  cut_envelope_append (by decide) (by simp [headerLength]) (by simp) rest

theorem cut_linkMessage_append (seq index : UInt32) (rest : List UInt8) :
    cut (linkMessage seq index ++ rest) = .ok (⟨16, seq, linkHeader index 0 0⟩, rest) :=
  cut_envelope_append (by decide) (by simp [headerLength, linkHeader]) (by simp [linkHeader]) rest

/-- Whatever its status, a last message is read as the end of the answer. -/
theorem readFrames_lastMessage_append (seq : UInt32) (status : Nat) (rest : List UInt8) :
    readFrames (lastMessage seq status ++ rest) = .ok (.done seq) :: readFrames rest := by
  rw [readFrames_of_cut_eq_ok (cut_lastMessage_append seq status rest)]
  simp [Frame.ofMessage, Frame.read?]

theorem readFrames_lastMessage (seq : UInt32) (status : Nat) :
    readFrames (lastMessage seq status) = [.ok (.done seq)] := by
  rw [← List.append_nil (lastMessage seq status), readFrames_lastMessage_append, readFrames_nil]

/-- A message about a link is read as the event with its number. -/
theorem readFrames_linkMessage_append (seq index : UInt32) (rest : List UInt8) :
    readFrames (linkMessage seq index ++ rest) =
      .ok (.event seq (.newLink (bareLink index))) :: readFrames rest := by
  rw [readFrames_of_cut_eq_ok (cut_linkMessage_append seq index rest)]
  simp [Frame.ofMessage, Frame.read?, readLink?, Attribute.readAll?, linkHeader, bareLink]

theorem readFrames_linkMessage (seq index : UInt32) :
    readFrames (linkMessage seq index) = [.ok (.event seq (.newLink (bareLink index)))] := by
  rw [← List.append_nil (linkMessage seq index), readFrames_linkMessage_append, readFrames_nil]

end LinkBus.Wire
