import LinkBus.Proofs.Wire.Framing

/-!
# Messages beside each other

A message that fills its bytes can stand in a datagram behind any row of whole messages and in front
of anything. It is read there as it is read alone, and so is what stands around it.
-/

namespace LinkBus.Wire

/-- The bytes that a part of the given length lacks to a multiple of four. -/
def padding (n : Nat) : Nat := align n - n

/-- A field is found in the bytes up to its end. -/
theorem field_eq_of_take_eq {bytes bytes' : List UInt8} {length offset count : Nat}
    (h : bytes.take length = bytes'.take length) (hinside : offset + count ≤ length) :
    field bytes offset count = field bytes' offset count := by
  rw [← field_take hinside, h, field_take hinside]

/-- Some bytes are one message, with nothing behind it. -/
structure Message.Fills (bytes : List UInt8) : Prop where
  /-- The header is there. -/
  header : headerLength ≤ bytes.length
  /-- The announced length is that of the bytes. -/
  length_eq : lengthAt bytes 0 = bytes.length

variable {bytes : List UInt8}

/-- A message at the front of some bytes is cut off in front of anything more as well. -/
theorem FitsAt.cut_append (h : FitsAt bytes 0) (more : List UInt8) :
    cut (bytes ++ more) =
      .ok (.ofBytes (bytesAt bytes 0), (bytes ++ more).drop (align (lengthAt bytes 0))) := by
  obtain ⟨hheader, hcovers, hinside⟩ := h
  rw [Nat.zero_add] at hheader hinside
  have hlength : lengthAt (bytes ++ more) 0 = lengthAt bytes 0 :=
    field_eq_of_take_eq (List.take_append_of_le_length hheader) (by decide)
  have hown : bytesAt (bytes ++ more) 0 = bytesAt bytes 0 := by
    rw [bytesAt, bytesAt, hlength, List.drop_zero, List.drop_zero,
      List.take_append_of_le_length hinside]
  have hfits : FitsAt (bytes ++ more) 0 := by
    have hlonger : bytes.length ≤ (bytes ++ more).length := by
      rw [List.length_append]
      exact Nat.le_add_right _ _
    exact ⟨by omega, by omega, by omega⟩
  have hcut := cut_drop_of_fitsAt hfits (Nat.dvd_zero 4)
  rwa [drop_nextStart (Nat.dvd_zero 4), List.drop_zero, hlength, hown] at hcut

/-- A message is cut off in front of anything. What is left begins behind its padding. -/
theorem Message.Fills.cut_append (h : Message.Fills bytes) (more : List UInt8) :
    cut (bytes ++ more) = .ok (.ofBytes bytes, more.drop (padding bytes.length)) := by
  have hfits : FitsAt bytes 0 :=
    ⟨by simpa using h.header, h.length_eq ▸ h.header, by simpa using Nat.le_of_eq h.length_eq⟩
  have hown : bytesAt bytes 0 = bytes := by
    rw [bytesAt, h.length_eq, List.drop_zero, List.take_length]
  have hround : align bytes.length = bytes.length + padding bytes.length := by
    simp only [padding, align]
    omega
  rw [hfits.cut_append, hown, h.length_eq, hround, ← List.drop_drop, List.drop_left]

/-- Where no padding is missing, what follows a message is followed by anything more. -/
theorem cut_append_of_aligned {rest : List UInt8} {m : Message} (h : cut bytes = .ok (m, rest))
    (haligned : 4 ∣ bytes.length) (more : List UInt8) :
    cut (bytes ++ more) = .ok (m, rest ++ more) ∧ 4 ∣ rest.length := by
  by_cases hfits : FitsAt bytes 0
  · have hcut := cut_drop_of_fitsAt hfits (Nat.dvd_zero 4)
    rw [drop_nextStart (Nat.dvd_zero 4), List.drop_zero, h] at hcut
    obtain ⟨rfl, rfl⟩ := Prod.mk.inj (Except.ok.inj hcut)
    have hinside := hfits.inside
    have hround : align (lengthAt bytes 0) ≤ bytes.length := by
      rw [align]
      omega
    refine ⟨?_, ?_⟩
    · rw [hfits.cut_append, List.drop_append_of_le_length hround]
    · rw [List.length_drop, align]
      omega
  · have hne : bytes ≠ [] := by
      rintro rfl
      cases h
    have hcut := cut_drop_of_not_fitsAt hfits (List.length_pos_iff.2 hne)
    rw [List.drop_zero, h] at hcut
    cases hcut

/-- Behind a row of whole messages that ends where a message can start, reading goes on. -/
theorem messages_append (hframed : (messages bytes).2 = none) (haligned : 4 ∣ bytes.length)
    (more : List UInt8) :
    messages (bytes ++ more) =
      ((messages bytes).1 ++ (messages more).1, (messages more).2) := by
  fun_induction messages bytes with
  | case1 bytes hempty =>
    rw [List.isEmpty_iff.1 hempty]
    rfl
  | case2 bytes hne fault hcut => cases hframed
  | case3 bytes hne m rest hcut hlt ms fault heq ih =>
    obtain ⟨hcut', hrest⟩ := cut_append_of_aligned hcut haligned more
    rw [heq] at ih
    rw [messages_of_cut_eq_ok hcut', ih hframed hrest]
    rfl

/-- A message in a datagram is read between those in front of it and those behind its padding. -/
theorem Message.Fills.messages_append (h : Message.Fills bytes) {before : List UInt8}
    (hframed : (messages before).2 = none) (haligned : 4 ∣ before.length) (more : List UInt8) :
    messages (before ++ (bytes ++ more)) =
      ((messages before).1 ++ .ofBytes bytes :: (messages (more.drop (padding bytes.length))).1,
        (messages (more.drop (padding bytes.length))).2) := by
  rw [Wire.messages_append hframed haligned, messages_of_cut_eq_ok (h.cut_append more)]

end LinkBus.Wire
