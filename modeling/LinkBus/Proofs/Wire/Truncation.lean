import LinkBus.Proofs.Wire.Framing

/-!
# Truncated datagrams

A datagram that is cut short loses messages at its end, and no other messages appear in it.
-/

namespace LinkBus.Wire

/-- A message that can be cut off the beginning of some bytes can be cut off all of them. -/
theorem cut_of_cut_take {bytes rest : List UInt8} {n : Nat} {m : Message}
    (h : cut (bytes.take n) = .ok (m, rest)) :
    ∃ whole k, cut bytes = .ok (m, whole) ∧ rest = whole.take k := by
  unfold cut at h ⊢
  split at h
  · cases h
  · next hheader =>
    rw [List.length_take] at hheader
    have hsize : headerLength = 16 := rfl
    have hfield : ∀ offset count, offset + count ≤ headerLength →
        field (bytes.take n) offset count = field bytes offset count := fun offset count hle =>
      field_take (by omega)
    rw [hfield 0 4 (by omega), hfield 4 2 (by omega), hfield 8 4 (by omega)] at h
    rw [if_neg (by omega)]
    simp only at h ⊢
    split at h
    · cases h
    · next hcovers =>
      split at h
      · cases h
      · next hinside =>
        rw [List.length_take] at hinside
        rw [if_neg hcovers, if_neg (by omega)]
        obtain ⟨rfl, rfl⟩ := Prod.mk.inj (Except.ok.inj h)
        refine ⟨_, n - align (field bytes 0 4), ?_, List.drop_take⟩
        rw [List.take_take, Nat.min_eq_left (by omega)]

/-- The messages of a truncated datagram are the first ones of the datagram. -/
theorem messages_take_prefix (bytes : List UInt8) (n : Nat) :
    (messages (bytes.take n)).1 <+: (messages bytes).1 := by
  generalize hshort : bytes.take n = short
  fun_induction messages short generalizing bytes n with
  | case1 => exact List.nil_prefix
  | case2 => exact List.nil_prefix
  | case3 short hne m rest hcut hlt ms fault heq ih =>
    subst hshort
    obtain ⟨whole, k, hwhole, rfl⟩ := cut_of_cut_take hcut
    rw [messages_of_cut_eq_ok hwhole]
    have hprefix := ih whole k rfl
    rw [heq] at hprefix
    exact (List.prefix_cons_inj m).2 hprefix

/-- A frame that is read from a truncated datagram is read from the datagram. -/
theorem mem_readFrames_of_take {bytes : List UInt8} {n : Nat} {frame : Frame}
    (h : .ok frame ∈ readFrames (bytes.take n)) : .ok frame ∈ readFrames bytes := by
  obtain ⟨more, hmore⟩ := messages_take_prefix bytes n
  obtain ⟨m, hm, hframe⟩ := ok_mem_readFrames_iff.1 h
  exact ok_mem_readFrames_iff.2 ⟨m, hmore ▸ List.mem_append_left more hm, hframe⟩

end LinkBus.Wire
