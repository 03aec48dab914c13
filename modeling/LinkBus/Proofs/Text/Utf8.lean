import LinkBus.Text.Utf8
import Mathlib.Algebra.BigOperators.Group.List.Basic

/-!
# The text of bytes

A text can be read back from its bytes. Each character is read back from its one to four bytes
whatever follows them, and each takes at least one byte, so the fuel of the reader suffices.
-/

namespace LinkBus.Text

/-! ## The bytes of a text -/

/-- The bytes of an array from some place on. -/
theorem toList_loop (bytes : ByteArray) (i : Nat) (before : List UInt8) :
    ByteArray.toList.loop bytes i before = before.reverse ++ bytes.data.toList.drop i := by
  fun_induction ByteArray.toList.loop bytes i before with
  | case1 i before h ih =>
    have hi : i < bytes.data.toList.length := by simpa using h
    rw [ih, List.drop_eq_getElem_cons hi]
    simp [ByteArray.get!, h]
  | case2 i before h =>
    rw [List.drop_eq_nil_of_le (by simpa using Nat.le_of_not_lt h)]
    simp

/-- The bytes of a text are those of its characters. -/
theorem utf8_eq_flatMap (text : String) :
    utf8 text = text.toList.flatMap String.utf8EncodeChar := by
  have hbytes : text.toByteArray = (text.toList.flatMap String.utf8EncodeChar).toByteArray := by
    have hchars := String.toByteArray_ofList (l := text.toList)
    rw [String.ofList_toList] at hchars
    exact hchars
  rw [utf8, String.toUTF8, ByteArray.toList, toList_loop, hbytes, List.toList_data_toByteArray]
  rfl

/-! ## Reading characters -/

/-- The value of a byte. -/
theorem toNat_ofNat_byte {n : Nat} (h : n < 256) : (UInt8.ofNat n).toNat = n := by
  rw [UInt8.toNat_ofNat']
  exact Nat.mod_eq_of_lt h

/-- A byte that goes on with a character has six bits of it. -/
theorem continuation?_ofNat (n : Nat) :
    continuation? (UInt8.ofNat (n % 64 + 128)) = some (n % 64) := by
  have hlow : n % 64 < 64 := Nat.mod_lt n (by decide)
  unfold continuation?
  rw [toNat_ofNat_byte (by omega), if_pos (by omega), Nat.add_sub_cancel]

/-- The scalar value of a character stands for it. -/
theorem scalar?_toNat (c : Char) {least : Nat} (h : least ≤ c.toNat) :
    scalar? least c.toNat = some c := by
  have hvalid : c.toNat.isValidChar := c.valid
  unfold scalar?
  rw [dif_pos hvalid, if_pos h]
  rfl

/-- A character is read back from its bytes. -/
theorem readChar?_utf8EncodeChar (c : Char) (rest : List UInt8) :
    readChar? (String.utf8EncodeChar c ++ rest) = some (c, rest) := by
  have hbound : c.toNat < 0x110000 := by
    obtain hlow | ⟨-, hhigh⟩ := c.valid
    · exact Nat.lt_trans hlow (by decide)
    · exact hhigh
  have hencode : String.utf8EncodeChar c = if c.toNat ≤ 127 then [UInt8.ofNat c.toNat] else
      if c.toNat ≤ 2047 then
        [UInt8.ofNat (c.toNat / 64 % 32 + 192), UInt8.ofNat (c.toNat % 64 + 128)] else
      if c.toNat ≤ 65535 then
        [UInt8.ofNat (c.toNat / 4096 % 16 + 224), UInt8.ofNat (c.toNat / 64 % 64 + 128),
          UInt8.ofNat (c.toNat % 64 + 128)]
      else
        [UInt8.ofNat (c.toNat / 262144 % 8 + 240), UInt8.ofNat (c.toNat / 4096 % 64 + 128),
          UInt8.ofNat (c.toNat / 64 % 64 + 128), UInt8.ofNat (c.toNat % 64 + 128)] := rfl
  rw [hencode]
  split
  · next hone =>
    simp only [List.cons_append, List.nil_append, readChar?]
    rw [toNat_ofNat_byte (by omega), if_pos (by omega), scalar?_toNat c (Nat.zero_le _)]
    rfl
  split
  · next hone htwo =>
    have hvalue : (c.toNat / 64 % 32 + 192 - 192) * 64 + c.toNat % 64 = c.toNat := by omega
    simp only [List.cons_append, List.nil_append, readChar?]
    rw [toNat_ofNat_byte (by omega), if_neg (by omega), if_neg (by omega), if_pos (by omega),
      continuation?_ofNat]
    simp only [Option.bind_eq_bind, Option.bind_some]
    rw [hvalue, scalar?_toNat c (by omega)]
    rfl
  split
  · next hone htwo hthree =>
    have hvalue : ((c.toNat / 4096 % 16 + 224 - 224) * 64 + c.toNat / 64 % 64) * 64 +
        c.toNat % 64 = c.toNat := by omega
    simp only [List.cons_append, List.nil_append, readChar?]
    rw [toNat_ofNat_byte (by omega), if_neg (by omega), if_neg (by omega), if_neg (by omega),
      if_pos (by omega), continuation?_ofNat, continuation?_ofNat]
    simp only [Option.bind_eq_bind, Option.bind_some]
    rw [hvalue, scalar?_toNat c (by omega)]
    rfl
  · next hone htwo hthree =>
    have hvalue : (((c.toNat / 262144 % 8 + 240 - 240) * 64 + c.toNat / 4096 % 64) * 64 +
        c.toNat / 64 % 64) * 64 + c.toNat % 64 = c.toNat := by omega
    simp only [List.cons_append, List.nil_append, readChar?]
    rw [toNat_ofNat_byte (by omega), if_neg (by omega), if_neg (by omega), if_neg (by omega),
      if_neg (by omega), if_pos (by omega), continuation?_ofNat, continuation?_ofNat,
      continuation?_ofNat]
    simp only [Option.bind_eq_bind, Option.bind_some]
    rw [hvalue, scalar?_toNat c (by omega)]
    rfl

/-! ## Reading texts -/

/-- A character is read before those that follow it. -/
theorem readChars?_of_readChar? {bytes : List UInt8} {r : Char × List UInt8} (fuel : Nat)
    (h : readChar? bytes = some r) :
    readChars? (fuel + 1) bytes = (readChars? fuel r.2).map (r.1 :: ·) := by
  cases bytes with
  | nil => cases h
  | cons byte rest =>
    rw [readChars?, h, Option.bind_some]
    exact fun h => by cases h

/-- Characters are read back from their bytes if there is fuel for each. -/
theorem readChars?_flatMap {chars : List Char} {fuel : Nat} (h : chars.length ≤ fuel) :
    readChars? fuel (chars.flatMap String.utf8EncodeChar) = some chars := by
  induction chars generalizing fuel with
  | nil => cases fuel <;> rfl
  | cons c rest ih =>
    cases fuel with
    | zero => cases h
    | succ fuel =>
      rw [List.flatMap_cons, readChars?_of_readChar? fuel (readChar?_utf8EncodeChar c _),
        ih (Nat.le_of_succ_le_succ h)]
      rfl

/-- Pieces that are not empty take at least one place each. -/
theorem length_le_length_flatMap {α β : Type} {f : α → List β} (h : ∀ a, f a ≠ [])
    (items : List α) : items.length ≤ (items.flatMap f).length := by
  have hsizes : ∀ n ∈ items.map fun a => (f a).length, 1 ≤ n := by
    intro n hn
    obtain ⟨a, -, rfl⟩ := List.mem_map.1 hn
    exact List.length_pos_iff.2 (h a)
  have hsum := List.length_le_sum_of_one_le _ hsizes
  rw [List.length_map] at hsum
  rwa [List.length_flatMap]

/-- A text is read back from its bytes. -/
theorem decodeUtf8?_utf8 (text : String) : decodeUtf8? (utf8 text) = some text.toList := by
  rw [decodeUtf8?, utf8_eq_flatMap]
  refine readChars?_flatMap (length_le_length_flatMap (fun c => ?_) text.toList)
  rw [← List.length_pos_iff, String.length_utf8EncodeChar]
  exact Char.utf8Size_pos c

end LinkBus.Text
