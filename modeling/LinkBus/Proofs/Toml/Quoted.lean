import LinkBus.Toml.Quoted
import LinkBus.Proofs.Text.Digits

/-!
# Quoted text is read as it was written

What stands between quotes is a row of pieces: a quote that ends nothing, a character that stands
for itself, and an escape. How many quotes may follow one another is counted along the way. Every
way to write a text keeps to this grammar, and both readers follow it up to the closing quotes, if
no further quote comes after these.
-/

namespace LinkBus.Toml

variable {q c : Char} {lines : Bool} {most run : Nat} {written text rest : List Char}

/-! ## The grammar of quoted text -/

/-- What stands after a backslash for a character, whatever follows. It does not continue a line. -/
structure Escape (written : List Char) (c : Char) : Prop where
  escaped : ∀ rest, escaped? (written ++ rest) = some (c, rest)
  continued : ∀ rest, continued? (written ++ rest) = none

/-- What stands between quotes for a text. At most `most` quotes may follow one another, of which
`run` have been written before; line feeds may stand for themselves if `lines` holds. -/
inductive Body (q : Char) (lines : Bool) (most : Nat) : (run : Nat) → (written text : List Char) →
    Prop
  /-- Nothing stands for the empty text. -/
  | done {run : Nat} : Body q lines most run [] []
  /-- A quote that does not end the text. -/
  | quote {run : Nat} {written text : List Char} (hrun : run < most)
      (tail : Body q lines most (run + 1) written text) :
      Body q lines most run (q :: written) (q :: text)
  /-- A character that stands for itself. -/
  | plain {run : Nat} {c : Char} {written text : List Char} (hne : c ≠ q)
      (hbackslash : ¬ (c = '\\' ∧ q = '"')) (hplain : isPlain c = true ∨ lines = true ∧ c = '\n')
      (tail : Body q lines most 0 written text) :
      Body q lines most run (c :: written) (c :: text)
  /-- An escape, which only double quotes have. -/
  | escape {run : Nat} {piece : List Char} {c : Char} {written text : List Char} (hq : q = '"')
      (hpiece : Escape piece c) (tail : Body q lines most 0 written text) :
      Body q lines most run ('\\' :: (piece ++ written)) (c :: text)

/-- A text is not longer than what stands for it. -/
theorem Body.length_le (h : Body q lines most run written text) :
    text.length ≤ written.length := by
  induction h with
  | done => exact Nat.le_refl 0
  | quote _ _ ih | plain _ _ _ _ ih => exact Nat.succ_le_succ ih
  | escape _ _ _ ih =>
    rw [List.length_cons, List.length_cons, List.length_append]
    omega

/-! ## Runs of quotes -/

@[simp] theorem runOf_nil (c : Char) : runOf c [] = 0 := rfl

@[simp] theorem runOf_cons_self (c : Char) (text : List Char) :
    runOf c (c :: text) = runOf c text + 1 := by
  simp [runOf]

theorem runOf_cons_of_ne {a : Char} (h : a ≠ c) (text : List Char) : runOf c (a :: text) = 0 := by
  simp [runOf, h]

theorem runOf_replicate_append (n : Nat) (text : List Char) :
    runOf c (List.replicate n c ++ text) = n + runOf c text := by
  induction n with
  | zero => rw [List.replicate_zero, List.nil_append, Nat.zero_add]
  | succ n ih =>
    rw [List.replicate_succ, List.cons_append, runOf_cons_self, ih]
    omega

/-- What stands for a text consists of quotes only, or begins with few enough of them. -/
theorem Body.run_le (h : Body q lines most run written text) (hrun : run ≤ most) :
    (∃ n, n + run ≤ most ∧ written = List.replicate n q ∧ text = List.replicate n q) ∨
      ∀ rest, runOf q (written ++ rest) + run ≤ most := by
  induction h with
  | done => exact Or.inl ⟨0, by omega, rfl, rfl⟩
  | quote hlt _ ih =>
    obtain ⟨n, hn, rfl, rfl⟩ | hfew := ih hlt
    · exact Or.inl ⟨n + 1, by omega, rfl, rfl⟩
    · refine Or.inr fun rest => ?_
      rw [List.cons_append, runOf_cons_self]
      have := hfew rest
      omega
  | plain hne =>
    refine Or.inr fun rest => ?_
    rw [List.cons_append, runOf_cons_of_ne hne]
    omega
  | escape hq =>
    refine Or.inr fun rest => ?_
    rw [List.cons_append, runOf_cons_of_ne (by rw [hq]; decide)]
    omega

/-! ## Reading -/

/-- A line of text is read up to its quote. -/
theorem readLine?_body {fuel : Nat} (h : Body q false 0 run written text)
    (hfuel : text.length < fuel) :
    readLine? q fuel (written ++ q :: rest) = some (text, rest) := by
  induction h generalizing fuel with
  | done =>
    obtain ⟨fuel, rfl⟩ := Nat.exists_eq_add_one.2 (Nat.zero_lt_of_lt hfuel)
    simp [readLine?]
  | quote hlt => exact absurd hlt (Nat.not_lt_zero _)
  | plain hne hbackslash hplain _ ih =>
    obtain ⟨fuel, rfl⟩ := Nat.exists_eq_add_one.2 (Nat.zero_lt_of_lt hfuel)
    have hplain := hplain.resolve_right fun h => by cases h.1
    rw [List.cons_append, readLine?, if_neg hne, if_neg hbackslash, if_pos hplain,
      ih (Nat.lt_of_succ_lt_succ hfuel)]
    rfl
  | escape hq hpiece _ ih =>
    obtain ⟨fuel, rfl⟩ := Nat.exists_eq_add_one.2 (Nat.zero_lt_of_lt hfuel)
    rw [List.cons_append, List.append_assoc, readLine?, if_neg (by rw [hq]; decide),
      if_pos ⟨rfl, hq⟩, hpiece.escaped, Option.bind_eq_bind, Option.bind_some]
    simp only
    rw [ih (Nat.lt_of_succ_lt_succ hfuel)]
    rfl

/-- Of the quotes at the end of a text the last three close it. -/
theorem readLines?_close {fuel n : Nat} (hn : n ≤ 2) (hrest : runOf q rest = 0)
    (hfuel : 0 < fuel) :
    readLines? q fuel (List.replicate n q ++ (List.replicate 3 q ++ rest)) =
      some (List.replicate n q, rest) := by
  obtain ⟨fuel, rfl⟩ := Nat.exists_eq_add_one.2 (Nat.zero_lt_of_lt hfuel)
  have hrun : runOf q (List.replicate (n + 3) q ++ rest) = n + 3 := by
    rw [runOf_replicate_append, hrest, Nat.add_zero]
  have hcons : List.replicate (n + 3) q ++ rest = q :: (List.replicate (n + 2) q ++ rest) := rfl
  rw [← List.append_assoc, List.replicate_append_replicate, hcons, readLines?, if_pos rfl, ← hcons,
    hrun]
  simp only
  rw [if_neg (by omega), if_pos (by omega), Nat.add_sub_cancel, List.drop_left' (by simp)]

/-- Lines of text are read up to their quotes. -/
theorem readLines?_body {fuel : Nat} (h : Body q true 2 run written text) (hrun : run ≤ 2)
    (hrest : runOf q rest = 0) (hfuel : text.length < fuel) :
    readLines? q fuel (written ++ (List.replicate 3 q ++ rest)) = some (text, rest) := by
  induction h generalizing fuel with
  | done => exact readLines?_close (Nat.zero_le 2) hrest hfuel
  | @quote run written text hlt tail ih =>
    obtain ⟨n, hn, hwritten, htext⟩ | hfew := (Body.quote hlt tail).run_le hrun
    · rw [hwritten, htext]
      exact readLines?_close (by omega) hrest (by omega)
    · obtain ⟨fuel, rfl⟩ := Nat.exists_eq_add_one.2 (Nat.zero_lt_of_lt hfuel)
      have hle := hfew (List.replicate 3 q ++ rest)
      rw [List.cons_append] at hle
      rw [List.cons_append, readLines?, if_pos rfl]
      simp only
      rw [if_pos (by omega), ih hlt (Nat.lt_of_succ_lt_succ hfuel)]
      rfl
  | @plain run c written text hne hbackslash hplain _ ih =>
    obtain ⟨fuel, rfl⟩ := Nat.exists_eq_add_one.2 (Nat.zero_lt_of_lt hfuel)
    have hstands : isPlain c = true ∨
        (lineEnd? (c :: (written ++ (List.replicate 3 q ++ rest)))).isSome = true := by
      obtain hplain | ⟨-, rfl⟩ := hplain
      · exact Or.inl hplain
      · exact Or.inr rfl
    rw [List.cons_append, readLines?, if_neg hne, if_neg hbackslash, if_pos hstands,
      ih (Nat.zero_le 2) (Nat.lt_of_succ_lt_succ hfuel)]
    rfl
  | escape hq hpiece _ ih =>
    obtain ⟨fuel, rfl⟩ := Nat.exists_eq_add_one.2 (Nat.zero_lt_of_lt hfuel)
    rw [List.cons_append, List.append_assoc, readLines?, if_neg (by rw [hq]; decide),
      if_pos ⟨rfl, hq⟩, hpiece.continued]
    simp only
    rw [hpiece.escaped, Option.bind_eq_bind, Option.bind_some]
    simp only
    rw [ih (Nat.zero_le 2) (Nat.lt_of_succ_lt_succ hfuel)]
    rfl

/-- A quoted line is read if no quote follows it. -/
theorem quoted?_line (h : Body q false 0 0 written text) (hrest : runOf q rest = 0) :
    quoted? true ([q] ++ written ++ [q] ++ rest) = some (text, rest) := by
  have hfew : runOf q (written ++ q :: rest) ≤ 1 := by
    obtain ⟨n, hn, rfl, -⟩ | hfew := h.run_le (Nat.zero_le 0)
    · rw [runOf_replicate_append, runOf_cons_self]
      omega
    · exact Nat.le_trans (hfew _) (Nat.zero_le 1)
  have htext : [q] ++ written ++ [q] ++ rest = q :: (written ++ q :: rest) := by simp
  rw [htext, quoted?, if_neg]
  · have hlength := h.length_le
    refine readLine?_body h ?_
    rw [List.length_append]
    omega
  · rw [runOf_cons_self]
    omega

/-- What stands between quotes for a text without line feeds does not begin with a line end. -/
theorem Body.lineEnd?_append (h : Body q true most run written text) (hlines : '\n' ∉ text)
    (hrest : lineEnd? rest = none) (hq : ∀ more, lineEnd? (q :: more) = none) :
    lineEnd? (written ++ rest) = none := by
  cases h with
  | done => exact hrest
  | quote => exact hq _
  | @plain _ c _ _ _ _ hplain =>
    have hfeed : c ≠ '\n' := fun h => hlines (h ▸ List.mem_cons_self)
    have hreturn : c ≠ '\r' := by
      rintro rfl
      exact absurd (hplain.resolve_right fun h => hfeed h.2) (by decide)
    simp [lineEnd?, hfeed, hreturn]
  | escape => rfl

/-- A text between tripled quotes is read if no quote follows it. -/
theorem quoted?_tripled {hasLines : Bool} (h : Body q true 2 0 written text)
    (hlines : hasLines = false → '\n' ∉ text) (hq : ∀ more, lineEnd? (q :: more) = none)
    (hrest : runOf q rest = 0) :
    quoted? true (tripled q hasLines written ++ rest) = some (text, rest) := by
  have hbody : (lineEnd? ((if hasLines then ['\n'] else []) ++
      (written ++ (List.replicate 3 q ++ rest)))).getD ((if hasLines then ['\n'] else []) ++
        (written ++ (List.replicate 3 q ++ rest))) = written ++ (List.replicate 3 q ++ rest) := by
    cases hasLines with
    | true => rfl
    | false =>
      have hnone : lineEnd? (written ++ (List.replicate 3 q ++ rest)) = none :=
        h.lineEnd?_append (hlines rfl) (hq _) hq
      simp only [Bool.false_eq_true, if_false, List.nil_append, hnone, Option.getD_none]
  have htext : tripled q hasLines written ++ rest = q :: q :: q ::
      ((if hasLines then ['\n'] else []) ++ (written ++ (List.replicate 3 q ++ rest))) := by
    simp [tripled]
  have hlength := h.length_le
  rw [htext, quoted?, if_pos]
  · simp only [List.drop_succ_cons, List.drop_zero]
    rw [hbody]
    refine readLines?_body h (Nat.zero_le 2) hrest ?_
    simp only [List.length_append]
    omega
  · refine ⟨rfl, ?_⟩
    simp only [runOf_cons_self]
    omega

/-! ## Escapes -/

/-- Four hexadecimal digits stand for the number that they were made from. -/
theorem readNumber?_fourDigits {n : Nat} (h : n < 65536) :
    Text.readNumber? 16 (fourDigits n) = some n := by
  have hlow : ∀ k, k % 16 < 16 := fun k => Nat.mod_lt k (by decide)
  simp only [fourDigits, Text.readNumber?, Text.readDigits, Text.digitValue?_upperDigit (hlow _),
    Option.bind_some, Option.some.injEq]
  omega

/-- A character is found under its number. -/
theorem Escape.of_number (h : c.toNat < 65536) : Escape ('u' :: fourDigits c.toNat) c where
  escaped rest := by
    have hvalid : c.toNat.isValidChar := c.valid
    have hread : numbered? 4 (fourDigits c.toNat ++ rest) = some (c, rest) := by
      have htake : (fourDigits c.toNat ++ rest).take 4 = fourDigits c.toNat := rfl
      have hlength : (fourDigits c.toNat).length = 4 := rfl
      rw [numbered?, htake, if_pos hlength, readNumber?_fourDigits h, Option.bind_some,
        dif_pos hvalid]
      rfl
    exact hread
  continued rest := rfl

/-- A character that is no control stands for itself, or is a line feed. -/
theorem isPlain_of_not_isControl (h : isControl c = false) : isPlain c = true ∨ c = '\n' := by
  simp only [isControl, isPlain, Bool.or_eq_false_iff, Bool.and_eq_false_iff,
    decide_eq_false_iff_not, Bool.or_eq_true, Bool.and_eq_true, decide_eq_true_eq] at h ⊢
  obtain ⟨(hlow | htab) | hfeed, hdelete⟩ := h
  · exact Or.inl (Or.inr ⟨by omega, hdelete⟩)
  · exact Or.inl (Or.inl (Classical.not_not.1 htab))
  · exact Or.inr (Classical.not_not.1 hfeed)

/-- An escape may be a single letter. -/
theorem Body.letter (a : Char) (hescaped : ∀ rest, escaped? (a :: rest) = some (c, rest))
    (hcontinued : ∀ rest, continued? (a :: rest) = none)
    (tail : Body '"' lines most 0 written text) :
    Body '"' lines most run ('\\' :: a :: written) (c :: text) :=
  have hpiece : Escape [a] c := ⟨hescaped, hcontinued⟩
  .escape rfl hpiece tail

/-- What stands for a character between double quotes where escapes are used. -/
theorem Body.escapeChar (hne : c ≠ '"') (hfeed : c = '\n' → lines = true)
    (tail : Body '"' lines most 0 written text) :
    Body '"' lines most run (escapeChar c ++ written) (c :: text) := by
  unfold Toml.escapeChar
  split
  · next h =>
    subst h
    exact .letter 'b' (fun _ => rfl) (fun _ => rfl) tail
  split
  · next h =>
    subst h
    exact .letter 't' (fun _ => rfl) (fun _ => rfl) tail
  split
  · next h =>
    subst h
    exact .letter 'f' (fun _ => rfl) (fun _ => rfl) tail
  split
  · next h =>
    subst h
    exact .letter 'r' (fun _ => rfl) (fun _ => rfl) tail
  split
  · next h =>
    subst h
    exact .letter '\\' (fun _ => rfl) (fun _ => rfl) tail
  split
  · next hcontrol =>
    have hsmall : c.toNat < 65536 := by
      simp only [isControl, Bool.or_eq_true, Bool.and_eq_true, decide_eq_true_eq] at hcontrol
      omega
    exact .escape rfl (Escape.of_number hsmall) tail
  · next hbackslash hcontrol =>
    refine .plain hne (fun h => hbackslash h.1) ?_ tail
    exact (isPlain_of_not_isControl (by simpa using hcontrol)).imp_right fun h => ⟨hfeed h, h⟩

/-- Writing with escapes keeps to the grammar. -/
theorem body_escapeAll (lines : Bool) (most run : Nat) (text : List Char) :
    Body '"' lines most run (escapeAll lines most run text) text := by
  induction text generalizing run with
  | nil => exact .done
  | cons c text ih =>
    unfold escapeAll
    split
    · next h =>
      subst h
      split
      · next hlt => exact .quote hlt (ih (run + 1))
      · exact .letter '"' (fun _ => rfl) (fun _ => rfl) (ih 0)
    · next hne =>
      split
      · next h =>
        obtain ⟨rfl, -⟩ := h
        exact .letter 'n' (fun _ => rfl) (fun _ => rfl) (ih 0)
      · next hfeed => exact .escapeChar hne (fun h => by simpa [h] using hfeed) (ih 0)

/-! ## Text that stands for itself -/

/-- A run at the beginning is not longer than the longest one. -/
theorem runOf_le_longestRun (c : Char) (text : List Char) : runOf c text ≤ longestRun c text := by
  cases text with
  | nil => exact Nat.le_refl 0
  | cons a rest => exact Nat.le_max_left ..

/-- Between single quotes a text stands for itself if its quotes are few enough and nothing in it is
a control. -/
theorem body_self (hcontrols : text.any isControl = false) (hlines : '\n' ∈ text → lines = true)
    (hfirst : runOf '\x27' text + run ≤ most) (hlongest : longestRun '\x27' text ≤ most) :
    Body '\x27' lines most run text text := by
  induction text generalizing run with
  | nil => exact .done
  | cons c text ih =>
    rw [List.any_cons, Bool.or_eq_false_iff] at hcontrols
    have hlines' : '\n' ∈ text → lines = true := fun h => hlines (List.mem_cons_of_mem c h)
    have hlongest' : longestRun '\x27' text ≤ most := Nat.le_trans (Nat.le_max_right ..) hlongest
    by_cases hc : c = '\x27'
    · subst hc
      rw [runOf_cons_self] at hfirst
      exact .quote (by omega) (ih hcontrols.2 hlines' (by omega) hlongest')
    · refine .plain hc (fun h => absurd h.2 (by decide)) ?_
        (ih hcontrols.2 hlines' (Nat.le_trans (runOf_le_longestRun _ text) hlongest') hlongest')
      obtain hplain | rfl := isPlain_of_not_isControl hcontrols.1
      · exact Or.inl hplain
      · exact Or.inr ⟨hlines List.mem_cons_self, rfl⟩

/-! ## Writing -/

/-- A text is read back from what is written for it, if no quote follows. -/
theorem quoted?_quote (text : List Char) (hdouble : runOf '"' rest = 0)
    (hsingle : runOf '\x27' rest = 0) : quoted? true (quote text ++ rest) = some (text, rest) := by
  have hline : quoted? true (['"'] ++ escapeAll false 0 0 text ++ ['"'] ++ rest) =
      some (text, rest) := quoted?_line (body_escapeAll false 0 0 text) hdouble
  have hlines : quoted? true (tripled '"' (text.contains '\n') (escapeAll true 2 0 text) ++ rest) =
      some (text, rest) :=
    quoted?_tripled (body_escapeAll true 2 0 text) (by simp) (fun _ => rfl) hdouble
  unfold quote
  simp only
  split
  · exact hline
  split
  · next h =>
    simp only [Bool.and_eq_true, Bool.not_eq_true', decide_eq_true_eq] at h
    obtain ⟨⟨hcontrols, hsingles⟩, hfeeds⟩ := h
    have hnone : runOf '\x27' text = 0 := Nat.le_zero.1 (hsingles ▸ runOf_le_longestRun _ text)
    refine quoted?_line (body_self hcontrols (fun hmem => ?_) (Nat.le_of_eq hnone)
      (Nat.le_of_eq hsingles)) hsingle
    rw [List.contains_iff_mem.2 hmem] at hfeeds
    cases hfeeds
  split
  · exact hlines
  split
  · next h =>
    simp only [Bool.and_eq_true, Bool.not_eq_true', decide_eq_true_eq] at h
    refine quoted?_tripled (body_self h.1 (fun _ => rfl) ?_ h.2) (by simp) (fun _ => rfl) hsingle
    exact Nat.le_trans (runOf_le_longestRun _ text) h.2
  split
  · exact hlines
  · exact hline

end LinkBus.Toml
