import LinkBus.Toml.Document
import LinkBus.Toml.Writer
import LinkBus.Proofs.Text.Utf8
import LinkBus.Proofs.Toml.Quoted

/-!
# Values are read as they were written

A number, a truth value, a text and a list of texts are each read back from what is written for
them, up to the text that follows. Items of a list stand on lines of their own, so the reader passes
over the indentation before each, and its fuel is at least the number of lines.
-/

namespace LinkBus.Toml

variable {c : Char} {fuel room : Nat} {text rest : List Char}

/-! ## Numbers -/

/-- The digits of a number are digits. -/
theorem isDigit_of_mem_decimal {n : Nat} (h : c ∈ Text.decimal n) : isDigit c = true := by
  obtain ⟨d, hd, rfl⟩ := Text.mem_decimal h
  rw [isDigit, Text.digitValue?_lowerDigit hd]
  rfl

/-- Digits without underscores stay as they are. -/
theorem plainDigits?_eq_self (hne : text ≠ []) (hdigits : ∀ c ∈ text, isDigit c = true) :
    plainDigits? 10 text = some text := by
  induction text with
  | nil => exact absurd rfl hne
  | cons c rest ih =>
    have hc : (Text.digitValue? 10 c).isSome = true := hdigits c List.mem_cons_self
    have hrest : ∀ c ∈ rest, isDigit c = true := fun a ha => hdigits a (List.mem_cons_of_mem c ha)
    cases rest with
    | nil => rw [plainDigits?, if_pos hc]
    | cons a rest =>
      have hunderscore : a ≠ '_' := by
        rintro rfl
        exact absurd (hrest '_' List.mem_cons_self) (by decide)
      rw [plainDigits?, if_pos hc, ih (List.cons_ne_nil a rest) hrest]
      · rfl
      · simp
      · simp [hunderscore]

/-- The digits of a number have no leading zero. -/
theorem wholePart?_decimal (n : Nat) : wholePart? (Text.decimal n) = some (Text.decimal n) := by
  rw [wholePart?, plainDigits?_eq_self (Text.decimal_ne_nil n) fun _ => isDigit_of_mem_decimal,
    Option.filter_some, if_pos]
  obtain rfl | hpos := Nat.eq_zero_or_pos n
  · have hzero : Text.decimal 0 = ['0'] := by
      unfold Text.decimal
      rfl
    rw [hzero]
    rfl
  · obtain ⟨d, rest, hdigits, hd⟩ := Text.decimal_eq_cons hpos
    have hzero : Text.lowerDigit d ≠ '0' := by
      intro heq
      have hvalue := Text.digitValue?_lowerDigit hd.2
      rw [heq, show Text.digitValue? 10 '0' = some 0 from rfl] at hvalue
      exact absurd (Option.some.inj hvalue) (Nat.ne_of_lt hd.1)
    rw [hdigits, List.head?_cons]
    simp [hzero]

/-- A number is read back from its digits. -/
theorem integer?_decimal (n : Nat) : integer? (Text.decimal n) = some (n : Int) := by
  have hdigits : ∀ c ∈ Text.decimal n, isDigit c = true := fun _ => isDigit_of_mem_decimal
  have hread := Text.readNumber?_decimal n
  have hwhole := wholePart?_decimal n
  generalize Text.decimal n = digits at hdigits hread hwhole
  have hsign : splitSign digits = (false, digits) := by
    unfold splitSign
    split
    · exact absurd (hdigits '-' List.mem_cons_self) (by decide)
    · exact absurd (hdigits '+' List.mem_cons_self) (by decide)
    · rfl
  unfold integer?
  split
  · exact absurd (hdigits 'x' (by simp)) (by decide)
  · exact absurd (hdigits 'o' (by simp)) (by decide)
  · exact absurd (hdigits 'b' (by simp)) (by decide)
  · rw [hsign]
    simp only
    rw [hwhole, Option.bind_some, hread]
    rfl

/-- A number of at most 128 bits is read as an integer. -/
theorem scalar?_decimal {n : Nat} (h : n < 2 ^ 128) :
    scalar? (Text.decimal n) = some (.integer n) := by
  have hfits : fitsWord n = true := by
    simp only [fitsWord, Bool.and_eq_true, decide_eq_true_eq]
    have hpow : Int.pow 2 128 = ((2 ^ 128 : Nat) : Int) := by decide
    have hneg : -Int.pow 2 127 ≤ 0 := by decide
    omega
  have hdigits : ∀ c ∈ Text.decimal n, isDigit c = true := fun _ => isDigit_of_mem_decimal
  have htrue : Text.decimal n ≠ "true".toList := fun heq =>
    absurd (hdigits 't' (heq ▸ by decide)) (by decide)
  have hfalse : Text.decimal n ≠ "false".toList := fun heq =>
    absurd (hdigits 'f' (heq ▸ by decide)) (by decide)
  rw [scalar?, if_neg htrue, if_neg hfalse, integer?_decimal]
  simp only
  rw [if_pos hfits]

/-! ## Scalars and texts -/

/-- A word is split off the rest of its line. -/
theorem splitScalar_word {word : List Char} (hword : ∀ c ∈ word, isScalarChar c = true) :
    splitScalar (word ++ '\n' :: rest) = (word, '\n' :: rest) := by
  have htake : (word ++ '\n' :: rest).takeWhile isScalarChar = word := by
    rw [List.takeWhile_append_of_pos hword, List.takeWhile_cons_of_neg (by decide), List.append_nil]
  rw [splitScalar]
  simp only [htake, List.drop_left]
  rfl

/-- A word without quotes and brackets is read as a scalar. -/
theorem value?_word {word : List Char} {node : Node} (hne : word ≠ [])
    (hword : ∀ c ∈ word, isScalarChar c = true) (hscalar : scalar? word = some node) :
    value? (fuel + 1) room (word ++ '\n' :: rest) = some (node, '\n' :: rest) := by
  obtain ⟨c, tail, rfl⟩ := List.exists_cons_of_ne_nil hne
  have hother : ∀ a, isScalarChar a = false → c ≠ a := by
    rintro a ha rfl
    rw [hword c List.mem_cons_self] at ha
    cases ha
  have hquote : ¬ (c = '"' ∨ c = '\x27') :=
    not_or.2 ⟨hother '"' (by decide), hother '\x27' (by decide)⟩
  rw [List.cons_append, value?, if_neg hquote, if_neg (hother '[' (by decide)),
    if_neg (hother '\x7b' (by decide)), ← List.cons_append, splitScalar_word hword]
  simp only
  rw [hscalar]
  rfl

/-- What is written for a text begins with a quote. -/
theorem quote_eq_cons (text : List Char) :
    ∃ q tail, quote text = q :: tail ∧ (q = '"' ∨ q = '\x27') := by
  unfold quote
  simp only
  split
  · exact ⟨_, _, rfl, Or.inl rfl⟩
  split
  · exact ⟨_, _, rfl, Or.inr rfl⟩
  split
  · exact ⟨_, _, rfl, Or.inl rfl⟩
  split
  · exact ⟨_, _, rfl, Or.inr rfl⟩
  split
  · exact ⟨_, _, rfl, Or.inl rfl⟩
  · exact ⟨_, _, rfl, Or.inl rfl⟩

/-- A text is read back if a character other than a quote follows. -/
theorem value?_text (fuel room : Nat) (s : String) (rest : List Char) (hdouble : c ≠ '"')
    (hsingle : c ≠ '\x27') :
    value? (fuel + 1) room (writeText s ++ c :: rest) = some (.text s, c :: rest) := by
  obtain ⟨q, tail, hquote, hq⟩ := quote_eq_cons s.toList
  have hread : quoted? true (quote s.toList ++ c :: rest) = some (s.toList, c :: rest) :=
    quoted?_quote s.toList (runOf_cons_of_ne hdouble rest) (runOf_cons_of_ne hsingle rest)
  rw [writeText]
  rw [hquote, List.cons_append] at hread ⊢
  rw [value?, if_pos hq, hread, Option.map_some, String.ofList_toList]

/-! ## Lists of texts -/

/-- Whether the reader of blank lines stops at a character. -/
def isSolid (c : Char) : Bool := !(isSpace c || c = '#' || c = '\n' || c = '\r')

/-- Nothing is passed over before a character that is neither blank nor begins a comment. -/
theorem skipBlankLines?_solid (h : isSolid c = true) :
    skipBlankLines? (fuel + 1) (c :: rest) = some (c :: rest) := by
  simp only [isSolid, Bool.not_eq_true', Bool.or_eq_false_iff, decide_eq_false_iff_not] at h
  obtain ⟨⟨⟨hspace, hcomment⟩, hfeed⟩, hreturn⟩ := h
  have hskip : skipSpaces (c :: rest) = c :: rest := by simp [skipSpaces, hspace]
  have hnone : skipComment? (c :: rest) = some (c :: rest) := by simp [skipComment?, hcomment]
  have hend : lineEnd? (c :: rest) = none := by simp [lineEnd?, hfeed, hreturn]
  rw [skipBlankLines?, hskip, hnone, Option.bind_eq_bind, Option.bind_some, hend]

/-- Spaces at the beginning are skipped. -/
theorem skipSpaces_replicate_append (n : Nat) (text : List Char) :
    skipSpaces (List.replicate n ' ' ++ text) = skipSpaces text := by
  induction n with
  | zero => rfl
  | succ n ih => exact ih

/-- A line feed is passed over. -/
theorem skipBlankLines?_feed (fuel : Nat) (text : List Char) :
    skipBlankLines? (fuel + 1) ('\n' :: text) = skipBlankLines? fuel text := rfl

/-- Nothing is passed over before a character that begins something. -/
theorem skipFiller?_solid (h : isSolid c = true) :
    skipFiller? (c :: rest) = some (c :: rest) := skipBlankLines?_solid h

/-- A line feed and the spaces after it are passed over. -/
theorem skipFiller?_indented (n : Nat) (h : isSolid c = true) :
    skipFiller? ('\n' :: (List.replicate n ' ' ++ c :: rest)) = some (c :: rest) := by
  have hsame : ∀ fuel, skipBlankLines? (fuel + 1) (List.replicate n ' ' ++ c :: rest) =
      skipBlankLines? (fuel + 1) (c :: rest) := fun fuel => by
    rw [skipBlankLines?, skipSpaces_replicate_append, ← skipBlankLines?]
  rw [skipFiller?, List.length_cons, skipBlankLines?_feed, hsame, skipBlankLines?_solid h]

/-- A quote does not close a list. -/
theorem ne_bracket_of_quote (h : c = '"' ∨ c = '\x27') : c ≠ ']' := by
  rintro rfl
  exact absurd h (by decide)

/-- A quote begins something. -/
theorem isSolid_of_quote (h : c = '"' ∨ c = '\x27') : isSolid c = true := by
  obtain rfl | rfl := h <;> decide

section Items

variable {after more : List Char} {item : Node}

/-- A list ends at its bracket. -/
theorem items?_close (hskip : skipFiller? text = some (']' :: rest)) :
    items? (fuel + 1) room text = some ([], rest) := by
  rw [items?, hskip]
  rfl

/-- After an item and a comma a list goes on. -/
theorem items?_item (hskip : skipFiller? text = some (c :: more)) (hne : c ≠ ']')
    (hitem : value? fuel room (c :: more) = some (item, after))
    (hafter : skipFiller? after = some (',' :: rest)) :
    items? (fuel + 1) room text = (items? fuel room rest).map fun r => (item :: r.1, r.2) := by
  rw [items?, hskip]
  simp only [Option.bind_eq_bind, Option.bind_some]
  split
  · next heq => exact absurd (List.cons.inj heq).1 hne
  · rw [hitem]
    simp only [Option.bind_some]
    rw [hafter]
    simp only [Option.bind_some]
    cases items? fuel room rest <;> rfl

/-- The last item of a list needs no comma. -/
theorem items?_last (hskip : skipFiller? text = some (c :: more)) (hne : c ≠ ']')
    (hitem : value? fuel room (c :: more) = some (item, after))
    (hafter : skipFiller? after = some (']' :: rest)) :
    items? (fuel + 1) room text = some ([item], rest) := by
  rw [items?, hskip]
  simp only [Option.bind_eq_bind, Option.bind_some]
  split
  · next heq => exact absurd (List.cons.inj heq).1 hne
  · rw [hitem]
    simp only [Option.bind_some]
    rw [hafter]
    rfl

end Items

/-- The items of a list are read line by line, if there is fuel for each. -/
theorem items?_lines (items : List String) (hfuel : items.length < fuel) :
    items? fuel room ('\n' :: (items.flatMap writeItem ++ ']' :: rest)) =
      some (items.map .text, rest) := by
  induction items generalizing fuel with
  | nil =>
    obtain ⟨fuel, rfl⟩ := Nat.exists_eq_add_one.2 (Nat.zero_lt_of_lt hfuel)
    exact items?_close (skipFiller?_indented 0 (by decide))
  | cons s items ih =>
    obtain ⟨fuel, rfl⟩ : ∃ n, fuel = n + 2 := ⟨fuel - 2, by
      rw [List.length_cons] at hfuel
      omega⟩
    obtain ⟨q, tail, hquote, hq⟩ := quote_eq_cons s.toList
    have hsolid := isSolid_of_quote hq
    have hne : q ≠ ']' := ne_bracket_of_quote hq
    have htext : '\n' :: ((s :: items).flatMap writeItem ++ ']' :: rest) =
        '\n' :: (List.replicate 4 ' ' ++ (writeText s ++
          ',' :: '\n' :: (items.flatMap writeItem ++ ']' :: rest))) := by
      have hindent : "    ".toList = List.replicate 4 ' ' := by decide
      simp only [List.flatMap_cons, writeItem, hindent, List.append_assoc, List.cons_append,
        List.nil_append]
    have hread := value?_text fuel room (c := ',') s
      ('\n' :: (items.flatMap writeItem ++ ']' :: rest)) (by decide) (by decide)
    rw [htext]
    rw [writeText, hquote, List.cons_append] at hread ⊢
    rw [items?_item (skipFiller?_indented 4 hsolid) hne hread (skipFiller?_solid (by decide)),
      ih (Nat.lt_of_succ_lt_succ hfuel)]
    rfl

/-! ## Plain values -/

/-- The node that a plain value is read as. -/
def Plain.toNode : Plain → Node
  | .boolean b => .boolean b
  | .number n => .integer n
  | .text s => .text s
  | .texts items => .array (items.map .text)

/-- A number of a plain value has a place among the words of 128 bits. -/
def Plain.Fits : Plain → Prop
  | .number n => n < 2 ^ 128
  | _ => True

/-- A list is read from its bracket. -/
theorem value?_array {items : List Node} (h : items? fuel room text = some (items, rest)) :
    value? (fuel + 1) (room + 1) ('[' :: text) = some (.array items, rest) := by
  rw [value?, if_neg (by decide), if_pos rfl, if_neg (Nat.succ_ne_zero room),
    Nat.add_sub_cancel, h]
  rfl

/-- A list of texts is read back. -/
theorem value?_texts (items : List String) (hfuel : items.length + 1 < fuel) :
    value? fuel (room + 1) ((Plain.texts items).write ++ rest) =
      some (.array (items.map .text), rest) := by
  obtain ⟨fuel, rfl⟩ : ∃ n, fuel = n + 2 := ⟨fuel - 2, by omega⟩
  match items with
  | [] => exact value?_array (items?_close (skipFiller?_solid (by decide)))
  | [s] =>
    obtain ⟨q, tail, hquote, hq⟩ := quote_eq_cons s.toList
    have hne : q ≠ ']' := ne_bracket_of_quote hq
    obtain ⟨fuel, rfl⟩ : ∃ n, fuel = n + 1 := ⟨fuel - 1, by
      rw [List.length_singleton] at hfuel
      omega⟩
    have hread := value?_text fuel room (c := ']') s rest (by decide) (by decide)
    have htext : (Plain.texts [s]).write ++ rest = '[' :: (writeText s ++ ']' :: rest) := by
      simp [Plain.write]
    rw [htext]
    rw [writeText, hquote, List.cons_append] at hread ⊢
    exact value?_array (items?_last (skipFiller?_solid (isSolid_of_quote hq)) hne hread
      (skipFiller?_solid (by decide)))
  | s :: t :: more =>
    have htext : (Plain.texts (s :: t :: more)).write ++ rest =
        '[' :: '\n' :: ((s :: t :: more).flatMap writeItem ++ ']' :: rest) := by
      simp [Plain.write]
    rw [htext]
    exact value?_array (items?_lines (s :: t :: more) (by omega))

/-- A list is written in more characters than it has items. -/
theorem length_lt_write (items : List String) :
    items.length < (Plain.texts items).write.length := by
  match items with
  | [] => decide
  | [s] => simp [Plain.write]
  | s :: t :: more =>
    have hitems := Text.length_le_length_flatMap (f := writeItem) (fun s => by simp [writeItem])
      (s :: t :: more)
    have hwrite : (Plain.texts (s :: t :: more)).write =
        ['[', '\n'] ++ (s :: t :: more).flatMap writeItem ++ [']'] := rfl
    rw [hwrite, List.length_append, List.length_append]
    simp only [List.length_cons, List.length_nil] at hitems ⊢
    omega

/-- A plain value is read back at the end of its line. -/
theorem value?_write {value : Plain} (hfits : value.Fits) (hfuel : value.write.length < fuel)
    (hroom : 0 < room) :
    value? fuel room (value.write ++ '\n' :: rest) = some (value.toNode, '\n' :: rest) := by
  obtain ⟨room, rfl⟩ := Nat.exists_eq_add_one.2 hroom
  cases value with
  | texts items =>
    have hitems := length_lt_write items
    exact value?_texts items (by omega)
  | boolean b =>
    obtain ⟨fuel, rfl⟩ := Nat.exists_eq_add_one.2 (Nat.zero_lt_of_lt hfuel)
    have hword : (Plain.boolean b).write.all isScalarChar = true := by cases b <;> rfl
    cases b <;> exact value?_word (by decide) (List.all_eq_true.1 hword) rfl
  | number n =>
    obtain ⟨fuel, rfl⟩ := Nat.exists_eq_add_one.2 (Nat.zero_lt_of_lt hfuel)
    have hword : ∀ c ∈ Text.decimal n, isScalarChar c = true := fun c hc => by
      simp [isScalarChar, isBareChar, isDigit_of_mem_decimal hc]
    have hscalar : scalar? (Text.decimal n) = some (Plain.number n).toNode := scalar?_decimal hfits
    exact value?_word (Text.decimal_ne_nil n) hword hscalar
  | text s =>
    obtain ⟨fuel, rfl⟩ := Nat.exists_eq_add_one.2 (Nat.zero_lt_of_lt hfuel)
    exact value?_text fuel (room + 1) (c := '\n') s rest (by decide) (by decide)

end LinkBus.Toml
