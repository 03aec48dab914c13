import LinkBus.Text.Blank
import Mathlib.Data.List.DropRight

/-!
# Beginnings, words and lines

A beginning is taken off a text by splitting the text behind it. The words of a text are what is
left when it is split at its blanks and the empty pieces are dropped. A blank separates words but
belongs to none of them, so that the blanks around a text and any blanks next to others make no
difference to its words. The lines of a text have the words that stand between its line feeds.
-/

namespace LinkBus.Text

/-! ## Beginnings -/

/-- What is behind a beginning is what remains of a text when the beginning is taken off. -/
theorem stripStart?_eq_some_iff {start text rest : List Char} :
    stripStart? start text = some rest ↔ text = start ++ rest := by
  induction start generalizing text with
  | nil => simp [stripStart?]
  | cons p ps ih =>
    cases text with
    | nil => simp [stripStart?]
    | cons c cs =>
      by_cases hp : p = c
      · simp [stripStart?, hp, ih]
      · simp [stripStart?, hp, Ne.symm hp]

/-! ## Words -/

/-- Words are read like pieces between blanks, but for the empty ones. -/
theorem splitWords_eq_filter (text current : List Char) :
    splitWords text current =
      (List.splitOnPPrepend isBlank text current.reverse).filter (· ≠ []) := by
  -- The library collects the current piece in reverse.
  induction text generalizing current with
  | nil => cases current <;> simp [splitWords]
  | cons c rest ih =>
    rw [splitWords]
    by_cases hblank : isBlank c = true
    · rw [if_pos hblank, List.splitOnPPrepend_cons_pos hblank, List.reverse_reverse, ih]
      cases current <;> simp
    · rw [if_neg hblank, List.splitOnPPrepend_cons_neg (Bool.eq_false_iff.2 hblank), ih,
        List.reverse_concat]

/-- The words of a text are the pieces between its blanks that are not empty. -/
theorem words_eq_filter (text : List Char) :
    words text = (text.splitOnP isBlank).filter (· ≠ []) := splitWords_eq_filter text []

/-- A text without characters has no words. -/
@[simp] theorem words_nil : words [] = [] := rfl

variable {c : Char}

/-- A blank separates the words before it from those behind it. -/
theorem words_append_blank (hc : isBlank c = true) (a b : List Char) :
    words (a ++ c :: b) = words a ++ words b := by
  rw [words_eq_filter, List.splitOnP_append_cons a b hc, List.filter_append, ← words_eq_filter,
    ← words_eq_filter]

/-- A blank before a text belongs to no word. -/
theorem words_cons_blank (hc : isBlank c = true) (text : List Char) :
    words (c :: text) = words text := words_append_blank hc [] text

/-- A blank behind a text belongs to no word. -/
theorem words_concat_blank (hc : isBlank c = true) (text : List Char) :
    words (text ++ [c]) = words text := by
  rw [words_append_blank hc, words_nil, List.append_nil]

/-- The first word of a text begins with its first character unless that is blank. -/
theorem head?_head?_words (hc : isBlank c = false) (rest : List Char) :
    (words (c :: rest)).head?.bind List.head? = some c := by
  obtain ⟨word, more, hsplit⟩ := List.exists_cons_of_ne_nil (List.splitOnP_ne_nil isBlank rest)
  rw [words_eq_filter, List.splitOnP_cons_eq_if_modifyHead, hc, hsplit]
  rfl

/-- A text has no words if all its characters are blank, and only then. -/
theorem words_eq_nil_iff {text : List Char} : words text = [] ↔ ∀ c ∈ text, isBlank c = true := by
  induction text with
  | nil => simp
  | cons c rest ih =>
    rw [List.forall_mem_cons]
    by_cases hblank : isBlank c = true
    · rw [words_cons_blank hblank, ih, and_iff_right hblank]
    · refine iff_of_false (fun hnone => ?_) fun h => hblank h.1
      have hhead := head?_head?_words (Bool.eq_false_iff.2 hblank) rest
      rw [hnone] at hhead
      cases hhead

/-- A blank next to another one, or at an end of the text, makes no difference. -/
theorem words_insert_blank (hc : isBlank c = true) {a b : List Char}
    (hedge : (∀ d ∈ a.getLast?, isBlank d = true) ∨ ∀ d ∈ b.head?, isBlank d = true) :
    words (a ++ c :: b) = words (a ++ b) := by
  rcases hedge with hedge | hedge
  · rcases a.eq_nil_or_concat with rfl | ⟨a, d, rfl⟩
    · exact words_cons_blank hc b
    · have hd : isBlank d = true := hedge d (by simp)
      rw [words_append_blank hc, List.concat_eq_append, words_concat_blank hd, List.append_assoc,
        List.singleton_append, words_append_blank hd]
  · cases b with
    | nil => rw [words_concat_blank hc, List.append_nil]
    | cons d b =>
      have hd : isBlank d = true := hedge d rfl
      rw [words_append_blank hc, words_cons_blank hd, words_append_blank hd]

/-- The blanks before a text belong to no word. -/
theorem words_trimStart (text : List Char) : words (trimStart text) = words text := by
  induction text with
  | nil => rfl
  | cons c rest ih =>
    rw [trimStart, List.dropWhile_cons]
    split
    · next hc => rw [words_cons_blank hc, ← ih, trimStart]
    · rfl

/-- Of a text the blanks before it and those behind it are dropped. -/
theorem trim_eq_rdropWhile (text : List Char) :
    trim text = (trimStart text).rdropWhile isBlank := rfl

/-- The blanks before a text and those behind it belong to no word. -/
theorem words_trim (text : List Char) : words (trim text) = words text := by
  have hend (l : List Char) : words (l.rdropWhile isBlank) = words l := by
    induction l using List.reverseRecOn with
    | nil => rfl
    | append_singleton l c ih =>
      rw [List.rdropWhile_concat]
      split
      · next hc => rw [ih, words_concat_blank hc]
      · rfl
  rw [trim_eq_rdropWhile, hend, words_trimStart]

/-- Without the blanks around it a text begins like its first word. -/
theorem head?_trim (text : List Char) :
    (trim text).head? = (words text).head?.bind List.head? := by
  rw [← words_trim]
  cases htrim : trim text with
  | nil => rfl
  | cons c rest =>
    have hprefix : trim text <+: trimStart text := List.rdropWhile_prefix isBlank _
    have hhead : (trimStart text).head? = some c := by
      obtain ⟨more, hmore⟩ := hprefix
      rw [← hmore, htrim, List.cons_append, List.head?_cons]
    have hc : isBlank c = false := by
      have hnot := List.head?_dropWhile_not isBlank text
      rw [← trimStart, hhead] at hnot
      exact hnot
    rw [head?_head?_words hc, List.head?_cons]

/-! ## Lines -/

/-- A carriage return at the end of a line belongs to no word. -/
theorem words_dropReturn (line : List Char) : words (dropReturn line) = words line := by
  unfold dropReturn
  split
  · next hlast =>
    obtain ⟨start, rfl⟩ := List.getLast?_eq_some_iff.1 hlast
    rw [List.dropLast_concat, words_concat_blank (by decide)]
  · rfl

variable {α : Type} {f : List Char → Option α}

/-- Lines are read like pieces between line feeds by whoever overlooks empty lines and carriage
returns at the ends of lines. -/
theorem filterMap_splitLines (hempty : f [] = none) (hreturn : ∀ line, f (dropReturn line) = f line)
    (text current : List Char) :
    (splitLines text current).filterMap f =
      (List.splitOnPPrepend (· == '\n') text current.reverse).filterMap f := by
  induction text generalizing current with
  | nil => cases current <;> simp [splitLines, hempty]
  | cons c rest ih =>
    rw [List.splitOnPPrepend_cons_eq_if]
    by_cases hc : c = '\n'
    · rw [if_pos (beq_iff_eq.2 hc), List.reverse_reverse, hc, splitLines, List.filterMap_cons,
        List.filterMap_cons, hreturn, ih, List.reverse_nil, List.splitOnPPrepend_nil_right]
    · rw [if_neg (mt beq_iff_eq.1 hc), splitLines, ih, List.reverse_concat]
      exact hc

/-- Who overlooks empty lines and carriage returns at the ends of lines reads the pieces between
line feeds. -/
theorem filterMap_lines (hempty : f [] = none) (hreturn : ∀ line, f (dropReturn line) = f line)
    (text : List Char) : (lines text).filterMap f = (text.splitOn '\n').filterMap f :=
  filterMap_splitLines hempty hreturn text []

end LinkBus.Text
