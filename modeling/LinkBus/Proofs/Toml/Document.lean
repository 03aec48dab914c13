import LinkBus.Proofs.Toml.Values

/-!
# Documents are read as they were written

A document of sections with bare keys and plain values is read statement by statement: a header
opens a table that is not there yet, and a line adds a value to it under a key that is not taken
yet. The reader spends one unit of fuel on each statement, and each takes at least one character.
-/

namespace LinkBus.Toml

variable {c : Char} {fuel : Nat} {text rest more : List Char} {key name : String}

/-! ## Keys -/

/-- A key that needs no quotes. -/
structure IsBare (key : String) : Prop where
  /-- There is something to read. -/
  ne_nil : key.toList ≠ []
  /-- All of it may stand without quotes. -/
  isBareChar : ∀ c ∈ key.toList, isBareChar c = true

instance (key : String) : Decidable (IsBare key) :=
  decidable_of_iff (key.toList ≠ [] ∧ key.toList.all Toml.isBareChar = true)
    ⟨fun h => ⟨h.1, List.all_eq_true.1 h.2⟩, fun h => ⟨h.ne_nil, List.all_eq_true.2 h.isBareChar⟩⟩

/-- A bare key begins with a character that may stand without quotes. -/
theorem IsBare.exists_cons (h : IsBare key) :
    ∃ a tail, key.toList = a :: tail ∧ ∀ b, Toml.isBareChar b = false → a ≠ b := by
  obtain ⟨a, tail, hkey⟩ := List.exists_cons_of_ne_nil h.ne_nil
  refine ⟨a, tail, hkey, ?_⟩
  rintro b hb rfl
  rw [h.isBareChar a (by rw [hkey]; exact List.mem_cons_self)] at hb
  cases hb

/-- A bare key is read up to the first character that cannot be part of it. -/
theorem simpleKey?_bare (h : IsBare key) (hc : isBareChar c = false) :
    simpleKey? (key.toList ++ c :: rest) = some (key, c :: rest) := by
  have htake : (key.toList ++ c :: rest).takeWhile isBareChar = key.toList := by
    rw [List.takeWhile_append_of_pos h.isBareChar, List.takeWhile_cons_of_neg (by simp [hc]),
      List.append_nil]
  obtain ⟨a, tail, hkey, hne⟩ := h.exists_cons
  have hquote : ¬ (a = '"' ∨ a = '\x27') := not_or.2 ⟨hne '"' (by decide), hne '\x27' (by decide)⟩
  have hfull : key.toList ++ c :: rest = a :: (tail ++ c :: rest) := by rw [hkey, List.cons_append]
  have hbare : key.toList.isEmpty = false := by rw [hkey, List.isEmpty_cons]
  rw [hfull] at htake ⊢
  unfold simpleKey?
  simp only [htake]
  rw [if_neg hquote, hbare, ← hfull, List.drop_left, String.ofList_toList]
  rfl

/-- A bare key has one part if no dot follows it. -/
theorem key?_bare (h : IsBare key) (hc : isBareChar c = false)
    (hdot : (skipSpaces (c :: rest)).head? ≠ some '.') :
    key? (key.toList ++ c :: rest) = some (⟨key, []⟩, c :: rest) := by
  have hnone : keyRest? ((c :: rest).length + 1) (c :: rest) = some ([], c :: rest) := by
    rw [keyRest?]
    split
    · next heq => exact absurd (by rw [heq]; rfl) hdot
    · rfl
  simp only [key?, simpleKey?_bare h hc, Option.bind_eq_bind, Option.bind_some, hnone]
  rfl

/-! ## Statements -/

/-- A key that is not taken is added at the end. -/
theorem updateEntry_fresh {entries : Entries} {f : Option Node → Option Node} {node : Node}
    (hkey : key ∉ entries.map Prod.fst) (hnode : f none = some node) :
    updateEntry key f entries = some (entries ++ [(key, node)]) := by
  induction entries with
  | nil => rw [updateEntry, hnode, Option.map_some, List.nil_append]
  | cons entry entries ih =>
    obtain ⟨k, v⟩ := entry
    rw [List.map_cons, List.mem_cons, not_or] at hkey
    rw [updateEntry, if_neg (Ne.symm hkey.1), ih hkey.2]
    rfl

/-- The value of the last key is replaced. -/
theorem updateEntry_last {entries : Entries} {f : Option Node → Option Node} {node node' : Node}
    (hkey : key ∉ entries.map Prod.fst) (hnode : f (some node) = some node') :
    updateEntry key f (entries ++ [(key, node)]) = some (entries ++ [(key, node')]) := by
  induction entries with
  | nil => rw [List.nil_append, updateEntry, if_pos rfl, hnode, Option.map_some, List.nil_append]
  | cons entry entries ih =>
    obtain ⟨k, v⟩ := entry
    rw [List.map_cons, List.mem_cons, not_or] at hkey
    rw [List.cons_append, updateEntry, if_neg (Ne.symm hkey.1), ih hkey.2]
    rfl

/-- A header opens a table that is not there yet. -/
theorem statement?_header {draft : Draft} (hname : IsBare name)
    (hfresh : name ∉ draft.root.map Prod.fst) :
    statement? draft ('[' :: (name.toList ++ ']' :: rest)) =
      some (⟨draft.root ++ [(name, .table .header [])], [name]⟩, rest) := by
  obtain ⟨a, tail, hkey, hne⟩ := hname.exists_cons
  have hskip : skipSpaces (name.toList ++ ']' :: rest) = name.toList ++ ']' :: rest := by
    rw [hkey, List.cons_append, skipSpaces, List.dropWhile_cons_of_neg]
    simp [isSpace, hne ' ' (by decide), hne '\t' (by decide)]
  have hroot : changeAt [] (openTable name) draft.root =
      some (draft.root ++ [(name, .table .header [])]) := by
    rw [changeAt, openTable]
    exact updateEntry_fresh hfresh rfl
  have hread : key? (name.toList ++ ']' :: rest) = some (⟨name, []⟩, ']' :: rest) :=
    key?_bare hname (by decide) (by simp [skipSpaces, isSpace])
  have hheader : tableHeader? draft (name.toList ++ ']' :: rest) =
      some (⟨draft.root ++ [(name, .table .header [])], [name]⟩, rest) := by
    have hclose : after? (· = ']') (skipSpaces (']' :: rest)) = some rest := rfl
    simp only [tableHeader?, hskip, hread, hclose, Option.bind_eq_bind, Option.bind_some,
      List.dropLast_singleton, List.getLast?_singleton, Option.getD_some, hroot]
    rfl
  have hbracket := hne '[' (by decide)
  rw [hkey, List.cons_append] at hheader ⊢
  unfold statement?
  split
  · next heq => exact absurd (List.cons.inj (List.cons.inj heq).2).1 hbracket
  · next heq =>
    rw [← (List.cons.inj heq).2]
    exact hheader
  · next hother => exact absurd rfl (hother _)

/-- What is written for a value does not begin with a space. -/
theorem skipSpaces_write (value : Plain) (rest : List Char) :
    skipSpaces (value.write ++ rest) = value.write ++ rest := by
  obtain ⟨c, tail, hwrite, hc⟩ : ∃ c tail, value.write = c :: tail ∧ isSpace c = false := by
    cases value with
    | boolean b => cases b <;> exact ⟨_, _, rfl, by decide⟩
    | number n =>
      obtain ⟨c, tail, hdigits⟩ := List.exists_cons_of_ne_nil (Text.decimal_ne_nil n)
      have hdigit : isDigit c = true :=
        isDigit_of_mem_decimal (n := n) (by rw [hdigits]; exact List.mem_cons_self)
      refine ⟨c, tail, hdigits, Bool.eq_false_iff.2 fun hspace => ?_⟩
      rw [isSpace, Bool.or_eq_true, decide_eq_true_eq, decide_eq_true_eq] at hspace
      obtain rfl | rfl := hspace
      · exact absurd hdigit (by decide)
      · exact absurd hdigit (by decide)
    | text s =>
      obtain ⟨q, tail, hquote, rfl | rfl⟩ := quote_eq_cons s.toList
      · exact ⟨_, tail, hquote, by decide⟩
      · exact ⟨_, tail, hquote, by decide⟩
    | texts items =>
      match items with
      | [] => exact ⟨_, _, rfl, by decide⟩
      | [s] => exact ⟨_, _, rfl, by decide⟩
      | s :: t :: more => exact ⟨_, _, rfl, by decide⟩
  rw [hwrite, List.cons_append, skipSpaces, List.dropWhile_cons_of_neg (by simp [hc])]

/-- A line adds a value to the table opened last, under a key that is not taken. -/
theorem statement?_entry (rest : List Char) {root entries : Entries} {value : Plain}
    (hkey : IsBare key) (hfits : value.Fits) (hname : name ∉ root.map Prod.fst)
    (hfresh : key ∉ entries.map Prod.fst) :
    statement? ⟨root ++ [(name, .table .header entries)], [name]⟩
        (key.toList ++ ' ' :: '=' :: ' ' :: (value.write ++ '\n' :: rest)) =
      some (⟨root ++ [(name, .table .header (entries ++ [(key, value.toNode)]))], [name]⟩,
        '\n' :: rest) := by
  have hread : key? (key.toList ++ ' ' :: '=' :: ' ' :: (value.write ++ '\n' :: rest)) =
      some (⟨key, []⟩, ' ' :: '=' :: ' ' :: (value.write ++ '\n' :: rest)) :=
    key?_bare hkey (by decide) (by simp [skipSpaces, isSpace])
  have hequals : after? (· = '=') (skipSpaces (' ' :: '=' :: ' ' :: (value.write ++
      '\n' :: rest))) = some (' ' :: (value.write ++ '\n' :: rest)) := rfl
  have hskip : skipSpaces (' ' :: (value.write ++ '\n' :: rest)) = value.write ++ '\n' :: rest :=
    skipSpaces_write value _
  have hvalue : value? (2 * (' ' :: (value.write ++ '\n' :: rest)).length + 2) depthLimit
      (value.write ++ '\n' :: rest) = some (value.toNode, '\n' :: rest) := by
    refine value?_write hfits ?_ (by decide)
    rw [List.length_cons, List.length_append]
    omega
  have hroot : changeAt [name] (addDotted key [] value.toNode)
      (root ++ [(name, .table .header entries)]) =
        some (root ++ [(name, .table .header (entries ++ [(key, value.toNode)]))]) := by
    have hadd : addDotted key [] value.toNode entries =
        some (entries ++ [(key, value.toNode)]) := by
      rw [addDotted, addFresh]
      exact updateEntry_fresh hfresh rfl
    refine updateEntry_last hname ?_
    simp only [changeAt, hadd]
    rfl
  obtain ⟨a, tail, hchars, hne⟩ := hkey.exists_cons
  have hbracket : a ≠ '[' := hne '[' (by decide)
  have hassign : statement? ⟨root ++ [(name, .table .header entries)], [name]⟩
      (key.toList ++ ' ' :: '=' :: ' ' :: (value.write ++ '\n' :: rest)) =
        assignment? ⟨root ++ [(name, .table .header entries)], [name]⟩
          (key.toList ++ ' ' :: '=' :: ' ' :: (value.write ++ '\n' :: rest)) := by
    rw [hchars, List.cons_append]
    unfold statement?
    split
    · next heq => exact absurd (List.cons.inj heq).1 hbracket
    · next heq => exact absurd (List.cons.inj heq).1 hbracket
    · rfl
  rw [hassign]
  simp only [assignment?, hread, hequals, hskip, hvalue, hroot, Option.bind_eq_bind,
    Option.bind_some]
  rfl

/-! ## Lines -/

/-- A statement is read with the end of its line. -/
theorem lines?_statement {draft draft' : Draft} (hskip : skipFiller? text = some (c :: more))
    (hstatement : statement? draft (c :: more) = some (draft', '\n' :: rest)) :
    lines? (fuel + 1) draft text = lines? fuel draft' rest := by
  have hcomment : skipComment? (skipSpaces ('\n' :: rest)) = some ('\n' :: rest) := rfl
  have hend : lineEnd? ('\n' :: rest) = some rest := rfl
  simp only [lines?, hskip, hstatement, hcomment, hend, Option.bind_eq_bind, Option.bind_some,
    List.isEmpty_cons]
  rfl

/-- A blank line is passed over. -/
theorem lines?_blank {draft : Draft} :
    lines? fuel draft ('\n' :: text) = lines? fuel draft text := by
  cases fuel with
  | zero => rfl
  | succ fuel =>
    have hskip : skipFiller? ('\n' :: text) = skipFiller? text :=
      skipBlankLines?_feed (text.length + 1) text
    rw [lines?, hskip, ← lines?]

/-- What a section is read as. -/
def Section.toEntry (s : Section) : String × Node :=
  (s.name, .table .header (s.entries.map fun entry => (entry.1, entry.2.toNode)))

/-- The keys of a section. -/
def Section.keys (s : Section) : List String := s.entries.map Prod.fst

/-- A section that can be written without quotes around its keys, and in which no key stands
twice. -/
structure Section.WellFormed (s : Section) : Prop where
  /-- Its name is a bare key. -/
  name : IsBare s.name
  /-- Its keys are bare keys. -/
  keys : ∀ key ∈ s.keys, IsBare key
  /-- Its keys differ. -/
  nodup : s.keys.Nodup
  /-- Its numbers are not too large. -/
  fits : ∀ entry ∈ s.entries, entry.2.Fits

/-- A bare key begins something. -/
theorem IsBare.skipFiller? (h : IsBare key) (rest : List Char) :
    ∃ c more, key.toList ++ rest = c :: more ∧ skipFiller? (c :: more) = some (c :: more) := by
  obtain ⟨c, tail, hchars, hne⟩ := h.exists_cons
  have hsolid : isSolid c = true := by
    simp [isSolid, isSpace, hne ' ' (by decide), hne '\t' (by decide), hne '#' (by decide),
      hne '\n' (by decide), hne '\r' (by decide)]
  exact ⟨c, tail ++ rest, by rw [hchars, List.cons_append], skipFiller?_solid hsolid⟩

/-- The lines under a header are read one by one. -/
theorem lines?_entries (fuel : Nat) (rest : List Char) {root : Entries} (done : Entries)
    {entries : List (String × Plain)} (hkeys : ∀ key ∈ entries.map Prod.fst, IsBare key)
    (hfits : ∀ entry ∈ entries, entry.2.Fits) (hname : name ∉ root.map Prod.fst)
    (hnodup : (done.map Prod.fst ++ entries.map Prod.fst).Nodup) :
    lines? (entries.length + fuel) ⟨root ++ [(name, .table .header done)], [name]⟩
        (entries.flatMap writeEntry ++ rest) =
      lines? fuel ⟨root ++ [(name, .table .header
        (done ++ entries.map fun entry => (entry.1, entry.2.toNode)))], [name]⟩ rest := by
  induction entries generalizing done with
  | nil => simp
  | cons entry entries ih =>
    obtain ⟨key, value⟩ := entry
    have hkey : IsBare key := hkeys _ List.mem_cons_self
    have hfresh : key ∉ done.map Prod.fst := fun hmem =>
      (List.nodup_append.1 hnodup).2.2 _ hmem _ List.mem_cons_self rfl
    have hread := statement?_entry (entries.flatMap writeEntry ++ rest) hkey
      (hfits _ List.mem_cons_self) hname hfresh
    obtain ⟨c, more, hcons, hskip⟩ := hkey.skipFiller?
      (' ' :: '=' :: ' ' :: (value.write ++ '\n' :: (entries.flatMap writeEntry ++ rest)))
    have htext : ((key, value) :: entries).flatMap writeEntry ++ rest = c :: more := by
      rw [← hcons]
      simp [writeEntry]
    have hfuel : ((key, value) :: entries).length + fuel = entries.length + fuel + 1 := by
      rw [List.length_cons]
      omega
    rw [hcons] at hread
    rw [htext, hfuel, lines?_statement hskip hread,
      ih _ (fun key hmem => hkeys key (List.mem_cons_of_mem _ hmem))
        (fun entry hmem => hfits entry (List.mem_cons_of_mem _ hmem)) (by simpa using hnodup)]
    simp

/-- A section is read from its header to its last line. -/
theorem lines?_section {draft : Draft} {s : Section} (hs : s.WellFormed)
    (hfresh : s.name ∉ draft.root.map Prod.fst) :
    lines? (s.entries.length + 1 + fuel) draft (s.write ++ rest) =
      lines? fuel ⟨draft.root ++ [s.toEntry], [s.name]⟩ rest := by
  have htext : s.write ++ rest =
      '[' :: (s.name.toList ++ ']' :: '\n' :: (s.entries.flatMap writeEntry ++ rest)) := by
    simp [Section.write]
  have hfuel : s.entries.length + 1 + fuel = s.entries.length + fuel + 1 := by omega
  have hlines := lines?_entries fuel rest [] hs.keys hs.fits hfresh
    (by simpa [Section.keys] using hs.nodup)
  rw [htext, hfuel, lines?_statement (skipFiller?_solid (by decide))
    (statement?_header hs.name hfresh), hlines]
  rfl

/-- A section takes more characters than it has lines. -/
theorem length_lt_write_section (s : Section) : s.entries.length + 1 < s.write.length := by
  have hlines := Text.length_le_length_flatMap (f := writeEntry) (fun entry => by simp [writeEntry])
    s.entries
  simp only [Section.write, List.length_append, List.length_cons]
  omega

/-- Sections are read one after the other. -/
theorem lines?_writeSections (draft : Draft) {sections : List Section}
    (hsections : ∀ s ∈ sections, s.WellFormed)
    (hnodup : (draft.root.map Prod.fst ++ sections.map Section.name).Nodup)
    (hfuel : (writeSections sections).length < fuel) :
    (lines? fuel draft (writeSections sections)).map Draft.root =
      some (draft.root ++ sections.map Section.toEntry) := by
  induction sections generalizing draft fuel with
  | nil =>
    obtain ⟨fuel, rfl⟩ := Nat.exists_eq_add_one.2 (Nat.zero_lt_of_lt hfuel)
    simp [writeSections, lines?, skipFiller?, skipBlankLines?, skipSpaces, skipComment?, lineEnd?]
  | cons s sections ih =>
    have hfresh : s.name ∉ draft.root.map Prod.fst := fun hmem =>
      (List.nodup_append.1 hnodup).2.2 _ hmem _ List.mem_cons_self rfl
    have hnodup' : ((draft.root ++ [s.toEntry]).map Prod.fst ++
        sections.map Section.name).Nodup := by
      simpa [Section.toEntry] using hnodup
    have hothers : ∀ left, (writeSections sections).length < left →
        (lines? left ⟨draft.root ++ [s.toEntry], [s.name]⟩ (writeSections sections)).map
          Draft.root = some (draft.root ++ [s.toEntry] ++ sections.map Section.toEntry) :=
      fun left hleft => ih ⟨draft.root ++ [s.toEntry], [s.name]⟩
        (fun s hmem => hsections s (List.mem_cons_of_mem _ hmem)) hnodup' hleft
    have hlength := length_lt_write_section s
    have hsection : ∀ rest, (s.write ++ rest).length < fuel → ∃ left, rest.length < left ∧
        lines? fuel draft (s.write ++ rest) =
          lines? left ⟨draft.root ++ [s.toEntry], [s.name]⟩ rest := by
      intro rest hfuel
      rw [List.length_append] at hfuel
      obtain ⟨left, rfl⟩ : ∃ n, fuel = s.entries.length + 1 + n :=
        ⟨fuel - (s.entries.length + 1), by omega⟩
      exact ⟨left, by omega, lines?_section (hsections s List.mem_cons_self) hfresh⟩
    cases sections with
    | nil =>
      obtain ⟨left, hleft, hlines⟩ := hsection [] (by simpa [writeSections] using hfuel)
      rw [List.append_nil] at hlines
      rw [writeSections, hlines]
      simpa [writeSections] using hothers left hleft
    | cons t sections =>
      have htext : writeSections (s :: t :: sections) =
          s.write ++ '\n' :: writeSections (t :: sections) := by
        simp [writeSections]
      rw [htext] at hfuel ⊢
      obtain ⟨left, hleft, hlines⟩ := hsection _ hfuel
      rw [hlines, lines?_blank, hothers left (Nat.lt_trans (Nat.lt_succ_self _) hleft)]
      simp

/-- A document is read as it was written. -/
theorem parse?_writeSections {sections : List Section} (hsections : ∀ s ∈ sections, s.WellFormed)
    (hnodup : (sections.map Section.name).Nodup) :
    parse? (writeSections sections) = some (sections.map Section.toEntry) := by
  have hmark : (writeSections sections).head? ≠ some '\ufeff' := by
    match sections with
    | [] => simp [writeSections]
    | [s] => simp [writeSections, Section.write]
    | s :: t :: more => simp [writeSections, Section.write]
  rw [parse?, if_neg hmark]
  simpa using lines?_writeSections {} hsections hnodup (Nat.lt_succ_self _)

end LinkBus.Toml
