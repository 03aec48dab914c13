import LinkBus.Proofs.Text.Words
import LinkBus.Resolver
import Mathlib.Logic.Relation

/-!
# The statements of a resolver file

A resolver file says what its statements say, one after the other; blank lines and comments are no
statements. Texts joined by a line feed therefore say what the one and then the other says, and
blank lines, comments and blanks around words may be inserted anywhere.
-/

namespace LinkBus.Resolver

/-! ## Statements -/

/-- Whether a line is blank or a comment. -/
def isIdle (line : List Char) : Bool := line.all Text.isBlank || isComment (Text.trim line)

/-- The words of a line that is neither blank nor a comment. -/
def statement? (line : List Char) : Option (List (List Char)) :=
  if isIdle line then none else some (Text.words line)

/-- The statements of a text, given by their words. -/
def statements (text : List Char) : List (List (List Char)) :=
  (text.splitOn '\n').filterMap statement?

/-- Lines with the same words are blank or comments together. -/
theorem isIdle_congr {line line' : List Char} (h : Text.words line = Text.words line') :
    isIdle line = isIdle line' := by
  have hcomment : isComment (Text.trim line) = isComment (Text.trim line') := by
    rw [isComment, isComment, Text.head?_trim, Text.head?_trim, h]
  have hblank : line.all Text.isBlank = line'.all Text.isBlank := by
    rw [Bool.eq_iff_iff, List.all_eq_true, List.all_eq_true, ← Text.words_eq_nil_iff, h,
      Text.words_eq_nil_iff]
  rw [isIdle, isIdle, hblank, hcomment]

/-- Lines with the same words are the same statement. -/
theorem statement?_congr {line line' : List Char} (h : Text.words line = Text.words line') :
    statement? line = statement? line' := by
  rw [statement?, statement?, isIdle_congr h, h]

/-- A line says what its statement says, and nothing if it has none. -/
theorem addLine_eq (c : Resolver) (line : List Char) :
    c.addLine line = (statement? line).elim c c.addWords := by
  rw [addLine, statement?, isIdle, Text.words_trim]
  by_cases hcomment : isComment (Text.trim line) = true
  · simp [hcomment]
  · by_cases hblank : line.all Text.isBlank = true
    · have hwords : Text.words line = [] := Text.words_eq_nil_iff.2 (List.all_eq_true.1 hblank)
      simp [hcomment, hblank, hwords, addWords]
    · simp [hcomment, hblank]

/-- A text says what its statements say, one after the other. -/
theorem parse_eq_foldl (text : List Char) : parse text = (statements text).foldl addWords {} := by
  have hlines : (Text.lines text).filterMap statement? = statements text :=
    Text.filterMap_lines rfl (fun line => statement?_congr (Text.words_dropReturn line)) text
  rw [parse, ← hlines, List.foldl_filterMap]
  congr
  funext c line
  rw [addLine_eq]
  cases statement? line <;> rfl

/-- The statements of a line are its own. -/
theorem statements_of_not_mem {line : List Char} (h : '\n' ∉ line) :
    statements line = (statement? line).toList := by
  rw [statements, List.splitOn_eq_singleton h]
  cases hline : statement? line <;> simp [hline]

/-- Texts joined by a line feed have the statements of the one and then those of the other. -/
theorem statements_append (a b : List Char) :
    statements (a ++ '\n' :: b) = statements a ++ statements b := by
  rw [statements, List.splitOn_append_cons_self, List.filterMap_append]
  rfl

/-! ## What statements say -/

/-- The name server of a statement: the address that its second word is up to a percent sign, if the
first word says so. -/
def server? (statement : List (List Char)) : Option Ip :=
  if statement.head? = some "nameserver".toList then
    statement[1]?.bind fun word => Ip.parse? (word.takeWhile (· ≠ '%'))
  else none

/-- Whether a statement lists search domains. -/
def isSearch (statement : List (List Char)) : Bool :=
  statement.head? = some "search".toList ∨ statement.head? = some "domain".toList

/-- The words of a statement behind the first one. -/
def domains (statement : List (List Char)) : List String := statement.tail.map String.ofList

/-- A statement adds the name server that it names. -/
theorem nameservers_addWords (c : Resolver) (statement : List (List Char)) :
    (c.addWords statement).nameservers = c.nameservers ++ (server? statement).toList := by
  cases statement with
  | nil => simp [addWords, server?]
  | cons keyword arguments =>
    simp only [addWords, server?, List.head?_cons, Option.some.injEq]
    split
    · cases arguments <;> rfl
    · split <;> simp

/-- A statement replaces the search domains if it lists some. -/
theorem searches_addWords (c : Resolver) (statement : List (List Char)) :
    (c.addWords statement).searches =
      if isSearch statement then domains statement else c.searches := by
  cases statement with
  | nil => rfl
  | cons keyword arguments =>
    simp only [addWords, isSearch, List.head?_cons, Option.some.injEq, decide_eq_true_eq]
    split
    · next hserver => rw [if_neg (by rw [hserver]; decide)]
    · split <;> rfl

/-- Statements add the name servers that they name. -/
theorem nameservers_foldl (c : Resolver) (l : List (List (List Char))) :
    (l.foldl addWords c).nameservers = c.nameservers ++ l.filterMap server? := by
  induction l generalizing c with
  | nil => simp
  | cons statement rest ih =>
    rw [List.foldl_cons, ih, nameservers_addWords, List.append_assoc]
    cases hserver : server? statement <;> simp [hserver]

/-- Of the statements that list search domains the last one counts. -/
theorem searches_foldl (c : Resolver) (l : List (List (List Char))) :
    (l.foldl addWords c).searches = (l.filter isSearch).getLast?.elim c.searches domains := by
  -- The last statement decides, so the induction takes statements off the end.
  induction l using List.reverseRecOn with
  | nil => rfl
  | append_singleton l statement ih =>
    rw [List.foldl_concat, searches_addWords, List.filter_append, List.getLast?_append, ih]
    by_cases hsearch : isSearch statement = true <;> simp [hsearch]

/-- The name servers of a text are those that its statements name. -/
theorem nameservers_parse (text : List Char) :
    (parse text).nameservers = (statements text).filterMap server? := by
  rw [parse_eq_foldl, nameservers_foldl, List.nil_append]

/-- The search domains of a text are those of the last statement that lists any. -/
theorem searches_parse (text : List Char) :
    (parse text).searches = ((statements text).filter isSearch).getLast?.elim [] domains := by
  rw [parse_eq_foldl, searches_foldl]

/-- Of two texts joined by a line feed the second one gives the search domains if it lists any. -/
theorem searches_parse_append (a b : List Char) :
    (parse (a ++ '\n' :: b)).searches =
      if (statements b).any isSearch then (parse b).searches else (parse a).searches := by
  rw [searches_parse, statements_append, List.filter_append, List.getLast?_append]
  split
  · next hsearch =>
    obtain ⟨statement, hmem, hstatement⟩ := List.any_eq_true.1 hsearch
    have hne : (statements b).filter isSearch ≠ [] :=
      List.ne_nil_of_mem (List.mem_filter.2 ⟨hmem, hstatement⟩)
    rw [searches_parse, List.getLast?_eq_some_getLast hne, Option.some_or]
  · next hsearch =>
    have hnone : (statements b).filter isSearch = [] := by
      simpa [List.filter_eq_nil_iff] using hsearch
    rw [searches_parse, hnone, List.getLast?_nil, Option.none_or]

/-- A statement without words behind the first one lists no domains, but it is the last one. -/
example : (parse "search corp.example\nnameserver 192.0.2.53\nsearch\n".toList).searches = [] := by
  decide

/-! ## Insertions -/

/-- What may be inserted into a text. -/
inductive Inserted : List Char → List Char → Prop
  /-- A space or a tab before, between or behind words. -/
  | blank {a b : List Char} {c : Char} (hc : c = ' ' ∨ c = '\t')
      (hedge : (∀ d ∈ a.getLast?, Text.isBlank d = true) ∨
        ∀ d ∈ b.head?, Text.isBlank d = true) :
      Inserted (a ++ b) (a ++ c :: b)
  /-- A blank line or a comment before a line. -/
  | lineBefore {a b line : List Char} (hidle : isIdle line = true) (hline : '\n' ∉ line)
      (hstart : ∀ d ∈ a.getLast?, d = '\n') : Inserted (a ++ b) (a ++ (line ++ '\n' :: b))
  /-- A blank line or a comment behind a line. -/
  | lineBehind {a b line : List Char} (hidle : isIdle line = true) (hline : '\n' ∉ line)
      (hend : ∀ d ∈ b.head?, d = '\n') : Inserted (a ++ b) (a ++ '\n' :: (line ++ b))
  /-- A blank line or a comment at the end that no line feed follows. -/
  | lastLine {a line : List Char} (hidle : isIdle line = true) (hline : '\n' ∉ line)
      (hstart : ∀ d ∈ a.getLast?, d = '\n') : Inserted a (a ++ line)

/-- A blank line or a comment has no statements. -/
theorem statements_of_isIdle {line : List Char} (hidle : isIdle line = true)
    (hline : '\n' ∉ line) : statements line = [] := by
  rw [statements_of_not_mem hline, statement?, if_pos hidle, Option.toList_none]

variable {a b : List Char} {c : Char}

/-- A blank at the edge of a word of the first line makes no difference. -/
theorem statements_insert_blank_first (hc : Text.isBlank c = true) (hfeed : c ≠ '\n')
    (ha : '\n' ∉ a)
    (hedge : (∀ d ∈ a.getLast?, Text.isBlank d = true) ∨ ∀ d ∈ b.head?, Text.isBlank d = true) :
    statements (a ++ c :: b) = statements (a ++ b) := by
  have hline {rest : List Char} (hrest : '\n' ∉ rest)
      (hedge : (∀ d ∈ a.getLast?, Text.isBlank d = true) ∨
        ∀ d ∈ rest.head?, Text.isBlank d = true) :
      statements (a ++ c :: rest) = statements (a ++ rest) := by
    rw [statements_of_not_mem (by simp [ha, hrest, hfeed.symm]),
      statements_of_not_mem (by simp [ha, hrest]),
      statement?_congr (Text.words_insert_blank hc hedge)]
  by_cases hb : '\n' ∈ b
  · obtain ⟨rest, more, rfl, hrest⟩ := List.eq_append_cons_of_mem hb
    rw [← List.cons_append, ← List.append_assoc, ← List.append_assoc, statements_append,
      statements_append, hline hrest]
    refine hedge.imp_right fun hhead d hd => hhead d ?_
    rw [List.head?_append, Option.mem_def.1 hd, Option.some_or]
    rfl
  · exact hline hb hedge

/-- A blank at the edge of a word makes no difference. -/
theorem statements_insert_blank (hc : Text.isBlank c = true) (hfeed : c ≠ '\n')
    (hedge : (∀ d ∈ a.getLast?, Text.isBlank d = true) ∨ ∀ d ∈ b.head?, Text.isBlank d = true) :
    statements (a ++ c :: b) = statements (a ++ b) := by
  -- Only the line behind the last line feed of the first part is touched.
  by_cases ha : '\n' ∈ a
  · obtain ⟨line, before, hsplit, hline⟩ :=
      List.eq_append_cons_of_mem (List.mem_reverse.2 ha)
    obtain rfl : a = before.reverse ++ '\n' :: line.reverse := by
      rw [← List.reverse_reverse a, hsplit]
      simp
    rw [List.append_assoc, List.cons_append, statements_append, List.append_assoc,
      List.cons_append, statements_append,
      statements_insert_blank_first hc hfeed (mt List.mem_reverse.1 hline)]
    refine hedge.imp_left fun hlast d hd => hlast d ?_
    rw [List.getLast?_append, List.getLast?_cons, Option.mem_def.1 hd]
    rfl
  · exact statements_insert_blank_first hc hfeed ha hedge

/-- What comes behind the end of a line are statements of their own. -/
theorem statements_append_of_getLast? (hstart : ∀ d ∈ a.getLast?, d = '\n') (b : List Char) :
    statements (a ++ b) = statements a ++ statements b := by
  rcases a.eq_nil_or_concat with rfl | ⟨before, d, rfl⟩
  · rfl
  · obtain rfl : d = '\n' := hstart d (by simp)
    rw [List.concat_eq_append, List.append_assoc, List.singleton_append, statements_append,
      statements_append]
    simp [statements, statement?, isIdle]

/-- Insertions make no difference to the statements of a text. -/
theorem Inserted.statements_eq (h : Inserted a b) : statements b = statements a := by
  cases h with
  | blank hc hedge =>
    rcases hc with rfl | rfl
    · exact statements_insert_blank (by decide) (by decide) hedge
    · exact statements_insert_blank (by decide) (by decide) hedge
  | lineBefore hidle hline hstart =>
    rw [statements_append_of_getLast? hstart, statements_append_of_getLast? hstart,
      statements_append, statements_of_isIdle hidle hline, List.nil_append]
  | @lineBehind a b line hidle hline hend =>
    rw [statements_append]
    cases b with
    | nil =>
      rw [List.append_nil, statements_of_isIdle hidle hline, List.append_nil, List.append_nil]
    | cons d rest =>
      obtain rfl : d = '\n' := hend d rfl
      rw [statements_append, statements_append, statements_of_isIdle hidle hline, List.nil_append]
  | lastLine hidle hline hstart =>
    rw [statements_append_of_getLast? hstart, statements_of_isIdle hidle hline, List.append_nil]

/-- Any number of insertions make no difference to what a text says. -/
theorem parse_eq_of_inserted (h : Relation.ReflTransGen Inserted a b) : parse b = parse a := by
  have hstatements : statements b = statements a := by
    induction h with
    | refl => rfl
    | tail _ hstep ih => rw [hstep.statements_eq, ih]
  rw [parse_eq_foldl, parse_eq_foldl, hstatements]

/-! ## Families -/

/-- The name servers are those of the one family and those of the other. -/
theorem perm_ofFamily (c : Resolver) :
    (c.ofFamily .v4 ++ c.ofFamily .v6).Perm c.nameservers := by
  have hother : c.ofFamily .v6 = c.nameservers.filter fun ip => !(ip.family == .v4) := by
    refine List.filter_congr fun ip _ => ?_
    cases ip.family <;> rfl
  rw [hother]
  exact List.filter_append_perm _ _

/-- A text is read line by line. Of two texts joined by a line feed the name servers add up, and the
second one gives the search domains if it lists any. Blank lines, comments and blanks around words
may be inserted. The name servers are those that the statements name, and the search domains those
of the last statement that lists any. By family the name servers fall into two lists that keep their
order. -/
theorem parse_line_by_line :
    (∀ a b : List Char,
      (parse (a ++ '\n' :: b)).nameservers = (parse a).nameservers ++ (parse b).nameservers ∧
      (parse (a ++ '\n' :: b)).searches =
        if (statements b).any isSearch then (parse b).searches else (parse a).searches) ∧
    (∀ a b : List Char, Relation.ReflTransGen Inserted a b → parse b = parse a) ∧
    (∀ text : List Char, (parse text).nameservers = (statements text).filterMap server? ∧
      (parse text).searches = ((statements text).filter isSearch).getLast?.elim [] domains) ∧
    ∀ c : Resolver, (c.ofFamily .v4 ++ c.ofFamily .v6).Perm c.nameservers ∧
      ∀ family, (c.ofFamily family).Sublist c.nameservers ∧
        ∀ ip ∈ c.ofFamily family, ip.family = family := by
  refine ⟨fun a b => ⟨?_, searches_parse_append a b⟩, fun a b => parse_eq_of_inserted,
    fun text => ⟨nameservers_parse text, searches_parse text⟩,
    fun c => ⟨c.perm_ofFamily, fun family => ⟨List.filter_sublist, fun ip hip => ?_⟩⟩⟩
  · simp only [nameservers_parse, statements_append, List.filterMap_append]
  · exact beq_iff_eq.1 (List.mem_filter.1 hip).2

end LinkBus.Resolver
