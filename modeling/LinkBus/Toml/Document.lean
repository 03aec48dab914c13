import LinkBus.Toml.Quoted
import LinkBus.Toml.Scalar

/-!
# Reading TOML

A document is read statement by statement: a header opens a table, anything else adds a value to the
table opened last. Readers return what they read together with the text that follows, and `none`
where the text is no TOML. Nested values are read with fuel that the length of the text bounds.
There is a limit on how deep values nest and on how many parts a key has.
-/

namespace LinkBus.Toml

/-- How many arrays and inline tables may be open at once, and how many parts a key may have. -/
def depthLimit : Nat := 80

/-- Whether a character may stand in a key without quotes. -/
def isBareChar (c : Char) : Bool :=
  ('a' ≤ c && c ≤ 'z') || ('A' ≤ c && c ≤ 'Z') || isDigit c || c = '-' || c = '_'

/-- The text after the blanks that it begins with. -/
def skipSpaces (text : List Char) : List Char := text.dropWhile isSpace

/-- Reads one part of a key. -/
def simpleKey? (text : List Char) : Option (String × List Char) :=
  match text with
  | [] => none
  | c :: _ =>
    if c = '"' ∨ c = '\x27' then (quoted? false text).map fun r => (String.ofList r.1, r.2)
    else
      let bare := text.takeWhile isBareChar
      if bare.isEmpty then none else some (String.ofList bare, text.drop bare.length)

/-- Reads the parts of a key after the first one, each after a dot. -/
def keyRest? : (fuel : Nat) → List Char → Option (List String × List Char)
  | 0, _ => none
  | fuel + 1, text =>
    match skipSpaces text with
    | '.' :: rest => do
      let (key, rest) ← simpleKey? (skipSpaces rest)
      let (keys, rest) ← keyRest? fuel rest
      return (key :: keys, rest)
    | _ => some ([], text)

/-- A key of one or more parts. -/
structure Key where
  first : String
  rest : List String

/-- Reads a key. -/
def key? (text : List Char) : Option (Key × List Char) := do
  let (first, after) ← simpleKey? text
  let (rest, after) ← keyRest? (after.length + 1) after
  if rest.length < depthLimit then return (⟨first, rest⟩, after) else none

/-- The text after a comment, if it begins with one; `none` if the comment holds a control. -/
def skipComment? (text : List Char) : Option (List Char) :=
  match text with
  | '#' :: rest =>
    let after := rest.dropWhile isPlain
    if after.isEmpty || (lineEnd? after).isSome then some after else none
  | _ => some text

/-- The text after the lines that hold nothing but blanks and comments, and after the blanks that
follow them. -/
def skipBlankLines? : (fuel : Nat) → List Char → Option (List Char)
  | 0, _ => none
  | fuel + 1, text => do
    let text ← skipComment? (skipSpaces text)
    match lineEnd? text with
    | some rest => skipBlankLines? fuel rest
    | none => some text

/-- The text after blanks, line ends and comments. -/
def skipFiller? (text : List Char) : Option (List Char) := skipBlankLines? (text.length + 1) text

/-- Whether a character may stand in a scalar without quotes. -/
def isScalarChar (c : Char) : Bool := isBareChar c || c = '+' || c = '.' || c = ':'

/-- Splits the text of a scalar without quotes off a text. A date may go on with a time after one
space. -/
def splitScalar (text : List Char) : List Char × List Char :=
  let word := text.takeWhile isScalarChar
  let after := text.drop word.length
  match after with
  | ' ' :: more =>
    if (date? word).any List.isEmpty && (more.head?.any isDigit) then
      let time := more.takeWhile isScalarChar
      (word ++ ' ' :: time, more.drop time.length)
    else (word, after)
  | _ => (word, after)

mutual

/-- Reads a value in which `room` arrays and inline tables may be open at once. -/
def value? : (fuel room : Nat) → List Char → Option (Node × List Char)
  | 0, _, _ => none
  | fuel + 1, room, text =>
    match text with
    | [] => none
    | c :: rest =>
      if c = '"' ∨ c = '\x27' then
        (quoted? true text).map fun r => (.text (String.ofList r.1), r.2)
      else if c = '[' then
        if room = 0 then none
        else (items? fuel (room - 1) rest).map fun r => (.array r.1, r.2)
      else if c = '\x7b' then
        if room = 0 then none
        else (inlineEntries? fuel (room - 1) [] rest).map fun r => (.table .inline r.1, r.2)
      else
        let (word, after) := splitScalar text
        (scalar? word).map (·, after)

/-- Reads the items of an array up to its end. -/
def items? : (fuel room : Nat) → List Char → Option (List Node × List Char)
  | 0, _, _ => none
  | fuel + 1, room, text => do
    let text ← skipFiller? text
    match text with
    | ']' :: rest => return ([], rest)
    | _ =>
      let (item, after) ← value? fuel room text
      let after ← skipFiller? after
      match after with
      | ',' :: rest =>
        let (items, rest) ← items? fuel room rest
        return (item :: items, rest)
      | ']' :: rest => return ([item], rest)
      | _ => none

/-- Reads the entries of an inline table up to its end and adds them to those read before. -/
def inlineEntries? : (fuel room : Nat) → Entries → List Char → Option (Entries × List Char)
  | 0, _, _, _ => none
  | fuel + 1, room, entries, text => do
    let text ← skipFiller? text
    match text with
    | '\x7d' :: rest => return (entries, rest)
    | _ =>
      let (key, after) ← key? text
      let after ← skipFiller? after >>= after? (· = '=') >>= skipFiller?
      let (value, after) ← value? fuel room after
      let entries ← addDotted key.first key.rest value entries
      let after ← skipFiller? after
      match after with
      | ',' :: rest => inlineEntries? fuel room entries rest
      | '\x7d' :: rest => return (entries, rest)
      | _ => none

end

/-- A document that is being read: its tree, and the keys that lead to the table opened last. -/
structure Draft where
  root : Entries := []
  current : List String := []

/-- Reads the header of a table. -/
def tableHeader? (draft : Draft) (text : List Char) : Option (Draft × List Char) := do
  let (key, after) ← key? (skipSpaces text)
  let after ← after? (· = ']') (skipSpaces after)
  let keys := key.first :: key.rest
  let root ← changeAt keys.dropLast (openTable (keys.getLast?.getD "")) draft.root
  return (⟨root, keys⟩, after)

/-- Reads the header of a further table of a list. -/
def itemHeader? (draft : Draft) (text : List Char) : Option (Draft × List Char) := do
  let (key, after) ← key? (skipSpaces text)
  let after ← after? (· = ']') (skipSpaces after) >>= after? (· = ']')
  let keys := key.first :: key.rest
  let root ← changeAt keys.dropLast (openItem (keys.getLast?.getD "")) draft.root
  return (⟨root, keys⟩, after)

/-- Reads a key and its value. -/
def assignment? (draft : Draft) (text : List Char) : Option (Draft × List Char) := do
  let (key, after) ← key? text
  let after ← after? (· = '=') (skipSpaces after)
  let (value, after) ← value? (2 * after.length + 2) depthLimit (skipSpaces after)
  let root ← changeAt draft.current (addDotted key.first key.rest value) draft.root
  return (⟨root, draft.current⟩, after)

/-- Reads one statement. -/
def statement? (draft : Draft) (text : List Char) : Option (Draft × List Char) :=
  match text with
  | '[' :: '[' :: rest => itemHeader? draft rest
  | '[' :: rest => tableHeader? draft rest
  | _ => assignment? draft text

/-- Reads the lines of a document. -/
def lines? : (fuel : Nat) → Draft → List Char → Option Draft
  | 0, _, _ => none
  | fuel + 1, draft, text => do
    let text ← skipFiller? text
    if text.isEmpty then return draft
    let (draft, after) ← statement? draft text
    let after ← skipComment? (skipSpaces after)
    if after.isEmpty then return draft
    let rest ← lineEnd? after
    lines? fuel draft rest

/-- The entries of a document. A byte order mark before it is skipped. -/
def parse? (text : List Char) : Option Entries :=
  let text := if text.head? = some '\ufeff' then text.drop 1 else text
  (lines? (text.length + 1) {} text).map Draft.root

end LinkBus.Toml
