import LinkBus.Text.Digits

/-!
# Quoted text in TOML

The four ways to quote a text. Between double quotes a backslash starts an escape; between single
quotes everything stands for itself. Tripled quotes allow line feeds, of which one right after the
opening is dropped, and up to two quotes before the closing ones.

Writing picks the first way that needs no escape: double, single, tripled double, tripled single;
only if none does, escapes are used. A tab does not matter for that choice: it stands for itself
between single quotes and is escaped between double ones.
-/

namespace LinkBus.Toml

/-- Whether a character is a control other than a tab or a line feed. -/
def isControl (c : Char) : Bool := (c.toNat < 0x20 && c ≠ '\t' && c ≠ '\n') || c.toNat = 0x7f

/-- Whether a character may stand for itself in a text or a comment. -/
def isPlain (c : Char) : Bool := c = '\t' || (0x20 ≤ c.toNat && c.toNat ≠ 0x7f)

/-- The character whose number is written in `count` hexadecimal digits, and the text after it. -/
def numbered? (count : Nat) (text : List Char) : Option (Char × List Char) :=
  let ds := text.take count
  if ds.length = count then
    (Text.readNumber? 16 ds).bind fun n =>
      if h : n.isValidChar then some (Char.ofNatAux n h, text.drop count) else none
  else none

/-- The character that an escape stands for, given the text after the backslash. -/
def escaped? : List Char → Option (Char × List Char)
  | 'b' :: rest => some ('\x08', rest)
  | 't' :: rest => some ('\t', rest)
  | 'n' :: rest => some ('\n', rest)
  | 'f' :: rest => some ('\x0c', rest)
  | 'r' :: rest => some ('\r', rest)
  | 'e' :: rest => some ('\x1b', rest)
  | '"' :: rest => some ('"', rest)
  | '\\' :: rest => some ('\\', rest)
  | 'x' :: rest => numbered? 2 rest
  | 'u' :: rest => numbered? 4 rest
  | 'U' :: rest => numbered? 8 rest
  | _ => none

/-- The number of equal characters that a text begins with. -/
def runOf (c : Char) (text : List Char) : Nat := (text.takeWhile (· = c)).length

/-- The text after a line end. -/
def lineEnd? : List Char → Option (List Char)
  | '\n' :: rest => some rest
  | '\r' :: '\n' :: rest => some rest
  | _ => none

/-- Whether a character is a blank within a line. -/
def isSpace (c : Char) : Bool := c = ' ' || c = '\t'

/-- The text after the blanks and line ends that it begins with. -/
def skipLines : (fuel : Nat) → List Char → List Char
  | 0, text => text
  | fuel + 1, text =>
    let text := text.dropWhile isSpace
    match lineEnd? text with
    | some rest => skipLines fuel rest
    | none => text

/-- The text after a backslash that ends a line, with the blanks and lines that follow it. -/
def continued? (text : List Char) : Option (List Char) :=
  (lineEnd? (text.dropWhile isSpace)).map fun rest => skipLines (rest.length + 1) rest

/-- Reads up to the quote that ends a line of text. -/
def readLine? (quote : Char) : (fuel : Nat) → List Char → Option (List Char × List Char)
  | 0, _ => none
  | _ + 1, [] => none
  | fuel + 1, c :: rest =>
    if c = quote then some ([], rest)
    else if c = '\\' ∧ quote = '"' then do
      let (e, rest) ← escaped? rest
      let (cs, rest) ← readLine? quote fuel rest
      return (e :: cs, rest)
    else if isPlain c then (readLine? quote fuel rest).map fun r => (c :: r.1, r.2)
    else none

/-- Reads up to the tripled quotes that end a text. -/
def readLines? (quote : Char) : (fuel : Nat) → List Char → Option (List Char × List Char)
  | 0, _ => none
  | _ + 1, [] => none
  | fuel + 1, c :: rest =>
    if c = quote then
      let run := runOf quote (c :: rest)
      if run ≤ 2 then (readLines? quote fuel rest).map fun r => (c :: r.1, r.2)
      else if run ≤ 5 then some (List.replicate (run - 3) quote, (c :: rest).drop run)
      else none
    else if c = '\\' ∧ quote = '"' then
      match continued? rest with
      | some rest => readLines? quote fuel rest
      | none => do
        let (e, rest) ← escaped? rest
        let (cs, rest) ← readLines? quote fuel rest
        return (e :: cs, rest)
    else if isPlain c ∨ (lineEnd? (c :: rest)).isSome then
      (readLines? quote fuel rest).map fun r => (c :: r.1, r.2)
    else none

/-- Reads a quoted text, given the text that begins with the opening quote. `multiline` says whether
tripled quotes are allowed. -/
def quoted? (multiline : Bool) (text : List Char) : Option (List Char × List Char) :=
  match text with
  | [] => none
  | quote :: rest =>
    if multiline ∧ 3 ≤ runOf quote text then
      let body := text.drop 3
      readLines? quote (body.length + 1) ((lineEnd? body).getD body)
    else readLine? quote (rest.length + 1) rest

/-- The length of the longest run of a character in a text. -/
def longestRun (c : Char) : List Char → Nat
  | [] => 0
  | text@(_ :: rest) => max (runOf c text) (longestRun c rest)

/-- An upper-case hexadecimal number of four digits. -/
def fourDigits (n : Nat) : List Char :=
  [Text.upperDigit (n / 4096 % 16), Text.upperDigit (n / 256 % 16), Text.upperDigit (n / 16 % 16),
    Text.upperDigit (n % 16)]

/-- What stands for a character where escapes are used. -/
def escapeChar (c : Char) : List Char :=
  if c = '\x08' then ['\\', 'b']
  else if c = '\t' then ['\\', 't']
  else if c = '\x0c' then ['\\', 'f']
  else if c = '\r' then ['\\', 'r']
  else if c = '\\' then ['\\', '\\']
  else if isControl c then ['\\', 'u'] ++ fourDigits c.toNat
  else [c]

/-- Writes the characters of a text with escapes. `most` quotes may stand in a row, `run` of them
have been written; line feeds stand for themselves if `multiline` holds. -/
def escapeAll (multiline : Bool) (most : Nat) : (run : Nat) → List Char → List Char
  | _, [] => []
  | run, c :: rest =>
    if c = '"' then
      if run < most then '"' :: escapeAll multiline most (run + 1) rest
      else '\\' :: '"' :: escapeAll multiline most 0 rest
    else if c = '\n' ∧ ¬ multiline then '\\' :: 'n' :: escapeAll multiline most 0 rest
    else escapeChar c ++ escapeAll multiline most 0 rest

/-- A text between tripled quotes. A line feed after the opening keeps one in the text apart. -/
def tripled (quote : Char) (hasLines : Bool) (body : List Char) : List Char :=
  List.replicate 3 quote ++ (if hasLines then ['\n'] else []) ++ body ++ List.replicate 3 quote

/-- Writes a text in quotes. -/
def quote (text : List Char) : List Char :=
  let controls := text.any isControl
  let hasLines := text.contains '\n'
  let backslash := text.contains '\\'
  let doubles := longestRun '"' text
  let singles := longestRun '\x27' text
  let escapedLine := ['"'] ++ escapeAll false 0 0 text ++ ['"']
  let escapedLines := tripled '"' hasLines (escapeAll true 2 0 text)
  if !controls && !backslash && doubles = 0 && !hasLines then escapedLine
  else if !controls && singles = 0 && !hasLines then ['\x27'] ++ text ++ ['\x27']
  else if !controls && !backslash && doubles ≤ 2 then escapedLines
  else if !controls && singles ≤ 2 then tripled '\x27' hasLines text
  else if hasLines then escapedLines
  else escapedLine

end LinkBus.Toml
