import LinkBus.Toml.Quoted
import LinkBus.Text.Digits

/-!
# Writing TOML

A document is a row of sections of keys and plain values. Sections are parted by a blank line, and a
list of more than one text takes a line for each.
-/

namespace LinkBus.Toml

/-- A plain value. -/
inductive Plain
  | boolean (b : Bool)
  | number (n : Nat)
  | text (s : String)
  | texts (items : List String)

/-- A section: its name, its keys and their values. -/
structure Section where
  name : String
  entries : List (String × Plain)

/-- A text in quotes. -/
def writeText (s : String) : List Char := quote s.toList

/-- One item of a list on a line of its own. -/
def writeItem (s : String) : List Char := "    ".toList ++ writeText s ++ [',', '\n']

/-- A plain value. -/
def Plain.write : Plain → List Char
  | boolean b => (if b then "true" else "false").toList
  | number n => Text.decimal n
  | text s => writeText s
  | texts [] => ['[', ']']
  | texts [s] => ['['] ++ writeText s ++ [']']
  | texts items => ['[', '\n'] ++ items.flatMap writeItem ++ [']']

/-- A line with a key and its value. -/
def writeEntry (entry : String × Plain) : List Char :=
  entry.1.toList ++ [' ', '=', ' '] ++ entry.2.write ++ ['\n']

/-- A header and the lines under it. -/
def Section.write (s : Section) : List Char :=
  ['['] ++ s.name.toList ++ [']', '\n'] ++ s.entries.flatMap writeEntry

/-- A document. -/
def writeSections : List Section → List Char
  | [] => []
  | [s] => s.write
  | s :: rest => s.write ++ ['\n'] ++ writeSections rest

end LinkBus.Toml
