import LinkBus.Text.Digits
import LinkBus.Text.Printable

/-!
# Characters in quotes

A character between single quotes, so that it can be told apart in a message. Characters that show
nothing or would combine with the quote are written by number.
-/

namespace LinkBus.Text

/-- A character by its number. -/
def numberedChar (c : Char) : List Char :=
  ['\\', 'u', '\x7b'] ++ hex c.toNat ++ ['\x7d']

/-- What stands for a character between quotes. -/
def charBody (c : Char) : List Char :=
  if c = '\x00' then ['\\', '0']
  else if c = '\t' then ['\\', 't']
  else if c = '\r' then ['\\', 'r']
  else if c = '\n' then ['\\', 'n']
  else if c = '\x27' ∨ c = '\\' then ['\\', c]
  else if isExtending c then numberedChar c
  else if isPrintable c then [c]
  else numberedChar c

/-- A character in single quotes. -/
def charLiteral (c : Char) : String := String.ofList (['\x27'] ++ charBody c ++ ['\x27'])

end LinkBus.Text
