/-!
# Blanks, lines and words

Blank are the characters that Unicode lists as white space. A line ends before a line feed, and a
carriage return right before it belongs to the line end. Words are the maximal runs of characters
that are not blank.
-/

namespace LinkBus.Text

/-- The ranges of characters with the Unicode property White_Space. -/
def blankRanges : List (Nat × Nat) :=
  [(0x9, 0xd), (0x20, 0x20), (0x85, 0x85), (0xa0, 0xa0), (0x1680, 0x1680), (0x2000, 0x200a),
   (0x2028, 0x2029), (0x202f, 0x202f), (0x205f, 0x205f), (0x3000, 0x3000)]

/-- Whether a character lies in one of some ranges. -/
def inRanges (ranges : List (Nat × Nat)) (c : Char) : Bool :=
  ranges.any fun r => decide (r.1 ≤ c.toNat ∧ c.toNat ≤ r.2)

/-- Whether a character is white space. -/
def isBlank (c : Char) : Bool := inRanges blankRanges c

/-- Drops the blanks before a text. -/
def trimStart (text : List Char) : List Char := text.dropWhile isBlank

/-- Drops the blanks before and after a text. -/
def trim (text : List Char) : List Char := (trimStart (trimStart text).reverse).reverse

/-- Drops one carriage return at the end of a line. -/
def dropReturn (line : List Char) : List Char :=
  if line.getLast? = some '\r' then line.dropLast else line

/-- Splits a text at its line feeds; the second argument is the current line read so far. -/
def splitLines : List Char → List Char → List (List Char)
  | [], [] => []
  | [], current => [current]
  | '\n' :: rest, current => dropReturn current :: splitLines rest []
  | c :: rest, current => splitLines rest (current ++ [c])

/-- The lines of a text. What follows the last line feed is a line unless it is empty. -/
def lines (text : List Char) : List (List Char) := splitLines text []

/-- Splits a text at its blanks; the second argument is the current word read so far. -/
def splitWords : List Char → List Char → List (List Char)
  | [], [] => []
  | [], current => [current]
  | c :: rest, current =>
    if isBlank c then
      if current.isEmpty then splitWords rest [] else current :: splitWords rest []
    else splitWords rest (current ++ [c])

/-- The words of a text. -/
def words (text : List Char) : List (List Char) := splitWords text []

/-- What remains of a text after a beginning that it must have. -/
def stripStart? : List Char → List Char → Option (List Char)
  | [], text => some text
  | _ :: _, [] => none
  | p :: ps, c :: cs => if p = c then stripStart? ps cs else none

/-- Whether a name begins with some text. -/
def startsWith (name start : String) : Bool := (stripStart? start.toList name.toList).isSome

end LinkBus.Text
