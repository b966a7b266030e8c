/-
A place in the text of a YAML document.

* `Cursor` — what is left of the text, with the line and the column;
* `Scan` — computations that move a cursor and may find a fault;
* `Scan.repeatedly` — a step taken until it finds nothing more.

Design notes: the character `U+0000`, which no document may hold, stands for the
end of the text, so that looking ahead needs no case for it.
-/
import Meetings.Yaml.Fault

namespace Meetings.Yaml

/-- The character that stands for the end of the text. -/
def endChar : Char := '\x00'

/-- A character that a document may hold. -/
def isAdmitted (c : Char) : Bool :=
  let n := c.toNat
  n == 0x09 || n == 0x0A || n == 0x0D || (0x20 ≤ n && n ≤ 0x7E) || n == 0x85 ||
    (0xA0 ≤ n && n ≤ 0xD7FF) || (0xE000 ≤ n && n ≤ 0xFFFD) || 0x10000 ≤ n

/-- A character that breaks a line. -/
def isBreak (c : Char) : Bool :=
  c = '\n' || c = '\r' || c = '\x85' || c = '\u2028' || c = '\u2029'

/-- A line ends here. -/
def isLineEnd (c : Char) : Bool := c = endChar || isBreak c

/-- A word on a line of directives ends here. -/
def isWordEnd (c : Char) : Bool := c = ' ' || isLineEnd c

/-- A token ends here. -/
def isGap (c : Char) : Bool := c = '\t' || isWordEnd c

/-- A character of a name. -/
def isNameChar (c : Char) : Bool := c.isAlphanum || c = '-' || c = '_'

/-- A place in a text. -/
structure Cursor where
  rest : List Char
  /-- How many characters are behind. -/
  index : Nat := 0
  line : Nat := 0
  column : Nat := 0
deriving Repr

namespace Cursor

/-- The character so many places ahead. -/
def peek (c : Cursor) (ahead : Nat) : Char := (c.rest.drop ahead).headD endChar

/-- Moves past a character.  A carriage return before a line feed ends no line
of its own, and the byte order mark takes no column. -/
def step (c : Cursor) : Cursor :=
  match c.rest with
  | [] => c
  | x :: rest =>
    if isBreak x && !(x = '\r' && rest.head? = some '\n') then
      ⟨rest, c.index + 1, c.line + 1, 0⟩
    else if x = '\ufeff' then ⟨rest, c.index + 1, c.line, c.column⟩
    else ⟨rest, c.index + 1, c.line, c.column + 1⟩

/-- Moves past so many characters. -/
def advance : Nat → Cursor → Cursor
  | 0, c => c
  | n + 1, c => advance n c.step

/-- A marker of the start or the end of a document stands here. -/
def atMarker (c : Cursor) : Bool :=
  let three := c.rest.take 3
  (three == ['-', '-', '-'] || three == ['.', '.', '.']) && isGap (c.peek 3)

end Cursor

/-- Computations that move a cursor. -/
abbrev Scan := StateT Cursor (Except YamlFault)

namespace Scan

variable {α : Type}

/-- The text is no document. -/
def malformed : Scan α := throw .malformed

/-- The character so many places ahead. -/
def peekAt (ahead : Nat) : Scan Char := return (← get).peek ahead

/-- The next character. -/
def peek : Scan Char := peekAt 0

/-- Moves past so many characters. -/
def skip (n : Nat) : Scan Unit := modify (Cursor.advance n)

/-- Moves past the characters of a class. -/
def takeWhile (p : Char → Bool) : Scan (List Char) := do
  let taken := (← get).rest.takeWhile p
  skip taken.length
  return taken

/-- Moves past the characters of a class. -/
def skipWhile (p : Char → Bool) : Scan Unit := do
  let _ ← takeWhile p

/-- Moves past spaces. -/
def skipSpaces : Scan Unit := skipWhile (· = ' ')

/-- Takes a step until it finds nothing more, behind what was found. -/
def repeatFrom (step : Scan (Option α)) : Nat → List α → Scan (List α)
  | 0, found => return found.reverse
  | fuel + 1, found => do
    match ← step with
    | none => return found.reverse
    | some a => repeatFrom step fuel (a :: found)

/-- Takes a step until it finds nothing more.  A step that finds something moves
past a character, which bounds their number. -/
def repeatedly (step : Scan (Option α)) : Scan (List α) := do
  repeatFrom step ((← get).rest.length + 1) []

/-- Moves past a line break.  The separators of Unicode stand for themselves,
the other breaks for a line feed. -/
def lineBreak : Scan (Option Char) := do
  let c ← peek
  if c = '\r' && (← peekAt 1) = '\n' then
    skip 2
    return some '\n'
  else if c = '\u2028' || c = '\u2029' then
    skip 1
    return some c
  else if isBreak c then
    skip 1
    return some '\n'
  else return none

/-- Moves past a comment. -/
def skipComment : Scan Unit := do
  if (← peek) = '#' then skipWhile fun c => !isLineEnd c

/-- Moves past the rest of a line, which must be blank or a comment. -/
def finishLine : Scan Unit := do
  skipSpaces
  skipComment
  if !isLineEnd (← peek) then malformed
  let _ ← lineBreak

end Scan

end Meetings.Yaml
