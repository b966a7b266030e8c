/-
The text of scalars.

* `plainScalar` — a scalar without quotes;
* `quotedScalar` — a scalar in single or double quotes;
* `blockScalar` — the indented lines behind `|` or `>`.

Design notes: a single line break inside a scalar is a space, and of several
breaks the first is dropped.  In a block behind `|` all breaks are kept, and in
one behind `>` those next to lines that begin with space.
-/
import Meetings.Yaml.Cursor

namespace Meetings.Yaml

open Meetings.Text

/-- What a break, and those that follow it, stand for in a scalar. -/
def foldBreaks (first : Char) (more : List Char) : List Char :=
  if first != '\n' then first :: more
  else if more.isEmpty then [' ']
  else more

/-! ### Plain scalars -/

/-- A character that ends a plain scalar between brackets. -/
def isFlowMark (c : Char) : Bool := [',', '[', ']', '\x7b', '\x7d'].contains c

/-- How far a plain scalar reaches on its line. -/
def plainLength (inFlow : Bool) : List Char → Nat
  | [] => 0
  | c :: rest =>
    let next := rest.headD endChar
    if isGap c || (c = ':' && (isGap next || (inFlow && isFlowMark next))) ||
        (inFlow && (isFlowMark c || c = '?')) then 0
    else plainLength inFlow rest + 1

/-- Moves past the lines between two parts of a plain scalar.  Nothing is found
when a marker of a document follows. -/
def plainBreaks : Nat → List Char → Scan (Option (List Char))
  | 0, found => return some found.reverse
  | fuel + 1, found => do
    if (← Scan.peek) = ' ' then
      Scan.skip 1
      plainBreaks fuel found
    else match ← Scan.lineBreak with
      | none => return some found.reverse
      | some b => if (← get).atMarker then return none else plainBreaks fuel (b :: found)

/-- What stands between two parts of a plain scalar, and whether a line ended. -/
def plainSpaces : Scan (List Char × Bool) := do
  let spaces ← Scan.takeWhile (· = ' ')
  match ← Scan.lineBreak with
  | none => return (spaces, false)
  | some b =>
    if (← get).atMarker then return ([], true)
    match ← plainBreaks ((← get).rest.length + 1) [] with
    | none => return ([], true)
    | some more => return (foldBreaks b more, true)

/-- Reads a plain scalar from one of its parts on; `between` stands between it
and the characters found so far. -/
def plainParts (inFlow : Bool) (indent : Int) :
    Nat → List Char → List Char → Bool → Scan (String × Bool)
  | 0, found, _, lineEnded => return (String.ofList found, lineEnded)
  | fuel + 1, found, between, lineEnded => do
    let c ← get
    let length := if c.peek 0 = '#' then 0 else plainLength inFlow c.rest
    if length = 0 then return (String.ofList found, lineEnded)
    let found := found ++ between ++ c.rest.take length
    Scan.skip length
    let (between, lineEnded) ← plainSpaces
    if between.isEmpty || (← Scan.peek) = '#' || (!inFlow && (← get).column < indent) then
      return (String.ofList found, lineEnded)
    plainParts inFlow indent fuel found between lineEnded

/-- Reads a plain scalar whose further lines have at least the given indent, and
whether a line ended behind it. -/
def plainScalar (inFlow : Bool) (indent : Int) : Scan (String × Bool) := do
  plainParts inFlow indent ((← get).rest.length + 1) [] [] false

/-! ### Quoted scalars -/

/-- The characters of the escapes of one letter. -/
def escapes : List (Char × Char) :=
  [('0', '\x00'), ('a', '\x07'), ('b', '\x08'), ('t', '\t'), ('\t', '\t'), ('n', '\n'),
    ('v', '\x0b'), ('f', '\x0c'), ('r', '\r'), ('e', '\x1b'), (' ', ' '), ('\x22', '\x22'),
    ('\\', '\\'), ('/', '/'), ('N', '\x85'), ('_', '\xa0'), ('L', '\u2028'), ('P', '\u2029')]

/-- How many hexadecimal digits follow the letter of an escape. -/
def escapeDigits (c : Char) : Option Nat :=
  [('x', 2), ('u', 4), ('U', 8)].lookup c

/-- The number of hexadecimal digits. -/
def hexValue (cs : List Char) : Option Nat :=
  cs.foldlM (fun n c => (hexDigit? c).map (16 * n + ·)) 0

/-- The character of a code point.  Half of a pair has none of its own. -/
def charOfCode (n : Nat) : Scan Char :=
  if 0x110000 ≤ n then throw (.scalar (.codePoint n))
  else if 0xD800 ≤ n && n ≤ 0xDFFF then return '\ufffd'
  else return Char.ofNat n

/-- Moves past empty lines inside quotes. -/
def quotedBreaks : Scan (List Char) := Scan.repeatedly do
  if (← get).atMarker then Scan.malformed
  Scan.skipWhile fun c => c = ' ' || c = '\t'
  Scan.lineBreak

/-- Reads an escape, from the letter on. -/
def escape : Scan (List Char) := do
  let c ← Scan.peek
  if let some plain := escapes.lookup c then
    Scan.skip 1
    return [plain]
  else if let some count := escapeDigits c then
    Scan.skip 1
    let digits := (← get).rest.take count
    if digits.length < count then Scan.malformed
    match hexValue digits with
    | none => Scan.malformed
    | some code =>
      let plain ← charOfCode code
      Scan.skip count
      return [plain]
  else match ← Scan.lineBreak with
    | some _ => quotedBreaks
    | none => Scan.malformed

/-- A character that needs a closer look inside quotes. -/
def isQuotedStop (c : Char) : Bool := c = '\x27' || c = '\x22' || c = '\\' || isGap c

/-- Reads characters inside quotes up to space or the closing quote. -/
def quotedWord (double : Bool) : Scan (List Char) := do
  let parts ← Scan.repeatedly do
    let run ← Scan.takeWhile fun c => !isQuotedStop c
    let c ← Scan.peek
    if !double && c = '\x27' && (← Scan.peekAt 1) = '\x27' then
      Scan.skip 2
      return some (run ++ ['\x27'])
    else if (double && c = '\x27') || (!double && (c = '\x22' || c = '\\')) then
      Scan.skip 1
      return some (run ++ [c])
    else if double && c = '\\' then
      Scan.skip 1
      return some (run ++ (← escape))
    else if run.isEmpty then return none
    else return some run
  return parts.flatten

/-- Reads space inside quotes. -/
def quotedSpaces : Scan (List Char) := do
  let spaces ← Scan.takeWhile fun c => c = ' ' || c = '\t'
  if (← Scan.peek) = endChar then Scan.malformed
  match ← Scan.lineBreak with
  | none => return spaces
  | some b => return foldBreaks b (← quotedBreaks)

/-- Reads a scalar in quotes, from the opening quote on. -/
def quotedScalar (double : Bool) : Scan String := do
  let quote ← Scan.peek
  Scan.skip 1
  let first ← quotedWord double
  let more ← Scan.repeatedly do
    if (← Scan.peek) = quote then return none
    let spaces ← quotedSpaces
    return some (spaces ++ (← quotedWord double))
  Scan.skip 1
  return String.ofList (first ++ more.flatten)

/-! ### Block scalars -/

/-- What becomes of the line breaks at the end of a block. -/
inductive Chomping where
  /-- All are dropped. -/
  | strip
  /-- The first is kept. -/
  | clip
  | keep
deriving DecidableEq, Repr

/-- Reads a sign that says what becomes of the last line breaks. -/
def chompingSign : Scan (Option Chomping) := do
  match ← Scan.peek with
  | '+' => Scan.skip 1; return some .keep
  | '-' => Scan.skip 1; return some .strip
  | _ => return none

/-- Reads a digit that says how far a block is indented. -/
def indentDigit : Scan (Option Nat) := do
  match digit? (← Scan.peek) with
  | none => return none
  | some 0 => Scan.malformed
  | some n => Scan.skip 1; return some n

/-- Reads what follows the mark of a block on its line: a sign and a digit in
either order. -/
def blockHeader : Scan (Chomping × Option Nat) := do
  let early ← chompingSign
  let digit ← indentDigit
  let late ← if early.isNone && digit.isSome then chompingSign else pure none
  if !isWordEnd (← Scan.peek) then Scan.malformed
  Scan.finishLine
  return ((early <|> late).getD .clip, digit)

/-- Moves past the empty lines in front of a block; answers their breaks and the
column of the deepest space among them. -/
def leadingLines : Nat → List Char → Nat → Scan (List Char × Nat)
  | 0, found, widest => return (found.reverse, widest)
  | fuel + 1, found, widest => do
    if (← Scan.peek) = ' ' then
      Scan.skip 1
      leadingLines fuel found (max widest (← get).column)
    else match ← Scan.lineBreak with
      | some b => leadingLines fuel (b :: found) widest
      | none => return (found.reverse, widest)

/-- Moves past spaces up to a column. -/
def skipIndent (indent : Nat) : Scan Unit := do
  let c ← get
  let spaces := c.rest.takeWhile (· = ' ')
  Scan.skip (min spaces.length (indent - c.column))

/-- Moves past empty lines up to the indent of a line. -/
def blockBreaks (indent : Nat) : Scan (List Char) := do
  skipIndent indent
  Scan.repeatedly do
    match ← Scan.lineBreak with
    | none => return none
    | some b =>
      skipIndent indent
      return some b

/-- Reads the lines of a block from one of them on; answers them with the break
behind the last and the breaks that follow it. -/
def blockLines (folded : Bool) (indent : Nat) :
    Nat → List Char → List Char → Scan (List Char × List Char × List Char)
  | 0, found, breaks => return (found, [], breaks)
  | fuel + 1, found, breaks => do
    let opensWithSpace := [' ', '\t'].contains (← Scan.peek)
    let line ← Scan.takeWhile fun c => !isLineEnd c
    let found := found ++ breaks ++ line
    let ended ← Scan.lineBreak
    let breaks ← blockBreaks indent
    let next ← Scan.peek
    if (← get).column = indent && next != endChar then
      let kept := ended.toList
      if folded && ended = some '\n' && !opensWithSpace && !([' ', '\t'].contains next) then
        blockLines folded indent fuel (found ++ (if breaks.isEmpty then [' '] else [])) breaks
      else blockLines folded indent fuel (found ++ kept) breaks
    else return (found, ended.toList, breaks)

/-- Reads a block, from its mark on, inside a collection of the given indent. -/
def blockScalar (folded : Bool) (indent : Int) : Scan String := do
  Scan.skip 1
  let (chomping, digit) ← blockHeader
  let least := (max (indent + 1) 1).toNat
  let (breaks, indent) ← match digit with
    | some n =>
      let indent := least + n - 1
      pure ((← blockBreaks indent), indent)
    | none =>
      let (breaks, widest) ← leadingLines ((← get).rest.length + 1) [] 0
      pure (breaks, max least widest)
  let c ← get
  let (text, ended, breaks) ←
    if c.column = indent && c.peek 0 != endChar then
      blockLines folded indent (c.rest.length + 1) [] breaks
    else pure ([], [], breaks)
  return String.ofList (match chomping with
    | .strip => text
    | .clip => text ++ ended
    | .keep => text ++ ended ++ breaks)

end Meetings.Yaml
