/-
JSON documents written as text.

* `Json.pretty` — one value to a line, indented by two spaces;
* `Json.cut` — what is written of it when a whole number has too many digits to
  be written;
* `Json.line` — the whole value on one line.

Text is written in ASCII, other characters as escapes of UTF-16 units.

Design notes: the printers give lists of characters, as the reader takes them.
-/
import Meetings.Json.Value
import Meetings.Number.Numeral
import Meetings.Number.Shortest

namespace Meetings.Json

open Meetings.Text

/-- An escape of one UTF-16 unit. -/
def unitEscape (n : Nat) : List Char := '\\' :: 'u' :: hexChars 4 n

/-- A character inside quotation marks. -/
def escaped (c : Char) : List Char :=
  let n := c.toNat
  if c = '\x22' || c = '\\' then ['\\', c]
  else if c = '\n' then ['\\', 'n']
  else if c = '\r' then ['\\', 'r']
  else if c = '\t' then ['\\', 't']
  else if c = '\x08' then ['\\', 'b']
  else if c = '\x0c' then ['\\', 'f']
  else if 0x20 ≤ n && n < 0x7F then [c]
  else if n < 0x10000 then unitEscape n
  else
    unitEscape (0xD800 + (n - 0x10000) / 0x400) ++ unitEscape (0xDC00 + (n - 0x10000) % 0x400)

/-- Text in quotation marks. -/
def textChars (s : String) : List Char :=
  '\x22' :: s.toList.flatMap escaped ++ ['\x22']

/-- The line break before a value at a level of nesting. -/
def newline (level : Nat) : List Char := '\n' :: List.replicate (2 * level) ' '

/-- Numbers and words. -/
def scalarChars : Json → List Char
  | null => "null".toList
  | bool b => (if b then "true" else "false").toList
  | int n => signedChars n
  | real x => (x.shortestWith "Infinity" "NaN").toList
  | str s => textChars s
  | _ => []

mutual

/-- A value at a level of nesting, one value to a line. -/
def prettyChars (level : Nat) : Json → List Char
  | arr [] => ['[', ']']
  | arr (item :: rest) =>
    '[' :: newline (level + 1) ++ prettyChars (level + 1) item ++
      prettyItems (level + 1) rest ++ newline level ++ [']']
  | obj [] => ['\x7b', '\x7d']
  | obj ((key, value) :: rest) =>
    '\x7b' :: newline (level + 1) ++ textChars key ++ [':', ' '] ++
      prettyChars (level + 1) value ++ prettyFields (level + 1) rest ++ newline level ++ ['\x7d']
  | value => scalarChars value

/-- The items after the first of an array. -/
def prettyItems (level : Nat) : List Json → List Char
  | [] => []
  | item :: rest => ',' :: newline level ++ prettyChars level item ++ prettyItems level rest

/-- The fields after the first of an object. -/
def prettyFields (level : Nat) : List (String × Json) → List Char
  | [] => []
  | (key, value) :: rest =>
    ',' :: newline level ++ textChars key ++ [':', ' '] ++ prettyChars level value ++
      prettyFields level rest

end

/-- A value with one value to a line. -/
def pretty (v : Json) : String := String.ofList (prettyChars 0 v)

/-- A whole number has more digits than are written. -/
def overlong (n : Int) : Bool := numeralLimit < (decimalChars n.natAbs).length

/-- The value is a whole number. -/
def isInt : Json → Bool
  | int _ => true
  | _ => false

mutual

/-- What is written of a value at a level of nesting before its first whole
number with too many digits, if it holds one. -/
def cutChars (level : Nat) : Json → Option (List Char)
  | int n => if overlong n then some [] else none
  | arr items => cutItems (level + 1) ('[' :: newline (level + 1)) items
  | obj fields => cutFields (level + 1) ('\x7b' :: newline (level + 1)) fields
  | _ => none

/-- The same for the items of an array, behind what parts them from those before.
It is written together with a number, and so not at all when the number is not. -/
def cutItems (level : Nat) (before : List Char) : List Json → Option (List Char)
  | [] => none
  | item :: rest =>
    match cutChars level item with
    | some written => some (if item.isInt then [] else before ++ written)
    | none =>
      (cutItems level (',' :: newline level) rest).map (before ++ prettyChars level item ++ ·)

/-- The same for the fields of an object. -/
def cutFields (level : Nat) (before : List Char) : List (String × Json) → Option (List Char)
  | [] => none
  | (key, value) :: rest =>
    let opened := before ++ textChars key ++ [':', ' ']
    match cutChars level value with
    | some written => some (opened ++ written)
    | none =>
      (cutFields level (',' :: newline level) rest).map (opened ++ prettyChars level value ++ ·)

end

/-- What is written of a value before its first whole number with too many
digits, if it holds one. -/
def cut (v : Json) : Option String := (cutChars 0 v).map String.ofList

mutual

/-- A value on one line. -/
def lineChars : Json → List Char
  | arr [] => ['[', ']']
  | arr (item :: rest) => '[' :: lineChars item ++ lineItems rest ++ [']']
  | obj [] => ['\x7b', '\x7d']
  | obj ((key, value) :: rest) =>
    '\x7b' :: textChars key ++ [':'] ++ lineChars value ++ lineFields rest ++ ['\x7d']
  | value => scalarChars value

/-- The items after the first of an array. -/
def lineItems : List Json → List Char
  | [] => []
  | item :: rest => ',' :: lineChars item ++ lineItems rest

/-- The fields after the first of an object. -/
def lineFields : List (String × Json) → List Char
  | [] => []
  | (key, value) :: rest =>
    ',' :: textChars key ++ [':'] ++ lineChars value ++ lineFields rest

end

/-- A value on one line. -/
def line (v : Json) : String := String.ofList (lineChars v)

end Meetings.Json
