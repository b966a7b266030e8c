/-
Whole numbers read leniently.

* `lenientText` — a numeral in text: space around it, a plus sign, zeros in
  front, single underscores and a fraction of zeros are overlooked;
* `lenientReal` — a binary64 number without a fraction;
* `lenientInteger` — any raw value.

Design notes: a minus sign is part of the strict numeral, so zeros that follow
it are not overlooked.
-/
import Meetings.Json.Value
import Meetings.Lenient.Fault
import Meetings.Number.Numeral

namespace Meetings

open Meetings.Text

/-- Reads a strict numeral: digits without a zero in front, perhaps negative. -/
def strictNumeral (cs : List Char) : Except LenientFault Int :=
  let digitsOnly (ds : List Char) : Bool :=
    !ds.isEmpty && ds.all isDigit && (ds.head? != some '0' || ds.length == 1)
  let (negative, ds) := match cs with
    | '-' :: rest => (true, rest)
    | cs => (false, cs)
  if !digitsOnly ds then .error .unreadableInteger
  else if numeralLimit < ds.length then .error .overlongInteger
  else .ok (if negative then -(digitsValue ds : Int) else digitsValue ds)

/-- Drops zeros and underscores in front of a numeral that starts with a zero.
One zero is kept before a point and at the end. -/
def dropLeadingZeros : List Char → Option (List Char)
  | [] => none
  | '0' :: rest =>
    let tail := rest.dropWhile fun c => c = '0' || c = '_'
    match tail with
    | [] => some [(rest.getLast?).getD '0']
    | '.' :: _ =>
      let skipped := rest.takeWhile fun c => c = '0' || c = '_'
      some ((skipped.getLast?).getD '0' :: tail)
    | c :: _ => if isDigit c then some tail else none
  | c :: rest => if isDigit c || c = '-' then some (c :: rest) else none

/-- Drops a point and the zeros behind it at the end of a numeral. -/
def dropZeroFraction (cs : List Char) : Option (List Char) :=
  match cs.dropWhile (· != '.') with
  | [] => some cs
  | _ :: zeros =>
    if !zeros.isEmpty && zeros.all (· == '0') then some (cs.takeWhile (· != '.')) else none

/-- Drops single underscores that stand between other characters. -/
def dropUnderscores : List Char → Option (List Char)
  | [] => some []
  | ['_'] => none
  | '_' :: '_' :: _ => none
  | '_' :: rest => dropUnderscores rest
  | c :: rest => (dropUnderscores rest).map (c :: ·)

/-- What is left of a numeral without all that is overlooked. -/
def plainNumeral (cs : List Char) : Option (List Char) := do
  let cs ← match cs with
    | '+' :: '-' :: _ => none
    | '+' :: rest => some rest
    | cs => some cs
  let cs ← dropZeroFraction (← dropLeadingZeros cs)
  if cs.head? = some '_' then none
  dropUnderscores cs

/-- Reads a whole number from text. -/
def lenientText (s : String) : Except LenientFault Int :=
  let cs := trim isPropertySpace s.toList
  match strictNumeral cs with
  | .error .unreadableInteger =>
    match plainNumeral cs with
    | some plain => strictNumeral plain
    | none => .error .unreadableInteger
  | answer => answer

/-- Reads a whole number from a binary64 number, which must be one of 64 bits. -/
def lenientReal (x : Binary64) : Except LenientFault Int :=
  if !x.isFinite then .error .notFinite
  else match x.integer? with
    | none => .error .fractional
    | some n =>
      if -9223372036854775808 < n ∧ n < 9223372036854775808 then .ok n
      else .error .overlongInteger

/-- Reads a whole number from a raw value. -/
def lenientInteger : Json → Except LenientFault Int
  | .int n => .ok n
  | .bool b => .ok (if b then 1 else 0)
  | .real x => lenientReal x
  | .str s => lenientText s
  | _ => .error .notInteger

/-- Reads a list of whole numbers; the first that is none decides. -/
def lenientIntegers : Json → Except LenientFault (List Int)
  | .arr items => items.mapM lenientInteger
  | _ => .error .notList

end Meetings
