/-
Whole numbers read from numerals.

* `readNumeral` — a sign, decimal digits of any script with single underscores
  between them, and space around;
* `NumeralFault` — why a value is no whole number.

Design notes: a numeral of too many digits is refused before it is read, as is
one with anything else in it, and the two are told apart.
-/
import Meetings.Text.Blank
import Meetings.Text.DecimalDigit
import Meetings.Text.Quoted

namespace Meetings

open Meetings.Text

/-- The most digits a numeral may have. -/
def numeralLimit : Nat := 4300

/-- Why a value is not read as a whole number. -/
inductive NumeralFault where
  | malformed (text : String)
  | tooLong (digits : Nat)
  /-- A number has too many digits to be written as one. -/
  | tooLongToWrite
  /-- The value is of a kind that never is a number. -/
  | notNumber (kindName : String)
  | notANumber
  | infinite
deriving DecidableEq, Repr

/-- What is said about a value that is no whole number. -/
def NumeralFault.message : NumeralFault → String
  | malformed text => "invalid literal for int() with base 10: " ++ quoted text
  | tooLong digits =>
    "Exceeds the limit (" ++ decimal numeralLimit ++
      " digits) for integer string conversion: value has " ++ decimal digits ++
      " digits; use sys.set_int_max_str_digits() to increase the limit"
  | tooLongToWrite =>
    "Exceeds the limit (" ++ decimal numeralLimit ++
      " digits) for integer string conversion; use sys.set_int_max_str_digits() to " ++
      "increase the limit"
  | notNumber kindName =>
    "int() argument must be a string, a bytes-like object or a real number, not '" ++
      kindName ++ "'"
  | notANumber => "cannot convert float NaN to integer"
  | infinite => "cannot convert float infinity to integer"

/-- Space around a numeral: that of ASCII, and every blank beyond it. -/
def isNumeralSpace (c : Char) : Bool :=
  isPlainSpace c || (127 < c.toNat && isBlank c)

/-- The digits of a run with single underscores between them. -/
def underscoredDigits : List Char → Option (List Nat)
  | [] => none
  | [c] => (anyDigit? c).map ([·])
  | c :: '_' :: rest => do
    let d ← anyDigit? c
    return d :: (← underscoredDigits rest)
  | c :: rest => do
    let d ← anyDigit? c
    return d :: (← underscoredDigits rest)

/-- Splits a sign off; the flag is set by a minus. -/
def splitSign : List Char → Bool × List Char
  | '-' :: cs => (true, cs)
  | '+' :: cs => (false, cs)
  | cs => (false, cs)

/-- The whole number that a numeral stands for. -/
def readNumeral (text : String) : Except NumeralFault Int :=
  let (negative, cs) := splitSign (trim isNumeralSpace text.toList)
  match underscoredDigits cs with
  | none => .error (.malformed text)
  | some ds =>
    if numeralLimit < ds.length then .error (.tooLong ds.length)
    else
      let n : Nat := ds.foldl (fun n d => 10 * n + d) 0
      .ok (if negative then -(n : Int) else n)

end Meetings
