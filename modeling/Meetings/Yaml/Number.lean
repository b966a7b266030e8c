/-
Numbers written in scalars.

* `readInteger` — whole numbers in base 2, 8, 10, 16 or in sixtieths;
* `readReal` — binary64 numbers, also in sixtieths.

Design notes: underscores are passed over wherever they stand.  A sign in front
is taken off first, and what is left may have a sign of its own.
-/
import Meetings.Number.Binary64
import Meetings.Yaml.Fault

namespace Meetings.Yaml

open Meetings.Text

/-- The value of a digit of a base up to 36. -/
def digitIn? (base : Nat) (c : Char) : Option Nat :=
  let value :=
    if 'a' ≤ c ∧ c ≤ 'z' then some (c.toNat - 87)
    else if 'A' ≤ c ∧ c ≤ 'Z' then some (c.toNat - 55)
    else anyDigit? c
  value.filter (· < base)

/-- The letters that mark a base behind a zero. -/
def baseLetters : Nat → List Char
  | 2 => ['b', 'B']
  | 8 => ['o', 'O']
  | 16 => ['x', 'X']
  | _ => []

/-- Drops the mark of a base. -/
def dropBaseMark (base : Nat) : List Char → List Char
  | '0' :: c :: rest => if (baseLetters base).contains c then rest else '0' :: c :: rest
  | cs => cs

/-- Reads a whole number in a base that is a power of two. -/
def readInBase (base : Nat) (text : List Char) : Except ScalarFault Int :=
  let (negative, cs) := splitSign (trim isNumeralSpace text)
  let digits := dropBaseMark base cs
  match digits.mapM (digitIn? base) with
  | some (d :: ds) =>
    let n : Nat := (d :: ds).foldl (fun n d => base * n + d) 0
    .ok (if negative then -(n : Int) else n)
  | _ => .error (.notInteger base (String.ofList text))

/-- Reads a whole number in base 10. -/
def readDecimal (text : List Char) : Except ScalarFault Int :=
  match readNumeral (String.ofList text) with
  | .ok n => .ok n
  | .error (.tooLong digits) => .error (.overlongInteger digits)
  | .error _ => .error (.notInteger 10 (String.ofList text))

/-- The parts of a text between colons. -/
def splitColons (cs : List Char) : List (List Char) :=
  cs.foldr (fun c parts =>
    if c = ':' then [] :: parts
    else match parts with
      | part :: rest => (c :: part) :: rest
      | [] => [[c]]) [[]]

/-- Takes a sign and the underscores off. -/
def unsigned (text : String) : Except ScalarFault (Bool × List Char) :=
  match text.toList.filter (· != '_') with
  | [] => .error .emptyNumber
  | cs => .ok (splitSign cs)

/-- Reads a whole number. -/
def readInteger (text : String) : Except ScalarFault Int := do
  let (negative, cs) ← unsigned text
  let n ← match cs with
    | [] => throw .emptyNumber
    | ['0'] => pure 0
    | '0' :: 'b' :: rest => readInBase 2 rest
    | '0' :: 'x' :: rest => readInBase 16 rest
    | '0' :: _ => readInBase 8 cs
    | _ =>
      if cs.contains ':' then do
        let parts ← (splitColons cs).mapM readDecimal
        pure (parts.foldl (fun n part => 60 * n + part) 0)
      else readDecimal cs
  return if negative then -n else n

/-- The letters of ASCII as small letters. -/
def smallLetters (cs : List Char) : List Char := cs.map Char.toLower

/-- Reads digits, a fraction and an exponent. -/
def readDigits (negative : Bool) (cs : List Char) : Option Binary64 := do
  let value (ds : List Char) : Nat :=
    ds.foldl (fun n c => 10 * n + (anyDigit? c).getD 0) 0
  let whole := cs.takeWhile isAnyDigit
  let rest := cs.dropWhile isAnyDigit
  let fraction := match rest with
    | '.' :: rest => rest.takeWhile isAnyDigit
    | _ => []
  let rest := match rest with
    | '.' :: rest => rest.dropWhile isAnyDigit
    | rest => rest
  if whole.isEmpty && fraction.isEmpty then none
  let exponent : Int ← match rest with
    | [] => some 0
    | e :: rest =>
      if e = 'e' || e = 'E' then
        let (down, ds) := splitSign rest
        if ds.isEmpty || !ds.all isAnyDigit then none
        else some (if down then -(value ds : Int) else value ds)
      else none
  return .ofDecimal negative (value (whole ++ fraction)) (exponent - fraction.length)

/-- Reads a binary64 number. -/
def readPoint (text : List Char) : Except ScalarFault Binary64 :=
  let (negative, cs) := splitSign (trim isNumeralSpace text)
  let word := String.ofList (smallLetters cs)
  if word = "inf" || word = "infinity" then .ok (.infinite negative)
  else if word = "nan" then .ok .nan
  else match readDigits negative cs with
    | some x => .ok x
    | none => .error (.notReal (String.ofList text))

/-- The sum of numbers that count sixtieths of each other, the last the least. -/
def sumSixtieths (parts : List Binary64) : Binary64 :=
  let step (sum : Binary64 × Nat) (part : Binary64) : Binary64 × Nat :=
    (sum.1.plus (part.times (.ofInt sum.2)), 60 * sum.2)
  (parts.reverse.foldl step (.zero, 1)).1

/-- Reads a number with a point. -/
def readReal (text : String) : Except ScalarFault Binary64 := do
  let (negative, cs) ← unsigned text
  let cs := smallLetters cs
  let x ←
    if cs = ".inf".toList then pure (.infinite false)
    else if cs = ".nan".toList then pure .nan
    else if cs.contains ':' then do pure (sumSixtieths (← (splitColons cs).mapM readPoint))
    else readPoint cs
  return if negative then x.negate else x

end Meetings.Yaml
