/-
Numbers written in decimal digits.

* `decimal` — a natural number, shortest form;
* `signedDecimal` — an integer, with a minus sign when negative;
* `padded` — a natural number filled with zeros to a width;
* `digitsValue` — the number that a run of digits stands for.

Design notes: everything is built on lists of characters, so a reader that
consumes a list can be compared with the text written here.
-/

namespace Meetings.Text

/-- The digits of a natural number. -/
def decimalChars (n : Nat) : List Char := Nat.toDigits 10 n

/-- A natural number in decimal. -/
def decimal (n : Nat) : String := String.ofList (decimalChars n)

/-- The characters of an integer in decimal. -/
def signedChars : Int → List Char
  | .ofNat n => decimalChars n
  | .negSucc n => '-' :: decimalChars (n + 1)

/-- An integer in decimal. -/
def signedDecimal (n : Int) : String := String.ofList (signedChars n)

/-- A natural number in decimal with zeros in front up to a width. -/
def paddedChars (width n : Nat) : List Char :=
  let ds := decimalChars n
  List.replicate (width - ds.length) '0' ++ ds

/-- A natural number in decimal with zeros in front up to a width. -/
def padded (width n : Nat) : String := String.ofList (paddedChars width n)

/-- The value of an ASCII digit. -/
def digit? (c : Char) : Option Nat :=
  if '0' ≤ c ∧ c ≤ '9' then some (c.toNat - 48) else none

/-- An ASCII digit. -/
def isDigit (c : Char) : Bool := (digit? c).isSome

/-- The number that a run of ASCII digits stands for; other characters count as 0. -/
def digitsValue (cs : List Char) : Nat :=
  cs.foldl (fun n c => 10 * n + (digit? c).getD 0) 0

/-- The value of a hexadecimal digit. -/
def hexDigit? (c : Char) : Option Nat :=
  if '0' ≤ c ∧ c ≤ '9' then some (c.toNat - 48)
  else if 'a' ≤ c ∧ c ≤ 'f' then some (c.toNat - 87)
  else if 'A' ≤ c ∧ c ≤ 'F' then some (c.toNat - 55)
  else none

/-- The character of a hexadecimal digit below 16. -/
def hexChar (n : Nat) : Char :=
  if n < 10 then Char.ofNat (48 + n) else Char.ofNat (87 + n)

/-- The lowest `width` hexadecimal digits of a number. -/
def hexChars : Nat → Nat → List Char
  | 0, _ => []
  | width + 1, n => hexChars width (n / 16) ++ [hexChar (n % 16)]

end Meetings.Text
