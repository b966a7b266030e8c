/-
Bytes written as text in base 64.

* `decodeBase64` — the bytes of a text.

Design notes: characters that stand for nothing are passed over.  A group of
four characters may be filled with equals signs, which end the text; without
them the group must be complete.
-/

namespace Meetings.Text

/-- The value of a character in base 64. -/
def sextet? (c : Char) : Option Nat :=
  if 'A' ≤ c ∧ c ≤ 'Z' then some (c.toNat - 65)
  else if 'a' ≤ c ∧ c ≤ 'z' then some (c.toNat - 71)
  else if '0' ≤ c ∧ c ≤ '9' then some (c.toNat + 4)
  else if c = '+' then some 62
  else if c = '/' then some 63
  else none

/-- Reads a text behind the bytes found so far.  `group` holds the values of the
group of four that is not complete, the last in front, and `fill` the number of
equals signs behind them. -/
def base64From : List UInt8 → List Nat → Nat → List Char → Option (List UInt8)
  | found, group, _, [] => if group.isEmpty then some found.reverse else none
  | found, group, fill, c :: rest =>
    if c = '=' then
      if 2 ≤ group.length && 4 ≤ group.length + fill + 1 then some found.reverse
      else base64From found group (if 2 ≤ group.length then fill + 1 else fill) rest
    else match sextet? c with
      | none => base64From found group fill rest
      | some v =>
        match group with
        | [] => base64From found [v] 0 rest
        | [a] => base64From (UInt8.ofNat (a * 4 + v / 16) :: found) [v, a] 0 rest
        | [b, a] => base64From (UInt8.ofNat (b % 16 * 16 + v / 4) :: found) [v, b, a] 0 rest
        | last :: _ => base64From (UInt8.ofNat (last % 4 * 64 + v) :: found) [] 0 rest

/-- The bytes of a text in base 64. -/
def decodeBase64 (text : String) : Option (List UInt8) := base64From [] [] 0 text.toList

end Meetings.Text
