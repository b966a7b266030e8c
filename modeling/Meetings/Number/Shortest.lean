/-
Binary64 numbers written as text.

* `Binary64.shortest` — the fewest digits that read back as the same number,
  and of those the nearest to it: positional from `0.0001` up to below
  `10 ^ 16`, with an exponent outside;
* `Binary64.places` — a fixed number of digits after the point, a half going to
  the even neighbour.

Design notes: the numbers that read back as `x` form an interval between the
midpoints to its neighbours, whose ends belong to it when the significand of
`x` is even.  The shortest digits are found on the decimal grids, coarsest
first, by testing the two neighbours of `x` on each grid in integer arithmetic.
-/
import Meetings.Number.Binary64
import Meetings.Text.Digits

namespace Meetings.Binary64

open Meetings.Text

/-- The spacing of the format at a number of units. -/
def spacing (units : Nat) : Nat := Nat.pow 2 (Nat.log2 units - 52)

/-- A fraction of units reads back as the given positive number of units.  All
is doubled, so that the midpoints to the neighbours are whole. -/
def readsBack (units num den : Nat) : Bool :=
  let up := spacing units
  let down := if units = up * Nat.pow 2 52 && 1 < up then up / 2 else up
  let low := (2 * units - down) * den
  let high := (2 * units + up) * den
  if units / up % 2 = 0 then low ≤ 2 * num && 2 * num ≤ high
  else low < 2 * num && 2 * num < high

/-- The power of ten as a fraction. -/
def tenTo (k : Int) : Nat × Nat :=
  if 0 ≤ k then (Nat.pow 10 k.natAbs, 1) else (1, Nat.pow 10 k.natAbs)

/-- The neighbour of a number on the grid of multiples of `10 ^ k` that reads
back as it, the nearer one if both do. -/
def onGrid (units : Nat) (k : Int) : Option Nat :=
  let (p, q) := tenTo k
  let num := units * q
  let den := p * unitsPerOne
  let below := num / den
  let fits (n : Nat) : Bool := readsBack units (n * p * unitsPerOne) q
  -- Where the interval is lopsided the nearer neighbour may lie outside of it
  -- while the other one lies inside.
  let nearest := roundRatio num den
  if fits nearest then some nearest
  else if fits below then some below
  else if fits (below + 1) then some (below + 1)
  else none

/-- The exponent of the first digit of a positive number of units. -/
def leadingExponent (units : Nat) : Int :=
  let rec climb : Nat → Int → Int
    | 0, k => k
    | steps + 1, k =>
      let (p, q) := tenTo (k + 1)
      if p * unitsPerOne ≤ units * q then climb steps (k + 1) else k
  -- From below the least positive number to above the largest.
  climb 640 (-325)

/-- The shortest digits of a positive number of units, and the exponent of the
last of them. -/
def shortestDigits (units : Nat) : Nat × Int :=
  let lead := leadingExponent units
  let rec finer : Nat → Int → Nat × Int
    | 0, k => (units * (tenTo k).2 / ((tenTo k).1 * unitsPerOne), k)
    | grids + 1, k =>
      match onGrid units k with
      | some n => (n, k)
      | none => finer grids (k - 1)
  finer 17 lead

/-- Drops the zeros at the end of a number, counting them. -/
def dropZeros (n : Nat) (k : Int) : Nat × Int :=
  let rec go : Nat → Nat → Int → Nat × Int
    | 0, n, k => (n, k)
    | steps + 1, n, k => if n ≠ 0 ∧ n % 10 = 0 then go steps (n / 10) (k + 1) else (n, k)
  go 20 n k

/-- Writes `digits * 10 ^ k`. -/
def layout (digits : List Char) (k : Int) : List Char :=
  let count := digits.length
  let point : Int := count + k
  if -4 < point ∧ point ≤ 16 then
    if point ≤ 0 then '0' :: '.' :: List.replicate point.natAbs '0' ++ digits
    else if count ≤ point.natAbs then
      digits ++ List.replicate (point.natAbs - count) '0' ++ ['.', '0']
    else digits.take point.natAbs ++ '.' :: digits.drop point.natAbs
  else
    let exponent := point - 1
    let sign := if exponent < 0 then '-' else '+'
    let significand := match digits with
      | [d] => [d]
      | d :: ds => d :: '.' :: ds
      | [] => ['0']
    significand ++ 'e' :: sign :: paddedChars 2 exponent.natAbs

/-- The shortest text that reads back as the same number; the caller spells
infinity and NaN. -/
def shortestWith (infinity nanText : String) : Binary64 → String
  | finite s u =>
    let body := if u = 0 then ['0', '.', '0'] else
      let (n, k) := shortestDigits u
      let (n, k) := dropZeros n k
      layout (decimalChars n) k
    String.ofList (if s then '-' :: body else body)
  | infinite s => if s then "-" ++ infinity else infinity
  | nan => nanText

/-- The shortest text that reads back as the same number. -/
def shortest (x : Binary64) : String := shortestWith "inf" "nan" x

/-- The number with a fixed number of digits after the point. -/
def places (count : Nat) : Binary64 → String
  | finite s u =>
    let n := roundRatio (u * Nat.pow 10 count) unitsPerOne
    let ds := paddedChars (count + 1) n
    let whole := ds.take (ds.length - count)
    let rest := ds.drop (ds.length - count)
    String.ofList ((if s then ['-'] else []) ++ whole ++ (if count = 0 then [] else '.' :: rest))
  | infinite s => if s then "-inf" else "inf"
  | nan => "nan"

end Meetings.Binary64
