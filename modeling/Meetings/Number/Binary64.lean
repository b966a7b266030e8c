/-
Numbers of the binary64 format, with exact arithmetic.

A finite number is a sign and a whole number of units of `2 ^ -1074`, the
smallest positive number of the format.

* `Binary64.ofRatio` — the number nearest to a fraction; of two that are
  equally near, the one whose significand is even;
* `Binary64.plus`, `minus`, `times`, `dividedBy` — each the exact result, rounded;
* `Binary64.compareInt` — the exact order against an integer;
* `Binary64.truncate?`, `Binary64.floor?` — whole numbers next to it.

Design notes: because units are whole numbers, every operation is integer
arithmetic followed by one rounding, and two finite numbers are equal as values
exactly when they are equal as terms, the two zeros apart.
-/

namespace Meetings

/-- Numbers of the binary64 format; all quiet NaNs are one. -/
inductive Binary64 where
  /-- `units` times `2 ^ -1074`, negated when `negative`. -/
  | finite (negative : Bool) (units : Nat)
  | infinite (negative : Bool)
  | nan
deriving DecidableEq, Repr, Inhabited

/-- The whole number nearest to a fraction; a half goes to the even neighbour. -/
def roundRatio (num den : Nat) : Nat :=
  let q := num / den
  let r := num % den
  if 2 * r < den then q
  else if den < 2 * r then q + 1
  else q + q % 2

namespace Binary64

/-- How many units make one. -/
def unitsPerOne : Nat := Nat.pow 2 1074

/-- The first number of units too large for the format. -/
def unitsLimit : Nat := Nat.pow 2 2098

/-- The number of units nearest to a fraction that a significand of 53 bits can
express. -/
def nearestUnits (num den : Nat) : Nat :=
  -- The bits beyond the 53 that fit; none for the smallest numbers.
  let spare := Nat.log2 (num / den) - 52
  roundRatio num (den * Nat.pow 2 spare) * Nat.pow 2 spare

/-- The number nearest to a fraction of units. -/
def ofUnits (negative : Bool) (num den : Nat) : Binary64 :=
  let units := nearestUnits num den
  if units < unitsLimit then .finite negative units else .infinite negative

/-- The number nearest to a fraction. -/
def ofRatio (negative : Bool) (num den : Nat) : Binary64 :=
  ofUnits negative (num * unitsPerOne) den

/-- The number nearest to an integer. -/
def ofInt (n : Int) : Binary64 := ofRatio (n < 0) n.natAbs 1

/-- The number nearest to `significand * 10 ^ exponent`.  Exponents that leave
the format whatever the digits are settled without computing the power. -/
def ofDecimal (negative : Bool) (significand : Nat) (exponent : Int) : Binary64 :=
  let magnitude := exponent + (Nat.log2 significand : Int) * 30103 / 100000
  if significand = 0 then .finite negative 0
  else if magnitude < -400 then .finite negative 0
  else if 400 < magnitude then .infinite negative
  else if exponent < 0 then ofRatio negative significand (Nat.pow 10 exponent.natAbs)
  else ofRatio negative (significand * Nat.pow 10 exponent.natAbs) 1

/-- Zero. -/
def zero : Binary64 := .finite false 0

/-- The signed number of units of a finite number. -/
def signedUnits (negative : Bool) (units : Nat) : Int :=
  if negative then -(units : Int) else units

/-- The number without its sign. -/
def abs : Binary64 → Binary64
  | finite _ u => finite false u
  | infinite _ => infinite false
  | nan => nan

/-- The number with its sign turned. -/
def negate : Binary64 → Binary64
  | finite s u => finite (!s) u
  | infinite s => infinite (!s)
  | nan => nan

/-- The sum. -/
def plus : Binary64 → Binary64 → Binary64
  | finite s u, finite t v =>
    let sum := signedUnits s u + signedUnits t v
    if sum = 0 then finite (s && t) 0 else ofUnits (sum < 0) sum.natAbs 1
  | infinite s, infinite t => if s = t then infinite s else nan
  | infinite s, finite _ _ => infinite s
  | finite _ _, infinite t => infinite t
  | nan, _ => nan
  | _, nan => nan

/-- The difference. -/
def minus (x y : Binary64) : Binary64 := x.plus y.negate

/-- The product. -/
def times : Binary64 → Binary64 → Binary64
  | finite s u, finite t v => ofUnits (s != t) (u * v) unitsPerOne
  | infinite s, infinite t => infinite (s != t)
  | infinite s, finite t v => if v = 0 then nan else infinite (s != t)
  | finite s u, infinite t => if u = 0 then nan else infinite (s != t)
  | nan, _ => nan
  | _, nan => nan

/-- The quotient by a number that is not zero. -/
def dividedBy : Binary64 → Binary64 → Binary64
  | finite s u, finite t v => if v = 0 then nan else ofUnits (s != t) (u * unitsPerOne) v
  | infinite _, infinite _ => nan
  | infinite s, finite t _ => infinite (s != t)
  | finite s _, infinite t => finite (s != t) 0
  | nan, _ => nan
  | _, nan => nan

/-- The order against an integer; NaN has none. -/
def compareInt : Binary64 → Int → Option Ordering
  | finite s u, n => some (compare (signedUnits s u) (n * unitsPerOne))
  | infinite s, _ => some (if s then .lt else .gt)
  | nan, _ => none

/-- The number is larger than an integer. -/
def exceeds (x : Binary64) (n : Int) : Bool := x.compareInt n == some .gt

/-- The whole part, with the sign; only finite numbers have one. -/
def truncate? : Binary64 → Option Int
  | finite s u => some (signedUnits s (u / unitsPerOne))
  | _ => none

/-- The largest whole number that is not larger; only finite numbers have one. -/
def floor? : Binary64 → Option Int
  | finite s u => some (signedUnits s u / unitsPerOne)
  | _ => none

/-- The number as an integer, when it is one. -/
def integer? : Binary64 → Option Int
  | finite s u => if u % unitsPerOne = 0 then some (signedUnits s (u / unitsPerOne)) else none
  | _ => none

/-- A finite number. -/
def isFinite : Binary64 → Bool
  | finite _ _ => true
  | _ => false

/-- The part after the point, with the sign. -/
def fraction : Binary64 → Binary64
  | finite s u => finite s (u % unitsPerOne)
  | x => x

/-- The nearest whole number; a half goes away from zero. -/
def roundAway? : Binary64 → Option Int
  | finite s u => some (signedUnits s ((2 * u + unitsPerOne) / (2 * unitsPerOne)))
  | _ => none

end Binary64

end Meetings
