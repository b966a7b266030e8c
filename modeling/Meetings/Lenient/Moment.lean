/-
Moments read leniently.

* `lenientMoment` — a raw value as a moment: text with a date and a time, text
  with a date alone, and counts of seconds or milliseconds since 1970 as text or
  as numbers;
* `readTimestampText`, `readDateOnly`, `momentOfCount` — these notations.

Design notes: text that is no date with a time and no count is read as a date
alone, and what is wrong with it then is what is said.  A count whose magnitude
exceeds `2 * 10 ^ 10` counts milliseconds.
-/
import Meetings.Json.Value
import Meetings.Lenient.Fault
import Meetings.Moment
import Meetings.Text.Utf8

namespace Meetings

open Meetings.Text

/-- Text as the characters of its bytes, by which its length and the places in
it are counted. -/
def byteChars (s : String) : List Char :=
  (encodeUtf8 s).map fun b => Char.ofNat b.toNat

/-- A year, month and day that may name a day of the year 0. -/
structure RawDate where
  year : Nat
  month : Nat
  day : Nat

/-- Reads a date at the start of a text of bytes. -/
def readRawDate (cs : List Char) : Except MomentTextFault (RawDate × List Char) :=
  match cs with
  | y1 :: y2 :: y3 :: y4 :: s1 :: m1 :: m2 :: s2 :: d1 :: d2 :: rest =>
    if !([y1, y2, y3, y4].all isDigit) then .error .badYear
    else if s1 != '-' then .error .badSeparator
    else if !([m1, m2].all isDigit) then .error .badMonth
    else if s2 != '-' then .error .badSeparator
    else if !([d1, d2].all isDigit) then .error .badDay
    else
      let d : RawDate :=
        ⟨digitsValue [y1, y2, y3, y4], digitsValue [m1, m2], digitsValue [d1, d2]⟩
      if d.month < 1 || 12 < d.month then .error .monthOutOfRange
      else if d.day < 1 || monthLength d.year d.month < d.day then .error .dayOutOfRange
      else .ok (d, rest)
  | _ => .error .tooShort

/-- Reads two digits not above a limit. -/
def readTwo (limit : Nat) : List Char → Option (Nat × List Char)
  | a :: b :: rest =>
    if isDigit a && isDigit b && digitsValue [a, b] ≤ limit then
      some (digitsValue [a, b], rest)
    else none
  | _ => none

/-- The microseconds of a fraction; digits beyond six are dropped. -/
def microseconds (ds : List Char) : Nat :=
  let six := ds.take 6
  digitsValue six * Nat.pow 10 (6 - six.length)

/-- Reads a time of day: microseconds since midnight. -/
def readRawTime (cs : List Char) : Option (Nat × List Char) := do
  let (hour, cs) ← readTwo 23 cs
  let (minute, cs) ← match cs with
    | ':' :: cs => readTwo 59 cs
    | _ => none
  match cs with
  | ':' :: cs =>
    let (second, cs) ← readTwo 59 cs
    let whole := (hour * 60 + minute) * 60 + second
    match cs with
    | c :: rest =>
      if c = '.' ∨ c = ',' then
        let ds := rest.takeWhile isDigit
        if ds.isEmpty then none
        return (whole * 1000000 + microseconds ds, rest.dropWhile isDigit)
      return (whole * 1000000, c :: rest)
    | [] => return (whole * 1000000, [])
  | cs => return ((hour * 60 + minute) * 60 * 1000000, cs)

/-- The sign of an offset: plus, hyphen or the three bytes of the minus sign. -/
def readOffsetSign : List Char → Option (Int × List Char)
  | '+' :: rest => some (1, rest)
  | '-' :: rest => some (-1, rest)
  | '\xe2' :: '\x88' :: '\x92' :: rest => some (-1, rest)
  | _ => none

/-- Reads an offset in hours and minutes, less than a day, up to the end of the
text. -/
def readRawOffset : List Char → Option Int
  | [] => some 0
  | ['Z'] | ['z'] => some 0
  | cs => do
    let (sign, cs) ← readOffsetSign cs
    let (hours, cs) ← readTwo 99 cs
    let cs := match cs with
      | ':' :: rest => rest
      | cs => cs
    let (minutes, cs) ← readTwo 59 cs
    let total := (hours * 60 + minutes) * 60
    if cs.isEmpty ∧ total < 86400 then return sign * total else none

/-- The moment of a raw date and microseconds since midnight. -/
def RawDate.moment (d : RawDate) (offset : Int) (sinceMidnight : Nat) :
    Except MomentTextFault Zoned :=
  match Moment.ofDate? offset ⟨d.year, d.month, d.day⟩ sinceMidnight with
  | some m => .ok ⟨offset, m⟩
  | none => .error .yearZero

/-- Reads a date and a time, with or without an offset. -/
def readDateTime (cs : List Char) : Option (Except MomentTextFault Zoned) := do
  let (date, cs) ← (readRawDate cs).toOption
  match cs with
  | separator :: cs =>
    if !(['T', 't', ' ', '_'].contains separator) then none
    let (time, cs) ← readRawTime cs
    let offset ← readRawOffset cs
    return date.moment offset time
  | [] => none

/-- Reads a date alone. -/
def readDateOnly (cs : List Char) : Except MomentTextFault Zoned := do
  let (date, rest) ← readRawDate cs
  if rest.isEmpty then date.moment 0 0 else throw .extraCharacters

/-- The count of seconds since 1970 at the start of year 0. -/
def countOfYearZero : Int := -62167219200

/-- The count of seconds since 1970 at the last second of year 9999. -/
def countOfLastSecond : Int := 253402300799

/-- The count of seconds from the start of year 1 to the start of 1970. -/
def secondsBefore1970 : Int := 62135596800

/-- The largest magnitude of a count of seconds. -/
def secondsWatershed : Int := 20000000000

/-- The smallest integer of 64 bits. -/
def leastInt64 : Int := -9223372036854775808

/-- The moment of a count since 1970 and some microseconds. -/
def momentOfCount (count : Int) (micro : Nat) : Except MomentTextFault Zoned :=
  if count = leastInt64 then .error .tooEarly
  else
    let total : Int :=
      if count.natAbs ≤ secondsWatershed.natAbs then count * 1000000 + micro
      else count * 1000 + micro
    let seconds := total / 1000000
    if seconds < countOfYearZero then .error .tooEarly
    else if countOfLastSecond < seconds then .error .tooLate
    else
      match Moment.ofWall 0 (total + secondsBefore1970 * 1000000) with
      | .ok m => .ok m.zoned
      | .error _ => .error .yearZero

/-- The integer of 64 bits nearest to an integer. -/
def saturate (n : Int) : Int := max leastInt64 (min n 9223372036854775807)

/-- The whole number below a number, as 64 bits can hold it. -/
def floorCount : Binary64 → Int
  | .infinite negative => if negative then leastInt64 else 9223372036854775807
  | x => saturate (x.floor?.getD 0)

/-- The moment of a count that is a number with a fraction. -/
def momentOfReal (x : Binary64) : Except MomentTextFault Zoned :=
  if x = .nan then .error .notANumber
  else
    let micro := (x.fraction.abs.times (.ofInt 1000000)).roundAway?.getD 0
    momentOfCount (floorCount x) micro.toNat

/-- A count written in digits, with or without a point. -/
inductive CountText where
  | whole (n : Int)
  | real (x : Binary64)

/-- Adds digits behind a point one by one, each rounded. -/
def addDigits : Binary64 → Binary64 → List Char → Binary64
  | sum, _, [] => sum
  | sum, scale, c :: rest =>
    addDigits (sum.plus ((Binary64.ofInt ((digit? c).getD 0)).dividedBy scale))
      (scale.times (.ofInt 10)) rest

/-- Reads a count; its whole part must be an integer of 64 bits. -/
def readCount (cs : List Char) : Option CountText :=
  let (negative, cs) := match cs with
    | '-' :: rest => (true, rest)
    | '+' :: rest => (false, rest)
    | cs => (false, cs)
  let whole := cs.takeWhile isDigit
  let n : Int := digitsValue whole
  if whole.isEmpty ∨ 9223372036854775807 < n then none
  else match cs.dropWhile isDigit with
    | [] => some (.whole (if negative then -n else n))
    | c :: rest =>
      if c = '.' ∧ rest.all isDigit then
        let x := addDigits (.ofInt n) (.ofInt 10) rest
        some (.real (if negative then x.negate else x))
      else none

/-- The moment of a count in text. -/
def momentOfCountText : CountText → Except MomentTextFault Zoned
  | .whole n => momentOfCount n 0
  | .real x =>
    let x := if x.abs.exceeds secondsWatershed then x.dividedBy (.ofInt 1000) else x
    let seconds := x.floor?.getD 0
    let micro := ((x.minus (.ofInt seconds)).times (.ofInt 1000000)).roundAway?.getD 0
    momentOfCount seconds micro.toNat

/-- Reads text as a moment. -/
def readTimestampText (s : String) : Except MomentTextFault Zoned :=
  let cs := byteChars s
  match readDateTime cs with
  | some answer => answer
  | none =>
    match readCount cs with
    | some count => momentOfCountText count
    | none => readDateOnly cs

/-- Reads a moment from a raw value. -/
def lenientMoment : Json → Except LenientFault Zoned
  | .str s => (readTimestampText s).mapError .momentText
  | .int n =>
    if saturate n = n then (momentOfCount n 0).mapError .momentText
    else
      let x := Binary64.ofInt n
      if x.isFinite then (momentOfReal x).mapError .momentText else .error .notMoment
  | .real x => (momentOfReal x).mapError .momentText
  | _ => .error .notMoment

end Meetings
