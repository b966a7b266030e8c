/-
Dates and times written in scalars.

* `Timestamp` — a day, perhaps with a time of the day and an offset;
* `readTimestamp` — reads one.
-/
import Meetings.Calendar
import Meetings.Yaml.Fault

namespace Meetings.Yaml

open Meetings.Text

/-- A time of the day as it is written, with its offset in minutes. -/
structure WrittenTime where
  hour : Nat
  minute : Nat
  second : Nat
  microsecond : Nat
  offset : Option Int
deriving DecidableEq, Repr

/-- A day, perhaps with a time of the day. -/
structure Timestamp where
  date : Date
  time : Option WrittenTime
deriving DecidableEq, Repr

/-- A number of at least `least` and at most two digits. -/
def shortNumber (least : Nat) (cs : List Char) : Option (Nat × List Char) :=
  let ds := (cs.take 2).takeWhile isDigit
  if ds.length < least then none else some (digitsValue ds, cs.drop ds.length)

/-- Drops a character. -/
def dropChar (c : Char) : List Char → Option (List Char)
  | d :: rest => if c = d then some rest else none
  | [] => none

/-- A blank between the parts of a time. -/
def isTimeGap (c : Char) : Bool := c = ' ' || c = '\t'

/-- Reads an offset, up to the end of the text. -/
def readOffset (cs : List Char) : Option (Option Int) :=
  match cs.dropWhile isTimeGap with
  | [] => if cs.isEmpty then some none else none
  | ['Z'] => some (some 0)
  | sign :: rest => do
    if sign != '+' && sign != '-' then none
    let (hours, rest) ← shortNumber 1 rest
    let minutes ← match rest with
      | [] => some 0
      | rest => do
        let (minutes, rest) ← shortNumber 2 (← dropChar ':' rest)
        if rest.isEmpty then some minutes else none
    let total : Int := hours * 60 + minutes
    return some (if sign = '-' then -total else total)

/-- Reads a time of the day, up to the end of the text. -/
def readClock (cs : List Char) : Option WrittenTime := do
  let (hour, rest) ← shortNumber 1 cs
  let (minute, rest) ← shortNumber 2 (← dropChar ':' rest)
  let (second, rest) ← shortNumber 2 (← dropChar ':' rest)
  let fraction := match rest with
    | '.' :: rest => rest.takeWhile isDigit
    | _ => []
  let rest := match rest with
    | '.' :: rest => rest.dropWhile isDigit
    | rest => rest
  let offset ← readOffset rest
  return ⟨hour, minute, second, digitsValue ((fraction ++ List.replicate 6 '0').take 6), offset⟩

/-- Reads the parts of a timestamp, which may be out of range. -/
def timestampParts (cs : List Char) : Option Timestamp := do
  let year := cs.take 4
  if year.length < 4 || !year.all isDigit then none
  let (month, rest) ← shortNumber 1 (← dropChar '-' (cs.drop 4))
  let (day, rest) ← shortNumber 1 (← dropChar '-' rest)
  let date : Date := ⟨digitsValue year, month, day⟩
  match rest with
  | [] => return ⟨date, none⟩
  | c :: more =>
    if c = 'T' || c = 't' then return ⟨date, some (← readClock more)⟩
    else if isTimeGap c then return ⟨date, some (← readClock (more.dropWhile isTimeGap))⟩
    else none

/-- The first part of a timestamp that is out of range. -/
def Timestamp.fault? (t : Timestamp) : Option TimestampPart :=
  if t.date.year = 0 then some .year
  else if t.date.month = 0 ∨ 12 < t.date.month then some .month
  else if t.date.day = 0 ∨ monthLength t.date.year t.date.month < t.date.day then some .day
  else match t.time with
    | none => none
    | some time =>
      if 23 < time.hour then some .hour
      else if 59 < time.minute then some .minute
      else if 59 < time.second then some .second
      else none

/-- An offset of a day or more. -/
def Timestamp.farOffset? (t : Timestamp) : Option Int :=
  t.time.bind fun time => time.offset.filter fun minutes => 1440 ≤ minutes.natAbs

/-- Reads a timestamp; the offset is looked at first. -/
def readTimestamp (text : String) : Except ScalarFault Timestamp :=
  match timestampParts text.toList with
  | none => .error .notTimestamp
  | some t =>
    match t.farOffset?, t.fault? with
    | some minutes, _ => .error (.offset minutes)
    | none, some part => .error (.outOfRange part)
    | none, none => .ok t

end Meetings.Yaml
