/-
Text as UTF-8 bytes.

* `encodeUtf8` — the bytes of a text;
* `decodeUtf8` — the text of bytes, or the first place where they are none;
* `Utf8Fault.message` — what is said about that place.

Design notes: a sequence is cut short at the first byte that cannot continue
it, and the bytes before that one are what a fault names.  Bytes that could
begin a sequence but end too early are a fault of their own.
-/
import Meetings.Text.Digits

namespace Meetings.Text

/-- What is wrong with a run of bytes. -/
inductive Utf8Problem where
  | invalidStart
  | invalidContinuation
  | unexpectedEnd
deriving DecidableEq, Repr

/-- The first run of bytes that is not UTF-8. -/
structure Utf8Fault where
  problem : Utf8Problem
  /-- The first byte of the run. -/
  byte : UInt8
  /-- Where the run starts. -/
  start : Nat
  /-- The length of the run. -/
  count : Nat
deriving DecidableEq, Repr

/-- What is said about bytes that are not UTF-8. -/
def Utf8Fault.message (f : Utf8Fault) : String :=
  let what := match f.problem with
    | .invalidStart => "invalid start byte"
    | .invalidContinuation => "invalid continuation byte"
    | .unexpectedEnd => "unexpected end of data"
  let place :=
    if f.count = 1 then
      "byte 0x" ++ String.ofList (hexChars 2 f.byte.toNat) ++ " in position " ++ decimal f.start
    else
      "bytes in position " ++ decimal f.start ++ "-" ++ decimal (f.start + f.count - 1)
  "'utf-8' codec can't decode " ++ place ++ ": " ++ what

/-- The bytes of a text. -/
def encodeUtf8 (s : String) : List UInt8 := s.toList.flatMap String.utf8EncodeChar

/-- A byte that continues a sequence. -/
def isContinuation (b : UInt8) : Bool := 0x80 ≤ b && b < 0xC0

/-- The second byte may follow the first of a longer sequence: the code point
is neither written too long, nor a surrogate, nor beyond the last one. -/
def mayFollow (lead second : UInt8) : Bool :=
  isContinuation second &&
    (if lead = 0xE0 then 0xA0 ≤ second
     else if lead = 0xED then second < 0xA0
     else if lead = 0xF0 then 0x90 ≤ second
     else if lead = 0xF4 then second < 0x90
     else true)

/-- How many bytes a sequence has, by its first byte. -/
def sequenceLength (lead : UInt8) : Option Nat :=
  if lead < 0x80 then some 1
  else if lead < 0xC2 then none
  else if lead < 0xE0 then some 2
  else if lead < 0xF0 then some 3
  else if lead < 0xF5 then some 4
  else none

/-- The code point of a sequence of two, three or four bytes. -/
def codePoint : List UInt8 → Nat
  | [a, b] => (a.toNat % 32) * 64 + b.toNat % 64
  | [a, b, c] => (a.toNat % 16) * 4096 + (b.toNat % 64) * 64 + c.toNat % 64
  | [a, b, c, d] =>
    (a.toNat % 8) * 262144 + (b.toNat % 64) * 4096 + (c.toNat % 64) * 64 + d.toNat % 64
  | [a] => a.toNat
  | _ => 0

/-- How many of the bytes after the first belong to its sequence. -/
def goodTail (lead : UInt8) (tail : List UInt8) : Nat :=
  match tail with
  | [] => 0
  | second :: rest =>
    if mayFollow lead second then 1 + (rest.takeWhile isContinuation).length else 0

/-- Decodes bytes from a position on, behind the characters found so far. -/
def decodeFrom : List Char → Nat → List UInt8 → Except Utf8Fault (List Char)
  | found, _, [] => .ok found.reverse
  | found, pos, lead :: rest =>
    match sequenceLength lead with
    | none => .error ⟨.invalidStart, lead, pos, 1⟩
    | some count =>
      let tail := rest.take (count - 1)
      let good := goodTail lead tail
      if good + 1 = count then
        decodeFrom (Char.ofNat (codePoint (lead :: tail)) :: found) (pos + count)
          (rest.drop (count - 1))
      else if good = tail.length then .error ⟨.unexpectedEnd, lead, pos, good + 1⟩
      else .error ⟨.invalidContinuation, lead, pos, good + 1⟩
termination_by _ _ bytes => bytes.length

/-- The text of some bytes. -/
def decodeUtf8 (bytes : List UInt8) : Except Utf8Fault String :=
  (decodeFrom [] 0 bytes).map String.ofList

end Meetings.Text
