/-
Why a text is not a JSON document.

* `JsonProblem` — what was missing or wrong;
* `JsonFault` — the problem and its place, as line, column and offset.
-/
import Meetings.Text.Digits

namespace Meetings

open Meetings.Text

/-- What is wrong at a place of a text read as JSON. -/
inductive JsonProblem where
  | value
  | fieldName
  | colon
  | comma
  | extraData
  | unterminatedText
  | controlCharacter
  | badEscape
  | badUnicodeEscape
  | byteOrderMark
deriving DecidableEq, Repr

/-- What is said about a problem. -/
def JsonProblem.message : JsonProblem → String
  | value => "Expecting value"
  | fieldName => "Expecting property name enclosed in double quotes"
  | colon => "Expecting ':' delimiter"
  | comma => "Expecting ',' delimiter"
  | extraData => "Extra data"
  | unterminatedText => "Unterminated string starting at"
  | controlCharacter => "Invalid control character at"
  | badEscape => "Invalid \\escape"
  | badUnicodeEscape => "Invalid \\uXXXX escape"
  | byteOrderMark => "Unexpected UTF-8 BOM (decode using utf-8-sig)"

/-- A problem and its place: line and column from 1, offset from 0. -/
structure JsonFault where
  problem : JsonProblem
  line : Nat
  column : Nat
  offset : Nat
deriving DecidableEq, Repr

/-- A problem at an offset of a text. -/
def JsonFault.at (problem : JsonProblem) (text : List Char) (offset : Nat) : JsonFault :=
  let before := text.take offset
  let breaks := before.count '\n'
  let sinceBreak := (before.reverse.takeWhile (· != '\n')).length
  ⟨problem, breaks + 1, sinceBreak + 1, offset⟩

/-- What is said about a text that is no JSON document. -/
def JsonFault.message (f : JsonFault) : String :=
  f.problem.message ++ ": line " ++ decimal f.line ++ " column " ++ decimal f.column ++
    " (char " ++ decimal f.offset ++ ")"

end Meetings
