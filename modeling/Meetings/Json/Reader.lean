/-
JSON documents read from text.

* `Json.read` — the value of a document, or the first place where it is none;
* `Json.value` — the value at the start of a text, with the rest of the text;
* `Json.quotedText` — the text behind a quotation mark, with its escapes.

Beyond the standard, `NaN`, `Infinity` and `-Infinity` are numbers, a later
field with the same key overrides an earlier one, and half of a pair of
surrogates stands for the replacement character.

Design notes: a fault carries the number of characters that were left, which the
whole text turns into a line and a column.  The fuel bounds the calls by the
length of the text; nesting has a bound of its own, which is part of what a
reader accepts.  Texts are made of characters, so all halves of pairs without
their other half are read alike: two texts that differ in such a half alone are
the same text here.
-/
import Meetings.Json.Fault
import Meetings.Json.Value
import Meetings.Number.Numeral

namespace Meetings

open Meetings.Text

/-- Why reading stops. -/
inductive JsonStop where
  /-- A problem, with so many characters left. -/
  | problem (what : JsonProblem) (left : Nat)
  /-- Arrays or objects are nested too deeply. -/
  | tooDeep (inArray : Bool)
  /-- A whole number has too many digits. -/
  | overlong (digits : Nat)
deriving DecidableEq, Repr

namespace Json

/-- The space between the parts of a document. -/
def isSpace (c : Char) : Bool := c = ' ' || c = '\n' || c = '\r' || c = '\t'

/-- Skips space. -/
def skipSpace (cs : List Char) : List Char := cs.dropWhile isSpace

/-- A problem at the start of the text that is left. -/
def fail {α : Type} (what : JsonProblem) (left : List Char) : Except JsonStop α :=
  .error (.problem what left.length)

/-- The number of four hexadecimal digits. -/
def hexFour (a b c d : Char) : Option Nat := do
  return (((← hexDigit? a) * 16 + (← hexDigit? b)) * 16 + (← hexDigit? c)) * 16 + (← hexDigit? d)

/-- The character of an escape of one letter. -/
def escapedChar? (c : Char) : Option Char :=
  if c = '\x22' || c = '\\' || c = '/' then some c
  else if c = 'b' then some '\x08'
  else if c = 'f' then some '\x0c'
  else if c = 'n' then some '\n'
  else if c = 'r' then some '\r'
  else if c = 't' then some '\t'
  else none

/-- The character of a code point, where half of a pair has none of its own. -/
def charOfUnit (n : Nat) : Char :=
  if 0xD800 ≤ n && n ≤ 0xDFFF then '\ufffd' else Char.ofNat n

/-- The character of a pair of surrogates. -/
def charOfPair (high low : Nat) : Char :=
  Char.ofNat (0x10000 + (high - 0xD800) * 0x400 + (low - 0xDC00))

/-- The number of a second escape that may complete a pair; the inner option is
empty when its digits are none. -/
def lowHalf : List Char → Option (Option Nat)
  | '\\' :: 'u' :: l1 :: l2 :: l3 :: l4 :: _ :: _ => some (hexFour l1 l2 l3 l4)
  | _ => none

/-- Reads text up to its closing quotation mark, behind the characters found so
far; `opened` is the number of characters left at the opening mark. -/
def quotedText (opened : Nat) : List Char → List Char → Except JsonStop (String × List Char)
  | _, [] => .error (.problem .unterminatedText opened)
  | found, c :: rest =>
    if c = '\x22' then .ok (String.ofList found.reverse, rest)
    else if c = '\\' then
      match rest with
      | [] => .error (.problem .unterminatedText opened)
      | 'u' :: h1 :: h2 :: h3 :: h4 :: next :: rest' =>
        match hexFour h1 h2 h3 h4 with
        | none => fail .badUnicodeEscape rest
        | some unit =>
          if 0xD800 ≤ unit && unit ≤ 0xDBFF then
            match lowHalf (next :: rest') with
            | some none => fail .badUnicodeEscape rest'
            | some (some low) =>
              if 0xDC00 ≤ low && low ≤ 0xDFFF then
                quotedText opened (charOfPair unit low :: found) ((next :: rest').drop 6)
              else quotedText opened (charOfUnit unit :: found) (next :: rest')
            | none => quotedText opened (charOfUnit unit :: found) (next :: rest')
          else quotedText opened (charOfUnit unit :: found) (next :: rest')
      | 'u' :: _ => fail .badUnicodeEscape rest
      | e :: rest' =>
        match escapedChar? e with
        | some plain => quotedText opened (plain :: found) rest'
        | none => fail .badEscape (c :: rest)
    else if c.toNat < 0x20 then fail .controlCharacter (c :: rest)
    else quotedText opened (c :: found) rest
termination_by _ cs => cs.length

/-- Splits the exponent of a number off, if there is one. -/
def splitExponent (cs : List Char) : Option (Int × List Char) :=
  match cs with
  | e :: rest =>
    if e = 'e' || e = 'E' then
      let (negative, digits) := splitSign rest
      let ds := digits.takeWhile isDigit
      if ds.isEmpty then none
      else
        let n : Int := digitsValue ds
        some (if negative then -n else n, digits.dropWhile isDigit)
    else none
  | [] => none

/-- Splits the digits behind a point off, if there are any. -/
def splitFraction : List Char → List Char × List Char
  | '.' :: rest =>
    let ds := rest.takeWhile isDigit
    if ds.isEmpty then ([], '.' :: rest) else (ds, rest.dropWhile isDigit)
  | cs => ([], cs)

/-- Splits a minus sign off; the flag is set if there is one. -/
def splitMinus : List Char → Bool × List Char
  | '-' :: rest => (true, rest)
  | cs => (false, cs)

/-- The digits of the whole part of a number; a zero in front stands alone. -/
def wholeDigits : List Char → List Char
  | '0' :: _ => ['0']
  | cs => cs.takeWhile isDigit

/-- Reads a number at the start of a text. -/
def number (cs : List Char) : Except JsonStop (Json × List Char) :=
  let (negative, body) := splitMinus cs
  let whole := wholeDigits body
  if whole.isEmpty then fail .value cs
  else
    let rest := body.drop whole.length
    let (fraction, rest') := splitFraction rest
    let power := splitExponent rest'
    if fraction.isEmpty && power.isNone then
      if numeralLimit < whole.length then .error (.overlong whole.length)
      else
        let n : Int := digitsValue whole
        .ok (.int (if negative then -n else n), rest)
    else
      let (exponent, rest'') := power.getD (0, rest')
      .ok (.real (.ofDecimal negative (digitsValue (whole ++ fraction))
        (exponent - fraction.length)), rest'')

/-- Drops a word from the start of a text. -/
def dropWord (word : String) (cs : List Char) : Option (List Char) :=
  let w := word.toList
  if w.isPrefixOf cs then some (cs.drop w.length) else none

/-- The values that are written as words. -/
def words : List (String × Json) :=
  [("null", .null), ("true", .bool true), ("false", .bool false), ("NaN", .real .nan),
    ("Infinity", .real (.infinite false)), ("-Infinity", .real (.infinite true))]

/-- Reads a word or a number at the start of a text. -/
def scalar (cs : List Char) : Except JsonStop (Json × List Char) :=
  match words.findSome? fun (word, v) => (dropWord word cs).map (v, ·) with
  | some answer => .ok answer
  | none => number cs

mutual

/-- Reads a value at the start of a text; `depth` more values may be nested. -/
def value : Nat → Nat → List Char → Except JsonStop (Json × List Char)
  | 0, _, cs => fail .value cs
  | fuel + 1, depth, cs =>
    match cs with
    | '\x22' :: rest =>
      match quotedText cs.length [] rest with
      | .ok (s, rest) => .ok (.str s, rest)
      | .error stop => .error stop
    | '[' :: rest =>
      match depth with
      | 0 => .error (.tooDeep true)
      | depth + 1 =>
        match skipSpace rest with
        | ']' :: rest => .ok (.arr [], rest)
        | rest => items fuel depth [] rest
    | '\x7b' :: rest =>
      match depth with
      | 0 => .error (.tooDeep false)
      | depth + 1 =>
        match skipSpace rest with
        | '\x7d' :: rest => .ok (.obj [], rest)
        | rest => fields fuel depth [] rest
    | cs => scalar cs

/-- Reads the items of an array from one of them on, behind those found. -/
def items : Nat → Nat → List Json → List Char → Except JsonStop (Json × List Char)
  | 0, _, _, cs => fail .value cs
  | fuel + 1, depth, found, cs =>
    match value fuel depth cs with
    | .error stop => .error stop
    | .ok (item, rest) =>
      match skipSpace rest with
      | ']' :: rest => .ok (.arr (item :: found).reverse, rest)
      | ',' :: rest => items fuel depth (item :: found) (skipSpace rest)
      | rest => fail .comma rest

/-- Reads the fields of an object from one of them on, behind those found. -/
def fields : Nat → Nat → List (String × Json) → List Char → Except JsonStop (Json × List Char)
  | 0, _, _, cs => fail .value cs
  | fuel + 1, depth, found, cs =>
    match cs with
    | '\x22' :: rest =>
      match quotedText cs.length [] rest with
      | .error stop => .error stop
      | .ok (key, rest) =>
        match skipSpace rest with
        | ':' :: rest =>
          match value fuel depth (skipSpace rest) with
          | .error stop => .error stop
          | .ok (v, rest) =>
            let found := putField found key v
            match skipSpace rest with
            | '\x7d' :: rest => .ok (.obj found, rest)
            | ',' :: rest => fields fuel depth found (skipSpace rest)
            | rest => fail .comma rest
        | rest => fail .colon rest
    | cs => fail .fieldName cs

end

/-- How deeply arrays and objects may be nested. -/
def depthLimit : Nat := 970

/-- Reads a whole document from characters. -/
def readChars (cs : List Char) : Except JsonStop Json :=
  match cs with
  | '\ufeff' :: _ => fail .byteOrderMark cs
  | _ =>
    match value (2 * cs.length + 2) depthLimit (skipSpace cs) with
    | .error stop => .error stop
    | .ok (v, rest) =>
      match skipSpace rest with
      | [] => .ok v
      | rest => fail .extraData rest

/-- Reads a whole document. -/
def read (text : String) : Except JsonStop Json := readChars text.toList

/-- A problem with its place in the text it was found in. -/
def located (text : String) (what : JsonProblem) (left : Nat) : JsonFault :=
  let cs := text.toList
  .at what cs (cs.length - left)

end Json

end Meetings
