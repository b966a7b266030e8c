/-
Tags: the types of nodes.

* `Tag.ofName` — the tag of a full name;
* `Tag.ofPlain` — the tag that a plain scalar has by its text.

Design notes: the text of a plain scalar is matched against `Form`s for booleans,
numbers, times and the like, and is a text if none suits.
-/
import Meetings.Text.Digits

namespace Meetings.Yaml

open Meetings.Text

/-- The type of a node. -/
inductive Tag where
  | null
  | bool
  | int
  | real
  | timestamp
  | binary
  | str
  | seq
  | pairs
  | map
  | set
  /-- The key behind which stand mappings to be merged into this one. -/
  | merge
  /-- The key of the default value of a mapping. -/
  | default
  | other (name : String)
deriving DecidableEq, Repr

/-- What the names of the tags of the language begin with. -/
def tagRoot : String := "tag:yaml.org,2002:"

/-- The tags with a meaning, by their names. -/
def knownTags : List (String × Tag) :=
  [("null", .null), ("bool", .bool), ("int", .int), ("float", .real),
    ("timestamp", .timestamp), ("binary", .binary), ("str", .str), ("seq", .seq),
    ("omap", .pairs), ("pairs", .pairs), ("map", .map), ("set", .set), ("merge", .merge),
    ("value", .default)]

/-- The tag of a full name. -/
def Tag.ofName (name : String) : Tag :=
  match knownTags.find? fun known => tagRoot ++ known.1 == name with
  | some known => known.2
  | none => .other name

/-! ### Forms of plain scalars -/

/-- The rests of a text behind each beginning that has a form. -/
abbrev Form := List Char → List (List Char)

namespace Form

/-- Nothing. -/
def nothing : Form := fun cs => [cs]

/-- A character of a class. -/
def one (p : Char → Bool) : Form
  | [] => []
  | c :: rest => if p c then [rest] else []

/-- A form, then another. -/
def before (f g : Form) : Form := fun cs => (f cs).flatMap g

/-- One of two forms. -/
def either (f g : Form) : Form := fun cs => f cs ++ g cs

/-- A form or nothing. -/
def maybe (f : Form) : Form := either f nothing

/-- Any number of characters of a class. -/
def many (p : Char → Bool) : Form
  | [] => [[]]
  | c :: rest => if p c then many p rest ++ [c :: rest] else [c :: rest]

/-- At least one character of a class. -/
def several (p : Char → Bool) : Form := (one p).before (many p)

/-- A word. -/
def word (w : String) : Form := w.toList.foldr (fun c f => (one (· == c)).before f) nothing

/-- One of several forms. -/
def any (forms : List Form) : Form := fun cs => forms.flatMap (· cs)

/-- One form after the other. -/
def inOrder (forms : List Form) : Form := forms.foldr before nothing

/-- A text has a form. -/
def covers (f : Form) (cs : List Char) : Bool := (f cs).any List.isEmpty

/-- A form up to so many times. -/
def upTo (f : Form) : Nat → Form
  | 0, cs => [cs]
  | n + 1, cs => (f cs).flatMap (upTo f n) ++ [cs]

/-- A form at least once; each time takes a character. -/
def repeated (f : Form) : Form := fun cs => f.before (upTo f cs.length) cs

end Form

open Form

/-- A digit or an underscore. -/
def isSpacedDigit (c : Char) : Bool := isDigit c || c = '_'

/-- A sign, or none. -/
def signForm : Form := maybe (one fun c => c = '-' || c = '+')

/-- An exponent, which must have a sign. -/
def exponentForm : Form :=
  inOrder [one fun c => c = 'e' || c = 'E', one fun c => c = '-' || c = '+', several isDigit]

/-- A colon and a number below sixty. -/
def sixtiethForm : Form :=
  inOrder [one (· == ':'), maybe (one fun c => '0' ≤ c && c ≤ '5'), one isDigit]

/-- Booleans. -/
def boolForm : Form :=
  any ((["yes", "no", "true", "false", "on", "off", "Yes", "No", "True", "False", "On", "Off",
    "YES", "NO", "TRUE", "FALSE", "ON", "OFF"]).map word)

/-- Whole numbers of several bases. -/
def intForm : Form :=
  any [
    inOrder [signForm, word "0b", several fun c => c = '0' || c = '1' || c = '_'],
    inOrder [signForm, word "0", several fun c => ('0' ≤ c && c ≤ '7') || c = '_'],
    inOrder [signForm, word "0"],
    inOrder [signForm, one fun c => '1' ≤ c && c ≤ '9', many isSpacedDigit],
    inOrder [signForm, word "0x", several fun c => (hexDigit? c).isSome || c = '_'],
    inOrder [signForm, one fun c => '1' ≤ c && c ≤ '9', many isSpacedDigit,
      sixtiethForm.repeated]]

/-- Numbers with a point. -/
def realForm : Form :=
  any [
    inOrder [signForm, one isDigit, many isSpacedDigit, word ".", many isSpacedDigit,
      maybe exponentForm],
    inOrder [word ".", one isDigit, many isSpacedDigit, maybe exponentForm],
    inOrder [signForm, one isDigit, many isSpacedDigit, sixtiethForm.repeated, word ".",
      many isSpacedDigit],
    inOrder [signForm, any [word ".inf", word ".Inf", word ".INF"]],
    any [word ".nan", word ".NaN", word ".NAN"]]

/-- A digit, and perhaps another. -/
def oneOrTwo : Form := (one isDigit).before (maybe (one isDigit))

/-- Two digits. -/
def twoDigits : Form := (one isDigit).before (one isDigit)

/-- Dates and times. -/
def timestampForm : Form :=
  let blank (c : Char) : Bool := c = ' ' || c = '\t'
  let year := twoDigits.before twoDigits
  any [
    inOrder [year, word "-", twoDigits, word "-", twoDigits],
    inOrder [year, word "-", oneOrTwo, word "-", oneOrTwo,
      either (one fun c => c = 'T' || c = 't') (several blank),
      oneOrTwo, word ":", twoDigits, word ":", twoDigits,
      maybe ((word ".").before (many isDigit)),
      maybe ((many blank).before (either (word "Z") (inOrder [
        one fun c => c = '-' || c = '+', oneOrTwo, maybe ((word ":").before twoDigits)])))]]

/-- The tag that a plain scalar has by its text. -/
def Tag.ofPlain (text : String) : Tag :=
  let cs := text.toList
  if boolForm.covers cs then .bool
  else if realForm.covers cs then .real
  else if intForm.covers cs then .int
  else if text = "<<" then .merge
  else if ["", "~", "null", "Null", "NULL"].contains text then .null
  else if timestampForm.covers cs then .timestamp
  else if text = "=" then .default
  else .str

end Meetings.Yaml
