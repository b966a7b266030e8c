/-
Text with tags in square brackets.

* `plainText` — a text without its tags;
* `MarkupFault` — a closing tag that closes nothing.

Design notes: a tag names a style, and styles do not show here.  A tag begins
with a small letter, `#`, `/` or `@`; a backslash in front of it makes it text,
and two backslashes stand for one.  Brackets that are no tag are text, in front
of which a backslash is dropped.
-/
import Meetings.Text.Blank
import Meetings.Text.Digits

namespace Meetings

open Meetings.Text

/-- Why a text with tags is refused. -/
inductive MarkupFault where
  /-- A closing tag, at a position, without its opening tag. -/
  | unmatched (tag : String) (position : Nat)
  /-- A tag that closes any other stands where none is open. -/
  | nothingOpen (position : Nat)
deriving DecidableEq, Repr

/-- What is said about a text with tags that is refused. -/
def MarkupFault.message : MarkupFault → String
  | unmatched tag position =>
    "closing tag '[" ++ tag ++ "]' at position " ++ decimal position ++
      " doesn't match any open tag"
  | nothingOpen position =>
    "closing tag '[/]' at position " ++ decimal position ++ " has nothing to close"

namespace Markup

/-- A piece of a text. -/
inductive Piece where
  | text (cs : List Char)
  /-- What stands between the brackets, and how many characters are in front. -/
  | tag (content : List Char) (position : Nat)
deriving Repr

/-- A tag may begin with a character. -/
def opensTag (c : Char) : Bool := ('a' ≤ c && c ≤ 'z') || c = '#' || c = '/' || c = '@'

/-- The content of a tag whose bracket is already open. -/
def tagContent? : List Char → Option (List Char)
  | [] => none
  | c :: rest =>
    if !opensTag c then none
    else
      let content := rest.takeWhile fun c => c != '[' && c != ']'
      if (rest.drop content.length).head? = some ']' then some (c :: content) else none

/-- Drops a backslash in front of a bracket. -/
def dropSlashes : List Char → List Char
  | '\\' :: '[' :: rest => '[' :: dropSlashes rest
  | c :: rest => c :: dropSlashes rest
  | [] => []

/-- Cuts a text into pieces, from a position on, behind text without a tag. -/
def pieces : Nat → Nat → List Char → List Char → List Piece
  | 0, _, found, _ => [.text (dropSlashes found.reverse)]
  | _, _, found, [] => [.text (dropSlashes found.reverse)]
  | fuel + 1, position, found, c :: rest =>
    let slashes := ((c :: rest).takeWhile (· = '\\')).length
    let behind := (c :: rest).drop slashes
    let content? := if behind.head? = some '[' then tagContent? (behind.drop 1) else none
    match content? with
    | none => pieces fuel (position + 1) (c :: found) rest
    | some content =>
      -- Of an odd number of backslashes the last one makes the tag text.
      let length := content.length + 2
      let next := pieces fuel (position + slashes + length) [] (behind.drop length)
      let kept := [.text (dropSlashes found.reverse), .text (List.replicate (slashes / 2) '\\')]
      if slashes % 2 = 1 then kept ++ .text (behind.take length) :: next
      else kept ++ .tag content (position + slashes) :: next

/-- The name of a tag: what stands before an equals sign. -/
def tagName (content : List Char) : List Char := content.takeWhile (· != '=')

/-- The name of a style, in the form that opening and closing tags share. -/
def styleName (cs : List Char) : List Char := (trim isBlank cs).map Char.toLower

/-- Drops the first tag of a name from those that are open. -/
def close? (name : List Char) : List (List Char) → Option (List (List Char))
  | [] => none
  | t :: rest => if t = name then some rest else (close? name rest).map (t :: ·)

/-- The text of some pieces inside of open tags, the innermost in front. -/
def join : List (List Char) → List Piece → Except MarkupFault (List Char)
  | _, [] => .ok []
  | opened, .text cs :: rest => do return cs ++ (← join opened rest)
  | opened, .tag content position :: rest =>
    match content with
    | '/' :: closing =>
      let name := styleName (tagName closing)
      if name.isEmpty then
        match opened with
        | [] => .error (.nothingOpen position)
        | _ :: outer => join outer rest
      else
        match close? name opened with
        | some outer => join outer rest
        | none => .error (.unmatched (String.ofList content) position)
    | _ => join (styleName (tagName content) :: opened) rest

/-- A control character that is not shown. -/
def isHidden (c : Char) : Bool :=
  let n := c.toNat
  n == 7 || n == 8 || n == 11 || n == 12 || n == 13

end Markup

/-- A text without its tags. -/
def plainText (text : String) : Except MarkupFault (List Char) := do
  let cs := text.toList
  let found ← Markup.join [] (Markup.pieces (cs.length + 1) 0 [] cs)
  return found.filter fun c => !Markup.isHidden c

end Meetings
