/-
Tokens in front of documents and nodes.

* `directive` — a line that begins with a percent sign;
* `anchorName` — the name of an anchor or an alias;
* `nodeTag` — the tag of a node.
-/
import Meetings.Text.Utf8
import Meetings.Yaml.Cursor
import Meetings.Yaml.Token

namespace Meetings.Yaml

open Meetings.Text

/-- Reads a name, which may not be empty. -/
def name : Scan String := do
  let cs ← Scan.takeWhile isNameChar
  if cs.isEmpty then Scan.malformed
  return String.ofList cs

/-- Reads the name of an anchor or an alias, from its mark on. -/
def anchorName : Scan String := do
  Scan.skip 1
  let found ← name
  let c ← Scan.peek
  if isGap c || ['?', ':', ',', ']', '\x7d', '%', '@', '\x60'].contains c then return found
  else Scan.malformed

/-! ### Tags -/

/-- Reads the handle of a tag: an exclamation mark, or a name between two. -/
def tagHandle : Scan String := do
  if (← Scan.peek) != '!' then Scan.malformed
  Scan.skip 1
  if (← Scan.peek) = ' ' then return "!"
  let word ← Scan.takeWhile isNameChar
  if (← Scan.peek) != '!' then Scan.malformed
  Scan.skip 1
  return String.ofList ('!' :: word ++ ['!'])

/-- A character of a tag. -/
def isTagChar (c : Char) : Bool :=
  c.isAlphanum || "-;/?:@&=+$,_.!~*\x27()[]".toList.contains c

/-- Reads a byte written as a percent sign and two hexadecimal digits. -/
def escapedByte : Scan (Option UInt8) := do
  if (← Scan.peek) != '%' then return none
  match hexDigit? (← Scan.peekAt 1), hexDigit? (← Scan.peekAt 2) with
  | some high, some low =>
    Scan.skip 3
    return some (UInt8.ofNat (16 * high + low))
  | _, _ => Scan.malformed

/-- Reads a run of characters of a tag, or of escaped bytes that are text. -/
def tagRun : Scan (Option (List Char)) := do
  let plain ← Scan.takeWhile isTagChar
  if !plain.isEmpty then return some plain
  if (← Scan.peek) != '%' then return none
  match decodeUtf8 (← Scan.repeatedly escapedByte) with
  | .ok text => return some text.toList
  | .error _ => Scan.malformed

/-- Reads the text of a tag, which may not be empty. -/
def tagText : Scan String := do
  let runs ← Scan.repeatedly tagRun
  if runs.isEmpty then Scan.malformed
  return String.ofList runs.flatten

/-- Reads the tag of a node: in full between angle brackets, a mark alone, or a
handle and a text. -/
def nodeTag : Scan Token := do
  let next ← Scan.peekAt 1
  let token ←
    if next = '<' then do
      Scan.skip 2
      let text ← tagText
      if (← Scan.peek) != '>' then Scan.malformed
      Scan.skip 1
      pure (Token.tag none text)
    else if isGap next then do
      Scan.skip 1
      pure (Token.tag none "!")
    else do
      let word := ((← get).rest.drop 1).takeWhile fun c => !isWordEnd c
      let handle ←
        if word.contains '!' then tagHandle
        else do
          Scan.skip 1
          pure "!"
      pure (Token.tag (some handle) (← tagText))
  if isWordEnd (← Scan.peek) then return token else Scan.malformed

/-! ### Directives -/

/-- Reads a number of a version. -/
def versionNumber : Scan Nat := do
  let ds ← Scan.takeWhile isDigit
  if ds.isEmpty then Scan.malformed
  return digitsValue ds

/-- The end of a word is required here. -/
def wordEnd : Scan Unit := do
  if !isWordEnd (← Scan.peek) then Scan.malformed

/-- Reads a directive, from its mark on. -/
def directive : Scan Directive := do
  Scan.skip 1
  let word ← name
  wordEnd
  let found ←
    if word = "YAML" then do
      Scan.skipSpaces
      let major ← versionNumber
      if (← Scan.peek) != '.' then Scan.malformed
      Scan.skip 1
      let _ ← versionNumber
      wordEnd
      pure (Directive.version major)
    else if word = "TAG" then do
      Scan.skipSpaces
      let handle ← tagHandle
      if (← Scan.peek) != ' ' then Scan.malformed
      Scan.skipSpaces
      let text ← tagText
      wordEnd
      pure (Directive.handle handle text)
    else do
      Scan.skipWhile fun c => !isLineEnd c
      pure Directive.other
  Scan.finishLine
  return found

end Meetings.Yaml
