/-
UTF-8 bytes that are decoded in blocks.

* `decodeUtf8InBlocks` — the text of bytes.

Design notes: the text is that of `decodeUtf8`.  A fault is placed in the block
it is found in, to which the bytes of a sequence belong that the block before
cut short.
-/
import Meetings.Text.Utf8

namespace Meetings.Text

/-- Decodes the bytes that a block before left over, with those of a block; a
sequence that the block cuts short is left over again. -/
def decodeBlock (bytes : List UInt8) : Except Utf8Fault (List Char × List UInt8) :=
  match decodeFrom [] 0 bytes with
  | .ok cs => .ok (cs, [])
  | .error fault =>
    match fault.problem with
    | .unexpectedEnd => do
      return (← decodeFrom [] 0 (bytes.take fault.start), bytes.drop fault.start)
    | _ => .error fault

/-- Decodes blocks behind the characters found so far and the bytes left over. -/
def decodeBlocks (size : Nat) :
    Nat → List Char → List UInt8 → List UInt8 → Except Utf8Fault (List Char)
  | 0, found, left, _ => do return found ++ (← decodeFrom [] 0 left)
  | fuel + 1, found, left, bytes => do
    if bytes.isEmpty then return found ++ (← decodeFrom [] 0 left)
    let (cs, left) ← decodeBlock (left ++ bytes.take size)
    decodeBlocks size fuel (found ++ cs) left (bytes.drop size)

/-- The text of bytes that are decoded in blocks of a size. -/
def decodeUtf8InBlocks (size : Nat) (bytes : List UInt8) : Except Utf8Fault String :=
  (decodeBlocks size (bytes.length + 1) [] [] bytes).map String.ofList

end Meetings.Text
