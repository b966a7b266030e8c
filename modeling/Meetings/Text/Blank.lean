/-
Blank characters.

* `isBlank` — the characters that count as space between words;
* `isPropertySpace` — those with the White_Space property, which lacks the four
  separators `U+001C` to `U+001F`;
* `isBlankText` — text of blank characters only;
* `trim` — text without the characters of a class at its ends.
-/

namespace Meetings.Text

/-- The characters with the White_Space property. -/
def isPropertySpace (c : Char) : Bool :=
  let n := c.toNat
  (0x09 ≤ n && n ≤ 0x0D) || n == 0x20 || n == 0x85 || n == 0xA0 || n == 0x1680 ||
    (0x2000 ≤ n && n ≤ 0x200A) || n == 0x2028 || n == 0x2029 || n == 0x202F ||
    n == 0x205F || n == 0x3000

/-- The characters that count as space: those of the property and the four
information separators. -/
def isBlank (c : Char) : Bool :=
  isPropertySpace c || (0x1C ≤ c.toNat && c.toNat ≤ 0x1F)

/-- The blank characters of ASCII, the information separators apart. -/
def isPlainSpace (c : Char) : Bool :=
  let n := c.toNat
  (0x09 ≤ n && n ≤ 0x0D) || n == 0x20

/-- Text of blank characters only. -/
def isBlankText (s : String) : Bool := s.toList.all isBlank

/-- Drops the characters of a class from both ends. -/
def trim (space : Char → Bool) (cs : List Char) : List Char :=
  ((cs.dropWhile space).reverse.dropWhile space).reverse

end Meetings.Text
