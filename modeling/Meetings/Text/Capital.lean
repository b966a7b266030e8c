/-
Capital letters.

* `capitals` — a text in capitals, as far as those are capitals of ASCII.

Design notes: besides the small letters of ASCII, the dotless i, the long s, the
sharp s and the ligatures of f and s have capitals in ASCII, some of them more
than one.  Every other character is left as it is, so a text of ASCII capitals
comes out exactly where the full rules of Unicode give it.
-/

namespace Meetings.Text

/-- The characters beyond ASCII whose capitals are in ASCII. -/
def farCapitals : List (Char × String) :=
  [('\u00df', "SS"), ('\u0131', "I"), ('\u017f', "S"), ('\ufb00', "FF"), ('\ufb01', "FI"),
    ('\ufb02', "FL"), ('\ufb03', "FFI"), ('\ufb04', "FFL"), ('\ufb05', "ST"), ('\ufb06', "ST")]

/-- The capitals of a character. -/
def capitalChars (c : Char) : List Char :=
  if 'a' ≤ c ∧ c ≤ 'z' then [Char.ofNat (c.toNat - 32)]
  else match farCapitals.lookup c with
    | some letters => letters.toList
    | none => [c]

/-- A text in capitals. -/
def capitals (s : String) : String := String.ofList (s.toList.flatMap capitalChars)

end Meetings.Text
