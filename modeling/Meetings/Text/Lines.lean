/-
Lines of text.

* `unifyLines` — the line breaks of all systems as one character.
-/

namespace Meetings.Text

/-- The line breaks of all systems as one character. -/
def unifyLines : List Char → List Char
  | [] => []
  | '\r' :: '\n' :: rest => '\n' :: unifyLines rest
  | '\r' :: rest => '\n' :: unifyLines rest
  | c :: rest => c :: unifyLines rest

end Meetings.Text
