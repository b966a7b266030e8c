/-
Paths to files.

* `Path.ofText` — reads a path: empty parts and parts `.` are dropped, `..` is
  kept, and exactly two slashes in front stay two;
* `Path.display` — writes a path; one without parts and root is `.`;
* `Path.join`, `Path.parent`, `Path.beside` — paths next to a path.
-/

namespace Meetings

/-- A path: what it starts from, and the names that lead on from there. -/
structure Path where
  /-- Empty for a path that starts from the working directory, else slashes. -/
  root : String
  parts : List String
deriving DecidableEq, Repr, Inhabited

namespace Path

/-- Splits text at slashes. -/
def splitSlashes (cs : List Char) : List (List Char) :=
  cs.foldr (fun c parts =>
    if c = '/' then [] :: parts
    else match parts with
      | part :: rest => (c :: part) :: rest
      | [] => [[c]]) [[]]

/-- The root of a text. -/
def rootOf : List Char → String
  | '/' :: '/' :: '/' :: _ => "/"
  | '/' :: '/' :: _ => "//"
  | '/' :: _ => "/"
  | _ => ""

/-- Reads a path. -/
def ofText (s : String) : Path where
  root := rootOf s.toList
  parts := (splitSlashes s.toList).filterMap fun part =>
    if part = [] ∨ part = ['.'] then none else some (String.ofList part)

/-- Writes a path. -/
def display (p : Path) : String :=
  if p.root = "" ∧ p.parts = [] then "." else p.root ++ "/".intercalate p.parts

/-- The path starts from a root. -/
def isAbsolute (p : Path) : Bool := p.root != ""

/-- The path `q` taken from the directory `p`. -/
def join (p q : Path) : Path :=
  if q.isAbsolute then q else ⟨p.root, p.parts ++ q.parts⟩

/-- The directory a path lies in. -/
def parent (p : Path) : Path := ⟨p.root, p.parts.dropLast⟩

/-- The path whose last name has a text added to it. -/
def beside (p : Path) (added : String) : Path :=
  ⟨p.root, p.parts.dropLast ++ [p.parts.getLastD "" ++ added]⟩

/-- A name on the path holds the character that no name may hold. -/
def hasNull (p : Path) : Bool := p.parts.any fun part => part.toList.contains '\x00'

end Path

end Meetings
