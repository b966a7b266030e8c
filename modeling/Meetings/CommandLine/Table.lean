/-
Text on a screen of equal cells.

* `screenLines` — the lines of a text, with tabs as spaces;
* `Table.lines` — a table with a title and a frame.
-/
import Meetings.CommandLine.Markup
import Meetings.Text.Width

namespace Meetings

open Meetings.Text

/-- The parts of a text between line breaks. -/
def splitLines (cs : List Char) : List (List Char) :=
  cs.foldr (fun c lines =>
    if c = '\n' then [] :: lines
    else match lines with
      | line :: rest => (c :: line) :: rest
      | [] => [[c]]) [[]]

/-- A line whose tabs are spaces up to the next column that is a multiple of 8;
`column` is where it starts. -/
def expandTabs : Nat → List Char → List Char
  | _, [] => []
  | column, c :: rest =>
    if c = '\t' then
      let count := 8 - column % 8
      List.replicate count ' ' ++ expandTabs (column + count) rest
    else c :: expandTabs (column + cellWidth c) rest

/-- The lines of a text, with tabs as spaces. -/
def screenLines (cs : List Char) : List (List Char) := (splitLines cs).map (expandTabs 0)

/-- A line with spaces behind it up to a width. -/
def padTo (width : Nat) (line : List Char) : List Char :=
  line ++ List.replicate (width - textWidth line) ' '

/-- A line in the middle of a width; the larger half of the space is behind. -/
def centered (width : Nat) (line : List Char) : List Char :=
  padTo width (List.replicate ((width - textWidth line) / 2) ' ' ++ line)

/-- A table of texts. -/
structure Table where
  title : String
  header : List String
  rows : List (List String)
deriving Repr

namespace Table

/-- The marks of a line between the rows of a table. -/
structure Rule where
  left : Char
  line : Char
  cross : Char
  right : Char

/-- The line above the header. -/
def topRule : Rule := ⟨'┏', '━', '┳', '┓'⟩

/-- The line below the header. -/
def headRule : Rule := ⟨'┡', '━', '╇', '┩'⟩

/-- The line below the rows. -/
def bottomRule : Rule := ⟨'└', '─', '┴', '┘'⟩

/-- Cells, each by its lines. -/
abbrev Cells := List (List (List Char))

/-- The texts of the columns from the header down. -/
def columns (t : Table) : List (List String) :=
  t.header.mapIdx fun n head => head :: t.rows.map fun row => row.getD n ""

/-- The cells of some texts. -/
def cells (texts : List String) : Except MarkupFault Cells :=
  texts.mapM fun text => (plainText text).map screenLines

/-- The width of a cell: that of its widest line. -/
def cellWidth (lines : List (List Char)) : Nat := (lines.map textWidth).foldl max 0

/-- The width of a column: that of its widest cell. -/
def columnWidth (column : Cells) : Nat := (column.map cellWidth).foldl max 0

/-- A line between rows. -/
def ruleLine (r : Rule) (widths : List Nat) : List Char :=
  let parts := widths.map fun w => List.replicate (w + 2) r.line
  r.left :: ([r.cross].intercalate parts ++ [r.right])

/-- The lines of a row between bars. -/
def rowLines (bar : Char) (widths : List Nat) (row : Cells) : List (List Char) :=
  let height := (row.map List.length).foldl max 1
  (List.range height).map fun n =>
    let parts := (widths.zip row).map fun (w, lines) => ' ' :: padTo w (lines.getD n []) ++ [' ']
    bar :: ([bar].intercalate parts ++ [bar])

/-- The lines of a table.  The columns are looked at one after the other. -/
def lines (t : Table) : Except MarkupFault (List (List Char)) := do
  let columns ← t.columns.mapM cells
  let title ← plainText t.title
  let ws := columns.map columnWidth
  let row (n : Nat) : Cells := columns.map fun column => column.getD n []
  let rows := (List.range t.rows.length).map fun n => row (n + 1)
  let width := ws.foldl (· + · + 3) 1
  return (screenLines title).map (centered width) ++
    [ruleLine topRule ws] ++ rowLines '┃' ws (row 0) ++ [ruleLine headRule ws] ++
    rows.flatMap (rowLines '│' ws) ++ [ruleLine bottomRule ws]

end Table

end Meetings
