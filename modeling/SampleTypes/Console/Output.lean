import SampleTypes.Console.Markup
/-!
# Console output

What a run shows beside the generated code: lines, tables and panels. All of it is plain text; styles
and borders are the console's own affair. `ConsoleOutput.layout` is the plainest layout: the title stands
above, and the columns of a table are as wide as their widest cell.
-/

set_option autoImplicit false

namespace SampleTypes

inductive ConsoleOutput where
  /-- A line, which may hold line feeds of its own. -/
  | line (text : Text)
  | table (title : Text) (columns : List Text) (rows : List (List Text))
  | panel (title text : Text)
deriving DecidableEq, Repr

namespace ConsoleOutput

/-- An empty line. -/
def blank : ConsoleOutput := .line []

def marked (t : Text) : Except Markup.Fault ConsoleOutput := do return .line (← Markup.plain t)

def fillUp (width : Nat) (cell : Text) : Text :=
  cell ++ List.replicate (width - cell.length) (.scalar ' ')

/-- The width of each column: that of its widest cell. -/
def columnWidths (rows : List (List Text)) : List Nat :=
  rows.foldr
    (fun row widths =>
      (List.range (max row.length widths.length)).map fun i =>
        max ((row[i]?.map List.length).getD 0) (widths[i]?.getD 0))
    []

/-- A row of a table, its cells two spaces apart. -/
def rowLine (widths : List Nat) (row : List Text) : Text :=
  Text.join "  " ((widths.zip row).map fun (width, cell) => fillUp width cell)

/-- The lines of plain text that show a piece of output. -/
def layout : ConsoleOutput → List Text
  | line text => [text]
  | table title columns rows =>
    title :: (columns :: rows).map (rowLine (columnWidths (columns :: rows)))
  | panel title text => [title, text]

end ConsoleOutput

end SampleTypes
