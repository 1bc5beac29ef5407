/-
This file lays out tables as plain text: columns as wide as their widest cell,
two spaces apart, under a line of dashes. Rows lose the blanks at their end.
-/

import Tangle.Analysis
import Tangle.Text.Blank

namespace Tangle.TextTable

/-- Why there is no table. -/
inductive LayoutError where
  | rowTooLong
deriving DecidableEq

/-- A text filled up with spaces to the given width. -/
def padTo (width : Nat) (text : List Char) : List Char :=
  text ++ List.replicate (width - text.length) ' '

/-- Widens the columns for one row; cells without a column do not count. -/
def widen : List Nat → List (List Char) → List Nat
  | width :: widths, cell :: cells => max width cell.length :: widen widths cells
  | widths, _ => widths

/-- The widths of the columns. -/
def columnWidths (headers : List (List Char)) (rows : List (List (List Char))) : List Nat :=
  rows.foldl widen (headers.map (·.length))

/-- The gap between two columns. -/
def gap : List Char := [' ', ' ']

/-- A cell of a line, filled up to the width of the column that has its number. -/
def fill (widths : List Nat) (cell : List Char × Nat) : Except LayoutError (List Char) :=
  match widths[cell.2]? with
  | some width => .ok (padTo width cell.1)
  | none => .error .rowTooLong

/-- The cells of a line, each filled up to its column. -/
def line (widths : List Nat) (cells : List (List Char)) : Except LayoutError (List Char) := do
  pure (gap.intercalate (← cells.zipIdx.mapM (fill widths)))

/-- The line of dashes under the headers. -/
def dashes (widths : List Nat) : List Char :=
  gap.intercalate (widths.map (List.replicate · '-'))

/-- The line of a row, without the blanks at its end. -/
def rowLine (widths : List Nat) (row : List (List Char)) : Except LayoutError (List Char) := do
  pure (Text.trimRight (← line widths row))

/-- What stands in place of a table without rows. -/
def noRows : List Char := "(none)".toList

/-- The table. Each cell of a row needs a header. -/
def render (headers : List (List Char)) (rows : List (List (List Char))) :
    Except LayoutError (List Char) := do
  if rows.isEmpty then pure noRows
  else
    let widths := columnWidths headers rows
    let top ← line widths headers
    let body ← rows.mapM (rowLine widths)
    pure (['\n'].intercalate (top :: dashes widths :: body))

/-! ### Tables of functions -/

/-- A file and a line in it. -/
def location (path : String) : Option Int → String
  | some line => path ++ ":" ++ toString line
  | none => path

/-- The word for a status in a table; one that is not known stands for itself. -/
def statusMarker : String → String
  | "none" => ""
  | "warning" => "WARN"
  | "error" => "ERROR"
  | other => other

/-- The headers of a table of functions. -/
def functionHeaders : List String := ["", "cyc", "cog", "function", "location"]

/-- The row of a function. -/
def functionRow (file : String) (function : FunctionReport) : List String :=
  [statusMarker function.status.name, toString function.cyclomatic.total,
    toString function.cognitive.total, function.name ++ "()", location file (some function.line)]

/-- The table of the functions of a file. -/
def functionTable (report : FileReport) : Except LayoutError (List Char) :=
  render (functionHeaders.map String.toList)
    (report.functions.map fun function => (functionRow report.file function).map String.toList)

end Tangle.TextTable
