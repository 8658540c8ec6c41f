import EdgeConsole.View.Path
import EdgeConsole.Text.Lowercase
import EdgeConsole.Text.Blank

/-!
# Tables

A table has a line of headers and a line for each item. Every column has a width in characters; a
text that is too long for its column is cut and ends with an ellipsis. Columns stand two blanks
apart, and no line ends with blanks.

Main definitions: `fit`, `rowChars`, `table`.
-/

namespace EdgeConsole.View

/-- A column: its header, the path of the value it shows, and its width. -/
structure Column where
  header : String
  path : String
  width : Nat
deriving DecidableEq, Repr

/-- A text in exactly `width` characters. -/
def fit (width : Nat) (cs : List Char) : List Char :=
  if cs.length ≤ width then cs ++ List.replicate (width - cs.length) ' '
  else if width ≤ 1 then cs.take width
  else cs.take (width - 1) ++ ['…']

theorem length_fit (width : Nat) (cs : List Char) : (fit width cs).length = width := by
  unfold fit
  split
  · simp; omega
  · split
    · simp; omega
    · simp; omega

/-- The blanks between two columns. -/
def gap : List Char := [' ', ' ']

/-- The cells of a row in the widths of their columns, the gaps between them. -/
def rowChars (widths : List Nat) (cells : List (List Char)) : List Char :=
  gap.intercalate (List.zipWith fit widths cells)

/-- A row as a line. -/
def row (widths : List Nat) (cells : List String) : String :=
  Text.trimEnd (String.ofList (rowChars widths (cells.map String.toList)))

/-- The line that stands for the rows of an empty table. -/
def emptyNotice (displayName : String) : String :=
  "No " ++ Text.lowercase displayName ++ " found."

/-- The lines of a table: the headers, and a row for each item or the notice that there is none. -/
def tableLines (displayName : String) (columns : List Column) (items : List Json) : List String :=
  let widths := columns.map (·.width)
  let rows := items.map fun item => row widths (columns.map fun c => cellAt c.path item)
  row widths (columns.map (·.header)) :: (if items.isEmpty then [emptyNotice displayName] else rows)

/-- The table of a list of items. -/
def table (displayName : String) (columns : List Column) (items : List Json) : String :=
  "\n".intercalate (tableLines displayName columns items)

end EdgeConsole.View
