import SchemaContract.Text.Pieces
import SchemaContract.Text.Width

/-!
# Tables of text

A table with a header is drawn with box characters. Every column is as wide as its widest line, and
a cell of several lines makes a row of several lines.
-/

namespace SchemaContract.CommandLine

/-- The lines of each cell of a row. -/
abbrev TableRow := List (List String)

namespace TableRow

def ofTexts (cells : List String) : TableRow :=
  cells.map fun c => (Text.pieces '\n' c.toList).map String.ofList

def height (row : TableRow) : Nat := row.foldl (fun h cell => max h cell.length) 0

def widths (row : TableRow) : List Nat :=
  row.map fun cell => cell.foldl (fun w line => max w (Text.columns line)) 0

end TableRow

namespace Table

def widest : List Nat → List Nat → List Nat
  | a :: as, b :: bs => max a b :: widest as bs
  | [], bs => bs
  | as, [] => as

/-- A text with a blank on either side, filled up to the width of its column. -/
def padded (width : Nat) (text : String) : String :=
  " " ++ text ++ String.ofList (List.replicate (width - Text.columns text) ' ') ++ " "

def rule (left line cross right : Char) (widths : List Nat) : String :=
  let runs := widths.map fun w => String.ofList (List.replicate (w + 2) line)
  String.ofList [left] ++ String.intercalate (String.ofList [cross]) runs ++ String.ofList [right]

def rowLines (widths : List Nat) (row : TableRow) : List String :=
  (List.range row.height).map fun i =>
    let cells := (row.zip widths).map fun (cell, w) => padded w (cell[i]?.getD "")
    "│" ++ String.intercalate "┆" cells ++ "│"

def render (header : List String) (rows : List (List String)) : String :=
  let head := TableRow.ofTexts header
  let body := rows.map TableRow.ofTexts
  let widths := body.foldl (fun ws row => widest ws row.widths) head.widths
  let between := rule '├' '╌' '┼' '┤' widths
  let bodyLines := (body.map (rowLines widths)).intersperse [between]
  String.intercalate "\n"
    ([rule '┌' '─' '┬' '┐' widths] ++ rowLines widths head ++
      (if body.isEmpty then [] else [rule '╞' '═' '╪' '╡' widths]) ++
      bodyLines.flatten ++ [rule '└' '─' '┴' '┘' widths])

end Table

end SchemaContract.CommandLine
