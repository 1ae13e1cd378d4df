import AirflowDeploy.Text.Blank
import AirflowDeploy.Text.Cut
import AirflowDeploy.Text.Utf8

/-!
# Tables

Left-aligned columns, padded to the widest cell, without blanks at the end of a line. A width is
measured in bytes, a cell is padded by characters.
-/
namespace AirflowDeploy.Table

open Text

abbrev Cell := List Char

/-- The larger of two widths, column by column. -/
def widest (widths : List Nat) (row : List Cell) : List Nat :=
  List.zipWith (fun width cell => max width (Utf8.size cell)) widths row

def widths (headers : List Cell) (rows : List (List Cell)) : List Nat :=
  rows.foldl widest (headers.map Utf8.size)

def pad (width : Nat) (cell : Cell) : Cell :=
  cell ++ List.replicate (width - cell.length) ' '

/-- A line before the blanks at its end are dropped. -/
def padded (widths : List Nat) (row : List Cell) : List Char :=
  joinWith [' ', ' '] (List.zipWith pad widths row)

def line (widths : List Nat) (row : List Cell) : List Char := ' ' :: trimEnd (padded widths row)

/-- The header line and one line a row. -/
def lines (headers : List Cell) (rows : List (List Cell)) : List (List Char) :=
  (headers :: rows).map (line (widths headers rows))

def render (headers : List String) (rows : List (List String)) : List String :=
  (lines (headers.map String.toList) (rows.map (·.map String.toList))).map String.ofList

end AirflowDeploy.Table
