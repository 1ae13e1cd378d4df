import AirflowDeploy.Proofs.Text.Lines
import AirflowDeploy.Table

/-!
# Columns of a table

Every row has as many cells as there are columns, and so has the list of the widths. A cell is cut
nowhere: only the blanks at the end of a line are dropped.
-/
namespace AirflowDeploy.Table

open Text

variable {headers : List Cell} {rows : List (List Cell)} {columns : Nat}

theorem length_widest {ws : List Nat} {row : List Cell} (hws : ws.length = columns)
    (hrow : row.length = columns) : (widest ws row).length = columns := by
  rw [widest, List.length_zipWith, hws, hrow, Nat.min_self]

theorem length_foldl_widest {ws : List Nat} (hws : ws.length = columns)
    (hrows : ∀ row ∈ rows, row.length = columns) :
    (rows.foldl widest ws).length = columns := by
  induction rows generalizing ws with
  | nil => exact hws
  | cons row rows ih =>
    obtain ⟨hrow, hrest⟩ := List.forall_mem_cons.mp hrows
    exact ih (length_widest hws hrow) hrest

/-- There is one width a column. -/
theorem length_widths (hheaders : headers.length = columns)
    (hrows : ∀ row ∈ rows, row.length = columns) : (widths headers rows).length = columns :=
  length_foldl_widest (by rw [List.length_map, hheaders]) hrows

/-- Blanks part the first cell from the others. -/
theorem padded_cons_cons (w v : Nat) (ws : List Nat) (cell next : Cell) (row : List Cell) :
    padded (w :: v :: ws) (cell :: next :: row) =
      cell ++ (List.replicate (w - cell.length + 2) ' ' ++ padded (v :: ws) (next :: row)) := by
  have hgap : List.replicate (w - cell.length + 2) ' ' =
      List.replicate (w - cell.length) ' ' ++ [' ', ' '] := List.replicate_add _ 2 _
  rw [hgap]
  simp only [padded, List.zipWith_cons_cons, joinWith_cons_cons, pad, List.append_assoc]

/-- A first cell that does not end in a blank is shown in full, and blanks follow it. -/
theorem exists_line_cons_cons {ws : List Nat} {cell next : Cell} {row : List Cell}
    (hcell : SolidEnd cell) (hws : ws.length = (cell :: next :: row).length) :
    ∃ (gap : Nat) (rest : List Nat), rest.length = (next :: row).length ∧
      line ws (cell :: next :: row) = ' ' :: (cell ++
        trimEnd (List.replicate (gap + 2) ' ' ++ padded rest (next :: row))) := by
  obtain ⟨w, rest, rfl⟩ := List.exists_cons_of_length_eq_add_one hws
  have hrest : rest.length = (next :: row).length := Nat.succ_inj.mp hws
  obtain ⟨v, vs, rfl⟩ := List.exists_cons_of_length_eq_add_one hrest
  refine ⟨w - cell.length, v :: vs, hrest, ?_⟩
  rw [line, padded_cons_cons, hcell.trimEnd_append]

end AirflowDeploy.Table
