import AirflowDeploy.Proofs.Table.Columns
import Mathlib.Algebra.Ring.Nat
import Mathlib.Data.List.Forall2

/-!
# Alignment of a table

The widths count bytes, the padding counts characters. As no character takes less than a byte,
every cell fits into its column, and each column begins at one place in all lines. Trimming a line
takes away only what stands behind its last cell that is not blank, and blanks at the end of that
cell.
-/
namespace AirflowDeploy.Table

open Text

variable {headers : List Cell} {rows : List (List Cell)} {ws : List Nat} {row other : List Cell}
  {cell : Cell} {j columns : Nat}

/-- Every cell takes no more bytes than its column is wide. -/
def Covers (ws : List Nat) (row : List Cell) : Prop :=
  List.Forall₂ (fun w cell => Utf8.size cell ≤ w) ws row

theorem length_le_size (cs : List Char) : cs.length ≤ Utf8.size cs := by
  induction cs with
  | nil => exact Nat.le_refl _
  | cons c cs ih =>
    have hbyte := c.utf8Size_pos
    rw [List.length_cons, Utf8.size]
    omega

theorem covers_sizes (row : List Cell) : Covers (row.map Utf8.size) row :=
  List.forall₂_map_left_iff.mpr (List.forall₂_same.mpr fun _ _ => Nat.le_refl _)

theorem covers_widest_self (h : ws.length = row.length) : Covers (widest ws row) row := by
  induction row generalizing ws with
  | nil =>
    obtain rfl := List.eq_nil_of_length_eq_zero h
    exact .nil
  | cons cell row ih =>
    obtain ⟨w, ws, rfl⟩ := List.exists_cons_of_length_eq_add_one h
    exact .cons (Nat.le_max_right _ _) (ih (Nat.succ_inj.mp h))

/-- A further row makes no column narrower. -/
theorem covers_widest (h : Covers ws row) (hother : other.length = row.length) :
    Covers (widest ws other) row := by
  induction h generalizing other with
  | nil =>
    obtain rfl := List.eq_nil_of_length_eq_zero hother
    exact .nil
  | cons hcell _ ih =>
    obtain ⟨next, other, rfl⟩ := List.exists_cons_of_length_eq_add_one hother
    exact .cons (Nat.le_trans hcell (Nat.le_max_left _ _)) (ih (Nat.succ_inj.mp hother))

theorem covers_foldl_widest (h : Covers ws row)
    (hrows : ∀ other ∈ rows, other.length = row.length) : Covers (rows.foldl widest ws) row := by
  induction rows generalizing ws with
  | nil => exact h
  | cons other rows ih =>
    obtain ⟨hother, hrest⟩ := List.forall_mem_cons.mp hrows
    exact ih (covers_widest h hother) hrest

theorem covers_foldl_widest_of_mem (hws : ws.length = columns)
    (hrows : ∀ other ∈ rows, other.length = columns) (hrow : row ∈ rows) :
    Covers (rows.foldl widest ws) row := by
  induction rows generalizing ws with
  | nil => cases hrow
  | cons other rows ih =>
    obtain ⟨hother, hrest⟩ := List.forall_mem_cons.mp hrows
    rcases List.mem_cons.mp hrow with rfl | hlater
    · have hself := covers_widest_self (hws.trans hother.symm)
      rw [List.foldl_cons]
      exact covers_foldl_widest hself fun next hnext => (hrest next hnext).trans hother.symm
    · exact ih (length_widest hws hother) hrest hlater

theorem covers_widths (hrows : ∀ row ∈ rows, row.length = headers.length)
    (hrow : row ∈ headers :: rows) : Covers (widths headers rows) row := by
  rcases List.mem_cons.mp hrow with rfl | hrow
  · exact covers_foldl_widest (covers_sizes row) hrows
  · exact covers_foldl_widest_of_mem (List.length_map _) hrows hrow

/-- The margin and the columns before a column, with two blanks behind each. -/
def columnStart (ws : List Nat) (j : Nat) : Nat := 1 + ((ws.take j).map (· + 2)).sum

theorem columnStart_cons (w : Nat) (ws : List Nat) (j : Nat) :
    columnStart (w :: ws) (j + 1) = columnStart ws j + (w + 2) := by
  simp only [columnStart, List.take_succ_cons, List.map_cons, List.sum_cons]
  omega

theorem length_pad {w : Nat} (h : cell.length ≤ w) : (pad w cell).length = w := by
  rw [pad, List.length_append, List.length_replicate]
  omega

/-- The gap and the columns behind a cell. -/
def behind (ws : List Nat) : List Cell → List Char
  | [] => []
  | cell :: row => ' ' :: ' ' :: padded ws (cell :: row)

theorem padded_cons (w : Nat) (cell : Cell) (h : Covers ws row) :
    padded (w :: ws) (cell :: row) = pad w cell ++ behind ws row := by
  cases h with
  | nil => exact (List.append_nil _).symm
  | cons _ _ =>
    simp only [padded, List.zipWith_cons_cons, joinWith_cons_cons, behind, List.append_assoc,
      List.cons_append, List.nil_append]

/-- A cell stands at the beginning of its column, with blanks up to the width of the column. -/
theorem exists_padded_split (h : Covers ws row) (hcell : row[j]? = some cell) :
    ∃ w before, ws[j]? = some w ∧ cell.length ≤ w ∧ before.length + 1 = columnStart ws j ∧
      padded ws row = before ++ (pad w cell ++ behind (ws.drop (j + 1)) (row.drop (j + 1))) := by
  induction h generalizing j with
  | nil => cases hcell
  | @cons w first ws row hfirst hrest ih =>
    have hfits := Nat.le_trans (length_le_size first) hfirst
    cases j with
    | zero =>
      obtain rfl : first = cell := Option.some.inj hcell
      exact ⟨w, [], rfl, hfits, rfl, padded_cons w first hrest⟩
    | succ j =>
      rw [List.getElem?_cons_succ] at hcell
      obtain ⟨v, before, hv, hle, hstart, hsplit⟩ := ih hcell
      refine ⟨v, pad w first ++ ' ' :: ' ' :: before, hv, hle, ?_, ?_⟩
      · rw [columnStart_cons, ← hstart, List.length_append, length_pad hfits]
        simp only [List.length_cons]
        omega
      · rw [padded_cons w first hrest]
        cases row with
        | nil => cases hcell
        | cons next row =>
          rw [behind, hsplit]
          simp only [List.append_assoc, List.cons_append, List.drop_succ_cons]

theorem trimEnd_append_of_mem {cs ds : List Char} {c : Char} (hc : c ∈ cs)
    (hsolid : isBlank c = false) : trimEnd (ds ++ cs) = ds ++ trimEnd cs := by
  obtain ⟨before, after, rfl⟩ := List.append_of_mem hc
  have hends : SolidEnd (before ++ [c]) := ⟨before, c, rfl, hsolid⟩
  have hsplit : before ++ c :: after = (before ++ [c]) ++ after := by simp
  rw [hsplit, hends.trimEnd_append, ← List.append_assoc, (hends.append ds).trimEnd_append,
    List.append_assoc]

theorem length_trimEnd_le (cs : List Char) : (trimEnd cs).length ≤ cs.length := by
  rw [trimEnd, List.length_reverse, ← cs.length_reverse]
  exact (List.dropWhile_suffix _).length_le

theorem drop_trimEnd_append (ds cs : List Char) :
    (trimEnd (ds ++ cs)).drop ds.length = trimEnd cs := by
  by_cases hblank : ∀ c ∈ cs, isBlank c = true
  · have hnothing : trimEnd cs = [] := trimEnd_append_blanks [] hblank
    rw [trimEnd_append_blanks ds hblank, hnothing, List.drop_eq_nil_iff]
    exact length_trimEnd_le ds
  · push Not at hblank
    obtain ⟨c, hc, hsolid⟩ := hblank
    rw [trimEnd_append_of_mem hc (Bool.eq_false_iff.mpr hsolid), List.drop_left]

theorem mem_padded {c : Char} (h : Covers ws row) (hc : c ∈ padded ws row) :
    c = ' ' ∨ ∃ cell ∈ row, c ∈ cell := by
  induction h with
  | nil => cases hc
  | @cons w first ws row _ hrest ih =>
    rw [padded_cons w first hrest, List.mem_append, pad, List.mem_append] at hc
    rcases hc with (hfirst | hpad) | hbehind
    · exact .inr ⟨first, List.mem_cons_self, hfirst⟩
    · exact .inl (List.eq_of_mem_replicate hpad)
    · cases row with
      | nil => cases hbehind
      | cons next row =>
        simp only [behind, List.mem_cons] at hbehind
        rcases hbehind with hgap | hgap | hlater
        · exact .inl hgap
        · exact .inl hgap
        · refine (ih hlater).imp_right ?_
          rintro ⟨cell, hcell, hmem⟩
          exact ⟨cell, List.mem_cons_of_mem first hcell, hmem⟩

theorem isBlank_of_mem_behind {c : Char} (h : Covers ws row)
    (hblank : ∀ cell ∈ row, ∀ c ∈ cell, isBlank c = true) (hc : c ∈ behind ws row) :
    isBlank c = true := by
  have hspace : isBlank ' ' = true := rfl
  cases row with
  | nil => cases hc
  | cons next row =>
    simp only [behind, List.mem_cons] at hc
    rcases hc with rfl | rfl | hc
    · exact hspace
    · exact hspace
    · rcases mem_padded h hc with rfl | ⟨cell, hcell, hmem⟩
      · exact hspace
      · exact hblank cell hcell c hmem

theorem mem_behind {c : Char} (h : Covers ws row) (hcell : cell ∈ row) (hc : c ∈ cell) :
    c ∈ behind ws row := by
  obtain ⟨j, hj⟩ := List.mem_iff_getElem?.mp hcell
  obtain ⟨w, before, -, -, -, hsplit⟩ := exists_padded_split h hj
  cases row with
  | nil => cases hcell
  | cons next row =>
    have hin : c ∈ padded ws (next :: row) := by
      rw [hsplit, pad]
      simp [hc]
    exact List.mem_cons_of_mem _ (List.mem_cons_of_mem _ hin)

/-- A cell of a row in its column of width `w`. Where something that is not blank stands behind it,
it is shown with all its blanks, else without those at its end. -/
structure InColumn (ws : List Nat) (row : List Cell) (j w : Nat) (cell : Cell) : Prop where
  fits : cell.length ≤ w
  stands : ((' ' :: padded ws row).drop (columnStart ws j)).take w =
    cell ++ List.replicate (w - cell.length) ' '
  shown : (∃ next ∈ row.drop (j + 1), ∃ c ∈ next, isBlank c = false) →
    ((line ws row).drop (columnStart ws j)).take w = cell ++ List.replicate (w - cell.length) ' '
  shown_last : (∀ next ∈ row.drop (j + 1), ∀ c ∈ next, isBlank c = true) →
    (line ws row).drop (columnStart ws j) = trimEnd cell

theorem exists_inColumn (h : Covers ws row) (hcell : row[j]? = some cell) :
    ∃ w, ws[j]? = some w ∧ InColumn ws row j w cell := by
  obtain ⟨w, before, hw, hfits, hstart, hsplit⟩ := exists_padded_split h hcell
  have hlater : Covers (ws.drop (j + 1)) (row.drop (j + 1)) := List.forall₂_drop (j + 1) h
  have htake (rest : List Char) : (pad w cell ++ rest).take w = pad w cell :=
    List.take_left' (length_pad hfits)
  refine ⟨w, hw, ⟨hfits, ?_, ?_, ?_⟩⟩
  · rw [← hstart, List.drop_succ_cons, hsplit, List.drop_left, htake]
    rfl
  · rintro ⟨next, hnext, c, hc, hsolid⟩
    have hbehind := mem_behind hlater hnext hc
    rw [line, ← hstart, List.drop_succ_cons, hsplit, ← List.append_assoc,
      trimEnd_append_of_mem hbehind hsolid, List.append_assoc, List.drop_left, htake]
    rfl
  · intro hblank
    have hblanks : ∀ c ∈ List.replicate (w - cell.length) ' ' ++
        behind (ws.drop (j + 1)) (row.drop (j + 1)), isBlank c = true := by
      intro c hc
      rcases List.mem_append.mp hc with hpad | hbehind
      · rw [List.eq_of_mem_replicate hpad]
        rfl
      · exact isBlank_of_mem_behind hlater hblank hbehind
    rw [line, ← hstart, List.drop_succ_cons, hsplit, pad, List.append_assoc, ← List.append_assoc,
      trimEnd_append_blanks _ hblanks, drop_trimEnd_append]

/-- In every table there is one width for each column, and each line is that of its row with the
cells in their columns, without the blanks at its end. -/
theorem render_aligned (headers : List String) (rows : List (List String))
    (hrows : ∀ row ∈ rows, row.length = headers.length) :
    let cells := (headers :: rows).map (·.map String.toList)
    ∃ ws : List Nat, ws.length = headers.length ∧
      render headers rows =
        cells.map (fun row => String.ofList (' ' :: trimEnd (padded ws row))) ∧
      ∀ row ∈ cells, ∀ j cell, row[j]? = some cell →
        ∃ w, ws[j]? = some w ∧ InColumn ws row j w cell := by
  intro cells
  have hcells : ∀ row ∈ rows.map (·.map String.toList),
      row.length = (headers.map String.toList).length := by
    simpa using hrows
  refine ⟨widths (headers.map String.toList) (rows.map (·.map String.toList)), ?_, ?_, ?_⟩
  · rw [length_widths rfl hcells, List.length_map]
  · simp only [render, lines, line, cells, List.map_cons, List.map_map, Function.comp_def]
  · intro row hrow j cell hcell
    exact exists_inColumn (covers_widths hcells hrow) hcell

/-- A cell with fewer characters than bytes, and one that ends in a blank. -/
theorem accentedTable_aligned :
    (∀ row ∈ [["1", "équipe"], ["10", "x "]], row.length = ["ID", "NAME"].length) ∧
    ∃ ws : List Nat, ws.length = 2 ∧
      (∃ w, ws[1]? = some w ∧
        InColumn ws ["1".toList, "équipe".toList] 1 w "équipe".toList) ∧
      ∃ w, ws[1]? = some w ∧ InColumn ws ["10".toList, "x ".toList] 1 w "x ".toList := by
  have hrows : ∀ row ∈ [["1", "équipe"], ["10", "x "]], row.length = ["ID", "NAME"].length := by
    decide
  obtain ⟨ws, hcount, -, hcells⟩ :=
    render_aligned ["ID", "NAME"] [["1", "équipe"], ["10", "x "]] hrows
  exact ⟨hrows, ws, hcount, hcells _ (by simp) 1 _ rfl, hcells _ (by simp) 1 _ rfl⟩

example : render ["ID", "NAME"] [["1", "équipe"], ["10", "x "]] =
    [" ID  NAME", " 1   équipe", " 10  x"] := by decide +kernel

end AirflowDeploy.Table
