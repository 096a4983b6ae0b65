import Mathlib.Algebra.BigOperators.Intervals
import Mathlib.Data.List.DropRight
import Mathlib.Order.Bounds.Basic
import ProgramFacts.Report.Table

/-!
# Columns of tables

A table of ragged rows is printed in columns.  The width of a column is the greatest number of
characters of a header or cell in it; every line that is printed has its cells where their columns
start, filled up with blanks, and is then trimmed at its end.  What stands beyond the last header
changes nothing.
-/

namespace ProgramFacts
namespace Table

/-! ## The widths of columns -/

/-- The numbers of characters of the texts in a column of a table. -/
def columnLengths (table : List (List String)) (i : Nat) : Set Nat :=
  {n | ∃ cells ∈ table, ∃ text, cells[i]? = some text ∧ text.length = n}

/-- Whether numbers are the widths of the first columns of a table. -/
def AreWidths (table : List (List String)) (ws : List Nat) : Prop :=
  ∀ i w, ws[i]? = some w → IsGreatest (columnLengths table i) w

theorem columnLengths_append_of_eq_some
    {cells : List String} {i : Nat} {text : String} (h : cells[i]? = some text)
    (table : List (List String)) :
    columnLengths (table ++ [cells]) i = insert text.length (columnLengths table i) := by
  ext n
  simp only [columnLengths, List.mem_append, List.mem_singleton, Set.mem_ofPred_eq,
    Set.mem_insert_iff]
  constructor
  · rintro ⟨other, hother | rfl, s, hs, hn⟩
    · exact Or.inr ⟨other, hother, s, hs, hn⟩
    · obtain rfl : text = s := Option.some.inj (h.symm.trans hs)
      exact Or.inl hn.symm
  · rintro (hn | ⟨other, hother, s, hs, hn⟩)
    · exact ⟨cells, Or.inr rfl, text, h, hn.symm⟩
    · exact ⟨other, Or.inl hother, s, hs, hn⟩

theorem columnLengths_append_of_eq_none
    {cells : List String} {i : Nat} (h : cells[i]? = none) (table : List (List String)) :
    columnLengths (table ++ [cells]) i = columnLengths table i := by
  ext n
  simp [columnLengths, or_and_right, exists_or, h]

theorem length_widen (ws : List Nat) (cells : List String) :
    (widen ws cells).length = ws.length := by
  induction ws generalizing cells with
  | nil => rfl
  | cons w ws ih =>
      cases cells with
      | nil => rfl
      | cons cell cells => rw [widen, List.length_cons, ih, List.length_cons]

theorem getElem?_widen (ws : List Nat) (cells : List String) (i : Nat) :
    (widen ws cells)[i]? =
      ws[i]?.map fun w => (cells[i]?.map fun cell => max w cell.length).getD w := by
  induction ws generalizing cells i with
  | nil => simp [widen]
  | cons w ws ih =>
      cases cells with
      | nil => simp [widen]
      | cons cell cells =>
          cases i with
          | zero => simp [widen]
          | succ i => simp [widen, ih]

/-- One more row widens the columns to their widths with that row. -/
theorem AreWidths.widen
    {table : List (List String)} {ws : List Nat} (h : AreWidths table ws)
    (cells : List String) : AreWidths (table ++ [cells]) (widen ws cells) := by
  intro i w' hw'
  rw [getElem?_widen] at hw'
  obtain ⟨w, hw, rfl⟩ := Option.map_eq_some_iff.mp hw'
  cases hcell : cells[i]? with
  | none =>
      rw [columnLengths_append_of_eq_none hcell]
      exact h i w hw
  | some cell =>
      rw [columnLengths_append_of_eq_some hcell, Option.map_some, Option.getD_some, max_comm]
      exact (h i w hw).insert cell.length

theorem AreWidths.foldl_widen
    {table : List (List String)} {ws : List Nat} (h : AreWidths table ws)
    (rows : List (List String)) : AreWidths (table ++ rows) (rows.foldl Table.widen ws) := by
  induction rows generalizing table ws with
  | nil => simpa using h
  | cons cells rows ih => simpa using ih (h.widen cells)

theorem areWidths_headers (headers : List String) :
    AreWidths [headers] (headers.map String.length) := by
  intro i w hw
  rw [List.getElem?_map] at hw
  obtain ⟨header, hheader, rfl⟩ := Option.map_eq_some_iff.mp hw
  have hlengths : columnLengths [headers] i = {header.length} := by
    ext n
    simp [columnLengths, hheader, eq_comm]
  rw [hlengths]
  exact isGreatest_singleton

/-- The widths of a table are those of its columns, headers included. -/
theorem areWidths_widths (headers : List String) (rows : List (List String)) :
    AreWidths (headers :: rows) (widths headers rows) :=
  (areWidths_headers headers).foldl_widen rows

theorem length_foldl_widen (rows : List (List String)) (ws : List Nat) :
    (rows.foldl widen ws).length = ws.length := by
  induction rows generalizing ws with
  | nil => rfl
  | cons cells rows ih => rw [List.foldl_cons, ih, length_widen]

theorem length_widths (headers : List String) (rows : List (List String)) :
    (widths headers rows).length = headers.length := by
  rw [widths, length_foldl_widen, List.length_map]

/-! ## Lines in columns -/

/-- The place at which a column starts: the columns before it, with two blanks after each. -/
def columnStart (w : Nat → Nat) (i : Nat) : Nat :=
  ∑ j ∈ Finset.range i, (w j + 2)

/-- Whether a line has cells in columns of given widths: each stands where its column starts and is
filled up with blanks, two blanks follow it if it is not the last, and there is nothing else. -/
structure Aligned (w : Nat → Nat) (cells : List String) (line : List Char) : Prop where
  cell : ∀ (i : Nat) (h : i < cells.length),
    (line.drop (columnStart w i)).take (w i) =
      cells[i].toList ++ List.replicate (w i - cells[i].length) ' '
  gap : ∀ i, i + 1 < cells.length → (line.drop (columnStart w i + w i)).take 2 = [' ', ' ']
  length : line.length = columnStart w cells.length - 2

@[simp] theorem columnStart_zero (w : Nat → Nat) : columnStart w 0 = 0 := rfl

theorem columnStart_succ (w : Nat → Nat) (i : Nat) :
    columnStart w (i + 1) = w 0 + 2 + columnStart (fun j => w (j + 1)) i := by
  rw [columnStart, Finset.sum_range_succ', Nat.add_comm]
  rfl

theorem length_pad {w : Nat} {cell : String} (h : cell.length ≤ w) : (pad w cell).length = w := by
  rw [pad, List.length_append, List.length_replicate, String.length_toList]
  omega

namespace Aligned

variable {w : Nat → Nat} {cell : String}

theorem nil (w : Nat → Nat) : Aligned w [] [] where
  cell i h := absurd h (Nat.not_lt_zero i)
  gap _ h := absurd h (Nat.not_lt_zero _)
  length := rfl

theorem singleton (hfits : cell.length ≤ w 0) : Aligned w [cell] (pad (w 0) cell) where
  cell i h := by
    obtain rfl : i = 0 := by simpa using h
    rw [columnStart_zero, List.drop_zero, List.take_of_length_le (length_pad hfits).le]
    rfl
  gap i h := absurd h (by simp)
  length := by
    rw [length_pad hfits, List.length_singleton, columnStart, Finset.sum_range_one,
      Nat.add_sub_cancel]

/-- A cell and the gap after it move what follows by the width of their column and two. -/
theorem cons
    {cells : List String} {line : List Char} (hfits : cell.length ≤ w 0) (hcells : cells ≠ [])
    (h : Aligned (fun j => w (j + 1)) cells line) :
    Aligned w (cell :: cells) (pad (w 0) cell ++ [' ', ' '] ++ line) := by
  have hpad : (pad (w 0) cell).length = w 0 := length_pad hfits
  have hfront : (pad (w 0) cell ++ [' ', ' ']).length = w 0 + 2 := by
    rw [List.length_append, hpad]
    rfl
  have hdrop (k : Nat) :
      (pad (w 0) cell ++ [' ', ' '] ++ line).drop (w 0 + 2 + k) = line.drop k := by
    rw [← hfront, List.drop_length_add_append]
  constructor
  · intro i hi
    cases i with
    | zero =>
        rw [columnStart_zero, List.drop_zero, List.append_assoc, List.take_left' hpad]
        rfl
    | succ i =>
        rw [columnStart_succ, hdrop]
        exact h.cell i (by simpa using hi)
  · intro i hi
    cases i with
    | zero =>
        rw [columnStart_zero, Nat.zero_add, List.append_assoc, List.drop_left' hpad]
        rfl
    | succ i =>
        rw [columnStart_succ, Nat.add_assoc, hdrop]
        exact h.gap i (by simpa using hi)
  · obtain ⟨next, rest, rfl⟩ := List.exists_cons_of_ne_nil hcells
    have hlength := h.length
    rw [List.length_cons, columnStart_succ] at hlength
    rw [List.length_append, hfront, hlength, List.length_cons, columnStart_succ, List.length_cons,
      columnStart_succ]
    omega

end Aligned

/-- The width of a column by its number. -/
def widthAt (ws : List Nat) (i : Nat) : Nat :=
  ws[i]?.getD 0

theorem alignCells_cons_of_zip_eq_nil
    {ws : List Nat} {cells : List String} (h : ws.zip cells = []) (w : Nat) (cell : String) :
    alignCells (w :: ws) (cell :: cells) = pad w cell := by
  rw [alignCells, List.zip_cons_cons, h, List.map_singleton, List.intercalate_singleton]

theorem alignCells_cons_cons
    (w w' : Nat) (ws : List Nat) (cell cell' : String) (cells : List String) :
    alignCells (w :: w' :: ws) (cell :: cell' :: cells) =
      pad w cell ++ [' ', ' '] ++ alignCells (w' :: ws) (cell' :: cells) := by
  rw [alignCells, List.zip_cons_cons, List.zip_cons_cons, List.map_cons, List.map_cons,
    List.intercalate_cons_cons, alignCells, List.zip_cons_cons, List.map_cons]

/-- Cells that fit in their columns are put in these columns, and the others are dropped. -/
theorem aligned_alignCells
    {ws : List Nat} {cells : List String}
    (hfits : ∀ (i w : Nat) (cell : String),
      ws[i]? = some w → cells[i]? = some cell → cell.length ≤ w) :
    Aligned (widthAt ws) (cells.take ws.length) (alignCells ws cells) := by
  induction ws generalizing cells with
  | nil => exact Aligned.nil _
  | cons w ws ih =>
      cases cells with
      | nil => exact Aligned.nil _
      | cons cell cells =>
          have hcell : cell.length ≤ widthAt (w :: ws) 0 := hfits 0 w cell rfl rfl
          have hrest := ih fun i => hfits (i + 1)
          -- No gap follows the cell if widths or cells end here.
          cases ws with
          | nil =>
              rw [alignCells_cons_of_zip_eq_nil rfl]
              exact Aligned.singleton hcell
          | cons w' ws =>
              cases cells with
              | nil =>
                  rw [alignCells_cons_of_zip_eq_nil rfl]
                  exact Aligned.singleton hcell
              | cons cell' cells =>
                  rw [alignCells_cons_cons]
                  exact Aligned.cons hcell (List.cons_ne_nil _ _) hrest

/-- The cells of a row of a table fit in the columns of the table. -/
theorem AreWidths.fits
    {table : List (List String)} {ws : List Nat} (h : AreWidths table ws)
    {cells : List String} (hcells : cells ∈ table) {i w : Nat} {cell : String}
    (hw : ws[i]? = some w) (hcell : cells[i]? = some cell) : cell.length ≤ w :=
  (h i w hw).2 ⟨cells, hcells, cell, hcell, rfl⟩

/-- Whether a printed line shows cells in columns of given widths, up to the blanks at its end. -/
def Shows (w : Nat → Nat) (cells : List String) (printed : List Char) : Prop :=
  ∃ line, Aligned w cells line ∧ printed = line.rdropWhile Text.isBlank

theorem shows_lineOf
    {headers : List String} {rows : List (List String)} {cells : List String}
    (hcells : cells ∈ headers :: rows) :
    Shows (widthAt (widths headers rows)) (cells.take headers.length)
      (lineOf (widths headers rows) cells) := by
  refine ⟨alignCells (widths headers rows) cells, ?_, rfl⟩
  rw [← length_widths headers rows]
  apply aligned_alignCells
  intro i w cell hw hcell
  exact (areWidths_widths headers rows).fits hcells hw hcell

/-! ## Cells beyond the last header -/

theorem widen_take (ws : List Nat) (cells : List String) :
    widen ws (cells.take ws.length) = widen ws cells := by
  induction ws generalizing cells with
  | nil => rfl
  | cons w ws ih =>
      cases cells with
      | nil => rfl
      | cons cell cells => rw [List.length_cons, List.take_succ_cons, widen, widen, ih]

theorem alignCells_take (ws : List Nat) (cells : List String) :
    alignCells ws (cells.take ws.length) = alignCells ws cells := by
  have hzip : ws.zip (cells.take ws.length) = ws.zip cells := by
    rw [List.zip_eq_zip_take_min, List.length_take, List.take_take, ← Nat.min_assoc, Nat.min_self,
      Nat.min_right_comm, Nat.min_self]
    exact List.zip_eq_zip_take_min.symm
  rw [alignCells, hzip, alignCells]

theorem foldl_widen_map_take (rows : List (List String)) (ws : List Nat) :
    (rows.map (List.take ws.length)).foldl widen ws = rows.foldl widen ws := by
  induction rows generalizing ws with
  | nil => rfl
  | cons cells rows ih =>
      have hrows := ih (widen ws cells)
      rw [length_widen] at hrows
      rw [List.map_cons, List.foldl_cons, widen_take, hrows, List.foldl_cons]

/-- Cells beyond the last header have no effect on a table. -/
theorem renderText_map_take
    (color : Bool) (title : String) (headers : List String) (rows : List (List String)) :
    renderText color title headers (rows.map (List.take headers.length)) =
      renderText color title headers rows := by
  have hwidths : widths headers (rows.map (List.take headers.length)) = widths headers rows := by
    have hfold := foldl_widen_map_take rows (headers.map String.length)
    rwa [List.length_map] at hfold
  have hline : ∀ cells, lineOf (widths headers rows) (cells.take headers.length) =
      lineOf (widths headers rows) cells := by
    intro cells
    rw [lineOf, ← length_widths headers rows, alignCells_take, lineOf]
  simp only [renderText, hwidths, List.map_map, Function.comp_def, hline]

/-! ## Main result -/

/-- A table is printed as its title, a line with the headers, a line with as many dashes as that line
has characters, and one line for each row.  There are widths, each the greatest number of characters
of a header or cell in its column, such that the headers and the cells of each row stand in columns
of these widths, up to the blanks at the end of a line; and the cells beyond the last header change
neither a width nor a line. -/
theorem renderText_aligned
    (title : String) (headers : List String) (rows : List (List String)) :
    ∃ (w : Nat → Nat) (header : List Char) (data : List (List Char)),
      renderText false title headers rows =
          String.ofList
            ((title.toList :: header :: List.replicate header.length '-' :: data).flatMap
              fun line => line ++ ['\n']) ∧
        (∀ i < headers.length, IsGreatest (columnLengths (headers :: rows) i) (w i)) ∧
        Shows w headers header ∧
        List.Forall₂ (fun cells line => Shows w (cells.take headers.length) line) rows data ∧
        ∀ color, renderText color title headers (rows.map (List.take headers.length)) =
          renderText color title headers rows := by
  let ws := widths headers rows
  refine ⟨widthAt ws, lineOf ws headers, rows.map (lineOf ws), rfl, ?_, ?_, ?_, ?_⟩
  · intro i hi
    rw [← length_widths headers rows] at hi
    apply areWidths_widths headers rows i
    rw [widthAt, List.getElem?_eq_getElem hi]
    rfl
  · have hheader : Shows (widthAt ws) (headers.take headers.length) (lineOf ws headers) :=
      shows_lineOf List.mem_cons_self
    rwa [List.take_length] at hheader
  · rw [List.forall₂_map_right_iff, List.forall₂_same]
    intro cells hcells
    exact shows_lineOf (List.mem_cons_of_mem headers hcells)
  · intro color
    exact renderText_map_take color title headers rows

example :
    renderText false "T" ["a", "größe"] [["ccc"], ["d", "é", "beyond"], []] =
      "T\na    größe\n----------\nccc\nd    é\n\n" := by decide

end Table
end ProgramFacts
