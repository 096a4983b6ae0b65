import ProgramFacts.Cell
import ProgramFacts.Proofs.JoinedText

/-!
# Reading fact files back

Between tabs and line feeds a fact file holds its cells, with backslashes before the characters that
would be taken for something else.  Whoever splits the lines at the tabs and undoes the escapes has
the rows again that were written, whatever their cells hold.
-/

namespace ProgramFacts
namespace Cell

/-! ## Reading -/

/-- The character that a letter after a backslash stands for. -/
def escaped? : Char → Option Char
  | '\\' => some '\\'
  | 't' => some '\t'
  | 'n' => some '\n'
  | 'r' => some '\r'
  | _ => none

/-- The characters that a written cell stands for. -/
def unescape? : List Char → Option (List Char)
  | [] => some []
  | ['\\'] => none
  | '\\' :: letter :: rest => (escaped? letter).bind fun c => (unescape? rest).map (c :: ·)
  | c :: rest => (unescape? rest).map (c :: ·)

/-- The cells of a line whose cells are separated by tabs. -/
def readRow? (line : List Char) : Option (List String) :=
  (line.splitOn '\t').mapM fun cell => (unescape? cell).map String.ofList

/-- The lines of a text in which every line ends with a line feed. -/
def readLines? (cs : List Char) : Option (List (List Char)) :=
  let lines := cs.splitOn '\n'
  if lines.getLast? = some [] then some lines.dropLast else none

/-- The rows of a fact file whose cells are separated by tabs. -/
def readRows? (text : String) : Option (List (List String)) :=
  (readLines? text.toList).bind fun lines => lines.mapM readRow?

/-! ## Cells -/

theorem unescape?_cons {c : Char} (h : c ≠ '\\') (rest : List Char) :
    unescape? (c :: rest) = (unescape? rest).map (c :: ·) := by
  rw [unescape?.eq_4]
  · rintro rfl
    exact absurd rfl h
  · rintro letter rest rfl
    exact absurd rfl h

theorem unescape?_escapeChars (cs : List Char) :
    unescape? (escapeChars '\t' cs) = some cs := by
  induction cs with
  | nil => rfl
  | cons c cs ih =>
      rw [escapeChars, List.flatMap_cons, ← escapeChars, escapeChar]
      by_cases hbackslash : c = '\\'
      · subst hbackslash
        simp [unescape?, escaped?, ih]
      by_cases htab : c = '\t'
      · subst htab
        simp [unescape?, escaped?, ih]
      by_cases hfeed : c = '\n'
      · subst hfeed
        simp [unescape?, escaped?, ih]
      by_cases hreturn : c = '\r'
      · subst hreturn
        simp [unescape?, escaped?, ih]
      rw [if_neg hbackslash, if_neg htab, if_neg hfeed, if_neg hreturn, if_neg htab,
        List.singleton_append, unescape?_cons hbackslash, ih, Option.map_some]

/-- Whatever the separator, a written cell holds no tab and no line feed. -/
theorem ne_of_mem_escapeChars
    {separator c : Char} {cs : List Char} (h : c ∈ escapeChars separator cs) :
    c ≠ '\t' ∧ c ≠ '\n' := by
  obtain ⟨d, -, hd⟩ := List.mem_flatMap.mp h
  -- the separator is escaped with itself, but tabs and line feeds are spelled out before
  have hall : ∀ c ∈ escapeChar separator d, c ≠ '\t' ∧ c ≠ '\n' := by
    unfold escapeChar
    split_ifs with hbackslash htab hfeed hreturn hseparator
    · simp
    · simp
    · simp
    · simp
    · simp [htab, hfeed]
    · simp [htab, hfeed]
  exact hall c hd

/-! ## Lines -/

theorem joinChars_eq_intercalate (separator : Char) (cells : List (List Char)) :
    joinChars separator cells = [separator].intercalate cells := by
  fun_induction joinChars separator cells with
  | case1 => rfl
  | case2 cell => simp
  | case3 cell rest hrest ih =>
      obtain ⟨next, rest, rfl⟩ := List.exists_cons_of_ne_nil hrest
      rw [ih, List.intercalate_cons_cons]
      simp

/-- A line holds no line feed, unless this separates its cells. -/
theorem lineFeed_not_mem_lineChars
    {separator : Char} (h : separator ≠ '\n') (row : List String) :
    '\n' ∉ lineChars separator row := by
  intro hmem
  rw [lineChars, joinChars_eq_intercalate] at hmem
  rcases Text.mem_intercalate hmem with hseparator | ⟨cell, hcell, hc⟩
  · exact h hseparator.symm
  · obtain ⟨text, -, rfl⟩ := List.mem_map.mp hcell
    exact (ne_of_mem_escapeChars hc).2 rfl

theorem readRow?_lineChars {row : List String} (h : row ≠ []) :
    readRow? (lineChars '\t' row) = some row := by
  have hcells : (lineChars '\t' row).splitOn '\t' =
      row.map fun cell => escapeChars '\t' cell.toList := by
    rw [lineChars, joinChars_eq_intercalate]
    apply List.splitOn_intercalate
    · intro cell hcell htab
      obtain ⟨text, -, rfl⟩ := List.mem_map.mp hcell
      exact (ne_of_mem_escapeChars htab).1 rfl
    · simpa using h
  rw [readRow?, hcells]
  apply Text.mapM_map_eq_some
  intro cell _
  rw [unescape?_escapeChars, Option.map_some, String.ofList_toList]

theorem splitOn_linesChars {separator : Char} (h : separator ≠ '\n') (rows : List (List String)) :
    (linesChars separator rows).splitOn '\n' = rows.map (lineChars separator) ++ [[]] := by
  induction rows with
  | nil => rfl
  | cons row rows ih =>
      rw [linesChars, List.flatMap_cons, ← linesChars, List.append_assoc, List.singleton_append,
        List.splitOn_append_cons_self_of_not_mem (lineFeed_not_mem_lineChars h row), ih,
        List.map_cons, List.cons_append]

theorem readLines?_linesChars
    {separator : Char} (h : separator ≠ '\n') (rows : List (List String)) :
    readLines? (linesChars separator rows) = some (rows.map (lineChars separator)) := by
  rw [readLines?, splitOn_linesChars h]
  simp

/-- The rows of a file whose cells are separated by tabs are read back. -/
theorem readRows?_lines {rows : List (List String)} (h : ∀ row ∈ rows, row ≠ []) :
    readRows? (lines '\t' rows) = some rows := by
  rw [readRows?, lines, String.toList_ofList, readLines?_linesChars (by decide), Option.bind_some]
  exact Text.mapM_map_eq_some fun row hrow => readRow?_lineChars (h row hrow)

end Cell
end ProgramFacts
