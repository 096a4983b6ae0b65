import ProgramFacts.Proofs.FactFiles
import ProgramFacts.Proofs.FactLines
import ProgramFacts.Settings.Check

/-!
# Rows on lines

Whatever character separates the cells of a line, the line falls apart into the written cells at the
separators that no backslash stands before.  The cells themselves are told from their written form
unless the separator is `t`, `n` or `r`: such a letter, escaped as a separator, is written like the
tab or line break that it stands for after a backslash.
-/

namespace ProgramFacts

/-- Settings that pass the check separate cells by a character that is no line break and no
backslash. -/
theorem Settings.separator_of_check
    {settings : Settings} {processors : Nat} {warnings : List SettingsWarning}
    (h : settings.check processors = .ok warnings) :
    settings.output.separator ≠ '\n' ∧ settings.output.separator ≠ '\\' := by
  have hcorrupts : corrupts settings.output.separator = false := by
    by_contra hcorrupts
    rw [Bool.not_eq_false] at hcorrupts
    simp only [check, hcorrupts, if_true] at h
    split_ifs at h
  simp only [corrupts, Bool.or_eq_false_iff, decide_eq_false_iff_not] at hcorrupts
  exact ⟨hcorrupts.1.1, hcorrupts.2⟩

namespace Cell

/-! ## Reading lines with any separator -/

/-- The parts of a line between the separators that are not escaped. -/
def pieces (separator : Char) : List Char → List (List Char)
  | [] => [[]]
  | '\\' :: letter :: rest => (pieces separator rest).modifyHead ('\\' :: letter :: ·)
  | c :: rest =>
    if c = separator then [] :: pieces separator rest
    else (pieces separator rest).modifyHead (c :: ·)

/-- The characters that a written cell stands for; after a backslash, a letter that stands for
nothing else stands for itself. -/
def unescaped : List Char → List Char
  | [] => []
  | '\\' :: letter :: rest => (escaped? letter).getD letter :: unescaped rest
  | c :: rest => c :: unescaped rest

/-- The row of a line. -/
def rowOf (separator : Char) (line : List Char) : List String :=
  (pieces separator line).map fun piece => String.ofList (unescaped piece)

/-! ## Pieces -/

/-- A written character is a pair that begins with a backslash, or the character itself. -/
theorem escapeChar_cases (separator c : Char) :
    (∃ letter, escapeChar separator c = ['\\', letter]) ∨
      escapeChar separator c = [c] ∧ c ≠ '\\' ∧ c ≠ separator := by
  unfold escapeChar
  split_ifs with hbackslash htab hfeed hreturn hseparator
  · exact Or.inl ⟨_, rfl⟩
  · exact Or.inl ⟨_, rfl⟩
  · exact Or.inl ⟨_, rfl⟩
  · exact Or.inl ⟨_, rfl⟩
  · exact Or.inl ⟨_, rfl⟩
  · exact Or.inr ⟨rfl, hbackslash, hseparator⟩

theorem pieces_cons {separator c : Char} (h : c ≠ '\\') (rest : List Char) :
    pieces separator (c :: rest) =
      if c = separator then [] :: pieces separator rest
      else (pieces separator rest).modifyHead (c :: ·) := by
  rw [pieces.eq_3]
  rintro letter rest rfl
  exact absurd rfl h

theorem pieces_escapeChar_append (separator c : Char) (rest : List Char) :
    pieces separator (escapeChar separator c ++ rest) =
      (pieces separator rest).modifyHead (escapeChar separator c ++ ·) := by
  rcases escapeChar_cases separator c with ⟨letter, hpair⟩ | ⟨hself, hbackslash, hseparator⟩
  · rw [hpair]
    rfl
  · rw [hself, List.singleton_append, pieces_cons hbackslash, if_neg hseparator]
    rfl

theorem pieces_escapeChars_append (separator : Char) (cs rest : List Char) :
    pieces separator (escapeChars separator cs ++ rest) =
      (pieces separator rest).modifyHead (escapeChars separator cs ++ ·) := by
  induction cs with
  | nil =>
      have hid : (escapeChars separator [] ++ ·) = id := rfl
      rw [hid, List.modifyHead_id]
      rfl
  | cons c cs ih =>
      have hcons : escapeChars separator (c :: cs) =
          escapeChar separator c ++ escapeChars separator cs := List.flatMap_cons
      rw [hcons, List.append_assoc, pieces_escapeChar_append, ih, List.modifyHead_modifyHead]
      simp only [Function.comp_def, List.append_assoc]

/-- Between the separators that are not escaped stand the written cells. -/
theorem pieces_lineChars
    {separator : Char} (h : separator ≠ '\\') {row : List String} (hrow : row ≠ []) :
    pieces separator (lineChars separator row) =
      row.map fun cell => escapeChars separator cell.toList := by
  induction row with
  | nil => exact absurd rfl hrow
  | cons cell row ih =>
      cases row with
      | nil =>
          have hcell := pieces_escapeChars_append separator cell.toList []
          simpa [lineChars, joinChars, pieces] using hcell
      | cons next row =>
          have hline : lineChars separator (cell :: next :: row) =
              escapeChars separator cell.toList ++
                separator :: lineChars separator (next :: row) := rfl
          rw [hline, pieces_escapeChars_append, pieces_cons h, if_pos rfl,
            ih (List.cons_ne_nil next row), List.modifyHead_cons, List.append_nil]
          rfl

/-! ## Cells -/

theorem unescaped_cons {c : Char} (h : c ≠ '\\') (rest : List Char) :
    unescaped (c :: rest) = c :: unescaped rest := by
  rw [unescaped.eq_3]
  rintro letter rest rfl
  exact absurd rfl h

theorem unescaped_escapeChar_append
    {separator : Char} (h : separator ∉ ['t', 'n', 'r']) (c : Char) (rest : List Char) :
    unescaped (escapeChar separator c ++ rest) = c :: unescaped rest := by
  unfold escapeChar
  split_ifs with hbackslash htab hfeed hreturn hseparator
  · rw [hbackslash]
    rfl
  · rw [htab]
    rfl
  · rw [hfeed]
    rfl
  · rw [hreturn]
    rfl
  · -- the separator is the only letter that is escaped with itself
    have hnone : escaped? c = none := by
      subst hseparator
      unfold escaped?
      split
      · exact absurd rfl hbackslash
      · simp at h
      · simp at h
      · simp at h
      · rfl
    rw [List.cons_append, List.singleton_append, unescaped, hnone, Option.getD_none]
  · rw [List.singleton_append, unescaped_cons hbackslash]

theorem unescaped_escapeChars
    {separator : Char} (h : separator ∉ ['t', 'n', 'r']) (cs : List Char) :
    unescaped (escapeChars separator cs) = cs := by
  induction cs with
  | nil => rfl
  | cons c cs ih =>
      rw [escapeChars, List.flatMap_cons, unescaped_escapeChar_append h, ← escapeChars, ih]

/-- A row is read back from its line. -/
theorem rowOf_lineChars
    {separator : Char} (hbackslash : separator ≠ '\\') (hletter : separator ∉ ['t', 'n', 'r'])
    {row : List String} (hrow : row ≠ []) :
    rowOf separator (lineChars separator row) = row := by
  rw [rowOf, pieces_lineChars hbackslash hrow, List.map_map]
  have hcell : ∀ cell : String,
      String.ofList (unescaped (escapeChars separator cell.toList)) = cell := by
    intro cell
    rw [unescaped_escapeChars hletter, String.ofList_toList]
  simp [Function.comp_def, hcell]

/-- A separator that is one of the three letters is escaped like the blank that the letter stands
for. -/
theorem exists_escapeChar_eq
    {separator : Char} (h : separator ∈ ['t', 'n', 'r']) :
    ∃ blank, blank ≠ separator ∧ escapeChar separator blank = escapeChar separator separator := by
  simp only [List.mem_cons, List.not_mem_nil, or_false] at h
  rcases h with rfl | rfl | rfl
  · exact ⟨'\t', by decide, rfl⟩
  · exact ⟨'\n', by decide, rfl⟩
  · exact ⟨'\r', by decide, rfl⟩

theorem lineChars_cons_eq_of_escapeChar_eq
    {separator c c' : Char} (h : escapeChar separator c = escapeChar separator c')
    (row : List String) :
    lineChars separator (String.singleton c :: row) =
      lineChars separator (String.singleton c' :: row) := by
  have hcell : escapeChars separator (String.singleton c).toList =
      escapeChars separator (String.singleton c').toList := by
    simp [escapeChars, h]
  rw [lineChars, lineChars, List.map_cons, List.map_cons, hcell]

end Cell

/-! ## Facts on lines -/

namespace Fact

/-- A fact of any relation with a given first cell. -/
def withFirst (r : Relation) (cell : String) : Fact :=
  ⟨r, cell :: List.replicate (r.arity - 1) "", by
    have hpos := r.arity_pos
    rw [List.length_cons, List.length_replicate]
    omega⟩

theorem row_ne_nil (f : Fact) : f.row ≠ [] :=
  List.ne_nil_of_length_pos (f.length_row ▸ f.relation.arity_pos)

end Fact

/-- Each file holds one line for each row of its relation, whatever the checked settings are.  Two
different rows of a relation are always on different lines exactly if the separator is none of the
letters that stand for a tab or a line break after a backslash, and the check lets these pass. -/
theorem lines_differ_iff_of_check
    {settings : Settings} {processors : Nat} {warnings : List SettingsWarning}
    (h : settings.check processors = .ok warnings) :
    let separator := settings.output.separator
    (∀ directory store r,
      Cell.readLines? (FactFiles.content ⟨directory, separator⟩ store r).toList =
        some ((store.facts r).map (Cell.lineChars separator))) ∧
    ∀ r : Relation,
      (∀ f g : Fact, f.relation = r → g.relation = r → f.row ≠ g.row →
        Cell.lineChars separator f.row ≠ Cell.lineChars separator g.row) ↔
      separator ∉ ['t', 'n', 'r'] := by
  intro separator
  obtain ⟨hfeed, hbackslash⟩ := Settings.separator_of_check h
  constructor
  · intro directory store r
    rw [FactFiles.content, Cell.lines, String.toList_ofList]
    exact Cell.readLines?_linesChars hfeed (store.facts r)
  · intro r
    constructor
    · intro hdiffer hletter
      obtain ⟨blank, hne, hescape⟩ := Cell.exists_escapeChar_eq hletter
      have hrows : (Fact.withFirst r (String.singleton blank)).row ≠
          (Fact.withFirst r (String.singleton separator)).row := by
        intro hrow
        have hcell := (List.cons.inj hrow).1
        exact hne (String.singleton_inj.mp hcell)
      exact hdiffer _ _ rfl rfl hrows (Cell.lineChars_cons_eq_of_escapeChar_eq hescape _)
    · intro hletter f g _ _ hrows hline
      have hread := congrArg (Cell.rowOf separator) hline
      rw [Cell.rowOf_lineChars hbackslash hletter f.row_ne_nil,
        Cell.rowOf_lineChars hbackslash hletter g.row_ne_nil] at hread
      exact hrows hread

/-- Standard settings but for the separator. -/
def Settings.separatedBy (separator : Char) : Settings :=
  { Settings.standard with output := ⟨separator⟩ }

/-- With a semicolon between cells, no two rows of classes share a line. -/
theorem lines_differ_semicolon :
    (Settings.separatedBy ';').check 8 = .ok [] ∧
    ∀ f g : Fact, f.relation = .classType → g.relation = .classType → f.row ≠ g.row →
      Cell.lineChars ';' f.row ≠ Cell.lineChars ';' g.row := by
  have hcheck : (Settings.separatedBy ';').check 8 = .ok [] := by decide
  obtain ⟨-, hdiffer⟩ := lines_differ_iff_of_check hcheck
  exact ⟨hcheck, (hdiffer .classType).mpr (by decide)⟩

/-- With `t` between cells, a class that is named `t` and one whose name is a tab share a line, and
it stands in the file twice. -/
theorem lines_equal_letter :
    let tab : Fact := .of .classType ["\t"]
    let letter : Fact := .of .classType ["t"]
    let store := (FactStore.empty false).addAll [tab, letter]
    (Settings.separatedBy 't').check 8 = .ok [] ∧
      tab.relation = letter.relation ∧ tab.row ≠ letter.row ∧
      Cell.lineChars 't' tab.row = Cell.lineChars 't' letter.row ∧
      store.facts .classType = [["\t"], ["t"]] ∧
      FactFiles.content ⟨"out", 't'⟩ store .classType = "\\t\n\\t\n" := by
  intro tab letter store
  have hcheck : (Settings.separatedBy 't').check 8 = .ok [] := by decide
  have hfacts : store.facts .classType = [["\t"], ["t"]] := by
    have hrows : store.rowsOf .classType = [["\t"], ["t"]] := by decide
    rw [FactStore.facts, hrows, sortRows, List.mergeSort_of_pairwise (by decide)]
    rfl
  have hcontent : FactFiles.content ⟨"out", 't'⟩ store .classType = "\\t\n\\t\n" := by
    rw [FactFiles.content, hfacts]
    decide
  exact ⟨hcheck, rfl, by decide, by decide, hfacts, hcontent⟩

end ProgramFacts
