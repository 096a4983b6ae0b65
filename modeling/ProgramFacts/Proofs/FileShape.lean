import Mathlib.Data.List.Dedup
import ProgramFacts.Proofs.RowLines

/-!
# The shape of fact files

Whatever rows a store was offered, and whatever checked character separates cells, each file that is
written has one line for each distinct row of its relation.  Between the separators that no
backslash escapes, a line has one piece for each column, and the pieces are the cells in their
written form.
-/

namespace ProgramFacts

/-! ## Distinct rows -/

/-- The distinct rows of a relation among the offers that fit. -/
def Offer.distinctRows (offers : List Offer) (r : Relation) : List (List String) :=
  ((offers.filter fun o => o.fits && o.relation = r).map Offer.row).dedup

theorem Offer.mem_distinctRows_iff {offers : List Offer} {r : Relation} {row : List String} :
    row ∈ distinctRows offers r ↔ ⟨r, row⟩ ∈ offers.filter Offer.fits := by
  simp only [distinctRows, List.mem_dedup, List.mem_map, List.mem_filter, Bool.and_eq_true,
    decide_eq_true_eq]
  constructor
  · rintro ⟨o, ⟨ho, hfits, rfl⟩, rfl⟩
    exact ⟨ho, hfits⟩
  · rintro ⟨ho, hfits⟩
    exact ⟨⟨r, row⟩, ⟨ho, hfits, rfl⟩, rfl⟩

theorem Offer.nodup_distinctRows (offers : List Offer) (r : Relation) :
    (distinctRows offers r).Nodup :=
  List.nodup_dedup _

namespace FactStore

/-- A store shows each of the rows that it was offered once. -/
theorem facts_offerAll_perm (journaled : Bool) (offers : List Offer) (r : Relation) :
    (((empty journaled).offerAll offers).facts r).Perm (Offer.distinctRows offers r) := by
  have haccepted : ((empty journaled).offerAll offers).accepted.toList.map Fact.toOffer =
      offers.filter Offer.fits := accepted_offerAll (empty journaled) offers
  rw [List.perm_ext_iff_of_nodup (nodup_facts _ _) (Offer.nodup_distinctRows offers r)]
  intro row
  rw [mem_facts_iff, hasRow_iff_mem_map, haccepted, Offer.mem_distinctRows_iff]

end FactStore

/-! ## Lines -/

/-- Between the separators that are not escaped, a line of a relation has one written cell for each
column. -/
theorem Cell.pieces_of_mem_facts
    {separator : Char} (h : separator ≠ '\\') {s : FactStore} {r : Relation} {row : List String}
    (hrow : row ∈ s.facts r) :
    pieces separator (lineChars separator row) =
        (row.map fun cell => (escape separator cell).toList) ∧
      (pieces separator (lineChars separator row)).length = r.arity := by
  have hlength : row.length = r.arity := FactStore.length_of_mem_facts hrow
  have hne : row ≠ [] := List.ne_nil_of_length_pos (hlength ▸ r.arity_pos)
  have hpieces := pieces_lineChars h hne
  refine ⟨?_, ?_⟩
  · simpa only [escape, String.toList_ofList] using hpieces
  · rw [hpieces, List.length_map, hlength]

/-- Settings that pass the check give files of the same shape for every store.  The files of the
schema are written in order, up to the first that is refused.  Each that is not swallowed by a
device has as many lines as its relation has distinct rows; and each line, cut at the separators
that are not escaped, has one piece for each column: the cells of its row in their written form. -/
theorem shape_of_flushed_files
    {settings : Settings} {processors : Nat} {warnings : List SettingsWarning}
    (h : settings.check processors = .ok warnings) (directory : String) (journaled : Bool)
    (offers : List Offer) (t : FileTree) :
    let separator := settings.output.separator
    let f : FactFiles := ⟨directory, separator⟩
    let s := (FactStore.empty journaled).offerAll offers
    let flushed := f.flush s t
    ∃ sent refused, Relation.all = sent ++ refused ∧
      ((∃ summary, flushed.2 = .ok summary) ↔ refused = []) ∧
      (∀ r ∈ refused.head?, ∃ e, flushed.1.write (f.path r) (f.content s r) = .error e) ∧
      ∀ r ∈ sent, flushed.1.at? (f.path r) = some .device ∨
        ∃ text lines, flushed.1.at? (f.path r) = some (.file (some text)) ∧
          Cell.readLines? text.toList = some lines ∧
          lines.length = (Offer.distinctRows offers r).length ∧
          (lines.map (Cell.pieces separator) =
            (s.facts r).map fun row => row.map fun cell => (Cell.escape separator cell).toList) ∧
          ∀ line ∈ lines, (Cell.pieces separator line).length = r.arity := by
  intro separator f s flushed
  obtain ⟨hfeed, hbackslash⟩ := Settings.separator_of_check h
  obtain ⟨sent, refused, hall, hresult, hrefused, hsent⟩ :=
    FactFiles.exists_sent_writeRelations f s t Relation.nodup_all
  refine ⟨sent, refused, hall, ?_, hrefused, ?_⟩
  · rw [← hresult]
    have hflushed : flushed.2 =
        (f.writeRelations s t Relation.all).2.map fun _ => ⟨Relation.all.length, s.size⟩ := rfl
    rw [hflushed]
    cases (f.writeRelations s t Relation.all).2 <;> simp [Except.map]
  · intro r hr
    obtain ⟨d, hlocate, hnode⟩ := hsent.node r hr
    have hat : flushed.1.at? (f.path r) = flushed.1.node? (d ++ [r.fileName]) := by
      rw [FileTree.at?, show flushed.1.locate (f.path r) = _ from hlocate]
    rcases hnode with hfile | ⟨-, hdevice⟩
    · refine Or.inr ⟨f.content s r, (s.facts r).map (Cell.lineChars separator),
        hat.trans hfile, ?_, ?_, ?_, ?_⟩
      · rw [FactFiles.content, Cell.lines, String.toList_ofList]
        exact Cell.readLines?_linesChars hfeed (s.facts r)
      · rw [List.length_map]
        exact (FactStore.facts_offerAll_perm journaled offers r).length_eq
      · rw [List.map_map]
        apply List.map_congr_left
        intro row hrow
        exact (Cell.pieces_of_mem_facts hbackslash hrow).1
      · intro line hline
        obtain ⟨row, hrow, rfl⟩ := List.mem_map.mp hline
        exact (Cell.pieces_of_mem_facts hbackslash hrow).2
    · exact Or.inl (hat.trans hdevice)

/-- Two rows, one of them twice, with tabs and backslashes in them, and a row that lacks a cell. -/
def letterOffers : List Offer :=
  [⟨.stringRaw, ["t\t[]", "t\\"]⟩, ⟨.stringRaw, ["int[]"]⟩, ⟨.stringRaw, ["int[]", "int"]⟩,
    ⟨.stringRaw, ["t\t[]", "t\\"]⟩]

/-- A directory that stands in the way of the second file. -/
def blockedTree : FileTree :=
  ⟨[(["StringConstant.facts"], .directory)], []⟩

/-- With `t` between cells, the first file is written before the second is refused; it has two
lines, and each falls apart into two cells. -/
theorem shape_of_flushed_files_letterSeparator :
    let flushed := FactFiles.flush ⟨"", 't'⟩ ((FactStore.empty false).offerAll letterOffers)
      blockedTree
    (Settings.separatedBy 't').check 8 = .ok [] ∧ flushed.2.toBool = false ∧
      ∃ text lines, flushed.1.at? "StringRaw.facts" = some (.file (some text)) ∧
        Cell.readLines? text.toList = some lines ∧ lines.length = 2 ∧
        ∀ line ∈ lines, (Cell.pieces 't' line).length = 2 := by
  intro flushed
  have hcheck : (Settings.separatedBy 't').check 8 = .ok [] := by decide
  have hfails : flushed.2.toBool = false := by decide +kernel
  have hdevice : flushed.1.at? "StringRaw.facts" ≠ some .device := by decide +kernel
  have hrows : (Offer.distinctRows letterOffers .stringRaw).length = 2 := by decide
  have hwrites : ∀ text, flushed.1.write "StringRaw.facts" text =
      .ok (flushed.1.put ["StringRaw.facts"] (.file (some text))) := by
    intro text
    rfl
  obtain ⟨sent, refused, hall, -, hrefused, hsent⟩ :=
    shape_of_flushed_files hcheck "" false letterOffers blockedTree
  have hfirst : Relation.stringRaw ∈ sent := by
    cases sent with
    | nil =>
        rw [List.nil_append] at hall
        obtain ⟨e, he⟩ := hrefused .stringRaw (hall ▸ rfl)
        cases (hwrites _).symm.trans he
    | cons r sent =>
        rw [← (List.cons.inj hall).1]
        exact List.mem_cons_self
  obtain hswallowed | ⟨text, lines, hfile, hlines, hlength, -, hpieces⟩ := hsent .stringRaw hfirst
  · exact absurd hswallowed hdevice
  · exact ⟨hcheck, hfails, text, lines, hfile, hlines, hlength.trans hrows, hpieces⟩

end ProgramFacts
