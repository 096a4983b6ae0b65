import Mathlib.Data.List.Nodup
import ProgramFacts.Pipeline
import ProgramFacts.Proofs.FactLines
import ProgramFacts.Proofs.FileTree
import ProgramFacts.Proofs.StoreQueries

/-!
# The files of a program's facts

Every relation has a file of its own, whose name no other relation shares.  Once the facts of a
program are written, each file reads back as the rows of its relation, whatever it held before.  A
program that cannot be encoded leaves all files as they are.
-/

namespace ProgramFacts

/-! ## Names of files -/

namespace Relation

theorem isPlain_fileName (r : Relation) : Path.IsPlain r.fileName := by
  have hall : ∀ r ∈ all, '/' ∉ r.fileName.toList ∧
      r.fileName ≠ "" ∧ r.fileName ≠ "." ∧ r.fileName ≠ ".." := by
    decide +kernel
  obtain ⟨hslash, hempty, hdot, hdots⟩ := hall r (mem_all r)
  exact ⟨hslash, hempty, hdot, hdots⟩

theorem nodup_all : all.Nodup := by
  decide

theorem fileName_injective : Function.Injective fileName := by
  have hnodup : (all.map fileName).Nodup := by
    decide +kernel
  intro r r' h
  exact List.inj_on_of_nodup_map hnodup (mem_all r) (mem_all r') h

theorem arity_pos (r : Relation) : 0 < r.arity := by
  cases r <;> decide

end Relation

/-! ## Writing the files of relations -/

namespace FileTree

/-- Whether no location with the name of a fact file holds a device. -/
def HasPlainFacts (t : FileTree) : Prop :=
  ∀ d (r : Relation), t.node? (d ++ [r.fileName]) ≠ some .device

theorem hasPlainFacts_of_nodes
    {t : FileTree}
    (h : ∀ entry ∈ t.nodes, entry.2 = .device → ∀ r ∈ Relation.all, entry.1.getLast? ≠ r.fileName) :
    t.HasPlainFacts := by
  intro d r hdevice
  unfold node? at hdevice
  split_ifs at hdevice with hroot
  · cases hdevice
  obtain ⟨before, after, hnodes, -⟩ := List.lookup_eq_some_iff.mp hdevice
  have hmem : (d ++ [r.fileName], FileNode.device) ∈ t.nodes := by simp [hnodes]
  exact h _ hmem rfl r (Relation.mem_all r) List.getLast?_concat

theorem HasPlainFacts.of_addsDirectories
    {later t : FileTree} (h : t.HasPlainFacts) (hadds : later.AddsDirectories t) :
    later.HasPlainFacts := by
  intro d r hdevice
  exact h d r ((hadds.node?_eq_some_iff (by simp)).mp hdevice)

end FileTree

namespace FactFiles

variable {f : FactFiles} {s : FactStore} {t later : FileTree}

/-- A file that is written stands at a location with its name, unless a device swallows it. -/
theorem exists_of_write
    {r : Relation} {text : String} (h : t.write (f.path r) text = .ok later) :
    ∃ d, t.locate (f.path r) = .ok (d ++ [r.fileName]) ∧
      (t.node? (d ++ [r.fileName]) = some .device ∧ later = t ∨
        t.node? (d ++ [r.fileName]) ≠ some .directory ∧
          later = t.put (d ++ [r.fileName]) (.file (some text))) := by
  obtain ⟨l, hlocate, hwrite⟩ := FileTree.write_cases h
  obtain ⟨d, rfl⟩ := FileTree.exists_of_locate_join r.isPlain_fileName hlocate
  exact ⟨d, hlocate, hwrite⟩

/-- What holds once the files of some relations were written or went to devices. -/
structure Sent (f : FactFiles) (s : FactStore) (t later : FileTree) (rs : List Relation) :
    Prop where
  keeps : later.KeepsDirectories t
  /-- Locations with other names stay as they are. -/
  frame : ∀ d name, (∀ r ∈ rs, r.fileName ≠ name) →
    later.node? (d ++ [name]) = t.node? (d ++ [name])
  node : ∀ r ∈ rs, ∃ d, later.locate (f.path r) = .ok (d ++ [r.fileName]) ∧
    (later.node? (d ++ [r.fileName]) = some (.file (some (f.content s r))) ∨
      t.node? (d ++ [r.fileName]) = some .device ∧
        later.node? (d ++ [r.fileName]) = some .device)

/-- A file that was written first, and stays because the others have other names. -/
theorem Sent.cons
    {next : FileTree} {r : Relation} {rs : List Relation} (h : Sent f s next later rs)
    (hr : r ∉ rs) (hwrite : t.write (f.path r) (f.content s r) = .ok next) :
    Sent f s t later (r :: rs) := by
  obtain ⟨d, hlocate, hnext⟩ := exists_of_write hwrite
  have hkeeps : next.KeepsDirectories t := by
    rcases hnext with ⟨-, rfl⟩ | ⟨hdirectory, rfl⟩
    · exact .refl _
    · exact FileTree.keepsDirectories_put hdirectory _
  have hframe : ∀ place name, r.fileName ≠ name →
      next.node? (place ++ [name]) = t.node? (place ++ [name]) := by
    intro place name hname
    rcases hnext with ⟨-, rfl⟩ | ⟨hdirectory, rfl⟩
    · rfl
    · apply FileTree.node?_put_of_ne
      intro heq
      have hlast := (List.append_inj' heq rfl).2
      exact hname (List.singleton_inj.mp hlast).symm
  have hother : ∀ r' ∈ rs, r'.fileName ≠ r.fileName := by
    intro r' hr' hname
    exact hr (Relation.fileName_injective hname ▸ hr')
  refine ⟨h.keeps.trans hkeeps, ?_, ?_⟩
  · intro place name hname
    rw [h.frame place name fun r' hr' => hname r' (List.mem_cons_of_mem r hr'),
      hframe place name (hname r List.mem_cons_self)]
  · intro r' hr'
    rcases List.mem_cons.mp hr' with rfl | hr'
    · refine ⟨d, FileTree.locate_of_keepsDirectories (h.keeps.trans hkeeps) hlocate, ?_⟩
      rw [h.frame d r'.fileName hother]
      rcases hnext with ⟨hdevice, rfl⟩ | ⟨hdirectory, rfl⟩
      · exact Or.inr ⟨hdevice, hdevice⟩
      · exact Or.inl (FileTree.node?_put_self hdirectory _)
    · obtain ⟨place, hplace, hnode⟩ := h.node r' hr'
      rw [hframe place r'.fileName (hother r' hr').symm] at hnode
      exact ⟨place, hplace, hnode⟩

/-- The files of relations are written in order, up to the first that is refused. -/
theorem exists_sent_writeRelations
    (f : FactFiles) (s : FactStore) (t : FileTree) {rs : List Relation} (hnodup : rs.Nodup) :
    ∃ sent refused, rs = sent ++ refused ∧
      ((f.writeRelations s t rs).2 = .ok () ↔ refused = []) ∧
      (∀ r ∈ refused.head?,
        ∃ e, (f.writeRelations s t rs).1.write (f.path r) (f.content s r) = .error e) ∧
      Sent f s t (f.writeRelations s t rs).1 sent := by
  induction rs generalizing t with
  | nil =>
      exact ⟨[], [], rfl, by simp [writeRelations], by simp, .refl _, fun _ _ _ => rfl, by simp⟩
  | cons r rs ih =>
      obtain ⟨hr, hrs⟩ := List.nodup_cons.mp hnodup
      rw [writeRelations]
      cases hwrite : t.write (f.path r) (f.content s r) with
      | error e =>
          exact ⟨[], r :: rs, rfl, by simp, by simpa using ⟨e, hwrite⟩, .refl _,
            fun _ _ _ => rfl, by simp⟩
      | ok next =>
          obtain ⟨sent, refused, rfl, hresult, hrefused, hsent⟩ := ih next hrs
          exact ⟨r :: sent, refused, rfl, hresult, hrefused,
            hsent.cons (fun hmem => hr (List.mem_append_left refused hmem)) hwrite⟩

/-- What holds once the files of some relations are written. -/
structure Written (f : FactFiles) (s : FactStore) (t later : FileTree) (rs : List Relation) :
    Prop where
  keeps : later.KeepsDirectories t
  /-- Locations with other names stay as they are. -/
  frame : ∀ d name, (∀ r ∈ rs, r.fileName ≠ name) →
    later.node? (d ++ [name]) = t.node? (d ++ [name])
  file : ∀ r ∈ rs, later.at? (f.path r) = some (.file (some (f.content s r)))

theorem written_writeRelations
    {rs : List Relation} (hnodup : rs.Nodup) (hplain : t.HasPlainFacts)
    (h : f.writeRelations s t rs = (later, .ok ())) : Written f s t later rs := by
  obtain ⟨sent, refused, rfl, hresult, -, hsent⟩ := exists_sent_writeRelations f s t hnodup
  rw [h] at hresult hsent
  obtain rfl : refused = [] := hresult.mp rfl
  rw [List.append_nil]
  refine ⟨hsent.keeps, hsent.frame, ?_⟩
  intro r hr
  obtain ⟨d, hlocate, hfile | ⟨hdevice, -⟩⟩ := hsent.node r hr
  · rw [FileTree.at?, hlocate]
    exact hfile
  · exact absurd hdevice (hplain d r)

theorem writeRelations_of_flush
    {summary : Summary} (h : f.flush s t = (later, .ok summary)) :
    f.writeRelations s t Relation.all = (later, .ok ()) ∧
      summary = ⟨Relation.all.length, s.size⟩ := by
  unfold flush at h
  cases hwrite : f.writeRelations s t Relation.all with
  | mk written result =>
      rw [hwrite] at h
      cases result with
      | error e => cases h
      | ok done =>
          cases h
          exact ⟨rfl, rfl⟩

end FactFiles

/-! ## Whole runs -/

section Runs

variable {settings : Settings} {p : Program} {directory : String} {t next : FileTree}

theorem addsDirectories_of_prepare
    {f : FactFiles} (h : f.prepare t = .ok next) : next.AddsDirectories t := by
  unfold FactFiles.prepare at h
  cases hcreate : t.createDirectories f.directory with
  | error e => simp [hcreate, Except.mapError] at h
  | ok created =>
      obtain rfl : created = next := by simpa [hcreate, Except.mapError] using h
      exact FileTree.addsDirectories_createDirectories hcreate

/-- A run that succeeds creates the directory, encodes the program, and then writes the files of
all relations. -/
theorem exists_of_writeFacts_eq_ok
    {statistics : Statistics} {summary : FactFiles.Summary}
    (h : (writeFacts settings p directory t).2 = .ok (statistics, summary)) :
    ∃ next store,
      next.AddsDirectories t ∧ encodeProgram settings p = .ok store ∧
      FactFiles.writeRelations ⟨directory, settings.output.separator⟩ store next Relation.all =
        ((writeFacts settings p directory t).1, .ok ()) ∧
      summary = ⟨Relation.all.length, store.size⟩ := by
  unfold writeFacts at h ⊢
  cases hprepare : FactFiles.prepare ⟨directory, settings.output.separator⟩ t with
  | error e => simp [hprepare] at h
  | ok next =>
      cases hresult : ((Encoder.fresh settings.encoder false).generate p).result with
      | error e => simp [hprepare, hresult] at h
      | ok encoded =>
          have hstore : encodeProgram settings p =
              .ok ((Encoder.fresh settings.encoder false).generate p).encoder.store := by
            simp [encodeProgram, hresult, Except.map]
          simp only [hprepare, hresult] at h ⊢
          cases hflush : FactFiles.flush ⟨directory, settings.output.separator⟩
              ((Encoder.fresh settings.encoder false).generate p).encoder.store next with
          | mk later result =>
              simp only [hflush] at h
              cases result with
              | error e => cases h
              | ok written =>
                  cases h
                  obtain ⟨hwrite, rfl⟩ := FactFiles.writeRelations_of_flush hflush
                  exact ⟨next, _, addsDirectories_of_prepare hprepare, hstore, hwrite, rfl⟩

/-- A run that cannot encode its program creates directories at most. -/
theorem addsDirectories_writeFacts
    (directory : String) (t : FileTree) {e : EncodeError}
    (h : encodeProgram settings p = .error e) :
    (∃ error, (writeFacts settings p directory t).2 = .error error) ∧
      (writeFacts settings p directory t).1.AddsDirectories t := by
  cases hprepare : FactFiles.prepare ⟨directory, settings.output.separator⟩ t with
  | error e => simp [writeFacts, hprepare, FileTree.AddsDirectories.refl]
  | ok next =>
      cases hresult : ((Encoder.fresh settings.encoder false).generate p).result with
      | error e => simp [writeFacts, hprepare, hresult, addsDirectories_of_prepare hprepare]
      | ok statistics => simp [encodeProgram, hresult, Except.map] at h

end Runs

/-- Whether the files of a directory read back as the facts of a store, row by row in ascending
order. -/
def FactStore.IsReadFrom (s : FactStore) (t : FileTree) (directory : String) : Prop :=
  ∀ r : Relation, (s.facts r).Pairwise (List.Lex (· < ·)) ∧
    ∃ text, t.at? (Path.join directory r.fileName) = some (.file (some text)) ∧
      Cell.readRows? text = some (s.facts r)

theorem FactFiles.Written.isReadFrom
    {directory : String} {s : FactStore} {t later : FileTree}
    (h : Written ⟨directory, '\t'⟩ s t later Relation.all) : s.IsReadFrom later directory := by
  intro r
  have hrows : ∀ row ∈ s.facts r, row ≠ [] := by
    intro row hrow
    have hlength := FactStore.length_of_mem_facts hrow
    exact List.ne_nil_of_length_pos (hlength ▸ r.arity_pos)
  exact ⟨FactStore.pairwise_lex_facts s r, _, h.file r (Relation.mem_all r),
    Cell.readRows?_lines hrows⟩

/-- Whatever files there were before, after a run that succeeds the files of the directory read back
as the facts of the program, and the summary counts them.  A run that cannot encode the program
changes no file.  What is written to a device is lost, so no device may stand where a file of facts
belongs. -/
theorem isReadFrom_generateFactFiles
    {settings : Settings} {t : FileTree} (hseparator : settings.output.separator = '\t')
    (hplain : t.HasPlainFacts) (programPath directory : String) :
    let done := generateFactFiles settings programPath directory t
    (∀ statistics summary, done.2 = .ok (statistics, summary) →
      ∃ p s, Program.loadFile t programPath = .ok p ∧ encodeProgram settings p = .ok s ∧
        s.IsReadFrom done.1 directory ∧ summary.files = 34 ∧
        summary.rows = (Relation.all.map fun r => (s.facts r).length).sum) ∧
    ∀ p e, Program.loadFile t programPath = .ok p → encodeProgram settings p = .error e →
      (∃ error, done.2 = .error error) ∧
        ∀ l text, done.1.node? l = some (.file text) ↔ t.node? l = some (.file text) := by
  intro done
  constructor
  · intro statistics summary hdone
    cases hload : Program.loadFile t programPath with
    | error e => simp [done, generateFactFiles, hload] at hdone
    | ok p =>
        have hrun : done = writeFacts settings p directory t := by
          simp [done, generateFactFiles, hload]
        rw [hrun] at hdone ⊢
        obtain ⟨next, s, hadds, hstore, hwrite, rfl⟩ := exists_of_writeFacts_eq_ok hdone
        rw [hseparator] at hwrite
        -- the files are written into a tree that may have gained the directory
        have hwritten := FactFiles.written_writeRelations Relation.nodup_all
          (hplain.of_addsDirectories hadds) hwrite
        exact ⟨p, s, rfl, hstore, hwritten.isReadFrom, rfl, s.size_eq_sum⟩
  · intro p e hload hencode
    have hrun : done = writeFacts settings p directory t := by
      simp [done, generateFactFiles, hload]
    rw [hrun]
    obtain ⟨herror, hadds⟩ := addsDirectories_writeFacts directory t hencode
    exact ⟨herror, fun l text => hadds.node?_eq_some_iff (by simp)⟩

/-- A program with a tab and a backslash in a cell, a program with a type that is not resolved, and
a file that is left over. -/
def outdatedTree : FileTree where
  nodes :=
    [(["program.json"], .file (some
        "\x7b\"properties\":[\x7b\"path\":\"p\",\"key\":\"k\",\"value\":\"a\\tb\\\\\"\x7d]\x7d")),
      (["phantom.json"], .file (some
        "\x7b\"classes\":[[\"C\",false,null,[],[],[[\"\",\"f\",\"?T\"]]]]\x7d")),
      (["out"], .directory), (["out", "StringRaw.facts"], .file (some "old"))]
  current := []

/-- The program with a type that is not resolved. -/
def phantomProgram : Program :=
  ⟨[⟨"C", false, none, [], [], [⟨"C", "f", .unresolved "T", []⟩], [], false, none⟩], []⟩

theorem isReadFrom_outdatedTree :
    Settings.standard.output.separator = '\t' ∧ outdatedTree.HasPlainFacts ∧
      (∃ p s, Program.loadFile outdatedTree "program.json" = .ok p ∧
        encodeProgram .standard p = .ok s ∧
        s.IsReadFrom (generateFactFiles .standard "program.json" "out" outdatedTree).1 "out") ∧
      (generateFactFiles .standard "phantom.json" "out" outdatedTree).1.node?
        ["out", "StringRaw.facts"] = some (.file (some "old")) := by
  have hseparator : Settings.standard.output.separator = '\t' := rfl
  have hplain : outdatedTree.HasPlainFacts :=
    FileTree.hasPlainFacts_of_nodes (by decide +kernel)
  have hruns :
      (generateFactFiles .standard "program.json" "out" outdatedTree).2.toBool = true := by
    decide +kernel
  have hload : Program.loadFile outdatedTree "phantom.json" = .ok phantomProgram := by
    decide +kernel
  have hresult : ((Encoder.fresh .standard false).generate phantomProgram).result =
      .error (.inUnit "class C" (.inUnit "field C.f" (.invalidTypeKind "?T"))) := by
    decide +kernel
  have hfails : encodeProgram .standard phantomProgram =
      .error (.inUnit "class C" (.inUnit "field C.f" (.invalidTypeKind "?T"))) := by
    simp [encodeProgram, Settings.standard, hresult, Except.map]
  have hread := isReadFrom_generateFactFiles hseparator hplain "program.json" "out"
  have hfailed := isReadFrom_generateFactFiles hseparator hplain "phantom.json" "out"
  have hkept := hfailed.2 _ _ hload hfails
  refine ⟨hseparator, hplain, ?_, (hkept.2 _ _).mpr (by decide +kernel)⟩
  cases hdone : (generateFactFiles .standard "program.json" "out" outdatedTree).2 with
  | error e =>
      rw [hdone] at hruns
      cases hruns
  | ok written =>
      obtain ⟨p, s, hp, hs, hfiles, -⟩ := hread.1 written.1 written.2 hdone
      exact ⟨p, s, hp, hs, hfiles⟩

end ProgramFacts
