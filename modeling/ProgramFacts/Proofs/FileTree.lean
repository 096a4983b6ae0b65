import ProgramFacts.FileTree
import ProgramFacts.Proofs.JoinedText

/-!
# Laws of file trees

Writing a file changes the location of that file and no other, and creating directories adds
directories where there was nothing.  Neither takes a directory away, so that a path which leads
somewhere goes on to lead there.
-/

namespace ProgramFacts

/-! ## Paths -/

namespace Text

theorem splitAt_eq_splitOn (separator : Char) (cs : List Char) :
    splitAt separator cs = cs.splitOn separator := by
  induction cs with
  | nil => rfl
  | cons c cs ih =>
      rw [splitAt, ih, List.splitOn_cons_eq_if_modifyHead]
      by_cases hseparator : c = separator
      · simp [hseparator]
      · obtain ⟨part, parts, hparts⟩ :=
          List.exists_cons_of_ne_nil (List.splitOn_ne_nil separator cs)
        simp [hseparator, hparts]

end Text

namespace Path

/-- Whether a name stands for itself in a path. -/
structure IsPlain (name : String) : Prop where
  noSlash : '/' ∉ name.toList
  ne_empty : name ≠ ""
  ne_dot : name ≠ "."
  ne_dots : name ≠ ".."

/-- A name under a directory is the last name of its path. -/
theorem exists_names_join
    (directory : String) {name : String} (h : '/' ∉ name.toList) :
    ∃ before, names (join directory name) = before ++ [name] := by
  have hunder : ∀ cs : List Char,
      (Text.splitAt '/' (cs ++ '/' :: name.toList)).map String.ofList =
        (cs.splitOn '/').map String.ofList ++ [name] := by
    intro cs
    rw [Text.splitAt_eq_splitOn, List.splitOn_append_cons_self, List.splitOn_eq_singleton h]
    simp
  unfold join names
  split_ifs with hends
  · rcases hends with rfl | hslash
    · refine ⟨[], ?_⟩
      rw [String.empty_append, Text.splitAt_eq_splitOn, List.splitOn_eq_singleton h]
      simp
    · obtain ⟨front, hfront⟩ := List.getLast?_eq_some_iff.mp hslash
      refine ⟨(front.splitOn '/').map String.ofList, ?_⟩
      rw [String.toList_append, hfront, List.append_assoc, List.singleton_append, hunder]
  · refine ⟨(directory.toList.splitOn '/').map String.ofList, ?_⟩
    rw [String.toList_append, String.toList_append, List.append_assoc]
    exact hunder directory.toList

end Path

namespace FileTree

/-! ## Nodes -/

theorem ne_of_node?_ne_directory
    {t : FileTree} {l : Location} (h : t.node? l ≠ some .directory) : ¬(l = [] ∨ l = root) := by
  intro hl
  exact h (by rw [node?, if_pos hl])

theorem node?_put_self
    {t : FileTree} {l : Location} (h : t.node? l ≠ some .directory) (n : FileNode) :
    (t.put l n).node? l = some n := by
  rw [node?, if_neg (ne_of_node?_ne_directory h)]
  simp [put]

theorem node?_put_of_ne
    (t : FileTree) {l other : Location} (h : other ≠ l) (n : FileNode) :
    (t.put l n).node? other = t.node? other := by
  have hlookup : ∀ nodes : List (Location × FileNode),
      (nodes.filter fun entry => entry.1 != l).lookup other = nodes.lookup other := by
    intro nodes
    induction nodes with
    | nil => rfl
    | cons entry nodes ih =>
        obtain ⟨place, node⟩ := entry
        by_cases hplace : place = l
        · subst hplace
          have hbeq : (other == place) = false := beq_eq_false_iff_ne.mpr h
          simp [List.lookup_cons, hbeq, ih]
        · simp [hplace, List.lookup_cons, ih]
  have hbeq : (other == l) = false := beq_eq_false_iff_ne.mpr h
  unfold node?
  split
  · rfl
  · simp only [put, List.lookup_cons, hbeq]
    exact hlookup t.nodes

/-! ## Directories that stay -/

/-- Whether a later tree has the working directory and all directories of an earlier one. -/
structure KeepsDirectories (later t : FileTree) : Prop where
  current_eq : later.current = t.current
  directory : ∀ l, t.node? l = some .directory → later.node? l = some .directory

theorem KeepsDirectories.refl (t : FileTree) : t.KeepsDirectories t :=
  ⟨rfl, fun _ h => h⟩

theorem KeepsDirectories.trans
    {latest later t : FileTree} (h : latest.KeepsDirectories later)
    (h' : later.KeepsDirectories t) : latest.KeepsDirectories t :=
  ⟨h.current_eq.trans h'.current_eq, fun l hl => h.directory l (h'.directory l hl)⟩

theorem keepsDirectories_put
    {t : FileTree} {l : Location} (h : t.node? l ≠ some .directory) (n : FileNode) :
    (t.put l n).KeepsDirectories t where
  current_eq := rfl
  directory other hother := by
    have hne : other ≠ l := by
      rintro rfl
      exact h hother
    rw [node?_put_of_ne t hne, hother]

/-- Names that lead somewhere go on to lead there. -/
theorem follow_of_keepsDirectories
    {later t : FileTree} (h : later.KeepsDirectories t) {l place : Location} {names : List String}
    (hfollow : t.follow l names = .ok place) : later.follow l names = .ok place := by
  induction names generalizing l with
  | nil => exact hfollow
  | cons name names ih =>
      rw [follow] at hfollow ⊢
      split at hfollow
      · cases hfollow
      · next hdirectory =>
          rw [h.directory l hdirectory]
          simp only
          split_ifs at hfollow ⊢ with hblank hdots
          · exact ih hfollow
          · exact ih hfollow
          · exact ih hfollow
      · cases hfollow

theorem locate_of_keepsDirectories
    {later t : FileTree} (h : later.KeepsDirectories t) {path : String} {l : Location}
    (hlocate : t.locate path = .ok l) : later.locate path = .ok l := by
  unfold locate start at hlocate ⊢
  rw [h.current_eq]
  split_ifs at hlocate ⊢
  · exact follow_of_keepsDirectories h hlocate
  · exact follow_of_keepsDirectories h hlocate

/-! ## The location of a name under a directory -/

theorem exists_of_follow_append
    {t : FileTree} {l place : Location} {before : List String} {name : String}
    (hname : Path.IsPlain name) (h : t.follow l (before ++ [name]) = .ok place) :
    ∃ d, place = d ++ [name] := by
  induction before generalizing l with
  | nil =>
      rw [List.nil_append, follow] at h
      split at h
      · cases h
      · rw [if_neg (by simp [hname.ne_empty, hname.ne_dot]), if_neg hname.ne_dots] at h
        cases h
        exact ⟨l, rfl⟩
      · cases h
  | cons first before ih =>
      rw [List.cons_append, follow] at h
      split at h
      · cases h
      · split_ifs at h
        · exact ih h
        · exact ih h
        · exact ih h
      · cases h

theorem exists_of_locate_join
    {t : FileTree} {directory name : String} {l : Location}
    (hname : Path.IsPlain name) (h : t.locate (Path.join directory name) = .ok l) :
    ∃ d, l = d ++ [name] := by
  obtain ⟨before, hbefore⟩ := Path.exists_names_join directory hname.noSlash
  unfold locate at h
  split_ifs at h
  rw [hbefore] at h
  exact exists_of_follow_append hname h

/-! ## Writing files -/

/-- What is written goes to the location of the path, unless a device swallows it. -/
theorem write_cases
    {t later : FileTree} {path text : String} (h : t.write path text = .ok later) :
    ∃ l, t.locate path = .ok l ∧
      (t.node? l = some .device ∧ later = t ∨
        t.node? l ≠ some .directory ∧ later = t.put l (.file (some text))) := by
  unfold write at h
  split at h
  · cases h
  · next l hlocate =>
      refine ⟨l, hlocate, ?_⟩
      split at h
      · cases h
      · next hdevice =>
          cases h
          exact Or.inl ⟨hdevice, rfl⟩
      · next hdirectory hdevice =>
          cases h
          exact Or.inr ⟨hdirectory, rfl⟩

/-! ## Creating directories -/

/-- Whether a later tree differs from an earlier one in new directories only. -/
structure AddsDirectories (later t : FileTree) : Prop where
  current_eq : later.current = t.current
  node : ∀ l, later.node? l = t.node? l ∨ t.node? l = none ∧ later.node? l = some .directory

theorem AddsDirectories.refl (t : FileTree) : t.AddsDirectories t :=
  ⟨rfl, fun _ => Or.inl rfl⟩

theorem AddsDirectories.trans
    {latest later t : FileTree} (h : latest.AddsDirectories later) (h' : later.AddsDirectories t) :
    latest.AddsDirectories t where
  current_eq := h.current_eq.trans h'.current_eq
  node l := by
    rcases h.node l with hsame | ⟨hnone, hnew⟩
    · rw [hsame]
      exact h'.node l
    · rcases h'.node l with hsame | ⟨hnone', hnew'⟩
      · exact Or.inr ⟨by rw [← hsame, hnone], hnew⟩
      · rw [hnone] at hnew'
        cases hnew'

theorem addsDirectories_put {t : FileTree} {l : Location} (h : t.node? l = none) :
    (t.put l .directory).AddsDirectories t where
  current_eq := rfl
  node other := by
    by_cases hother : other = l
    · subst hother
      exact Or.inr ⟨h, node?_put_self (by simp [h]) _⟩
    · exact Or.inl (node?_put_of_ne t hother _)

theorem addsDirectories_createFrom
    {t later : FileTree} {l : Location} {names : List String}
    (h : t.createFrom l names = .ok later) : later.AddsDirectories t := by
  -- each location on the way holds a directory already, or nothing yet
  induction names generalizing t l with
  | nil =>
      rw [createFrom] at h
      split at h
      · next hnone =>
          cases h
          exact addsDirectories_put hnone
      · cases h
        exact .refl _
      · cases h
  | cons name names ih =>
      rw [createFrom] at h
      by_cases hempty : name = ""
      · rw [if_pos hempty] at h
        exact ih h
      rw [if_neg hempty] at h
      cases hnode : t.node? l with
      | none =>
          simp only [hnode] at h
          by_cases hdot :
              name = "." ∧ names.all (fun later => later = "" || later = ".")
          · rw [if_pos hdot] at h
            cases h
          · rw [if_neg hdot] at h
            exact (ih h).trans (addsDirectories_put hnode)
      | some node =>
          simp only [hnode] at h
          cases node with
          | directory => exact ih h
          | file text => cases h
          | device => cases h

theorem addsDirectories_createDirectories
    {t later : FileTree} {path : String} (h : t.createDirectories path = .ok later) :
    later.AddsDirectories t := by
  unfold createDirectories at h
  split_ifs at h
  · cases h
    exact .refl t
  · exact addsDirectories_createFrom h

/-- New directories leave everything else as it is. -/
theorem AddsDirectories.node?_eq_some_iff
    {later t : FileTree} (h : later.AddsDirectories t) {l : Location} {n : FileNode}
    (hn : n ≠ .directory) : later.node? l = some n ↔ t.node? l = some n := by
  rcases h.node l with hsame | ⟨hnone, hnew⟩
  · rw [hsame]
  · simp [hnone, hnew, hn.symm]

end FileTree
end ProgramFacts
