import FixtureMatrix.Proofs.Disk.Writes

/-!
# Trees

On a disk that is a tree everything stands in a directory.  Two disks hold the
same tree if nobody can tell them apart by looking something up.

* `IsTree.put_directory`, `IsTree.put_file`: what is put into a directory leaves
  a tree, if it does not take a directory's place.
* `SameTree.resolve`, `SameTree.readFile`, `SameTree.writeFile`: the same is read
  on disks with the same tree, and the same can be written.
-/

namespace FixtureMatrix.Disk

variable {d d' d'' e : Disk} {path : String} {key : List String} {content : ByteArray}

/-! ## Everything stands in a directory -/

/-- The root is a directory, and so is whatever something stands in, and the
working directory. -/
structure IsTree (d : Disk) : Prop where
  root : d.lookup [] = some .directory
  parents : ∀ key name, d.lookup (key ++ [name]) ≠ none → d.lookup key = some .directory
  workingDirectory : d.lookup d.workingDirectory = some .directory

namespace IsTree

/-- Only what is in the entries, and the root, stands anywhere. -/
theorem of_entries (hroot : d.lookup [] = some .directory)
    (hentries : ∀ e ∈ d.entries, d.lookup e.1.dropLast = some .directory)
    (hworking : d.lookup d.workingDirectory = some .directory) : d.IsTree := by
  refine ⟨hroot, fun key name hkey => ?_, hworking⟩
  rw [lookup] at hkey
  split at hkey
  · next e he =>
    have hname : e.1 = key ++ [name] := by simpa using List.find?_some he
    have hparent := hentries e (List.mem_of_find?_eq_some he)
    rwa [hname, List.dropLast_concat] at hparent
  · simp at hkey

theorem dropLast (h : d.IsTree) (hkey : d.lookup key ≠ none) :
    d.lookup key.dropLast = some .directory := by
  rcases List.eq_nil_or_concat key with rfl | ⟨init, name, rfl⟩
  · exact h.root
  · rw [List.concat_eq_append] at hkey ⊢
    rw [List.dropLast_concat]
    exact h.parents init name hkey

theorem ancestors (h : d.IsTree) {names : List String} (hnames : names ≠ [])
    (hkey : d.lookup (key ++ names) ≠ none) : d.lookup key = some .directory := by
  induction names generalizing key with
  | nil => exact absurd rfl hnames
  | cons name names ih =>
    by_cases hlast : names = []
    · subst hlast
      exact h.parents key name hkey
    · rw [← List.singleton_append, ← List.append_assoc] at hkey
      have hnext := ih hlast hkey
      exact h.parents key name (by simp [hnext])

theorem start (h : d.IsTree) (path : String) : d.lookup (d.start path) = some .directory := by
  rw [Disk.start]
  split_ifs
  · exact h.root
  · exact h.workingDirectory

/-- A directory is put where nothing stands. -/
theorem put_directory (h : d.IsTree) (hfree : d.lookup key = none)
    (habove : d.lookup key.dropLast = some .directory) : (d.put key .directory).IsTree := by
  have hkeep := (WritesOnly.put_directory hfree).directories
  refine ⟨hkeep _ h.root, fun k name hk => ?_, hkeep _ h.workingDirectory⟩
  by_cases hself : k ++ [name] = key
  · rw [← hself, List.dropLast_concat] at habove
    exact hkeep k habove
  · rw [lookup_put_of_ne d _ hself] at hk
    exact hkeep k (h.parents k name hk)

/-- A file is put where no directory stands. -/
theorem put_file (h : d.IsTree) (hfile : d.lookup key ≠ some .directory)
    (habove : d.lookup key.dropLast = some .directory) (content : ByteArray) :
    (d.put key (.file content)).IsTree := by
  have hkeep := (WritesOnly.put_file hfile content).directories
  refine ⟨hkeep _ h.root, fun k name hk => ?_, hkeep _ h.workingDirectory⟩
  by_cases hself : k ++ [name] = key
  · rw [← hself, List.dropLast_concat] at habove
    exact hkeep k habove
  · rw [lookup_put_of_ne d _ hself] at hk
    exact hkeep k (h.parents k name hk)

end IsTree

/-! ## The same tree -/

/-- Two disks hold the same tree, seen from the same directory. -/
structure SameTree (d e : Disk) : Prop where
  workingDirectory : e.workingDirectory = d.workingDirectory
  lookup : ∀ key, e.lookup key = d.lookup key

namespace SameTree

theorem refl (d : Disk) : d.SameTree d :=
  ⟨rfl, fun _ => rfl⟩

theorem symm (h : d.SameTree e) : e.SameTree d :=
  ⟨h.workingDirectory.symm, fun key => (h.lookup key).symm⟩

theorem trans (h : d.SameTree d') (h' : d'.SameTree d'') : d.SameTree d'' :=
  ⟨h'.workingDirectory.trans h.workingDirectory,
    fun key => (h'.lookup key).trans (h.lookup key)⟩

theorem keepsDirectories (h : d.SameTree e) : KeepsDirectories d e :=
  fun key hkey => (h.lookup key).trans hkey

theorem target (h : d.SameTree e) (path : String) : e.target path = d.target path :=
  target_congr h.workingDirectory path

theorem isTree (h : d.SameTree e) (htree : d.IsTree) : e.IsTree where
  root := (h.lookup []).trans htree.root
  parents key name hkey := by
    rw [h.lookup] at hkey ⊢
    exact htree.parents key name hkey
  workingDirectory := by rw [h.workingDirectory, h.lookup, htree.workingDirectory]

theorem put (h : d.SameTree e) (key : List String) (entry : Entry) :
    (d.put key entry).SameTree (e.put key entry) where
  workingDirectory := h.workingDirectory
  lookup k := by
    by_cases hk : k = key
    · rw [hk, lookup_put_self, lookup_put_self]
    · rw [lookup_put_of_ne e entry hk, lookup_put_of_ne d entry hk, h.lookup]

/-- What is written again changes nothing. -/
theorem put_self {entry : Entry} (h : d.lookup key = some entry) :
    d.SameTree (d.put key entry) where
  workingDirectory := rfl
  lookup k := by
    by_cases hk : k = key
    · rw [hk, lookup_put_self, h]
    · rw [lookup_put_of_ne d entry hk]

theorem walk (h : d.SameTree e) (key pieces : List String) :
    e.walk key pieces = d.walk key pieces := by
  induction pieces generalizing key with
  | nil => rfl
  | cons piece rest ih => simp only [Disk.walk, ih, h.lookup]

theorem resolve (h : d.SameTree e) (path : String) : e.resolve path = d.resolve path := by
  rw [Disk.resolve, Disk.resolve, start, start, h.workingDirectory, h.walk]

theorem readFile (h : d.SameTree e) (hread : d.readFile path = .ok content) :
    e.readFile path = .ok content := by
  obtain ⟨hresolve, hlookup⟩ := readFile_eq_ok_iff.1 hread
  rw [readFile_eq_ok_iff, h.target, h.resolve, h.lookup]
  exact ⟨hresolve, hlookup⟩

end SameTree

/-! ## Writing files -/

/-- A file can be written at the target of a path where no directory stands, if
no slash follows. -/
theorem writeFile_eq_ok_iff : d.writeFile path content = .ok d' ↔
    hasTrailing path = false ∧ d.resolve path = .ok (d.target path) ∧
      d.lookup (d.target path) ≠ some .directory ∧
      d' = d.put (d.target path) (.file content) := by
  constructor
  · intro h
    refine ⟨?_, writeFile_eq_ok h⟩
    rw [writeFile, fileKey, bind_eq_ok_iff] at h
    obtain ⟨key, hkey, -⟩ := h
    split_ifs at hkey with htrailing
    · obtain ⟨_, -, hkey⟩ := bind_eq_ok_iff.1 hkey
      split at hkey <;> cases hkey
    · exact Bool.eq_false_iff.2 htrailing
  · rintro ⟨htrailing, hresolve, hfile, rfl⟩
    have hkey : d.fileKey path = .ok (d.target path) := by
      rw [fileKey, htrailing, hresolve]
      simp only [Bool.false_eq_true, if_false, bind, Except.bind]
      cases hlookup : d.lookup (d.target path) with
      | none => rfl
      | some entry =>
        cases entry with
        | directory => exact absurd hlookup hfile
        | file earlier => rfl
    rw [writeFile, hkey]
    rfl

theorem SameTree.writeFile (h : d.SameTree e) (hwrite : d.writeFile path content = .ok d') :
    ∃ e', e.writeFile path content = .ok e' ∧ d'.SameTree e' := by
  obtain ⟨htrailing, hresolve, hfile, rfl⟩ := writeFile_eq_ok_iff.1 hwrite
  refine ⟨e.put (d.target path) (.file content), ?_, h.put _ _⟩
  rw [writeFile_eq_ok_iff, h.target, h.resolve, h.lookup]
  exact ⟨htrailing, hresolve, hfile, rfl⟩

/-- What is read at a path can be written there again, and nothing changes. -/
theorem writeFile_of_readFile (htrailing : hasTrailing path = false)
    (hread : d.readFile path = .ok content) :
    ∃ d', d.writeFile path content = .ok d' ∧ d.SameTree d' := by
  obtain ⟨hresolve, hlookup⟩ := readFile_eq_ok_iff.1 hread
  have hfile : d.lookup (d.target path) ≠ some .directory := by simp [hlookup]
  exact ⟨_, writeFile_eq_ok_iff.2 ⟨htrailing, hresolve, hfile, rfl⟩, .put_self hlookup⟩

/-- The second of two writes at one path is what stays. -/
theorem writeFile_again {created : Disk} {first : ByteArray}
    (h : d.writeFile path first = .ok created) (bytes : ByteArray) : ∃ written rewritten,
      d.writeFile path bytes = .ok written ∧ created.writeFile path bytes = .ok rewritten ∧
        written.SameTree rewritten := by
  have hcreated := WritesOnly.writeFile h
  obtain ⟨htrailing, hresolve, hfile, rfl⟩ := writeFile_eq_ok_iff.1 h
  refine ⟨d.put (d.target path) (.file bytes),
    (d.put (d.target path) (.file first)).put (d.target path) (.file bytes),
    writeFile_eq_ok_iff.2 ⟨htrailing, hresolve, hfile, rfl⟩, ?_, rfl, fun key => ?_⟩
  · rw [writeFile_eq_ok_iff, hcreated.target]
    refine ⟨htrailing, ?_, ?_, rfl⟩
    · exact resolve_mono hcreated.directories hcreated.workingDirectory hresolve
    · rw [lookup_put_self]
      simp
  · by_cases hkey : key = d.target path
    · rw [hkey, lookup_put_self, lookup_put_self]
    · rw [lookup_put_of_ne _ _ hkey, lookup_put_of_ne _ _ hkey, lookup_put_of_ne _ _ hkey]

end FixtureMatrix.Disk
