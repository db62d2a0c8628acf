import FixtureMatrix.Proofs.Disk.Trees

/-!
# Where files change

`ChangesFiles keys d d'` says that only files at some keys differ.  These may
change in any way, or be lost, or be new: it is what is known of an operation
that can fail halfway.  Directories may be new, but all that were there stay.

* `WritesOnly.changesFiles`: writing at some keys changes no other files.
* `ChangesFiles.readFile`: a file at none of the keys is read as before.

`Within d f` says that directories and files of `d` are directories and files of
`f`, whatever the files hold.
-/

namespace FixtureMatrix.Disk

variable {d d' d'' : Disk} {keys keys' : List (List String)}

/-- The same file, or none, stands at a key of two disks. -/
def SameFile (d d' : Disk) (key : List String) : Prop :=
  ∀ content, d'.lookup key = some (.file content) ↔ d.lookup key = some (.file content)

/-- One disk comes from another by creating directories and by changing files at
some of the keys. -/
structure ChangesFiles (keys : List (List String)) (d d' : Disk) : Prop where
  workingDirectory : d'.workingDirectory = d.workingDirectory
  directories : KeepsDirectories d d'
  elsewhere : ∀ key, key ∉ keys → d.SameFile d' key

namespace ChangesFiles

theorem refl (d : Disk) : ChangesFiles [] d d :=
  ⟨rfl, fun _ h => h, fun _ _ _ => Iff.rfl⟩

theorem trans (h : ChangesFiles keys d d') (h' : ChangesFiles keys' d' d'') :
    ChangesFiles (keys ++ keys') d d'' where
  workingDirectory := h'.workingDirectory.trans h.workingDirectory
  directories key hkey := h'.directories key (h.directories key hkey)
  elsewhere key hnot content := by
    rw [List.mem_append, not_or] at hnot
    exact (h'.elsewhere key hnot.2 content).trans (h.elsewhere key hnot.1 content)

theorem mono (h : ChangesFiles keys d d') (hkeys : ∀ key ∈ keys, key ∈ keys') :
    ChangesFiles keys' d d' where
  workingDirectory := h.workingDirectory
  directories := h.directories
  elsewhere key hnot := h.elsewhere key fun hkey => hnot (hkeys key hkey)

/-- A path leads to one target before and after. -/
theorem target (h : ChangesFiles keys d d') (path : String) : d'.target path = d.target path :=
  target_congr h.workingDirectory path

/-- A file that none of the keys names is still read as before. -/
theorem readFile {path : String} {content : ByteArray} (h : ChangesFiles keys d d')
    (hnot : d.target path ∉ keys) (hread : d.readFile path = .ok content) :
    d'.readFile path = .ok content := by
  obtain ⟨hresolve, hlookup⟩ := readFile_eq_ok_iff.1 hread
  rw [readFile_eq_ok_iff, h.target]
  exact ⟨resolve_mono h.directories h.workingDirectory hresolve,
    (h.elsewhere _ hnot content).2 hlookup⟩

end ChangesFiles

theorem SameTree.changesFiles (h : d.SameTree d') : ChangesFiles [] d d' where
  workingDirectory := h.workingDirectory
  directories := h.keepsDirectories
  elsewhere key _ content := by rw [h.lookup]

theorem lookup_ne_none_of_mem {key : List String} {e : Entry} (h : (key, e) ∈ d.entries) :
    d.lookup key ≠ none := by
  have hfound : (d.entries.find? fun e => e.1 = key).isSome := by
    rw [List.find?_isSome]
    exact ⟨_, h, by simp⟩
  obtain ⟨found, hfound⟩ := Option.isSome_iff_exists.1 hfound
  rw [lookup, hfound]
  exact Option.some_ne_none _

/-- A file that was not written stood at its key before: nothing else did, for
directories and files stay. -/
theorem WritesOnly.changesFiles (h : WritesOnly keys d d') : ChangesFiles keys d d' where
  workingDirectory := h.workingDirectory
  directories := h.directories
  elsewhere key hnot content := by
    refine ⟨fun hlookup => ?_, h.files key content hnot⟩
    have hold := (h.sources key content (mem_entries_of_lookup hlookup)).resolve_left hnot
    obtain ⟨e, he⟩ := Option.ne_none_iff_exists'.1 (lookup_ne_none_of_mem hold)
    cases e with
    | directory => rw [h.directories key he] at hlookup; cases hlookup
    | file earlier => rwa [← hlookup, h.files key earlier hnot he]

/-! ## One disk within another -/

/-- Where one disk has a directory or a file, the other has one too.  The files
need not hold the same. -/
structure Within (d f : Disk) : Prop where
  workingDirectory : f.workingDirectory = d.workingDirectory
  directories : KeepsDirectories d f
  files : ∀ key content, d.lookup key = some (.file content) →
    ∃ other, f.lookup key = some (.file other)

namespace Within

variable {f : Disk} {key : List String}

theorem target (h : d.Within f) (path : String) : f.target path = d.target path :=
  target_congr h.workingDirectory path

/-- Where the larger disk has a directory, the other has it or nothing. -/
theorem lookup_of_directory (h : d.Within f) (hkey : f.lookup key = some .directory) :
    d.lookup key = none ∨ d.lookup key = some .directory := by
  cases hlookup : d.lookup key with
  | none => exact Or.inl rfl
  | some e =>
    cases e with
    | directory => exact Or.inr rfl
    | file content =>
      obtain ⟨other, hother⟩ := h.files key content hlookup
      rw [hkey] at hother
      cases hother

theorem lookup_eq_none (h : d.Within f) (hkey : f.lookup key = none) : d.lookup key = none := by
  cases hlookup : d.lookup key with
  | none => rfl
  | some e =>
    cases e with
    | directory =>
      rw [h.directories key hlookup] at hkey
      cases hkey
    | file content =>
      obtain ⟨other, hother⟩ := h.files key content hlookup
      rw [hkey] at hother
      cases hother

theorem put_directory (h : d.Within f) (hkey : f.lookup key = some .directory) :
    (d.put key .directory).Within f where
  workingDirectory := h.workingDirectory
  directories k hk := by
    by_cases hself : k = key
    · rwa [hself]
    · rw [lookup_put_of_ne d _ hself] at hk
      exact h.directories k hk
  files k content hk := by
    by_cases hself : k = key
    · rw [hself, lookup_put_self] at hk
      cases hk
    · rw [lookup_put_of_ne d _ hself] at hk
      exact h.files k content hk

theorem put_file (h : d.Within f) {other : ByteArray} (hkey : f.lookup key = some (.file other))
    (content : ByteArray) : (d.put key (.file content)).Within f where
  workingDirectory := h.workingDirectory
  directories k hk := by
    by_cases hself : k = key
    · rw [hself, lookup_put_self] at hk
      cases hk
    · rw [lookup_put_of_ne d _ hself] at hk
      exact h.directories k hk
  files k old hk := by
    by_cases hself : k = key
    · exact ⟨other, hself ▸ hkey⟩
    · rw [lookup_put_of_ne d _ hself] at hk
      exact h.files k old hk

theorem sameTree (h : d.Within f) (hsame : d.SameTree d') : d'.Within f where
  workingDirectory := h.workingDirectory.trans hsame.workingDirectory.symm
  directories key hkey := h.directories key ((hsame.lookup key).symm.trans hkey)
  files key content hkey := h.files key content ((hsame.lookup key).symm.trans hkey)

end Within

/-- A disk is within one that comes from it by changing files that stay files. -/
theorem ChangesFiles.within (h : ChangesFiles keys d d')
    (hkeys : ∀ key ∈ keys, ∃ content, d'.lookup key = some (.file content)) : d.Within d' where
  workingDirectory := h.workingDirectory
  directories := h.directories
  files key content hkey := by
    by_cases hmem : key ∈ keys
    · exact hkeys key hmem
    · exact ⟨content, (h.elsewhere key hmem content).2 hkey⟩

/-- Disks that are within each other hold the same tree, if their files hold the
same. -/
theorem Within.sameTree_of_files {f : Disk} (h : d.Within f) (h' : f.Within d)
    (hfiles : ∀ key content other, d.lookup key = some (.file content) →
      f.lookup key = some (.file other) → other = content) : d.SameTree f where
  workingDirectory := h.workingDirectory
  lookup key := by
    cases hlookup : d.lookup key with
    | none => exact h'.lookup_eq_none hlookup
    | some e =>
      cases e with
      | directory => exact h.directories key hlookup
      | file content =>
        obtain ⟨other, hother⟩ := h.files key content hlookup
        rw [hother, hfiles key content other hlookup hother]

end FixtureMatrix.Disk
