import FixtureMatrix.Proofs.Disk.Keys

/-!
# What writing leaves alone

`WritesOnly keys d d'` says that `d'` comes from `d` by creating directories and
by writing files at some of the keys.  Directories stay, and so do the files at
other keys.

* `WritesOnly.createDirectories`, `WritesOnly.writeFile`: what the operations do.
* `WritesOnly.readFile`: a file at none of the keys can still be read, with the
  same content.
* `readFile_writeFile`: a file that was written is read with what was written.
-/

namespace FixtureMatrix.Disk

variable {d d' d'' : Disk} {path : String} {key k : List String} {keys keys' : List (List String)}
  {content : ByteArray}

/-! ## One entry -/

@[simp] theorem lookup_put_self (d : Disk) (key : List String) (e : Entry) :
    (d.put key e).lookup key = some e := by
  have hnone : (d.entries.filter fun old => old.1 ≠ key).find? (fun e => e.1 = key) = none := by
    rw [List.find?_eq_none]
    intro old hold
    simpa using (List.mem_filter.1 hold).2
  rw [lookup, put, List.find?_append, hnone]
  simp

theorem lookup_put_of_ne (d : Disk) (e : Entry) (h : k ≠ key) :
    (d.put key e).lookup k = d.lookup k := by
  have hsame : (d.entries.filter fun old => old.1 ≠ key).find? (fun e => e.1 = k) =
      d.entries.find? fun e => e.1 = k := by
    rw [List.find?_filter]
    congr 1
    funext old
    by_cases hold : old.1 = k
    · simp [hold, h]
    · simp [hold]
  have hlast : [(key, e)].find? (fun e => e.1 = k) = none := by
    simpa using h.symm
  rw [lookup, lookup, put, List.find?_append, hsame, hlast, Option.or_none]

theorem mem_entries_of_lookup (h : d.lookup key = some (.file content)) :
    (key, .file content) ∈ d.entries := by
  rw [lookup] at h
  split at h
  · next e he =>
    have hkey : e.1 = key := by simpa using List.find?_some he
    have hmem := List.mem_of_find?_eq_some he
    rwa [← hkey, ← Option.some.inj h]
  · split_ifs at h
    cases h

/-! ## Writing at some keys only -/

/-- One disk comes from another by creating directories and by writing files
at some of the keys. -/
structure WritesOnly (keys : List (List String)) (d d' : Disk) : Prop where
  workingDirectory : d'.workingDirectory = d.workingDirectory
  directories : KeepsDirectories d d'
  files : ∀ key content, key ∉ keys → d.lookup key = some (.file content) →
    d'.lookup key = some (.file content)
  /-- Where the files come from. -/
  sources : ∀ key content, (key, .file content) ∈ d'.entries →
    key ∈ keys ∨ (key, .file content) ∈ d.entries

namespace WritesOnly

theorem refl (d : Disk) : WritesOnly [] d d :=
  ⟨rfl, fun _ h => h, fun _ _ _ h => h, fun _ _ h => Or.inr h⟩

theorem trans (h : WritesOnly keys d d') (h' : WritesOnly keys' d' d'') :
    WritesOnly (keys ++ keys') d d'' where
  workingDirectory := h'.workingDirectory.trans h.workingDirectory
  directories key hkey := h'.directories key (h.directories key hkey)
  files key content hnot hkey := by
    rw [List.mem_append, not_or] at hnot
    exact h'.files key content hnot.2 (h.files key content hnot.1 hkey)
  sources key content hkey := by
    rw [List.mem_append]
    rcases h'.sources key content hkey with hnew | hold
    · exact Or.inl (Or.inr hnew)
    · exact (h.sources key content hold).imp_left Or.inl

theorem mono (h : WritesOnly keys d d') (hkeys : ∀ key ∈ keys, key ∈ keys') :
    WritesOnly keys' d d' where
  workingDirectory := h.workingDirectory
  directories := h.directories
  files key content hnot := h.files key content fun hkey => hnot (hkeys key hkey)
  sources key content hkey := (h.sources key content hkey).imp_left (hkeys key)

/-- A path leads to one target before and after. -/
theorem target (h : WritesOnly keys d d') (path : String) : d'.target path = d.target path :=
  target_congr h.workingDirectory path

theorem put_directory (hfree : d.lookup key = none) : WritesOnly [] d (d.put key .directory) where
  workingDirectory := rfl
  directories k hk := by
    have hne : k ≠ key := fun heq => by simp [heq, hfree] at hk
    rwa [lookup_put_of_ne d _ hne]
  files k content _ hk := by
    have hne : k ≠ key := fun heq => by simp [heq, hfree] at hk
    rwa [lookup_put_of_ne d _ hne]
  sources k content hk := by
    rcases List.mem_append.1 hk with hold | hnew
    · exact Or.inr (List.mem_filter.1 hold).1
    · cases List.mem_singleton.1 hnew

theorem put_file (hfile : d.lookup key ≠ some .directory) (content : ByteArray) :
    WritesOnly [key] d (d.put key (.file content)) where
  workingDirectory := rfl
  directories k hk := by
    have hne : k ≠ key := fun heq => hfile (heq ▸ hk)
    rwa [lookup_put_of_ne d _ hne]
  files k content hnot hk := by
    rwa [lookup_put_of_ne d _ (List.ne_of_not_mem_cons hnot)]
  sources k content hk := by
    rcases List.mem_append.1 hk with hold | hnew
    · exact Or.inr (List.mem_filter.1 hold).1
    · rw [(Prod.mk.inj (List.mem_singleton.1 hnew)).1]
      exact Or.inl List.mem_cons_self

/-! ## Directories -/

theorem createDirectory (h : d.createDirectory path = .ok d') : WritesOnly [] d d' := by
  rw [Disk.createDirectory, bind_eq_ok_iff] at h
  obtain ⟨key, -, h⟩ := h
  split at h
  · cases h
  · next hfree =>
    rw [← Except.ok.inj h]
    exact put_directory hfree

theorem ensureDirectory (h : d.ensureDirectory path = .ok d') : WritesOnly [] d d' := by
  rw [Disk.ensureDirectory] at h
  split at h
  · next hcreated =>
    rw [← Except.ok.inj h]
    exact createDirectory hcreated
  · split_ifs at h
    rw [← Except.ok.inj h]
    exact refl d

theorem createDirectoriesUpTo {n : Nat} (h : d.createDirectoriesUpTo path n = .ok d') :
    WritesOnly [] d d' := by
  induction n generalizing d d' path with
  | zero =>
    rw [← Except.ok.inj h]
    exact refl d
  | succ n ih =>
    rw [Disk.createDirectoriesUpTo] at h
    by_cases hempty : path = ""
    · rw [if_pos hempty] at h
      rw [← Except.ok.inj h]
      exact refl d
    rw [if_neg hempty] at h
    split at h
    · split at h
      · cases h
      · obtain ⟨between, habove, hthis⟩ := bind_eq_ok_iff.1 h
        exact (ih habove).trans (ensureDirectory hthis)
    · split_ifs at h
      rw [← Except.ok.inj h]
      exact refl d
    · next hcreated =>
      rw [← Except.ok.inj h]
      exact createDirectory hcreated

theorem createDirectories (h : d.createDirectories path = .ok d') : WritesOnly [] d d' :=
  createDirectoriesUpTo h

end WritesOnly

/-! ## Files -/

/-- A file is written at the target of its path, where no directory stands. -/
theorem writeFile_eq_ok (h : d.writeFile path content = .ok d') :
    d.resolve path = .ok (d.target path) ∧ d.lookup (d.target path) ≠ some .directory ∧
      d' = d.put (d.target path) (.file content) := by
  rw [writeFile, bind_eq_ok_iff] at h
  obtain ⟨key, hkey, h⟩ := h
  rw [fileKey] at hkey
  split_ifs at hkey
  · obtain ⟨_, -, hkey⟩ := bind_eq_ok_iff.1 hkey
    split at hkey <;> cases hkey
  · obtain ⟨key', hresolve, hkey⟩ := bind_eq_ok_iff.1 hkey
    split at hkey
    · cases hkey
    · next hfile =>
      obtain rfl := pure_eq_ok_iff.1 hkey
      obtain rfl := pure_eq_ok_iff.1 h
      obtain rfl := resolve_eq_target hresolve
      exact ⟨hresolve, hfile, rfl⟩

theorem WritesOnly.writeFile (h : d.writeFile path content = .ok d') :
    WritesOnly [d.target path] d d' := by
  obtain ⟨-, hfile, rfl⟩ := writeFile_eq_ok h
  exact WritesOnly.put_file hfile content

/-- A file is read by walking to its target. -/
theorem readFile_eq_ok_iff : d.readFile path = .ok content ↔
    d.resolve path = .ok (d.target path) ∧ d.lookup (d.target path) = some (.file content) := by
  rw [readFile, stat]
  constructor
  · intro h
    obtain ⟨e, hstat, h⟩ := bind_eq_ok_iff.1 h
    obtain ⟨key, hresolve, hstat⟩ := bind_eq_ok_iff.1 hstat
    obtain rfl := resolve_eq_target hresolve
    split at hstat
    · next hlookup =>
      obtain rfl := pure_eq_ok_iff.1 hstat
      split at h
      · obtain rfl := pure_eq_ok_iff.1 h
        exact ⟨hresolve, hlookup⟩
      · cases h
    · cases hstat
  · rintro ⟨hresolve, hlookup⟩
    simp [hresolve, hlookup, bind, Except.bind, pure, Except.pure]

/-- A file that none of the keys names is still read as before. -/
theorem WritesOnly.readFile (h : WritesOnly keys d d') (hnot : d.target path ∉ keys)
    (hread : d.readFile path = .ok content) : d'.readFile path = .ok content := by
  obtain ⟨hresolve, hlookup⟩ := readFile_eq_ok_iff.1 hread
  rw [readFile_eq_ok_iff, h.target]
  exact ⟨resolve_mono h.directories h.workingDirectory hresolve, h.files _ _ hnot hlookup⟩

/-- What was written is read. -/
theorem readFile_writeFile (h : d.writeFile path content = .ok d') :
    d'.readFile path = .ok content := by
  have hwrites := WritesOnly.writeFile h
  obtain ⟨hresolve, -, rfl⟩ := writeFile_eq_ok h
  rw [readFile_eq_ok_iff, hwrites.target]
  exact ⟨resolve_mono hwrites.directories hwrites.workingDirectory hresolve, lookup_put_self d _ _⟩

end FixtureMatrix.Disk
