import FixtureMatrix.Proofs.Disk.Walks

/-!
# Directories that are created

Creating a directory with those above it is said about a path as it is written:
with slashes and dots at its end, and with steps up.

* `createDirectories_eq`: how a directory is created, without a bound on how far
  up the path is followed.
* `createDirectories_of_hasDirectory`: nothing is done for a directory that exists.
* `hasDirectory_of_createDirectories`: what was created exists.
* `createDirectories_of_isNamed`: on a tree the directory of a name is created
  behind the one above it.
* `IsTree.createDirectories`, `SameTree.createDirectories`: trees stay trees, and
  the same tree stays the same.
-/

namespace FixtureMatrix.Disk

open FixtureMatrix.Path

variable {d d' : Disk} {path : String} {key : List String}

/-! ## Directories at paths -/

theorem isDirectory_eq_true_iff : d.isDirectory path = true ↔
    ∃ key, d.resolve path = .ok key ∧ d.lookup key = some .directory := by
  rw [isDirectory, stat]
  constructor
  · intro h
    split at h
    · next hstat =>
      obtain ⟨key, hresolve, hlookup⟩ := bind_eq_ok_iff.1 hstat
      split at hlookup
      · next hkey =>
        rw [pure_eq_ok_iff.1 hlookup] at hkey
        exact ⟨key, hresolve, hkey⟩
      · cases hlookup
    · cases h
  · rintro ⟨key, hresolve, hkey⟩
    simp [hresolve, hkey, bind, Except.bind, pure, Except.pure]

/-- A path leads to a directory.  The empty path does not, but nothing has to be
created for it. -/
def HasDirectory (d : Disk) (path : String) : Prop :=
  path = "" ∨ d.isDirectory path = true

theorem HasDirectory.mono (h : d.HasDirectory path) (hkeep : KeepsDirectories d d')
    (hworking : d'.workingDirectory = d.workingDirectory) : d'.HasDirectory path := by
  refine h.imp_right fun hdirectory => ?_
  obtain ⟨key, hresolve, hkey⟩ := isDirectory_eq_true_iff.1 hdirectory
  exact isDirectory_eq_true_iff.2 ⟨key, resolve_mono hkeep hworking hresolve, hkeep key hkey⟩

theorem createDirectory_eq_ok_iff : d.createDirectory path = .ok d' ↔
    ∃ key, d.resolve (withoutTrailing path) = .ok key ∧ d.lookup key = none ∧
      d' = d.put key .directory := by
  rw [createDirectory, bind_eq_ok_iff]
  constructor
  · rintro ⟨key, hresolve, h⟩
    split at h
    · cases h
    · next hfree => exact ⟨key, hresolve, hfree, (pure_eq_ok_iff.1 h).symm⟩
  · rintro ⟨key, hresolve, hfree, rfl⟩
    exact ⟨key, hresolve, by rw [hfree]; rfl⟩

theorem hasDirectory_of_createDirectory (h : d.createDirectory path = .ok d') :
    d'.HasDirectory path := by
  have hwrites := WritesOnly.createDirectory h
  obtain ⟨key, hresolve, -, rfl⟩ := createDirectory_eq_ok_iff.1 h
  have hkey := lookup_put_self d key .directory
  have hkept := resolve_mono hwrites.directories hwrites.workingDirectory hresolve
  exact Or.inr (isDirectory_eq_true_iff.2 ⟨key, resolve_of_withoutTrailing hkept hkey, hkey⟩)

theorem hasDirectory_of_ensureDirectory (h : d.ensureDirectory path = .ok d') :
    d'.HasDirectory path := by
  rw [ensureDirectory] at h
  split at h
  · next hcreated =>
    rw [← Except.ok.inj h]
    exact hasDirectory_of_createDirectory hcreated
  · split_ifs at h with hdirectory
    rw [← Except.ok.inj h]
    exact Or.inr hdirectory

/-- A directory that is there is not created. -/
theorem createDirectory_of_isDirectory (h : d.isDirectory path = true) :
    d.createDirectory path = .error .exists := by
  obtain ⟨key, hresolve, hkey⟩ := isDirectory_eq_true_iff.1 h
  rw [createDirectory, resolve_withoutTrailing hresolve]
  simp only [bind, Except.bind, hkey]

/-! ## Directories and those above them -/

theorem createDirectoriesUpTo_eq {n m : Nat} (hn : path.length < n) (hm : path.length < m) :
    d.createDirectoriesUpTo path n = d.createDirectoriesUpTo path m := by
  induction n generalizing d path m with
  | zero => cases hn
  | succ n ih =>
    obtain ⟨m, rfl⟩ := Nat.exists_eq_succ_of_ne_zero (Nat.ne_zero_of_lt hm)
    rw [createDirectoriesUpTo, createDirectoriesUpTo]
    by_cases hpath : path = ""
    · rw [if_pos hpath, if_pos hpath]
    rw [if_neg hpath, if_neg hpath]
    cases hparent : parent? path with
    | none => rfl
    | some above =>
      have hshorter := length_lt_of_parent? hpath hparent
      have hn' : above.length < n := by omega
      have hm' : above.length < m := by omega
      simp only [ih hn' hm']

/-- A directory is created, where need be after those above it. -/
theorem createDirectories_eq (hpath : path ≠ "") : d.createDirectories path =
    match d.createDirectory path with
    | .error .notFound =>
      match parent? path with
      | none => .error (.other "failed to create whole tree")
      | some above => do
        let d ← d.createDirectories above
        d.ensureDirectory path
    | .error e => if d.isDirectory path then .ok d else .error e
    | .ok d => .ok d := by
  rw [createDirectories, createDirectoriesUpTo, if_neg hpath]
  cases d.createDirectory path with
  | ok created => rfl
  | error e =>
    cases e with
    | notFound =>
      cases hparent : parent? path with
      | none => rfl
      | some above =>
        have hshorter := length_lt_of_parent? hpath hparent
        have hlevel : d.createDirectoriesUpTo above path.length = d.createDirectories above :=
          createDirectoriesUpTo_eq hshorter (Nat.lt_succ_self above.length)
        exact congrArg (fun between => between.bind fun d => d.ensureDirectory path) hlevel
    | _ => rfl

/-- Nothing is done for directories that are there. -/
theorem createDirectories_of_hasDirectory (h : d.HasDirectory path) :
    d.createDirectories path = .ok d := by
  by_cases hpath : path = ""
  · rw [createDirectories, createDirectoriesUpTo, if_pos hpath]
  · have hdirectory := h.resolve_left hpath
    rw [createDirectories_eq hpath, createDirectory_of_isDirectory hdirectory]
    simp [hdirectory]

/-- A directory that was created is there. -/
theorem hasDirectory_of_createDirectories (h : d.createDirectories path = .ok d') :
    d'.HasDirectory path := by
  by_cases hpath : path = ""
  · exact Or.inl hpath
  rw [createDirectories_eq hpath] at h
  split at h
  · split at h
    · cases h
    · obtain ⟨between, -, hensured⟩ := bind_eq_ok_iff.1 h
      exact hasDirectory_of_ensureDirectory hensured
  · split_ifs at h with hdirectory
    rw [← Except.ok.inj h]
    exact Or.inr hdirectory
  · next hcreated =>
    rw [← Except.ok.inj h]
    exact hasDirectory_of_createDirectory hcreated

/-! ## Directories of names -/

variable {above : String}

/-- A name is looked up in the directory that the parent of its path leads to. -/
theorem resolve_of_hasDirectory (hpath : IsNamed path) (hparent : parent? path = some above)
    (h : d.HasDirectory above) : d.resolve path = .ok (d.target path) := by
  suffices hwalk : ∃ key, d.resolve path = .ok key by
    obtain ⟨key, hkey⟩ := hwalk
    rw [hkey, resolve_eq_target hkey]
  obtain ⟨pre, name, hname, hsegments⟩ := id hpath
  have hlast := walk_last hname.not_isSkip hname.ne_parent d
  rw [resolve, if_neg hpath.ne_empty, hsegments]
  by_cases hpre : pre = []
  · subst hpre
    exact ⟨_, hlast _⟩
  rw [parent?_of_segments hname hpre hsegments] at hparent
  obtain rfl := Option.some.inj hparent
  obtain ⟨hne, habsolute, kept, skips, skips', hskips, hskips', habove, rfl⟩ :=
    trimmed_spec hname hpre hsegments
  obtain ⟨key, hresolve, hkey⟩ := isDirectory_eq_true_iff.1 (h.resolve_left hne)
  rw [resolve, if_neg hne, habove, start_congr habsolute] at hresolve
  obtain ⟨between, hkept, hend, -⟩ := exists_walk_append hresolve
  rw [← List.append_nil skips, walk_skips hskips] at hend
  obtain rfl := Except.ok.inj hend
  refine ⟨between ++ [name], ?_⟩
  rw [List.append_assoc, walk_append_of_directory hkept hkey, walk_skips hskips', hlast]

/-- In a directory that is there any name is looked up. -/
theorem resolve_join_name {root name : String} (h : d.HasDirectory root) (hname : IsName name) :
    d.resolve (join root name) = .ok (d.target (join root name)) := by
  suffices hwalk : ∃ key, d.resolve (join root name) = .ok key by
    obtain ⟨key, hkey⟩ := hwalk
    rw [hkey, resolve_eq_target hkey]
  have hpiece := segments_piece hname.no_slash
  have hlast := walk_last hname.not_isSkip hname.ne_parent d
  rcases h with rfl | hdirectory
  · rw [join_empty, resolve, if_neg hname.ne_empty, hpiece]
    exact ⟨_, hlast _⟩
  obtain ⟨key, hresolve, hkey⟩ := isDirectory_eq_true_iff.1 hdirectory
  have hroot : root ≠ "" := by
    rintro rfl
    cases hresolve
  have hrelative := isAbsolute_piece hname.no_slash
  obtain ⟨parts, -, hsegments, hjoins⟩ := segments_join hroot
  -- a slash at the end of the root is not walked again
  have hparts : d.walk (d.start root) parts = .ok key := by
    rw [resolve, if_neg hroot] at hresolve
    rcases hsegments with hsame | hslash
    · rwa [hsame] at hresolve
    · rw [hslash] at hresolve
      obtain ⟨between, hparts, hend, -⟩ := exists_walk_append hresolve
      rw [walk_skip (Or.inl rfl)] at hend
      rwa [← Except.ok.inj hend]
  rw [resolve, if_neg (isNamed_join_name root hname).ne_empty, hjoins name hrelative, hpiece,
    start_congr (isAbsolute_join hroot hrelative), walk_append_of_directory hparts hkey, hlast]
  exact ⟨_, rfl⟩

/-- On a tree there is such a directory if the name can be looked up. -/
theorem hasDirectory_of_resolve (htree : d.IsTree) (hpath : IsNamed path)
    (hparent : parent? path = some above) {key : List String} (h : d.resolve path = .ok key) :
    d.HasDirectory above := by
  obtain ⟨pre, name, hname, hsegments⟩ := id hpath
  by_cases hpre : pre = []
  · subst hpre
    rw [parent?_name hname hsegments] at hparent
    exact Or.inl (Option.some.inj hparent).symm
  rw [parent?_of_segments hname hpre hsegments] at hparent
  obtain rfl := Option.some.inj hparent
  obtain ⟨hne, habsolute, kept, skips, skips', hskips, hskips', habove, rfl⟩ :=
    trimmed_spec hname hpre hsegments
  rw [resolve, if_neg hpath.ne_empty, hsegments, List.append_assoc] at h
  obtain ⟨between, hkept, -, hdirectory⟩ := exists_walk_append h
  have hbetween := hdirectory (by simp) htree (htree.start path)
  refine Or.inr (isDirectory_eq_true_iff.2 ⟨between, ?_, hbetween⟩)
  rw [resolve, if_neg hne, habove, start_congr habsolute,
    walk_append_of_directory hkept hbetween, ← List.append_nil skips, walk_skips hskips]
  rfl

/-- The directory of a name is created, or found, where its target is. -/
theorem ensureDirectory_eq_ok_iff (hpath : IsNamed path)
    (hresolve : d.resolve path = .ok (d.target path)) : d.ensureDirectory path = .ok d' ↔
      (d.lookup (d.target path) = none ∧ d' = d.put (d.target path) .directory) ∨
        (d.lookup (d.target path) = some .directory ∧ d' = d) := by
  have hisDirectory : d.isDirectory path = true ↔ d.lookup (d.target path) = some .directory := by
    rw [isDirectory_eq_true_iff]
    constructor
    · rintro ⟨key, hkey, hlookup⟩
      rwa [← resolve_eq_target hkey]
    · exact fun hlookup => ⟨_, hresolve, hlookup⟩
  rw [ensureDirectory, createDirectory, withoutTrailing_of_isNamed hpath, hresolve]
  simp only [bind, Except.bind]
  cases hlookup : d.lookup (d.target path) with
  | none => simp [pure, Except.pure, eq_comm]
  | some entry =>
    cases entry with
    | directory =>
      have hdirectory := hisDirectory.2 hlookup
      simp [hdirectory, eq_comm]
    | file content =>
      have hdirectory : ¬ d.isDirectory path = true := by
        rw [hisDirectory, hlookup]
        simp
      simp [hdirectory]

theorem createDirectory_ne_notFound (hpath : IsNamed path) (h : d.resolve path = .ok key) :
    d.createDirectory path ≠ .error .notFound := by
  rw [createDirectory, withoutTrailing_of_isNamed hpath, h]
  simp only [bind, Except.bind]
  split <;> simp [pure, Except.pure]

theorem createDirectory_of_resolve_error (hpath : IsNamed path) {e : OsError}
    (h : d.resolve path = .error e) : d.createDirectory path = .error e := by
  rw [createDirectory, withoutTrailing_of_isNamed hpath, h]
  rfl

/-- A name that cannot be looked up for another reason than that something is missing
cannot be created. -/
theorem createDirectories_ne_ok (hpath : IsNamed path) {e : OsError}
    (h : d.resolve path = .error e) (he : e ≠ .notFound) : d.createDirectories path ≠ .ok d' := by
  have hdirectory : d.isDirectory path = false := by
    rw [Bool.eq_false_iff, ne_eq, isDirectory_eq_true_iff, h]
    rintro ⟨key, hkey, -⟩
    cases hkey
  rw [createDirectories_eq hpath.ne_empty, createDirectory_of_resolve_error hpath h]
  cases e with
  | notFound => exact absurd rfl he
  | _ => simp [hdirectory]

/-- On a tree the directory of a name is created behind the one above it, also
where this is there. -/
theorem createDirectories_of_isNamed (htree : d.IsTree) (hpath : IsNamed path)
    (hparent : parent? path = some above) : d.createDirectories path = .ok d' ↔
      ∃ between, d.createDirectories above = .ok between ∧
        between.ensureDirectory path = .ok d' := by
  cases hresolve : d.resolve path with
  | ok key =>
    have habove := hasDirectory_of_resolve htree hpath hparent hresolve
    have hcreate := createDirectory_ne_notFound hpath hresolve
    rw [createDirectories_eq hpath.ne_empty, createDirectories_of_hasDirectory habove]
    simp only [Except.ok.injEq, exists_eq_left']
    rw [ensureDirectory]
    cases hcreated : d.createDirectory path with
    | ok created => rfl
    | error e =>
      cases e with
      | notFound => exact absurd hcreated hcreate
      | _ => rfl
  | error e =>
    by_cases he : e = .notFound
    · subst he
      rw [createDirectories_eq hpath.ne_empty, createDirectory_of_resolve_error hpath hresolve]
      simp only [hparent, bind_eq_ok_iff]
    · refine iff_of_false (createDirectories_ne_ok hpath hresolve he) ?_
      rintro ⟨between, hcreated, -⟩
      -- what stops the walk is a file, which the directory above would have to go through
      have hstuck := resolve_error_mono (WritesOnly.createDirectories hcreated) hresolve he
      have hfree := resolve_of_hasDirectory hpath hparent
        (hasDirectory_of_createDirectories hcreated)
      rw [hstuck] at hfree
      cases hfree

/-! ## Trees stay trees -/

namespace IsTree

theorem lookup_dropLast_of_resolve (htree : d.IsTree) {key : List String}
    (h : d.resolve path = .ok key) : d.lookup key.dropLast = some .directory := by
  rw [resolve] at h
  split_ifs at h
  exact htree.lookup_dropLast (htree.start path) h

theorem createDirectory (htree : d.IsTree) (h : d.createDirectory path = .ok d') : d'.IsTree := by
  obtain ⟨key, hresolve, hfree, rfl⟩ := createDirectory_eq_ok_iff.1 h
  exact htree.put_directory hfree (htree.lookup_dropLast_of_resolve hresolve)

theorem ensureDirectory (htree : d.IsTree) (h : d.ensureDirectory path = .ok d') : d'.IsTree := by
  rw [Disk.ensureDirectory] at h
  split at h
  · next hcreated =>
    rw [← Except.ok.inj h]
    exact htree.createDirectory hcreated
  · split_ifs at h
    rwa [← Except.ok.inj h]

theorem createDirectoriesUpTo (htree : d.IsTree) {n : Nat}
    (h : d.createDirectoriesUpTo path n = .ok d') : d'.IsTree := by
  induction n generalizing d d' path with
  | zero => rwa [← Except.ok.inj h]
  | succ n ih =>
    rw [Disk.createDirectoriesUpTo] at h
    by_cases hempty : path = ""
    · rw [if_pos hempty] at h
      rwa [← Except.ok.inj h]
    rw [if_neg hempty] at h
    split at h
    · split at h
      · cases h
      · obtain ⟨between, habove, hthis⟩ := bind_eq_ok_iff.1 h
        exact (ih htree habove).ensureDirectory hthis
    · split_ifs at h
      rwa [← Except.ok.inj h]
    · next hcreated =>
      rw [← Except.ok.inj h]
      exact htree.createDirectory hcreated

theorem createDirectories (htree : d.IsTree) (h : d.createDirectories path = .ok d') : d'.IsTree :=
  htree.createDirectoriesUpTo h

theorem writeFile (htree : d.IsTree) {content : ByteArray}
    (h : d.writeFile path content = .ok d') : d'.IsTree := by
  obtain ⟨hresolve, hfile, rfl⟩ := writeFile_eq_ok h
  exact htree.put_file hfile (htree.lookup_dropLast_of_resolve hresolve) content

end IsTree

/-! ## The same tree stays the same -/

namespace SameTree

variable {e : Disk}

theorem isDirectory (h : d.SameTree e) (path : String) :
    e.isDirectory path = d.isDirectory path := by
  rw [Bool.eq_iff_iff, isDirectory_eq_true_iff, isDirectory_eq_true_iff, h.resolve]
  simp only [h.lookup]

theorem createDirectory (h : d.SameTree e) (hcreate : d.createDirectory path = .ok d') :
    ∃ e', e.createDirectory path = .ok e' ∧ d'.SameTree e' := by
  obtain ⟨key, hresolve, hfree, rfl⟩ := createDirectory_eq_ok_iff.1 hcreate
  refine ⟨e.put key .directory, ?_, h.put key .directory⟩
  rw [createDirectory_eq_ok_iff, h.resolve]
  exact ⟨key, hresolve, by rw [h.lookup, hfree], rfl⟩

theorem createDirectory_error (h : d.SameTree e) {err : OsError}
    (hcreate : d.createDirectory path = .error err) : e.createDirectory path = .error err := by
  rw [Disk.createDirectory] at hcreate ⊢
  rw [h.resolve]
  cases hresolve : d.resolve (withoutTrailing path) with
  | error resolveError =>
    rw [hresolve] at hcreate
    exact hcreate
  | ok key =>
    rw [hresolve] at hcreate
    simp only [bind, Except.bind, h.lookup] at hcreate ⊢
    cases hlookup : d.lookup key with
    | none =>
      rw [hlookup] at hcreate
      cases hcreate
    | some entry =>
      rw [hlookup] at hcreate
      exact hcreate

theorem ensureDirectory (h : d.SameTree e) (hensure : d.ensureDirectory path = .ok d') :
    ∃ e', e.ensureDirectory path = .ok e' ∧ d'.SameTree e' := by
  rw [Disk.ensureDirectory] at hensure ⊢
  split at hensure
  · next hcreated =>
    obtain ⟨e', he', hsame⟩ := h.createDirectory hcreated
    rw [he', ← Except.ok.inj hensure]
    exact ⟨e', rfl, hsame⟩
  · next hfailed =>
    split_ifs at hensure with hdirectory
    rw [h.createDirectory_error hfailed, ← Except.ok.inj hensure]
    simp only [h.isDirectory, hdirectory, if_true]
    exact ⟨e, rfl, h⟩

theorem createDirectoriesUpTo (h : d.SameTree e) {n : Nat}
    (hcreate : d.createDirectoriesUpTo path n = .ok d') :
    ∃ e', e.createDirectoriesUpTo path n = .ok e' ∧ d'.SameTree e' := by
  induction n generalizing d e d' path with
  | zero =>
    rw [← Except.ok.inj hcreate]
    exact ⟨e, rfl, h⟩
  | succ n ih =>
    rw [Disk.createDirectoriesUpTo] at hcreate ⊢
    by_cases hempty : path = ""
    · rw [if_pos hempty] at hcreate ⊢
      rw [← Except.ok.inj hcreate]
      exact ⟨e, rfl, h⟩
    rw [if_neg hempty] at hcreate ⊢
    cases hcreated : d.createDirectory path with
    | ok created =>
      rw [hcreated] at hcreate
      obtain ⟨e', he', hsame⟩ := h.createDirectory hcreated
      rw [he', ← Except.ok.inj hcreate]
      exact ⟨e', rfl, hsame⟩
    | error err =>
      rw [hcreated] at hcreate
      rw [h.createDirectory_error hcreated]
      cases err with
      | notFound =>
        cases hparent : parent? path with
        | none =>
          rw [hparent] at hcreate
          cases hcreate
        | some above =>
          rw [hparent] at hcreate
          obtain ⟨between, habove, hthis⟩ := bind_eq_ok_iff.1 hcreate
          obtain ⟨between', habove', hbetween⟩ := ih h habove
          obtain ⟨e', hthis', hsame⟩ := hbetween.ensureDirectory hthis
          exact ⟨e', bind_eq_ok_iff.2 ⟨between', habove', hthis'⟩, hsame⟩
      | _ =>
        simp only [h.isDirectory] at hcreate ⊢
        split_ifs at hcreate ⊢
        rw [← Except.ok.inj hcreate]
        exact ⟨e, rfl, h⟩

theorem createDirectories (h : d.SameTree e) (hcreate : d.createDirectories path = .ok d') :
    ∃ e', e.createDirectories path = .ok e' ∧ d'.SameTree e' :=
  h.createDirectoriesUpTo hcreate

end SameTree

end FixtureMatrix.Disk
