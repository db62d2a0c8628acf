import FixtureMatrix.Proofs.Disk.Directories
import FixtureMatrix.Proofs.Disk.Frame
import Mathlib.Data.List.Induction

/-!
# Directories below a root

Names below a root are created one behind the other, and before them the base of
the root.

* `createDirectories_levelPath_iff`: once the base is there, creating it is left
  out.
* `createDirectories_levelPath_within`, `exists_writeFile_within`: names are created
  where a larger disk has directories, and then files where it has files.
-/

namespace FixtureMatrix.Disk

open FixtureMatrix.Path

variable {d d' e f : Disk} {base root : String} {names : List String}

/-- Names are created behind those before them. -/
theorem createDirectories_levelPath_concat (hbase : IsBase base root) (htree : d.IsTree)
    {name : String} (hnames : ∀ n ∈ names ++ [name], IsName n) :
    d.createDirectories (levelPath base root (names ++ [name])) = .ok d' ↔
      ∃ between, d.createDirectories (levelPath base root names) = .ok between ∧
        between.ensureDirectory (join root (ofSegments (names ++ [name]))) = .ok d' := by
  rw [levelPath_of_ne_nil (by simp)]
  exact createDirectories_of_isNamed htree (isNamed_join root (by simp) hnames)
    (hbase names name hnames)

/-- The base is created before any name. -/
theorem exists_createDirectories_base (hbase : IsBase base root) (htree : d.IsTree)
    (hnames : ∀ n ∈ names, IsName n)
    (h : d.createDirectories (levelPath base root names) = .ok d') :
    ∃ created, d.createDirectories base = .ok created := by
  -- from the end, for a name is created behind those before it
  induction names using List.reverseRecOn generalizing d' with
  | nil => exact ⟨d', h⟩
  | append_singleton names name ih =>
    obtain ⟨between, hcreated, -⟩ :=
      (createDirectories_levelPath_concat hbase htree hnames).1 h
    exact ih (List.forall_mem_append.1 hnames).1 hcreated

/-- Names are created in the same way once their base is there. -/
theorem createDirectories_levelPath_iff (hbase : IsBase base root) (htree : d.IsTree)
    {created : Disk} (hcreated : d.createDirectories base = .ok created)
    (hnames : ∀ n ∈ names, IsName n) :
    d.createDirectories (levelPath base root names) = .ok d' ↔
      created.createDirectories (levelPath base root names) = .ok d' := by
  induction names using List.reverseRecOn generalizing d' with
  | nil =>
    have hthere := createDirectories_of_hasDirectory (hasDirectory_of_createDirectories hcreated)
    rw [levelPath, if_pos rfl, hcreated, hthere]
  | append_singleton names name ih =>
    have hinit := (List.forall_mem_append.1 hnames).1
    rw [createDirectories_levelPath_concat hbase htree hnames,
      createDirectories_levelPath_concat hbase (htree.createDirectories hcreated) hnames]
    simp only [ih hinit]

/-- Names can be created if a larger disk has all their directories. -/
theorem createDirectories_levelPath_within (hbase : IsBase base root) (htree : e.IsTree)
    (hthere : e.HasDirectory base) (hwithin : e.Within f) (hnames : ∀ n ∈ names, IsName n)
    (hdirectories : ∀ init, init <+: names →
      f.lookup (e.target root ++ init) = some .directory) :
    ∃ e', e.createDirectories (levelPath base root names) = .ok e' ∧ e'.Within f := by
  induction names using List.reverseRecOn with
  | nil =>
    rw [levelPath, if_pos rfl]
    exact ⟨e, createDirectories_of_hasDirectory hthere, hwithin⟩
  | append_singleton names name ih =>
    have hinit := (List.forall_mem_append.1 hnames).1
    obtain ⟨between, hcreated, hbetween⟩ := ih hinit fun init hfront =>
      hdirectories init (hfront.trans (List.prefix_append names [name]))
    have hnamed : IsNamed (join root (ofSegments (names ++ [name]))) :=
      isNamed_join root (by simp) hnames
    have hresolve := resolve_of_hasDirectory hnamed (hbase names name hnames)
      (hasDirectory_of_createDirectories hcreated)
    have htarget : between.target (join root (ofSegments (names ++ [name]))) =
        e.target root ++ (names ++ [name]) := by
      rw [(WritesOnly.createDirectories hcreated).target]
      exact e.target_join_names root (by simp) hnames
    have hplace := hdirectories _ (List.prefix_refl (names ++ [name]))
    rw [← htarget] at hplace
    -- the larger disk has a directory there, so this one has it or nothing at all
    obtain ⟨e', hensured, hend⟩ : ∃ e', between.ensureDirectory
        (join root (ofSegments (names ++ [name]))) = .ok e' ∧ e'.Within f := by
      rcases hbetween.lookup_of_directory hplace with hfree | hdirectory
      · exact ⟨_, (ensureDirectory_eq_ok_iff hnamed hresolve).2 (Or.inl ⟨hfree, rfl⟩),
          hbetween.put_directory hplace⟩
      · exact ⟨_, (ensureDirectory_eq_ok_iff hnamed hresolve).2 (Or.inr ⟨hdirectory, rfl⟩),
          hbetween⟩
    exact ⟨e', (createDirectories_levelPath_concat hbase htree hnames).2
      ⟨between, hcreated, hensured⟩, hend⟩

/-- A file can be written where a larger disk has one. -/
theorem exists_writeFile_within {path above : String} (hpath : IsNamed path)
    (hparent : parent? path = some above) (hthere : e.HasDirectory above) (hwithin : e.Within f)
    {other : ByteArray} (hplace : f.lookup (f.target path) = some (.file other))
    (content : ByteArray) :
    ∃ e', e.writeFile path content = .ok e' ∧ e'.Within f := by
  rw [hwithin.target] at hplace
  have hfile : e.lookup (e.target path) ≠ some .directory := by
    intro hdirectory
    rw [hwithin.directories _ hdirectory] at hplace
    cases hplace
  refine ⟨e.put (e.target path) (.file content), ?_, hwithin.put_file hplace content⟩
  exact writeFile_eq_ok_iff.2
    ⟨hasTrailing_of_isNamed hpath, resolve_of_hasDirectory hpath hparent hthere, hfile, rfl⟩

end FixtureMatrix.Disk
