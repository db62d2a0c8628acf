import FixtureMatrix.Proofs.Disk.Directories
import FixtureMatrix.Proofs.Manifest.Verify

/-!
# Manifests that are loaded again

A manifest holds its records sorted, each path with its last record, and loading
sorts them once more.  So a written manifest is loaded as it is, whatever its
records were.

* `exists_write`: a manifest can be written below any directory.
* `load_of_write_ofRecords`: a manifest of records is loaded as the same manifest.
-/

namespace FixtureMatrix

open FixtureMatrix.Path

/-! ## The manifest's place -/

theorem isName_manifestFile : IsName manifestFile :=
  isName_of_mem (c := 'm') (by decide) (by decide) (by decide)

theorem Disk.target_manifest (d : Disk) (output : String) :
    d.target (join output manifestFile) = d.target output ++ [manifestFile] := by
  have hnames : ∀ name ∈ [manifestFile], IsName name := by
    intro name hname
    rw [List.mem_singleton.1 hname]
    exact isName_manifestFile
  have hjoin := d.target_join_names output (List.cons_ne_nil manifestFile []) hnames
  rwa [ofSegments, String.intercalate_singleton] at hjoin

namespace Manifest

variable {rs : List ArtifactRecord} {root : String} {d : Disk}

/-- A manifest is written into a directory, unless another one takes its place. -/
theorem exists_write (m : Manifest) (hroot : d.HasDirectory root)
    (hplace : d.lookup (d.target (join root manifestFile)) ≠ some .directory) :
    ∃ d', m.write root d = .ok (join root manifestFile, d') := by
  have hnamed := isNamed_join_name root isName_manifestFile
  obtain ⟨d', hwrite⟩ : ∃ d', d.writeFile (join root manifestFile) m.text.toUTF8 = .ok d' :=
    ⟨_, Disk.writeFile_eq_ok_iff.2 ⟨Disk.hasTrailing_of_isNamed hnamed,
      Disk.resolve_join_name hroot isName_manifestFile, hplace, rfl⟩⟩
  exact ⟨d', by simp only [write, hwrite]⟩

/-- Loading sorts the records again, which changes nothing. -/
theorem load_ofRecords {path : String} {d' : Disk} (hfits : ∀ r ∈ rs, r.Fits)
    (h : (ofRecords rs).write root d = .ok (path, d')) : load d' root = .ok (ofRecords rs) := by
  have hversion : manifestVersion < Nat.pow 2 32 := by decide
  have hloaded := load_of_write hversion (fun r hr => hfits r (mem_of_mem_index hr)) h
  rw [hloaded, ofRecords, ofRecords]
  simp only [index_index]

/-- A manifest of any records, in any order and with repeated paths, is loaded as
the same manifest from where it was written.  It can be written into every
directory, unless another directory takes its place. -/
theorem load_of_write_ofRecords (hfits : ∀ r ∈ rs, r.Fits) (root : String) (d : Disk) :
    (∀ path d', (ofRecords rs).write root d = .ok (path, d') →
      load d' root = .ok (ofRecords rs)) ∧
    (d.HasDirectory root → d.lookup (d.target (join root manifestFile)) ≠ some .directory →
      ∃ d', (ofRecords rs).write root d = .ok (join root manifestFile, d') ∧
        load d' root = .ok (ofRecords rs)) := by
  refine ⟨fun path d' hwrite => load_ofRecords hfits hwrite, fun hroot hplace => ?_⟩
  obtain ⟨d', hwrite⟩ := exists_write (ofRecords rs) hroot hplace
  exact ⟨d', hwrite, load_ofRecords hfits hwrite⟩

/-- Records out of order, two of them of one path, with quotes, a backslash and
control characters, and with the largest numbers. -/
def oddRecords : List ArtifactRecord :=
  [⟨"v1/\"\\.parquet", "first", "名.parquet", .plain, 0, 1, "\u0000"⟩,
    ⟨"a\n\u007f😃", "\t", "", ⟨.v2, true, .multi, .lz4Raw⟩, wordLimit - 1, wordLimit - 1, "/"⟩,
    ⟨"v1/\"\\.parquet", "last", "名.parquet", .plain, 8, 0, "\u001b"⟩]

/-- Two of the three are in the manifest, which is loaded as it was written. -/
theorem load_of_write_oddRecords :
    (ofRecords oddRecords).artifacts.map ArtifactRecord.case = ["\t", "last"] ∧
      ∃ d', (ofRecords oddRecords).write "." Disk.empty = .ok ("./manifest.json", d') ∧
        load d' "." = .ok (ofRecords oddRecords) := by
  have hfits : ∀ r ∈ oddRecords, r.Fits := by decide
  have hroot : Disk.empty.HasDirectory "." := Or.inr (by decide +kernel)
  have hplace : Disk.empty.lookup (Disk.empty.target (join "." manifestFile)) = none := by
    decide +kernel
  refine ⟨by decide +kernel, (load_of_write_ofRecords hfits "." Disk.empty).2 hroot ?_⟩
  rw [hplace]
  exact (Option.some_ne_none Entry.directory).symm

end Manifest

end FixtureMatrix
