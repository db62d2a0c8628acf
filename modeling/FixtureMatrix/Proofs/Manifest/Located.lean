import FixtureMatrix.Proofs.Manifest.Report

/-!
# Files that were checked and files that are stray

A verification looks for a record's file at the path as it is written, and tells the files
it finds by their portable paths, so the two are compared as texts.

* `mem_missing_of_verify`, `mem_stray_of_verify`: what a report lists.
* `located_iff`: what is located are the files that can be read.
* `verify_located`: a file that was checked is not stray if its record has the portable
  path; for any other record it depends on whether the portable path is listed too.
* `verify_respelled_strays`: a file below a dot is checked and stray.
-/

namespace FixtureMatrix

open FixtureMatrix.Path

/-- The file of a listed path was found, and these names lead down to it from the root. -/
structure VerifyReport.Located (report : VerifyReport) (m : Manifest) (d : Disk)
    (root path : String) (names : List String) : Prop where
  listed : path ∈ m.artifacts.map ArtifactRecord.path
  found : path ∉ report.missing
  below : d.target (join root path) = d.target root ++ names

namespace Manifest

variable {raw : Manifest} {d : Disk} {root path : String} {report : VerifyReport}
  {names : List String}

/-! ## What a report lists -/

theorem verify_of_standsAt (hstands : raw.StandsAt d root) :
    ∃ report, verify d root = .ok report :=
  ⟨_, verify_eq (load_eq_ok_iff.2 ⟨raw, hstands, rfl⟩)⟩

theorem mem_missing_of_verify (hstands : raw.StandsAt d root)
    (hverify : verify d root = .ok report) : path ∈ report.missing ↔
      path ∈ raw.artifacts.map ArtifactRecord.path ∧ d.isFile (join root path) = false := by
  rw [verify_eq (load_eq_ok_iff.2 ⟨raw, hstands, rfl⟩)] at hverify
  obtain rfl := Except.ok.inj hverify
  exact mem_missing_iff

/-- A stray file is not listed, and its path is the relative path of something found. -/
theorem unlisted_of_stray (hstands : raw.StandsAt d root) (hverify : verify d root = .ok report)
    (hstray : path ∈ report.stray) : path ∉ raw.artifacts.map ArtifactRecord.path ∧
      ∃ found, path = relativeTo root found := by
  rw [verify_eq (load_eq_ok_iff.2 ⟨raw, hstands, rfl⟩)] at hverify
  obtain rfl := Except.ok.inj hverify
  obtain ⟨hunlisted, found, -, hfound⟩ := mem_strayFiles_iff.1 hstray
  refine ⟨?_, found, hfound.symm⟩
  rw [← mem_paths_index_iff, List.mem_map]
  rintro ⟨r, hr, hpath⟩
  exact hunlisted r hr hpath

theorem mem_stray_of_verify (htree : d.IsFileTree) (hroot : root ≠ "")
    (hreach : Disk.ReachesRoot root) (hstands : raw.StandsAt d root)
    (hverify : verify d root = .ok report) : path ∈ report.stray ↔
      path ∉ raw.artifacts.map ArtifactRecord.path ∧ ∃ names, d.HasParquet root names ∧
        path = ofSegments (Disk.unrecognized root ++ names) := by
  rw [verify_eq (load_eq_ok_iff.2 ⟨raw, hstands, rfl⟩)] at hverify
  obtain rfl := Except.ok.inj hverify
  obtain ⟨p, hsearch⟩ := exists_searchRoot?_of_standsAt htree.toIsTree hroot hreach hstands
  rw [mem_strayFiles_iff_hasParquet htree hroot hsearch, ofRecords, mem_paths_index_iff]

/-! ## Files that were found -/

/-- What is found are the files that can be read. -/
theorem located_iff (hstands : raw.StandsAt d root) (hverify : verify d root = .ok report) :
    report.Located raw d root path names ↔ path ∈ raw.artifacts.map ArtifactRecord.path ∧
      (∃ content, d.readFile (join root path) = .ok content) ∧
        d.target (join root path) = d.target root ++ names := by
  have hmissing : path ∈ report.missing ↔ _ := mem_missing_of_verify hstands hverify
  rw [← Disk.isFile_eq_true_iff]
  constructor
  · rintro ⟨hlisted, hfound, hbelow⟩
    refine ⟨hlisted, ?_, hbelow⟩
    rw [← Bool.not_eq_false]
    exact fun hnone => hfound (hmissing.2 ⟨hlisted, hnone⟩)
  · rintro ⟨hlisted, hfile, hbelow⟩
    refine ⟨hlisted, fun hnone => ?_, hbelow⟩
    rw [(hmissing.1 hnone).2] at hfile
    cases hfile

/-- A portable path leads down to the names it consists of, and no stray path leads
there. -/
theorem ne_target_of_portable (hstands : raw.StandsAt d root)
    (hverify : verify d root = .ok report)
    (hlisted : path ∈ raw.artifacts.map ArtifactRecord.path) (hportable : portable path = path) :
    ∀ stray ∈ report.stray, d.target (join root stray) ≠ d.target (join root path) := by
  intro stray hstray hsame
  obtain ⟨hunlisted, found, hfound⟩ := unlisted_of_stray hstands hverify hstray
  obtain ⟨names, hnames, hpath⟩ := portable_eq_self_iff.1 hportable
  obtain ⟨names', hnames', hrelative⟩ := exists_names_relativeTo root found
  rw [hfound, hrelative, hpath, d.target_join_ofSegments root hnames',
    d.target_join_ofSegments root hnames] at hsame
  refine hunlisted ?_
  rwa [hfound, hrelative, List.append_cancel_left hsame, ← hpath]

/-- What was found below the root is stray exactly when it has the ending that is searched
for and is not listed by its relative path. -/
theorem mem_stray_iff_of_located (htree : d.IsFileTree) (hroot : root ≠ "")
    (hreach : Disk.ReachesRoot root) (hstands : raw.StandsAt d root)
    (hverify : verify d root = .ok report) (h : report.Located raw d root path names) :
    ofSegments (Disk.unrecognized root ++ names) ∈ report.stray ↔
      ofSegments (Disk.unrecognized root ++ names) ∉ raw.artifacts.map ArtifactRecord.path ∧
        ∃ name, names.getLast? = some name ∧ Disk.hasParquetEnding name = true := by
  rw [mem_stray_of_verify htree hroot hreach hstands hverify]
  obtain ⟨-, ⟨content, hread⟩, hbelow⟩ := (located_iff hstands hverify).1 h
  have hfile := (Disk.readFile_eq_ok_iff.1 hread).2
  rw [hbelow] at hfile
  -- The names are those of a key on the disk, so the relative path tells them.
  have hplain : ∀ name ∈ names, IsName name := by
    have hkey : d.lookup (d.target root ++ names) ≠ none := by simp [hfile]
    intro name hname
    exact htree.isName_of_mem hkey name (List.mem_append_right _ hname)
  refine and_congr_right fun _ => ?_
  constructor
  · rintro ⟨names', hparquet, hsame⟩
    rw [Disk.eq_of_relative hplain (htree.isName_of_hasParquet hparquet) hsame]
    exact hparquet.1
  · intro hending
    exact ⟨names, ⟨hending, content, hfile⟩, rfl⟩

/-- A verification locates the files of records that can be read. If the path of a record is
portable, its file is located at the names of that path, and no stray path leads to it.

For any record whose file was found below the root, the file is stray as well exactly when
its name has the ending that is searched for and no record has its relative path, which is
the text of its names if the root is recognized: a record that spells it in another way
does not count. -/
theorem verify_located (htree : d.IsFileTree) (hstands : raw.StandsAt d root) :
    ∃ report, verify d root = .ok report ∧
      (∀ path names, report.Located raw d root path names ↔
        path ∈ raw.artifacts.map ArtifactRecord.path ∧
          (∃ content, d.readFile (join root path) = .ok content) ∧
            d.target (join root path) = d.target root ++ names) ∧
      (∀ path ∈ raw.artifacts.map ArtifactRecord.path, path ∉ report.missing →
        portable path = path →
          (∃ names, report.Located raw d root path names ∧ ofSegments names = path) ∧
          ∀ stray ∈ report.stray, d.target (join root stray) ≠ d.target (join root path)) ∧
      (root ≠ "" → Disk.ReachesRoot root → ∀ path names, report.Located raw d root path names →
        (ofSegments (Disk.unrecognized root ++ names) ∈ report.stray ↔
          ofSegments (Disk.unrecognized root ++ names) ∉ raw.artifacts.map ArtifactRecord.path ∧
            ∃ name, names.getLast? = some name ∧ Disk.hasParquetEnding name = true)) := by
  obtain ⟨report, hverify⟩ := verify_of_standsAt hstands
  refine ⟨report, hverify, fun _ _ => located_iff hstands hverify,
    fun path hlisted hfound hportable => ⟨?_, ?_⟩, ?_⟩
  · obtain ⟨names, hnames, rfl⟩ := portable_eq_self_iff.1 hportable
    exact ⟨names, ⟨hlisted, hfound, d.target_join_ofSegments root hnames⟩, rfl⟩
  · exact ne_target_of_portable hstands hverify hlisted hportable
  · intro hroot hreach path names h
    exact mem_stray_iff_of_located htree hroot hreach hstands hverify h

/-- Records of both files, one with its path below a dot. -/
def respelled : Manifest :=
  ⟨1, [⟨"./a.parquet", "a", "a.parquet", .plain, 1, 3, Sha256.hexDigest "abc".toUTF8⟩,
    ⟨"sub/d.parquet", "d", "d.parquet", .plain, 1, 0, Sha256.hexDigest "".toUTF8⟩]⟩

/-- Both files are found. -/
theorem exists_verify_respelled :
    ∃ d report, respelled.write "out" twoFiles = .ok ("out/manifest.json", d) ∧
      d.IsFileTree ∧ respelled.StandsAt d "out" ∧ verify d "out" = .ok report ∧
      report.Located respelled d "out" "./a.parquet" ["a.parquet"] ∧
      report.Located respelled d "out" "sub/d.parquet" ["sub", "d.parquet"] := by
  obtain ⟨d, hwrite, hstands, htree, hwrites, -⟩ :=
    exists_write_twoFiles (m := respelled) (by decide) (by decide) "out"
      (Or.inr (by decide +kernel)) (by decide +kernel)
  obtain ⟨report, hverify⟩ := verify_of_standsAt hstands
  have hlocated : ∀ path names content, path ∈ respelled.artifacts.map ArtifactRecord.path →
      twoFiles.target (join "out" path) = twoFiles.target "out" ++ names →
      twoFiles.target (join "out" path) ∉ [["work", "out", "manifest.json"]] →
      twoFiles.readFile (join "out" path) = .ok content →
      report.Located respelled d "out" path names := by
    intro path names content hlisted hbelow hother hread
    rw [located_iff hstands hverify, hwrites.target, hwrites.target]
    exact ⟨hlisted, ⟨content, hwrites.readFile hother hread⟩, hbelow⟩
  refine ⟨d, report, hwrite, htree, hstands, hverify, ?_, ?_⟩
  · exact hlocated _ _ "abc".toUTF8 (by decide) (by decide +kernel) (by decide +kernel) rfl
  · exact hlocated _ _ "".toUTF8 (by decide) (by decide +kernel) (by decide +kernel) rfl

/-- The file with the portable path is not stray, the other one is. -/
theorem verify_located_respelled :
    ∃ d report, respelled.write "out" twoFiles = .ok ("out/manifest.json", d) ∧
      verify d "out" = .ok report ∧ "sub/d.parquet" ∉ report.stray ∧
      "a.parquet" ∈ report.stray := by
  obtain ⟨d, report, hwrite, htree, hstands, hverify, hdotted, hplain⟩ := exists_verify_respelled
  obtain ⟨report', hverify', -, hportable, hexact⟩ := verify_located htree hstands
  obtain rfl : report' = report := Except.ok.inj (hverify'.symm.trans hverify)
  refine ⟨d, report', hwrite, hverify, fun hstray => ?_, ?_⟩
  · exact (hportable _ hplain.listed hplain.found (by decide +kernel)).2 _ hstray rfl
  · exact (hexact (by decide) (Or.inr (by decide)) _ _ hdotted).2
      ⟨by decide, "a.parquet", rfl, by decide⟩

/-- A file whose record has its path below a dot is found, and it is stray as well. -/
theorem verify_respelled_strays :
    ¬ ∀ (raw : Manifest) (d : Disk) (root : String) (report : VerifyReport), d.IsFileTree →
      root ≠ "" → Disk.Recognized root → raw.StandsAt d root → verify d root = .ok report →
      ∀ path names, report.Located raw d root path names → ofSegments names ∉ report.stray := by
  intro hgeneral
  obtain ⟨d, report, -, htree, hstands, hverify, hdotted, -⟩ := exists_verify_respelled
  have hrecognized : Disk.Recognized "out" := Disk.recognized_of_head? (by decide) (by decide)
  have hiff := mem_stray_iff_of_located htree (by decide) hrecognized.1 hstands hverify hdotted
  have hstray : ofSegments ["a.parquet"] ∈ report.stray :=
    hiff.2 ⟨by decide, "a.parquet", rfl, by decide⟩
  exact hgeneral _ _ _ _ htree (by decide) hrecognized hstands hverify _ _ hdotted hstray

end Manifest

end FixtureMatrix
