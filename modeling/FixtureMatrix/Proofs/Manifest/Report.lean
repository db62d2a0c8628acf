import FixtureMatrix.Proofs.Disk.FileTrees
import FixtureMatrix.Proofs.Manifest.Lookup
import FixtureMatrix.Proofs.Manifest.Reload
import Mathlib.Data.List.Dedup

/-!
# What a verification reports

A report sorts the paths of a manifest by what is found at them, and names the files that
the manifest leaves out.

* `length_findings`: every record is verified, missing or changed.
* `mem_strayFiles_iff_hasParquet`: the files that are stray, under any root that a search
  gets to.
* `verify_describes`: a report is the difference between the manifest and the disk.
* `verify_dotted_strays`: below a root that starts with a dot and has names behind it, a
  file that is listed is reported as stray.
-/

namespace FixtureMatrix

open FixtureMatrix.Path

/-! ## Findings -/

namespace Manifest

variable {m raw : Manifest} {d : Disk} {root path : String} {r : ArtifactRecord}
  {x : ChecksumMismatch}

theorem missing?_finding_iff : (finding d root r).missing? = some path ↔
    d.isFile (join root r.path) = false ∧ r.path = path := by
  rw [← Bool.not_eq_true, Disk.isFile_eq_true_iff]
  unfold finding
  cases d.readFile (join root r.path) with
  | error e => simp [Finding.missing?]
  | ok content =>
    simp only [Except.ok.injEq, exists_eq', not_true_eq_false, false_and, iff_false]
    split <;> simp [Finding.missing?]

theorem mismatched?_finding_iff : (finding d root r).mismatched? = some x ↔
    ∃ content, d.readFile (join root r.path) = .ok content ∧ Sha256.hexDigest content ≠ r.sha256 ∧
      x = ⟨r.path, r.sha256, Sha256.hexDigest content⟩ := by
  unfold finding
  cases d.readFile (join root r.path) with
  | error e => simp [Finding.mismatched?]
  | ok content =>
    simp only [Except.ok.injEq, exists_eq_left']
    split_ifs with hsame
    · simp [Finding.mismatched?, hsame]
    · simp [Finding.mismatched?, hsame, eq_comm]

/-- Every record is verified, missing or changed, and only one of these. -/
theorem length_findings (findings : List Finding) :
    findings.length = findings.countP Finding.isVerified +
      (findings.filterMap Finding.missing?).length +
      (findings.filterMap Finding.mismatched?).length := by
  induction findings with
  | nil => rfl
  | cons finding findings ih =>
    rw [List.countP_cons, List.filterMap_cons, List.filterMap_cons]
    cases finding <;>
      simp only [Finding.isVerified, Finding.missing?, Finding.mismatched?, List.length_cons,
        if_true, Bool.false_eq_true, if_false] <;>
      omega

/-- Where the records are sorted, so is what is kept of their findings. -/
theorem pairwise_findings {α : Type} {kept : Finding → Option α} {name : α → String}
    (hsorted : Sorted m.artifacts)
    (hname : ∀ r a, kept (finding d root r) = some a → name a = r.path) :
    ((m.artifacts.map (finding d root)).filterMap kept).Pairwise fun a b =>
      Text.bytes (name a) < Text.bytes (name b) := by
  rw [List.filterMap_map]
  refine List.Pairwise.filterMap _ (fun r r' hlt a ha b hb => ?_) hsorted
  rw [hname r a ha, hname r' b hb]
  exact Text.bytes_lt_bytes hlt

/-! ## The records that count -/

/-- The record that counts for a path: the last one. -/
def last? (m : Manifest) (path : String) : Option ArtifactRecord :=
  m.artifacts.reverse.find? fun r => r.path = path

theorem path_of_last? (h : raw.last? path = some r) : r.path = path := by
  simpa using List.find?_some h

theorem mem_ofRecords_iff : r ∈ (ofRecords raw.artifacts).artifacts ↔ raw.last? r.path = some r :=
  mem_index_iff raw.artifacts

theorem length_index (rs : List ArtifactRecord) :
    (index rs).length = (rs.map ArtifactRecord.path).dedup.length := by
  have hnodup : ((index rs).map ArtifactRecord.path).Nodup :=
    List.pairwise_map.2 ((index_sorted rs).imp ne_of_lt)
  have hperm : ((index rs).map ArtifactRecord.path).Perm (rs.map ArtifactRecord.path).dedup := by
    rw [List.perm_ext_iff_of_nodup hnodup (List.nodup_dedup _)]
    intro path
    rw [mem_paths_index_iff, List.mem_dedup]
  have hlength := hperm.length_eq
  rwa [List.length_map] at hlength

theorem mem_missing_iff :
    path ∈ ((ofRecords raw.artifacts).artifacts.map (finding d root)).filterMap Finding.missing? ↔
      path ∈ raw.artifacts.map ArtifactRecord.path ∧ d.isFile (join root path) = false := by
  rw [← mem_paths_index_iff, List.mem_filterMap]
  constructor
  · rintro ⟨found, hfound, hmissing⟩
    obtain ⟨r, hr, rfl⟩ := List.mem_map.1 hfound
    obtain ⟨hfile, rfl⟩ := missing?_finding_iff.1 hmissing
    exact ⟨List.mem_map_of_mem hr, hfile⟩
  · rintro ⟨hpath, hfile⟩
    obtain ⟨r, hr, rfl⟩ := List.mem_map.1 hpath
    exact ⟨_, List.mem_map_of_mem hr, missing?_finding_iff.2 ⟨hfile, rfl⟩⟩

theorem mem_mismatched_iff :
    x ∈ ((ofRecords raw.artifacts).artifacts.map (finding d root)).filterMap
        Finding.mismatched? ↔
      ∃ r content, raw.last? r.path = some r ∧ d.readFile (join root r.path) = .ok content ∧
        Sha256.hexDigest content ≠ r.sha256 ∧
        x = ⟨r.path, r.sha256, Sha256.hexDigest content⟩ := by
  rw [List.mem_filterMap]
  constructor
  · rintro ⟨found, hfound, hmismatched⟩
    obtain ⟨r, hr, rfl⟩ := List.mem_map.1 hfound
    obtain ⟨content, hchanged⟩ := mismatched?_finding_iff.1 hmismatched
    exact ⟨r, content, mem_ofRecords_iff.1 hr, hchanged⟩
  · rintro ⟨r, content, hlast, hchanged⟩
    exact ⟨_, List.mem_map_of_mem (mem_ofRecords_iff.2 hlast),
      mismatched?_finding_iff.2 ⟨content, hchanged⟩⟩

/-! ## Stray files -/

/-- The files that are stray, each named by the names that lead down to it, behind those
of the root that are not recognized. -/
theorem mem_strayFiles_iff_hasParquet (htree : d.IsFileTree) (hroot : root ≠ "") {p : Disk.Place}
    (hsearch : d.searchRoot? root = some p) : path ∈ m.strayFiles d root ↔
      path ∉ m.artifacts.map ArtifactRecord.path ∧
        ∃ names, d.HasParquet root names ∧
          path = ofSegments (Disk.unrecognized root ++ names) := by
  rw [mem_strayFiles_iff]
  refine and_congr (by simp) ?_
  have hmem : path ∈ (d.parquetFiles root).map (relativeTo root) ↔ _ :=
    (htree.relative_parquetFiles_perm hroot hsearch).mem_iff
  rw [List.mem_map, List.mem_map] at hmem
  rw [hmem]
  simp only [htree.mem_parquetNames_iff, eq_comm]

/-- Where a manifest can be read, a search gets to its root. -/
theorem exists_searchRoot?_of_standsAt (htree : d.IsTree) (hroot : root ≠ "")
    (hreach : Disk.ReachesRoot root) (hstands : raw.StandsAt d root) :
    ∃ p, d.searchRoot? root = some p := by
  obtain ⟨text, htext, -⟩ := hstands
  obtain ⟨content, hread⟩ := Disk.readFile_of_readText htext
  obtain ⟨hresolve, -⟩ := Disk.readFile_eq_ok_iff.1 hread
  exact Disk.exists_searchRoot? htree hroot hreach isName_manifestFile hresolve

/-- No stray file is reported twice. -/
theorem strayFiles_sorted (htree : d.IsFileTree) (hroot : root ≠ "") (m : Manifest) :
    (m.strayFiles d root).Pairwise fun a b => Text.bytes a < Text.bytes b := by
  have hnodup : (m.strayFiles d root).Nodup := by
    unfold strayFiles
    rw [(List.mergeSort_perm _ _).nodup_iff]
    exact (htree.relative_parquetFiles_nodup hroot).filter _
  have hsorted : (m.strayFiles d root).Pairwise fun a b => a ≤ b := by
    unfold strayFiles
    refine (List.pairwise_mergeSort (fun a b c hab hbc => ?_) (fun a b => ?_) _).imp fun h => ?_
    · simp only [decide_eq_true_eq] at hab hbc ⊢
      exact le_trans hab hbc
    · simp only [Bool.or_eq_true, decide_eq_true_eq]
      exact le_total a b
    · simpa using h
  refine (hsorted.and hnodup).imp fun h => ?_
  exact Text.bytes_lt_bytes (lt_of_le_of_ne h.1 h.2)

end Manifest

/-! ## Reports -/

/-- A report is the difference between a manifest and the files below a root. -/
structure VerifyReport.Describes (report : VerifyReport) (m : Manifest) (d : Disk)
    (root : String) : Prop where
  checked : report.checked = (m.artifacts.map ArtifactRecord.path).dedup.length
  total : report.checked = report.verified + report.missing.length + report.mismatched.length
  missing : ∀ path, path ∈ report.missing ↔
    path ∈ m.artifacts.map ArtifactRecord.path ∧ d.isFile (join root path) = false
  mismatched : ∀ x, x ∈ report.mismatched ↔ ∃ r content, m.last? r.path = some r ∧
    d.readFile (join root r.path) = .ok content ∧ Sha256.hexDigest content ≠ r.sha256 ∧
    x = ⟨r.path, r.sha256, Sha256.hexDigest content⟩
  missingSorted : report.missing.Pairwise fun a b => Text.bytes a < Text.bytes b
  mismatchedSorted : report.mismatched.Pairwise fun x y => Text.bytes x.path < Text.bytes y.path
  straySorted : report.stray.Pairwise fun a b => Text.bytes a < Text.bytes b
  /-- What a search finds is told by its names, if the root is recognized in front of it. -/
  stray : Disk.Recognized root → ∀ path, path ∈ report.stray ↔
    path ∉ m.artifacts.map ArtifactRecord.path ∧
      ∃ names, d.HasParquet root names ∧ path = ofSegments names

theorem VerifyReport.isClean_iff {report : VerifyReport} : report.isClean = true ↔
    report.missing = [] ∧ report.mismatched = [] ∧ report.stray = [] := by
  simp [isClean, and_assoc]

namespace Manifest

variable {raw : Manifest} {d : Disk} {root : String}

/-- A report is clean when every record that counts has its file, and no other file is
there. -/
theorem isClean_of_describes {report : VerifyReport} (h : report.Describes raw d root)
    (hrecognized : Disk.Recognized root) : report.isClean = true ↔
      (∀ path r, raw.last? path = some r → ∃ content, d.readFile (join root path) = .ok content ∧
        Sha256.hexDigest content = r.sha256) ∧
      ∀ names, d.HasParquet root names →
        ofSegments names ∈ raw.artifacts.map ArtifactRecord.path := by
  rw [VerifyReport.isClean_iff]
  simp only [List.eq_nil_iff_forall_not_mem]
  constructor
  · rintro ⟨hmissing, hmismatched, hstray⟩
    refine ⟨fun path r hlast => ?_, fun names hnames => ?_⟩
    · obtain rfl := path_of_last? hlast
      have hlisted : r.path ∈ raw.artifacts.map ArtifactRecord.path :=
        List.mem_map_of_mem (List.mem_reverse.1 (List.mem_of_find?_eq_some hlast))
      have hfile : d.isFile (join root r.path) = true := by
        rw [← Bool.not_eq_false]
        exact fun hnone => hmissing r.path ((h.missing r.path).2 ⟨hlisted, hnone⟩)
      obtain ⟨content, hread⟩ := Disk.isFile_eq_true_iff.1 hfile
      refine ⟨content, hread, ?_⟩
      by_contra hchanged
      exact hmismatched _ ((h.mismatched _).2 ⟨r, content, hlast, hread, hchanged, rfl⟩)
    · by_contra hunlisted
      exact hstray _ ((h.stray hrecognized _).2 ⟨hunlisted, names, hnames, rfl⟩)
  · rintro ⟨hrecords, hfiles⟩
    refine ⟨fun path hpath => ?_, fun x hx => ?_, fun path hpath => ?_⟩
    · obtain ⟨hlisted, hnone⟩ := (h.missing path).1 hpath
      rw [← mem_paths_index_iff] at hlisted
      obtain ⟨r, hr, rfl⟩ := List.mem_map.1 hlisted
      obtain ⟨content, hread, -⟩ := hrecords r.path r ((mem_index_iff raw.artifacts).1 hr)
      rw [Disk.isFile_eq_true_iff.2 ⟨content, hread⟩] at hnone
      cases hnone
    · obtain ⟨r, content, hlast, hread, hchanged, -⟩ := (h.mismatched x).1 hx
      obtain ⟨content', hread', hsame⟩ := hrecords r.path r hlast
      rw [hread] at hread'
      obtain rfl := Except.ok.inj hread'
      exact hchanged hsame
    · obtain ⟨hunlisted, names, hnames, rfl⟩ := (h.stray hrecognized path).1 hpath
      exact hunlisted (hfiles names hnames)

/-- A verification reports exactly the differences between the manifest that stands below
a root and the files there, whatever order its records are in and however often a path
occurs.  It finds no difference when every record that counts has its file, with its
digest, and no other file has the ending that is searched for.

This asks for a root that is recognized in front of what the search finds; the other
parts of the report do not. -/
theorem verify_describes (htree : d.IsFileTree) (hroot : root ≠ "") (hstands : raw.StandsAt d root) :
    ∃ report, verify d root = .ok report ∧ report.Describes raw d root ∧
      (Disk.Recognized root → (report.isClean = true ↔
        (∀ path r, raw.last? path = some r → ∃ content,
          d.readFile (join root path) = .ok content ∧ Sha256.hexDigest content = r.sha256) ∧
        ∀ names, d.HasParquet root names →
          ofSegments names ∈ raw.artifacts.map ArtifactRecord.path)) := by
  have hload : load d root = .ok (ofRecords raw.artifacts) := load_eq_ok_iff.2 ⟨raw, hstands, rfl⟩
  have hsorted := index_sorted raw.artifacts
  suffices hdescribes : VerifyReport.Describes _ raw d root from
    ⟨_, verify_eq hload, hdescribes, isClean_of_describes hdescribes⟩
  constructor
  · exact length_index raw.artifacts
  · rw [← length_findings, List.length_map]
  · exact fun path => mem_missing_iff
  · exact fun x => mem_mismatched_iff
  · exact pairwise_findings hsorted fun r path hpath => (missing?_finding_iff.1 hpath).2.symm
  · refine pairwise_findings hsorted fun r x hx => ?_
    obtain ⟨content, -, -, rfl⟩ := mismatched?_finding_iff.1 hx
    rfl
  · exact strayFiles_sorted htree hroot _
  · rintro ⟨hreach, hrecognized⟩ path
    obtain ⟨p, hsearch⟩ := exists_searchRoot?_of_standsAt htree.toIsTree hroot hreach hstands
    rw [mem_strayFiles_iff_hasParquet htree hroot hsearch, hrecognized]
    simp only [List.nil_append]
    rw [ofRecords, mem_paths_index_iff]

/-- A disk with two files below `out`. -/
def twoFiles : Disk :=
  ⟨[(["work"], .directory), (["work", "out"], .directory), (["work", "out", "sub"], .directory),
    (["work", "out", "a.parquet"], .file "abc".toUTF8),
    (["work", "out", "sub", "d.parquet"], .file "".toUTF8)], ["work"]⟩

theorem isFileTree_twoFiles : twoFiles.IsFileTree := by
  refine ⟨.of_entries rfl ?_ rfl, by decide, by decide⟩
  simp only [twoFiles, List.forall_mem_cons]
  exact ⟨rfl, rfl, rfl, rfl, rfl, by simp⟩

/-- Records out of order, two of them of one path.  The file of that path is gone, and the
other file is as recorded. -/
def unsorted : Manifest :=
  ⟨1, [⟨"c.parquet", "c", "c.parquet", .plain, 1, 1, "first"⟩,
    ⟨"a.parquet", "a", "a.parquet", .plain, 1, 3, Sha256.hexDigest "abc".toUTF8⟩,
    ⟨"c.parquet", "c", "c.parquet", .plain, 2, 2, "last"⟩]⟩

/-- A manifest that is written into `out` changes nothing else. -/
theorem exists_write_twoFiles {m : Manifest} (hversion : m.version < Nat.pow 2 32)
    (hfits : ∀ r ∈ m.artifacts, r.Fits) (root : String) (hroot : twoFiles.HasDirectory root)
    (htarget : twoFiles.target root = ["work", "out"]) :
    ∃ d, m.write root twoFiles = .ok (join root manifestFile, d) ∧ m.StandsAt d root ∧
      d.IsFileTree ∧ Disk.WritesOnly [["work", "out", "manifest.json"]] twoFiles d ∧
      ∀ key, key ≠ ["work", "out", "manifest.json"] → d.lookup key = twoFiles.lookup key := by
  have hmanifest : twoFiles.target (join root manifestFile) = ["work", "out", "manifest.json"] := by
    rw [Disk.target_manifest, htarget]
    rfl
  have hfree : twoFiles.lookup ["work", "out", "manifest.json"] = none := rfl
  have hplace : twoFiles.lookup (twoFiles.target (join root manifestFile)) ≠ some .directory := by
    rw [hmanifest, hfree]
    exact (Option.some_ne_none Entry.directory).symm
  obtain ⟨d, hwrite⟩ := exists_write m hroot hplace
  obtain ⟨-, hfile⟩ := write_eq_ok hwrite
  have hwrites := Disk.WritesOnly.writeFile hfile
  rw [hmanifest] at hwrites
  refine ⟨d, hwrite, standsAt_of_write hversion hfits hwrite,
    isFileTree_twoFiles.writeFile hfile, hwrites, fun key hkey => ?_⟩
  obtain ⟨-, -, rfl⟩ := Disk.writeFile_eq_ok hfile
  rw [hmanifest]
  exact Disk.lookup_put_of_ne twoFiles _ hkey

/-- The manifest of these records, written into `out`, changes nothing else. -/
theorem exists_write_unsorted (root : String) (hroot : twoFiles.HasDirectory root)
    (htarget : twoFiles.target root = ["work", "out"]) :
    ∃ d, unsorted.write root twoFiles = .ok (join root manifestFile, d) ∧
      unsorted.StandsAt d root ∧ d.IsFileTree ∧ (∀ path, d.target path = twoFiles.target path) ∧
      ∀ key, key ≠ ["work", "out", "manifest.json"] → d.lookup key = twoFiles.lookup key := by
  obtain ⟨d, hwrite, hstands, htree, hwrites, hlookup⟩ :=
    exists_write_twoFiles (m := unsorted) (by decide) (by decide) root hroot htarget
  exact ⟨d, hwrite, hstands, htree, hwrites.target, hlookup⟩

/-- Two paths are checked; one file is missing, and one is stray. -/
theorem verify_describes_unsorted :
    ∃ d report, unsorted.write "out" twoFiles = .ok ("out/manifest.json", d) ∧
      verify d "out" = .ok report ∧ report.checked = 2 ∧ "c.parquet" ∈ report.missing ∧
      "sub/d.parquet" ∈ report.stray ∧ report.isClean = false := by
  obtain ⟨d, hwrite, hstands, htree, htarget, hlookup⟩ :=
    exists_write_unsorted "out" (Or.inr (by decide +kernel)) (by decide +kernel)
  obtain ⟨report, hverify, hdescribes, -⟩ := verify_describes htree (by decide) hstands
  have hmissing : "c.parquet" ∈ report.missing := by
    refine (hdescribes.missing _).2 ⟨by decide, ?_⟩
    rw [← Bool.not_eq_true, Disk.isFile_eq_true_iff]
    rintro ⟨content, hread⟩
    have hfile := (Disk.readFile_eq_ok_iff.1 hread).2
    have hkey : twoFiles.target (join "out" "c.parquet") = ["work", "out", "c.parquet"] := by
      decide +kernel
    rw [htarget, hkey, hlookup _ (by decide)] at hfile
    cases hfile
  have hstray : "sub/d.parquet" ∈ report.stray := by
    refine (hdescribes.stray (Disk.recognized_of_head? (by decide) (by decide)) _).2
      ⟨by decide, ["sub", "d.parquet"], ⟨⟨"d.parquet", rfl, by decide⟩, "".toUTF8, ?_⟩, rfl⟩
    have hkey : twoFiles.target "out" = ["work", "out"] := by decide +kernel
    rw [htarget, hkey, hlookup _ (by decide)]
    rfl
  refine ⟨d, report, hwrite, hverify, hdescribes.checked, hmissing, hstray, ?_⟩
  rw [Bool.eq_false_iff]
  intro hclean
  rw [(VerifyReport.isClean_iff.1 hclean).1] at hmissing
  cases hmissing

/-- Below `./out` the file that is listed is stray, under a path that no file below the
root has. -/
theorem verify_dotted_strays :
    ∃ d report, unsorted.write "./out" twoFiles = .ok ("./out/manifest.json", d) ∧
      d.IsFileTree ∧ unsorted.StandsAt d "./out" ∧ verify d "./out" = .ok report ∧
      "out/a.parquet" ∈ report.stray ∧
      ¬ ∃ names, d.HasParquet "./out" names ∧ "out/a.parquet" = ofSegments names := by
  obtain ⟨d, hwrite, hstands, htree, htarget, hlookup⟩ :=
    exists_write_unsorted "./out" (Or.inr (by decide +kernel)) (by decide +kernel)
  have hload : load d "./out" = .ok (ofRecords unsorted.artifacts) :=
    load_eq_ok_iff.2 ⟨unsorted, hstands, rfl⟩
  have hkey : d.target "./out" = ["work", "out"] := by
    rw [htarget]
    decide +kernel
  refine ⟨d, _, hwrite, htree, hstands, verify_eq hload, ?_, ?_⟩
  · obtain ⟨p, hsearch⟩ := exists_searchRoot?_of_standsAt htree.toIsTree (by decide)
      (Or.inr (by decide)) hstands
    rw [mem_strayFiles_iff_hasParquet htree (by decide) hsearch, ofRecords, mem_paths_index_iff]
    refine ⟨by decide, ["a.parquet"], ⟨⟨"a.parquet", rfl, by decide⟩, "abc".toUTF8, ?_⟩,
      by decide +kernel⟩
    rw [hkey, hlookup _ (by decide)]
    rfl
  · rintro ⟨names, hnames, hpath⟩
    have hplain := htree.isName_of_hasParquet hnames
    have hsegments := congrArg segments hpath
    rw [segments_ofSegments hnames.ne_nil fun name hname => (hplain name hname).no_slash]
      at hsegments
    have hout : segments "out/a.parquet" = ["out", "a.parquet"] := by decide
    obtain ⟨-, content, hfile⟩ := hnames
    rw [← hsegments, hout, hkey, hlookup _ (by decide)] at hfile
    cases hfile

end Manifest

end FixtureMatrix
