import FixtureMatrix.Manifest.Disk
import FixtureMatrix.Proofs.Disk.Search
import FixtureMatrix.Proofs.Disk.Writes
import FixtureMatrix.Proofs.Manifest.Text

/-!
# Verifying a manifest

* `load_eq_ok_iff`, `load_of_write`: a manifest is loaded with its records indexed,
  also one that was written.
* `verify_eq`: a verification that can load its manifest has a report.
* `verify_of_digests`: where all files are as recorded, it counts them and finds
  nothing missing or changed.
* `strayFiles_eq_nil`: it finds no stray file either, if all that a search finds
  is listed.
-/

namespace FixtureMatrix

theorem Disk.digest_eq_ok_iff {d : Disk} {path sha256 : String} {size : Nat} :
    d.digest path = .ok (sha256, size) ↔
      ∃ content, d.readFile path = .ok content ∧ Sha256.hexDigest content = sha256 ∧
        content.size = size := by
  rw [digest, bind_eq_ok_iff]
  simp

theorem Disk.readText_of_toUTF8 {d : Disk} {path s : String} (h : d.readFile path = .ok s.toUTF8) :
    d.readText path = .ok s := by
  have hback : String.fromUTF8? s.toUTF8 = some s := by
    rw [String.toUTF8_eq_toByteArray, String.fromUTF8?, dif_pos s.isValidUTF8]
    rfl
  rw [readText, h]
  simp only [bind, Except.bind, hback]
  rfl

theorem Disk.readFile_of_readText {d : Disk} {path s : String} (h : d.readText path = .ok s) :
    ∃ content, d.readFile path = .ok content := by
  rw [readText, bind_eq_ok_iff] at h
  obtain ⟨content, hread, -⟩ := h
  exact ⟨content, hread⟩

/-- A path leads to a file exactly when a file can be read there. -/
theorem Disk.isFile_eq_true_iff {d : Disk} {path : String} :
    d.isFile path = true ↔ ∃ content, d.readFile path = .ok content := by
  rw [isFile, readFile]
  cases d.stat path with
  | error e => simp [bind, Except.bind]
  | ok e => cases e <;> simp [bind, Except.bind, pure, Except.pure]

namespace Manifest

variable {m : Manifest} {root path : String} {d d' : Disk} {r : ArtifactRecord}

/-- Writing a manifest writes its text at its path. -/
theorem write_eq_ok (h : m.write root d = .ok (path, d')) :
    path = Path.join root manifestFile ∧
      d.writeFile (Path.join root manifestFile) m.text.toUTF8 = .ok d' := by
  rw [write] at h
  split at h
  · next hwrite =>
    obtain ⟨rfl, rfl⟩ := Prod.mk.inj (Except.ok.inj h)
    exact ⟨rfl, hwrite⟩
  · cases h

/-! ## Loading -/

/-- The manifest that a file below a root holds, with its records in any order and with
repeated paths. -/
def StandsAt (m : Manifest) (d : Disk) (root : String) : Prop :=
  ∃ text, d.readText (Path.join root manifestFile) = .ok text ∧
    Document.JsonText.decode (Manifest.decode Document.JsonText.dialect) text.toList = .ok m

/-- A manifest is loaded with the records of its file indexed. -/
theorem load_eq_ok_iff :
    load d root = .ok m ↔ ∃ raw : Manifest, raw.StandsAt d root ∧ m = ofRecords raw.artifacts := by
  unfold load StandsAt
  cases hread : d.readText (Path.join root manifestFile) with
  | error e => simp only [hread, reduceCtorEq, false_and, exists_false]
  | ok text =>
    cases hdecode : Document.JsonText.decode (Manifest.decode Document.JsonText.dialect)
      text.toList with
    | error message => simp [hread, parse, hdecode, bind, Except.bind]
    | ok raw => simp [hread, parse, hdecode, bind, Except.bind, pure, Except.pure, eq_comm]

theorem standsAt_of_write (hversion : m.version < Nat.pow 2 32) (hfits : ∀ r ∈ m.artifacts, r.Fits)
    (h : m.write root d = .ok (path, d')) : m.StandsAt d' root := by
  obtain ⟨-, hwrite⟩ := write_eq_ok h
  exact ⟨m.text, Disk.readText_of_toUTF8 (Disk.readFile_writeFile hwrite),
    decode_text hversion hfits⟩

/-- A manifest that was written is loaded again, with its records sorted. -/
theorem load_of_write (hversion : m.version < Nat.pow 2 32) (hfits : ∀ r ∈ m.artifacts, r.Fits)
    (h : m.write root d = .ok (path, d')) : load d' root = .ok (ofRecords m.artifacts) :=
  load_eq_ok_iff.2 ⟨m, standsAt_of_write hversion hfits h, rfl⟩

/-! ## Comparing -/

/-- What comparing a record with a disk shows. -/
def finding (d : Disk) (root : String) (r : ArtifactRecord) : Finding :=
  match d.readFile (Path.join root r.path) with
  | .error _ => .missing r.path
  | .ok content =>
    if Sha256.hexDigest content = r.sha256 then .verified
    else .mismatched ⟨r.path, r.sha256, Sha256.hexDigest content⟩

/-- No comparison fails: what is a file can be read. -/
theorem inspect_eq (d : Disk) (root : String) (r : ArtifactRecord) :
    inspect d root r = .ok (finding d root r) := by
  unfold inspect finding
  cases hread : d.readFile (Path.join root r.path) with
  | error e =>
    have hmissing : ¬ d.isFile (Path.join root r.path) = true := by
      rw [Disk.isFile_eq_true_iff, hread]
      rintro ⟨content, hcontent⟩
      cases hcontent
    exact if_neg hmissing
  | ok content =>
    have hfile := Disk.isFile_eq_true_iff.2 ⟨content, hread⟩
    have hdigest := Disk.digest_eq_ok_iff.2 ⟨content, hread, rfl, rfl⟩
    simp only [hfile, if_true, hdigest]
    split <;> rfl

theorem verify_eq (hload : load d root = .ok m) :
    verify d root = .ok {
      checked := m.artifacts.length
      verified := (m.artifacts.map (finding d root)).countP Finding.isVerified
      missing := (m.artifacts.map (finding d root)).filterMap Finding.missing?
      mismatched := (m.artifacts.map (finding d root)).filterMap Finding.mismatched?
      stray := m.strayFiles d root } := by
  rw [verify, hload]
  simp only [bind, Except.bind, mapM_eq_ok fun r _ => inspect_eq d root r]
  rfl

theorem verify_of_digests (hload : load d root = .ok m)
    (h : ∀ r ∈ m.artifacts, d.digest (Path.join root r.path) = .ok (r.sha256, r.bytes)) :
    verify d root = .ok {
      checked := m.artifacts.length
      verified := m.artifacts.length
      missing := []
      mismatched := []
      stray := m.strayFiles d root } := by
  have hfinding : ∀ r ∈ m.artifacts, finding d root r = .verified := by
    intro r hr
    obtain ⟨content, hread, hsha, -⟩ := Disk.digest_eq_ok_iff.1 (h r hr)
    simp only [finding, hread, hsha, if_true]
  have hfindings : m.artifacts.map (finding d root) =
      List.replicate m.artifacts.length Finding.verified := by
    rw [List.map_congr_left hfinding, List.map_const']
  have hcount : (List.replicate m.artifacts.length Finding.verified).countP
      Finding.isVerified = m.artifacts.length := by
    simp [List.countP_replicate, Finding.isVerified]
  rw [verify_eq hload, hfindings, hcount]
  simp only [List.filterMap_replicate, Finding.missing?, Finding.mismatched?]

/-! ## Stray files -/

theorem mem_strayFiles_iff : path ∈ m.strayFiles d root ↔
    (∀ r ∈ m.artifacts, r.path ≠ path) ∧
      ∃ found ∈ d.parquetFiles root, Path.relativeTo root found = path := by
  simp only [strayFiles, List.mem_mergeSort, List.mem_filter, List.mem_map, Bool.not_eq_true',
    lists_eq_false_iff]
  exact and_comm

/-- Where all that is found is listed, no file is stray. -/
theorem strayFiles_eq_nil
    (h : ∀ found ∈ d.parquetFiles root, ∃ r ∈ m.artifacts, r.path = Path.relativeTo root found) :
    m.strayFiles d root = [] := by
  rw [List.eq_nil_iff_forall_not_mem]
  intro path hpath
  obtain ⟨hunlisted, found, hfound, rfl⟩ := mem_strayFiles_iff.1 hpath
  obtain ⟨r, hr, heq⟩ := h found hfound
  exact hunlisted r hr heq

end Manifest

end FixtureMatrix
