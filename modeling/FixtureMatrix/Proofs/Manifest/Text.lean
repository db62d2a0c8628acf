import FixtureMatrix.Document.Manifest
import FixtureMatrix.Proofs.Document.Records
import FixtureMatrix.Proofs.Manifest.Index

/-!
# Reading manifests back

* `ArtifactRecord.reads_toJson`, `reads_toJson`: a written record, and a
  written manifest, is decoded as itself.
* `decode_text`: the text of a manifest is decoded to the manifest.

The numbers have to fit the words they are read into.
-/

namespace FixtureMatrix

open Document.JsonText

namespace ArtifactRecord

/-- A record whose numbers fit words of 64 bits. -/
def Fits (r : ArtifactRecord) : Prop :=
  r.rows < wordLimit ∧ r.bytes < wordLimit

instance (r : ArtifactRecord) : Decidable r.Fits :=
  inferInstanceAs (Decidable (r.rows < wordLimit ∧ r.bytes < wordLimit))

variable {r : ArtifactRecord}

theorem reads_toJson (h : r.Fits) : Reads (ArtifactRecord.decode dialect) r.toJson r := by
  intro v hv
  have hfills : Fills (shape dialect).fields
      [("path", .str r.path), ("case", .str r.case), ("file_name", .str r.fileName),
        ("profile", r.profile.toJson), ("rows", .nat r.rows), ("bytes", .nat r.bytes),
        ("sha256", .str r.sha256)] {}
      ⟨some r.path, some r.case, some r.fileName, some r.profile, some r.rows, some r.bytes,
        some r.sha256⟩ :=
    .cons ((reads_string _ _).field _) <| .cons ((reads_string _ _).field _) <|
      .cons ((reads_string _ _).field _) <| .cons (r.profile.reads_toJson.field _) <|
      .cons ((reads_unsigned h.1 _).field _) <| .cons ((reads_unsigned h.2 _).field _) <|
      .cons ((reads_string _ _).field _) .nil
  have hread : dialect.record (shape dialect) {} v = _ :=
    reads_record (by decide) hfills rfl v hv
  rw [ArtifactRecord.decode, hread]
  rfl

theorem exact_toJson (h : r.Fits) : r.toJson.Exact := by
  have hversion : r.profile.pageVersion.number < Nat.pow 2 64 := by
    cases r.profile.pageVersion <;> decide
  simp only [toJson, Profile.toJson, PageVersion.toJson, PageLayout.toJson, Compression.toJson,
    Json.Exact, Json.ExactEntries, true_and, and_true]
  exact ⟨Json.exact_nat hversion, Json.exact_nat h.1, Json.exact_nat h.2⟩

end ArtifactRecord

namespace Manifest

variable {m : Manifest}

theorem reads_toJson (hversion : m.version < Nat.pow 2 32) (h : ∀ r ∈ m.artifacts, r.Fits) :
    Reads (Manifest.decode dialect) m.toJson m := by
  intro v hv
  have hfills : Fills (shape dialect).fields
      [("version", .nat m.version), ("artifacts", .ofList ArtifactRecord.toJson m.artifacts)] {}
      ⟨some m.version, some m.artifacts⟩ :=
    .cons ((reads_unsigned hversion _).field _) <|
      .cons ((reads_list fun r hr => ArtifactRecord.reads_toJson (h r hr)).field _) .nil
  have hread : dialect.record (shape dialect) {} v = _ :=
    reads_record (by decide) hfills rfl v hv
  rw [Manifest.decode, hread]
  rfl

theorem exact_toJson (hversion : m.version < Nat.pow 2 32) (h : ∀ r ∈ m.artifacts, r.Fits) :
    m.toJson.Exact := by
  have hword : m.version < Nat.pow 2 64 := Nat.lt_trans hversion (by decide)
  have hitems : ∀ j ∈ m.artifacts.map ArtifactRecord.toJson, j.Exact := by
    intro j hj
    obtain ⟨r, hr, rfl⟩ := List.mem_map.1 hj
    exact ArtifactRecord.exact_toJson (h r hr)
  simp only [toJson, Json.Exact, Json.ExactEntries, Json.ofList, and_true]
  exact ⟨Json.exact_nat hword, Json.exactItems_iff.2 hitems⟩

/-- The text of a manifest is decoded to the manifest. -/
theorem decode_text (hversion : m.version < Nat.pow 2 32) (h : ∀ r ∈ m.artifacts, r.Fits) :
    Document.JsonText.decode (Manifest.decode dialect) m.text.toList = .ok m := by
  have htext : m.text.toList = m.toJson.pretty 0 ++ ['\n'] := by
    simp [text, Json.prettyText]
  have hspace : ∀ c ∈ ['\n'], Json.isSpace c = true := by
    intro c hc
    rw [List.mem_singleton.1 hc]
    rfl
  obtain ⟨hroot, hsurplus⟩ := Json.read_pretty (exact_toJson hversion h) hspace
  simp only [Document.JsonText.decode, htext, reads_toJson hversion h _ hroot, hsurplus]

end Manifest

end FixtureMatrix
