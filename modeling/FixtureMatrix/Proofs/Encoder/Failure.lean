import FixtureMatrix.Encoder.Storage
import FixtureMatrix.Proofs.Columnar.Layout
import FixtureMatrix.Proofs.Disk.Writes
import FixtureMatrix.Proofs.Disk.Trees

/-!
# Encodings that fail

The encoder that stores files lays out all columns before it creates the file, and
looks at the schema as the format sees it only behind that.

* `anyEmptyStruct_eq_false_iff`: the format can hold the schemas in which every
  struct has members.
* `storeFile_eq_error_iff`: why an encoding fails, and what it leaves.
* `storing_error_leaves`: the disk stays as it was, unless the schema has a struct
  without members.
-/

namespace FixtureMatrix

/-! ## Schemas that the format can hold -/

mutual

theorem LogicalType.hasEmptyStruct_eq_false_iff {name : String} :
    ∀ {t : LogicalType} {u : ArrayType}, t.arrayType name = .ok u →
      (u.hasEmptyStruct = false ↔ t.NoEmptyStruct)
  | .list item, u, h => by
    obtain ⟨g, hg, rfl⟩ := LogicalType.arrayType_list_eq_ok_iff.1 h
    rw [ArrayType.hasEmptyStruct, LogicalType.noEmptyStruct_list,
      Field.hasEmptyStruct_eq_false_iff hg]
  | .struct members, u, h => by
    obtain ⟨gs, hgs, rfl⟩ := LogicalType.arrayType_struct_eq_ok_iff.1 h
    rw [ArrayType.hasEmptyStruct, LogicalType.noEmptyStruct_struct, Bool.or_eq_false_iff,
      Field.anyEmptyStruct_eq_false_iff hgs, List.isEmpty_eq_false_iff,
      Field.arrayFields_ne_nil_iff hgs]
  | .decimal _ _, u, h => by
    obtain ⟨stored, -, rfl⟩ := LogicalType.arrayType_decimal_eq_ok_iff.1 h
    simp [ArrayType.hasEmptyStruct, LogicalType.NoEmptyStruct, LogicalType.inside]
  | .bool, u, h | .int16, u, h | .int64, u, h | .uint32, u, h | .float64, u, h | .utf8, u, h
  | .largeBinary, u, h | .timestamp _ _, u, h => by
    rw [LogicalType.arrayType] at h
    cases h
    simp [ArrayType.hasEmptyStruct, LogicalType.NoEmptyStruct, LogicalType.inside]

theorem Field.hasEmptyStruct_eq_false_iff :
    ∀ {f : Field} {g : ArrayField}, f.arrayField = .ok g →
      (g.hasEmptyStruct = false ↔ f.NoEmptyStruct)
  | .mk _ type _, .mk _ type' _, h => by
    obtain ⟨-, -, htype⟩ := Field.arrayField_eq_ok_iff.1 h
    rw [ArrayField.hasEmptyStruct]
    exact LogicalType.hasEmptyStruct_eq_false_iff htype

theorem Field.anyEmptyStruct_eq_false_iff :
    ∀ {fs : List Field} {gs : List ArrayField}, Field.arrayFields fs = .ok gs →
      (ArrayField.anyEmptyStruct gs = false ↔ ∀ f ∈ fs, f.NoEmptyStruct)
  | [], gs, h => by
    rw [Field.arrayFields_nil_eq_ok_iff.1 h]
    simp [ArrayField.anyEmptyStruct]
  | f :: fs, gs, h => by
    obtain ⟨g, hs, hg, hhs, rfl⟩ := Field.arrayFields_cons_eq_ok_iff.1 h
    rw [ArrayField.anyEmptyStruct, Bool.or_eq_false_iff, Field.hasEmptyStruct_eq_false_iff hg,
      Field.anyEmptyStruct_eq_false_iff hhs, List.forall_mem_cons]

end

/-- The format can hold a batch exactly when every struct of its case's schema has
members. -/
theorem Batch.anyEmptyStruct_eq_false_iff {schema : Schema} {columns : List Column} {b : Batch}
    (h : Batch.build schema columns = .ok b) :
    ArrayField.anyEmptyStruct b.schema.fields = false ↔
      ∀ f ∈ schema.fields, f.NoEmptyStruct := by
  obtain ⟨-, -, hschema, -⟩ := Batch.build_eq_ok h
  exact Field.anyEmptyStruct_eq_false_iff (Schema.arraySchema_eq_ok_iff.1 hschema)

/-! ## Causes and what they leave -/

namespace Encoder

variable {rowGroupSize : Nat} {r : EncodeRequest} {e : EncodeError}
  {w w' : World (storing rowGroupSize).State}

/-- A file is not stored because the columns cannot be laid out or the file cannot be
created, and then nothing was done; or because the format cannot hold the schema, and
then the file was created. -/
theorem storeFile_eq_error_iff {d d' : Disk} : storeFile rowGroupSize r d = (d', .error e) ↔
    (∃ cause, Batch.build r.schema r.columns = .error cause ∧ e = .layout cause ∧ d' = d) ∨
    ∃ batch, Batch.build r.schema r.columns = .ok batch ∧
      ((∃ cause, d.writeFile r.path ByteArray.empty = .error cause ∧ e = .io cause ∧ d' = d) ∨
        (d.writeFile r.path ByteArray.empty = .ok d' ∧ e = .emptyStruct ∧
          ¬ ∀ f ∈ r.schema.fields, f.NoEmptyStruct)) := by
  rw [storeFile]
  constructor
  · intro h
    split at h
    · next cause hbuild =>
      cases h
      exact Or.inl ⟨cause, hbuild, rfl, rfl⟩
    next batch hbuild =>
      refine Or.inr ⟨batch, hbuild, ?_⟩
      split at h
      · next cause hcreate =>
        cases h
        exact Or.inl ⟨cause, hcreate, rfl, rfl⟩
      next created hcreate =>
        split_ifs at h with hempty
        · cases h
          refine Or.inr ⟨hcreate, rfl, ?_⟩
          rw [← Batch.anyEmptyStruct_eq_false_iff hbuild, hempty]
          simp
        · split at h
          · cases h
          next p hproperties =>
            -- what could be created can be written
            obtain ⟨_, _, -, hwrite, -⟩ := Disk.writeFile_again hcreate (batch.fileBytes p)
            rw [hwrite] at h
            cases h
  · rintro (⟨cause, hbuild, rfl, rfl⟩ |
      ⟨batch, hbuild, ⟨cause, hcreate, rfl, rfl⟩ | ⟨hcreate, rfl, hempty⟩⟩)
    · rw [hbuild]
    · simp only [hbuild, hcreate]
    · rw [← Batch.anyEmptyStruct_eq_false_iff hbuild, Bool.not_eq_false] at hempty
      simp only [hbuild, hcreate, hempty, if_true]

/-- An encoding that fails leaves the whole disk as it was if every struct of the
schema has members, and so it does with every error but the one for those that
have none.  With this one the file was created: it is empty now, whatever it held,
and all else is as it was. -/
theorem storing_error_leaves (h : (storing rowGroupSize).encode r w = (w', .error e)) :
    ((∀ f ∈ r.schema.fields, f.NoEmptyStruct) → w'.disk = w.disk) ∧
    (e ≠ .emptyStruct → w'.disk = w.disk) ∧
    (e = .emptyStruct → w'.disk.readFile r.path = .ok ByteArray.empty ∧
      ∀ key, key ≠ w.disk.target r.path → w'.disk.lookup key = w.disk.lookup key) := by
  rcases storeFile_eq_error_iff.1 (storing_eq_iff.1 h) with ⟨cause, -, rfl, hsame⟩ |
    ⟨batch, -, ⟨cause, -, rfl, hsame⟩ | ⟨hcreate, rfl, hempty⟩⟩
  · exact ⟨fun _ => hsame, fun _ => hsame, fun hcause => by cases hcause⟩
  · exact ⟨fun _ => hsame, fun _ => hsame, fun hcause => by cases hcause⟩
  · refine ⟨fun hall => absurd hall hempty, fun hcause => absurd rfl hcause, fun _ => ?_⟩
    refine ⟨Disk.readFile_writeFile hcreate, fun key hkey => ?_⟩
    obtain ⟨-, -, hput⟩ := Disk.writeFile_eq_ok hcreate
    rw [hput]
    exact Disk.lookup_put_of_ne w.disk _ hkey

/-! ## Encodings over a file -/

/-- A disk with a file of an earlier encoding. -/
def withEarlierFile : Disk :=
  ⟨[(["work"], .directory), (["work", "a.parquet"], .file "PAR1".toUTF8)], ["work"]⟩

/-- A request for the earlier file. -/
def requestOver (fields : List Field) (columns : List Column) : EncodeRequest where
  schema := ⟨fields⟩
  columns := columns
  path := "a.parquet"
  pageVersion := .v1
  dictionary := false
  compression := .none
  sizing := ⟨Nat.pow 2 20, none⟩
  writeStatistics := true

/-- A null that may not stand in a list is found while the columns are laid out, and
the earlier file stays. -/
theorem storing_error_leaves_nullItem :
    ∃ w' cause, (storing maxRowGroupSize).encode
      (requestOver [.optional "l" (.list (.required "item" .int64))]
        [⟨"l", [.null, .list [.int 1, .null]]⟩]) ⟨(), withEarlierFile⟩ =
        (w', .error (.layout cause)) ∧
      w'.disk.readFile "a.parquet" = .ok "PAR1".toUTF8 := by
  obtain ⟨w', cause, h⟩ : ∃ w' cause, (storing maxRowGroupSize).encode
      (requestOver [.optional "l" (.list (.required "item" .int64))]
        [⟨"l", [.null, .list [.int 1, .null]]⟩]) ⟨(), withEarlierFile⟩ =
        (w', .error (.layout cause)) := ⟨_, _, rfl⟩
  have hsame : w'.disk = withEarlierFile := (storing_error_leaves h).2.1 (by simp)
  refine ⟨w', cause, h, ?_⟩
  rw [hsame]
  rfl

/-- A struct without members is found behind that, and the earlier file is lost. -/
theorem storing_emptyStruct_truncates :
    ∃ w', (storing maxRowGroupSize).encode
      (requestOver [.optional "a" (.struct [])] [⟨"a", [.struct []]⟩]) ⟨(), withEarlierFile⟩ =
        (w', .error .emptyStruct) ∧
      withEarlierFile.readFile "a.parquet" = .ok "PAR1".toUTF8 ∧
      w'.disk.readFile "a.parquet" = .ok ByteArray.empty :=
  ⟨_, rfl, rfl, rfl⟩

end Encoder

end FixtureMatrix
