import FixtureMatrix.Proofs.Columnar.Storable

/-!
# Valid cases are those that can be encoded

Checking a case goes row by row and looks at a null before anything else; laying
it out goes column by column and checks the arrays that come out.  Both accept
the same cases, where each column has the name of its field.

* `validate_iff_exists_batch`: a case is valid exactly when a batch can be built
  from it.
-/

namespace FixtureMatrix

namespace Batch

variable {as : List ColumnArray} {gs : List ArrayField}

/-- The arrays of columns, checked for nulls and for a common length, as one
condition. -/
theorem exists_buildArrays_iff {n : Nat} : ∀ {fs : List Field} {cs : List Column},
    cs.map Column.name = fs.map Field.name → (∀ f ∈ fs, f.NoEmptyStruct) →
    (∀ p ∈ fs.zip cs, p.1.OffsetsFit p.2.values) →
    ((∃ as gs, buildArrays fs cs = .ok as ∧ Field.arrayFields fs = .ok gs ∧
        checkNulls gs as = .ok () ∧ ∀ a ∈ as, a.length = n) ↔
      (∀ f ∈ fs, f.DecimalsSupported) ∧ List.Forall₂ (Field.Fits n) fs cs)
  | [], [], _, _, _ => by simp [buildArrays, Field.arrayFields, checkNulls]
  | [], c :: cs, hnames, _, _ => by simp at hnames
  | f :: fs, [], hnames, _, _ => by simp at hnames
  | f :: fs, c :: cs, hnames, hne, hfit => by
    rw [List.map_cons, List.map_cons, List.cons.injEq] at hnames
    rw [List.forall_mem_cons] at hne ⊢
    rw [List.zip_cons_cons, List.forall_mem_cons] at hfit
    have harray := Field.exists_buildArray_iff hne.1 hfit.1
    have hrest := exists_buildArrays_iff (n := n) hnames.2 hne.2 hfit.2
    rw [List.forall₂_cons, and_and_and_comm, ← hrest]
    simp only [buildArrays_cons_eq_ok_iff, Field.arrayFields_cons_eq_ok_iff]
    constructor
    · rintro ⟨as, gs, ⟨b, bs, hb, hbs, rfl⟩, ⟨g, gs, hg, hgs, rfl⟩, hnulls, hlengths⟩
      rw [checkNulls, guard_eq_ok_iff, (Field.arrayField_eq_ok_iff.1 hg).2.1,
        Field.nullCount_check_iff hne.1 hb] at hnulls
      rw [List.forall_mem_cons] at hlengths
      obtain ⟨hdecimals, hstores⟩ := harray.1 ⟨b, hb⟩
      have hlength := Field.length_of_buildArray hne.1 hb
      refine ⟨⟨hdecimals, hnames.1.symm, hlength.symm.trans hlengths.1, fun v hv => ?_⟩,
        bs, gs, hbs, hgs, hnulls.2, hlengths.2⟩
      exact Field.admits_iff_stores.2 ⟨hstores v hv, hnulls.1 v hv⟩
    · rintro ⟨⟨hdecimals, -, hlen, hadmits⟩, bs, gs, hbs, hgs, hnulls, hlengths⟩
      have hboth := fun v hv => Field.admits_iff_stores.1 (hadmits v hv)
      obtain ⟨b, hb⟩ := harray.2 ⟨hdecimals, fun v hv => (hboth v hv).1⟩
      have hg := Field.arrayField_of_buildArray hb
      refine ⟨_, _, ⟨b, bs, hb, hbs, rfl⟩, ⟨_, gs, hg, hgs, rfl⟩, ?_, ?_⟩
      · rw [checkNulls, guard_eq_ok_iff, ArrayField.nullable_mk,
          Field.nullCount_check_iff hne.1 hb]
        exact ⟨fun v hv => (hboth v hv).2, hnulls⟩
      · rw [List.forall_mem_cons]
        exact ⟨(Field.length_of_buildArray hne.1 hb).trans hlen, hlengths⟩

/-- The first array is as long as the first column. -/
theorem length_head?_buildArrays {f : Field} {fs : List Field} {c : Column} {cs : List Column}
    {as : List ColumnArray} (hne : f.NoEmptyStruct)
    (h : buildArrays (f :: fs) (c :: cs) = .ok as) :
    as.head?.map ColumnArray.length = some c.values.length := by
  obtain ⟨b, bs, hb, -, rfl⟩ := buildArrays_cons_eq_ok_iff.1 h
  simp [Field.length_of_buildArray hne hb]

theorem exists_ofArrays_iff {n : Nat} (hfirst : as.head?.map ColumnArray.length = some n)
    (htypes : checkTypes 0 gs as = .ok ()) :
    (∃ b, ofArrays ⟨gs⟩ as = .ok b) ↔ checkNulls gs as = .ok () ∧ ∀ a ∈ as, a.length = n := by
  cases as with
  | nil => simp at hfirst
  | cons first rest =>
    have hn : first.length = n := by simpa using hfirst
    rw [ofArrays]
    simp only [bind_eq_ok_iff, List.forall_mem_cons, hn, true_and, htypes]
    constructor
    · rintro ⟨b, ⟨⟩, hnulls, hb⟩
      split at hb
      · rename_i hall
        exact ⟨hnulls, by simpa using hall⟩
      · cases hb
    · rintro ⟨hnulls, hall⟩
      exact ⟨_, (), hnulls, if_pos (by simpa using hall)⟩

theorem exists_build_iff {schema : Schema} {columns : List Column}
    (hlen : schema.fields.length = columns.length) :
    (∃ b, build schema columns = .ok b) ↔
      ∃ as gs, buildArrays schema.fields columns = .ok as ∧
        Field.arrayFields schema.fields = .ok gs ∧ ∃ b, ofArrays ⟨gs⟩ as = .ok b := by
  unfold build
  simp only [ne_eq, hlen, not_true_eq_false, if_false, bind_eq_ok_iff,
    Schema.arraySchema_eq_ok_iff]
  constructor
  · rintro ⟨b, as, has, schema, hgs, hb⟩
    exact ⟨as, schema.fields, has, hgs, b, hb⟩
  · rintro ⟨as, gs, has, hgs, b, hb⟩
    exact ⟨b, as, has, ⟨gs⟩, hgs, hb⟩

end Batch

namespace FixtureCase

/-- The checks of a case and the encoder accept the same cases, given that each
column has the name of its field, no struct is without members, and lists stay
within the offsets' range.  Nothing is asked of texts: their sizes have no limit
here. -/
theorem validate_iff_exists_batch {c : FixtureCase} (hcolumns : c.columns ≠ [])
    (hnames : c.columns.map Column.name = c.schema.names)
    (hne : ∀ f ∈ c.schema.fields, f.NoEmptyStruct)
    (hfit : ∀ p ∈ c.schema.fields.zip c.columns, p.1.OffsetsFit p.2.values) :
    c.validate = .ok () ↔ ∃ b, Batch.build c.schema c.columns = .ok b := by
  have hlen : c.schema.fields.length = c.columns.length := by
    have := congrArg List.length hnames
    simpa [Schema.names] using this.symm
  have hvalid := Batch.exists_buildArrays_iff (n := c.numRows) hnames hne hfit
  have hhead : ∀ as, Batch.buildArrays c.schema.fields c.columns = .ok as →
      as.head?.map ColumnArray.length = some c.numRows := by
    obtain ⟨id, ⟨fields⟩, columns, fileName⟩ := c
    cases fields with
    | nil => exact absurd (List.eq_nil_of_length_eq_zero hlen.symm) hcolumns
    | cons f fs =>
      cases columns with
      | nil => exact absurd rfl hcolumns
      | cons first rest =>
        exact fun as has => Batch.length_head?_buildArrays (hne f List.mem_cons_self) has
  rw [validate_eq_ok_iff, ← hvalid, Batch.exists_build_iff hlen]
  constructor
  · rintro ⟨as, gs, has, hgs, hchecked⟩
    have htypes := Batch.checkTypes_of_buildArrays has hgs 0
    exact ⟨as, gs, has, hgs, (Batch.exists_ofArrays_iff (hhead as has) htypes).2 hchecked⟩
  · rintro ⟨as, gs, has, hgs, hbatch⟩
    have htypes := Batch.checkTypes_of_buildArrays has hgs 0
    exact ⟨as, gs, has, hgs, (Batch.exists_ofArrays_iff (hhead as has) htypes).1 hbatch⟩

/-- A null struct stands before one whose members may not be null. -/
theorem validate_iff_exists_batch_required_members :
    ∃ b, Batch.build
      ⟨[.optional "s" (.struct [.required "n" .int64,
        .required "l" (.list (.required "item" (.decimal 3 1)))])]⟩
      [⟨"s", [.null, .struct [.int 1, .list [.int 25, .int (-999)]]]⟩] = .ok b := by
  refine (validate_iff_exists_batch (c := ⟨"case", ⟨_⟩, _, "case.parquet"⟩) ?_ ?_ ?_ ?_).1 rfl
  · simp
  · rfl
  · simp [Field.optional, Field.required, Field.NoEmptyStruct, LogicalType.NoEmptyStruct,
      LogicalType.inside, Field.inside, Field.allInside]
  · simp [Field.optional, Field.required, Field.OffsetsFit, LogicalType.OffsetsFit,
      Field.AllOffsetsFit, Value.allItems, Value.items, Value.parts, maxOffset]

end FixtureCase

end FixtureMatrix
