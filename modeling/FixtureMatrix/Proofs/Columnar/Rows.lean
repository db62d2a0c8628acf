import FixtureMatrix.Proofs.Columnar.Layout
import Mathlib.Data.List.Forall2

/-!
# Rows of built arrays

The array of a stream of values has one row per value, and its rows are null
where the values are.  An array of structs takes its length from its first
member, so this needs every struct to have one.

* `length_eq_of_buildArray`: the length of a built array, also where a struct has
  no members.
* `length_of_buildArray`, `validRows_of_buildArray`: length and null rows of a
  built array.
* `checkMembers_eq_ok_iff`: the check of a struct's members, said about rows of
  values and not about arrays.
-/

namespace FixtureMatrix

open ColumnArray Value

/-! ## Null masks -/

namespace ColumnArray

/-- Leaving out a mask without nulls does not change which rows are valid. -/
theorem mask_maskOf (validity : List Bool) : mask validity.length (maskOf validity) = validity := by
  unfold maskOf
  split
  · rename_i h
    rw [mask]
    symm
    exact List.eq_replicate_iff.2 ⟨rfl, by simpa using h⟩
  · rfl

theorem nullsMasked_eq_true_iff {xs ys : List Bool} :
    nullsMasked xs ys = true ↔ ∀ p ∈ xs.zip ys, p.1 = true → p.2 = true := by
  induction xs generalizing ys with
  | nil => simp [nullsMasked]
  | cons x xs ih =>
    cases ys with
    | nil => simp [nullsMasked]
    | cons y ys =>
      rw [nullsMasked, List.zip_cons_cons, List.forall_mem_cons, Bool.and_eq_true, ih]
      cases x <;> simp

end ColumnArray

theorem Value.count_false_validity_eq_zero_iff {vs : List Value} :
    (validity vs).count false = 0 ↔ ∀ v ∈ vs, v ≠ .null := by
  have hnull : false ∉ validity vs ↔ .null ∉ vs := by simp [validity, isNull_eq_true_iff]
  rw [List.count_eq_zero, hnull]
  exact ⟨fun h v hv he => h (he ▸ hv), fun h hnull => h _ hnull rfl⟩

/-! ## Length -/

mutual

/-- An array has one row per value, but for structs whose first member counts
none. -/
theorem LogicalType.length_eq_of_buildArray {name : String} :
    ∀ {t : LogicalType} {vs : List Value} {a : ColumnArray},
      t.buildArray name vs = .ok a → a.length = if t.rowless then 0 else vs.length
  | .decimal precision scale, vs, a, h => by
    obtain ⟨-, -, -, u, -, rfl⟩ := LogicalType.buildArray_decimal_eq_ok_iff.1 h
    simp [ColumnArray.length, LogicalType.rowless]
  | .list item, vs, a, h => by
    obtain ⟨-, -, child, g, -, -, -, -, rfl⟩ := LogicalType.buildArray_list_eq_ok_iff.1 h
    simp [ColumnArray.length, LogicalType.rowless]
  | .struct members, vs, a, h => by
    obtain ⟨-, children, gs, hchildren, -, -, -, rfl⟩ :=
      LogicalType.buildArray_struct_eq_ok_iff.1 h
    rw [Field.length_struct hchildren, List.length_map, LogicalType.rowless]
  | .bool, vs, a, h | .int16, vs, a, h | .int64, vs, a, h | .uint32, vs, a, h
  | .float64, vs, a, h | .utf8, vs, a, h | .largeBinary, vs, a, h | .timestamp _ _, vs, a, h => by
    obtain ⟨-, u, -, rfl⟩ := (LogicalType.buildArray_plain_eq_ok_iff rfl).1 h
    simp [ColumnArray.length, LogicalType.rowless]

theorem Field.length_eq_of_buildArray :
    ∀ {f : Field} {vs : List Value} {a : ColumnArray},
      f.buildArray vs = .ok a → a.length = if f.rowless then 0 else vs.length
  | .mk _ type _, vs, a, h => by
    rw [Field.buildArray] at h
    rw [Field.rowless]
    exact LogicalType.length_eq_of_buildArray h

/-- A struct array takes its length from its first member. -/
theorem Field.length_struct {fields : List ArrayField} {mask : Option (List Bool)} :
    ∀ {fs : List Field} {rows : List (List Value)} {as : List ColumnArray},
      Field.buildMembers fs rows = .ok as →
      (ColumnArray.struct fields mask as).length =
        if Field.startRowless fs then 0 else rows.length
  | [], rows, as, h => by
    rw [Field.buildMembers_nil_eq_ok_iff.1 h]
    simp [ColumnArray.length, Field.startRowless]
  | f :: fs, rows, as, h => by
    obtain ⟨b, bs, hb, -, rfl⟩ := Field.buildMembers_cons_eq_ok_iff.1 h
    have hlength := Field.length_eq_of_buildArray hb
    rw [List.length_map] at hlength
    rw [ColumnArray.length, Field.startRowless, hlength]

end

theorem LogicalType.length_of_buildArray {name : String} {t : LogicalType} {vs : List Value}
    {a : ColumnArray} (hne : t.NoEmptyStruct) (h : t.buildArray name vs = .ok a) :
    a.length = vs.length := by
  have hlength := LogicalType.length_eq_of_buildArray h
  rwa [hne.rowless] at hlength

theorem Field.length_of_buildArray {f : Field} {vs : List Value} {a : ColumnArray}
    (hne : f.NoEmptyStruct) (h : f.buildArray vs = .ok a) : a.length = vs.length := by
  have hlength := Field.length_eq_of_buildArray h
  rwa [hne.rowless] at hlength

/-! ## Null rows -/

theorem LogicalType.CellsExist.map_isSome {t : LogicalType} {vs : List Value}
    (h : t.CellsExist vs) : (vs.map t.cell?).map Option.isSome = validity vs := by
  rw [List.map_map, validity]
  refine List.map_congr_left fun v hv => ?_
  rcases h v hv with rfl | hsome
  · simp [LogicalType.cell?_null, isNull]
  · have hne : v ≠ .null := by
      rintro rfl
      simp [LogicalType.cell?_null] at hsome
    simp [hsome, isNull_eq_false_iff.2 hne]

theorem LogicalType.validRows_of_buildArray {name : String} {t : LogicalType} {vs : List Value}
    {a : ColumnArray} (hne : t.NoEmptyStruct) (h : t.buildArray name vs = .ok a) :
    a.validRows = validity vs := by
  have hlength := LogicalType.length_of_buildArray hne h
  by_cases hplain : t.isPlain = true
  · obtain ⟨hcells, u, -, rfl⟩ := (LogicalType.buildArray_plain_eq_ok_iff hplain).1 h
    exact hcells.map_isSome
  · cases t with
    | decimal precision scale =>
      obtain ⟨hcells, -, -, u, -, rfl⟩ := LogicalType.buildArray_decimal_eq_ok_iff.1 h
      exact hcells.map_isSome
    | list item =>
      obtain ⟨-, -, child, g, -, -, -, -, rfl⟩ := LogicalType.buildArray_list_eq_ok_iff.1 h
      rw [validRows, hlength, ← length_validity, mask_maskOf]
    | struct members =>
      obtain ⟨-, children, gs, -, -, -, -, rfl⟩ := LogicalType.buildArray_struct_eq_ok_iff.1 h
      rw [validRows, hlength, ← length_validity, mask_maskOf]
    | _ => exact absurd rfl hplain

theorem Field.validRows_of_buildArray {f : Field} {vs : List Value} {a : ColumnArray}
    (hne : f.NoEmptyStruct) (h : f.buildArray vs = .ok a) : a.validRows = validity vs := by
  rw [Field.buildArray_eq] at h
  exact LogicalType.validRows_of_buildArray hne h

theorem Field.nullCount_eq_zero_iff {f : Field} {vs : List Value} {a : ColumnArray}
    (hne : f.NoEmptyStruct) (h : f.buildArray vs = .ok a) :
    a.nullCount = 0 ↔ ∀ v ∈ vs, v ≠ .null := by
  rw [nullCount, Field.validRows_of_buildArray hne h, count_false_validity_eq_zero_iff]

/-! ## Members of structs -/

/-- A null stands only where a field may be null. -/
def Field.NullAllowed (f : Field) (v : Value) : Prop :=
  v = .null → f.nullable = true

/-- The check of the items of lists: none is null that may not be. -/
theorem Field.nullCount_check_iff {f : Field} {vs : List Value} {a : ColumnArray}
    (hne : f.NoEmptyStruct) (h : f.buildArray vs = .ok a) :
    ¬ (f.nullable = false ∧ a.nullCount ≠ 0) ↔ ∀ v ∈ vs, f.NullAllowed v := by
  rw [Ne, Field.nullCount_eq_zero_iff hne h, not_and_not_right]
  unfold Field.NullAllowed
  cases f.nullable with
  | true => simp
  | false => simp only [forall_const, Bool.false_eq_true, imp_false, ne_eq]

/-- The check of one member: its nulls stand in null rows of the struct. -/
theorem Field.nullsMasked_iff {f : Field} {valid : List Bool} {rows : List (List Value)}
    {a : ColumnArray} (hne : f.NoEmptyStruct)
    (h : f.buildArray (rows.map fun row => row.headD .null) = .ok a) :
    ¬ (f.nullable = false ∧ nullsMasked valid a.validRows = false) ↔
      ∀ p ∈ valid.zip rows, p.1 = true → f.NullAllowed (p.2.headD .null) := by
  rw [Field.validRows_of_buildArray hne h, ← Bool.not_eq_true (nullsMasked _ _),
    nullsMasked_eq_true_iff]
  unfold Field.NullAllowed validity
  rw [List.map_map, List.zip_map_right]
  cases f.nullable with
  | true => simp
  | false => simp [isNull_eq_true_iff]

/-- The check of the members of a struct.  Their types are those that their fields are
converted to, so only lengths and nulls are left to look at. -/
theorem Field.checkMembers_eq_ok_iff {fs : List Field} {gs : List ArrayField}
    {valid : List Bool} {rows : List (List Value)} {as : List ColumnArray} {n : Nat}
    (hne : ∀ f ∈ fs, f.NoEmptyStruct) (h : Field.buildMembers fs rows = .ok as)
    (hgs : Field.arrayFields fs = .ok gs) (hn : n = rows.length)
    (hrows : ∀ row ∈ rows, row.length = fs.length) :
    ColumnArray.checkMembers n valid gs as = .ok () ↔
      ∀ p ∈ valid.zip rows, p.1 = true → List.Forall₂ Field.NullAllowed fs p.2 := by
  induction fs generalizing gs rows as with
  | nil =>
    obtain rfl := Field.arrayFields_nil_eq_ok_iff.1 hgs
    refine iff_of_true (by simp [ColumnArray.checkMembers]) ?_
    intro p hp _
    have hlen := hrows p.2 (List.of_mem_zip hp).2
    rw [List.length_nil, List.length_eq_zero_iff] at hlen
    rw [hlen]
    exact .nil
  | cons f fs ih =>
    obtain ⟨b, bs, hb, hbs, rfl⟩ := Field.buildMembers_cons_eq_ok_iff.1 h
    obtain ⟨g, gs, hg, htypes, rfl⟩ := Field.arrayFields_cons_eq_ok_iff.1 hgs
    rw [List.forall_mem_cons] at hne
    have hlength := Field.length_of_buildArray hne.1 hb
    rw [List.length_map] at hlength
    have htails : ∀ row ∈ rows.map List.tail, row.length = fs.length := by
      intro row hrow
      obtain ⟨whole, hwhole, rfl⟩ := List.mem_map.1 hrow
      simp [hrows whole hwhole]
    have ih' := ih hne.2 hbs htypes (by simpa using hn) htails
    have htype : ¬ g.type ≠ b.type := not_not.2 (Field.type_of_arrayField hg hb)
    have hn' : ¬ b.length ≠ n := by simp [hlength, hn]
    rw [ColumnArray.checkMembers, guard_eq_ok_iff, guard_eq_ok_iff, guard_eq_ok_iff, ih',
      (Field.arrayField_eq_ok_iff.1 hg).2.1, Field.nullsMasked_iff hne.1 hb, List.zip_map_right]
    simp only [htype, hn', not_false_eq_true, true_and, List.forall_mem_map]
    rw [← forall₂_and]
    refine forall₂_congr fun p hp => ?_
    have hlen := hrows p.2 (List.of_mem_zip hp).2
    obtain ⟨valid, row⟩ := p
    cases row with
    | nil => simp at hlen
    | cons v vs =>
      simp only [List.forall₂_cons, List.headD_cons, Prod.map, List.tail_cons, id]
      exact ⟨fun h hv => ⟨h.1 hv, h.2 hv⟩, fun h => ⟨fun hv => (h hv).1, fun hv => (h hv).2⟩⟩

end FixtureMatrix
