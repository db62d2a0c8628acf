import FixtureMatrix.Columnar.Batch
import FixtureMatrix.Proofs.Columnar.Conversion
import FixtureMatrix.Proofs.Columnar.Streams

/-!
# What building an array does

One theorem for each kind of type: when an array of that type can be built from
a stream of values, and which array it is.  Facts on built arrays follow from
these without a look at the loops.

* `type_of_buildArray`: an array is of the type that its field is converted to.

The checks of types are therefore no part of these theorems: whatever they compare
is the same.
-/

namespace FixtureMatrix

open ColumnArray Value

theorem Field.buildArray_eq (f : Field) (vs : List Value) :
    f.buildArray vs = f.type.buildArray f.name vs := by
  obtain ⟨name, type, nullable⟩ := f
  rw [Field.buildArray, Field.type_mk, Field.name_mk]

/-- Whether the arrays of a type are cells without further conditions. -/
def LogicalType.isPlain : LogicalType → Bool
  | .decimal _ _ | .list _ | .struct _ => false
  | _ => true

/-- Every value of a stream is null or has a cell of a primitive type. -/
def LogicalType.CellsExist (t : LogicalType) (vs : List Value) : Prop :=
  ∀ v ∈ vs, v = .null ∨ (t.cell? v).isSome

namespace LogicalType

variable {name : String} {vs : List Value} {a : ColumnArray}

/-- The builder and the conversion go through the primitive types alike. -/
theorem exists_buildArray_plain {t : LogicalType} (ht : t.isPlain = true) (name : String) :
    ∃ u, t.arrayType name = .ok u ∧ ∀ vs, t.buildArray name vs = ofPrimitives name t u vs := by
  cases t with
  | timestamp unit timezone =>
    refine ⟨.timestamp unit.arrayUnit timezone, by rw [arrayType], fun vs => ?_⟩
    cases unit <;> rw [buildArray] <;> rfl
  | decimal => cases ht
  | list => cases ht
  | struct => cases ht
  | bool => exact ⟨.boolean, by rw [arrayType], fun vs => by rw [buildArray]⟩
  | int16 => exact ⟨.int16, by rw [arrayType], fun vs => by rw [buildArray]⟩
  | int64 => exact ⟨.int64, by rw [arrayType], fun vs => by rw [buildArray]⟩
  | uint32 => exact ⟨.uint32, by rw [arrayType], fun vs => by rw [buildArray]⟩
  | float64 => exact ⟨.float64, by rw [arrayType], fun vs => by rw [buildArray]⟩
  | utf8 => exact ⟨.utf8, by rw [arrayType], fun vs => by rw [buildArray]⟩
  | largeBinary => exact ⟨.largeBinary, by rw [arrayType], fun vs => by rw [buildArray]⟩

theorem buildArray_plain_eq_ok_iff {t : LogicalType} (ht : t.isPlain = true) :
    t.buildArray name vs = .ok a ↔
      t.CellsExist vs ∧ ∃ u, t.arrayType name = .ok u ∧ a = .leaf u (vs.map t.cell?) := by
  obtain ⟨u, hu, hbuild⟩ := exists_buildArray_plain ht name
  rw [hbuild, ofPrimitives, hu]
  simp only [bind_eq_ok_iff, pure_eq_ok_iff, cellsFrom_eq_ok_iff, Except.ok.injEq,
    exists_eq_left']
  constructor
  · rintro ⟨cells, ⟨hvs, rfl⟩, rfl⟩
    exact ⟨hvs, rfl⟩
  · rintro ⟨hvs, rfl⟩
    exact ⟨_, ⟨hvs, rfl⟩, rfl⟩

theorem ofDecimals_eq_ok_iff {precision scale : Nat} {stored : Int8}
    {cells : List (Option Scalar)} (hstored : storedScale? scale = some stored) :
    ofDecimals precision stored cells = .ok a ↔
      SupportedDecimal precision scale ∧
      (∀ n : Int, some (.int n) ∈ cells → decimalFits n precision = true) ∧
      a = .leaf (.decimal128 precision stored) cells := by
  obtain ⟨-, hscale⟩ := storedScale?_eq_some_iff.1 hstored
  rw [ofDecimals, hscale, guard_eq_ok_iff, guard_eq_ok_iff, guard_eq_ok_iff, guard_eq_ok_iff]
  simp only [bind_eq_ok_iff, pure_eq_ok_iff]
  unfold SupportedDecimal maxDecimalPrecision
  constructor
  · rintro ⟨_, _, _, _, ⟨⟩, hdigits, rfl⟩
    exact ⟨by omega, checkDigits_eq_ok_iff.1 hdigits, rfl⟩
  · rintro ⟨hsupported, hdigits, rfl⟩
    exact ⟨by omega, by omega, by omega, by omega, (), checkDigits_eq_ok_iff.2 hdigits, rfl⟩

theorem buildArray_decimal_eq_ok_iff {precision scale : Nat} :
    (decimal precision scale).buildArray name vs = .ok a ↔
      (decimal precision scale).CellsExist vs ∧
      SupportedDecimal precision scale ∧
      (∀ n : Int, some (.int n) ∈ vs.map (decimal precision scale).cell? →
        decimalFits n precision = true) ∧
      ∃ u, (decimal precision scale).arrayType name = .ok u ∧
        a = .leaf u (vs.map (decimal precision scale).cell?) := by
  rw [buildArray]
  simp only [bind_eq_ok_iff, cellsFrom_eq_ok_iff, arrayType_decimal_eq_ok_iff]
  constructor
  · rintro ⟨cells, ⟨hvs, rfl⟩, h⟩
    split at h
    · cases h
    · next stored hstored =>
      obtain ⟨hsupported, hdigits, rfl⟩ := (ofDecimals_eq_ok_iff hstored).1 h
      exact ⟨hvs, hsupported, hdigits, _, ⟨stored, hstored, rfl⟩, rfl⟩
  · rintro ⟨hvs, hsupported, hdigits, _, ⟨stored, hstored, rfl⟩, rfl⟩
    refine ⟨_, ⟨hvs, rfl⟩, ?_⟩
    rw [hstored]
    exact (ofDecimals_eq_ok_iff hstored).2 ⟨hsupported, hdigits, rfl⟩

/-- A list array stands under the converted field of its items. -/
theorem ofLists_eq_ok {item : ArrayField} {offsets : List Nat} {valid : List Bool}
    {child : ColumnArray} (h : ofLists item offsets valid child = .ok a) :
    a.type = .list item := by
  simp only [ofLists, guard_eq_ok_iff, Except.ok.injEq] at h
  obtain ⟨-, -, -, rfl⟩ := h
  rfl

theorem ofStructs_eq_ok {members : List ArrayField} {valid : List Bool}
    {children : List ColumnArray} (h : ofStructs members valid children = .ok a) :
    a.type = .struct members := by
  simp only [ofStructs, guard_eq_ok_iff, bind_eq_ok_iff, pure_eq_ok_iff] at h
  obtain ⟨-, -, -, rfl⟩ := h
  rfl

/-- Where an array can be built, its type can be converted, and this is the type that
the array has. -/
theorem type_of_buildArray {t : LogicalType} (h : t.buildArray name vs = .ok a) :
    t.arrayType name = .ok a.type := by
  by_cases hplain : t.isPlain = true
  · obtain ⟨-, u, hu, rfl⟩ := (buildArray_plain_eq_ok_iff hplain).1 h
    exact hu
  · cases t with
    | decimal precision scale =>
      obtain ⟨-, -, -, u, hu, rfl⟩ := buildArray_decimal_eq_ok_iff.1 h
      exact hu
    | list item =>
      rw [buildArray] at h
      simp only [bind_eq_ok_iff] at h
      obtain ⟨flat, -, child, -, g, hg, ha⟩ := h
      exact arrayType_list_eq_ok_iff.2 ⟨g, hg, ofLists_eq_ok ha⟩
    | struct members =>
      rw [buildArray] at h
      simp only [bind_eq_ok_iff] at h
      obtain ⟨flat, -, children, -, gs, hgs, ha⟩ := h
      exact arrayType_struct_eq_ok_iff.2 ⟨gs, hgs, ofStructs_eq_ok ha⟩
    | _ => exact absurd rfl hplain

end LogicalType

namespace Field

variable {f : Field} {fs : List Field} {vs : List Value} {a : ColumnArray} {g : ArrayField}

/-- What the array of a field stands under. -/
theorem arrayField_of_buildArray (h : f.buildArray vs = .ok a) :
    f.arrayField = .ok (.mk f.name a.type f.nullable) := by
  rw [Field.buildArray_eq] at h
  exact arrayField_eq_ok_iff.2 ⟨rfl, rfl, LogicalType.type_of_buildArray h⟩

theorem type_of_arrayField (hg : f.arrayField = .ok g) (h : f.buildArray vs = .ok a) :
    g.type = a.type := by
  rw [arrayField_of_buildArray h] at hg
  cases hg
  rfl

end Field

namespace LogicalType

variable {name : String} {vs : List Value} {a : ColumnArray}

theorem buildArray_list_eq_ok_iff {item : Field} :
    (list item).buildArray name vs = .ok a ↔
      (∀ v ∈ vs, v = .null ∨ ∃ items, v = .list items) ∧
      (allItems vs).length ≤ maxOffset ∧
      ∃ child g, item.buildArray (allItems vs) = .ok child ∧ item.arrayField = .ok g ∧
        (allItems vs).length ≤ child.length ∧
        ¬ (item.nullable = false ∧ child.nullCount ≠ 0) ∧
        a = .list g (0 :: ends 0 vs) (maskOf (validity vs)) child := by
  rw [buildArray]
  simp only [bind_eq_ok_iff, flattenFrom_eq_ok_iff (Nat.zero_le maxOffset), Nat.zero_add,
    ofLists, guard_eq_ok_iff, Except.ok.injEq, @eq_comm _ _ a, Nat.not_lt]
  constructor
  · rintro ⟨flat, ⟨hvs, hlen, rfl⟩, child, hchild, g, hg, hlast, hnull, -, ha⟩
    rw [getLastD_cons_ends, Nat.zero_add] at hlast
    rw [(Field.arrayField_eq_ok_iff.1 hg).2.1] at hnull
    exact ⟨hvs, hlen, child, g, hchild, hg, hlast, hnull, ha⟩
  · rintro ⟨hvs, hlen, child, g, hchild, hg, hlast, hnull, ha⟩
    rw [← (Field.arrayField_eq_ok_iff.1 hg).2.1] at hnull
    refine ⟨_, ⟨hvs, hlen, rfl⟩, child, hchild, g, hg, ?_, hnull, ?_, ha⟩
    · rwa [getLastD_cons_ends, Nat.zero_add]
    · exact not_not.2 (Field.type_of_arrayField hg hchild)

theorem buildArray_struct_eq_ok_iff {members : List Field} :
    (struct members).buildArray name vs = .ok a ↔
      (∀ v ∈ vs, v = .null ∨ ∃ ps, v = .struct ps ∧ ps.length = members.length) ∧
      ∃ children gs, Field.buildMembers members (vs.map (parts members.length)) = .ok children ∧
        Field.arrayFields members = .ok gs ∧
        ¬ ((validity vs).all id = false ∧ vs.length ≠ a.length) ∧
        ColumnArray.checkMembers a.length (validity vs) gs children = .ok () ∧
        a = .struct gs (maskOf (validity vs)) children := by
  rw [buildArray]
  simp only [bind_eq_ok_iff, membersFrom_eq_ok_iff, ofStructs, guard_eq_ok_iff, pure_eq_ok_iff]
  constructor
  · rintro ⟨flat, ⟨hvs, rfl⟩, children, hchildren, gs, hgs, hcount, _, hcheck, rfl⟩
    exact ⟨hvs, children, gs, hchildren, hgs, by simpa using hcount, hcheck, rfl⟩
  · rintro ⟨hvs, children, gs, hchildren, hgs, hcount, hcheck, rfl⟩
    exact ⟨_, ⟨hvs, rfl⟩, children, hchildren, gs, hgs, by simpa using hcount, (), hcheck, rfl⟩

end LogicalType

theorem Field.buildMembers_nil_eq_ok_iff {rows : List (List Value)} {as : List ColumnArray} :
    Field.buildMembers [] rows = .ok as ↔ as = [] := by
  simp [Field.buildMembers, eq_comm]

theorem Field.buildMembers_cons_eq_ok_iff {f : Field} {fs : List Field}
    {rows : List (List Value)} {as : List ColumnArray} :
    Field.buildMembers (f :: fs) rows = .ok as ↔
      ∃ b bs, f.buildArray (rows.map fun row => row.headD .null) = .ok b ∧
        Field.buildMembers fs (rows.map List.tail) = .ok bs ∧ as = b :: bs := by
  rw [Field.buildMembers]
  simp only [bind_eq_ok_iff, pure_eq_ok_iff]
  constructor
  · rintro ⟨b, hb, bs, hbs, rfl⟩
    exact ⟨b, bs, hb, hbs, rfl⟩
  · rintro ⟨b, bs, hb, hbs, rfl⟩
    exact ⟨b, hb, bs, hbs, rfl⟩

namespace Batch

variable {fs : List Field} {cs : List Column} {as : List ColumnArray} {gs : List ArrayField}

theorem buildArrays_cons_eq_ok_iff {f : Field} {c : Column} :
    buildArrays (f :: fs) (c :: cs) = .ok as ↔
      ∃ b bs, f.buildArray c.values = .ok b ∧ buildArrays fs cs = .ok bs ∧ as = b :: bs := by
  rw [buildArrays]
  simp only [bind_eq_ok_iff, pure_eq_ok_iff]
  constructor
  · rintro ⟨b, hb, bs, hbs, rfl⟩
    exact ⟨b, bs, hb, hbs, rfl⟩
  · rintro ⟨b, bs, hb, hbs, rfl⟩
    exact ⟨b, hb, bs, hbs, rfl⟩

/-- The arrays of columns are of the types that their fields are converted to. -/
theorem checkTypes_of_buildArrays (h : buildArrays fs cs = .ok as)
    (hgs : Field.arrayFields fs = .ok gs) (index : Nat) : checkTypes index gs as = .ok () := by
  induction fs generalizing cs as gs index with
  | nil =>
    obtain rfl := Field.arrayFields_nil_eq_ok_iff.1 hgs
    rw [checkTypes]
    simp
  | cons f fs ih =>
    cases cs with
    | nil =>
      cases h
      rw [checkTypes]
      simp
    | cons c cs =>
      obtain ⟨b, bs, hb, hbs, rfl⟩ := buildArrays_cons_eq_ok_iff.1 h
      obtain ⟨g, gs, hg, hrest, rfl⟩ := Field.arrayFields_cons_eq_ok_iff.1 hgs
      rw [checkTypes, if_neg (not_not.2 (Field.type_of_arrayField hg hb))]
      exact ih hbs hrest (index + 1)

/-- Arrays that make a batch are some, and all as long as the batch. -/
theorem ofArrays_eq_ok {converted : ArraySchema} {b : Batch}
    (h : ofArrays converted as = .ok b) :
    b = ⟨converted, as⟩ ∧ b.arrays ≠ [] ∧ ∀ a ∈ b.arrays, a.length = b.numRows := by
  cases as with
  | nil => cases h
  | cons first rest =>
    simp only [ofArrays, bind_eq_ok_iff] at h
    obtain ⟨-, -, h⟩ := h
    split at h
    · next hall =>
      simp only [bind_eq_ok_iff, pure_eq_ok_iff] at h
      obtain ⟨-, -, rfl⟩ := h
      refine ⟨rfl, List.cons_ne_nil first rest, ?_⟩
      simpa [numRows] using hall
    · cases h

/-- A batch has the converted schema and holds the arrays of its columns, as long as the
batch has rows. -/
theorem build_eq_ok {schema : Schema} {columns : List Column} {b : Batch}
    (h : build schema columns = .ok b) :
    schema.fields.length = columns.length ∧ buildArrays schema.fields columns = .ok b.arrays ∧
      schema.arraySchema = .ok b.schema ∧ b.arrays ≠ [] ∧
      ∀ a ∈ b.arrays, a.length = b.numRows := by
  rw [build] at h
  split at h
  · cases h
  next hlen =>
    simp only [bind_eq_ok_iff] at h
    obtain ⟨as, has, converted, hconverted, hb⟩ := h
    obtain ⟨rfl, hrest⟩ := ofArrays_eq_ok hb
    exact ⟨not_not.1 hlen, has, hconverted, hrest⟩

end Batch

end FixtureMatrix
