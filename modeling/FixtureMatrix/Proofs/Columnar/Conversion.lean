import FixtureMatrix.Columnar.Conversion
import FixtureMatrix.Proofs.Case.Violation

/-!
# Fields that can be converted

Only a decimal scale beyond eight bits keeps a field from being what arrays are put
under.

* `exists_arrayField_iff`: a field can be converted exactly when no scale inside it is
  too large.
* `scalesStorable`: the scales of supported decimals are not.
* `arrayField_eq_error_iff`: which decimal is to blame otherwise.
-/

namespace FixtureMatrix

variable {name : String}

/-! ## Scales -/

theorem storedScale?_eq_some_iff {scale : Nat} {stored : Int8} :
    storedScale? scale = some stored ↔ scale ≤ maxStoredScale ∧ stored.toInt = scale := by
  rw [storedScale?, Option.ite_none_right_eq_some, Option.some.injEq]
  refine and_congr_right fun hscale => ?_
  have hofNat : (Int8.ofNat scale).toInt = scale :=
    Int8.toInt_ofNat_of_lt (Nat.lt_succ_of_le hscale)
  rw [← Int8.toInt_inj, hofNat, eq_comm]

theorem storedScale?_eq_none_iff {scale : Nat} :
    storedScale? scale = none ↔ maxStoredScale < scale := by
  rw [storedScale?, ite_eq_right_iff]
  simp

/-- Every decimal scale inside the type can be stored. -/
def LogicalType.ScalesStorable (t : LogicalType) : Prop :=
  ∀ precision scale, LogicalType.decimal precision scale ∈ t.inside → scale ≤ maxStoredScale

theorem LogicalType.scalesStorable_struct {members : List Field} :
    (LogicalType.struct members).ScalesStorable ↔ ∀ f ∈ members, f.type.ScalesStorable := by
  simp only [LogicalType.ScalesStorable, LogicalType.mem_inside_struct, reduceCtorEq, false_or]
  constructor
  · intro h f hf precision scale hmem
    exact h precision scale ⟨f, hf, hmem⟩
  · rintro h precision scale ⟨f, hf, hmem⟩
    exact h f hf precision scale hmem

theorem LogicalType.scalesStorable_list {item : Field} :
    (LogicalType.list item).ScalesStorable ↔ item.type.ScalesStorable := by
  simp [LogicalType.ScalesStorable, LogicalType.inside, Field.inside_eq]

theorem LogicalType.scalesStorable_decimal {precision scale : Nat} :
    (LogicalType.decimal precision scale).ScalesStorable ↔ scale ≤ maxStoredScale := by
  simp [LogicalType.ScalesStorable, LogicalType.inside]

theorem LogicalType.DecimalsSupported.scalesStorable {t : LogicalType}
    (h : t.DecimalsSupported) : t.ScalesStorable := by
  intro precision scale hmem
  obtain ⟨-, hp, hs⟩ := h precision scale hmem
  unfold maxDecimalPrecision at hp
  unfold maxStoredScale
  omega

/-! ## Converted fields -/

/-- A converted field has the name of the field, and may be null where the field may. -/
theorem Field.arrayField_eq_ok_iff {f : Field} {g : ArrayField} :
    f.arrayField = .ok g ↔
      g.name = f.name ∧ g.nullable = f.nullable ∧ f.type.arrayType f.name = .ok g.type := by
  obtain ⟨name, type, nullable⟩ := f
  obtain ⟨name', type', nullable'⟩ := g
  rw [Field.arrayField]
  simp only [bind_eq_ok_iff, pure_eq_ok_iff, ArrayField.mk.injEq, ArrayField.name_mk,
    ArrayField.nullable_mk, ArrayField.type_mk, Field.name_mk, Field.nullable_mk, Field.type_mk]
  constructor
  · rintro ⟨converted, h, rfl, rfl, rfl⟩
    exact ⟨rfl, rfl, h⟩
  · rintro ⟨rfl, rfl, h⟩
    exact ⟨type', h, rfl, rfl, rfl⟩

theorem Field.arrayFields_nil_eq_ok_iff {gs : List ArrayField} :
    Field.arrayFields [] = .ok gs ↔ gs = [] := by
  simp [Field.arrayFields, eq_comm]

theorem Field.arrayFields_cons_eq_ok_iff {f : Field} {fs : List Field} {gs : List ArrayField} :
    Field.arrayFields (f :: fs) = .ok gs ↔
      ∃ g hs, f.arrayField = .ok g ∧ Field.arrayFields fs = .ok hs ∧ gs = g :: hs := by
  rw [Field.arrayFields]
  simp only [bind_eq_ok_iff, pure_eq_ok_iff]
  constructor
  · rintro ⟨g, hg, hs, hhs, rfl⟩
    exact ⟨g, hs, hg, hhs, rfl⟩
  · rintro ⟨g, hs, hg, hhs, rfl⟩
    exact ⟨g, hg, hs, hhs, rfl⟩

theorem Field.arrayFields_ne_nil_iff {fs : List Field} {gs : List ArrayField}
    (h : Field.arrayFields fs = .ok gs) : gs ≠ [] ↔ fs ≠ [] := by
  cases fs with
  | nil => simp [Field.arrayFields_nil_eq_ok_iff.1 h]
  | cons f fs =>
    obtain ⟨g, hs, -, -, rfl⟩ := Field.arrayFields_cons_eq_ok_iff.1 h
    simp

theorem LogicalType.arrayType_list_eq_ok_iff {item : Field} {u : ArrayType} :
    (list item).arrayType name = .ok u ↔ ∃ g, item.arrayField = .ok g ∧ u = .list g := by
  rw [LogicalType.arrayType]
  simp only [bind_eq_ok_iff, pure_eq_ok_iff, @eq_comm _ u]

theorem LogicalType.arrayType_struct_eq_ok_iff {members : List Field} {u : ArrayType} :
    (struct members).arrayType name = .ok u ↔
      ∃ gs, Field.arrayFields members = .ok gs ∧ u = .struct gs := by
  rw [LogicalType.arrayType]
  simp only [bind_eq_ok_iff, pure_eq_ok_iff, @eq_comm _ u]

theorem LogicalType.arrayType_decimal_eq_ok_iff {precision scale : Nat} {u : ArrayType} :
    (decimal precision scale).arrayType name = .ok u ↔
      ∃ stored, storedScale? scale = some stored ∧ u = .decimal128 precision stored := by
  rw [LogicalType.arrayType]
  cases storedScale? scale <;> simp [eq_comm]

mutual

theorem LogicalType.exists_arrayType_iff (name : String) :
    ∀ t : LogicalType, (∃ u, t.arrayType name = .ok u) ↔ t.ScalesStorable
  | .decimal precision scale => by
    simp only [LogicalType.arrayType_decimal_eq_ok_iff, LogicalType.scalesStorable_decimal,
      storedScale?]
    split_ifs with hscale
    · exact iff_of_true ⟨_, _, rfl, rfl⟩ hscale
    · simp [hscale]
  | .list item => by
    rw [LogicalType.scalesStorable_list, ← Field.exists_arrayField_iff item]
    simp only [LogicalType.arrayType_list_eq_ok_iff]
    constructor
    · rintro ⟨_, g, hg, rfl⟩
      exact ⟨g, hg⟩
    · rintro ⟨g, hg⟩
      exact ⟨_, g, hg, rfl⟩
  | .struct members => by
    rw [LogicalType.scalesStorable_struct, ← Field.exists_arrayFields_iff members]
    simp only [LogicalType.arrayType_struct_eq_ok_iff]
    constructor
    · rintro ⟨_, gs, hgs, rfl⟩
      exact ⟨gs, hgs⟩
    · rintro ⟨gs, hgs⟩
      exact ⟨_, gs, hgs, rfl⟩
  | .bool | .int16 | .int64 | .uint32 | .float64 | .utf8 | .largeBinary | .timestamp _ _ => by
    simp [LogicalType.arrayType, LogicalType.ScalesStorable, LogicalType.inside]

theorem Field.exists_arrayField_iff :
    ∀ f : Field, (∃ g, f.arrayField = .ok g) ↔ f.type.ScalesStorable
  | .mk name type nullable => by
    rw [Field.type_mk, ← LogicalType.exists_arrayType_iff name type]
    simp only [Field.arrayField_eq_ok_iff, Field.name_mk, Field.nullable_mk, Field.type_mk]
    constructor
    · rintro ⟨g, -, -, hg⟩
      exact ⟨g.type, hg⟩
    · rintro ⟨u, hu⟩
      exact ⟨.mk name u nullable, rfl, rfl, hu⟩

theorem Field.exists_arrayFields_iff :
    ∀ fs : List Field, (∃ gs, Field.arrayFields fs = .ok gs) ↔ ∀ f ∈ fs, f.type.ScalesStorable
  | [] => by simp [Field.arrayFields]
  | f :: fs => by
    rw [List.forall_mem_cons, ← Field.exists_arrayField_iff f, ← Field.exists_arrayFields_iff fs]
    simp only [Field.arrayFields_cons_eq_ok_iff]
    constructor
    · rintro ⟨_, g, gs, hg, hgs, rfl⟩
      exact ⟨⟨g, hg⟩, gs, hgs⟩
    · rintro ⟨⟨g, hg⟩, gs, hgs⟩
      exact ⟨_, g, gs, hg, hgs, rfl⟩

end

theorem Schema.arraySchema_eq_ok_iff {s : Schema} {schema : ArraySchema} :
    s.arraySchema = .ok schema ↔ Field.arrayFields s.fields = .ok schema.fields := by
  rw [Schema.arraySchema]
  simp only [bind_eq_ok_iff, pure_eq_ok_iff]
  constructor
  · rintro ⟨fields, h, rfl⟩
    exact h
  · intro h
    exact ⟨schema.fields, h, rfl⟩

/-! ## Fields that cannot be converted -/

/-- Why a field cannot be converted, where this is due to its own type. -/
def Field.scaleRefusal? : Field → Option LayoutError
  | .mk name (.decimal _ scale) _ =>
    if maxStoredScale < scale then some (.unsupported (.decimalScale scale name)) else none
  | _ => none

theorem LogicalType.arrayType_decimal_eq_error_iff {precision scale : Nat} {e : LayoutError} :
    (decimal precision scale).arrayType name = .error e ↔
      maxStoredScale < scale ∧ e = .unsupported (.decimalScale scale name) := by
  rw [LogicalType.arrayType, ← storedScale?_eq_none_iff]
  cases storedScale? scale <;> simp [eq_comm]

mutual

/-- The first decimal, in depth-first order, whose scale cannot be stored is the one
that is reported, with the name of its field. -/
theorem Field.arrayField_eq_error_iff : ∀ {f : Field} {e : LayoutError},
    f.arrayField = .error e ↔ f.places.findSome? Field.scaleRefusal? = some e
  | .mk name (.decimal precision scale) nullable, e => by
    have hplaces : (Field.mk name (.decimal precision scale) nullable).places =
        [.mk name (.decimal precision scale) nullable] := rfl
    rw [hplaces, Field.arrayField, bind_pure_eq_error_iff,
      LogicalType.arrayType_decimal_eq_error_iff, List.findSome?_singleton, Field.scaleRefusal?]
    simp [eq_comm]
  | .mk name (.list item) nullable, e => by
    rw [Field.places, LogicalType.places, List.findSome?_cons, Field.arrayField,
      LogicalType.arrayType, bind_pure_eq_error_iff, bind_pure_eq_error_iff,
      Field.arrayField_eq_error_iff]
    simp [Field.scaleRefusal?]
  | .mk name (.struct members) nullable, e => by
    rw [Field.places, LogicalType.places, List.findSome?_cons, Field.arrayField,
      LogicalType.arrayType, bind_pure_eq_error_iff, bind_pure_eq_error_iff,
      Field.arrayFields_eq_error_iff]
    simp [Field.scaleRefusal?]
  | .mk _ .bool _, e | .mk _ .int16 _, e | .mk _ .int64 _, e | .mk _ .uint32 _, e
  | .mk _ .float64 _, e | .mk _ .utf8 _, e | .mk _ .largeBinary _, e
  | .mk _ (.timestamp _ _) _, e => by
    simp [Field.arrayField, LogicalType.arrayType, Field.places, LogicalType.places,
      Field.scaleRefusal?, bind, Except.bind, pure, Except.pure]

theorem Field.arrayFields_eq_error_iff : ∀ {fs : List Field} {e : LayoutError},
    Field.arrayFields fs = .error e ↔
      (Field.allPlaces fs).findSome? Field.scaleRefusal? = some e
  | [], e => by simp [Field.arrayFields, Field.allPlaces]
  | f :: fs, e => by
    have hfirst := exists_ok_iff_eq_none fun e => Field.arrayField_eq_error_iff (f := f) (e := e)
    rw [Field.arrayFields, Field.allPlaces, List.findSome?_append, Option.or_eq_some_iff,
      bind_eq_error_iff, Field.arrayField_eq_error_iff, ← hfirst]
    simp only [bind_pure_eq_error_iff, Field.arrayFields_eq_error_iff, exists_and_right]

end

/-- A field cannot be converted exactly when a scale inside it is above the limit. -/
theorem Field.exists_arrayField_eq_error_iff {f : Field} :
    (∃ e, f.arrayField = .error e) ↔
      ∃ precision scale, .decimal precision scale ∈ f.inside ∧ maxStoredScale < scale := by
  have hok : (∃ e, f.arrayField = .error e) ↔ ¬ ∃ g, f.arrayField = .ok g := by
    cases f.arrayField <;> simp
  rw [hok, Field.exists_arrayField_iff]
  simp only [LogicalType.ScalesStorable, Field.inside_eq, not_forall, Nat.not_le, exists_prop]

/-- What keeps a field from being converted is that a decimal is not supported. -/
theorem Field.unsupported_of_findSome? {fs : List Field} {e : LayoutError}
    (h : fs.findSome? Field.scaleRefusal? = some e) :
    ∃ scale name, e = .unsupported (.decimalScale scale name) := by
  obtain ⟨f, -, hf⟩ := List.exists_of_findSome?_eq_some h
  unfold Field.scaleRefusal? at hf
  split at hf
  · split_ifs at hf
    cases hf
    exact ⟨_, _, rfl⟩
  · cases hf

end FixtureMatrix
