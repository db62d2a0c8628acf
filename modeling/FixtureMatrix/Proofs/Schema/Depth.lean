import FixtureMatrix.Proofs.Outcome
import FixtureMatrix.Schema.Decimal
import Mathlib.Tactic.SplitIfs

/-!
# Types at every depth

`LogicalType.inside` lists a type with all types inside it, so that a property
of a schema at every depth is one about the members of that list.

* `checkAllDecimals_eq_ok_iff`: the decimals of several fields pass the check
  exactly when each decimal type inside has 1 to 38 digits and no more digits
  behind the point than in all.
-/

namespace FixtureMatrix

/-! ## The types inside a type -/

mutual

/-- The type itself and all types inside it. -/
def LogicalType.inside : LogicalType → List LogicalType
  | .list item => .list item :: item.inside
  | .struct members => .struct members :: Field.allInside members
  | t => [t]

/-- The types inside a field, its own among them. -/
def Field.inside : Field → List LogicalType
  | .mk _ type _ => type.inside

/-- The types inside several fields. -/
def Field.allInside : List Field → List LogicalType
  | [] => []
  | f :: fs => f.inside ++ Field.allInside fs

end

theorem Field.inside_eq (f : Field) : f.inside = f.type.inside := by
  obtain ⟨name, type, nullable⟩ := f
  rw [Field.inside, Field.type_mk]

theorem Field.mem_allInside {t : LogicalType} {fs : List Field} :
    t ∈ Field.allInside fs ↔ ∃ f ∈ fs, t ∈ f.inside := by
  induction fs with
  | nil => simp [Field.allInside]
  | cons f fs ih => simp [Field.allInside, ih]

/-- Inside a struct are the struct itself and what is inside its members. -/
theorem LogicalType.mem_inside_struct {t : LogicalType} {members : List Field} :
    t ∈ (LogicalType.struct members).inside ↔
      t = .struct members ∨ ∃ f ∈ members, t ∈ f.type.inside := by
  simp only [LogicalType.inside, List.mem_cons, Field.mem_allInside, Field.inside_eq]

/-! ## Structs without members -/

/-- No struct inside the type is without members. -/
def LogicalType.NoEmptyStruct (t : LogicalType) : Prop :=
  LogicalType.struct [] ∉ t.inside

/-- No struct inside the field is without members. -/
def Field.NoEmptyStruct (f : Field) : Prop :=
  f.type.NoEmptyStruct

theorem LogicalType.noEmptyStruct_list {item : Field} :
    (LogicalType.list item).NoEmptyStruct ↔ item.NoEmptyStruct := by
  simp [LogicalType.NoEmptyStruct, Field.NoEmptyStruct, LogicalType.inside, Field.inside_eq]

theorem LogicalType.noEmptyStruct_struct {members : List Field} :
    (LogicalType.struct members).NoEmptyStruct ↔
      members ≠ [] ∧ ∀ f ∈ members, f.NoEmptyStruct := by
  simp [LogicalType.NoEmptyStruct, Field.NoEmptyStruct, LogicalType.mem_inside_struct, eq_comm]

mutual

/-- An array of structs is as long as that of their first member.  So an array of
this type has no rows, whatever it is built from: a struct without members, or
one that starts with such a member. -/
def LogicalType.rowless : LogicalType → Bool
  | .struct members => Field.startRowless members
  | _ => false

/-- An array for this field has no rows. -/
def Field.rowless : Field → Bool
  | .mk _ type _ => type.rowless

/-- The first of several members gives their struct no rows. -/
def Field.startRowless : List Field → Bool
  | [] => true
  | f :: _ => f.rowless

end

mutual

theorem LogicalType.NoEmptyStruct.rowless :
    ∀ {t : LogicalType}, t.NoEmptyStruct → t.rowless = false
  | .struct members, h => by
    obtain ⟨hsome, hall⟩ := LogicalType.noEmptyStruct_struct.1 h
    rw [LogicalType.rowless]
    exact Field.startRowless_eq_false hsome hall
  | .bool, _ | .int16, _ | .int64, _ | .uint32, _ | .float64, _ | .utf8, _ | .largeBinary, _
  | .decimal _ _, _ | .timestamp _ _, _ | .list _, _ => by rw [LogicalType.rowless]; simp

theorem Field.NoEmptyStruct.rowless : ∀ {f : Field}, f.NoEmptyStruct → f.rowless = false
  | .mk _ type _, h => by
    rw [Field.rowless]
    exact LogicalType.NoEmptyStruct.rowless h

theorem Field.startRowless_eq_false :
    ∀ {fs : List Field}, fs ≠ [] → (∀ f ∈ fs, f.NoEmptyStruct) → Field.startRowless fs = false
  | [], hsome, _ => absurd rfl hsome
  | f :: fs, _, hall => by
    rw [Field.startRowless]
    exact Field.NoEmptyStruct.rowless (hall f List.mem_cons_self)

end

/-! ## Types without floating-point numbers -/

/-- No type inside is `float64`. -/
def LogicalType.NoFloat (t : LogicalType) : Prop :=
  LogicalType.float64 ∉ t.inside

theorem LogicalType.NoFloat.ne_float64 {t : LogicalType} (h : t.NoFloat) : t ≠ .float64 := by
  rintro rfl
  exact h List.mem_cons_self

theorem LogicalType.noFloat_list {item : Field} :
    (LogicalType.list item).NoFloat ↔ item.type.NoFloat := by
  simp [LogicalType.NoFloat, LogicalType.inside, Field.inside_eq]

theorem LogicalType.noFloat_struct {members : List Field} :
    (LogicalType.struct members).NoFloat ↔ ∀ f ∈ members, f.type.NoFloat := by
  simp [LogicalType.NoFloat, LogicalType.mem_inside_struct]

/-! ## Types without lists -/

/-- No type inside is a list. -/
def LogicalType.NoList (t : LogicalType) : Prop :=
  ∀ item, LogicalType.list item ∉ t.inside

theorem LogicalType.noList_struct {members : List Field} :
    (LogicalType.struct members).NoList ↔ ∀ f ∈ members, f.type.NoList := by
  simp only [LogicalType.NoList, LogicalType.mem_inside_struct, reduceCtorEq, false_or]
  constructor
  · intro h f hf item hmem
    exact h item ⟨f, hf, hmem⟩
  · rintro h item ⟨f, hf, hmem⟩
    exact h f hf item hmem

/-! ## Decimals -/

/-- The precision and the scale that a decimal type can have. -/
def SupportedDecimal (precision scale : Nat) : Prop :=
  1 ≤ precision ∧ precision ≤ maxDecimalPrecision ∧ scale ≤ precision

/-- Every decimal type inside is supported. -/
def LogicalType.DecimalsSupported (t : LogicalType) : Prop :=
  ∀ precision scale, LogicalType.decimal precision scale ∈ t.inside →
    SupportedDecimal precision scale

/-- Every decimal type inside is supported. -/
def Field.DecimalsSupported (f : Field) : Prop :=
  f.type.DecimalsSupported

theorem LogicalType.decimalsSupported_decimal {precision scale : Nat} :
    (LogicalType.decimal precision scale).DecimalsSupported ↔
      SupportedDecimal precision scale := by
  simp [LogicalType.DecimalsSupported, LogicalType.inside]

theorem LogicalType.decimalsSupported_list {item : Field} :
    (LogicalType.list item).DecimalsSupported ↔ item.DecimalsSupported := by
  simp [LogicalType.DecimalsSupported, Field.DecimalsSupported, LogicalType.inside,
    Field.inside_eq]

theorem LogicalType.decimalsSupported_struct {members : List Field} :
    (LogicalType.struct members).DecimalsSupported ↔ ∀ f ∈ members, f.DecimalsSupported := by
  simp only [LogicalType.DecimalsSupported, Field.DecimalsSupported,
    LogicalType.mem_inside_struct, reduceCtorEq, false_or]
  constructor
  · intro h f hf precision scale hmem
    exact h precision scale ⟨f, hf, hmem⟩
  · rintro h precision scale ⟨f, hf, hmem⟩
    exact h f hf precision scale hmem

/-- The check of a single decimal type refuses exactly what is not supported. -/
theorem supportedDecimal_iff {precision scale : Nat} :
    SupportedDecimal precision scale ↔
      ¬ (precision < scale ∨ decimalWidth? precision = none) := by
  have hwidth : decimalWidth? precision = none ↔ precision = 0 ∨ 38 < precision := by
    unfold decimalWidth? maxDecimalPrecision
    split_ifs <;> simp <;> omega
  rw [hwidth]
  unfold SupportedDecimal maxDecimalPrecision
  omega

mutual

theorem LogicalType.checkDecimals_eq_ok_iff (name : String) :
    ∀ t : LogicalType, t.checkDecimals name = .ok () ↔ t.DecimalsSupported
  | .decimal precision scale => by
    rw [LogicalType.checkDecimals, guard_eq_ok_iff, LogicalType.decimalsSupported_decimal,
      supportedDecimal_iff]
    simp
  | .list item => by
    rw [LogicalType.checkDecimals, LogicalType.decimalsSupported_list,
      Field.checkDecimals_eq_ok_iff item]
  | .struct members => by
    rw [LogicalType.checkDecimals, LogicalType.decimalsSupported_struct,
      Field.checkAllDecimals_eq_ok_iff members]
  | .bool | .int16 | .int64 | .uint32 | .float64 | .utf8 | .largeBinary | .timestamp _ _ => by
    simp [LogicalType.checkDecimals, LogicalType.DecimalsSupported, LogicalType.inside]

theorem Field.checkDecimals_eq_ok_iff :
    ∀ f : Field, f.checkDecimals = .ok () ↔ f.DecimalsSupported
  | .mk name type nullable => by
    rw [Field.checkDecimals, LogicalType.checkDecimals_eq_ok_iff name type]
    rfl

theorem Field.checkAllDecimals_eq_ok_iff :
    ∀ fs : List Field, Field.checkAllDecimals fs = .ok () ↔ ∀ f ∈ fs, f.DecimalsSupported
  | [] => by simp [Field.checkAllDecimals]
  | f :: fs => by
    rw [Field.checkAllDecimals, then_eq_ok_iff, Field.checkDecimals_eq_ok_iff f,
      Field.checkAllDecimals_eq_ok_iff fs, List.forall_mem_cons]

end

end FixtureMatrix
