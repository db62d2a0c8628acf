import FixtureMatrix.Case.Validate
import FixtureMatrix.Proofs.Schema.Depth
import Mathlib.Data.List.Forall2

/-!
# Which values a field admits

`LogicalType.Holds` and `Field.Admits` say by rules, without any order of
checks, which values belong to a type and which a field may take.  A null is of
no type; a field admits it when it is nullable.

* `check_eq_ok_iff`: checking a value succeeds exactly when its field admits it.
* `validate_eq_ok_iff`: a case is valid exactly when its decimals are supported
  and its columns pair up with the fields, are equally long and hold only values
  that their fields admit.
-/

namespace FixtureMatrix

mutual

/-- The values of a type. -/
inductive LogicalType.Holds : LogicalType → Value → Prop
  | bool (b : Bool) : LogicalType.Holds .bool (.bool b)
  | int16 (n : Int64) : -32768 ≤ n.toInt → n.toInt ≤ 32767 →
      LogicalType.Holds .int16 (.int n)
  | uint32 (n : Int64) : 0 ≤ n.toInt → n.toInt ≤ 4294967295 → LogicalType.Holds .uint32 (.int n)
  | int64 (n : Int64) : LogicalType.Holds .int64 (.int n)
  | timestamp (unit : TimeUnit) (timezone : Option String) (n : Int64) :
      LogicalType.Holds (.timestamp unit timezone) (.int n)
  | decimal (precision scale : Nat) (n : Int64) : n.toInt.natAbs < Nat.pow 10 precision →
      LogicalType.Holds (.decimal precision scale) (.int n)
  | float64 (x : Binary64) : LogicalType.Holds .float64 (.float x)
  | utf8 (s : String) : LogicalType.Holds .utf8 (.str s)
  | largeBinary (s : String) : LogicalType.Holds .largeBinary (.str s)
  | list {item : Field} {items : List Value} :
      (∀ v ∈ items, Field.Admits item v) → LogicalType.Holds (.list item) (.list items)
  | struct {members : List Field} {parts : List Value} :
      List.Forall₂ Field.Admits members parts → LogicalType.Holds (.struct members) (.struct parts)

/-- The values that a field may take. -/
inductive Field.Admits : Field → Value → Prop
  | null (name : String) (type : LogicalType) : Field.Admits (.mk name type true) .null
  | value {name : String} {type : LogicalType} {nullable : Bool} {v : Value} :
      LogicalType.Holds type v → Field.Admits (.mk name type nullable) v

end

/-! ## The rules, read backwards -/

/-- The bound is exact, although it is left out where 128 bits do not hold it:
no value of 64 bits reaches that far. -/
theorem hasDigits_iff {precision : Nat} {n : Int64} :
    hasDigits precision n.toInt = true ↔ n.toInt.natAbs < Nat.pow 10 precision := by
  by_cases hword : Nat.pow 10 precision < Nat.pow 2 127
  · simp only [hasDigits, powerOfTen?, if_pos hword, decide_eq_true_eq]
  · have hlow := n.le_toInt
    have hhigh := n.toInt_lt
    have hsmall : n.toInt.natAbs < 2 ^ 127 := by omega
    have hbound : n.toInt.natAbs < Nat.pow 10 precision :=
      Nat.lt_of_lt_of_le hsmall (Nat.not_lt.1 hword)
    simp only [hasDigits, powerOfTen?, if_neg hword, hbound]

namespace LogicalType

variable {t : LogicalType}

theorem not_holds_null : ¬ t.Holds .null := by
  intro h
  cases h

theorem holds_bool_iff {b : Bool} : t.Holds (.bool b) ↔ t = .bool := by
  constructor
  · intro h
    cases h
    rfl
  · rintro rfl
    exact .bool b

theorem holds_int_iff {n : Int64} : t.Holds (.int n) ↔ t.acceptsInt n.toInt = true := by
  constructor
  · intro h
    cases h with
    | int16 _ hlow hhigh =>
      simp only [acceptsInt, Bool.and_eq_true, decide_eq_true_eq]
      omega
    | uint32 _ hlow hhigh =>
      simp only [acceptsInt, Bool.and_eq_true, decide_eq_true_eq]
      omega
    | decimal _ _ _ hn => exact hasDigits_iff.2 hn
    | int64 => rfl
    | timestamp => rfl
  · intro h
    cases t with
    | int16 =>
      simp only [acceptsInt, Bool.and_eq_true, decide_eq_true_eq] at h
      exact .int16 n (by omega) (by omega)
    | uint32 =>
      simp only [acceptsInt, Bool.and_eq_true, decide_eq_true_eq] at h
      exact .uint32 n (by omega) (by omega)
    | decimal precision scale =>
      exact .decimal precision scale n (hasDigits_iff.1 h)
    | int64 => exact .int64 n
    | timestamp unit timezone => exact .timestamp unit timezone n
    | _ => simp [acceptsInt] at h

theorem holds_float_iff {x : Binary64} : t.Holds (.float x) ↔ t = .float64 := by
  constructor
  · intro h
    cases h
    rfl
  · rintro rfl
    exact .float64 x

theorem holds_str_iff {s : String} : t.Holds (.str s) ↔ t = .utf8 ∨ t = .largeBinary := by
  constructor
  · intro h
    cases h with
    | utf8 => exact Or.inl rfl
    | largeBinary => exact Or.inr rfl
  · rintro (rfl | rfl)
    · exact .utf8 s
    · exact .largeBinary s

theorem holds_list_iff {items : List Value} :
    t.Holds (.list items) ↔ ∃ item, t = .list item ∧ ∀ v ∈ items, item.Admits v := by
  constructor
  · intro h
    cases h with
    | list hitems => exact ⟨_, rfl, hitems⟩
  · rintro ⟨item, rfl, hitems⟩
    exact .list hitems

theorem holds_struct_iff {parts : List Value} :
    t.Holds (.struct parts) ↔
      ∃ members, t = .struct members ∧ List.Forall₂ Field.Admits members parts := by
  constructor
  · intro h
    cases h with
    | struct hparts => exact ⟨_, rfl, hparts⟩
  · rintro ⟨members, rfl, hparts⟩
    exact .struct hparts

end LogicalType

namespace Field

/-- A field admits the values of its type, and null if it is nullable. -/
theorem admits_iff {f : Field} {v : Value} :
    f.Admits v ↔ (v = .null ∧ f.nullable = true) ∨ f.type.Holds v := by
  constructor
  · intro h
    cases h with
    | null => exact Or.inl ⟨rfl, rfl⟩
    | value hv => exact Or.inr hv
  · obtain ⟨name, type, nullable⟩ := f
    rintro (⟨rfl, hn⟩ | hv)
    · cases hn
      exact .null name type
    · exact .value hv

theorem admits_null_iff {f : Field} : f.Admits .null ↔ f.nullable = true := by
  simp [admits_iff, LogicalType.not_holds_null]

theorem admits_iff_holds {f : Field} {v : Value} (hv : v ≠ .null) :
    f.Admits v ↔ f.type.Holds v := by
  simp [admits_iff, hv]

end Field

/-! ## Checking values -/

namespace Value

mutual

theorem check_eq_ok_iff (f : Field) : ∀ v : Value, v.check f = .ok () ↔ f.Admits v
  | .null => by
    rw [Field.admits_null_iff, check]
    split <;> simp_all
  | .bool b => by
    rw [Field.admits_iff_holds (by simp), LogicalType.holds_bool_iff, check]
    split <;> simp_all
  | .int n => by
    rw [Field.admits_iff_holds (by simp), LogicalType.holds_int_iff, check]
    split <;> simp_all
  | .float x => by
    rw [Field.admits_iff_holds (by simp), LogicalType.holds_float_iff, check]
    split <;> simp_all
  | .str s => by
    rw [Field.admits_iff_holds (by simp), LogicalType.holds_str_iff, check]
    split <;> simp_all
  | .list items => by
    rw [Field.admits_iff_holds (by simp), LogicalType.holds_list_iff, check]
    split
    · rename_i item ht
      simp [ht, checkItems_eq_ok_iff item items]
    · rename_i hne
      refine iff_of_false (by simp) ?_
      rintro ⟨item, ht, -⟩
      exact hne item ht
  | .struct parts => by
    rw [Field.admits_iff_holds (by simp), LogicalType.holds_struct_iff, check]
    split
    · rename_i members ht
      split
      · rename_i hlen
        simp [ht, checkMembers_eq_ok_iff members parts hlen]
      · rename_i hlen
        have hno : ¬ List.Forall₂ Field.Admits members parts := fun h => hlen h.length_eq
        simp [ht, hno]
    · rename_i hne
      refine iff_of_false (by simp) ?_
      rintro ⟨members, ht, -⟩
      exact hne members ht

theorem checkItems_eq_ok_iff (item : Field) :
    ∀ vs : List Value, checkItems item vs = .ok () ↔ ∀ v ∈ vs, item.Admits v
  | [] => by simp [checkItems]
  | v :: vs => by
    rw [checkItems, then_eq_ok_iff, check_eq_ok_iff item v, checkItems_eq_ok_iff item vs,
      List.forall_mem_cons]

theorem checkMembers_eq_ok_iff : ∀ (fs : List Field) (vs : List Value), fs.length = vs.length →
    (checkMembers fs vs = .ok () ↔ List.Forall₂ Field.Admits fs vs)
  | [], [], _ => by simp [checkMembers]
  | f :: fs, v :: vs, hlen => by
    rw [checkMembers, then_eq_ok_iff, check_eq_ok_iff f v,
      checkMembers_eq_ok_iff fs vs (by simpa using hlen), List.forall₂_cons]

end

end Value

/-! ## Checking columns -/

namespace Field

theorem checkRows_eq_ok_iff (f : Field) (column : String) :
    ∀ (row : Nat) (vs : List Value), f.checkRows column row vs = .ok () ↔ ∀ v ∈ vs, f.Admits v
  | _, [] => by simp [checkRows]
  | row, v :: vs => by
    rw [checkRows, List.forall_mem_cons, ← Value.check_eq_ok_iff f v]
    cases h : v.check f with
    | ok => simp [checkRows_eq_ok_iff f column (row + 1) vs]
    | error e => simp

/-- A column belongs to a field: it has its name, a number of rows, and only
values that the field admits. -/
def Fits (rows : Nat) (f : Field) (c : Column) : Prop :=
  f.name = c.name ∧ c.values.length = rows ∧ ∀ v ∈ c.values, f.Admits v

theorem checkColumn_eq_ok_iff {f : Field} {rows : Nat} {c : Column} :
    f.checkColumn rows c = .ok () ↔ f.Fits rows c := by
  rw [checkColumn, guard_eq_ok_iff, guard_eq_ok_iff, checkRows_eq_ok_iff, Fits]
  simp

theorem checkColumns_eq_ok_iff (rows : Nat) : ∀ (fs : List Field) (cs : List Column),
    checkColumns rows fs cs = .ok () ↔ List.Forall₂ (Fits rows) fs cs
  | [], [] => by simp [checkColumns]
  | [], c :: cs => by simp [checkColumns]
  | f :: fs, [] => by simp [checkColumns]
  | f :: fs, c :: cs => by
    rw [checkColumns, then_eq_ok_iff, checkColumn_eq_ok_iff, checkColumns_eq_ok_iff rows fs cs,
      List.forall₂_cons]

end Field

theorem FixtureCase.validate_eq_ok_iff {c : FixtureCase} :
    c.validate = .ok () ↔ (∀ f ∈ c.schema.fields, f.DecimalsSupported) ∧
      List.Forall₂ (Field.Fits c.numRows) c.schema.fields c.columns := by
  rw [← Field.checkAllDecimals_eq_ok_iff, ← Field.checkColumns_eq_ok_iff, validate]
  split
  · rename_i d hd
    simp [hd]
  · rename_i hd
    simp [hd]

/-- The columns of a valid case are equally long. -/
theorem FixtureCase.length_values_of_valid {c : FixtureCase} (h : c.validate = .ok ()) :
    ∀ column ∈ c.columns, column.values.length = c.numRows := by
  have hfits := (validate_eq_ok_iff.1 h).2
  generalize c.numRows = rows, c.schema.fields = fields, c.columns = columns at hfits ⊢
  induction hfits with
  | nil => simp
  | cons hfit _ ih => exact List.forall_mem_cons.2 ⟨hfit.2.1, ih⟩

end FixtureMatrix
