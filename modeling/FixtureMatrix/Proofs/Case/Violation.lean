import FixtureMatrix.Proofs.Case.Admission

/-!
# The first violation of a case

A check that goes through a tree in depth-first order and stops at its first
objection is told by two things: the list of the places in that order, and what is
objected to at one place, whatever is inside it.  `FirstFault` puts the two
together.

`FixtureCase.FirstViolation` says by rules which error a case has, with all that must
hold before it: the decimals of the schema come first, then the columns in order,
each with its name, its length and its values, then the fields that are left over.

* `Field.reports_checkDecimals`, `Value.reports_check`: the two recursive checks
  report the first fault along their places.
* `validate_eq_error_iff`: the check of a case fails with an error exactly when that
  is its first violation.
-/

namespace FixtureMatrix

/-! ## First faults -/

section FirstFault

variable {α ε : Type} {Fault : α → ε → Prop} {l r : List α} {a : α} {e : ε}

/-- A fault of the first member of a list that has one. -/
inductive FirstFault (Fault : α → ε → Prop) : List α → ε → Prop
  | here {a : α} {l : List α} {e : ε} : Fault a e → FirstFault Fault (a :: l) e
  | later {a : α} {l : List α} {e : ε} :
      (∀ e', ¬ Fault a e') → FirstFault Fault l e → FirstFault Fault (a :: l) e

theorem not_firstFault_nil : ¬ FirstFault Fault [] e := by
  intro h
  cases h

theorem firstFault_cons :
    FirstFault Fault (a :: l) e ↔ Fault a e ∨ (∀ e', ¬ Fault a e') ∧ FirstFault Fault l e := by
  constructor
  · intro h
    cases h with
    | here ha => exact Or.inl ha
    | later ha hl => exact Or.inr ⟨ha, hl⟩
  · rintro (ha | ⟨ha, hl⟩)
    · exact .here ha
    · exact .later ha hl

theorem firstFault_append :
    FirstFault Fault (l ++ r) e ↔
      FirstFault Fault l e ∨ (∀ a ∈ l, ∀ e', ¬ Fault a e') ∧ FirstFault Fault r e := by
  induction l with
  | nil => simp [not_firstFault_nil]
  | cons a l ih =>
    rw [List.cons_append, firstFault_cons, firstFault_cons, ih, List.forall_mem_cons]
    tauto

theorem exists_firstFault_iff : (∃ e, FirstFault Fault l e) ↔ ∃ a ∈ l, ∃ e, Fault a e := by
  induction l with
  | nil => simp [not_firstFault_nil]
  | cons a l ih =>
    simp only [firstFault_cons, exists_or, exists_and_left, ih, List.exists_mem_cons_iff]
    by_cases ha : ∃ e, Fault a e
    · simp [ha]
    · simp [not_exists.1 ha]

/-- A check fails with the first fault along a list, and only so. -/
def Reports (Fault : α → ε → Prop) (l : List α) (x : Except ε Unit) : Prop :=
  ∀ e, x = .error e ↔ FirstFault Fault l e

namespace Reports

variable {x y : Except ε Unit}

theorem eq_ok_iff (h : Reports Fault l x) : x = .ok () ↔ ∀ a ∈ l, ∀ e, ¬ Fault a e := by
  have hnone : x = .ok () ↔ ¬ ∃ e, x = .error e := by
    cases x with
    | error e => simp
    | ok u => simp
  rw [hnone, exists_congr h, exists_firstFault_iff]
  simp

theorem nil : Reports Fault [] (.ok ()) := by
  intro e
  simp [not_firstFault_nil]

/-- A fault at the first place is reported, whatever comes behind. -/
theorem fault (h : ∀ e', Fault a e' ↔ e' = e) : Reports Fault (a :: l) (.error e) := by
  intro e'
  have hany : ¬ ∀ e', ¬ Fault a e' := fun hno => hno e ((h e).2 rfl)
  rw [firstFault_cons, h e']
  simp [hany, eq_comm]

theorem pass (h : ∀ e, ¬ Fault a e) (hx : Reports Fault l x) : Reports Fault (a :: l) x := by
  intro e
  rw [hx e, firstFault_cons]
  simp [h]

theorem andThen (hx : Reports Fault l x) (hy : Reports Fault r y) :
    Reports Fault (l ++ r) (do x; y) := by
  intro e
  rw [then_eq_error_iff, firstFault_append, hx e, hy e, hx.eq_ok_iff]

end Reports

end FirstFault

/-! ## Decimals -/

mutual

/-- The fields inside a type, each before those inside it. -/
def LogicalType.places : LogicalType → List Field
  | .list item => item.places
  | .struct members => Field.allPlaces members
  | _ => []

/-- The field itself and then the fields inside it, in depth-first order. -/
def Field.places : Field → List Field
  | .mk name type nullable => .mk name type nullable :: type.places

/-- The fields with those inside them, in depth-first order. -/
def Field.allPlaces : List Field → List Field
  | [] => []
  | f :: fs => f.places ++ Field.allPlaces fs

end

/-- A field whose own type is a decimal that is not supported. -/
inductive Field.DecimalFault : Field → UnsupportedDecimal → Prop
  | mk (name : String) (precision scale : Nat) (nullable : Bool) :
      ¬ SupportedDecimal precision scale →
      DecimalFault (.mk name (.decimal precision scale) nullable) ⟨name, precision, scale⟩

theorem Field.decimalFault_decimal {name : String} {precision scale : Nat} {nullable : Bool}
    {d : UnsupportedDecimal} :
    DecimalFault (.mk name (.decimal precision scale) nullable) d ↔
      ¬ SupportedDecimal precision scale ∧ d = ⟨name, precision, scale⟩ := by
  constructor
  · rintro ⟨⟩
    rename_i h
    exact ⟨h, rfl⟩
  · rintro ⟨h, rfl⟩
    exact .mk name precision scale nullable h

mutual

theorem Field.reports_checkDecimals :
    ∀ f : Field, Reports Field.DecimalFault f.places f.checkDecimals
  | .mk name (.decimal precision scale) nullable => by
    have hplaces : (Field.mk name (.decimal precision scale) nullable).places =
        [.mk name (.decimal precision scale) nullable] := rfl
    rw [hplaces, Field.checkDecimals, LogicalType.checkDecimals]
    split
    · rename_i hbad
      have hunsupported : ¬ SupportedDecimal precision scale := by
        rwa [supportedDecimal_iff, not_not]
      exact Reports.fault fun d => by simp [Field.decimalFault_decimal, hunsupported]
    · rename_i hgood
      have hsupported : SupportedDecimal precision scale := supportedDecimal_iff.2 hgood
      exact Reports.pass (fun d => by simp [Field.decimalFault_decimal, hsupported]) Reports.nil
  | .mk name (.list item) nullable => by
    rw [Field.checkDecimals, Field.places, LogicalType.places, LogicalType.checkDecimals]
    exact Reports.pass (fun d h => nomatch h) (Field.reports_checkDecimals item)
  | .mk name (.struct members) nullable => by
    rw [Field.checkDecimals, Field.places, LogicalType.places, LogicalType.checkDecimals]
    exact Reports.pass (fun d h => nomatch h) (Field.reports_checkAllDecimals members)
  | .mk _ .bool _ | .mk _ .int16 _ | .mk _ .int64 _ | .mk _ .uint32 _ | .mk _ .float64 _
  | .mk _ .utf8 _ | .mk _ .largeBinary _ | .mk _ (.timestamp _ _) _ =>
    Reports.pass (fun d h => nomatch h) Reports.nil

theorem Field.reports_checkAllDecimals :
    ∀ fs : List Field, Reports Field.DecimalFault (Field.allPlaces fs) (Field.checkAllDecimals fs)
  | [] => Reports.nil
  | f :: fs => (Field.reports_checkDecimals f).andThen (Field.reports_checkAllDecimals fs)

end

/-! ## Values -/

/-- A value has the form that a type asks for, whatever stands inside it. -/
inductive LogicalType.Suits : LogicalType → Value → Prop
  | value {t : LogicalType} {v : Value} : t.Holds v → LogicalType.Suits t v
  | list (item : Field) (items : List Value) : LogicalType.Suits (.list item) (.list items)
  | struct {members : List Field} {parts : List Value} : members.length = parts.length →
      LogicalType.Suits (.struct members) (.struct parts)

mutual

/-- The value with its field and then, in depth-first order, each value inside it with
the field it is for. -/
def Value.positions (f : Field) : Value → List (Field × Value)
  | .list items => (f, .list items) ::
    match f.type with
    | .list item => Value.itemPositions item items
    | _ => []
  | .struct parts => (f, .struct parts) ::
    match f.type with
    | .struct members => Value.memberPositions members parts
    | _ => []
  | v => [(f, v)]

/-- The positions of the items of a list. -/
def Value.itemPositions (item : Field) : List Value → List (Field × Value)
  | [] => []
  | v :: vs => v.positions item ++ Value.itemPositions item vs

/-- The positions of the members of a struct. -/
def Value.memberPositions : List Field → List Value → List (Field × Value)
  | f :: fs, v :: vs => v.positions f ++ Value.memberPositions fs vs
  | _, _ => []

end

namespace LogicalType

variable {t : LogicalType}

theorem suits_iff {v : Value} :
    t.Suits v ↔ t.Holds v ∨ (∃ item items, t = .list item ∧ v = .list items) ∨
      ∃ members parts, t = .struct members ∧ v = .struct parts ∧
        members.length = parts.length := by
  constructor
  · intro h
    cases h with
    | value hv => exact Or.inl hv
    | list item items => exact Or.inr (Or.inl ⟨item, items, rfl, rfl⟩)
    | struct hlen => exact Or.inr (Or.inr ⟨_, _, rfl, rfl, hlen⟩)
  · rintro (hv | ⟨item, items, rfl, rfl⟩ | ⟨members, parts, rfl, rfl, hlen⟩)
    · exact .value hv
    · exact .list item items
    · exact .struct hlen

theorem suits_list_iff {items : List Value} :
    t.Suits (.list items) ↔ ∃ item, t = .list item := by
  simp only [suits_iff, holds_list_iff, Value.list.injEq, reduceCtorEq, false_and, and_false,
    exists_false, or_false, exists_and_left, exists_eq', and_true]
  constructor
  · rintro (⟨item, ht, -⟩ | h)
    · exact ⟨item, ht⟩
    · exact h
  · exact Or.inr

theorem suits_struct_iff {parts : List Value} :
    t.Suits (.struct parts) ↔
      ∃ members, t = .struct members ∧ members.length = parts.length := by
  constructor
  · intro h
    cases h with
    | value hv =>
      obtain ⟨members, rfl, hparts⟩ := holds_struct_iff.1 hv
      exact ⟨members, rfl, hparts.length_eq⟩
    | struct hlen => exact ⟨_, rfl, hlen⟩
  · rintro ⟨members, rfl, hlen⟩
    exact .struct hlen

end LogicalType

/-- What is wrong at a position itself: a null where the field is not nullable, or a
value that has not the form of the type. -/
inductive Field.Misfits : Field × Value → Misfit → Prop
  | null {f : Field} : f.nullable = false → Misfits (f, .null) .null
  | shape {f : Field} {v : Value} : v ≠ .null → ¬ f.type.Suits v →
      Misfits (f, v) (.shape f.type)

namespace Field

variable {f : Field} {v : Value} {e : Misfit}

theorem misfits_null_iff : Misfits (f, .null) e ↔ f.nullable = false ∧ e = .null := by
  constructor
  · intro h
    cases h with
    | null hn => exact ⟨hn, rfl⟩
    | shape hv => exact absurd rfl hv
  · rintro ⟨hn, rfl⟩
    exact .null hn

theorem misfits_iff (hv : v ≠ .null) :
    Misfits (f, v) e ↔ ¬ f.type.Suits v ∧ e = .shape f.type := by
  constructor
  · intro h
    cases h with
    | null => exact absurd rfl hv
    | shape _ hs => exact ⟨hs, rfl⟩
  · rintro ⟨hs, rfl⟩
    exact .shape hv hs

end Field

namespace Value

/-- A value that is not null has nothing wrong with itself when it has the form of the
type, and what is inside it is checked then. -/
theorem reports_position {f : Field} {v : Value} {l : List (Field × Value)}
    {x : Except Misfit Unit} (hv : v ≠ .null)
    (hsuits : f.type.Suits v → Reports Field.Misfits l x)
    (hother : ¬ f.type.Suits v → x = .error (.shape f.type)) :
    Reports Field.Misfits ((f, v) :: l) x := by
  by_cases hs : f.type.Suits v
  · exact Reports.pass (fun e => by simp [Field.misfits_iff hv, hs]) (hsuits hs)
  · rw [hother hs]
    exact Reports.fault fun e => by simp [Field.misfits_iff hv, hs]

mutual

theorem reports_check (f : Field) : ∀ v : Value, Reports Field.Misfits (v.positions f) (v.check f)
  | .null => by
    rw [check]
    split
    · rename_i hn
      exact Reports.pass (fun e => by simp [Field.misfits_null_iff, hn]) Reports.nil
    · rename_i hn
      exact Reports.fault fun e => by simp [Field.misfits_null_iff, hn]
  | .bool b => by
    refine reports_position (by simp) ?_ ?_ <;>
      rw [LogicalType.suits_iff, LogicalType.holds_bool_iff, check]
    · simp +contextual [Reports.nil]
    · split <;> simp_all
  | .int n => by
    refine reports_position (by simp) ?_ ?_ <;>
      rw [LogicalType.suits_iff, LogicalType.holds_int_iff, check]
    · simp +contextual [Reports.nil]
    · simp +contextual
  | .float x => by
    refine reports_position (by simp) ?_ ?_ <;>
      rw [LogicalType.suits_iff, LogicalType.holds_float_iff, check]
    · simp +contextual [Reports.nil]
    · split <;> simp_all
  | .str s => by
    refine reports_position (by simp) ?_ ?_ <;>
      rw [LogicalType.suits_iff, LogicalType.holds_str_iff, check]
    · split <;> simp_all [Reports.nil]
    · split <;> simp_all
  | .list items => by
    rw [positions]
    refine reports_position (by simp) ?_ ?_ <;> rw [LogicalType.suits_list_iff, check]
    · rintro ⟨item, ht⟩
      rw [ht]
      exact reports_checkItems item items
    · intro hno
      split
      · rename_i item ht
        exact absurd ⟨item, ht⟩ hno
      · rfl
  | .struct parts => by
    rw [positions]
    refine reports_position (by simp) ?_ ?_ <;> rw [LogicalType.suits_struct_iff, check]
    · rintro ⟨members, ht, hlen⟩
      simp only [ht, if_pos hlen]
      exact reports_checkMembers members parts
    · intro hno
      split
      · rename_i members ht
        rw [if_neg fun hlen => hno ⟨members, ht, hlen⟩, ht]
      · rfl

theorem reports_checkItems (item : Field) :
    ∀ vs : List Value, Reports Field.Misfits (itemPositions item vs) (checkItems item vs)
  | [] => Reports.nil
  | v :: vs => (reports_check item v).andThen (reports_checkItems item vs)

theorem reports_checkMembers : ∀ (fs : List Field) (vs : List Value),
    Reports Field.Misfits (memberPositions fs vs) (checkMembers fs vs)
  | f :: fs, v :: vs => (reports_check f v).andThen (reports_checkMembers fs vs)
  | [], _ => by
    rw [memberPositions, checkMembers] <;> simp [Reports.nil]
  | _ :: _, [] => Reports.nil

end

end Value

/-! ## Columns -/

namespace Field

/-- The first row of a list of values that holds one which the field does not admit. -/
structure LeastRow (f : Field) (vs : List Value) (row : Nat) (v : Value) : Prop where
  value : vs[row]? = some v
  refused : ¬ f.Admits v
  earlier : ∀ i < row, ∀ w, vs[i]? = some w → f.Admits w

/-- The first thing that is wrong with a column: its name, its length, or the first
fault of the least row that the field does not admit. -/
inductive ColumnFault (rows : Nat) (f : Field) (column : Column) : CaseError → Prop
  | name : f.name ≠ column.name → ColumnFault rows f column (.missingColumn f.name)
  | length : f.name = column.name → column.values.length ≠ rows →
      ColumnFault rows f column (.rowCountMismatch column.name rows column.values.length)
  | null {row : Nat} {v : Value} : f.name = column.name → column.values.length = rows →
      f.LeastRow column.values row v → FirstFault Misfits (v.positions f) .null →
      ColumnFault rows f column (.nullInRequired column.name row)
  | shape {row : Nat} {v : Value} {type : LogicalType} : f.name = column.name →
      column.values.length = rows → f.LeastRow column.values row v →
      FirstFault Misfits (v.positions f) (.shape type) →
      ColumnFault rows f column (.typeMismatch column.name row type)

variable {f : Field} {c : Column} {v : Value} {vs : List Value} {rows : Nat} {e : CaseError}

/-- The first row is the least one refused, or it is admitted and the least one is
behind it. -/
theorem leastRow_cons {row : Nat} {w : Value} :
    f.LeastRow (v :: vs) row w ↔
      (row = 0 ∧ v = w ∧ ¬ f.Admits v) ∨
        ∃ i, row = i + 1 ∧ f.Admits v ∧ f.LeastRow vs i w := by
  cases row with
  | zero =>
    constructor
    · rintro ⟨hvalue, hrefused, -⟩
      cases hvalue
      exact Or.inl ⟨rfl, rfl, hrefused⟩
    · rintro (⟨-, rfl, hrefused⟩ | ⟨i, hi, -⟩)
      · exact ⟨rfl, hrefused, fun i hi => absurd hi (Nat.not_lt_zero i)⟩
      · cases hi
  | succ row =>
    constructor
    · rintro ⟨hvalue, hrefused, hearlier⟩
      refine Or.inr ⟨row, rfl, hearlier 0 (Nat.succ_pos row) v rfl, hvalue, hrefused, ?_⟩
      intro i hi
      exact hearlier (i + 1) (Nat.succ_lt_succ hi)
    · rintro (⟨hrow, -⟩ | ⟨i, hi, hv, hvalue, hrefused, hearlier⟩)
      · cases hrow
      · cases hi
        refine ⟨hvalue, hrefused, ?_⟩
        intro i hi w hw
        cases i with
        | zero =>
          cases hw
          exact hv
        | succ i => exact hearlier i (Nat.lt_of_succ_lt_succ hi) w hw

theorem checkRows_eq_error_iff {name : String} : ∀ {start : Nat} {vs : List Value},
    f.checkRows name start vs = .error e ↔
      ∃ row v m, f.LeastRow vs row v ∧ FirstFault Misfits (v.positions f) m ∧
        e = m.inRow name (start + row)
  | start, [] => by
    constructor
    · intro h
      cases h
    · rintro ⟨row, v, m, h, -⟩
      cases h.value
  | start, v :: vs => by
    have hreports := v.reports_check f
    simp only [leastRow_cons]
    rw [checkRows]
    split
    · rename_i hok
      have hv : f.Admits v := (v.check_eq_ok_iff f).1 hok
      rw [checkRows_eq_error_iff]
      constructor
      · rintro ⟨row, w, m, hrow, hm, rfl⟩
        refine ⟨row + 1, w, m, Or.inr ⟨row, rfl, hv, hrow⟩, hm, ?_⟩
        rw [Nat.add_assoc, Nat.add_comm 1 row]
      · rintro ⟨row, w, m, ⟨-, rfl, hrefused⟩ | ⟨i, rfl, -, hrow⟩, hm, rfl⟩
        · exact absurd hv hrefused
        · refine ⟨i, w, m, hrow, hm, ?_⟩
          rw [Nat.add_assoc, Nat.add_comm 1 i]
    · rename_i first herror
      have hv : ¬ f.Admits v := by
        rw [← v.check_eq_ok_iff f, herror]
        simp
      constructor
      · rintro ⟨⟩
        exact ⟨0, v, first, Or.inl ⟨rfl, rfl, hv⟩, (hreports first).1 herror, rfl⟩
      · rintro ⟨row, w, m, ⟨rfl, rfl, -⟩ | ⟨i, rfl, hadmits, -⟩, hm, rfl⟩
        · have hsame : v.check f = .error m := (hreports m).2 hm
          rw [herror] at hsame
          cases hsame
          rfl
        · exact absurd hadmits hv

theorem checkColumn_eq_error_iff : f.checkColumn rows c = .error e ↔ f.ColumnFault rows c e := by
  rw [checkColumn]
  split_ifs with hname hlength
  · constructor
    · rintro ⟨⟩
      exact .name hname
    · rintro (_ | ⟨hsame, -⟩ | ⟨hsame, -, -, -⟩ | ⟨hsame, -, -, -⟩)
      · rfl
      all_goals exact absurd hsame hname
  · have hsame : f.name = c.name := not_not.1 hname
    constructor
    · rintro ⟨⟩
      exact .length hsame hlength
    · rintro (hother | _ | ⟨-, hrows, -, -⟩ | ⟨-, hrows, -, -⟩)
      · exact absurd hother hname
      · rfl
      all_goals exact absurd hrows hlength
  · have hsame : f.name = c.name := not_not.1 hname
    have hrows : c.values.length = rows := not_not.1 hlength
    rw [checkRows_eq_error_iff]
    constructor
    · rintro ⟨row, v, m, hrow, hm, rfl⟩
      rw [Nat.zero_add]
      cases m with
      | null => exact .null hsame hrows hrow hm
      | shape type => exact .shape hsame hrows hrow hm
    · rintro (hother | ⟨-, hother⟩ | ⟨-, -, hrow, hm⟩ | ⟨-, -, hrow, hm⟩)
      · exact absurd hother hname
      · exact absurd hother hlength
      · exact ⟨_, _, .null, hrow, hm, by rw [Nat.zero_add, Misfit.inRow]⟩
      · exact ⟨_, _, .shape _, hrow, hm, by rw [Nat.zero_add, Misfit.inRow]⟩

/-- Each of the first `i` columns belongs to the field in its place. -/
def FitBefore (rows : Nat) (fs : List Field) (cs : List Column) (i : Nat) : Prop :=
  ∀ j < i, ∃ f c, fs[j]? = some f ∧ cs[j]? = some c ∧ f.Fits rows c

/-- The first thing that is wrong with the columns in their order: one without a
field, one with a fault of its own, or a field beyond the last of them. -/
inductive ColumnsFault (rows : Nat) (fs : List Field) (cs : List Column) : CaseError → Prop
  | unexpected {i : Nat} {c : Column} : FitBefore rows fs cs i → cs[i]? = some c →
      fs[i]? = none → ColumnsFault rows fs cs (.unexpectedColumn c.name)
  | column {i : Nat} {f : Field} {c : Column} {e : CaseError} : FitBefore rows fs cs i →
      cs[i]? = some c → fs[i]? = some f → f.ColumnFault rows c e → ColumnsFault rows fs cs e
  | missing {f : Field} : FitBefore rows fs cs cs.length → fs[cs.length]? = some f →
      ColumnsFault rows fs cs (.missingColumn f.name)

variable {fs : List Field} {cs : List Column}

theorem fitBefore_zero : FitBefore rows fs cs 0 :=
  fun j hj => absurd hj (Nat.not_lt_zero j)

theorem fitBefore_cons {i : Nat} :
    FitBefore rows (f :: fs) (c :: cs) (i + 1) ↔ f.Fits rows c ∧ FitBefore rows fs cs i := by
  simp only [FitBefore, Nat.forall_lt_succ_left]
  simp

theorem columnsFault_nil : ¬ ColumnsFault rows [] [] e := by
  rintro (⟨-, hc, -⟩ | ⟨-, hc, -, -⟩ | ⟨-, hf⟩)
  · cases hc
  · cases hc
  · cases hf

theorem columnsFault_nil_cons :
    ColumnsFault rows [] (c :: cs) e ↔ e = .unexpectedColumn c.name := by
  constructor
  · rintro (⟨hbefore, hc, -⟩ | ⟨-, -, hf, -⟩ | ⟨-, hf⟩)
    · rename_i i d
      cases i with
      | zero =>
        cases hc
        rfl
      | succ i =>
        obtain ⟨f, -, hf, -⟩ := hbefore 0 (Nat.succ_pos i)
        cases hf
    · cases hf
    · cases hf
  · rintro rfl
    exact .unexpected fitBefore_zero rfl rfl

theorem columnsFault_cons_nil :
    ColumnsFault rows (f :: fs) [] e ↔ e = .missingColumn f.name := by
  constructor
  · rintro (⟨-, hc, -⟩ | ⟨-, hc, -, -⟩ | ⟨-, hf⟩)
    · cases hc
    · cases hc
    · cases hf
      rfl
  · rintro rfl
    exact .missing fitBefore_zero rfl

theorem columnsFault_cons_cons :
    ColumnsFault rows (f :: fs) (c :: cs) e ↔
      f.ColumnFault rows c e ∨ f.Fits rows c ∧ ColumnsFault rows fs cs e := by
  constructor
  · rintro (⟨hbefore, hc, hf⟩ | ⟨hbefore, hc, hf, hfault⟩ | ⟨hbefore, hf⟩)
    · rename_i i d
      cases i with
      | zero => cases hf
      | succ i =>
        obtain ⟨hfirst, hbefore⟩ := fitBefore_cons.1 hbefore
        exact Or.inr ⟨hfirst, .unexpected hbefore hc hf⟩
    · rename_i i g d
      cases i with
      | zero =>
        cases hc
        cases hf
        exact Or.inl hfault
      | succ i =>
        obtain ⟨hfirst, hbefore⟩ := fitBefore_cons.1 hbefore
        exact Or.inr ⟨hfirst, .column hbefore hc hf hfault⟩
    · obtain ⟨hfirst, hbefore⟩ := fitBefore_cons.1 hbefore
      exact Or.inr ⟨hfirst, .missing hbefore hf⟩
  · rintro (hfault | ⟨hfirst, ⟨hbefore, hc, hf⟩ | ⟨hbefore, hc, hf, hfault⟩ | ⟨hbefore, hf⟩⟩)
    · exact .column fitBefore_zero rfl rfl hfault
    · exact .unexpected (fitBefore_cons.2 ⟨hfirst, hbefore⟩) hc hf
    · exact .column (fitBefore_cons.2 ⟨hfirst, hbefore⟩) hc hf hfault
    · exact .missing (fitBefore_cons.2 ⟨hfirst, hbefore⟩) hf

theorem checkColumns_eq_error_iff : ∀ {fs : List Field} {cs : List Column},
    checkColumns rows fs cs = .error e ↔ ColumnsFault rows fs cs e
  | [], [] => by simp [checkColumns, columnsFault_nil]
  | [], c :: cs => by simp [checkColumns, columnsFault_nil_cons, eq_comm]
  | f :: fs, [] => by simp [checkColumns, columnsFault_cons_nil, eq_comm]
  | f :: fs, c :: cs => by
    rw [checkColumns, columnsFault_cons_cons, then_eq_error_iff, checkColumn_eq_error_iff,
      checkColumn_eq_ok_iff, checkColumns_eq_error_iff]

end Field

/-! ## Cases -/

namespace FixtureCase

variable {c : FixtureCase} {e : CaseError}

/-- The first violation of a case: a decimal in its schema, or, with all decimals in
order, what is wrong with its columns. -/
inductive FirstViolation (c : FixtureCase) : CaseError → Prop
  | decimal {d : UnsupportedDecimal} :
      FirstFault Field.DecimalFault (Field.allPlaces c.schema.fields) d →
      FirstViolation c (.invalidDecimal d)
  | columns {e : CaseError} :
      (∀ f ∈ Field.allPlaces c.schema.fields, ∀ d, ¬ f.DecimalFault d) →
      Field.ColumnsFault c.numRows c.schema.fields c.columns e → FirstViolation c e

/-- The check of a case fails with an error exactly when that is its first violation. -/
theorem validate_eq_error_iff : c.validate = .error e ↔ c.FirstViolation e := by
  have hdecimals := Field.reports_checkAllDecimals c.schema.fields
  rw [validate]
  split
  · rename_i d hd
    constructor
    · rintro ⟨⟩
      exact .decimal ((hdecimals d).1 hd)
    · rintro (hfault | ⟨hall, -⟩)
      · have hsame := (hdecimals _).2 hfault
        rw [hd] at hsame
        cases hsame
        rfl
      · rw [← hdecimals.eq_ok_iff, hd] at hall
        cases hall
  · rename_i hok
    rw [Field.checkColumns_eq_error_iff]
    constructor
    · exact .columns (hdecimals.eq_ok_iff.1 hok)
    · rintro (hfault | ⟨-, hcolumns⟩)
      · have herror := (hdecimals _).2 hfault
        rw [hok] at herror
        cases herror
      · exact hcolumns

/-- A null that is too many stands behind an item that is too large: the item is
reported, with its own type and the row of the column. -/
example : FixtureCase.validate
    { id := "case"
      schema := ⟨[.required "s" (.struct [.optional "l" (.list (.required "item" .int16)),
        .required "t" .utf8])]⟩
      columns := [⟨"s", [.struct [.null, .str ""], .struct [.list [.int 40000, .null], .null]]⟩]
      fileName := "case.parquet" } = .error (.typeMismatch "s" 1 .int16) :=
  rfl

end FixtureCase

end FixtureMatrix
