import FixtureMatrix.Proofs.Columnar.Layout

/-!
# Why an array cannot be built

The loops of the builder stop at values that have not the form of their type.  Behind
them an array is refused as a whole: for its decimals, for the number of its items, or
for a null that may not stand where it does.  That two types differ is never among the
reasons.

* `cellsFrom_error`, `flattenFrom_error`, `membersFrom_error`: where a loop stops.
* `buildArray_leaf_error`, `buildArray_list_error`, `buildArray_struct_error`: an array
  cannot be built for a value of its own stream, for something inside it, or as a whole.
* `isTypeMismatch_of_buildArray`, `Batch.isTypeMismatch_of_build`: no check of types
  fails.
-/

namespace FixtureMatrix

open ColumnArray Value

/-! ## Loops that stop -/

/-- A loop over a stream stops at a value that is not null and has not the form of the
type. -/
inductive StopsAt (name : String) (t : LogicalType) : Nat → List Value → LayoutError → Prop
  | here {row : Nat} {v : Value} {vs : List Value} : v ≠ .null → ¬ t.Suits v →
      StopsAt name t row (v :: vs) (.valueMismatch name row t)
  | later {row : Nat} {v : Value} {vs : List Value} {e : LayoutError} :
      StopsAt name t (row + 1) vs e → StopsAt name t row (v :: vs) e

variable {name : String} {t : LogicalType} {row : Nat} {vs : List Value} {v : Value}
  {item : Field} {members : List Field} {e : LayoutError}

/-- The error has the number of the value, counted from where the loop began. -/
theorem StopsAt.exists_value (h : StopsAt name t row vs e) :
    ∃ i v, e = .valueMismatch name (row + i) t ∧ vs[i]? = some v ∧ v ≠ .null ∧ ¬ t.Suits v := by
  induction h with
  | here hv hsuits => exact ⟨0, _, rfl, rfl, hv, hsuits⟩
  | @later row v vs e _ ih =>
    obtain ⟨i, w, rfl, hw, hnull, hsuits⟩ := ih
    refine ⟨i + 1, w, ?_, hw, hnull, hsuits⟩
    rw [Nat.add_right_comm, Nat.add_assoc]

theorem StopsAt.of_eq (hnull : v ≠ .null) (hsuits : ¬ t.Suits v)
    (h : .valueMismatch name row t = e) : StopsAt name t row (v :: vs) e :=
  h ▸ .here hnull hsuits

namespace LogicalType

theorem not_suits_of_cell? (ht : t.isNested = false) (h : t.cell? v = none) : ¬ t.Suits v := by
  intro hsuits
  cases hsuits with
  | value hv =>
    cases hv with
    | int16 m hlow hhigh => rw [cell?, if_pos (by omega)] at h; cases h
    | uint32 m hlow hhigh => rw [cell?, if_pos (by omega)] at h; cases h
    | list => cases ht
    | struct => cases ht
    | _ => cases h
  | list => cases ht
  | struct => cases ht

theorem suits_list_of_iff : (list item).Suits v ↔ ∃ items, v = .list items := by
  constructor
  · intro h
    cases h with
    | value hv => cases hv; exact ⟨_, rfl⟩
    | list => exact ⟨_, rfl⟩
  · rintro ⟨items, rfl⟩
    exact .list item items

theorem suits_struct_of_iff : (struct members).Suits v ↔
    ∃ ps, v = .struct ps ∧ ps.length = members.length := by
  constructor
  · intro h
    cases h with
    | value hv => cases hv with | struct hparts => exact ⟨_, rfl, hparts.length_eq.symm⟩
    | struct hlen => exact ⟨_, rfl, hlen.symm⟩
  · rintro ⟨ps, rfl, hlen⟩
    exact .struct hlen.symm

end LogicalType

theorem cellsFrom_error (ht : t.isNested = false) (h : cellsFrom name t row vs = .error e) :
    StopsAt name t row vs e := by
  induction vs generalizing row with
  | nil => cases h
  | cons v vs ih =>
    by_cases hv : v = .null
    · subst hv
      rw [cellsFrom, bind_pure_eq_error_iff] at h
      exact .later (ih h)
    · rw [cellsFrom.eq_3 _ _ _ _ _ hv] at h
      cases hc : t.cell? v with
      | none =>
        rw [hc] at h
        exact .of_eq hv (LogicalType.not_suits_of_cell? ht hc) (Except.error.inj h)
      | some c =>
        simp only [hc, bind_pure_eq_error_iff] at h
        exact .later (ih h)

theorem flattenFrom_error {start : Nat} (h : flattenFrom name item row start vs = .error e) :
    StopsAt name (.list item) row vs e ∨ e = .unsupported (.listTooLong name) := by
  induction vs generalizing row start with
  | nil => cases h
  | cons v vs ih =>
    cases v with
    | null =>
      rw [flattenFrom, bind_pure_eq_error_iff] at h
      exact (ih h).imp_left .later
    | list items =>
      rw [flattenFrom, guard_eq_error_iff, bind_pure_eq_error_iff] at h
      rcases h with ⟨-, rfl⟩ | ⟨-, h⟩
      · exact Or.inr rfl
      · exact (ih h).imp_left .later
    | _ =>
      refine Or.inl (.of_eq (by simp) ?_ (Except.error.inj h))
      simp [LogicalType.suits_list_of_iff]

theorem membersFrom_error (h : membersFrom name members row vs = .error e) :
    StopsAt name (.struct members) row vs e := by
  induction vs generalizing row with
  | nil => cases h
  | cons v vs ih =>
    cases v with
    | null =>
      rw [membersFrom, bind_pure_eq_error_iff] at h
      exact .later (ih h)
    | struct ps =>
      rw [membersFrom] at h
      split at h
      · rw [bind_pure_eq_error_iff] at h
        exact .later (ih h)
      · next hlen =>
        exact .of_eq (by simp) (by simpa [LogicalType.suits_struct_of_iff] using hlen)
          (Except.error.inj h)
    | _ => exact .of_eq (by simp) (by simp [LogicalType.suits_struct_of_iff]) (Except.error.inj h)

/-! ## Arrays that are refused as a whole -/

/-- The checks that compare the type of an array with the one it is put under. -/
def ArrayError.isTypeMismatch : ArrayError → Bool
  | .listItemType _ _ _ | .memberType _ _ _ | .columnType _ _ _ => true
  | _ => false

def LayoutError.isTypeMismatch : LayoutError → Bool
  | .array cause => cause.isTypeMismatch
  | _ => false

/-- An array is refused as a whole, and not because types differ. -/
inductive LayoutError.Refusal : LayoutError → Prop
  | unsupported (cause : Unsupported) : Refusal (.unsupported cause)
  | array {cause : ArrayError} : cause.isTypeMismatch = false → Refusal (.array cause)

open LayoutError (Refusal)

theorem LayoutError.Refusal.isTypeMismatch (h : Refusal e) : e.isTypeMismatch = false := by
  cases h with
  | unsupported => rfl
  | array hcause => exact hcause

theorem StopsAt.isTypeMismatch (h : StopsAt name t row vs e) : e.isTypeMismatch = false := by
  obtain ⟨i, v, rfl, -⟩ := h.exists_value
  rfl

theorem checkDigits_error {precision : Nat} {cells : List (Option Scalar)}
    (h : checkDigits precision cells = .error e) : Refusal e := by
  fun_induction checkDigits precision cells with
  | case1 => cases h
  | case2 m cells hfits ih => exact ih h
  | case3 m cells hfits =>
    cases h
    exact .array rfl
  | case4 cell cells _ ih => exact ih h

theorem ofDecimals_error {precision : Nat} {scale : Int8} {cells : List (Option Scalar)}
    (h : ofDecimals precision scale cells = .error e) : Refusal e := by
  simp only [ofDecimals, guard_eq_error_iff, bind_pure_eq_error_iff] at h
  rcases h with ⟨-, rfl⟩ | ⟨-, ⟨-, rfl⟩ | ⟨-, ⟨-, rfl⟩ | ⟨-, ⟨-, rfl⟩ | ⟨-, h⟩⟩⟩⟩
  · exact .array rfl
  · exact .array rfl
  · exact .array rfl
  · exact .array rfl
  · exact checkDigits_error h

theorem refusal_of_findSome? {fs : List Field}
    (h : fs.findSome? Field.scaleRefusal? = some e) : Refusal e := by
  obtain ⟨scale, name, rfl⟩ := Field.unsupported_of_findSome? h
  exact .unsupported _

theorem ofLists_error {item : ArrayField} {offsets : List Nat} {valid : List Bool}
    {child : ColumnArray} (htype : item.type = child.type)
    (h : ofLists item offsets valid child = .error e) : Refusal e := by
  simp only [ofLists, guard_eq_error_iff] at h
  rcases h with ⟨-, rfl⟩ | ⟨-, ⟨-, rfl⟩ | ⟨-, ⟨hne, -⟩ | ⟨-, h⟩⟩⟩
  · exact .array rfl
  · exact .array rfl
  · exact absurd htype hne
  · cases h

/-- The members of a struct are checked against the fields that their own are converted
to. -/
theorem checkMembers_error {length : Nat} {valid : List Bool} {fs : List Field}
    {gs : List ArrayField} {rows : List (List Value)} {as : List ColumnArray}
    (hbuilt : Field.buildMembers fs rows = .ok as) (hgs : Field.arrayFields fs = .ok gs)
    (h : ColumnArray.checkMembers length valid gs as = .error e) : Refusal e := by
  induction fs generalizing gs rows as with
  | nil =>
    rw [Field.arrayFields_nil_eq_ok_iff.1 hgs] at h
    simp [ColumnArray.checkMembers] at h
  | cons f fs ih =>
    obtain ⟨b, bs, hb, hbs, rfl⟩ := Field.buildMembers_cons_eq_ok_iff.1 hbuilt
    obtain ⟨g, gs, hg, hrest, rfl⟩ := Field.arrayFields_cons_eq_ok_iff.1 hgs
    rw [ColumnArray.checkMembers, if_neg (not_not.2 (Field.type_of_arrayField hg hb)),
      guard_eq_error_iff, guard_eq_error_iff] at h
    rcases h with ⟨-, rfl⟩ | ⟨-, ⟨-, rfl⟩ | ⟨-, h⟩⟩
    · exact .array rfl
    · exact .array rfl
    · exact ih hbs hrest h

theorem ofStructs_error {gs : List ArrayField} {rows : List (List Value)} {valid : List Bool}
    {as : List ColumnArray} (hbuilt : Field.buildMembers members rows = .ok as)
    (hgs : Field.arrayFields members = .ok gs) (h : ofStructs gs valid as = .error e) :
    Refusal e := by
  simp only [ofStructs, guard_eq_error_iff, bind_pure_eq_error_iff] at h
  rcases h with ⟨-, rfl⟩ | ⟨-, h⟩
  · exact .array rfl
  · exact checkMembers_error hbuilt hgs h

/-! ## Arrays that cannot be built -/

namespace LogicalType

theorem buildArray_leaf_error (ht : t.isNested = false) (h : t.buildArray name vs = .error e) :
    StopsAt name t 0 vs e ∨ Refusal e := by
  by_cases hplain : t.isPlain = true
  · obtain ⟨u, -, hbuild⟩ := exists_buildArray_plain hplain name
    rw [hbuild, ofPrimitives, bind_pure_eq_error_iff] at h
    exact Or.inl (cellsFrom_error ht h)
  · cases t with
    | decimal precision scale =>
      rw [buildArray, bind_eq_error_iff] at h
      rcases h with h | ⟨cells, -, h⟩
      · exact Or.inl (cellsFrom_error ht h)
      · split at h
        · cases h
          exact Or.inr (.unsupported _)
        · exact Or.inr (ofDecimals_error h)
    | list => cases ht
    | struct => cases ht
    | _ => exact absurd rfl hplain

/-- A list stops the loop itself, or all values have the form of lists and the stream of
their items cannot be built, or the array is refused. -/
theorem buildArray_list_error (h : (list item).buildArray name vs = .error e) :
    StopsAt name (.list item) 0 vs e ∨
      ((∀ v ∈ vs, v = .null ∨ (list item).Suits v) ∧
        item.buildArray (allItems vs) = .error e) ∨ Refusal e := by
  rw [buildArray, bind_eq_error_iff] at h
  rcases h with h | ⟨flat, hflat, h⟩
  · rcases flattenFrom_error h with hstop | rfl
    · exact Or.inl hstop
    · exact Or.inr (Or.inr (.unsupported _))
  obtain ⟨hvs, -, rfl⟩ := (flattenFrom_eq_ok_iff (Nat.zero_le maxOffset)).1 hflat
  rw [bind_eq_error_iff] at h
  rcases h with h | ⟨child, hchild, h⟩
  · simp only [suits_list_of_iff]
    exact Or.inr (Or.inl ⟨hvs, h⟩)
  rw [bind_eq_error_iff, Field.arrayField_eq_error_iff] at h
  rcases h with h | ⟨g, hg, h⟩
  · exact Or.inr (Or.inr (refusal_of_findSome? h))
  · exact Or.inr (Or.inr (ofLists_error (Field.type_of_arrayField hg hchild) h))

/-- A struct stops the loop itself, or all values have the form of structs and the stream
of a member cannot be built, or the array is refused. -/
theorem buildArray_struct_error (h : (struct members).buildArray name vs = .error e) :
    StopsAt name (.struct members) 0 vs e ∨
      ((∀ v ∈ vs, v = .null ∨ (struct members).Suits v) ∧
        Field.buildMembers members (vs.map (parts members.length)) = .error e) ∨ Refusal e := by
  rw [buildArray, bind_eq_error_iff] at h
  rcases h with h | ⟨flat, hflat, h⟩
  · exact Or.inl (membersFrom_error h)
  obtain ⟨hvs, rfl⟩ := membersFrom_eq_ok_iff.1 hflat
  rw [bind_eq_error_iff] at h
  rcases h with h | ⟨children, hchildren, h⟩
  · simp only [suits_struct_of_iff]
    exact Or.inr (Or.inl ⟨hvs, h⟩)
  rw [bind_eq_error_iff, Field.arrayFields_eq_error_iff] at h
  rcases h with h | ⟨gs, hgs, h⟩
  · exact Or.inr (Or.inr (refusal_of_findSome? h))
  · exact Or.inr (Or.inr (ofStructs_error hchildren hgs h))

end LogicalType

namespace Batch

variable {schema : Schema} {columns cs : List Column} {fs : List Field}

theorem buildArrays_eq_error (h : buildArrays fs cs = .error e) :
    ∃ f c, (f, c) ∈ fs.zip cs ∧ f.buildArray c.values = .error e := by
  induction fs generalizing cs with
  | nil => cases h
  | cons f fs ih =>
    cases cs with
    | nil => cases h
    | cons c cs =>
      rw [buildArrays, bind_eq_error_iff] at h
      rcases h with h | ⟨a, -, h⟩
      · exact ⟨f, c, List.mem_cons_self, h⟩
      · rw [bind_pure_eq_error_iff] at h
        obtain ⟨g, d, hmem, hbuild⟩ := ih h
        exact ⟨g, d, List.mem_cons_of_mem _ hmem, hbuild⟩

theorem checkNulls_error {gs : List ArrayField} {as : List ColumnArray}
    (h : checkNulls gs as = .error e) : Refusal e := by
  fun_induction checkNulls gs as with
  | case1 =>
    cases h
    exact .array rfl
  | case2 g gs a as hnulls ih => exact ih h
  | case3 => cases h

theorem ofArrays_error {converted : ArraySchema} {as : List ColumnArray}
    (htypes : checkTypes 0 converted.fields as = .ok ())
    (h : ofArrays converted as = .error e) : Refusal e := by
  cases as with
  | nil =>
    cases h
    exact .array rfl
  | cons a as =>
    rw [ofArrays, bind_eq_error_iff] at h
    rcases h with h | ⟨_, -, h⟩
    · exact checkNulls_error h
    · split at h
      · rw [htypes] at h
        cases h
      · cases h
        exact .array rfl

/-- A batch cannot be built because an array cannot, or it is refused. -/
theorem build_error (h : build schema columns = .error e) :
    buildArrays schema.fields columns = .error e ∨ Refusal e := by
  rw [build] at h
  split at h
  · cases h
    exact Or.inr (.unsupported _)
  rw [bind_eq_error_iff] at h
  rcases h with h | ⟨as, has, h⟩
  · exact Or.inl h
  rw [bind_eq_error_iff, Schema.arraySchema, bind_pure_eq_error_iff,
    Field.arrayFields_eq_error_iff] at h
  rcases h with h | ⟨converted, hconverted, h⟩
  · exact Or.inr (refusal_of_findSome? h)
  · have hgs := Schema.arraySchema_eq_ok_iff.1 hconverted
    exact Or.inr (ofArrays_error (checkTypes_of_buildArrays has hgs 0) h)

end Batch

/-! ## Checks of types -/

mutual

theorem LogicalType.isTypeMismatch_of_buildArray {e : LayoutError} :
    ∀ {t : LogicalType} {name : String} {vs : List Value}, t.buildArray name vs = .error e →
      e.isTypeMismatch = false
  | .list item, _, _, h => by
    rcases LogicalType.buildArray_list_error h with hstop | ⟨-, hitem⟩ | hrefused
    · exact hstop.isTypeMismatch
    · exact Field.isTypeMismatch_of_buildArray hitem
    · exact hrefused.isTypeMismatch
  | .struct members, _, _, h => by
    rcases LogicalType.buildArray_struct_error h with hstop | ⟨-, hmembers⟩ | hrefused
    · exact hstop.isTypeMismatch
    · exact Field.isTypeMismatch_of_buildMembers hmembers
    · exact hrefused.isTypeMismatch
  | .bool, _, _, h | .int16, _, _, h | .int64, _, _, h | .uint32, _, _, h | .float64, _, _, h
  | .utf8, _, _, h | .largeBinary, _, _, h | .decimal _ _, _, _, h | .timestamp _ _, _, _, h => by
    rcases LogicalType.buildArray_leaf_error rfl h with hstop | hrefused
    · exact hstop.isTypeMismatch
    · exact hrefused.isTypeMismatch

/-- Putting arrays together never fails for their types. -/
theorem Field.isTypeMismatch_of_buildArray {e : LayoutError} :
    ∀ {f : Field} {vs : List Value}, f.buildArray vs = .error e → e.isTypeMismatch = false
  | .mk _ type _, _, h => by
    rw [Field.buildArray] at h
    exact LogicalType.isTypeMismatch_of_buildArray h

theorem Field.isTypeMismatch_of_buildMembers {e : LayoutError} :
    ∀ {fs : List Field} {rows : List (List Value)}, Field.buildMembers fs rows = .error e →
      e.isTypeMismatch = false
  | [], _, h => by cases h
  | f :: fs, _, h => by
    rw [Field.buildMembers, bind_eq_error_iff] at h
    rcases h with h | ⟨a, -, h⟩
    · exact Field.isTypeMismatch_of_buildArray h
    · rw [bind_pure_eq_error_iff] at h
      exact Field.isTypeMismatch_of_buildMembers h

end

theorem Batch.isTypeMismatch_of_build {schema : Schema} {columns : List Column}
    (h : build schema columns = .error e) : e.isTypeMismatch = false := by
  rcases build_error h with h | hrefused
  · obtain ⟨f, c, -, hbuild⟩ := buildArrays_eq_error h
    exact Field.isTypeMismatch_of_buildArray hbuild
  · exact hrefused.isTypeMismatch

end FixtureMatrix
