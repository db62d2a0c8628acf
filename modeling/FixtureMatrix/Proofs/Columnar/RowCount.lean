import FixtureMatrix.Proofs.Columnar.Acceptance

/-!
# Rows of batches

An array has one row per value and a batch one row per row of its case, unless
the array is of structs whose first member has no rows: a struct without members
keeps none, and neither does one that starts with such a member.

* `rows_of_build`: the rows of arrays and batches.
* `oneEmptyStruct_loses_row`: a valid case of one row whose batch has none.
-/

namespace FixtureMatrix

namespace Batch

/-! ## Arrays of one batch -/

/-- The arrays of columns of `n` rows, field by field. -/
theorem lengths_of_buildArrays {n : Nat} : ∀ {fs : List Field} {cs : List Column}
    {as : List ColumnArray}, fs.length = cs.length → (∀ c ∈ cs, c.values.length = n) →
    buildArrays fs cs = .ok as →
    List.Forall₂ (fun f a => a.length = if f.rowless then 0 else n) fs as
  | [], [], as, _, _, h => by
    cases h
    exact .nil
  | f :: fs, c :: cs, as, hlen, hrows, h => by
    obtain ⟨a, as, ha, has, rfl⟩ := buildArrays_cons_eq_ok_iff.1 h
    rw [List.forall_mem_cons] at hrows
    refine .cons ?_ (lengths_of_buildArrays (by simpa using hlen) hrows.2 has)
    rw [Field.length_eq_of_buildArray ha, hrows.1]

/-- One field with rows gives its rows to the batch. -/
theorem numRows_eq_ite {n m : Nat} {fs : List Field} {as : List ColumnArray}
    (h : List.Forall₂ (fun f a => a.length = if f.rowless then 0 else n) fs as)
    (has : as ≠ []) (hm : ∀ a ∈ as, a.length = m) :
    m = if fs.all Field.rowless then 0 else n := by
  induction h with
  | nil => exact absurd rfl has
  | @cons f a fs as hfirst hrest ih =>
    rw [List.forall_mem_cons] at hm
    rw [hm.1] at hfirst
    by_cases hrowless : f.rowless = true
    · cases as with
      | nil =>
        cases hrest
        simpa [hrowless] using hfirst
      | cons b bs =>
        have hrest := ih (List.cons_ne_nil b bs) hm.2
        rwa [List.all_cons, hrowless, Bool.true_and]
    · simpa [hrowless] using hfirst

/-! ## Rows of arrays and batches -/

/-- Every array has one row per value, and every batch of a valid case one row per
row of the case, but for arrays of structs whose first member has no rows, which
have none, and batches all of whose arrays are of that kind. -/
theorem rows_of_build (f : Field) (vs : List Value) (a : ColumnArray) (c : FixtureCase)
    (b : Batch) :
    (f.buildArray vs = .ok a → a.length = if f.rowless then 0 else vs.length) ∧
      (c.validate = .ok () → build c.schema c.columns = .ok b →
        b.numRows = if c.schema.fields.all Field.rowless then 0 else c.numRows) := by
  constructor
  · intro h
    exact Field.length_eq_of_buildArray h
  · intro hvalid h
    obtain ⟨hlen, harrays, -, hsome, hlengths⟩ := build_eq_ok h
    have hrows := FixtureCase.length_values_of_valid hvalid
    exact numRows_eq_ite (lengths_of_buildArrays hlen hrows harrays) hsome hlengths

/-- A case with two rows.  Its first column holds structs, which have lists of
structs without members. -/
def emptyItems : FixtureCase :=
  { id := "case"
    schema := ⟨[.optional "s" (.struct [.required "n" .int64,
      .optional "l" (.list (.optional "item" (.struct [])))]), .required "t" .utf8]⟩
    columns := [⟨"s", [.null, .struct [.int 1, .list []]]⟩, ⟨"t", [.str "a", .str "b"]⟩]
    fileName := "case.parquet" }

/-- Its batch has both of them, and so has an array of such lists. -/
theorem rows_of_build_emptyItems :
    (∃ a, (Field.required "l" (.list (.optional "item" (.struct [])))).buildArray
      [.list [], .list []] = .ok a ∧ a.length = 2) ∧
    emptyItems.validate = .ok () ∧
    ∃ b, build emptyItems.schema emptyItems.columns = .ok b ∧ b.numRows = 2 := by
  have hvalid : emptyItems.validate = .ok () := rfl
  obtain ⟨a, ha⟩ : ∃ a, (Field.required "l" (.list (.optional "item" (.struct [])))).buildArray
    [.list [], .list []] = .ok a := ⟨_, rfl⟩
  obtain ⟨b, hb⟩ : ∃ b, build emptyItems.schema emptyItems.columns = .ok b := ⟨_, rfl⟩
  obtain ⟨harray, hbatch⟩ := rows_of_build _ _ a _ b
  exact ⟨⟨a, ha, harray ha⟩, hvalid, b, hb, hbatch hvalid hb⟩

/-- One row of a struct without members. -/
def oneEmptyStruct : FixtureCase :=
  { id := "case"
    schema := ⟨[.optional "a" (.struct [])]⟩
    columns := [⟨"a", [.struct []]⟩]
    fileName := "case.parquet" }

/-- It is valid, but its batch has no row. -/
theorem oneEmptyStruct_loses_row :
    oneEmptyStruct.validate = .ok () ∧ oneEmptyStruct.numRows = 1 ∧
      ∃ b, build oneEmptyStruct.schema oneEmptyStruct.columns = .ok b ∧ b.numRows = 0 :=
  ⟨rfl, rfl, _, rfl, rfl⟩

end Batch

end FixtureMatrix
