import FixtureMatrix.Proofs.Case.Admission

/-!
# Well-formed cases

`FixtureCase.WellFormed` says without any order of checks what a case has to
be: its decimals are supported at every depth, its columns have the names of
the fields in order and are equally long, and every value is one that its field
admits.

* `validate_eq_ok_iff_wellFormed`: the check accepts exactly these cases.
-/

namespace FixtureMatrix

/-- A case whose columns are those that its schema declares. -/
structure FixtureCase.WellFormed (c : FixtureCase) : Prop where
  /-- Decimals at every depth have 1 to 38 digits, of which the scale takes no
  more than there are. -/
  decimals : ∀ precision scale : Nat,
    .decimal precision scale ∈ Field.allInside c.schema.fields →
      1 ≤ precision ∧ precision ≤ 38 ∧ scale ≤ precision
  /-- There is one column per field, in order and under its name. -/
  names : c.columns.map Column.name = c.schema.fields.map Field.name
  /-- All columns have the same number of rows. -/
  rows : ∀ a ∈ c.columns, ∀ b ∈ c.columns, a.values.length = b.values.length
  /-- The values of a column are those that its field admits. -/
  values : ∀ (f : Field) (column : Column), (f, column) ∈ c.schema.fields.zip c.columns →
    ∀ v ∈ column.values, f.Admits v

/-! ## Columns -/

/-- Columns belong to fields one by one when their names agree, their lengths
are the given one and their values are admitted. -/
theorem Field.forall₂_fits_iff {rows : Nat} {fs : List Field} {cs : List Column} :
    List.Forall₂ (Field.Fits rows) fs cs ↔
      cs.map Column.name = fs.map Field.name ∧
      (∀ c ∈ cs, c.values.length = rows) ∧
      ∀ (f : Field) (c : Column), (f, c) ∈ fs.zip cs → ∀ v ∈ c.values, f.Admits v := by
  induction fs generalizing cs with
  | nil =>
    cases cs with
    | nil => simp
    | cons c cs => simp
  | cons f fs ih =>
    cases cs with
    | nil => simp
    | cons c cs =>
      rw [List.forall₂_cons, ih, Field.Fits]
      constructor
      · rintro ⟨⟨hname, hlength, hvalues⟩, hnames, hlengths, hrest⟩
        refine ⟨?_, ?_, ?_⟩
        · rw [List.map_cons, List.map_cons, hname, hnames]
        · exact List.forall_mem_cons.2 ⟨hlength, hlengths⟩
        · intro g d hmem
          rcases List.mem_cons.1 hmem with heq | hmem
          · obtain ⟨rfl, rfl⟩ := Prod.mk.inj heq
            exact hvalues
          · exact hrest g d hmem
      · rintro ⟨hnames, hlengths, hvalues⟩
        obtain ⟨hname, hnames⟩ := List.cons.inj hnames
        obtain ⟨hlength, hlengths⟩ := List.forall_mem_cons.1 hlengths
        refine ⟨⟨hname.symm, hlength, ?_⟩, hnames, hlengths, ?_⟩
        · exact hvalues f c List.mem_cons_self
        · intro g d hmem
          exact hvalues g d (List.mem_cons_of_mem _ hmem)

namespace FixtureCase

variable {c : FixtureCase}

/-- Columns are as long as the first one when any two are equally long. -/
theorem forall_length_eq_numRows_iff :
    (∀ column ∈ c.columns, column.values.length = c.numRows) ↔
      ∀ a ∈ c.columns, ∀ b ∈ c.columns, a.values.length = b.values.length := by
  constructor
  · intro h a ha b hb
    rw [h a ha, h b hb]
  · intro h column hcolumn
    obtain ⟨id, schema, columns, fileName⟩ := c
    cases columns with
    | nil => cases hcolumn
    | cons first rest => exact h column hcolumn first List.mem_cons_self

/-- The decimals of all fields are supported when each decimal type at any
depth is. -/
theorem forall_decimalsSupported_iff {fs : List Field} :
    (∀ f ∈ fs, f.DecimalsSupported) ↔ ∀ precision scale : Nat,
      .decimal precision scale ∈ Field.allInside fs → SupportedDecimal precision scale := by
  constructor
  · intro h precision scale hmem
    obtain ⟨f, hf, hinside⟩ := Field.mem_allInside.1 hmem
    rw [Field.inside_eq] at hinside
    exact h f hf precision scale hinside
  · intro h f hf precision scale hinside
    refine h precision scale (Field.mem_allInside.2 ⟨f, hf, ?_⟩)
    rw [Field.inside_eq]
    exact hinside

/-- The check of a case accepts exactly the well-formed ones. -/
theorem validate_eq_ok_iff_wellFormed : c.validate = .ok () ↔ c.WellFormed := by
  rw [validate_eq_ok_iff, forall_decimalsSupported_iff, Field.forall₂_fits_iff,
    forall_length_eq_numRows_iff]
  constructor
  · rintro ⟨hdecimals, hnames, hrows, hvalues⟩
    exact ⟨hdecimals, hnames, hrows, hvalues⟩
  · rintro ⟨hdecimals, hnames, hrows, hvalues⟩
    exact ⟨hdecimals, hnames, hrows, hvalues⟩

end FixtureCase

end FixtureMatrix
