import FixtureMatrix.Proofs.Case.WellFormed
import Mathlib.Data.List.Nodup

/-!
# Looking fields and columns up by name

A check pairs columns with fields by position, and a look-up goes by name to the first
hit. Nothing keeps two fields of one name apart, so a look-up answers for the first
position of a name.

* `Schema.field?_eq`, `FixtureCase.column?_eq`: both look-ups go to the same position.
* `FixtureCase.lookup_of_valid`: in a valid case this is the position of a field exactly
  when no field before it has its name.
* `FixtureCase.twins_lookup`: the second of two fields of one name is never found.
-/

namespace FixtureMatrix

/-- The first of some named things is the one at the first position of its name. -/
theorem find?_name {α : Type} (name : α → String) (xs : List α) (n : String) :
    (xs.find? fun x => name x = n) = xs[(xs.map name).idxOf n]? := by
  rw [List.find?_eq_getElem?_findIdx, List.idxOf, List.findIdx_map]
  rfl

namespace Schema

variable {s : Schema} {name : String} {i j : Nat}

/-- The first position of a name. -/
def FirstAt (s : Schema) (name : String) (i : Nat) : Prop :=
  s.names[i]? = some name ∧ ∀ k < i, s.names[k]? ≠ some name

theorem FirstAt.unique (hi : s.FirstAt name i) (hj : s.FirstAt name j) : i = j := by
  rcases Nat.lt_trichotomy i j with hlt | heq | hlt
  · exact absurd hi.1 (hj.2 i hlt)
  · exact heq
  · exact absurd hj.1 (hi.2 j hlt)

theorem FirstAt.le (hj : s.FirstAt name j) (hi : s.names[i]? = some name) : j ≤ i := by
  by_contra hlt
  exact hj.2 i (Nat.lt_of_not_le hlt) hi

/-- A name that occurs has a first position. -/
theorem firstAt_idxOf (h : name ∈ s.names) : s.FirstAt name (s.names.idxOf name) := by
  have hlt := List.idxOf_lt_length_iff.2 h
  constructor
  · rw [List.getElem?_eq_getElem hlt, List.getElem_idxOf]
  · intro k hk heq
    obtain ⟨hklt, hname⟩ := List.getElem?_eq_some_iff.1 heq
    have hbefore := List.not_of_lt_findIdx hk
    rw [hname] at hbefore
    simp at hbefore

/-- Where the names differ every position is the first one of its name. -/
theorem firstAt_of_nodup (hnodup : s.names.Nodup) (hi : s.names[i]? = some name) :
    s.FirstAt name i := by
  have hfirst := firstAt_idxOf (List.mem_of_getElem? hi)
  obtain ⟨hlt, rfl⟩ := List.getElem?_eq_some_iff.1 hi
  rwa [hnodup.idxOf_getElem i hlt] at hfirst

theorem field?_eq (s : Schema) (name : String) :
    s.field? name = s.fields[s.names.idxOf name]? :=
  find?_name Field.name s.fields name

end Schema

namespace FixtureCase

variable {c : FixtureCase} {f : Field} {i : Nat}

/-- In a well-formed case columns are looked up where fields are. -/
theorem column?_eq (h : c.WellFormed) (name : String) :
    c.column? name = c.columns[c.schema.names.idxOf name]?.map Column.values := by
  rw [column?, find?_name Column.name, h.names]
  rfl

/-- What a look-up finds: the field and the column at the first position of a name. -/
structure FoundAt (c : FixtureCase) (name : String) (j : Nat) : Prop where
  first : c.schema.FirstAt name j
  field : ∃ f, c.schema.fields[j]? = some f ∧ c.schema.field? name = some f
  column : ∃ column, c.columns[j]? = some column ∧ column.name = name ∧
    c.column? name = some column.values

/-- In a well-formed case both look-ups go to the first position of a name. -/
theorem foundAt_idxOf {name : String} (h : c.WellFormed) (hname : name ∈ c.schema.names) :
    c.FoundAt name (c.schema.names.idxOf name) := by
  have hfirst := Schema.firstAt_idxOf hname
  have hnames : c.columns.map Column.name = c.schema.names := h.names
  refine ⟨hfirst, ?_, ?_⟩
  · have hfield := hfirst.1
    rw [Schema.names, List.getElem?_map, Option.map_eq_some_iff] at hfield
    obtain ⟨f, hf, -⟩ := hfield
    exact ⟨f, hf, by rw [Schema.field?_eq]; exact hf⟩
  · have hcolumn := hfirst.1
    rw [← hnames, List.getElem?_map, Option.map_eq_some_iff, hnames] at hcolumn
    obtain ⟨column, hcolumn, heq⟩ := hcolumn
    exact ⟨column, hcolumn, heq, by rw [column?_eq h, hcolumn, Option.map_some]⟩

/-- In a valid case both look-ups answer for the first position of a name. This is the
position of a field if no field before it has its name, so of every field where all names
differ, and then one column has its name. -/
theorem lookup_of_valid (hvalid : c.validate = .ok ()) (hf : c.schema.fields[i]? = some f) :
    ∃ j ≤ i, c.FoundAt f.name j ∧ (j = i ↔ c.schema.FirstAt f.name i) ∧
      (c.columns.map Column.name).count f.name = c.schema.names.count f.name ∧
      (c.schema.names.Nodup → j = i ∧ (c.columns.map Column.name).count f.name = 1) := by
  have hformed := validate_eq_ok_iff_wellFormed.1 hvalid
  have hnames : c.columns.map Column.name = c.schema.names := hformed.names
  have hi : c.schema.names[i]? = some f.name := by
    rw [Schema.names, List.getElem?_map, hf, Option.map_some]
  have hmem : f.name ∈ c.schema.names := List.mem_of_getElem? hi
  have hfound := foundAt_idxOf hformed hmem
  refine ⟨c.schema.names.idxOf f.name, hfound.first.le hi, hfound, ?_, by rw [hnames], ?_⟩
  · constructor
    · intro hsame
      exact hsame ▸ hfound.first
    · intro hfirst
      exact hfound.first.unique hfirst
  · intro hnodup
    constructor
    · exact hfound.first.unique (Schema.firstAt_of_nodup hnodup hi)
    · rw [hnames]
      exact List.count_eq_one_of_mem hnodup hmem

/-- Two fields of one name with another one between them. -/
def twins : FixtureCase where
  id := "twins"
  schema := ⟨[.required "a" .int64, .optional "b" .bool, .optional "a" .utf8]⟩
  columns := [⟨"a", [.int 1]⟩, ⟨"b", [.null]⟩, ⟨"a", [.str "x"]⟩]
  fileName := "twins.parquet"

theorem lookup_of_valid_twins :
    twins.validate = .ok () ∧ twins.schema.fields[2]? = some (.optional "a" .utf8) ∧
      ∃ j ≤ 2, twins.FoundAt "a" j ∧ (twins.columns.map Column.name).count "a" = 2 := by
  have hvalid : twins.validate = .ok () := rfl
  have hf : twins.schema.fields[2]? = some (.optional "a" .utf8) := rfl
  obtain ⟨j, hj, hfound, -, hcount, -⟩ := lookup_of_valid hvalid hf
  have htwo : twins.schema.names.count "a" = 2 := by decide
  exact ⟨hvalid, hf, j, hj, hfound, hcount.trans htwo⟩

/-- The second of two fields of one name is not the one that is found, nor is its
column. -/
theorem twins_lookup :
    twins.validate = .ok () ∧ ∃ f column, twins.schema.fields[2]? = some f ∧
      twins.columns[2]? = some column ∧ column.name = f.name ∧
      twins.schema.field? f.name ≠ some f ∧ twins.column? f.name ≠ some column.values := by
  refine ⟨rfl, .optional "a" .utf8, ⟨"a", [.str "x"]⟩, rfl, rfl, rfl, ?_, ?_⟩
  · have hfound : twins.schema.field? "a" = some (.required "a" .int64) := rfl
    rw [Field.optional, Field.name_mk, hfound]
    simp [Field.required]
  · have hfound : twins.column? "a" = some [.int 1] := rfl
    rw [Field.optional, Field.name_mk, hfound]
    simp

end FixtureCase

end FixtureMatrix
