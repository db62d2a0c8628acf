import FixtureMatrix.Proofs.Columnar.Errors
import FixtureMatrix.Proofs.Columnar.Nodes

/-!
# Types of built arrays

The fields of a schema are converted by one recursion and the arrays for them are
built by another, which gives each array its type itself.  Putting arrays together
compares what both came to.

* `partsTyped_of_buildArray`: the parts of a built array are of the types that it
  declares.
* `Field.countP_isLeaf_nodes`: a built array has as many primitive arrays inside as its
  field has leaves.
* `Field.types_of_buildArray`: both recursions come to the same types at every depth, so
  that no comparison fails.
-/

namespace FixtureMatrix

open ColumnArray

/-! ## Cells -/

/-- The cells that an array of a primitive type can hold. -/
inductive ArrayType.CellOf : ArrayType → Scalar → Prop
  | boolean (b : Bool) : CellOf .boolean (.bool b)
  | int16 (n : Int) : -32768 ≤ n → n < 32768 → CellOf .int16 (.int n)
  | int64 (n : Int64) : CellOf .int64 (.int n.toInt)
  | uint32 (n : Int) : 0 ≤ n → n < 4294967296 → CellOf .uint32 (.int n)
  | float64 (x : Binary64) : CellOf .float64 (.float x)
  | utf8 (s : String) : CellOf .utf8 (.str s)
  | largeBinary (s : String) : CellOf .largeBinary (.bytes s.toUTF8)
  | decimal128 (precision : Nat) (scale : Int8) (n : Int64) :
      decimalFits n.toInt precision = true → CellOf (.decimal128 precision scale) (.int n.toInt)
  | timestamp (unit : ArrayUnit) (timezone : Option String) (n : Int64) :
      CellOf (.timestamp unit timezone) (.int n.toInt)

/-- The cell of a value is one of the type that its own type is converted to. -/
theorem LogicalType.cellOf_of_cell? {t : LogicalType} {name : String} {u : ArrayType} {v : Value}
    {c : Scalar} (ht : t.isPlain = true) (hu : t.arrayType name = .ok u)
    (h : t.cell? v = some c) : u.CellOf c := by
  cases t with
  | decimal => cases ht
  | list => cases ht
  | struct => cases ht
  | bool =>
    cases v <;> cases h
    cases hu
    exact .boolean _
  | int16 =>
    cases v <;> simp only [cell?, Option.ite_none_right_eq_some, Option.some.injEq,
      reduceCtorEq] at h
    cases hu
    exact h.2 ▸ .int16 _ h.1.1 h.1.2
  | int64 =>
    cases v <;> cases h
    cases hu
    exact .int64 _
  | uint32 =>
    cases v <;> simp only [cell?, Option.ite_none_right_eq_some, Option.some.injEq,
      reduceCtorEq] at h
    cases hu
    exact h.2 ▸ .uint32 _ h.1.1 h.1.2
  | float64 =>
    cases v <;> cases h
    cases hu
    exact .float64 _
  | utf8 =>
    cases v <;> cases h
    cases hu
    exact .utf8 _
  | largeBinary =>
    cases v <;> cases h
    cases hu
    exact .largeBinary _
  | timestamp unit timezone =>
    cases v <;> cases h
    cases hu
    exact .timestamp _ _ _

/-! ## Parts of one node -/

/-- Whether arrays of the type are put together from other arrays. -/
def ArrayType.isNested : ArrayType → Bool
  | .list _ | .struct _ => true
  | _ => false

namespace ColumnArray

/-- The parts of an array are of the types that it declares: the cells of a primitive
array, the child of a list, and the members of a struct, of which there are as many
as declared. -/
def PartsTyped : ColumnArray → Prop
  | leaf type cells => type.isNested = false ∧ ∀ c, some c ∈ cells → type.CellOf c
  | list item _ _ child => child.type = item.type
  | struct members _ children => children.map ColumnArray.type = members.map ArrayField.type

def isLeaf : ColumnArray → Bool
  | leaf _ _ => true
  | _ => false

end ColumnArray

theorem Field.types_of_buildMembers {fs : List Field} {gs : List ArrayField}
    {rows : List (List Value)} {as : List ColumnArray} (h : Field.buildMembers fs rows = .ok as)
    (hgs : Field.arrayFields fs = .ok gs) :
    as.map ColumnArray.type = gs.map ArrayField.type := by
  induction fs generalizing gs rows as with
  | nil =>
    rw [Field.buildMembers_nil_eq_ok_iff.1 h, Field.arrayFields_nil_eq_ok_iff.1 hgs]
    rfl
  | cons f fs ih =>
    obtain ⟨b, bs, hb, hbs, rfl⟩ := Field.buildMembers_cons_eq_ok_iff.1 h
    obtain ⟨g, gs, hg, hrest, rfl⟩ := Field.arrayFields_cons_eq_ok_iff.1 hgs
    rw [List.map_cons, List.map_cons, Field.type_of_arrayField hg hb, ih hbs hrest]

namespace LogicalType

variable {name : String} {t : LogicalType} {vs : List Value} {a : ColumnArray}

theorem isNested_of_isPlain {u : ArrayType} (ht : t.isPlain = true)
    (hu : t.arrayType name = .ok u) : u.isNested = false := by
  cases t <;> cases ht <;> cases hu <;> rfl

theorem partsTyped_of_buildArray (h : t.buildArray name vs = .ok a) : a.PartsTyped := by
  by_cases hplain : t.isPlain = true
  · obtain ⟨-, u, hu, rfl⟩ := (buildArray_plain_eq_ok_iff hplain).1 h
    refine ⟨isNested_of_isPlain hplain hu, fun c hc => ?_⟩
    obtain ⟨v, -, hv⟩ := List.mem_map.1 hc
    exact cellOf_of_cell? hplain hu hv
  · cases t with
    | decimal precision scale =>
      obtain ⟨-, -, hdigits, u, hu, rfl⟩ := buildArray_decimal_eq_ok_iff.1 h
      obtain ⟨stored, -, rfl⟩ := arrayType_decimal_eq_ok_iff.1 hu
      refine ⟨rfl, fun c hc => ?_⟩
      obtain ⟨v, -, hv⟩ := List.mem_map.1 hc
      cases v <;> cases hv
      exact .decimal128 _ _ _ (hdigits _ hc)
    | list item =>
      obtain ⟨-, -, child, g, hchild, hg, -, -, rfl⟩ := buildArray_list_eq_ok_iff.1 h
      exact (Field.type_of_arrayField hg hchild).symm
    | struct members =>
      obtain ⟨-, children, gs, hchildren, hgs, -, -, rfl⟩ := buildArray_struct_eq_ok_iff.1 h
      exact Field.types_of_buildMembers hchildren hgs
    | _ => exact absurd rfl hplain

end LogicalType

/-! ## Members and columns -/

theorem Field.arrayFields_of_buildMembers {fs : List Field} {rows : List (List Value)}
    {as : List ColumnArray} (h : Field.buildMembers fs rows = .ok as) :
    ∃ gs, Field.arrayFields fs = .ok gs := by
  induction fs generalizing rows as with
  | nil => exact ⟨[], rfl⟩
  | cons f fs ih =>
    obtain ⟨b, bs, hb, hbs, rfl⟩ := Field.buildMembers_cons_eq_ok_iff.1 h
    obtain ⟨gs, hgs⟩ := ih hbs
    have hg := Field.arrayField_of_buildArray hb
    exact ⟨_, Field.arrayFields_cons_eq_ok_iff.2 ⟨_, gs, hg, hgs, rfl⟩⟩

theorem Batch.types_of_buildArrays {fs : List Field} {cs : List Column} {gs : List ArrayField}
    {as : List ColumnArray} (hlen : fs.length = cs.length) (h : buildArrays fs cs = .ok as)
    (hgs : Field.arrayFields fs = .ok gs) :
    as.map ColumnArray.type = gs.map ArrayField.type := by
  induction fs generalizing cs gs as with
  | nil =>
    cases h
    rw [Field.arrayFields_nil_eq_ok_iff.1 hgs]
    rfl
  | cons f fs ih =>
    cases cs with
    | nil => cases hlen
    | cons c cs =>
      obtain ⟨b, bs, hb, hbs, rfl⟩ := buildArrays_cons_eq_ok_iff.1 h
      obtain ⟨g, gs, hg, hrest, rfl⟩ := Field.arrayFields_cons_eq_ok_iff.1 hgs
      rw [List.map_cons, List.map_cons, Field.type_of_arrayField hg hb,
        ih (Nat.succ.inj hlen) hbs hrest]

/-! ## Leaves -/

mutual

theorem LogicalType.countP_isLeaf_nodes {name : String} :
    ∀ {t : LogicalType} {vs : List Value} {a : ColumnArray}, t.buildArray name vs = .ok a →
      a.nodes.countP isLeaf = t.leafCount
  | .list item, vs, a, h => by
    obtain ⟨-, -, child, g, hchild, -, -, -, rfl⟩ := LogicalType.buildArray_list_eq_ok_iff.1 h
    rw [nodes, LogicalType.leafCount, List.countP_cons_of_neg (by simp [isLeaf]),
      Field.countP_isLeaf_nodes hchild]
  | .struct members, vs, a, h => by
    obtain ⟨-, children, gs, hchildren, -, -, -, rfl⟩ :=
      LogicalType.buildArray_struct_eq_ok_iff.1 h
    rw [nodes, LogicalType.leafCount, List.countP_cons_of_neg (by simp [isLeaf]),
      Field.countP_isLeaf_allNodes hchildren]
  | .decimal _ _, vs, a, h => by
    obtain ⟨-, -, -, u, -, rfl⟩ := LogicalType.buildArray_decimal_eq_ok_iff.1 h
    simp [nodes, isLeaf, LogicalType.leafCount]
  | .bool, vs, a, h | .int16, vs, a, h | .int64, vs, a, h | .uint32, vs, a, h
  | .float64, vs, a, h | .utf8, vs, a, h | .largeBinary, vs, a, h | .timestamp _ _, vs, a, h => by
    obtain ⟨-, u, -, rfl⟩ := (LogicalType.buildArray_plain_eq_ok_iff rfl).1 h
    simp [nodes, isLeaf, LogicalType.leafCount]

theorem Field.countP_isLeaf_nodes : ∀ {f : Field} {vs : List Value} {a : ColumnArray},
    f.buildArray vs = .ok a → a.nodes.countP isLeaf = f.leafCount
  | .mk _ type _, vs, a, h => by
    rw [Field.buildArray] at h
    rw [Field.leafCount]
    exact LogicalType.countP_isLeaf_nodes h

theorem Field.countP_isLeaf_allNodes :
    ∀ {fs : List Field} {rows : List (List Value)} {as : List ColumnArray},
      Field.buildMembers fs rows = .ok as →
      (allNodes as).countP isLeaf = Field.leafCounts fs
  | [], rows, as, h => by
    rw [Field.buildMembers_nil_eq_ok_iff.1 h]
    rfl
  | f :: fs, rows, as, h => by
    obtain ⟨b, bs, hb, hbs, rfl⟩ := Field.buildMembers_cons_eq_ok_iff.1 h
    rw [allNodes, Field.leafCounts, List.countP_append, Field.countP_isLeaf_nodes hb,
      Field.countP_isLeaf_allNodes hbs]

end

/-! ## Agreement -/

/-- Converting a field and building an array for it come to the same types.

Where an array is built, the field can be converted, and the array's type is that of
the converted field.  At every depth of the array the parts of a list or a struct are of
the types of the fields that it declares for them, and the cells of a primitive array are
of its type; there are as many primitive arrays as the field has leaves.  The same holds
of the members of a struct and of the columns of a batch beside the fields they are put
under.  So no check of types ever fails, in arrays or in batches.

A field cannot be converted exactly when the scale of some decimal inside is too large,
and the first such decimal is reported as unsupported. -/
theorem Field.types_of_buildArray (f : Field) :
    (∀ vs a, f.buildArray vs = .ok a →
      f.arrayField = .ok (.mk f.name a.type f.nullable) ∧ (∀ node ∈ a.nodes, node.PartsTyped) ∧
        a.nodes.countP isLeaf = f.leafCount) ∧
    (∀ fs rows as, Field.buildMembers fs rows = .ok as →
      ∃ gs, Field.arrayFields fs = .ok gs ∧
        as.map ColumnArray.type = gs.map ArrayField.type) ∧
    (∀ schema columns b, Batch.build schema columns = .ok b →
      schema.arraySchema = .ok b.schema ∧
        b.arrays.map ColumnArray.type = b.schema.fields.map ArrayField.type) ∧
    (∀ vs e, f.buildArray vs = .error e → e.isTypeMismatch = false) ∧
    (∀ schema columns e, Batch.build schema columns = .error e → e.isTypeMismatch = false) ∧
    ((∃ e, f.arrayField = .error e) ↔
      ∃ precision scale, .decimal precision scale ∈ f.inside ∧ maxStoredScale < scale) ∧
    (∀ e, f.arrayField = .error e ↔ f.places.findSome? Field.scaleRefusal? = some e) ∧
    ∀ e, f.arrayField = .error e → ∃ scale name, e = .unsupported (.decimalScale scale name) := by
  refine ⟨fun vs a h => ?_, fun fs rows as h => ?_, fun schema columns b h => ?_,
    fun vs e => Field.isTypeMismatch_of_buildArray,
    fun schema columns e => Batch.isTypeMismatch_of_build,
    Field.exists_arrayField_eq_error_iff, fun e => Field.arrayField_eq_error_iff, fun e h => ?_⟩
  · refine ⟨Field.arrayField_of_buildArray h, fun node hnode => ?_, Field.countP_isLeaf_nodes h⟩
    obtain ⟨t, -, name, ws, hnode⟩ := Field.built_of_mem_nodes h node hnode
    exact LogicalType.partsTyped_of_buildArray hnode
  · obtain ⟨gs, hgs⟩ := Field.arrayFields_of_buildMembers h
    exact ⟨gs, hgs, Field.types_of_buildMembers h hgs⟩
  · obtain ⟨hlen, harrays, hschema, -⟩ := Batch.build_eq_ok h
    have hgs := Schema.arraySchema_eq_ok_iff.1 hschema
    exact ⟨hschema, Batch.types_of_buildArrays hlen harrays hgs⟩
  · exact Field.unsupported_of_findSome? (Field.arrayField_eq_error_iff.1 h)

/-- Decimals and timestamps below lists and structs, with nulls at every depth. -/
def nestedDecimals : Field :=
  .optional "s" (.struct [.required "d" (.decimal 5 2), .optional "l" (.list (.optional "item"
    (.struct [.required "t" (.timestamp .millisecond (some "UTC")), .optional "b" .largeBinary])))])

/-- What its arrays are put under. -/
def nestedDecimalsStored : ArrayField :=
  .mk "s" (.struct [.mk "d" (.decimal128 5 2) false, .mk "l" (.list (.mk "item"
    (.struct [.mk "t" (.timestamp .millisecond (some "UTC")) false, .mk "b" .largeBinary true])
    true)) true]) true

/-- An array of it and a batch with it as the one column have the converted type, and
three primitive arrays inside; with a larger scale it could not be converted. -/
theorem Field.types_of_buildArray_nestedDecimals :
    (∃ a, nestedDecimals.buildArray [.null, .struct [.int 12345, .null],
        .struct [.int (-7), .list [.null, .struct [.int 0, .str "é"]]]] = .ok a ∧
      nestedDecimals.arrayField = .ok nestedDecimalsStored ∧ a.type = nestedDecimalsStored.type ∧
      (∀ node ∈ a.nodes, node.PartsTyped) ∧ a.nodes.countP isLeaf = 3) ∧
    (∃ b, Batch.build ⟨[nestedDecimals]⟩ [⟨"s", [.null, .null]⟩] = .ok b ∧
      b.arrays.map ColumnArray.type = [nestedDecimalsStored.type]) ∧
    (∃ e, nestedDecimals.buildArray [.struct [.int 100000, .null]] = .error e ∧
      e.isTypeMismatch = false) ∧
    ∃ e, (Field.optional "l" (.list (.required "item" (.decimal 38 200)))).arrayField = .error e ∧
      ∃ scale name, e = .unsupported (.decimalScale scale name) := by
  obtain ⟨harray, -, hbatch, herror, -⟩ := Field.types_of_buildArray nestedDecimals
  refine ⟨?_, ?_, ?_, ?_⟩
  · obtain ⟨a, ha⟩ : ∃ a, nestedDecimals.buildArray [.null, .struct [.int 12345, .null],
      .struct [.int (-7), .list [.null, .struct [.int 0, .str "é"]]]] = .ok a := ⟨_, rfl⟩
    obtain ⟨hfield, hparts, hleaves⟩ := harray _ a ha
    have hstored : nestedDecimals.arrayField = .ok nestedDecimalsStored := rfl
    exact ⟨a, ha, hstored, (Field.type_of_arrayField hstored ha).symm, hparts, hleaves⟩
  · obtain ⟨b, hb⟩ : ∃ b, Batch.build ⟨[nestedDecimals]⟩ [⟨"s", [.null, .null]⟩] = .ok b := ⟨_, rfl⟩
    obtain ⟨hschema, htypes⟩ := hbatch _ _ b hb
    have hstored : Schema.arraySchema ⟨[nestedDecimals]⟩ = .ok ⟨[nestedDecimalsStored]⟩ := rfl
    rw [hschema] at hstored
    refine ⟨b, hb, ?_⟩
    rw [htypes, Except.ok.inj hstored]
    rfl
  · obtain ⟨e, he⟩ : ∃ e, nestedDecimals.buildArray [.struct [.int 100000, .null]] = .error e :=
      ⟨_, rfl⟩
    exact ⟨e, he, herror _ e he⟩
  · obtain ⟨-, -, -, -, -, -, -, hunsupported⟩ :=
      Field.types_of_buildArray (.optional "l" (.list (.required "item" (.decimal 38 200))))
    obtain ⟨e, he⟩ : ∃ e, (Field.optional "l" (.list (.required "item"
      (.decimal 38 200)))).arrayField = .error e := ⟨_, rfl⟩
    exact ⟨e, he, hunsupported e he⟩

end FixtureMatrix
