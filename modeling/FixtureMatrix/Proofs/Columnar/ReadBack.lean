import FixtureMatrix.Proofs.Columnar.Rows

/-!
# Reading arrays back

`ColumnArray.row?` reads one row of an array: null where the mask says so, the
items between two offsets for a list, the members at the same row for a struct.
It fails where an array has no such row, or a cell that no value leaves behind.

* `row?_of_buildArray`: the row of a built array at an index is the value at
  that index.
* `values_of_buildArray`: the view of a built array as values, which cuts its
  child arrays into rows in one go, is the stream it was built from.
* `rows?_of_buildArray`: so are all its rows, read one by one, and different
  streams never become one array.
-/

namespace FixtureMatrix

/-! ## Rows of an array -/

/-- The value that a cell is for: an integer within 64 bits, or UTF-8 bytes. -/
def Scalar.read? : Scalar → Option Value
  | .bool b => some (.bool b)
  | .int n =>
    if Int64.minValue.toInt ≤ n ∧ n ≤ Int64.maxValue.toInt then some (.int (Int64.ofInt n))
    else none
  | .float x => some (.float x)
  | .str s => some (.str s)
  | .bytes b => (String.fromUTF8? b).map .str

namespace ColumnArray

/-- The value of a cell that may be null. -/
def readCell? : Option Scalar → Option Value
  | none => some .null
  | some s => s.read?

/-- Whether a row is valid; every row is where no mask is kept. -/
def validAt? : Option (List Bool) → Nat → Option Bool
  | none, _ => some true
  | some valid, i => valid[i]?

mutual

/-- The value at a row. -/
def row? : ColumnArray → Nat → Option Value
  | leaf _ cells, i => cells[i]?.bind readCell?
  | list _ offsets validity child, i => do
    if ← validAt? validity i then
      let start ← offsets[i]?
      let stop ← offsets[i + 1]?
      let items ← (List.range' start (stop - start)).mapM child.row?
      return .list items
    else return .null
  | struct _ validity children, i => do
    if ← validAt? validity i then
      let members ← memberRow? children i
      return .struct members
    else return .null

/-- The values of several arrays at one row. -/
def memberRow? : List ColumnArray → Nat → Option (List Value)
  | [], _ => some []
  | a :: as, i => do
    let v ← a.row? i
    let vs ← memberRow? as i
    return v :: vs

end

/-- The values at all rows. -/
def rows? (a : ColumnArray) : Option (List Value) :=
  (List.range a.length).mapM a.row?

end ColumnArray

open ColumnArray Value

/-! ## Reading the parts -/

/-- A cell holds all of the value it was made for. -/
theorem LogicalType.read?_of_cell? {t : LogicalType} {v : Value} {s : Scalar}
    (h : t.cell? v = some s) : s.read? = some v := by
  have hint : ∀ n : Int64, (Scalar.int n.toInt).read? = some (.int n) := by
    intro n
    rw [Scalar.read?, if_pos ⟨n.minValue_le_toInt, n.toInt_le⟩, Int64.ofInt_toInt]
  have hbytes : ∀ s : String, (Scalar.bytes s.toUTF8).read? = some (.str s) := by
    intro s
    rw [Scalar.read?, String.toUTF8_eq_toByteArray, String.fromUTF8?, dif_pos s.isValidUTF8]
    rfl
  cases v with
  | null => simp [LogicalType.cell?_null] at h
  | bool b =>
    cases t <;> cases h
    rfl
  | int n =>
    have hs : s = .int n.toInt := by
      cases t <;> simp only [LogicalType.cell?, Option.ite_none_right_eq_some, Option.some.injEq,
        reduceCtorEq] at h
      · exact h.2.symm
      · exact h.symm
      · exact h.2.symm
      · exact h.symm
      · exact h.symm
    rw [hs, hint]
  | float x =>
    cases t <;> cases h
    rfl
  | str text =>
    cases t <;> cases h
    · rfl
    · exact hbytes text
  | list items => cases t <;> cases h
  | struct members => cases t <;> cases h

theorem LogicalType.CellsExist.readCell? {t : LogicalType} {vs : List Value}
    (h : t.CellsExist vs) {i : Nat} {v : Value} (hv : vs[i]? = some v) :
    ((vs.map t.cell?)[i]?).bind ColumnArray.readCell? = some v := by
  rw [List.getElem?_map, hv, Option.map_some, Option.bind_some]
  rcases h v (List.mem_of_getElem? hv) with rfl | hsome
  · rw [LogicalType.cell?_null, ColumnArray.readCell?]
  · obtain ⟨s, hs⟩ := Option.isSome_iff_exists.1 hsome
    rw [hs, ColumnArray.readCell?, LogicalType.read?_of_cell? hs]

theorem ColumnArray.validAt?_maskOf {valid : List Bool} {i : Nat} {b : Bool}
    (h : valid[i]? = some b) : validAt? (maskOf valid) i = some b := by
  unfold maskOf
  split
  · rename_i hall
    have hb : b = true := by simpa using List.all_eq_true.1 hall b (List.mem_of_getElem? h)
    rw [validAt?, hb]
  · exact h

/-- Reading a stretch of a stream row by row. -/
theorem mapM_range'_eq_some {α : Type} {f : Nat → Option α} {xs : List α} {start n : Nat}
    (hf : ∀ i x, xs[i]? = some x → f i = some x) (hn : start + n ≤ xs.length) :
    (List.range' start n).mapM f = some ((xs.drop start).take n) := by
  induction n generalizing start with
  | zero => simp
  | succ n ih =>
    have hlt : start < xs.length := by omega
    rw [List.range'_succ, List.mapM_cons, hf start _ (List.getElem?_eq_getElem hlt),
      ih (by omega), List.drop_eq_getElem_cons hlt, List.take_succ_cons]
    rfl

/-- The stretch of the stream of items that belongs to a row. -/
theorem Value.take_drop_allItems {vs : List Value} {i : Nat} {v : Value} (hv : vs[i]? = some v) :
    ((allItems vs).drop (allItems (vs.take i)).length).take v.items.length = v.items := by
  obtain ⟨hlt, rfl⟩ := List.getElem?_eq_some_iff.1 hv
  have hsplit : vs.take i ++ vs[i] :: vs.drop (i + 1) = vs := by
    rw [← List.drop_eq_getElem_cons hlt, List.take_append_drop]
  have hall : allItems vs =
      allItems (vs.take i) ++ (vs[i].items ++ allItems (vs.drop (i + 1))) := by
    rw [← allItems_cons, ← allItems_append, hsplit]
  rw [hall, List.drop_left, List.take_left]

/-! ## Reading built arrays -/

/-- A list array reads back where the array of its items does. -/
theorem LogicalType.row?_list {item : ArrayField} {vs : List Value} {child : ColumnArray}
    (hvs : ∀ v ∈ vs, v = .null ∨ ∃ items, v = .list items)
    (hchild : ∀ i x, (allItems vs)[i]? = some x → child.row? i = some x)
    {i : Nat} {v : Value} (hv : vs[i]? = some v) :
    (ColumnArray.list item (0 :: ends 0 vs) (maskOf (validity vs)) child).row? i = some v := by
  have hlt : i < vs.length := (List.getElem?_eq_some_iff.1 hv).1
  have hvalid : (validity vs)[i]? = some (!v.isNull) := by simp [validity, hv]
  rw [row?, validAt?_maskOf hvalid]
  rcases hvs v (List.mem_of_getElem? hv) with rfl | ⟨xs, rfl⟩
  · rfl
  · have htake : allItems (vs.take (i + 1)) = allItems (vs.take i) ++ xs := by
      rw [List.take_add_one, hv, Option.toList_some, allItems_append, allItems_cons, allItems_nil,
        List.append_nil, items]
    have hle : (allItems (vs.take i)).length + xs.length ≤ (allItems vs).length := by
      rw [← List.length_append, ← htake]
      conv_rhs => rw [← List.take_append_drop (i + 1) vs, allItems_append, List.length_append]
      exact Nat.le_add_right _ _
    have hread : (List.range' (allItems (vs.take i)).length xs.length).mapM child.row? = some xs :=
      (mapM_range'_eq_some hchild hle).trans (congrArg some (take_drop_allItems hv))
    rw [getElem?_cons_ends 0 vs (Nat.le_of_lt hlt), getElem?_cons_ends 0 vs hlt, htake]
    simp [isNull, hread]

/-- A struct array reads back where the arrays of its members do. -/
theorem LogicalType.row?_struct {members : List ArrayField} {n : Nat} {vs : List Value}
    {children : List ColumnArray}
    (hvs : ∀ v ∈ vs, v = .null ∨ ∃ ps, v = .struct ps ∧ ps.length = n)
    (hchildren : ∀ i row, (vs.map (parts n))[i]? = some row → row.length = n →
      memberRow? children i = some row)
    {i : Nat} {v : Value} (hv : vs[i]? = some v) :
    (ColumnArray.struct members (maskOf (validity vs)) children).row? i = some v := by
  have hvalid : (validity vs)[i]? = some (!v.isNull) := by simp [validity, hv]
  rw [row?, validAt?_maskOf hvalid]
  rcases hvs v (List.mem_of_getElem? hv) with rfl | ⟨ps, rfl, hlen⟩
  · rfl
  · have hrow := hchildren i ps (by simp [hv, parts]) hlen
    simp [isNull, hrow]

mutual

theorem LogicalType.row?_of_buildArray {name : String} :
    ∀ {t : LogicalType} {vs : List Value} {a : ColumnArray}, t.buildArray name vs = .ok a →
      ∀ i v, vs[i]? = some v → a.row? i = some v
  | .decimal precision scale, vs, a, h, i, v, hv => by
    obtain ⟨hcells, -, -, u, -, rfl⟩ := LogicalType.buildArray_decimal_eq_ok_iff.1 h
    rw [row?, hcells.readCell? hv]
  | .list item, vs, a, h, i, v, hv => by
    obtain ⟨hvs, -, child, g, hchild, -, -, -, rfl⟩ := LogicalType.buildArray_list_eq_ok_iff.1 h
    exact LogicalType.row?_list hvs (Field.row?_of_buildArray hchild) hv
  | .struct members, vs, a, h, i, v, hv => by
    obtain ⟨hvs, children, gs, hchildren, -, -, -, rfl⟩ :=
      LogicalType.buildArray_struct_eq_ok_iff.1 h
    exact LogicalType.row?_struct hvs (Field.memberRow?_of_buildMembers hchildren) hv
  | .bool, vs, a, h, i, v, hv | .int16, vs, a, h, i, v, hv | .int64, vs, a, h, i, v, hv
  | .uint32, vs, a, h, i, v, hv | .float64, vs, a, h, i, v, hv | .utf8, vs, a, h, i, v, hv
  | .largeBinary, vs, a, h, i, v, hv | .timestamp _ _, vs, a, h, i, v, hv => by
    obtain ⟨hcells, u, -, rfl⟩ := (LogicalType.buildArray_plain_eq_ok_iff rfl).1 h
    rw [row?, hcells.readCell? hv]

theorem Field.row?_of_buildArray :
    ∀ {f : Field} {vs : List Value} {a : ColumnArray}, f.buildArray vs = .ok a →
      ∀ i v, vs[i]? = some v → a.row? i = some v
  | .mk name type nullable, vs, a, h, i, v, hv => by
    rw [Field.buildArray] at h
    exact LogicalType.row?_of_buildArray h i v hv

theorem Field.memberRow?_of_buildMembers :
    ∀ {fs : List Field} {rows : List (List Value)} {as : List ColumnArray},
      Field.buildMembers fs rows = .ok as →
      ∀ i row, rows[i]? = some row → row.length = fs.length → memberRow? as i = some row
  | [], rows, as, h, i, row, hrow, hlen => by
    rw [Field.buildMembers_nil_eq_ok_iff.1 h, memberRow?, List.eq_nil_of_length_eq_zero hlen]
  | f :: fs, rows, as, h, i, row, hrow, hlen => by
    obtain ⟨b, bs, hb, hbs, rfl⟩ := Field.buildMembers_cons_eq_ok_iff.1 h
    obtain ⟨v, vs, rfl⟩ := List.exists_cons_of_length_eq_add_one hlen
    have hfirst := Field.row?_of_buildArray hb i v (by simp [hrow])
    have hrest := Field.memberRow?_of_buildMembers hbs i vs (by simp [hrow]) (by simpa using hlen)
    rw [memberRow?, hfirst, hrest]
    rfl

end

/-! ## The view as values -/

theorem Scalar.toValue_of_read? {s : Scalar} {v : Value} (h : s.read? = some v) :
    s.toValue = v := by
  cases s with
  | int n =>
    rw [read?, Option.ite_none_right_eq_some] at h
    exact Option.some.inj h.2
  | bytes b =>
    obtain ⟨text, htext, rfl⟩ := Option.map_eq_some_iff.1 h
    rw [toValue, htext, Option.getD_some]
  | bool b => exact Option.some.inj h
  | float x => exact Option.some.inj h
  | str text => exact Option.some.inj h

theorem LogicalType.CellsExist.map_valueOrNull {t : LogicalType} {vs : List Value}
    (h : t.CellsExist vs) : (vs.map t.cell?).map Scalar.valueOrNull = vs := by
  rw [List.map_map]
  conv_rhs => rw [← List.map_id vs]
  refine List.map_congr_left fun v hv => ?_
  rw [Function.comp_apply, id]
  rcases h v hv with rfl | hsome
  · rw [LogicalType.cell?_null, Scalar.valueOrNull]
  · obtain ⟨s, hs⟩ := Option.isSome_iff_exists.1 hsome
    rw [hs, Scalar.valueOrNull, Scalar.toValue_of_read? (LogicalType.read?_of_cell? hs)]

theorem Value.cutRows_ends (start : Nat) (vs : List Value) :
    cutRows (start :: ends start vs) (allItems vs) = vs.map items := by
  induction vs generalizing start with
  | nil => rfl
  | cons v vs ih =>
    rw [ends, cutRows, Nat.add_sub_cancel_left, allItems_cons, List.take_left, List.drop_left, ih,
      List.map_cons]

/-- A mask puts back the nulls of the stream that it was made from. -/
theorem Value.masked_maskOf {g : Value → Value} {vs : List Value}
    (h : ∀ v ∈ vs, v = .null ∨ g v = v) : masked (maskOf (validity vs)) (vs.map g) = vs := by
  have hmask : masked (maskOf (validity vs)) (vs.map g) =
      masked (some (validity vs)) (vs.map g) := by
    unfold maskOf
    split
    · rename_i hall
      rw [masked, masked, validity, List.zipWith_map, List.zipWith_self]
      refine List.map_congr_left fun v hv => ?_
      have hvalid : v.isNull = false := by
        simpa using List.all_eq_true.1 hall _ (List.mem_map_of_mem hv)
      rw [hvalid]
      rfl
    · rfl
  rw [hmask, masked, validity, List.zipWith_map, List.zipWith_self]
  conv_rhs => rw [← List.map_id vs]
  refine List.map_congr_left fun v hv => ?_
  rcases h v hv with rfl | hg
  · rfl
  · cases hnull : v.isNull with
    | true => rw [isNull_eq_true_iff.1 hnull]; rfl
    | false => exact hg

mutual

theorem LogicalType.values_of_buildArray {name : String} :
    ∀ {t : LogicalType} {vs : List Value} {a : ColumnArray}, t.NoEmptyStruct →
      t.buildArray name vs = .ok a → a.values = vs
  | .decimal precision scale, vs, a, _, h => by
    obtain ⟨hcells, -, -, u, -, rfl⟩ := LogicalType.buildArray_decimal_eq_ok_iff.1 h
    rw [values, hcells.map_valueOrNull]
  | .list item, vs, a, hne, h => by
    obtain ⟨hvs, -, child, g, hchild, -, -, -, rfl⟩ := LogicalType.buildArray_list_eq_ok_iff.1 h
    rw [values, Field.values_of_buildArray (LogicalType.noEmptyStruct_list.1 hne) hchild,
      cutRows_ends, List.map_map]
    refine masked_maskOf fun v hv => (hvs v hv).imp id ?_
    rintro ⟨xs, rfl⟩
    rfl
  | .struct members, vs, a, hne, h => by
    obtain ⟨hvs, children, gs, hchildren, -, -, -, rfl⟩ :=
      LogicalType.buildArray_struct_eq_ok_iff.1 h
    obtain ⟨hmembers, hall⟩ := LogicalType.noEmptyStruct_struct.1 hne
    have hparts := length_of_mem_map_parts hvs
    rw [values, Field.memberRows_of_buildMembers hmembers hall hchildren hparts, List.map_map]
    refine masked_maskOf fun v hv => (hvs v hv).imp id ?_
    rintro ⟨ps, rfl, -⟩
    rfl
  | .bool, vs, a, _, h | .int16, vs, a, _, h | .int64, vs, a, _, h | .uint32, vs, a, _, h
  | .float64, vs, a, _, h | .utf8, vs, a, _, h | .largeBinary, vs, a, _, h
  | .timestamp _ _, vs, a, _, h => by
    obtain ⟨hcells, u, -, rfl⟩ := (LogicalType.buildArray_plain_eq_ok_iff rfl).1 h
    rw [values, hcells.map_valueOrNull]

/-- The values that are seen in a built array are those it was built from. -/
theorem Field.values_of_buildArray :
    ∀ {f : Field} {vs : List Value} {a : ColumnArray}, f.NoEmptyStruct →
      f.buildArray vs = .ok a → a.values = vs
  | .mk _ type _, vs, a, hne, h => by
    rw [Field.buildArray] at h
    exact LogicalType.values_of_buildArray hne h

theorem Field.memberRows_of_buildMembers :
    ∀ {fs : List Field} {rows : List (List Value)} {as : List ColumnArray}, fs ≠ [] →
      (∀ f ∈ fs, f.NoEmptyStruct) → Field.buildMembers fs rows = .ok as →
      (∀ row ∈ rows, row.length = fs.length) → memberRows as = rows
  | [], _, _, hsome, _, _, _ => absurd rfl hsome
  | [f], rows, as, _, hne, h, hlen => by
    obtain ⟨b, bs, hb, hbs, rfl⟩ := Field.buildMembers_cons_eq_ok_iff.1 h
    rw [Field.buildMembers_nil_eq_ok_iff.1 hbs, memberRows,
      Field.values_of_buildArray (hne f List.mem_cons_self) hb, List.map_map]
    conv_rhs => rw [← List.map_id rows]
    refine List.map_congr_left fun row hrow => ?_
    obtain ⟨v, rfl⟩ := List.length_eq_one_iff.1 (hlen row hrow)
    rfl
  | f :: g :: fs, rows, as, _, hne, h, hlen => by
    obtain ⟨b, bs, hb, hbs, rfl⟩ := Field.buildMembers_cons_eq_ok_iff.1 h
    have htails : ∀ row ∈ rows.map List.tail, row.length = (g :: fs).length := by
      intro tail htail
      obtain ⟨row, hrow, rfl⟩ := List.mem_map.1 htail
      rw [List.length_tail, hlen row hrow]
      rfl
    have hrest := Field.memberRows_of_buildMembers (List.cons_ne_nil g fs)
      (List.forall_mem_cons.1 hne).2 hbs htails
    obtain ⟨b', bs', -, -, rfl⟩ := Field.buildMembers_cons_eq_ok_iff.1 hbs
    rw [memberRows, hrest, Field.values_of_buildArray (hne f List.mem_cons_self) hb,
      List.zipWith_map, List.zipWith_self]
    conv_rhs => rw [← List.map_id rows]
    refine List.map_congr_left fun row hrow => ?_
    obtain ⟨v, vs, rfl⟩ := List.exists_cons_of_length_eq_add_one (hlen row hrow)
    rfl

end

/-! ## What comes back -/

/-- Reading an array back gives the values that it was built from, whether row by
row or through its view as values.  The array therefore tells apart null lists,
empty lists and lists of nulls, and null structs and structs of nulls, at every
depth. -/
theorem Field.rows?_of_buildArray {f : Field} {vs : List Value} {a : ColumnArray}
    (hne : f.NoEmptyStruct) (h : f.buildArray vs = .ok a) :
    a.rows? = some vs ∧ a.values = vs ∧ ∀ ws, f.buildArray ws = .ok a → ws = vs := by
  have hrows : a.rows? = some vs := by
    rw [rows?, Field.length_of_buildArray hne h, List.range_eq_range',
      mapM_range'_eq_some (Field.row?_of_buildArray h) (by omega), List.drop_zero,
      List.take_length]
  have hvalues := Field.values_of_buildArray hne h
  refine ⟨hrows, hvalues, fun ws hws => ?_⟩
  rw [← Field.values_of_buildArray hne hws, hvalues]

/-- Lists of optional structs of a required list, in every mix of null and empty. -/
theorem Field.rows?_of_buildArray_nested :
    ∃ a, (Field.optional "l" (.list (.optional "item" (.struct
        [.required "r" (.list (.optional "item" .int16)), .optional "b" .largeBinary])))).buildArray
          [.null, .list [], .list [.null, .null],
            .list [.struct [.list [], .null], .struct [.list [.null, .int 7], .str "é"]]] = .ok a ∧
      a.rows? = some [.null, .list [], .list [.null, .null],
        .list [.struct [.list [], .null], .struct [.list [.null, .int 7], .str "é"]]] := by
  refine Exists.elim ?_ fun a ha => ⟨a, ha, (Field.rows?_of_buildArray ?_ ha).1⟩
  · exact ⟨_, rfl⟩
  · simp [Field.optional, Field.required, Field.NoEmptyStruct, LogicalType.NoEmptyStruct,
      LogicalType.inside, Field.inside, Field.allInside]

end FixtureMatrix
