import FixtureMatrix.Proofs.Columnar.Nodes
import FixtureMatrix.Proofs.Columnar.ReadBack

/-!
# Structure of built arrays

What offsets, masks and members of an array have to satisfy for its rows to be read
off them, at every depth.

* `LogicalType.wellFormed_of_built`: a built array is well formed, looking at its
  parts only.
* `Field.wellFormed_of_buildArray`: so is every array inside it.

The length of a struct is that of its first member, so every struct needs one.
-/

namespace FixtureMatrix

open ColumnArray Value

/-! ## Well-formed arrays -/

namespace ColumnArray

/-- The mask that an array keeps beside its parts.  A primitive array has its nulls
among its cells, and a mask of them by the same rule. -/
def keptMask : ColumnArray → Option (List Bool)
  | leaf _ cells => maskOf (cells.map Option.isSome)
  | list _ _ validity _ => validity
  | struct _ validity _ => validity

/-- Offsets cut rows from a child array: all of it, in order, and nothing for a row
that is null. -/
structure Cuts (offsets : List Nat) (valid : List Bool) (child : ColumnArray) : Prop where
  length : offsets.length = valid.length + 1
  first : offsets.head? = some 0
  monotone : offsets.Pairwise (· ≤ ·)
  last : offsets.getLast? = some child.length
  nullRows : ∀ i : Nat, valid[i]? = some false → offsets[i + 1]? = offsets[i]?

/-- An array for a member of a struct with these valid rows: null wherever the struct
is, and nowhere else if the member may not be null. -/
structure MemberOf (valid : List Bool) (f : ArrayField) (member : ColumnArray) : Prop where
  length : member.length = valid.length
  nullRows : ∀ i : Nat, valid[i]? = some false → member.validRows[i]? = some false
  required : f.nullable = false →
    ∀ i : Nat, member.validRows[i]? = some false → valid[i]? = some false

/-- The parts of an array fit its rows. -/
def PartsFit (a : ColumnArray) : Prop :=
  match a with
  | leaf _ _ => True
  | list item offsets _ child =>
    Cuts offsets a.validRows child ∧ (item.nullable = false → false ∉ child.validRows)
  | struct members _ children => List.Forall₂ (MemberOf a.validRows) members children

/-- An array with `length` rows, of which those are null that are read as null.  Its
mask tells which, and is left out where none is. -/
structure WellFormed (a : ColumnArray) : Prop where
  length : a.values.length = a.length
  nulls : a.validRows = validity a.values
  nullCount : a.nullCount = a.values.countP isNull
  noMask : a.keptMask = none ↔ .null ∉ a.values
  someMask : ∀ mask, a.keptMask = some mask → mask = a.validRows
  parts : a.PartsFit

theorem maskOf_eq_none_iff {vs : List Value} :
    maskOf (validity vs) = none ↔ .null ∉ vs := by
  rw [maskOf, ite_eq_left_iff]
  simp [validity, isNull_eq_true_iff]

theorem eq_of_maskOf {valid mask : List Bool} (h : maskOf valid = some mask) : mask = valid := by
  rw [maskOf] at h
  split at h
  · cases h
  · exact (Option.some.inj h).symm

end ColumnArray

theorem Value.count_false_validity (vs : List Value) :
    (validity vs).count false = vs.countP isNull := by
  rw [validity, List.count, List.countP_map]
  congr 1
  funext v
  cases v <;> rfl

theorem Value.getElem?_validity_eq_false_iff {vs : List Value} {i : Nat} :
    (validity vs)[i]? = some false ↔ vs[i]? = some .null := by
  rw [validity, List.getElem?_map, Option.map_eq_some_iff]
  constructor
  · rintro ⟨v, hv, hnull⟩
    have hnull : v.isNull = true := by simpa using hnull
    rw [hv, isNull_eq_true_iff.1 hnull]
  · intro h
    exact ⟨.null, h, rfl⟩

/-! ## Lists -/

namespace Value

theorem pairwise_ends (start : Nat) (vs : List Value) :
    (start :: ends start vs).Pairwise (· ≤ ·) := by
  rw [← List.isChain_iff_pairwise]
  induction vs generalizing start with
  | nil => exact .singleton start
  | cons v vs ih =>
    rw [ends]
    exact .cons_cons (Nat.le_add_right start v.items.length) (ih _)

theorem allItems_take_add_one {vs : List Value} {i : Nat} (h : vs[i]? = some .null) :
    allItems (vs.take (i + 1)) = allItems (vs.take i) := by
  rw [List.take_add_one, h, allItems_append]
  simp [items]

/-- The running number of items cuts the stream of all items into its lists. -/
theorem cuts_ends {vs : List Value} {child : ColumnArray}
    (hchild : child.length = (allItems vs).length) :
    Cuts (0 :: ends 0 vs) (validity vs) child where
  length := by simp
  first := rfl
  monotone := pairwise_ends 0 vs
  last := by
    have hlast := getElem?_cons_ends 0 vs (Nat.le_refl vs.length)
    rw [List.take_length, Nat.zero_add, ← hchild] at hlast
    rw [List.getLast?_eq_getElem?, List.length_cons, length_ends, Nat.add_sub_cancel, hlast]
  nullRows i hi := by
    rw [getElem?_validity_eq_false_iff] at hi
    obtain ⟨hlt, -⟩ := List.getElem?_eq_some_iff.1 hi
    rw [getElem?_cons_ends 0 vs hlt, getElem?_cons_ends 0 vs (Nat.le_of_lt hlt),
      allItems_take_add_one hi]

end Value

/-! ## Structs -/

/-- The array of one member: its stream has a null wherever the struct has one, and the
check of masked nulls leaves no other. -/
theorem Field.memberOf_of_buildArray {f : Field} {g : ArrayField} {rows : List (List Value)}
    {valid : List Bool} {a : ColumnArray} (hne : f.NoEmptyStruct)
    (h : f.buildArray (rows.map fun row => row.headD .null) = .ok a)
    (hlen : rows.length = valid.length)
    (hmasked : ¬ (g.nullable = false ∧ nullsMasked valid a.validRows = false))
    (hnulls : ∀ (i : Nat) row, valid[i]? = some false → rows[i]? = some row →
      ∀ v ∈ row, v = .null) : MemberOf valid g a := by
  have hvalid := Field.validRows_of_buildArray hne h
  have hlength := Field.length_of_buildArray hne h
  rw [List.length_map] at hlength
  refine ⟨hlength.trans hlen, fun i hi => ?_, fun hrequired i hi => ?_⟩
  · obtain ⟨hlt, -⟩ := List.getElem?_eq_some_iff.1 hi
    have hrow : rows[i]? = some rows[i] := List.getElem?_eq_getElem (hlen ▸ hlt)
    rw [hvalid, getElem?_validity_eq_false_iff, List.getElem?_map, hrow, Option.map_some]
    have hall := hnulls i _ hi hrow
    cases hcells : rows[i] with
    | nil => rfl
    | cons v vs =>
      rw [hcells] at hall
      exact congrArg some (hall v List.mem_cons_self)
  · have hmasked : nullsMasked valid a.validRows = true := by simpa [hrequired] using hmasked
    obtain ⟨hlt, hfalse⟩ := List.getElem?_eq_some_iff.1 hi
    rw [hvalid, length_validity, List.length_map, hlen] at hlt
    have hpair : (valid.zip a.validRows)[i]? = some (valid[i], false) :=
      List.getElem?_zip_eq_some.2 ⟨List.getElem?_eq_getElem hlt, hi⟩
    have htrue := nullsMasked_eq_true_iff.1 hmasked _ (List.mem_of_getElem? hpair)
    rw [List.getElem?_eq_getElem hlt]
    cases hi : valid[i] with
    | false => rfl
    | true => exact absurd (htrue hi) Bool.false_ne_true

theorem Field.memberOf_of_buildMembers {fs : List Field} {gs : List ArrayField}
    {rows : List (List Value)} {valid : List Bool} {as : List ColumnArray}
    (hne : ∀ f ∈ fs, f.NoEmptyStruct) (h : Field.buildMembers fs rows = .ok as)
    (hgs : Field.arrayFields fs = .ok gs) (hlen : rows.length = valid.length)
    (hcheck : ColumnArray.checkMembers valid.length valid gs as = .ok ())
    (hnulls : ∀ (i : Nat) row, valid[i]? = some false → rows[i]? = some row →
      ∀ v ∈ row, v = .null) : List.Forall₂ (MemberOf valid) gs as := by
  induction fs generalizing gs rows as with
  | nil =>
    rw [Field.buildMembers_nil_eq_ok_iff.1 h, Field.arrayFields_nil_eq_ok_iff.1 hgs]
    exact .nil
  | cons f fs ih =>
    obtain ⟨b, bs, hb, hbs, rfl⟩ := Field.buildMembers_cons_eq_ok_iff.1 h
    obtain ⟨g, gs, -, htypes, rfl⟩ := Field.arrayFields_cons_eq_ok_iff.1 hgs
    rw [List.forall_mem_cons] at hne
    rw [ColumnArray.checkMembers, guard_eq_ok_iff, guard_eq_ok_iff, guard_eq_ok_iff] at hcheck
    obtain ⟨-, -, hmasked, hrest⟩ := hcheck
    refine .cons (Field.memberOf_of_buildArray hne.1 hb hlen hmasked hnulls) ?_
    refine ih hne.2 hbs htypes (by simpa using hlen) hrest fun i row hi hrow => ?_
    rw [List.getElem?_map, Option.map_eq_some_iff] at hrow
    obtain ⟨whole, hwhole, rfl⟩ := hrow
    exact fun v hv => hnulls i whole hi hwhole v (List.mem_of_mem_tail hv)

/-! ## Built arrays -/

namespace LogicalType

variable {name : String} {t : LogicalType} {vs : List Value} {a : ColumnArray}

theorem keptMask_of_buildArray (h : t.buildArray name vs = .ok a) :
    a.keptMask = maskOf (validity vs) := by
  by_cases hplain : t.isPlain = true
  · obtain ⟨hcells, u, -, rfl⟩ := (buildArray_plain_eq_ok_iff hplain).1 h
    rw [keptMask, hcells.map_isSome]
  · cases t with
    | decimal precision scale =>
      obtain ⟨hcells, -, -, u, -, rfl⟩ := buildArray_decimal_eq_ok_iff.1 h
      rw [keptMask, hcells.map_isSome]
    | list item =>
      obtain ⟨-, -, child, g, -, -, -, -, rfl⟩ := buildArray_list_eq_ok_iff.1 h
      rfl
    | struct members =>
      obtain ⟨-, children, gs, -, -, -, -, rfl⟩ := buildArray_struct_eq_ok_iff.1 h
      rfl
    | _ => exact absurd rfl hplain

theorem partsFit_of_buildArray (hne : t.NoEmptyStruct) (h : t.buildArray name vs = .ok a) :
    a.PartsFit := by
  have hlength := length_of_buildArray hne h
  have hvalid := validRows_of_buildArray hne h
  by_cases hplain : t.isPlain = true
  · obtain ⟨-, u, -, rfl⟩ := (buildArray_plain_eq_ok_iff hplain).1 h
    exact trivial
  · cases t with
    | decimal precision scale =>
      obtain ⟨-, -, -, u, -, rfl⟩ := buildArray_decimal_eq_ok_iff.1 h
      exact trivial
    | list item =>
      obtain ⟨-, -, child, g, hchild, hg, -, hnull, rfl⟩ := buildArray_list_eq_ok_iff.1 h
      have hitem := noEmptyStruct_list.1 hne
      rw [PartsFit, hvalid, (Field.arrayField_eq_ok_iff.1 hg).2.1]
      refine ⟨cuts_ends (Field.length_of_buildArray hitem hchild), fun hrequired => ?_⟩
      have hzero : child.nullCount = 0 := by simpa [hrequired] using hnull
      exact List.count_eq_zero.1 hzero
    | struct members =>
      obtain ⟨hvs, children, gs, hchildren, hgs, -, hcheck, rfl⟩ :=
        buildArray_struct_eq_ok_iff.1 h
      obtain ⟨-, hall⟩ := noEmptyStruct_struct.1 hne
      rw [PartsFit, hvalid]
      rw [hlength, ← length_validity] at hcheck
      refine Field.memberOf_of_buildMembers hall hchildren hgs (by simp) hcheck fun i row hi hrow => ?_
      rw [getElem?_validity_eq_false_iff] at hi
      rw [List.getElem?_map, hi, Option.map_some, Option.some.injEq] at hrow
      rw [← hrow]
      exact fun v hv => List.eq_of_mem_replicate hv
    | _ => exact absurd rfl hplain

theorem wellFormed_of_built (hne : t.NoEmptyStruct) (h : t.buildArray name vs = .ok a) :
    a.WellFormed := by
  have hvalid := validRows_of_buildArray hne h
  have hvalues := values_of_buildArray hne h
  have hmask := keptMask_of_buildArray h
  constructor
  · rw [hvalues, length_of_buildArray hne h]
  · rw [hvalues, hvalid]
  · rw [nullCount, hvalid, hvalues, count_false_validity]
  · rw [hmask, hvalues, maskOf_eq_none_iff]
  · intro mask hsome
    rw [hmask] at hsome
    rw [eq_of_maskOf hsome, hvalid]
  · exact partsFit_of_buildArray hne h

end LogicalType

/-- Every array inside a built array is well formed: its offsets, its members, its mask
and its number of nulls fit the rows that it has. -/
theorem Field.wellFormed_of_buildArray {f : Field} {vs : List Value} {a : ColumnArray}
    (hne : f.NoEmptyStruct) (h : f.buildArray vs = .ok a) : ∀ node ∈ a.nodes, node.WellFormed := by
  intro node hnode
  obtain ⟨t, hinside, name, ws, hbuilt⟩ := Field.built_of_mem_nodes h node hnode
  refine LogicalType.wellFormed_of_built (fun hempty => ?_) hbuilt
  rw [Field.inside_eq] at hinside
  exact hne (LogicalType.inside_subset hinside hempty)

/-- A struct with a list of structs in it and one without nulls, in rows that are null at
different depths. -/
def mixedNulls : Field :=
  .optional "s" (.struct [.required "n" .int64, .optional "l" (.list (.required "item"
    (.struct [.required "r" (.list (.optional "item" .bool)), .optional "d" (.decimal 3 1)])))])

/-- Its array is well formed, and so are the six arrays inside it. -/
theorem Field.wellFormed_of_buildArray_mixedNulls :
    mixedNulls.NoEmptyStruct ∧ ∃ a, mixedNulls.buildArray [.null, .struct [.int 1, .null],
        .struct [.int 2, .list [.struct [.list [], .null], .struct [.list [.null], .int 5]]]] =
          .ok a ∧
      a.nodes.length = 7 ∧ a.nullCount = 1 ∧ ∀ node ∈ a.nodes, node.WellFormed := by
  have hne : mixedNulls.NoEmptyStruct := by
    simp [mixedNulls, Field.optional, Field.required, Field.NoEmptyStruct,
      LogicalType.NoEmptyStruct, LogicalType.inside, Field.inside, Field.allInside]
  obtain ⟨a, ha, hnodes, hnulls⟩ : ∃ a, mixedNulls.buildArray [.null, .struct [.int 1, .null],
      .struct [.int 2, .list [.struct [.list [], .null], .struct [.list [.null], .int 5]]]] =
        .ok a ∧ a.nodes.length = 7 ∧ a.nullCount = 1 := ⟨_, rfl, rfl, rfl⟩
  exact ⟨hne, a, ha, hnodes, hnulls, Field.wellFormed_of_buildArray hne ha⟩

end FixtureMatrix
