import FixtureMatrix.Proofs.Case.Admission
import FixtureMatrix.Proofs.Columnar.Rows

/-!
# Streams that can be laid out

Whether an array can be built from a stream is a matter of its values only,
although the builder decides it column by column: it puts nulls into the members
of null structs and leaves it to masks to tell which of them are allowed.

* `exists_buildArray_iff`: an array can be built from a stream exactly when the
  decimals of its type are supported and every value is null or of the type.

This needs that lists flatten to streams within the offsets' range, and that no
struct is without members, as the length of such a struct would be lost.
-/

namespace FixtureMatrix

open ColumnArray Value

/-! ## Streams within the offsets' range -/

mutual

/-- At every depth, the lists of a stream have no more items than offsets can
count. -/
def LogicalType.OffsetsFit : LogicalType → List Value → Prop
  | .list item, vs => (allItems vs).length ≤ maxOffset ∧ item.OffsetsFit (allItems vs)
  | .struct members, vs => Field.AllOffsetsFit members (vs.map (parts members.length))
  | _, _ => True

def Field.OffsetsFit : Field → List Value → Prop
  | .mk _ type _, vs => type.OffsetsFit vs

/-- The same for the members of structs, given by their rows. -/
def Field.AllOffsetsFit : List Field → List (List Value) → Prop
  | [], _ => True
  | f :: fs, rows =>
    f.OffsetsFit (rows.map fun row => row.headD .null) ∧ Field.AllOffsetsFit fs (rows.map List.tail)

end

/-! ## Values that an array stores -/

/-- An array of a type stores nulls and the values of the type. -/
def LogicalType.Stores (t : LogicalType) (v : Value) : Prop :=
  v = .null ∨ t.Holds v

/-- A field admits what its arrays store, except a null that it forbids. -/
theorem Field.admits_iff_stores {f : Field} {v : Value} :
    f.Admits v ↔ f.type.Stores v ∧ f.NullAllowed v := by
  rw [Field.admits_iff]
  unfold LogicalType.Stores Field.NullAllowed
  by_cases hv : v = .null
  · subst hv
    simp [LogicalType.not_holds_null]
  · simp [hv]

theorem Field.forall₂_admits_iff {fs : List Field} {vs : List Value} :
    List.Forall₂ Field.Admits fs vs ↔
      List.Forall₂ (fun f v => f.type.Stores v) fs vs ∧ List.Forall₂ Field.NullAllowed fs vs := by
  induction fs generalizing vs with
  | nil => cases vs <;> simp
  | cons f fs ih =>
    cases vs with
    | nil => simp
    | cons v vs =>
      simp only [List.forall₂_cons, ih, Field.admits_iff_stores]
      exact and_and_and_comm

theorem Field.forall₂_stores_nulls (fs : List Field) :
    List.Forall₂ (fun f v => f.type.Stores v) fs (List.replicate fs.length .null) := by
  induction fs with
  | nil => exact .nil
  | cons f fs ih => exact .cons (Or.inl rfl) ih

namespace LogicalType

/-- A primitive type without conditions has cells for exactly its values. -/
theorem cell?_isSome_iff {t : LogicalType} {v : Value} (ht : t.isPlain = true) :
    (t.cell? v).isSome = true ↔ t.Holds v := by
  cases v with
  | null => simp [cell?_null, not_holds_null]
  | bool b =>
    rw [holds_bool_iff]
    cases t <;> simp [cell?]
  | int n =>
    rw [holds_int_iff]
    cases t <;> simp_all [cell?, acceptsInt, isPlain]
  | float x =>
    rw [holds_float_iff]
    cases t <;> simp [cell?]
  | str s =>
    rw [holds_str_iff]
    cases t <;> simp [cell?]
  | list items =>
    rw [holds_list_iff]
    cases t <;> simp_all [cell?, isPlain]
  | struct ps =>
    rw [holds_struct_iff]
    cases t <;> simp_all [cell?, isPlain]

theorem holds_decimal_iff {precision scale : Nat} {v : Value} :
    (decimal precision scale).Holds v ↔
      ∃ n : Int64, v = .int n ∧ decimalFits n.toInt precision = true := by
  constructor
  · intro h
    cases h with
    | decimal _ _ n hn => exact ⟨n, rfl, by simpa [decimalFits] using hn⟩
  · rintro ⟨n, rfl, hn⟩
    exact .decimal precision scale n (by simpa [decimalFits] using hn)

theorem cell?_decimal_eq_some_iff {precision scale : Nat} {v : Value} {c : Scalar} :
    (decimal precision scale).cell? v = some c ↔ ∃ n : Int64, v = .int n ∧ c = .int n.toInt := by
  cases v <;> simp [cell?, eq_comm]

theorem forall_stores_decimal_iff {precision scale : Nat} {vs : List Value} :
    (∀ v ∈ vs, (decimal precision scale).Stores v) ↔
      (decimal precision scale).CellsExist vs ∧
      ∀ n : Int, some (.int n) ∈ vs.map (decimal precision scale).cell? →
        decimalFits n precision = true := by
  unfold CellsExist Stores
  simp only [holds_decimal_iff, Option.isSome_iff_exists, cell?_decimal_eq_some_iff, List.mem_map]
  constructor
  · intro h
    refine ⟨fun v hv => (h v hv).imp_right fun ⟨n, hn, _⟩ => ⟨_, n, hn, rfl⟩, ?_⟩
    rintro k ⟨v, hv, n, rfl, hk⟩
    cases hk
    rcases h _ hv with hnull | ⟨m, hm, hfits⟩
    · cases hnull
    · cases hm
      exact hfits
  · rintro ⟨hcells, hfits⟩ v hv
    rcases hcells v hv with hnull | ⟨c, n, rfl, rfl⟩
    · exact Or.inl hnull
    · exact Or.inr ⟨n, rfl, hfits _ ⟨_, hv, n, rfl, rfl⟩⟩

theorem forall_stores_list_iff {item : Field} {vs : List Value} :
    (∀ v ∈ vs, (list item).Stores v) ↔
      (∀ v ∈ vs, v = .null ∨ ∃ items, v = .list items) ∧ ∀ x ∈ allItems vs, item.Admits x := by
  unfold allItems
  rw [List.forall_mem_flatMap, ← forall₂_and]
  refine forall₂_congr fun v _ => ?_
  cases v with
  | null => simp [Stores, items]
  | list xs => simp [Stores, items, holds_list_iff]
  | _ => simp [Stores, holds_bool_iff, holds_int_iff, holds_float_iff, holds_str_iff,
      holds_struct_iff, acceptsInt]

theorem forall_stores_struct_iff {members : List Field} {vs : List Value} :
    (∀ v ∈ vs, (struct members).Stores v) ↔
      (∀ v ∈ vs, v = .null ∨ ∃ ps, v = .struct ps ∧ ps.length = members.length) ∧
      ∀ v ∈ vs, v.isNull = false → List.Forall₂ Field.Admits members (v.parts members.length) := by
  rw [← forall₂_and]
  refine forall₂_congr fun v _ => ?_
  cases v with
  | null => simp [Stores, isNull]
  | struct ps =>
    simp only [Stores, reduceCtorEq, false_or, holds_struct_iff, struct.injEq, exists_eq_left',
      Value.struct.injEq, parts, isNull, forall_const]
    exact ⟨fun h => ⟨h.length_eq.symm, h⟩, fun h => h.2⟩
  | _ => simp [Stores, holds_bool_iff, holds_int_iff, holds_float_iff, holds_str_iff,
      holds_list_iff, acceptsInt]

end LogicalType

/-! ## Arrays -/

/-- In the rows of a struct, the check of members leaves a null only where its
field may be null, unless the whole struct is null. -/
theorem Field.checkMembers_validity_eq_ok_iff {members : List Field} {gs : List ArrayField}
    {vs : List Value} {children : List ColumnArray} {n : Nat}
    (hne : ∀ f ∈ members, f.NoEmptyStruct)
    (h : Field.buildMembers members (vs.map (parts members.length)) = .ok children)
    (hgs : Field.arrayFields members = .ok gs) (hn : n = vs.length)
    (hvs : ∀ v ∈ vs, v = .null ∨ ∃ ps, v = .struct ps ∧ ps.length = members.length) :
    ColumnArray.checkMembers n (validity vs) gs children = .ok () ↔
      ∀ v ∈ vs, v.isNull = false →
        List.Forall₂ Field.NullAllowed members (v.parts members.length) := by
  rw [Field.checkMembers_eq_ok_iff hne h hgs (by simpa using hn) (length_of_mem_map_parts hvs),
    validity, List.zip_map', List.forall_mem_map]
  simp

namespace LogicalType

variable {name : String} {vs : List Value}

theorem exists_buildArray_plain_iff {t : LogicalType} (ht : t.isPlain = true) :
    (∃ a, t.buildArray name vs = .ok a) ↔ t.DecimalsSupported ∧ ∀ v ∈ vs, t.Stores v := by
  have hdecimals : t.DecimalsSupported := by
    intro precision scale hmem
    cases t <;> simp_all [inside, isPlain]
  simp only [buildArray_plain_eq_ok_iff ht, CellsExist, cell?_isSome_iff ht]
  constructor
  · rintro ⟨a, hvs, -⟩
    exact ⟨hdecimals, hvs⟩
  · rintro ⟨-, hvs⟩
    obtain ⟨u, hu⟩ := (exists_arrayType_iff _ _).2 hdecimals.scalesStorable
    exact ⟨_, hvs, u, hu, rfl⟩

theorem exists_buildArray_decimal_iff {precision scale : Nat} :
    (∃ a, (decimal precision scale).buildArray name vs = .ok a) ↔
      (decimal precision scale).DecimalsSupported ∧
        ∀ v ∈ vs, (decimal precision scale).Stores v := by
  rw [decimalsSupported_decimal, forall_stores_decimal_iff]
  simp only [buildArray_decimal_eq_ok_iff]
  constructor
  · rintro ⟨a, hcells, hsupported, hdigits, -⟩
    exact ⟨hsupported, hcells, hdigits⟩
  · rintro ⟨hsupported, hcells, hdigits⟩
    have hstorable := (decimalsSupported_decimal.2 hsupported).scalesStorable
    obtain ⟨u, hu⟩ := (exists_arrayType_iff _ _).2 hstorable
    exact ⟨_, hcells, hsupported, hdigits, u, hu, rfl⟩

/-- Lists can be laid out when the stream of their items can. -/
theorem exists_buildArray_list_iff {item : Field} (hne : item.NoEmptyStruct)
    (hlen : (allItems vs).length ≤ maxOffset)
    (hitems : (∃ a, item.buildArray (allItems vs) = .ok a) ↔
      item.DecimalsSupported ∧ ∀ x ∈ allItems vs, item.type.Stores x) :
    (∃ a, (list item).buildArray name vs = .ok a) ↔
      (list item).DecimalsSupported ∧ ∀ v ∈ vs, (list item).Stores v := by
  rw [decimalsSupported_list, forall_stores_list_iff]
  simp only [buildArray_list_eq_ok_iff]
  constructor
  · rintro ⟨a, hvs, -, child, g, hchild, -, -, hnull, -⟩
    obtain ⟨hdecimals, hstores⟩ := hitems.1 ⟨child, hchild⟩
    have hallowed := (Field.nullCount_check_iff hne hchild).1 hnull
    exact ⟨hdecimals, hvs, fun x hx => Field.admits_iff_stores.2 ⟨hstores x hx, hallowed x hx⟩⟩
  · rintro ⟨hdecimals, hvs, hadmits⟩
    have hboth := fun x hx => Field.admits_iff_stores.1 (hadmits x hx)
    obtain ⟨child, hchild⟩ := hitems.2 ⟨hdecimals, fun x hx => (hboth x hx).1⟩
    have hnull := (Field.nullCount_check_iff hne hchild).2 fun x hx => (hboth x hx).2
    have hlength := Field.length_of_buildArray hne hchild
    obtain ⟨g, hg⟩ := (Field.exists_arrayField_iff _).2 hdecimals.scalesStorable
    exact ⟨_, hvs, hlen, child, g, hchild, hg, Nat.le_of_eq hlength.symm, hnull, rfl⟩

/-- Structs can be laid out when their members can, given that they have some. -/
theorem exists_buildArray_struct_iff {members : List Field}
    (hne : (struct members).NoEmptyStruct)
    (hmembers : (∀ row ∈ vs.map (parts members.length), row.length = members.length) →
      ((∃ as, Field.buildMembers members (vs.map (parts members.length)) = .ok as) ↔
        (∀ f ∈ members, f.DecimalsSupported) ∧
          ∀ row ∈ vs.map (parts members.length),
            List.Forall₂ (fun f v => f.type.Stores v) members row)) :
    (∃ a, (struct members).buildArray name vs = .ok a) ↔
      (struct members).DecimalsSupported ∧ ∀ v ∈ vs, (struct members).Stores v := by
  obtain ⟨hsome, hall⟩ := noEmptyStruct_struct.1 hne
  rw [decimalsSupported_struct, forall_stores_struct_iff]
  constructor
  · rintro ⟨a, ha⟩
    have hlength := length_of_buildArray hne ha
    obtain ⟨hvs, children, gs, hchildren, hgs, -, hcheck, -⟩ := buildArray_struct_eq_ok_iff.1 ha
    obtain ⟨hdecimals, hstores⟩ := (hmembers (length_of_mem_map_parts hvs)).1 ⟨children, hchildren⟩
    rw [Field.checkMembers_validity_eq_ok_iff hall hchildren hgs hlength hvs] at hcheck
    refine ⟨hdecimals, hvs, fun v hv hnull => Field.forall₂_admits_iff.2 ⟨?_, hcheck v hv hnull⟩⟩
    exact hstores _ (List.mem_map_of_mem hv)
  · rintro ⟨hdecimals, hvs, hadmits⟩
    have hstores : ∀ row ∈ vs.map (parts members.length),
        List.Forall₂ (fun f v => f.type.Stores v) members row := by
      rw [List.forall_mem_map]
      intro v hv
      rcases hvs v hv with rfl | ⟨ps, rfl, -⟩
      · exact Field.forall₂_stores_nulls members
      · exact (Field.forall₂_admits_iff.1 (hadmits _ hv rfl)).1
    obtain ⟨children, hchildren⟩ :=
      (hmembers (length_of_mem_map_parts hvs)).2 ⟨hdecimals, hstores⟩
    obtain ⟨gs, hgs⟩ :=
      (Field.exists_arrayFields_iff _).2 fun f hf => (hdecimals f hf).scalesStorable
    have hlength : (ColumnArray.struct gs (maskOf (validity vs)) children).length =
        vs.length := by
      rw [Field.length_struct hchildren, Field.startRowless_eq_false hsome hall, List.length_map]
      rfl
    have hcheck := (Field.checkMembers_validity_eq_ok_iff hall hchildren hgs hlength hvs).2
      fun v hv hnull => (Field.forall₂_admits_iff.1 (hadmits v hv hnull)).2
    refine ⟨_, buildArray_struct_eq_ok_iff.2 ⟨hvs, children, gs, hchildren, hgs, ?_, hcheck, rfl⟩⟩
    exact fun h => h.2 hlength.symm

end LogicalType

mutual

theorem LogicalType.exists_buildArray_iff {name : String} : ∀ {t : LogicalType} {vs : List Value},
    t.NoEmptyStruct → t.OffsetsFit vs →
      ((∃ a, t.buildArray name vs = .ok a) ↔ t.DecimalsSupported ∧ ∀ v ∈ vs, t.Stores v)
  | .decimal precision scale, vs, _, _ => LogicalType.exists_buildArray_decimal_iff
  | .list item, vs, hne, hfit => by
    rw [LogicalType.OffsetsFit] at hfit
    have hitem := LogicalType.noEmptyStruct_list.1 hne
    exact LogicalType.exists_buildArray_list_iff hitem hfit.1
      (Field.exists_buildArray_iff hitem hfit.2)
  | .struct members, vs, hne, hfit => by
    rw [LogicalType.OffsetsFit] at hfit
    have hall := (LogicalType.noEmptyStruct_struct.1 hne).2
    exact LogicalType.exists_buildArray_struct_iff hne (Field.exists_buildMembers_iff hall hfit)
  | .bool, _, _, _ | .int16, _, _, _ | .int64, _, _, _ | .uint32, _, _, _ | .float64, _, _, _
  | .utf8, _, _, _ | .largeBinary, _, _, _ | .timestamp _ _, _, _, _ =>
    LogicalType.exists_buildArray_plain_iff rfl

theorem Field.exists_buildArray_iff : ∀ {f : Field} {vs : List Value},
    f.NoEmptyStruct → f.OffsetsFit vs →
      ((∃ a, f.buildArray vs = .ok a) ↔ f.DecimalsSupported ∧ ∀ v ∈ vs, f.type.Stores v)
  | .mk name type nullable, vs, hne, hfit => by
    rw [Field.OffsetsFit] at hfit
    simp only [Field.buildArray]
    exact LogicalType.exists_buildArray_iff hne hfit

theorem Field.exists_buildMembers_iff : ∀ {fs : List Field} {rows : List (List Value)},
    (∀ f ∈ fs, f.NoEmptyStruct) → Field.AllOffsetsFit fs rows →
      (∀ row ∈ rows, row.length = fs.length) →
      ((∃ as, Field.buildMembers fs rows = .ok as) ↔ (∀ f ∈ fs, f.DecimalsSupported) ∧
        ∀ row ∈ rows, List.Forall₂ (fun f v => f.type.Stores v) fs row)
  | [], rows, _, _, hrows => by
    have hstores : ∀ row ∈ rows, List.Forall₂ (fun (f : Field) v => f.type.Stores v) [] row := by
      intro row hrow
      rw [List.eq_nil_of_length_eq_zero (hrows row hrow)]
      exact .nil
    exact iff_of_true ⟨[], rfl⟩ ⟨by simp, hstores⟩
  | f :: fs, rows, hne, hfit, hrows => by
    rw [List.forall_mem_cons] at hne
    rw [Field.AllOffsetsFit] at hfit
    have htails : ∀ row ∈ rows.map List.tail, row.length = fs.length := by
      rw [List.forall_mem_map]
      intro row hrow
      simp [hrows row hrow]
    have hfirst := Field.exists_buildArray_iff hne.1 hfit.1
    have hrest := Field.exists_buildMembers_iff hne.2 hfit.2 htails
    have hrow : (∀ row ∈ rows, List.Forall₂ (fun f v => f.type.Stores v) (f :: fs) row) ↔
        (∀ v ∈ rows.map fun row => row.headD .null, f.type.Stores v) ∧
          ∀ row ∈ rows.map List.tail, List.Forall₂ (fun f v => f.type.Stores v) fs row := by
      rw [List.forall_mem_map, List.forall_mem_map, ← forall₂_and]
      refine forall₂_congr fun row hmem => ?_
      obtain ⟨v, vs, rfl⟩ := List.exists_cons_of_length_eq_add_one (hrows row hmem)
      simp
    rw [hrow, List.forall_mem_cons, and_and_and_comm, ← hfirst, ← hrest]
    simp only [Field.buildMembers_cons_eq_ok_iff]
    constructor
    · rintro ⟨as, b, bs, hb, hbs, -⟩
      exact ⟨⟨b, hb⟩, bs, hbs⟩
    · rintro ⟨⟨b, hb⟩, bs, hbs⟩
      exact ⟨_, b, bs, hb, hbs, rfl⟩

end

end FixtureMatrix
