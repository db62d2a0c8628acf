import FixtureMatrix.Proofs.Case.Admission
import Mathlib.Algebra.Order.Ring.Int

/-!
# Widths of decimals

A decimal is stored in as many bytes as its precision asks for. What a valid case has at
the positions of decimals, at any depth of its columns, has that many digits at most and
so fits these bytes.

* `admits_of_occurs`: what occurs in an admitted value is admitted at its own position.
* `exists_width`: a supported precision has a width, and its powers of ten fit there.
* `FixtureCase.decimals_fit_width`: no decimal of a valid case is cut when it is stored.
-/

namespace FixtureMatrix

/-! ## Positions inside a value -/

/-- Inside the value `u` of the field `g`, the value `v` stands at the position of the field
`f`: it is `u` itself, an item of a list there or a member of a struct there. -/
inductive Occurs (g : Field) (u : Value) : Field → Value → Prop
  | self : Occurs g u g u
  | item {name : String} {item : Field} {nullable : Bool} {items : List Value} {v : Value} :
      Occurs g u (.mk name (.list item) nullable) (.list items) → v ∈ items →
      Occurs g u item v
  | member {name : String} {members : List Field} {nullable : Bool} {parts : List Value}
      {f : Field} {v : Value} :
      Occurs g u (.mk name (.struct members) nullable) (.struct parts) →
      (f, v) ∈ members.zip parts → Occurs g u f v

variable {f g : Field} {u v : Value}

/-- What occurs in a value that its field admits is admitted at its own position. -/
theorem admits_of_occurs (h : Occurs g u f v) (hu : g.Admits u) : f.Admits v := by
  induction h with
  | self => exact hu
  | item _ hv ih =>
    rw [Field.admits_iff_holds (by simp), LogicalType.holds_list_iff] at ih
    obtain ⟨item, hitem, hadmits⟩ := ih
    cases hitem
    exact hadmits _ hv
  | member _ hv ih =>
    rw [Field.admits_iff_holds (by simp), LogicalType.holds_struct_iff] at ih
    obtain ⟨members, hmembers, hadmits⟩ := ih
    cases hmembers
    exact List.forall₂_zip hadmits hv

/-- The decimals of a position are those of the field around it. -/
theorem decimalsSupported_of_occurs (h : Occurs g u f v) (hg : g.DecimalsSupported) :
    f.DecimalsSupported := by
  induction h with
  | self => exact hg
  | item _ _ ih => exact LogicalType.decimalsSupported_list.1 ih
  | member _ hv ih => exact LogicalType.decimalsSupported_struct.1 ih _ (List.of_mem_zip hv).1

/-! ## Widths -/

/-- The bytes found hold the digits, for up to 38 of them. -/
theorem pow_le_of_decimalByteLength {precision : Nat} (h : precision ≤ 38) :
    10 ^ precision ≤ 2 ^ (8 * decimalByteLength precision - 1) := by
  unfold decimalByteLength
  cases hfound : (List.range' 1 16).find? fun bytes =>
      Nat.pow 10 precision - 1 < Nat.pow 2 (bytes * 8 - 1) with
  | some bytes =>
    have hbytes := List.find?_some hfound
    simp only [decide_eq_true_eq, Nat.pow_eq] at hbytes
    rw [Option.getD_some, Nat.mul_comm]
    omega
  | none =>
    -- Sixteen bytes hold 38 digits, so the search does not end without a result.
    have hnone := List.find?_eq_none.1 hfound 16 (by decide)
    have hpower : 10 ^ precision ≤ 10 ^ 38 := Nat.pow_le_pow_right (by decide) h
    have hlimit : (10 : Nat) ^ 38 < 2 ^ 127 := by decide
    simp only [decide_eq_true_eq, Nat.pow_eq] at hnone
    omega

/-- A supported precision has a width, and numbers of so many digits fit it. -/
theorem exists_width {precision : Nat} (hpos : 1 ≤ precision) (hle : precision ≤ 38) :
    ∃ w, decimalWidth? precision = some w ∧ 10 ^ precision ≤ 2 ^ (8 * w.bytes - 1) := by
  have hpower : ∀ limit, precision ≤ limit → 10 ^ precision ≤ 10 ^ limit := by
    intro limit hlimit
    exact Nat.pow_le_pow_right (by decide) hlimit
  unfold decimalWidth? maxDecimalPrecision
  split_ifs with hzero hone hnine heighteen
  · omega
  · exact ⟨_, rfl, (hpower 1 hone.le).trans (by decide)⟩
  · exact ⟨_, rfl, (hpower 9 hnine).trans (by decide)⟩
  · exact ⟨_, rfl, (hpower 18 heighteen).trans (by decide)⟩
  · exact ⟨_, rfl, pow_le_of_decimalByteLength hle⟩

/-- Two's complement of a width keeps the numbers of its range. -/
theorem toInt_ofInt_of_natAbs_lt {bytes precision : Nat} {n : Int} (hpos : 1 ≤ precision)
    (hn : n.natAbs < 10 ^ precision) (hfit : 10 ^ precision ≤ 2 ^ (8 * bytes - 1)) :
    -(2 : Int) ^ (8 * bytes - 1) ≤ n ∧ n < 2 ^ (8 * bytes - 1) ∧
      (BitVec.ofInt (8 * bytes) n).toInt = n := by
  have hbytes : 0 < bytes := by
    have hten : 10 ^ 1 ≤ 10 ^ precision := Nat.pow_le_pow_right (by decide) hpos
    apply Nat.pos_of_ne_zero
    rintro rfl
    exact absurd (hten.trans hfit) (by decide)
  have hcast : ((2 ^ (8 * bytes - 1) : Nat) : Int) = 2 ^ (8 * bytes - 1) := Int.natCast_pow 2 _
  have hlow : -(2 : Int) ^ (8 * bytes - 1) ≤ n := by omega
  have hhigh : n < 2 ^ (8 * bytes - 1) := by omega
  exact ⟨hlow, hhigh, BitVec.toInt_ofInt_eq_self (by omega) hlow hhigh⟩

/-! ## Valid cases -/

namespace FixtureCase

/-- A value stands at the position of a field somewhere in the columns of a case. -/
def Occurs (c : FixtureCase) (f : Field) (v : Value) : Prop :=
  ∃ g column, (g, column) ∈ c.schema.fields.zip c.columns ∧
    ∃ u ∈ column.values, FixtureMatrix.Occurs g u f v

variable {c : FixtureCase} {f : Field} {v : Value}

theorem admits_of_valid (hc : c.validate = .ok ()) (h : c.Occurs f v) :
    f.Admits v ∧ f.DecimalsSupported := by
  obtain ⟨g, column, hcolumn, u, hu, hv⟩ := h
  obtain ⟨hdecimals, hcolumns⟩ := validate_eq_ok_iff.1 hc
  obtain ⟨-, -, hvalues⟩ := List.forall₂_zip hcolumns hcolumn
  have hg := hdecimals g (List.of_mem_zip hcolumn).1
  exact ⟨admits_of_occurs hv (hvalues u hu), decimalsSupported_of_occurs hv hg⟩

/-- A number at the position of a decimal in a valid case fits the bytes that its precision
asks for, so that it is not cut when it is stored in them. -/
theorem decimals_fit_width {n : Int64} {precision scale : Nat} (hc : c.validate = .ok ())
    (h : c.Occurs f (.int n)) (htype : f.type = .decimal precision scale) :
    ∃ w, decimalWidth? precision = some w ∧
      -(2 : Int) ^ (8 * w.bytes - 1) ≤ n.toInt ∧ n.toInt < 2 ^ (8 * w.bytes - 1) ∧
      (BitVec.ofInt (8 * w.bytes) n.toInt).toInt = n.toInt := by
  obtain ⟨hadmits, hsupported⟩ := admits_of_valid hc h
  unfold Field.DecimalsSupported at hsupported
  rw [htype, LogicalType.decimalsSupported_decimal] at hsupported
  obtain ⟨hpos, hle, -⟩ := hsupported
  rw [Field.admits_iff_holds (by simp), htype, LogicalType.holds_int_iff] at hadmits
  have hdigits : n.toInt.natAbs < 10 ^ precision := hasDigits_iff.1 hadmits
  obtain ⟨w, hw, hfit⟩ := exists_width hpos hle
  exact ⟨w, hw, toInt_ofInt_of_natAbs_lt hpos hdigits hfit⟩

/-- Prices in a list of structs, in four bytes each. -/
def prices : FixtureCase :=
  let price : Field := .required "price" (.decimal 9 2)
  { id := "prices"
    schema := ⟨[.optional "orders" (.list (.optional "item" (.struct [price])))]⟩
    columns := [⟨"orders", [.null, .list [.null, .struct [.int (-999999999)]]]⟩]
    fileName := "prices.parquet" }

theorem decimals_fit_width_prices :
    prices.validate = .ok () ∧
      prices.Occurs (.required "price" (.decimal 9 2)) (.int (-999999999)) ∧
      ∃ w, decimalWidth? 9 = some w ∧ w.bytes = 4 ∧
        -(2 : Int) ^ 31 ≤ (-999999999 : Int64).toInt := by
  have hvalid : prices.validate = .ok () := rfl
  have hoccurs : prices.Occurs (.required "price" (.decimal 9 2)) (.int (-999999999)) :=
    ⟨_, _, List.mem_cons_self, _, List.mem_cons_of_mem _ List.mem_cons_self,
      .member (.item .self (List.mem_cons_of_mem _ List.mem_cons_self)) List.mem_cons_self⟩
  obtain ⟨w, hw, hlow, -⟩ := decimals_fit_width hvalid hoccurs rfl
  obtain rfl : .int32 = w := Option.some.inj hw
  exact ⟨hvalid, hoccurs, _, hw, rfl, hlow⟩

end FixtureCase

end FixtureMatrix
