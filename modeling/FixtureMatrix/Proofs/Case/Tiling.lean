import FixtureMatrix.Proofs.Case.Admission
import FixtureMatrix.Tiling

/-!
# Tiles of a valid case

Repeating the first rows of a valid case cannot fail for want of values, and
gives a valid case again.

* `tilePrefix_of_valid`: a unit within the case and a target that is a whole
  number of units and has room in a vector are all that tiling asks for.
* `tilePrefix_of_oversize`: a target without room ends in a panic.
* `validate_tiled`: the result is valid.
-/

namespace FixtureMatrix

/-- A column of the first `unit` values, `copies` times. -/
def Column.tiled (unit copies : Nat) (c : Column) : Column :=
  ⟨c.name, (List.replicate copies (c.values.take unit)).flatten⟩

theorem Column.length_tiled {unit copies : Nat} {c : Column} (hunit : unit ≤ c.values.length) :
    (c.tiled unit copies).values.length = copies * unit := by
  simp [Column.tiled, hunit]

/-- A column that belongs to a field still does after tiling. -/
theorem Field.Fits.tiled {rows unit copies : Nat} {f : Field} {c : Column} (h : f.Fits rows c)
    (hunit : unit ≤ rows) : f.Fits (copies * unit) (c.tiled unit copies) := by
  obtain ⟨hname, hlen, hvalues⟩ := h
  refine ⟨hname, Column.length_tiled (hlen ▸ hunit), ?_⟩
  intro v hv
  obtain ⟨tile, htile, hmem⟩ := List.mem_flatten.1 hv
  rw [List.eq_of_mem_replicate htile] at hmem
  exact hvalues v (List.mem_of_mem_take hmem)

namespace FixtureCase

variable {c : FixtureCase} {unit copies target : Nat}

/-- The case with all columns tiled. -/
def tiled (unit copies : Nat) (c : FixtureCase) : FixtureCase :=
  ⟨c.id, c.schema, c.columns.map (Column.tiled unit copies), c.fileName⟩

theorem numRows_tiled (hpos : 0 < unit) (hunit : unit ≤ c.numRows) :
    (c.tiled unit copies).numRows = copies * unit := by
  obtain ⟨id, schema, columns, fileName⟩ := c
  cases columns with
  | nil =>
    have : unit ≤ 0 := hunit
    omega
  | cons column rest => exact Column.length_tiled hunit

theorem tilePrefix_of_valid (hvalid : c.validate = .ok ()) (hpos : 0 < unit)
    (hunit : unit ≤ c.numRows) (hdvd : unit ∣ target) (hroom : target ≤ maxCapacity) :
    c.tilePrefix unit target = .ok (c.tiled unit (target / unit)) := by
  have hcolumns : ∀ column ∈ c.columns,
      Column.tile unit target column = .ok (column.tiled unit (target / unit)) := by
    intro column hcolumn
    have hlen := length_values_of_valid hvalid column hcolumn
    rw [Column.tile, if_neg (by omega), if_neg (by omega), Column.tiled]
  rw [tilePrefix, if_neg (by omega), if_neg (by simpa using Nat.mod_eq_zero_of_dvd hdvd),
    mapM_eq_ok hcolumns]
  rfl

/-- Room for all rows is asked for at the first column, and a case with rows has one. -/
theorem tilePrefix_of_oversize (hpos : 0 < unit) (hunit : unit ≤ c.numRows)
    (hdvd : unit ∣ target) (hover : maxCapacity < target) :
    c.tilePrefix unit target = .error (.panicked .capacityOverflow) := by
  rw [tilePrefix, if_neg (by omega), if_neg (by simpa using Nat.mod_eq_zero_of_dvd hdvd)]
  obtain ⟨id, schema, columns, fileName⟩ := c
  cases columns with
  | nil =>
    have : unit ≤ 0 := hunit
    omega
  | cons column rest =>
    rw [List.mapM_cons, Column.tile, if_pos hover]
    rfl

theorem validate_tiled (hvalid : c.validate = .ok ()) (hpos : 0 < unit)
    (hunit : unit ≤ c.numRows) : (c.tiled unit copies).validate = .ok () := by
  obtain ⟨hdecimals, hfits⟩ := validate_eq_ok_iff.1 hvalid
  refine validate_eq_ok_iff.2 ⟨hdecimals, ?_⟩
  rw [numRows_tiled hpos hunit, tiled, List.forall₂_map_right_iff]
  exact hfits.imp fun f column h => h.tiled hunit

end FixtureCase

end FixtureMatrix
