import FixtureMatrix.Case.Basic
import FixtureMatrix.Panic
import FixtureMatrix.Profile

/-!
# Tiling and page sizes

A case reaches a row count by repeating its first rows as a whole, never by
cutting them.  A page layout is asked for by size hints; the data itself is
never split here.
-/

namespace FixtureMatrix

/-- Why a case cannot be expanded. -/
inductive ExpandError where
  /-- The target is not a whole number of units. -/
  | notDivisible (target unit : Nat)
  /-- The unit is empty or longer than the case. -/
  | invalidUnit (unit rows : Nat)
  /-- Fewer than two rows cannot be spread over pages. -/
  | tooFewRows (rows : Nat)
deriving DecidableEq

/-- The error as it is shown to people. -/
def ExpandError.message : ExpandError → String
  | .notDivisible target unit =>
    s!"{target} rows is not a multiple of the {unit}-row replication unit"
  | .invalidUnit unit rows =>
    s!"replication unit of {unit} rows is invalid for a {rows}-row case"
  | .tooFewRows rows => s!"multi-page layout needs at least 2 rows, case has {rows}"

/-- The first `unit` values, as often as they fit into `target` rows.  There has
to be room for all rows before the first value is copied, and a column that is
shorter than the unit cannot be cut to it. -/
def Column.tile (unit target : Nat) (c : Column) : Except (Halt ExpandError) Column :=
  if maxCapacity < target then .error (.panicked .capacityOverflow)
  else if target / unit ≠ 0 ∧ c.values.length < unit then
    .error (.panicked (.sliceEnd unit c.values.length))
  else .ok ⟨c.name, (List.replicate (target / unit) (c.values.take unit)).flatten⟩

namespace FixtureCase

/-- Repeats the first `unit` rows up to `target` rows. -/
def tilePrefix (c : FixtureCase) (unit target : Nat) : Except (Halt ExpandError) FixtureCase :=
  if unit = 0 ∨ c.numRows < unit then .error (.returned (.invalidUnit unit c.numRows))
  else if target % unit ≠ 0 then .error (.returned (.notDivisible target unit))
  else do
    let columns ← c.columns.mapM (Column.tile unit target)
    return ⟨c.id, c.schema, columns, c.fileName⟩

/-- Repeats all rows up to `target` rows. -/
def tile (c : FixtureCase) (target : Nat) : Except (Halt ExpandError) FixtureCase :=
  c.tilePrefix c.numRows target

end FixtureCase

/-- Size hints for the data pages of one file. -/
structure PageSizing where
  dataPageSize : Nat
  /-- The most rows of a page; it also splits bit-packed columns. -/
  rowLimit : Option Nat
deriving DecidableEq

/-- A page size no fixture exceeds. -/
def singlePageSize : Nat := Nat.pow 2 40

/-- A page size that holds a handful of values. -/
def multiPageSize : Nat := 1024

/-- The hints that make a file of `rows` rows have a layout. -/
def PageLayout.sizing : PageLayout → Nat → Except ExpandError PageSizing
  | .single, _ => .ok ⟨singlePageSize, none⟩
  | .multi, rows =>
    if rows < 2 then .error (.tooFewRows rows) else .ok ⟨multiPageSize, some (rows / 2)⟩

end FixtureMatrix
