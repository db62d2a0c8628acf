import FixtureMatrix.Proofs.Case.Tiling

/-!
# What a tiled case repeats

`FixtureCase.Repeats` says by row numbers what tiling a case is meant to give: each
column keeps its name and has in each row what the case has in that row modulo the
unit.

* `tilePrefix_of_valid_iff`: for a valid case the outcome is told by the unit, the
  target and the number of rows alone, and a result is a valid case that repeats
  the first one.
* `tilePrefix_oneRow_panics`: more rows than a vector has room for are no outcome
  that a caller can handle.
* `tilePrefix_tilePrefix`: tiling a tiled case by whole units is tiling the first
  case at once, and tiling all rows up to their number changes nothing.
-/

namespace FixtureMatrix

/-! ## Rows of repeated lists -/

theorem getElem?_flatten_replicate_take {α : Type} {l : List α} {unit : Nat}
    (hunit : unit ≤ l.length) : ∀ {copies row : Nat}, row < copies * unit →
      (List.replicate copies (l.take unit)).flatten[row]? = l[row % unit]?
  | 0, row, hrow => by omega
  | copies + 1, row, hrow => by
    have hlen : (l.take unit).length = unit := List.length_take_of_le hunit
    rw [List.replicate_succ, List.flatten_cons]
    by_cases hfirst : row < unit
    · rw [List.getElem?_append_left (by omega), List.getElem?_take_of_lt hfirst,
        Nat.mod_eq_of_lt hfirst]
    · have hrest : row - unit < copies * unit := by
        rw [Nat.add_mul, Nat.one_mul] at hrow
        omega
      rw [List.getElem?_append_right (by omega), hlen,
        getElem?_flatten_replicate_take hunit hrest, ← Nat.mod_eq_sub_mod (by omega)]

/-! ## Columns -/

/-- A column with the name of another one and `target` values, each the value of the
other one at its row modulo `unit`. -/
structure Column.Repeats (unit target : Nat) (column tile : Column) : Prop where
  name : tile.name = column.name
  length : tile.values.length = target
  values : ∀ row < target, tile.values[row]? = column.values[row % unit]?

namespace Column

variable {c t r : Column} {u m v n : Nat}

theorem repeats_tiled {copies : Nat} (hunit : u ≤ c.values.length) :
    Repeats u (copies * u) c (c.tiled u copies) where
  name := rfl
  length := length_tiled hunit
  values _ hrow := getElem?_flatten_replicate_take hunit hrow

theorem repeats_self : Repeats c.values.length c.values.length c c where
  name := rfl
  length := rfl
  values row hrow := by rw [Nat.mod_eq_of_lt hrow]

theorem Repeats.unique (h : Repeats u n c t) (h' : Repeats u n c r) : t = r := by
  have hname : t.name = r.name := h.name.trans h'.name.symm
  have hvalues : t.values = r.values := by
    refine List.ext_getElem? fun row => ?_
    by_cases hrow : row < n
    · rw [h.values row hrow, h'.values row hrow]
    · have ht := h.length
      have hr := h'.length
      rw [List.getElem?_eq_none (by omega), List.getElem?_eq_none (by omega)]
  obtain ⟨name, values⟩ := t
  cases hname
  cases hvalues
  rfl

theorem Repeats.trans (h : Repeats u m c t) (h' : Repeats v n t r) (hpos : 0 < v)
    (hv : v ≤ m) (hdvd : u ∣ v) : Repeats u n c r where
  name := h'.name.trans h.name
  length := h'.length
  values row hrow := by
    -- The unit `v` is a whole number of units `u`, so both count to the same row.
    have hinner : row % v < m := Nat.lt_of_lt_of_le (Nat.mod_lt row hpos) hv
    rw [h'.values row hrow, h.values _ hinner, Nat.mod_mod_of_dvd row hdvd]

end Column

/-! ## Cases -/

namespace FixtureCase

/-- A case with the identity and the schema of another one, whose columns repeat
those of the other one in their order. -/
structure Repeats (unit target : Nat) (c t : FixtureCase) : Prop where
  id : t.id = c.id
  fileName : t.fileName = c.fileName
  schema : t.schema = c.schema
  columns : List.Forall₂ (Column.Repeats unit target) c.columns t.columns

variable {c t r : FixtureCase} {u m v n : Nat}

theorem repeats_tiled {copies : Nat} (hvalid : c.validate = .ok ()) (hunit : u ≤ c.numRows) :
    Repeats u (copies * u) c (c.tiled u copies) where
  id := rfl
  fileName := rfl
  schema := rfl
  columns := by
    rw [tiled, List.forall₂_map_right_iff, List.forall₂_same]
    intro column hcolumn
    have hlength := length_values_of_valid hvalid column hcolumn
    exact Column.repeats_tiled (by omega)

theorem repeats_self (hvalid : c.validate = .ok ()) : Repeats c.numRows c.numRows c c where
  id := rfl
  fileName := rfl
  schema := rfl
  columns := by
    rw [List.forall₂_same]
    intro column hcolumn
    rw [← length_values_of_valid hvalid column hcolumn]
    exact Column.repeats_self

theorem Repeats.unique (h : Repeats u n c t) (h' : Repeats u n c r) : t = r := by
  have hcolumns : t.columns = r.columns := by
    have hboth := h.columns
    have hother := h'.columns
    generalize c.columns = cs, t.columns = ts, r.columns = rs at hboth hother ⊢
    induction hboth generalizing rs with
    | nil =>
      cases hother
      rfl
    | cons hfirst _ ih =>
      cases hother with
      | cons hfirst' hrest' => rw [hfirst.unique hfirst', ih _ hrest']
  have hid : t.id = r.id := h.id.trans h'.id.symm
  have hfile : t.fileName = r.fileName := h.fileName.trans h'.fileName.symm
  have hschema : t.schema = r.schema := h.schema.trans h'.schema.symm
  obtain ⟨id, schema, columns, fileName⟩ := t
  cases hid
  cases hfile
  cases hschema
  cases hcolumns
  rfl

theorem Repeats.trans (h : Repeats u m c t) (h' : Repeats v n t r) (hpos : 0 < v)
    (hv : v ≤ m) (hdvd : u ∣ v) : Repeats u n c r where
  id := h'.id.trans h.id
  fileName := h'.fileName.trans h.fileName
  schema := h'.schema.trans h.schema
  columns := by
    have hinner := h.columns
    have houter := h'.columns
    generalize c.columns = cs, t.columns = ts, r.columns = rs at hinner houter ⊢
    induction hinner generalizing rs with
    | nil =>
      cases houter
      exact .nil
    | cons hfirst _ ih =>
      cases houter with
      | cons hfirst' hrest' => exact .cons (hfirst.trans hfirst' hpos hv hdvd) (ih _ hrest')

/-- A unit within a valid case and a target of whole units that has room give a valid
repetition with as many rows as asked for. -/
theorem exists_tilePrefix (hvalid : c.validate = .ok ()) (hpos : 0 < u)
    (hunit : u ≤ c.numRows) (hdvd : u ∣ n) (hroom : n ≤ maxCapacity) :
    ∃ t, c.tilePrefix u n = .ok t ∧ c.Repeats u n t ∧ t.numRows = n ∧ t.validate = .ok () := by
  have hrepeats : c.Repeats u (n / u * u) (c.tiled u (n / u)) := repeats_tiled hvalid hunit
  have hrows : (c.tiled u (n / u)).numRows = n / u * u := numRows_tiled hpos hunit
  rw [Nat.div_mul_cancel hdvd] at hrepeats hrows
  exact ⟨_, tilePrefix_of_valid hvalid hpos hunit hdvd hroom, hrepeats, hrows,
    validate_tiled hvalid hpos hunit⟩

/-- How tiling a valid case ends is told by the unit, the target and the number of
rows.  It panics for want of room only, and never because a column is too short for
the unit.  A result has as many rows as asked for, repeats the first `unit` rows of
every column, and is valid. -/
theorem tilePrefix_of_valid_iff (hvalid : c.validate = .ok ()) (unit target : Nat) :
    (∀ p, c.tilePrefix unit target = .error (.panicked p) ↔
        p = .capacityOverflow ∧ ¬ (unit = 0 ∨ c.numRows < unit) ∧ unit ∣ target ∧
          maxCapacity < target) ∧
      (c.tilePrefix unit target = .error (.returned (.invalidUnit unit c.numRows)) ↔
        unit = 0 ∨ c.numRows < unit) ∧
      (c.tilePrefix unit target = .error (.returned (.notDivisible target unit)) ↔
        ¬ (unit = 0 ∨ c.numRows < unit) ∧ ¬ unit ∣ target) ∧
      ((∃ t, c.tilePrefix unit target = .ok t) ↔
        ¬ (unit = 0 ∨ c.numRows < unit) ∧ unit ∣ target ∧ target ≤ maxCapacity) ∧
      ∀ t, c.tilePrefix unit target = .ok t →
        c.Repeats unit target t ∧ t.numRows = target ∧ t.validate = .ok () := by
  by_cases hunit : unit = 0 ∨ c.numRows < unit
  · have hrun : c.tilePrefix unit target = .error (.returned (.invalidUnit unit c.numRows)) :=
      if_pos hunit
    simp [hrun, hunit]
  have hpos : 0 < unit := by omega
  have hle : unit ≤ c.numRows := by omega
  by_cases hdvd : unit ∣ target
  · by_cases hover : maxCapacity < target
    · have hrun := tilePrefix_of_oversize hpos hle hdvd hover
      simp [hrun, hunit, hdvd, hover, eq_comm]
    · have hroom : target ≤ maxCapacity := by omega
      obtain ⟨t, hrun, hrepeats, hrows, ht⟩ := exists_tilePrefix hvalid hpos hle hdvd hroom
      simp [hrun, hunit, hdvd, hover, hroom, hrepeats, hrows, ht]
  · have hrun : c.tilePrefix unit target = .error (.returned (.notDivisible target unit)) := by
      rw [tilePrefix, if_neg hunit, if_pos (by rwa [ne_eq, ← Nat.dvd_iff_mod_eq_zero])]
    simp [hrun, hunit, hdvd]

/-- Three rows of numbers and lists. -/
def numbersAndLists : FixtureCase :=
  { id := "case"
    schema := ⟨[.required "n" .int64, .optional "l" (.list (.optional "item" (.decimal 3 1)))]⟩
    columns := [⟨"n", [.int 1, .int 2, .int 3]⟩,
      ⟨"l", [.null, .list [.int (-999), .null], .list []]⟩]
    fileName := "case.parquet" }

/-- Two of its rows give six but not five, and four are more than it has. -/
theorem tilePrefix_of_valid_iff_numbersAndLists :
    numbersAndLists.validate = .ok () ∧
      (∃ t, numbersAndLists.tilePrefix 2 6 = .ok t ∧ numbersAndLists.Repeats 2 6 t ∧
        t.numRows = 6 ∧ t.validate = .ok ()) ∧
      numbersAndLists.tilePrefix 2 5 = .error (.returned (.notDivisible 5 2)) ∧
      numbersAndLists.tilePrefix 4 8 = .error (.returned (.invalidUnit 4 3)) ∧
      numbersAndLists.tilePrefix 1 (Nat.pow 2 58) = .error (.panicked .capacityOverflow) := by
  have hvalid : numbersAndLists.validate = .ok () := rfl
  obtain ⟨-, -, -, hok, hresult⟩ := tilePrefix_of_valid_iff hvalid 2 6
  obtain ⟨t, ht⟩ := hok.2 (by decide)
  obtain ⟨-, -, hindivisible, -⟩ := tilePrefix_of_valid_iff hvalid 2 5
  obtain ⟨-, hinvalid, -⟩ := tilePrefix_of_valid_iff hvalid 4 8
  obtain ⟨hpanics, -⟩ := tilePrefix_of_valid_iff hvalid 1 (Nat.pow 2 58)
  exact ⟨hvalid, ⟨t, ht, hresult t ht⟩, hindivisible.2 (by decide), hinvalid.2 (by decide),
    (hpanics _).2 (by decide)⟩

/-- A single row of one integer. -/
def oneRow : FixtureCase :=
  { id := "case"
    schema := ⟨[.optional "a" .int64]⟩
    columns := [⟨"a", [.int 1]⟩]
    fileName := "case.parquet" }

/-- Its row cannot be repeated up to a target that is a whole number of units: there
is no vector with room for that many values. -/
theorem tilePrefix_oneRow_panics :
    oneRow.validate = .ok () ∧ oneRow.numRows = 1 ∧
      oneRow.tilePrefix 1 (Nat.pow 2 60) = .error (.panicked .capacityOverflow) :=
  ⟨rfl, rfl, rfl⟩

/-! ## Tiles of tiles -/

/-- Tiling by `u`, and the result by a whole number `v` of these units that it has, is
tiling by `u` at once, as long as there is room for the rows; where there is not, the
first tiling without room panics.  All rows of a case, once, are the case. -/
theorem tilePrefix_tilePrefix (hvalid : c.validate = .ok ()) (hu : 1 ≤ u)
    (hrows : u ≤ c.numRows) (hum : u ∣ m) (hv : 1 ≤ v) (hvm : v ≤ m) (huv : u ∣ v)
    (hvn : v ∣ n) :
    (m ≤ maxCapacity → n ≤ maxCapacity →
      ∃ t r, c.tilePrefix u m = .ok t ∧ t.tilePrefix v n = .ok r ∧ c.tilePrefix u n = .ok r) ∧
    (m ≤ maxCapacity → maxCapacity < n →
      ∃ t, c.tilePrefix u m = .ok t ∧
        t.tilePrefix v n = .error (.panicked .capacityOverflow) ∧
        c.tilePrefix u n = .error (.panicked .capacityOverflow)) ∧
    (maxCapacity < m → c.tilePrefix u m = .error (.panicked .capacityOverflow)) ∧
    (c.numRows ≤ maxCapacity → c.tile c.numRows = .ok c) := by
  have hun : u ∣ n := Nat.dvd_trans huv hvn
  refine ⟨?composed, ?second, ?first, ?whole⟩
  case composed =>
    intro hm hn
    obtain ⟨t, ht, hinner, hlength, htvalid⟩ := exists_tilePrefix hvalid hu hrows hum hm
    obtain ⟨r, hr, houter, -⟩ := exists_tilePrefix htvalid hv (hlength ▸ hvm) hvn hn
    obtain ⟨s, hs, hdirect, -⟩ := exists_tilePrefix hvalid hu hrows hun hn
    have hsame : s = r := hdirect.unique (hinner.trans houter hv hvm huv)
    exact ⟨t, r, ht, hr, hsame ▸ hs⟩
  case second =>
    intro hm hn
    obtain ⟨t, ht, -, hlength, -⟩ := exists_tilePrefix hvalid hu hrows hum hm
    exact ⟨t, ht, tilePrefix_of_oversize hv (hlength ▸ hvm) hvn hn,
      tilePrefix_of_oversize hu hrows hun hn⟩
  case first => exact tilePrefix_of_oversize hu hrows hum
  case whole =>
    intro hroom
    have hpos : 0 < c.numRows := Nat.le_trans hu hrows
    obtain ⟨s, hs, hdirect, -⟩ :=
      exists_tilePrefix hvalid hpos (Nat.le_refl _) (Nat.dvd_refl c.numRows) hroom
    have hsame : s = c := hdirect.unique (repeats_self hvalid)
    exact hsame ▸ hs

/-- Two rows up to eight, and four of these up to twelve. -/
theorem tilePrefix_tilePrefix_numbersAndLists :
    (∃ t r, numbersAndLists.tilePrefix 2 8 = .ok t ∧ t.tilePrefix 4 12 = .ok r ∧
      numbersAndLists.tilePrefix 2 12 = .ok r) ∧
    numbersAndLists.tile 3 = .ok numbersAndLists := by
  obtain ⟨hcomposed, -, -, hwhole⟩ :=
    tilePrefix_tilePrefix (c := numbersAndLists) (u := 2) (m := 8) (v := 4) (n := 12) rfl
      (by decide) (by decide) (by decide) (by decide) (by decide) (by decide) (by decide)
  exact ⟨hcomposed (by decide) (by decide), hwhole (by decide)⟩

/-- Where there is no room for the first tiling, its result cannot be tiled again. -/
theorem not_tilePrefix_tilePrefix_oneRow :
    oneRow.validate = .ok () ∧ oneRow.numRows = 1 ∧
      ¬ ∃ t r, oneRow.tilePrefix 1 (Nat.pow 2 59) = .ok t ∧ t.tilePrefix 1 1 = .ok r ∧
        oneRow.tilePrefix 1 1 = .ok r := by
  have hfirst : oneRow.tilePrefix 1 (Nat.pow 2 59) = .error (.panicked .capacityOverflow) := rfl
  refine ⟨rfl, rfl, ?_⟩
  rintro ⟨t, r, ht, -, -⟩
  rw [hfirst] at ht
  cases ht

end FixtureCase

end FixtureMatrix
