import FixtureMatrix.Columnar.Build
import FixtureMatrix.Proofs.Outcome

/-!
# Streams of values

What the loops of the array builder leave behind, in closed form.  Each of the
three theorems says when a loop succeeds, and what it returns if it does,
without mention of the row that the loop has reached.

* `cellsFrom_eq_ok_iff`: every value is null or has a cell, and the cells are
  those of the values.
* `flattenFrom_eq_ok_iff`: every value is null or a list, the items stay within
  the offsets' range, and the stream of items is cut at their running number.
* `membersFrom_eq_ok_iff`: every value is null or a struct of the right number
  of members, and a null counts as a row of nulls.
-/

namespace FixtureMatrix

/-! ## The parts of values -/

namespace Value

/-- Which values of a stream are not null. -/
def validity (vs : List Value) : List Bool :=
  vs.map fun v => !v.isNull

/-- The items of a list; there are none in any other value. -/
def items : Value → List Value
  | .list items => items
  | _ => []

/-- The items of all lists of a stream, one list after the other. -/
def allItems (vs : List Value) : List Value :=
  vs.flatMap items

/-- The members of a struct; any other value counts as `n` nulls. -/
def parts (n : Nat) : Value → List Value
  | .struct parts => parts
  | _ => List.replicate n .null

theorem isNull_eq_true_iff {v : Value} : v.isNull = true ↔ v = .null := by
  cases v <;> simp [isNull]

theorem isNull_eq_false_iff {v : Value} : v.isNull = false ↔ v ≠ .null := by
  cases v <;> simp [isNull]

@[simp] theorem length_validity (vs : List Value) : (validity vs).length = vs.length := by
  simp [validity]

@[simp] theorem validity_nil : validity [] = [] := rfl

@[simp] theorem validity_cons (v : Value) (vs : List Value) :
    validity (v :: vs) = (!v.isNull) :: validity vs := rfl

@[simp] theorem allItems_nil : allItems [] = [] := rfl

@[simp] theorem allItems_cons (v : Value) (vs : List Value) :
    allItems (v :: vs) = v.items ++ allItems vs := rfl

theorem allItems_append (vs ws : List Value) :
    allItems (vs ++ ws) = allItems vs ++ allItems ws := by
  simp [allItems]

theorem length_of_mem_map_parts {n : Nat} {vs : List Value}
    (hvs : ∀ v ∈ vs, v = .null ∨ ∃ ps, v = .struct ps ∧ ps.length = n) :
    ∀ row ∈ vs.map (parts n), row.length = n := by
  rw [List.forall_mem_map]
  intro v hv
  rcases hvs v hv with rfl | ⟨ps, rfl, hlen⟩
  · simp [parts]
  · exact hlen

/-- Where the rows of a stream of lists end, for a stream that starts at an
offset. -/
def ends (start : Nat) : List Value → List Nat
  | [] => []
  | v :: vs => (start + v.items.length) :: ends (start + v.items.length) vs

@[simp] theorem length_ends (start : Nat) (vs : List Value) :
    (ends start vs).length = vs.length := by
  induction vs generalizing start with
  | nil => rfl
  | cons v vs ih => simp [ends, ih]

/-- The offset at which a row starts is the number of items before it. -/
theorem getElem?_cons_ends (start : Nat) (vs : List Value) {i : Nat} (hi : i ≤ vs.length) :
    (start :: ends start vs)[i]? = some (start + (allItems (vs.take i)).length) := by
  induction vs generalizing start i with
  | nil =>
    have : i = 0 := by simpa using hi
    subst this
    simp
  | cons v vs ih =>
    cases i with
    | zero => simp
    | succ i =>
      rw [List.getElem?_cons_succ, ends, ih _ (by simpa using hi)]
      simp [Nat.add_assoc]

/-- The last row ends behind all items. -/
theorem getLastD_cons_ends (start : Nat) (vs : List Value) :
    (start :: ends start vs).getLastD 0 = start + (allItems vs).length := by
  have hlast := getElem?_cons_ends start vs (Nat.le_refl vs.length)
  rw [List.take_length] at hlast
  rw [List.getLastD_eq_getLast?, List.getLast?_eq_getElem?, List.length_cons, length_ends,
    Nat.add_sub_cancel, hlast, Option.getD_some]

end Value

/-- A primitive type has no cell for null. -/
theorem LogicalType.cell?_null (t : LogicalType) : t.cell? .null = none := by
  cases t <;> rfl

namespace ColumnArray

open Value

/-! ## The loops -/

theorem cellsFrom_eq_ok_iff {name : String} {t : LogicalType} {row : Nat} {vs : List Value}
    {cells : List (Option Scalar)} :
    cellsFrom name t row vs = .ok cells ↔
      (∀ v ∈ vs, v = .null ∨ (t.cell? v).isSome) ∧ cells = vs.map t.cell? := by
  induction vs generalizing row cells with
  | nil => simp [cellsFrom]
  | cons v vs ih =>
    by_cases hv : v = .null
    · subst hv
      rw [cellsFrom]
      simp only [bind_eq_ok_iff, pure_eq_ok_iff, ih, List.forall_mem_cons, List.map_cons,
        LogicalType.cell?_null]
      constructor
      · rintro ⟨rest, ⟨hvs, rfl⟩, rfl⟩
        exact ⟨⟨by simp, hvs⟩, rfl⟩
      · rintro ⟨⟨-, hvs⟩, rfl⟩
        exact ⟨_, ⟨hvs, rfl⟩, rfl⟩
    · rw [cellsFrom.eq_3 _ _ _ _ _ hv, List.forall_mem_cons, List.map_cons]
      cases hc : t.cell? v with
      | none => simp [hv]
      | some c =>
        simp only [bind_eq_ok_iff, pure_eq_ok_iff, ih, Option.isSome_some, or_true, true_and]
        constructor
        · rintro ⟨rest, ⟨hvs, rfl⟩, rfl⟩
          exact ⟨hvs, rfl⟩
        · rintro ⟨hvs, rfl⟩
          exact ⟨_, ⟨hvs, rfl⟩, rfl⟩

/-- Flattening counts from an offset in range, as the next list is refused when
its end is not. -/
theorem flattenFrom_eq_ok_iff {name : String} {item : Field} {row start : Nat} {vs : List Value}
    {flat : FlatLists} (hstart : start ≤ maxOffset) :
    flattenFrom name item row start vs = .ok flat ↔
      (∀ v ∈ vs, v = .null ∨ ∃ items, v = .list items) ∧
      start + (allItems vs).length ≤ maxOffset ∧
      flat = ⟨ends start vs, validity vs, allItems vs⟩ := by
  induction vs generalizing row start flat with
  | nil =>
    constructor
    · intro h
      cases h
      exact ⟨by simp, by simpa using hstart, rfl⟩
    · rintro ⟨-, -, rfl⟩
      rfl
  | cons v vs ih =>
    rw [List.forall_mem_cons]
    cases v with
    | null =>
      rw [flattenFrom]
      simp only [bind_eq_ok_iff, pure_eq_ok_iff, ih hstart]
      constructor
      · rintro ⟨rest, ⟨hvs, hlen, rfl⟩, rfl⟩
        exact ⟨⟨by simp, hvs⟩, by simpa [items] using hlen, by simp [ends, items, isNull]⟩
      · rintro ⟨⟨-, hvs⟩, hlen, rfl⟩
        exact ⟨_, ⟨hvs, by simpa [items] using hlen, rfl⟩, by simp [ends, items, isNull]⟩
    | list xs =>
      rw [flattenFrom, guard_eq_ok_iff]
      simp only [bind_eq_ok_iff, pure_eq_ok_iff]
      constructor
      · rintro ⟨hle, rest, hrest, rfl⟩
        obtain ⟨hvs, hlen, rfl⟩ := (ih (by omega)).1 hrest
        refine ⟨⟨Or.inr ⟨xs, rfl⟩, hvs⟩, ?_, by simp [ends, items, isNull]⟩
        simp only [allItems_cons, items, List.length_append]
        omega
      · rintro ⟨⟨-, hvs⟩, hlen, rfl⟩
        simp only [allItems_cons, items, List.length_append] at hlen
        refine ⟨by omega, _, (ih (by omega)).2 ⟨hvs, by omega, rfl⟩, by simp [ends, items, isNull]⟩
    | bool _ => simp [flattenFrom]
    | int _ => simp [flattenFrom]
    | float _ => simp [flattenFrom]
    | str _ => simp [flattenFrom]
    | struct _ => simp [flattenFrom]

theorem membersFrom_eq_ok_iff {name : String} {members : List Field} {row : Nat} {vs : List Value}
    {flat : FlatStructs} :
    membersFrom name members row vs = .ok flat ↔
      (∀ v ∈ vs, v = .null ∨ ∃ ps, v = .struct ps ∧ ps.length = members.length) ∧
      flat = ⟨validity vs, vs.map (parts members.length)⟩ := by
  induction vs generalizing row flat with
  | nil => simp [membersFrom, @eq_comm _ flat]
  | cons v vs ih =>
    rw [List.forall_mem_cons]
    cases v with
    | null =>
      rw [membersFrom]
      simp only [bind_eq_ok_iff, pure_eq_ok_iff, ih]
      constructor
      · rintro ⟨rest, ⟨hvs, rfl⟩, rfl⟩
        exact ⟨⟨by simp, hvs⟩, rfl⟩
      · rintro ⟨⟨-, hvs⟩, rfl⟩
        exact ⟨_, ⟨hvs, rfl⟩, rfl⟩
    | struct ps =>
      rw [membersFrom]
      split
      · rename_i hlen
        simp only [bind_eq_ok_iff, pure_eq_ok_iff, ih]
        constructor
        · rintro ⟨rest, ⟨hvs, rfl⟩, rfl⟩
          exact ⟨⟨Or.inr ⟨ps, rfl, hlen⟩, hvs⟩, rfl⟩
        · rintro ⟨⟨-, hvs⟩, rfl⟩
          exact ⟨_, ⟨hvs, rfl⟩, rfl⟩
      · rename_i hlen
        simp [hlen]
    | bool _ => simp [membersFrom]
    | int _ => simp [membersFrom]
    | float _ => simp [membersFrom]
    | str _ => simp [membersFrom]
    | list _ => simp [membersFrom]

/-- The digits of a column are in range exactly when those of each cell are. -/
theorem checkDigits_eq_ok_iff {precision : Nat} {cells : List (Option Scalar)} :
    checkDigits precision cells = .ok () ↔
      ∀ n : Int, some (.int n) ∈ cells → decimalFits n precision = true := by
  induction cells with
  | nil => simp [checkDigits]
  | cons cell cells ih =>
    by_cases hcell : ∃ n, cell = some (.int n)
    · obtain ⟨n, rfl⟩ := hcell
      rw [checkDigits]
      by_cases hn : decimalFits n precision = true
      · simp [hn, ih]
      · simp [hn]
    · rw [checkDigits.eq_3 _ _ _ fun n hn => hcell ⟨n, hn⟩, ih]
      constructor
      · rintro h n (_ | ⟨_, hmem⟩)
        · exact absurd ⟨n, rfl⟩ hcell
        · exact h n hmem
      · intro h n hmem
        exact h n (List.mem_cons_of_mem _ hmem)

end ColumnArray

end FixtureMatrix
