import FixtureMatrix.Proofs.Manifest.Index
import FixtureMatrix.Proofs.Text.ByteOrder
import Mathlib.Data.List.Induction

/-!
# Records found by path

A manifest looks a path up by halving its records, which is right because they are
sorted, and holds the last of the records that it was made of.

* `find?_eq_some_iff`: among sorted records, exactly the record of a path is found.
* `mem_index_iff`: a record is kept if it is the last one of its path.
* `ofRecords_indexes_last`: the manifest of any records.
-/

namespace FixtureMatrix.Manifest

variable {rs xs : List ArtifactRecord} {r x : ArtifactRecord} {path : String}
  {base size i j : Nat}

/-! ## Halving -/

theorem path_lt_of_getElem? (h : Sorted rs) (hi : rs[i]? = some r) (hj : rs[j]? = some x)
    (hij : i < j) : r.path < x.path := by
  obtain ⟨hi', rfl⟩ := List.getElem?_eq_some_iff.1 hi
  obtain ⟨hj', rfl⟩ := List.getElem?_eq_some_iff.1 hj
  exact List.pairwise_iff_getElem.1 h i j hi' hj' hij

/-- What is found has the path, sorted or not. -/
theorem path_of_position? (h : position? rs path base size = some i) :
    ∃ r, rs[i]? = some r ∧ r.path = path := by
  fun_induction position? rs path base size with
  | case1 base size hsize hfound =>
    obtain rfl := Option.some.inj h
    simpa [Option.any_eq_true] using hfound
  | case2 => cases h
  | case3 base size hsize middle hlow ih => exact ih h
  | case4 base size hsize middle hhigh ih => exact ih h

/-- A record within the part that is searched stays within it, as it is on the side of
the middle that its path tells, so it is found. -/
theorem position?_of_getElem? (hsorted : Sorted rs) (hr : rs[i]? = some r) (hbase : base ≤ i)
    (hlt : i < base + size) (hsize : base + size ≤ rs.length) :
    position? rs r.path base size = some i := by
  fun_induction position? rs r.path base size with
  | case1 base size hone hfound =>
    have hi : base = i := by omega
    rw [hi]
  | case2 base size hone hmissing =>
    have hi : base = i := by omega
    rw [hi, hr] at hmissing
    simp at hmissing
  | case3 base size hmany middle hlow ih =>
    have hmiddle : i < middle := by
      obtain ⟨x, hx, hpath⟩ : ∃ x, rs[middle]? = some x ∧ r.path < x.path := by
        simpa [Option.any_eq_true] using hlow
      by_contra hge
      rcases Nat.lt_or_eq_of_le (Nat.le_of_not_lt hge) with hgt | heq
      · exact absurd hpath (lt_asymm (path_lt_of_getElem? hsorted hx hr hgt))
      · rw [heq, hr] at hx
        obtain rfl := Option.some.inj hx
        exact absurd hpath (lt_irrefl _)
    exact ih hbase (by omega) (by omega)
  | case4 base size hmany middle hhigh ih =>
    have hmiddle : middle ≤ i := by
      have hx : rs[middle]? = some rs[middle] := List.getElem?_eq_getElem (by omega)
      by_contra hgt
      have hpath := path_lt_of_getElem? hsorted hr hx (Nat.lt_of_not_le hgt)
      refine hhigh ?_
      rw [hx, Option.any_some]
      exact decide_eq_true hpath
    exact ih hmiddle (by omega) (by omega)

theorem find?_eq_some_iff {m : Manifest} (h : Sorted m.artifacts) :
    m.find? path = some r ↔ r ∈ m.artifacts ∧ r.path = path := by
  rw [find?, Option.bind_eq_some_iff]
  constructor
  · rintro ⟨i, hi, hr⟩
    obtain ⟨x, hx, hpath⟩ := path_of_position? hi
    rw [hr] at hx
    obtain rfl := Option.some.inj hx
    exact ⟨List.mem_of_getElem? hr, hpath⟩
  · rintro ⟨hmem, rfl⟩
    obtain ⟨i, hi⟩ := List.mem_iff_getElem?.1 hmem
    obtain ⟨hlt, -⟩ := List.getElem?_eq_some_iff.1 hi
    exact ⟨i, position?_of_getElem? h hi (Nat.zero_le i) (by omega) (by omega), hi⟩

/-! ## The last record of a path -/

theorem mem_insert_iff (h : Sorted xs) :
    x ∈ insert r xs ↔ x = r ∨ x ∈ xs ∧ x.path ≠ r.path := by
  induction xs with
  | nil => simp [insert]
  | cons y ys ih =>
    obtain ⟨hfirst, hys⟩ := List.pairwise_cons.1 h
    rw [insert]
    split_ifs with hlt heq
    · -- All records are behind the new one.
      have hne : ∀ z ∈ y :: ys, z.path ≠ r.path := by
        intro z hz
        rcases List.mem_cons.1 hz with rfl | hz
        · exact ne_of_gt hlt
        · exact ne_of_gt (lt_trans hlt (hfirst z hz))
      rw [List.mem_cons]
      exact or_congr_right ⟨fun hx => ⟨hx, hne x hx⟩, fun hx => hx.1⟩
    · -- The new record takes the place of the first one.
      have hne : ∀ z ∈ ys, z.path ≠ r.path := fun z hz => heq ▸ ne_of_gt (hfirst z hz)
      rw [List.mem_cons, List.mem_cons]
      refine or_congr_right ⟨fun hx => ⟨Or.inr hx, hne x hx⟩, ?_⟩
      rintro ⟨rfl | hx, hpath⟩
      · exact absurd heq.symm hpath
      · exact hx
    · rw [List.mem_cons, ih hys, List.mem_cons]
      constructor
      · rintro (rfl | rfl | ⟨hx, hpath⟩)
        · exact Or.inr ⟨Or.inl rfl, Ne.symm heq⟩
        · exact Or.inl rfl
        · exact Or.inr ⟨Or.inr hx, hpath⟩
      · rintro (rfl | ⟨rfl | hx, hpath⟩)
        · exact Or.inr (Or.inl rfl)
        · exact Or.inl rfl
        · exact Or.inr (Or.inr ⟨hx, hpath⟩)

theorem index_append (rs xs : List ArtifactRecord) :
    index (rs ++ xs) = xs.foldl (fun sorted r => insert r sorted) (index rs) := by
  rw [index, List.foldl_append]
  rfl

/-- A record is in the index exactly when it is the last one of its path. -/
theorem mem_index_iff (rs : List ArtifactRecord) :
    r ∈ index rs ↔ (rs.reverse.find? fun x => x.path = r.path) = some r := by
  induction rs using List.reverseRecOn with
  | nil => simp [index]
  | append_singleton rs last ih =>
    rw [index_append, List.foldl_cons, List.foldl_nil, mem_insert_iff (index_sorted rs), ih,
      List.reverse_append, List.reverse_singleton, List.singleton_append, List.find?_cons]
    by_cases hpath : last.path = r.path
    · simp [hpath, eq_comm]
    · have hne : r ≠ last := fun heq => hpath (congrArg ArtifactRecord.path heq.symm)
      simp [hpath, hne, Ne.symm hpath]

theorem mem_paths_index_iff (rs : List ArtifactRecord) :
    path ∈ (index rs).map ArtifactRecord.path ↔ path ∈ rs.map ArtifactRecord.path := by
  constructor
  · intro h
    obtain ⟨r, hr, rfl⟩ := List.mem_map.1 h
    exact List.mem_map_of_mem (mem_of_mem_index hr)
  · intro h
    obtain ⟨r, hr, rfl⟩ := List.mem_map.1 h
    have hsome : (rs.reverse.find? fun x => x.path = r.path).isSome := by
      rw [List.find?_isSome]
      exact ⟨r, List.mem_reverse.2 hr, by simp⟩
    obtain ⟨last, hlast⟩ := Option.isSome_iff_exists.1 hsome
    have hpath : last.path = r.path := by simpa using List.find?_some hlast
    rw [← hpath] at hlast ⊢
    exact List.mem_map_of_mem ((mem_index_iff rs).2 hlast)

theorem find?_ofRecords (rs : List ArtifactRecord) (path : String) :
    (ofRecords rs).find? path = rs.reverse.find? fun r => r.path = path := by
  ext r
  rw [find?_eq_some_iff (index_sorted rs), ofRecords]
  constructor
  · rintro ⟨hmem, rfl⟩
    exact (mem_index_iff rs).1 hmem
  · intro h
    have hpath : r.path = path := by simpa using List.find?_some h
    subst hpath
    exact ⟨(mem_index_iff rs).2 h, rfl⟩

/-- The manifest of records is their index by path, where the last record of a path
counts.  Its records are strictly sorted by the bytes of their paths, it has the paths
of the records, a path is looked up to the last record that has it, and records can be
added in portions. -/
theorem ofRecords_indexes_last (rs : List ArtifactRecord) :
    ((ofRecords rs).artifacts.Pairwise fun a b => Text.bytes a.path < Text.bytes b.path) ∧
    (∀ path, path ∈ (ofRecords rs).artifacts.map ArtifactRecord.path ↔
      path ∈ rs.map ArtifactRecord.path) ∧
    (∀ path, (ofRecords rs).find? path = rs.reverse.find? fun r => r.path = path) ∧
    ∀ more, ofRecords (rs ++ more) = ofRecords ((ofRecords rs).artifacts ++ more) := by
  refine ⟨(index_sorted rs).imp Text.bytes_lt_bytes, fun path => mem_paths_index_iff rs,
    find?_ofRecords rs, fun more => ?_⟩
  rw [ofRecords, ofRecords, ofRecords, index_append, index_append, index_index]

example : (ofRecords [⟨"v2/a", "", "", .plain, 0, 0, "old"⟩, ⟨"v1/b", "", "", .plain, 0, 0, "b"⟩,
    ⟨"v2/a", "", "", .plain, 0, 0, "new"⟩]).artifacts.map ArtifactRecord.sha256 = ["b", "new"] := by
  decide +kernel

end FixtureMatrix.Manifest
