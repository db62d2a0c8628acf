import FixtureMatrix.Manifest.Basic
import Mathlib.Data.List.Basic
import Mathlib.Data.List.Perm.Basic
import Mathlib.Data.String.Basic

/-!
# Sorted records

`Manifest.index` keeps its list strictly sorted by path, so that no path occurs
twice in it.

* `index_sorted`, `index_index`: the records of a manifest are sorted, and
  sorting them again changes nothing.
* `index_perm`: records of distinct paths are all kept.
-/

namespace FixtureMatrix.Manifest

variable {r x : ArtifactRecord} {rs xs : List ArtifactRecord}

/-- Records strictly sorted by path. -/
def Sorted (rs : List ArtifactRecord) : Prop :=
  rs.Pairwise fun a b => a.path < b.path

theorem mem_insert (h : x ∈ insert r xs) : x = r ∨ x ∈ xs := by
  induction xs with
  | nil => exact Or.inl (List.mem_singleton.1 h)
  | cons y ys ih =>
    rw [insert] at h
    split_ifs at h
    · exact List.mem_cons.1 h
    · exact (List.mem_cons.1 h).imp_right (List.mem_cons_of_mem y)
    · rcases List.mem_cons.1 h with rfl | h
      · exact Or.inr List.mem_cons_self
      · exact (ih h).imp_right (List.mem_cons_of_mem y)

theorem mem_of_mem_foldl_insert (h : x ∈ rs.foldl (fun sorted r => insert r sorted) xs) :
    x ∈ rs ∨ x ∈ xs := by
  induction rs generalizing xs with
  | nil => exact Or.inr h
  | cons r rs ih =>
    rcases ih h with hmem | hmem
    · exact Or.inl (List.mem_cons_of_mem r hmem)
    · rcases mem_insert hmem with rfl | hmem
      · exact Or.inl List.mem_cons_self
      · exact Or.inr hmem

/-- No record of an index is new. -/
theorem mem_of_mem_index (h : x ∈ index rs) : x ∈ rs :=
  (mem_of_mem_foldl_insert h).resolve_right List.not_mem_nil

/-! ## Order -/

theorem sorted_insert (h : Sorted xs) : Sorted (insert r xs) := by
  induction xs with
  | nil => exact List.pairwise_singleton _ _
  | cons y ys ih =>
    obtain ⟨hfirst, hys⟩ := List.pairwise_cons.1 h
    rw [insert]
    split_ifs with hlt heq
    · refine List.pairwise_cons.2 ⟨fun z hz => ?_, h⟩
      rcases List.mem_cons.1 hz with rfl | hz
      · exact hlt
      · exact lt_trans hlt (hfirst z hz)
    · exact List.pairwise_cons.2 ⟨fun z hz => heq ▸ hfirst z hz, hys⟩
    · refine List.pairwise_cons.2 ⟨fun z hz => ?_, ih hys⟩
      rcases mem_insert hz with rfl | hz
      · exact lt_of_le_of_ne (not_lt.1 hlt) (Ne.symm heq)
      · exact hfirst z hz

theorem sorted_foldl_insert (h : Sorted xs) :
    Sorted (rs.foldl (fun sorted r => insert r sorted) xs) := by
  induction rs generalizing xs with
  | nil => exact h
  | cons r rs ih => exact ih (sorted_insert h)

theorem index_sorted (rs : List ArtifactRecord) : Sorted (index rs) :=
  sorted_foldl_insert List.Pairwise.nil

/-- A record behind all others is put at the end. -/
theorem insert_last (h : ∀ x ∈ xs, x.path < r.path) : insert r xs = xs ++ [r] := by
  induction xs with
  | nil => rfl
  | cons y ys ih =>
    obtain ⟨hy, hys⟩ := List.forall_mem_cons.1 h
    rw [insert, if_neg (not_lt_of_gt hy), if_neg (ne_of_gt hy), ih hys, List.cons_append]

theorem foldl_insert_of_sorted (h : Sorted (xs ++ rs)) :
    rs.foldl (fun sorted r => insert r sorted) xs = xs ++ rs := by
  induction rs generalizing xs with
  | nil => rw [List.foldl_nil, List.append_nil]
  | cons r rs ih =>
    have hlast : ∀ x ∈ xs, x.path < r.path := fun x hx =>
      (List.pairwise_append.1 h).2.2 x hx r List.mem_cons_self
    have happend : xs ++ r :: rs = xs ++ [r] ++ rs := by simp
    rw [happend] at h ⊢
    rw [List.foldl_cons, insert_last hlast]
    exact ih h

theorem index_of_sorted (h : Sorted rs) : index rs = rs :=
  foldl_insert_of_sorted h

theorem index_index (rs : List ArtifactRecord) : index (index rs) = index rs :=
  index_of_sorted (index_sorted rs)

/-! ## Records of distinct paths -/

/-- A record of a new path replaces none. -/
theorem insert_perm (h : r.path ∉ xs.map ArtifactRecord.path) : (insert r xs).Perm (r :: xs) := by
  induction xs with
  | nil => exact List.Perm.refl _
  | cons y ys ih =>
    rw [List.map_cons, List.mem_cons, not_or] at h
    rw [insert, if_neg h.1]
    split_ifs with hlt
    · exact List.Perm.refl _
    · exact ((ih h.2).cons y).trans (List.Perm.swap r y ys)

theorem foldl_insert_perm (h : ((rs ++ xs).map ArtifactRecord.path).Nodup) :
    (rs.foldl (fun sorted r => insert r sorted) xs).Perm (rs ++ xs) := by
  induction rs generalizing xs with
  | nil => exact List.Perm.refl _
  | cons r rs ih =>
    rw [List.cons_append, List.map_cons, List.nodup_cons, List.map_append, List.mem_append,
      not_or] at h
    have hinsert := insert_perm h.1.2
    have hmiddle : (rs ++ insert r xs).Perm (r :: (rs ++ xs)) :=
      (hinsert.append_left rs).trans List.perm_middle
    have hnodup : ((rs ++ insert r xs).map ArtifactRecord.path).Nodup := by
      rw [(hmiddle.map ArtifactRecord.path).nodup_iff, List.map_cons, List.map_append,
        List.nodup_cons, List.mem_append, not_or]
      exact h
    exact (ih hnodup).trans hmiddle

/-- Records of distinct paths are all in the index, in some order. -/
theorem index_perm (h : (rs.map ArtifactRecord.path).Nodup) : (index rs).Perm rs := by
  have hperm : (index rs).Perm (rs ++ []) := foldl_insert_perm (by rwa [List.append_nil])
  rwa [List.append_nil] at hperm

/-- The order of records does not matter, as long as their paths are distinct: sorted
lists of the same records are equal. -/
theorem index_eq_of_perm (hperm : rs.Perm xs) (h : (xs.map ArtifactRecord.path).Nodup) :
    index rs = index xs := by
  have hrs := (hperm.map ArtifactRecord.path).nodup_iff.2 h
  have hsame := ((index_perm hrs).trans hperm).trans (index_perm h).symm
  refine hsame.eq_of_pairwise (fun a b _ _ hab hba => ?_) (index_sorted rs) (index_sorted xs)
  exact absurd hba (lt_asymm hab)

theorem ofRecords_eq_of_perm (hperm : rs.Perm xs) (h : (xs.map ArtifactRecord.path).Nodup) :
    ofRecords rs = ofRecords xs := by
  rw [ofRecords, ofRecords, index_eq_of_perm hperm h]

/-- The order of records does not matter for their size. -/
theorem totalBytes_ofRecords (h : (index rs).Perm rs) :
    (ofRecords rs).totalBytes = rs.foldr (fun r bytes => r.bytes + bytes) 0 :=
  h.foldr_eq' (fun x _ y _ bytes => Nat.add_left_comm y.bytes x.bytes bytes) 0

theorem lists_eq_false_iff {m : Manifest} {path : String} :
    m.lists path = false ↔ ∀ r ∈ m.artifacts, r.path ≠ path := by
  simp [lists]

end FixtureMatrix.Manifest
