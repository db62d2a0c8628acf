import FixtureMatrix.Proofs.Disk.Trees
import FixtureMatrix.Proofs.Path.Parents

/-!
# Walks in parts

Empty pieces and single dots lead nowhere, but a name with pieces behind it has
to be a directory, and slashes at the end are such pieces.

* `walk_append_of_directory`, `exists_walk_append`: a walk in two parts.
* `resolve_withoutTrailing`, `resolve_of_withoutTrailing`: slashes at the end ask
  for a directory.
* `walk_error_mono`: what stops a walk still stops it when more is there.
-/

namespace FixtureMatrix.Disk

open FixtureMatrix.Path

variable {d d' : Disk} {path : String} {key k : List String} {xs ys skips : List String}

/-! ## Walks in two parts -/

theorem walk_skips (h : ∀ s ∈ skips, IsSkip s) (d : Disk) (key rest : List String) :
    d.walk key (skips ++ rest) = d.walk key rest := by
  induction skips with
  | nil => rfl
  | cons s skips ih =>
    rw [List.forall_mem_cons] at h
    rw [List.cons_append, walk_skip h.1, ih h.2]

/-- Where a walk can be cut, its first part can be walked alone.  On a tree it
leads to a directory, if it started at one. -/
theorem exists_walk_append (h : d.walk key (xs ++ ys) = .ok k) :
    ∃ between, d.walk key xs = .ok between ∧ d.walk between ys = .ok k ∧
      (ys ≠ [] → d.IsTree → d.lookup key = some .directory →
        d.lookup between = some .directory) := by
  induction xs using pieces_induction generalizing key with
  | nil => exact ⟨key, rfl, h, fun _ _ hkey => hkey⟩
  | skip x xs hskip ih =>
    rw [List.cons_append, walk_skip hskip] at h
    rw [walk_skip hskip]
    exact ih h
  | up xs ih =>
    rw [List.cons_append, walk_up] at h
    rw [walk_up]
    obtain ⟨between, hxs, hys, hdirectory⟩ := ih h
    exact ⟨between, hxs, hys, fun hne htree hkey =>
      hdirectory hne htree (htree.dropLast (by simp [hkey]))⟩
  | last x hskip hup =>
    -- the name in front of the cut is looked up only if there are pieces behind it
    refine ⟨key ++ [x], walk_last hskip hup d key, ?_⟩
    rw [List.singleton_append] at h
    by_cases hys : ys = []
    · subst hys
      rw [walk_last hskip hup] at h
      exact ⟨h, fun hne => absurd rfl hne⟩
    · obtain ⟨hdirectory, hrest⟩ := (walk_down_eq_ok_iff hskip hup hys).1 h
      exact ⟨hrest, fun _ _ _ => hdirectory⟩
  | down x xs hskip hup hxs ih =>
    obtain ⟨hdirectory, hrest⟩ :=
      (walk_down_eq_ok_iff hskip hup (List.append_ne_nil_of_left_ne_nil hxs ys)).1 h
    obtain ⟨between, hwalk, hys, hbetween⟩ := ih hrest
    exact ⟨between, (walk_down_eq_ok_iff hskip hup hxs).2 ⟨hdirectory, hwalk⟩, hys,
      fun hne htree _ => hbetween hne htree hdirectory⟩

/-- A walk goes on from a directory that it leads to. -/
theorem walk_append_of_directory (h : d.walk key xs = .ok k)
    (hk : d.lookup k = some .directory) (ys : List String) :
    d.walk key (xs ++ ys) = d.walk k ys := by
  induction xs using pieces_induction generalizing key with
  | nil =>
    rw [← Except.ok.inj h]
    rfl
  | skip x xs hskip ih =>
    rw [walk_skip hskip] at h
    rw [List.cons_append, walk_skip hskip, ih h]
  | up xs ih =>
    rw [walk_up] at h
    rw [List.cons_append, walk_up, ih h]
  | last x hskip hup =>
    rw [walk_last hskip hup] at h
    obtain rfl := Except.ok.inj h
    rw [List.singleton_append]
    by_cases hys : ys = []
    · subst hys
      exact walk_last hskip hup d key
    · rw [walk_down hskip hup hys, hk]
  | down x xs hskip hup hxs ih =>
    obtain ⟨hdirectory, hrest⟩ := (walk_down_eq_ok_iff hskip hup hxs).1 h
    rw [List.cons_append, walk_down hskip hup (List.append_ne_nil_of_left_ne_nil hxs ys),
      hdirectory]
    exact ih hrest

/-- A walk leads into a directory. -/
theorem IsTree.lookup_dropLast (htree : d.IsTree) (hkey : d.lookup key = some .directory)
    (h : d.walk key xs = .ok k) : d.lookup k.dropLast = some .directory := by
  induction xs using pieces_induction generalizing key with
  | nil =>
    rw [← Except.ok.inj h]
    exact htree.dropLast (by simp [hkey])
  | skip x xs hskip ih =>
    rw [walk_skip hskip] at h
    exact ih hkey h
  | up xs ih =>
    rw [walk_up] at h
    exact ih (htree.dropLast (by simp [hkey])) h
  | last x hskip hup =>
    rw [walk_last hskip hup] at h
    rwa [← Except.ok.inj h, List.dropLast_concat]
  | down x xs hskip hup hxs ih =>
    obtain ⟨hdirectory, hrest⟩ := (walk_down_eq_ok_iff hskip hup hxs).1 h
    exact ih hdirectory hrest

/-- A file on the way stays there. -/
theorem walk_error_mono {err : OsError} (hwrites : WritesOnly [] d d')
    (h : d.walk key xs = .error err) (herr : err ≠ .notFound) : d'.walk key xs = .error err := by
  induction xs using pieces_induction generalizing key with
  | nil => cases h
  | skip x xs hskip ih =>
    rw [walk_skip hskip] at h ⊢
    exact ih h
  | up xs ih =>
    rw [walk_up] at h ⊢
    exact ih h
  | last x hskip hup =>
    rw [walk_last hskip hup] at h
    cases h
  | down x xs hskip hup hxs ih =>
    rw [walk_down hskip hup hxs] at h ⊢
    cases hlookup : d.lookup (key ++ [x]) with
    | none =>
      rw [hlookup] at h
      cases h
      exact absurd rfl herr
    | some entry =>
      rw [hlookup] at h
      cases entry with
      | directory =>
        rw [hwrites.directories _ hlookup]
        exact ih h
      | file content =>
        rw [hwrites.files _ content (by simp) hlookup]
        exact h

theorem resolve_error_mono {err : OsError} (hwrites : WritesOnly [] d d')
    (h : d.resolve path = .error err) (herr : err ≠ .notFound) :
    d'.resolve path = .error err := by
  rw [resolve] at h ⊢
  split_ifs at h ⊢ with hempty
  · exact h
  · rw [start, hwrites.workingDirectory]
    exact walk_error_mono hwrites h herr

/-! ## Slashes at the end -/

theorem exists_skips_of_slashes (q : String) (n : Nat) :
    ∃ skips, (∀ s ∈ skips, IsSkip s) ∧
      segments (q ++ String.ofList (List.replicate n '/')) = segments q ++ skips := by
  induction n with
  | zero => exact ⟨[], by simp, by simp⟩
  | succ n ih =>
    obtain ⟨skips, hskips, hsegments⟩ := ih
    have htext : q ++ String.ofList (List.replicate (n + 1) '/') =
        q ++ String.ofList (List.replicate n '/') ++ "/" := by
      rw [← String.toList_inj]
      simp [List.replicate_succ']
    refine ⟨skips ++ [""], List.forall_mem_append.2 ⟨hskips, by simp [IsSkip]⟩, ?_⟩
    rw [htext, segments_append_slash, hsegments, List.append_assoc]

/-- Slashes at the end are left out, unless there is nothing else. -/
theorem exists_withoutTrailing_append (path : String) :
    ∃ n, path = withoutTrailing path ++ String.ofList (List.replicate n '/') ∧
      (withoutTrailing path = "" → path = "") := by
  rw [withoutTrailing]
  split_ifs with hkept
  · exact ⟨0, by simp, id⟩
  obtain ⟨n, hn⟩ : ∃ n, path.toList.reverse.takeWhile (· == '/') = List.replicate n '/' := by
    refine ⟨_, List.eq_replicate_iff.2 ⟨rfl, fun c hc => ?_⟩⟩
    exact beq_iff_eq.1 (List.all_eq_true.1 List.all_takeWhile c hc)
  refine ⟨n, ?_, fun hempty => absurd hempty (by simpa using hkept)⟩
  have hsplit := List.takeWhile_append_dropWhile (p := (· == '/')) (l := path.toList.reverse)
  have htext := congrArg List.reverse hsplit
  rw [hn, List.reverse_append, List.reverse_replicate, List.reverse_reverse] at htext
  rw [← String.toList_inj, String.toList_append, String.toList_ofList, String.toList_ofList, htext]

theorem withoutTrailing_spec (path : String) :
    ∃ skips, (∀ s ∈ skips, IsSkip s) ∧ segments path = segments (withoutTrailing path) ++ skips ∧
      isAbsolute (withoutTrailing path) = isAbsolute path ∧
      (withoutTrailing path = "" ↔ path = "") := by
  obtain ⟨n, hpath, hempty⟩ := exists_withoutTrailing_append path
  obtain ⟨skips, hskips, hsegments⟩ := exists_skips_of_slashes (withoutTrailing path) n
  rw [← hpath] at hsegments
  have hempty' : withoutTrailing path = "" ↔ path = "" := by
    refine ⟨hempty, ?_⟩
    rintro rfl
    rfl
  refine ⟨skips, hskips, hsegments, ?_, hempty'⟩
  by_cases hnone : withoutTrailing path = ""
  · rw [hnone, hempty hnone]
  · conv_rhs => rw [hpath]
    exact (isAbsolute_append hnone _).symm

theorem start_congr {q : String} (h : isAbsolute q = isAbsolute path) (d : Disk) :
    d.start q = d.start path := by
  rw [start, start, h]

/-- A path can be walked without the slashes at its end. -/
theorem resolve_withoutTrailing (h : d.resolve path = .ok key) :
    d.resolve (withoutTrailing path) = .ok key := by
  obtain ⟨skips, hskips, hsegments, habsolute, hempty⟩ := withoutTrailing_spec path
  rw [resolve] at h ⊢
  split_ifs at h with hpath
  rw [if_neg (mt hempty.1 hpath), start_congr habsolute]
  rw [hsegments] at h
  obtain ⟨between, hbetween, hend, -⟩ := exists_walk_append h
  rw [← List.append_nil skips, walk_skips hskips] at hend
  rw [hbetween, Except.ok.inj hend]

/-- It can be walked with them too, if it leads to a directory. -/
theorem resolve_of_withoutTrailing (h : d.resolve (withoutTrailing path) = .ok key)
    (hkey : d.lookup key = some .directory) : d.resolve path = .ok key := by
  obtain ⟨skips, hskips, hsegments, habsolute, hempty⟩ := withoutTrailing_spec path
  rw [resolve] at h ⊢
  split_ifs at h with hpath
  rw [if_neg (mt hempty.2 hpath), hsegments]
  rw [start_congr habsolute] at h
  rw [walk_append_of_directory h hkey, ← List.append_nil skips, walk_skips hskips]
  rfl

/-- There are none behind a name. -/
theorem withoutTrailing_of_isNamed (h : IsNamed path) : withoutTrailing path = path := by
  obtain ⟨pre, name, hname, hpath⟩ := h
  obtain ⟨skips, hskips, hsegments, -, -⟩ := withoutTrailing_spec path
  rcases List.eq_nil_or_concat skips with rfl | ⟨init, skip, rfl⟩
  · rw [List.append_nil] at hsegments
    exact (eq_of_segments_eq hsegments).symm
  · rw [hpath, List.concat_eq_append, ← List.append_assoc] at hsegments
    obtain ⟨-, hlast⟩ := List.append_inj' hsegments rfl
    have hskip := hskips skip (by simp)
    rw [← List.singleton_inj.1 hlast] at hskip
    exact absurd hskip hname.not_isSkip

theorem hasTrailing_of_isNamed (h : IsNamed path) : hasTrailing path = false := by
  simp [hasTrailing, withoutTrailing_of_isNamed h]

end FixtureMatrix.Disk
