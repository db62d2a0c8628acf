import FixtureMatrix.Proofs.Path.Components

/-!
# Parents of paths

The parent of a path is the path without its last piece, and without the empty
pieces and single dots that then stand at its end.

* `ofSegments_segments`: a path is its pieces with slashes between them.
* `length_lt_of_parent?`: a parent is shorter.
* `parent?_of_segments`: the parent does not depend on the name it is the parent of.
* `trimmed_spec`: the pieces of the parent of a name, up to those that lead
  nowhere.
* `exists_isBase`: the parents of names below a root.
-/

namespace FixtureMatrix.Path

variable {path q above name : String} {xs ys pre : List String}

/-! ## Paths and their pieces -/

/-- A path is its pieces with slashes between them. -/
theorem ofSegments_segments (path : String) : ofSegments (segments path) = path := by
  rw [← String.toList_inj, ofSegments, String.toList_intercalate, segments, List.map_map]
  have hpieces : (pieces path.toList).map (String.toList ∘ String.ofList) = pieces path.toList :=
    List.map_id'' (fun _ => String.toList_ofList) _
  rw [hpieces, pieces_eq_splitOn]
  exact List.intercalate_splitOn '/'

theorem eq_of_segments_eq (h : segments path = segments q) : path = q := by
  rw [← ofSegments_segments path, h, ofSegments_segments]

theorem ofSegments_append (hxs : xs ≠ []) (hys : ys ≠ []) (h : ∀ p ∈ xs ++ ys, '/' ∉ p.toList) :
    ofSegments (xs ++ ys) = ofSegments xs ++ "/" ++ ofSegments ys := by
  have hall := List.forall_mem_append.1 h
  refine eq_of_segments_eq ?_
  rw [segments_slash, segments_ofSegments (by simp [hxs]) h, segments_ofSegments hxs hall.1,
    segments_ofSegments hys hall.2]

theorem ofSegments_ne_empty {piece : String} (hmem : piece ∈ xs) (hne : piece ≠ "")
    (h : ∀ p ∈ xs, '/' ∉ p.toList) : ofSegments xs ≠ "" := by
  intro hempty
  have hpieces := segments_ofSegments (List.ne_nil_of_mem hmem) h
  rw [hempty] at hpieces
  rw [← hpieces] at hmem
  exact hne (List.mem_singleton.1 hmem)

/-- Only the empty path has an empty first piece without being absolute. -/
theorem isAbsolute_iff : isAbsolute path = true ↔ path ≠ "" ∧ (segments path).head? = some "" := by
  constructor
  · intro h
    refine ⟨?_, head?_segments_of_isAbsolute h⟩
    rintro rfl
    cases h
  · rintro ⟨hne, hhead⟩
    obtain ⟨rest, hrest⟩ := List.head?_eq_some_iff.1 hhead
    exact isAbsolute_of_segments hne hrest

theorem isAbsolute_congr (hpath : path ≠ "") (hq : q ≠ "")
    (h : (segments path).head? = (segments q).head?) : isAbsolute path = isAbsolute q := by
  rw [Bool.eq_iff_iff, isAbsolute_iff, isAbsolute_iff, h]
  simp [hpath, hq]

/-! ## Pieces that lead nowhere -/

theorem trimReversed_cons_name (h : IsName name) (xs : List String) :
    trimReversed (name :: xs) = name :: xs := by
  rw [trimReversed, if_neg fun hskip => h.not_isSkip hskip.1]

/-- What stays starts with a piece that leads somewhere, if it is not a single one. -/
theorem not_isSkip_of_trimReversed {x y : String} (h : trimReversed xs = x :: y :: ys) :
    ¬ IsSkip x := by
  induction xs with
  | nil => cases h
  | cons z zs ih =>
    rw [trimReversed] at h
    split_ifs at h with hskip
    · exact ih h
    · cases h
      exact fun hx => hskip ⟨hx, List.cons_ne_nil y ys⟩

theorem exists_skips_trimReversed (xs : List String) :
    ∃ skips, (∀ s ∈ skips, IsSkip s) ∧ xs = skips ++ trimReversed xs := by
  induction xs with
  | nil => exact ⟨[], by simp, rfl⟩
  | cons x xs ih =>
    rw [trimReversed]
    split_ifs with hskip
    · obtain ⟨skips, hskips, heq⟩ := ih
      refine ⟨x :: skips, List.forall_mem_cons.2 ⟨hskip.1, hskips⟩, ?_⟩
      rw [List.cons_append, ← heq]
    · exact ⟨[], by simp, rfl⟩

theorem trimReversed_ne_nil (h : xs ≠ []) : trimReversed xs ≠ [] := by
  induction xs with
  | nil => exact absurd rfl h
  | cons x xs ih =>
    rw [trimReversed]
    split_ifs with hskip
    · exact ih hskip.2
    · exact List.cons_ne_nil x xs

/-- Pieces without those at the end that lead nowhere. -/
def trim (xs : List String) : List String :=
  (trimReversed xs.reverse).reverse

theorem exists_skips_trim (xs : List String) :
    ∃ skips, (∀ s ∈ skips, IsSkip s) ∧ xs = trim xs ++ skips := by
  obtain ⟨skips, hskips, heq⟩ := exists_skips_trimReversed xs.reverse
  refine ⟨skips.reverse, by simpa using hskips, ?_⟩
  rw [trim, ← List.reverse_append, ← heq, List.reverse_reverse]

theorem trim_ne_nil (h : xs ≠ []) : trim xs ≠ [] := by
  have hreverse : xs.reverse ≠ [] := by simpa using h
  simpa [trim] using trimReversed_ne_nil hreverse

/-! ## Paths that end in a name -/

/-- The last piece of a path is a plain name. -/
def IsNamed (path : String) : Prop :=
  ∃ pre name, IsName name ∧ segments path = pre ++ [name]

theorem IsNamed.ne_empty (h : IsNamed path) : path ≠ "" := by
  obtain ⟨pre, name, hname, hsegments⟩ := h
  rintro rfl
  have hlast := congrArg List.getLast? hsegments
  rw [List.getLast?_concat] at hlast
  exact hname.ne_empty (Option.some.inj hlast).symm

/-! ## Parents -/

/-- The text of pieces, without those at the end that lead nowhere. -/
def trimmed (pre : List String) : String :=
  if trim pre = [""] then "/" else ofSegments (trim pre)

theorem parent?_eq {last : String} {rest : List String} (hrest : rest ≠ [])
    (h : trimReversed (segments path).reverse = last :: rest) :
    parent? path = some (trimmed rest.reverse) := by
  obtain ⟨next, others, rfl⟩ := List.exists_cons_of_ne_nil hrest
  rw [parent?, h, trimmed, trim, List.reverse_reverse]

/-- A parent is shorter. -/
theorem length_lt_of_parent? (hpath : path ≠ "") (h : parent? path = some above) :
    above.length < path.length := by
  have hpos : ∀ text : String, text ≠ "" → 0 < text.length := fun text htext =>
    Nat.pos_of_ne_zero fun hzero => htext (String.length_eq_zero_iff.1 hzero)
  obtain ⟨skips, -, hsegments⟩ := exists_skips_trim (segments path)
  cases hkept : trimReversed (segments path).reverse with
  | nil => exact absurd hkept (trimReversed_ne_nil (by simpa using segments_ne_nil path))
  | cons last rest =>
    by_cases hrest : rest = []
    · rw [parent?, hkept, hrest] at h
      simp only at h
      split_ifs at h
      rw [← Option.some.inj h]
      exact hpos path hpath
    · rw [parent?_eq hrest hkept] at h
      obtain ⟨skips', -, hfront⟩ := exists_skips_trim rest.reverse
      -- the path is what is kept, a slash, and a rest with the last piece in it
      rw [trim, hkept, List.reverse_cons, hfront, List.append_assoc, List.append_assoc]
        at hsegments
      have hslash : ∀ p ∈ trim rest.reverse ++ (skips' ++ ([last] ++ skips)), '/' ∉ p.toList := by
        rw [← hsegments]
        exact fun p => no_slash_of_mem_segments
      obtain ⟨next, others, rfl⟩ := List.exists_cons_of_ne_nil hrest
      have hname : last ≠ "" := fun hempty => not_isSkip_of_trimReversed hkept (Or.inl hempty)
      have hlast : ofSegments (skips' ++ ([last] ++ skips)) ≠ "" :=
        ofSegments_ne_empty (by simp) hname fun p hp => hslash p (List.mem_append_right _ hp)
      have hlength := congrArg String.length (ofSegments_segments path)
      rw [hsegments, ofSegments_append (trim_ne_nil (by simp)) (by simp) hslash,
        String.length_append, String.length_append] at hlength
      have hone : "/".length = 1 := rfl
      have hrestPos := hpos _ hlast
      rw [← Option.some.inj h, trimmed]
      split_ifs
      · omega
      · omega

/-- The parent does not depend on the name it is the parent of. -/
theorem parent?_of_segments (hname : IsName name) (hpre : pre ≠ [])
    (h : segments path = pre ++ [name]) : parent? path = some (trimmed pre) := by
  have hkept : trimReversed (segments path).reverse = name :: pre.reverse := by
    rw [h, List.reverse_append, List.reverse_singleton, List.singleton_append,
      trimReversed_cons_name hname]
  rw [parent?_eq (by simpa using hpre) hkept, List.reverse_reverse]

theorem parent?_name (hname : IsName name) (h : segments path = [name]) :
    parent? path = some "" := by
  have hkept : trimReversed (segments path).reverse = [name] := by
    rw [h, List.reverse_singleton, trimReversed_cons_name hname]
  rw [parent?, hkept]
  simp [hname.ne_empty]

theorem IsNamed.exists_parent (h : IsNamed path) : ∃ above, parent? path = some above := by
  obtain ⟨pre, name, hname, hsegments⟩ := h
  by_cases hpre : pre = []
  · subst hpre
    exact ⟨"", parent?_name hname hsegments⟩
  · exact ⟨_, parent?_of_segments hname hpre hsegments⟩

/-- The parent of a name has the pieces in front of it, up to those that lead
nowhere, and starts where the whole path does. -/
theorem trimmed_spec (hname : IsName name) (hpre : pre ≠ [])
    (h : segments path = pre ++ [name]) :
    trimmed pre ≠ "" ∧ isAbsolute (trimmed pre) = isAbsolute path ∧
      ∃ kept skips skips', (∀ s ∈ skips, IsSkip s) ∧ (∀ s ∈ skips', IsSkip s) ∧
        segments (trimmed pre) = kept ++ skips ∧ pre = kept ++ skips' := by
  obtain ⟨skips, hskips, hsplit⟩ := exists_skips_trim pre
  have hkept := trim_ne_nil hpre
  have hhead : (segments path).head? = (trim pre).head? := by
    rw [h, List.head?_append_of_ne_nil _ hpre]
    conv_lhs => rw [hsplit]
    rw [List.head?_append_of_ne_nil _ hkept]
  have hpath : path ≠ "" := IsNamed.ne_empty ⟨pre, name, hname, h⟩
  have hslash : ∀ p ∈ trim pre, '/' ∉ p.toList := by
    intro p hp
    have hmem : p ∈ segments path := by
      rw [h, hsplit]
      simp [hp]
    exact no_slash_of_mem_segments hmem
  rw [trimmed]
  split_ifs with hroot
  · rw [hroot] at hhead hsplit
    refine ⟨by decide, (isAbsolute_iff.2 ⟨hpath, hhead⟩).symm, [""], [""], skips, ?_, hskips,
      rfl, hsplit⟩
    simp [IsSkip]
  · have hsegments := segments_ofSegments hkept hslash
    have hne : ofSegments (trim pre) ≠ "" := by
      intro hempty
      rw [hempty] at hsegments
      exact hroot hsegments.symm
    refine ⟨hne, ?_, trim pre, [], skips, by simp, hskips, by simpa using hsegments, hsplit⟩
    exact isAbsolute_congr hne hpath (by rw [hsegments, hhead])

/-- A path that ends in a name has nothing to be left out. -/
theorem trimmed_segments (h : IsNamed path) : trimmed (segments path) = path := by
  obtain ⟨pre, name, hname, hsegments⟩ := h
  have htrim : trim (segments path) = segments path := by
    rw [trim, hsegments, List.reverse_append, List.reverse_singleton, List.singleton_append,
      trimReversed_cons_name hname]
    simp
  have hroot : segments path ≠ [""] := by
    intro heq
    have hmem : name ∈ [""] := by
      rw [← heq, hsegments]
      simp
    exact hname.ne_empty (List.mem_singleton.1 hmem)
  rw [trimmed, htrim, if_neg hroot, ofSegments_segments]

/-! ## Names below a root -/

/-- Behind a root names keep their pieces. -/
theorem segments_join_names (root : String) :
    ∃ parts, ∀ names, names ≠ [] → (∀ name ∈ names, IsName name) →
      segments (join root (ofSegments names)) = parts ++ names := by
  by_cases hroot : root = ""
  · refine ⟨[], fun names hne hnames => ?_⟩
    rw [hroot, join_empty, List.nil_append]
    exact segments_ofSegments hne fun name hname => (hnames name hname).no_slash
  · obtain ⟨parts, -, -, hjoin⟩ := segments_join hroot
    refine ⟨parts, fun names hne hnames => ?_⟩
    rw [hjoin _ (isAbsolute_of_lead (lead_ofSegments hne hnames)),
      segments_ofSegments hne fun name hname => (hnames name hname).no_slash]

theorem isNamed_join (root : String) {names : List String} (hne : names ≠ [])
    (hnames : ∀ name ∈ names, IsName name) : IsNamed (join root (ofSegments names)) := by
  obtain ⟨parts, hparts⟩ := segments_join_names root
  obtain ⟨init, name, rfl⟩ := (List.eq_nil_or_concat' names).resolve_left hne
  refine ⟨parts ++ init, name, hnames name (by simp), ?_⟩
  rw [hparts _ hne hnames, List.append_assoc]

theorem isNamed_join_name (root : String) {name : String} (hname : IsName name) :
    IsNamed (join root name) := by
  have hnames : ∀ n ∈ [name], IsName n := by
    intro n hn
    rwa [List.mem_singleton.1 hn]
  have hnamed := isNamed_join root (List.cons_ne_nil name []) hnames
  rwa [ofSegments, String.intercalate_singleton] at hnamed

/-- The path of the directory that names lead to below a root.  Without names it is
the base. -/
def levelPath (base root : String) (names : List String) : String :=
  if names = [] then base else join root (ofSegments names)

theorem levelPath_of_ne_nil {names : List String} (h : names ≠ []) (base root : String) :
    levelPath base root names = join root (ofSegments names) := by
  rw [levelPath, if_neg h]

/-- The base of a root: all names directly below the root have it as their parent,
and others the directory of the names without the last. -/
def IsBase (base root : String) : Prop :=
  ∀ names name, (∀ n ∈ names ++ [name], IsName n) →
    parent? (join root (ofSegments (names ++ [name]))) = some (levelPath base root names)

theorem exists_isBase (root : String) : ∃ base, IsBase base root := by
  obtain ⟨parts, hparts⟩ := segments_join_names root
  have hparent : ∀ names name, (∀ n ∈ names ++ [name], IsName n) → parts ++ names ≠ [] →
      parent? (join root (ofSegments (names ++ [name]))) = some (trimmed (parts ++ names)) := by
    intro names name hnames hne
    have hwhole := hparts _ (by simp) hnames
    rw [← List.append_assoc] at hwhole
    exact parent?_of_segments (hnames name (by simp)) hne hwhole
  refine ⟨if parts = [] then "" else trimmed parts, fun names name hnames => ?_⟩
  by_cases hempty : names = []
  · subst hempty
    rw [levelPath, if_pos rfl]
    split_ifs with hroot
    · subst hroot
      exact parent?_name (hnames name (by simp)) (hparts [name] (by simp) hnames)
    · rw [hparent [] name hnames (by simpa using hroot), List.append_nil]
  · rw [levelPath_of_ne_nil hempty, hparent names name hnames (by simp [hempty])]
    have hinit := (List.forall_mem_append.1 hnames).1
    rw [← hparts names hempty hinit, trimmed_segments (isNamed_join root hempty hinit)]

end FixtureMatrix.Path
