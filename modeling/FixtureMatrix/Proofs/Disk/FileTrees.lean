import FixtureMatrix.Proofs.Disk.Search
import FixtureMatrix.Proofs.Disk.Walks
import Mathlib.Data.List.Nodup

/-!
# Searching a file tree

On a file tree every key occurs once and consists of plain names, so a search finds
each file below its root once, under the names that lead down to it.

* `IsFileTree.writeFile`: a file tree stays one when a file is written.
* `exists_searchRoot?`: a search gets to its root if a name below the root can be
  looked up, unless an empty piece follows the leading dots.
* `recognized_of_head?`: roots without a leading dot are also recognized in front of
  what is found.
* `IsFileTree.relative_parquetFiles_perm`: the relative paths of what is found.
-/

namespace FixtureMatrix.Disk

open FixtureMatrix.Path

variable {d d' : Disk} {path root name : String} {key k names : List String} {content : ByteArray}

/-! ## File trees -/

/-- A tree on which no key occurs twice and all names are plain. -/
structure IsFileTree (d : Disk) : Prop extends IsTree d where
  keys : (d.entries.map Prod.fst).Nodup
  names : ∀ e ∈ d.entries, ∀ name ∈ e.1, IsName name

namespace IsFileTree

theorem mem_entries_iff (h : d.IsFileTree) :
    (key, .file content) ∈ d.entries ↔ d.lookup key = some (.file content) := by
  refine ⟨fun hmem => ?_, mem_entries_of_lookup⟩
  rw [lookup]
  cases hfind : d.entries.find? fun e => e.1 = key with
  | none => simpa using List.find?_eq_none.1 hfind _ hmem
  | some e =>
    have hkey : e.1 = key := by simpa using List.find?_some hfind
    have hsame : e = (key, .file content) :=
      List.inj_on_of_nodup_map h.keys (List.mem_of_find?_eq_some hfind) hmem hkey
    rw [hsame]

/-- Whatever stands anywhere has plain names. -/
theorem isName_of_mem (h : d.IsFileTree) (hkey : d.lookup key ≠ none) :
    ∀ name ∈ key, IsName name := by
  intro name hname
  rw [lookup] at hkey
  split at hkey
  · next e he =>
    have heq : e.1 = key := by simpa using List.find?_some he
    exact h.names e (List.mem_of_find?_eq_some he) name (heq ▸ hname)
  · split_ifs at hkey with hroot
    · rw [hroot] at hname
      cases hname
    · exact absurd rfl hkey

theorem isName_foldl_step {pieces : List String} (hslash : ∀ piece ∈ pieces, '/' ∉ piece.toList)
    (hkey : ∀ name ∈ key, IsName name) : ∀ name ∈ pieces.foldl step key, IsName name := by
  induction pieces generalizing key with
  | nil => exact hkey
  | cons piece pieces ih =>
    rw [List.forall_mem_cons] at hslash
    refine ih hslash.2 fun name hname => ?_
    unfold step at hname
    split_ifs at hname with hskip hup
    · exact hkey name hname
    · exact hkey name ((List.dropLast_sublist key).mem hname)
    · rcases List.mem_append.1 hname with hname | hname
      · exact hkey name hname
      · rw [List.mem_singleton.1 hname]
        exact isName_of_not_isSkip hskip hup hslash.1

theorem isName_of_mem_target (h : d.IsFileTree) (path : String) :
    ∀ name ∈ d.target path, IsName name := by
  have hstart : d.lookup (d.start path) ≠ none := by simp [h.start path]
  exact isName_foldl_step (fun _ => no_slash_of_mem_segments) (h.isName_of_mem hstart)

theorem put_file (h : d.IsFileTree) (hfile : d.lookup key ≠ some .directory)
    (habove : d.lookup key.dropLast = some .directory) (hkey : ∀ name ∈ key, IsName name)
    (content : ByteArray) : (d.put key (.file content)).IsFileTree := by
  refine ⟨h.toIsTree.put_file hfile habove content, ?_, ?_⟩
  · unfold put
    rw [List.map_append, List.nodup_append]
    refine ⟨(List.filter_sublist.map Prod.fst).nodup h.keys, by simp, fun k hk k' hk' => ?_⟩
    obtain ⟨e, he, rfl⟩ := List.mem_map.1 hk
    have hne : e.1 ≠ key := by simpa using (List.mem_filter.1 he).2
    rwa [List.mem_singleton.1 hk']
  · intro e he
    rcases List.mem_append.1 he with he | he
    · exact h.names e (List.mem_filter.1 he).1
    · rw [List.mem_singleton.1 he]
      exact hkey

/-- A file tree stays one when a file is written. -/
theorem writeFile (h : d.IsFileTree) (hwrite : d.writeFile path content = .ok d') :
    d'.IsFileTree := by
  obtain ⟨-, hresolve, hfile, rfl⟩ := writeFile_eq_ok_iff.1 hwrite
  have hwalk : d.walk (d.start path) (segments path) = .ok (d.target path) := by
    unfold resolve at hresolve
    split_ifs at hresolve
    exact hresolve
  exact h.put_file hfile (h.lookup_dropLast (h.start path) hwalk) (h.isName_of_mem_target path)
    content

end IsFileTree

/-! ## Getting to the root -/

/-- Roots that a search gets to: it gives up at an empty piece right behind the dots that
it leaves out. -/
def ReachesRoot (root : String) : Prop :=
  isAbsolute root = true ∨ ((segments root).dropWhile (· = ".")).head? ≠ some ""

/-- Roots that are recognized in front of what a search finds below them. -/
def Recognized (root : String) : Prop :=
  ReachesRoot root ∧ unrecognized root = []

/-- A root that does not start with a dot is recognized. -/
theorem recognized_of_head? (hroot : root ≠ "") (hdot : (segments root).head? ≠ some ".") :
    Recognized root := by
  constructor
  · by_cases habs : isAbsolute root = true
    · exact Or.inl habs
    · obtain ⟨first, rest, hfirst⟩ := List.exists_cons_of_ne_nil (segments_ne_nil root)
      right
      rw [hfirst] at hdot ⊢
      have hne : first ≠ "." := fun heq => hdot (congrArg some heq)
      rw [List.dropWhile_cons_of_neg (by simpa using hne)]
      rintro heq
      obtain rfl := Option.some.inj heq
      exact habs (isAbsolute_of_segments hroot hfirst)
  · unfold unrecognized
    rw [if_neg]
    intro hhead
    rw [components_eq, lead] at hhead
    split_ifs at hhead
    · cases hhead
    · exact ne_current_of_mem (List.mem_of_mem_head? hhead) rfl

/-- A piece is followed where it can be walked. -/
theorem exists_follow? (htree : d.IsTree) {p : Place} {piece : String} {rest : List String}
    (hp : d.lookup p.key = some .directory) (hrest : rest ≠ [])
    (hwalk : d.walk p.key (piece :: rest) = .ok k) (htext : p.text = none → piece ≠ "") :
    ∃ q, d.follow? p piece = some q ∧ d.lookup q.key = some .directory ∧
      d.walk q.key rest = .ok k ∧ (q.text = none → p.text = none ∧ piece = ".") := by
  obtain ⟨key, text⟩ := p
  simp only at hp hwalk htext
  unfold follow?
  simp only [hp]
  by_cases hempty : piece = ""
  · subst hempty
    rw [walk_skip (Or.inl rfl)] at hwalk
    cases text with
    | none => exact absurd rfl (htext rfl)
    | some text => exact ⟨_, rfl, hp, hwalk, by simp⟩
  by_cases hdot : piece = "."
  · subst hdot
    rw [walk_skip (Or.inr rfl)] at hwalk
    cases text with
    | none => exact ⟨_, rfl, hp, hwalk, by simp⟩
    | some text => exact ⟨_, rfl, hp, hwalk, by simp⟩
  rw [if_neg hempty, if_neg hdot]
  by_cases hup : piece = ".."
  · subst hup
    rw [walk_up] at hwalk
    exact ⟨_, if_pos rfl, htree.dropLast (by simp [hp]), hwalk, by simp⟩
  · obtain ⟨hnext, hwalk⟩ := (walk_down_eq_ok_iff (not_or.2 ⟨hempty, hdot⟩) hup hrest).1 hwalk
    rw [if_neg hup, hnext]
    exact ⟨_, rfl, hnext, hwalk, by simp⟩

theorem exists_foldlM_follow? (htree : d.IsTree) {p : Place} {pieces rest : List String}
    (hp : d.lookup p.key = some .directory) (hrest : rest ≠ [])
    (hwalk : d.walk p.key (pieces ++ rest) = .ok k)
    (htext : p.text = none → (pieces.dropWhile (· = ".")).head? ≠ some "") :
    ∃ q, pieces.foldlM d.follow? p = some q := by
  induction pieces generalizing p with
  | nil => exact ⟨p, rfl⟩
  | cons piece pieces ih =>
    have hne : pieces ++ rest ≠ [] := List.append_ne_nil_of_right_ne_nil pieces hrest
    obtain ⟨q, hq, hqkey, hqwalk, hqtext⟩ := exists_follow? htree hp hne hwalk fun hnone hempty => by
      subst hempty
      exact htext hnone rfl
    rw [List.foldlM_cons, hq]
    refine ih hqkey hqwalk fun hnone => ?_
    obtain ⟨hpnone, rfl⟩ := hqtext hnone
    exact htext hpnone

/-- A search gets to its root if a name below the root can be looked up. -/
theorem exists_searchRoot? (htree : d.IsTree) (hroot : root ≠ "") (hreach : ReachesRoot root)
    (hname : IsName name) (hresolve : d.resolve (join root name) = .ok k) :
    ∃ p, d.searchRoot? root = some p := by
  have hrelative := isAbsolute_piece hname.no_slash
  obtain ⟨parts, hparts, hsegments, hjoins⟩ := segments_join hroot
  have hjoin := hjoins name hrelative
  rw [segments_piece hname.no_slash] at hjoin
  unfold resolve at hresolve
  split_ifs at hresolve
  rw [hjoin, start_congr (isAbsolute_join hroot hrelative)] at hresolve
  -- A slash at the end of the root adds a piece that the join does not have.
  have hwalk : d.walk (d.start root) (segments root ++ [name]) = .ok k := by
    rcases hsegments with hsame | hslash
    · rwa [hsame]
    · obtain ⟨between, hfirst, hlast, hdirectory⟩ := exists_walk_append hresolve
      rw [hslash, List.append_assoc, walk_append_of_directory hfirst
        (hdirectory (List.cons_ne_nil name []) htree (htree.start root))]
      rwa [List.singleton_append, walk_skip (Or.inl rfl)]
  by_cases habs : isAbsolute root = true
  · obtain ⟨rest, hrest⟩ := List.head?_eq_some_iff.1 (head?_segments_of_isAbsolute habs)
    rw [hrest, List.cons_append, walk_skip (Or.inl rfl), start, if_pos habs] at hwalk
    unfold searchRoot?
    rw [hrest]
    exact exists_foldlM_follow? htree htree.root (List.cons_ne_nil name []) hwalk (by simp)
  · rw [start, if_neg habs] at hwalk
    have hfound := exists_foldlM_follow? htree (p := ⟨d.workingDirectory, none⟩)
      htree.workingDirectory (List.cons_ne_nil name []) hwalk fun _ => hreach.resolve_left habs
    unfold searchRoot?
    split
    · next hnil => exact absurd hnil (segments_ne_nil root)
    · next rest hrest => exact absurd (isAbsolute_of_segments hroot hrest) habs
    · exact hfound

/-! ## What is found -/

/-- Names that lead from a root down to a file with the ending searched for. -/
def HasParquet (d : Disk) (root : String) (names : List String) : Prop :=
  (∃ name, names.getLast? = some name ∧ hasParquetEnding name = true) ∧
    ∃ content, d.lookup (d.target root ++ names) = some (.file content)

theorem HasParquet.ne_nil (h : d.HasParquet root names) : names ≠ [] := by
  obtain ⟨⟨name, hlast, -⟩, -⟩ := h
  rintro rfl
  cases hlast

/-- The names below a root that a search finds. -/
def parquetNames (d : Disk) (root : String) : List (List String) :=
  (d.filesBelow (d.target root)).filter fun names =>
    (names.getLast?.map hasParquetEnding).getD false

theorem isName_of_mem_unrecognized (h : name ∈ unrecognized root) : IsName name := by
  unfold unrecognized at h
  split_ifs at h
  · exact isName_of_mem_names (fun _ hstep => hstep) h
  · cases h

/-- A relative path tells the names of its file, whether or not the root is recognized. -/
theorem eq_of_relative {xs ys : List String} (hxs : ∀ name ∈ xs, IsName name)
    (hys : ∀ name ∈ ys, IsName name)
    (h : ofSegments (unrecognized root ++ xs) = ofSegments (unrecognized root ++ ys)) :
    xs = ys := by
  have hroot : ∀ name ∈ unrecognized root, IsName name := fun _ => isName_of_mem_unrecognized
  refine List.append_cancel_left (ofSegments_inj ?_ ?_ h)
  · exact List.forall_mem_append.2 ⟨hroot, hxs⟩
  · exact List.forall_mem_append.2 ⟨hroot, hys⟩

namespace IsFileTree

theorem mem_parquetNames_iff (h : d.IsFileTree) :
    names ∈ d.parquetNames root ↔ d.HasParquet root names := by
  have hending : (names.getLast?.map hasParquetEnding).getD false = true ↔
      ∃ name, names.getLast? = some name ∧ hasParquetEnding name = true := by
    cases names.getLast? <;> simp
  unfold parquetNames HasParquet
  rw [List.mem_filter, hending, mem_filesBelow_iff]
  simp only [h.mem_entries_iff]
  constructor
  · rintro ⟨⟨-, hfile⟩, hlast⟩
    exact ⟨hlast, hfile⟩
  · rintro ⟨hlast, hfile⟩
    refine ⟨⟨?_, hfile⟩, hlast⟩
    exact HasParquet.ne_nil ⟨hlast, hfile⟩

theorem isName_of_hasParquet (h : d.IsFileTree) (hnames : d.HasParquet root names) :
    ∀ name ∈ names, IsName name := by
  obtain ⟨-, content, hfile⟩ := hnames
  have hkey : d.lookup (d.target root ++ names) ≠ none := by simp [hfile]
  intro name hname
  exact h.isName_of_mem hkey name (List.mem_append_right _ hname)

theorem filesBelow_nodup (h : d.IsFileTree) (key : List String) : (d.filesBelow key).Nodup := by
  have hkeys : d.entries.Pairwise fun a b => a.1 ≠ b.1 := List.pairwise_map.1 h.keys
  have hbelow : (d.below key).Pairwise fun a b => a.1 ≠ b.1 := by
    refine hkeys.filterMap _ fun a b hne x hx y hy heq => hne ?_
    split_ifs at hx hy with ha hb
    obtain ⟨xs, hxs⟩ := List.isPrefixOf_iff_prefix.1 ha.1
    obtain ⟨ys, hys⟩ := List.isPrefixOf_iff_prefix.1 hb.1
    rw [← Option.some.inj hx, ← Option.some.inj hy] at heq
    simp only [← hxs, ← hys, List.drop_left] at heq
    rw [← hxs, ← hys, heq]
  refine hbelow.filterMap _ fun a b hne x hx y hy heq => hne ?_
  obtain ⟨names, entry⟩ := a
  obtain ⟨names', entry'⟩ := b
  cases entry <;> cases hx
  cases entry' <;> cases hy
  exact heq

/-- The relative paths of what is found are the names of the files below the root, behind
those of the root that are not recognized. -/
theorem relative_parquetFiles_perm (h : d.IsFileTree) (hroot : root ≠ "") {p : Place}
    (hsearch : d.searchRoot? root = some p) :
    ((d.parquetFiles root).map (relativeTo root)).Perm
      ((d.parquetNames root).map fun names => ofSegments (unrecognized root ++ names)) := by
  have hkey : p.key = d.target root := (searchRoot?_spec hroot hsearch).key
  have hfound : (d.parquetFiles root).Perm
      ((d.parquetNames root).map fun names => p.child (ofSegments names)) := by
    unfold parquetFiles parquetNames Path.sort
    rw [hsearch, ← hkey]
    exact List.mergeSort_perm _ _
  refine (hfound.map (relativeTo root)).trans ?_
  rw [List.map_map]
  refine .of_eq (List.map_congr_left fun names hnames => ?_)
  have hparquet := h.mem_parquetNames_iff.1 hnames
  exact relativeTo_child hroot hsearch hparquet.ne_nil (h.isName_of_hasParquet hparquet)

/-- Different files have different relative paths. -/
theorem relative_parquetFiles_nodup (h : d.IsFileTree) (hroot : root ≠ "") :
    ((d.parquetFiles root).map (relativeTo root)).Nodup := by
  cases hsearch : d.searchRoot? root with
  | none => simp [parquetFiles, hsearch]
  | some p =>
    rw [(h.relative_parquetFiles_perm hroot hsearch).nodup_iff]
    have hplain : ∀ names ∈ d.parquetNames root, ∀ name ∈ names, IsName name :=
      fun names hnames => h.isName_of_hasParquet (h.mem_parquetNames_iff.1 hnames)
    have hnodup : (d.parquetNames root).Nodup := (h.filesBelow_nodup (d.target root)).filter _
    refine List.Nodup.map_on (fun names hnames names' hnames' heq => ?_) hnodup
    exact eq_of_relative (hplain names hnames) (hplain names' hnames') heq

end IsFileTree

end FixtureMatrix.Disk
