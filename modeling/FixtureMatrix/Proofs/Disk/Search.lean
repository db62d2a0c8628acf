import FixtureMatrix.Disk.Search
import FixtureMatrix.Proofs.Disk.Keys
import FixtureMatrix.Proofs.Path.Portable

/-!
# What a search finds

A search follows the pieces of its root and keeps them as text, but for single
dots before the first name.

* `searchRoot?_spec`: the search starts at the target of its root, with the
  steps of the root but a leading dot.
* `relativeTo_child`: a file found below a root has its names as its relative
  path, but where the missing dot matters the names of the root stand in front.
* `mem_parquetFiles_iff`: what is found are the files below the root with the
  ending searched for.
-/

namespace FixtureMatrix

open FixtureMatrix.Path

namespace Disk

/-! ## Following the pieces of a root -/

namespace Place

variable {p : Place} {name : String}

/-- The steps of a place's text. -/
def steps (p : Place) : List Component :=
  (p.text.map components).getD []

theorem components_child (htext : p.text ≠ some "") (hslash : '/' ∉ name.toList)
    (hdot : name ≠ ".") : components (p.child name) = p.steps ++ (component? name).toList := by
  obtain ⟨key, text⟩ := p
  cases text with
  | none => exact components_piece hslash hdot
  | some text => exact components_join_piece (fun h => htext (h ▸ rfl)) hslash

theorem components_child_names (htext : p.text ≠ some "") {names : List String} (hne : names ≠ [])
    (h : ∀ name ∈ names, IsName name) :
    components (p.child (ofSegments names)) = p.steps ++ names.map .normal := by
  obtain ⟨key, text⟩ := p
  cases text with
  | none => exact components_ofSegments hne h
  | some text =>
    have hjoin : components (join text (ofSegments names)) = _ :=
      components_join (lead_ofSegments hne h)
    rw [components_ofSegments hne h] at hjoin
    exact hjoin

end Place

/-- A place reached from a start by following pieces. -/
structure Reached (start : List String) (lead : List Component) (pieces : List String)
    (p : Place) : Prop where
  key : p.key = pieces.foldl step start
  text : p.text ≠ some ""
  steps : p.steps = lead ++ pieces.filterMap component?

variable {d : Disk} {p q : Place} {root : String} {start pieces : List String}
  {lead : List Component}

theorem Place.child_ne_empty {name : String} (h : name ≠ "") : some (p.child name) ≠ some "" := by
  obtain ⟨key, text⟩ := p
  cases text with
  | none => simpa [Place.child] using h
  | some text =>
    simp only [Place.child, Path.join]
    split_ifs <;> simp [h]

theorem Reached.extend {piece : String} (h : Reached start lead pieces p)
    (hkey : q.key = step p.key piece) (htext : q.text ≠ some "")
    (hsteps : q.steps = p.steps ++ (component? piece).toList) :
    Reached start lead (pieces ++ [piece]) q where
  key := by rw [hkey, h.key, List.foldl_append, List.foldl_cons, List.foldl_nil]
  text := htext
  steps := by
    rw [hsteps, h.steps, List.filterMap_append, List.append_assoc]
    cases hstep : component? piece <;> simp [hstep]

/-- One more piece adds its step, be it followed from some text or from none. -/
theorem Reached.follow {piece : String} (h : Reached start lead pieces p)
    (hslash : '/' ∉ piece.toList) (hfollow : d.follow? p piece = some q) :
    Reached start lead (pieces ++ [piece]) q := by
  obtain ⟨key, text⟩ := p
  rw [follow?] at hfollow
  split at hfollow
  swap
  · cases hfollow
  by_cases hempty : piece = ""
  · subst hempty
    rw [if_pos rfl] at hfollow
    cases text with
    | none => cases hfollow
    | some text =>
      obtain rfl := Option.some.inj hfollow
      have htext : text ≠ "" := fun heq => h.text (heq ▸ rfl)
      refine h.extend rfl (by simp) ?_
      simp [Place.steps, components_append_slash htext, component?]
  by_cases hdot : piece = "."
  · subst hdot
    rw [if_neg hempty, if_pos rfl] at hfollow
    cases text with
    | none =>
      obtain rfl := Option.some.inj hfollow
      exact h.extend rfl h.text (by simp [component?])
    | some text =>
      obtain rfl := Option.some.inj hfollow
      have htext : text ≠ "" := fun heq => h.text (heq ▸ rfl)
      refine h.extend rfl (Place.child_ne_empty (p := ⟨key, some text⟩) hempty) ?_
      exact components_join_piece htext hslash
  rw [if_neg hempty, if_neg hdot] at hfollow
  by_cases hup : piece = ".."
  · subst hup
    rw [if_pos rfl] at hfollow
    obtain rfl := Option.some.inj hfollow
    exact h.extend rfl (Place.child_ne_empty hempty) (Place.components_child h.text hslash hdot)
  · rw [if_neg hup] at hfollow
    split at hfollow
    · obtain rfl := Option.some.inj hfollow
      have hkey : key ++ [piece] = step key piece := by
        rw [step, if_neg (not_or.2 ⟨hempty, hdot⟩), if_neg hup]
      exact h.extend hkey (Place.child_ne_empty hempty) (Place.components_child h.text hslash hdot)
    · cases hfollow

theorem Reached.foldlM {more : List String} (h : Reached start lead pieces p)
    (hslash : ∀ piece ∈ more, '/' ∉ piece.toList) (hfold : more.foldlM d.follow? p = some q) :
    Reached start lead (pieces ++ more) q := by
  induction more generalizing pieces p with
  | nil =>
    rw [List.append_nil, ← Option.some.inj hfold]
    exact h
  | cons piece more ih =>
    obtain ⟨hpiece, hmore⟩ := List.forall_mem_cons.1 hslash
    rw [List.foldlM_cons] at hfold
    obtain ⟨next, hnext, hrest⟩ := Option.bind_eq_some_iff.1 hfold
    have happend : pieces ++ piece :: more = pieces ++ [piece] ++ more := by simp
    rw [happend]
    exact ih (h.follow hpiece hnext) hmore hrest

/-! ## The start of a search -/

/-- The first step of an absolute path. -/
def rootStep (root : String) : List Component :=
  if isAbsolute root then [.root] else []

/-- A search starts at the target of its root, with the steps of the root but a
leading dot. -/
theorem searchRoot?_spec (hroot : root ≠ "") (h : d.searchRoot? root = some p) :
    Reached (d.start root) (rootStep root) (segments root) p := by
  have hslash : ∀ piece ∈ segments root, '/' ∉ piece.toList := fun _ => no_slash_of_mem_segments
  rw [searchRoot?] at h
  split at h
  · cases h
  · next rest hsegments =>
    have habs := isAbsolute_of_segments hroot hsegments
    rw [hsegments] at hslash ⊢
    rw [start, rootStep, habs]
    have hfirst : Reached [] [.root] [""] ⟨[], some "/"⟩ := ⟨rfl, by decide, by decide⟩
    exact hfirst.foldlM (List.forall_mem_cons.1 hslash).2 h
  · next hsegments =>
    have hrel : isAbsolute root = false := by
      rw [Bool.eq_false_iff]
      intro habs
      obtain ⟨rest, hrest⟩ := List.head?_eq_some_iff.1 (head?_segments_of_isAbsolute habs)
      exact hsegments rest hrest
    rw [start, rootStep, hrel]
    have hfirst : Reached d.workingDirectory [] [] ⟨d.workingDirectory, none⟩ :=
      ⟨rfl, by simp, rfl⟩
    exact hfirst.foldlM hslash h

/-! ## Relative paths of what is found -/

/-- The names of a root that a search does not recognize in front of what it
finds, as it leaves the leading dot of the root out. -/
def unrecognized (root : String) : List String :=
  if (components root).head? = some .current then (components root).filterMap Component.name?
  else []

/-- The relative path of a file found below a root: its names, behind those of
the root that are not recognized. -/
theorem relativeTo_child (hroot : root ≠ "") (h : d.searchRoot? root = some p)
    {names : List String} (hne : names ≠ []) (hnames : ∀ name ∈ names, IsName name) :
    relativeTo root (p.child (ofSegments names)) = ofSegments (unrecognized root ++ names) := by
  have hspec := searchRoot?_spec hroot h
  have hfound := Place.components_child_names hspec.text hne hnames
  rw [hspec.steps] at hfound
  have hsteps := components_eq root
  rw [relativeTo, hfound]
  by_cases habs : isAbsolute root = true
  · have hsame : components root = rootStep root ++ (segments root).filterMap component? := by
      rw [hsteps, Path.lead, rootStep, if_pos habs, if_pos habs]
    have hhead : (components root).head? ≠ some .current := by
      rw [hsame, rootStep, if_pos habs]
      simp
    rw [unrecognized, if_neg hhead, ← hsame, stripPrefix?_append, Option.getD_some]
    exact portableOf_append_names [] names
  rw [rootStep, if_neg habs, List.nil_append]
  have hcurrent : ∀ step ∈ (segments root).filterMap component? ++ names.map .normal,
      Component.current ≠ step := by
    intro step hstep
    rcases List.mem_append.1 hstep with hbody | hname
    · exact (ne_current_of_mem hbody).symm
    · obtain ⟨name, -, rfl⟩ := List.mem_map.1 hname
      simp
  by_cases hdot : (segments root).head? = some "."
  · have hlead : components root = .current :: (segments root).filterMap component? := by
      rw [hsteps, Path.lead, if_neg habs, if_pos hdot]
      rfl
    have hstrip : stripPrefix? (components root)
        ((segments root).filterMap component? ++ names.map .normal) = none := by
      rw [hlead]
      cases hfirst : (segments root).filterMap component? ++ names.map .normal with
      | nil => rfl
      | cons step rest =>
        rw [stripPrefix?, if_neg (hcurrent step (hfirst ▸ List.mem_cons_self))]
    rw [hstrip, Option.getD_none, portableOf_append_names, unrecognized, hlead,
      List.head?_cons, if_pos rfl]
    rfl
  · have hsame : components root = (segments root).filterMap component? := by
      rw [hsteps, Path.lead, if_neg habs, if_neg hdot, List.nil_append]
    have hhead : (components root).head? ≠ some .current := by
      intro hhead
      rw [hsame] at hhead
      exact hcurrent _ (List.mem_append_left _ (List.mem_of_mem_head? hhead)) rfl
    rw [unrecognized, if_neg hhead, ← hsame, stripPrefix?_append, Option.getD_some]
    exact portableOf_append_names [] names

/-! ## Files below a root -/

theorem mem_filesBelow_iff {key names : List String} :
    names ∈ d.filesBelow key ↔
      names ≠ [] ∧ ∃ content, (key ++ names, Entry.file content) ∈ d.entries := by
  simp only [filesBelow, below, List.mem_filterMap]
  constructor
  · rintro ⟨⟨names', e⟩, ⟨⟨k, e'⟩, hmem, hbelow⟩, hfile⟩
    split_ifs at hbelow with hkey
    obtain ⟨rfl, rfl⟩ := Prod.mk.inj (Option.some.inj hbelow)
    obtain ⟨tail, rfl⟩ := List.isPrefixOf_iff_prefix.1 hkey.1
    rw [List.drop_left] at hfile
    cases e' with
    | directory => cases hfile
    | file content =>
      obtain rfl := Option.some.inj hfile
      refine ⟨fun hnil => hkey.2 ?_, content, hmem⟩
      exact (congrArg (key ++ ·) hnil).trans (List.append_nil key)
  · rintro ⟨hne, content, hmem⟩
    refine ⟨(names, .file content), ⟨(key ++ names, .file content), hmem, ?_⟩, rfl⟩
    have hbelow : key.isPrefixOf (key ++ names) = true :=
      List.isPrefixOf_iff_prefix.2 (List.prefix_append key names)
    rw [if_pos ⟨hbelow, by simpa using hne⟩, List.drop_left]

theorem mem_parquetFiles_iff {path : String} :
    path ∈ d.parquetFiles root ↔
      ∃ p names, d.searchRoot? root = some p ∧ names ∈ d.filesBelow p.key ∧
        (names.getLast?.map hasParquetEnding).getD false = true ∧
        path = p.child (ofSegments names) := by
  rw [parquetFiles]
  cases hsearch : d.searchRoot? root with
  | none => simp
  | some p =>
    simp only [Path.sort, List.mem_mergeSort, List.mem_map, List.mem_filter]
    constructor
    · rintro ⟨names, ⟨hfile, hending⟩, rfl⟩
      exact ⟨p, names, rfl, hfile, hending, rfl⟩
    · rintro ⟨q, names, hq, hfile, hending, rfl⟩
      obtain rfl := Option.some.inj hq
      exact ⟨names, ⟨hfile, hending⟩, rfl⟩

end Disk

end FixtureMatrix
