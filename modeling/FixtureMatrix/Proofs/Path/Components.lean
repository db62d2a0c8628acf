import FixtureMatrix.Path
import Mathlib.Data.List.Basic
import Mathlib.Tactic.SplitIfs

/-!
# Steps of joined paths

A path made of plain names has these names as its steps, and a join has the
steps of both of its parts.

* `components_ofSegments`: the steps of names with slashes between them.
* `components_join`: the steps of a relative path below a root are those of the
  root followed by its own, whether or not the root ends with a slash.
-/

namespace FixtureMatrix.Path

/-! ## Pieces -/

theorem pieces_eq_splitOn (cs : List Char) : pieces cs = cs.splitOn '/' := by
  induction cs with
  | nil => rfl
  | cons c cs ih =>
    rw [List.splitOn_cons_eq_if_modifyHead, pieces, ih]
    by_cases hc : c = '/'
    · rw [if_pos hc, if_pos (beq_iff_eq.2 hc)]
    · rw [if_neg hc, if_neg (mt beq_iff_eq.1 hc)]
      obtain ⟨p, ps, hps⟩ := List.exists_cons_of_ne_nil (List.splitOn_ne_nil '/' cs)
      rw [hps, List.modifyHead_cons]

theorem segments_ne_nil (path : String) : segments path ≠ [] := by
  simp [segments, pieces_eq_splitOn]

theorem segments_ofSegments {parts : List String} (hne : parts ≠ [])
    (h : ∀ p ∈ parts, '/' ∉ p.toList) : segments (ofSegments parts) = parts := by
  have hsplit : pieces (ofSegments parts).toList = parts.map String.toList := by
    rw [pieces_eq_splitOn, ofSegments, String.toList_intercalate]
    refine List.splitOn_intercalate '/' ?_ (by simpa using hne)
    intro cs hcs
    obtain ⟨p, hp, rfl⟩ := List.mem_map.1 hcs
    exact h p hp
  rw [segments, hsplit, List.map_map]
  exact List.map_id'' (fun _ => String.ofList_toList) parts

theorem segments_slash (a b : String) : segments (a ++ "/" ++ b) = segments a ++ segments b := by
  have hlist : (a ++ "/" ++ b).toList = a.toList ++ '/' :: b.toList := by simp
  rw [segments, hlist, pieces_eq_splitOn, List.splitOn_append_cons_self, List.map_append,
    ← pieces_eq_splitOn, ← pieces_eq_splitOn]
  rfl

/-- A slash at the end starts an empty segment. -/
theorem segments_append_slash (a : String) : segments (a ++ "/") = segments a ++ [""] := by
  rw [← String.append_empty (s := a ++ "/"), segments_slash]
  rfl

/-! ## The start of a path -/

/-- The step that the start of a path stands for, if it is not a name. -/
def lead (path : String) : List Component :=
  if isAbsolute path then [.root]
  else if (segments path).head? = some "." then [.current]
  else []

theorem components_eq (path : String) :
    components path = lead path ++ (segments path).filterMap component? := by
  rw [components, lead]
  split
  · rfl
  · split <;> rfl

theorem head?_segments_of_isAbsolute {path : String} (h : isAbsolute path = true) :
    (segments path).head? = some "" := by
  obtain ⟨cs, hcs⟩ := List.head?_eq_some_iff.1 (beq_iff_eq.1 h)
  rw [segments, hcs, pieces, if_pos rfl]
  rfl

theorem isAbsolute_of_segments {path : String} {rest : List String} (hpath : path ≠ "")
    (h : segments path = "" :: rest) : isAbsolute path = true := by
  have hlist : path.toList ≠ [] := by simpa using hpath
  obtain ⟨c, cs, hcs⟩ := List.exists_cons_of_ne_nil hlist
  rw [isAbsolute, hcs]
  by_cases hc : c = '/'
  · rw [hc]
    rfl
  · rw [segments, hcs, pieces, if_neg hc] at h
    split at h <;> simp at h

theorem isAbsolute_append {a : String} (ha : a ≠ "") (b : String) :
    isAbsolute (a ++ b) = isAbsolute a := by
  have hlist : a.toList ≠ [] := by simpa using ha
  rw [isAbsolute, isAbsolute, String.toList_append, List.head?_append_of_ne_nil _ hlist]

/-! ## Joins -/

/-- Below nothing a path stands for itself. -/
theorem join_empty (path : String) : join "" path = path := by
  simp [join]

theorem isAbsolute_of_lead {path : String} (h : lead path = []) : isAbsolute path = false := by
  rw [lead] at h
  split at h
  · cases h
  · simp_all

theorem isAbsolute_join {root path : String} (hroot : root ≠ "") (hpath : isAbsolute path = false) :
    isAbsolute (join root path) = isAbsolute root := by
  unfold join
  split_ifs with hend
  · simp_all
  · rw [isAbsolute_append hroot]
  · rw [String.append_assoc, isAbsolute_append hroot]

/-- The pieces of a join are those of the root, without the empty one behind a
slash at its end, followed by those of the path. -/
theorem segments_join {root : String} (hroot : root ≠ "") :
    ∃ parts, parts ≠ [] ∧ (segments root = parts ∨ segments root = parts ++ [""]) ∧
      ∀ path, isAbsolute path = false → segments (join root path) = parts ++ segments path := by
  by_cases hslash : root.toList.getLast? = some '/'
  · obtain ⟨cs, hcs⟩ := List.getLast?_eq_some_iff.1 hslash
    have hend : root = String.ofList cs ++ "/" := by
      rw [← String.toList_inj, hcs]
      simp
    refine ⟨segments (String.ofList cs), segments_ne_nil _, Or.inr ?_, fun path hpath => ?_⟩
    · rw [hend, segments_append_slash]
    · have hjoin : join root path = root ++ path := by simp [join, hpath, hslash]
      rw [hjoin, hend, segments_slash]
  · refine ⟨segments root, segments_ne_nil _, Or.inl rfl, fun path hpath => ?_⟩
    have hjoin : join root path = root ++ "/" ++ path := by simp [join, hpath, hroot, hslash]
    rw [hjoin, segments_slash]

/-- Below a root the pieces of a relative path add their steps. -/
theorem components_join_relative {root path : String} (hroot : root ≠ "")
    (hpath : isAbsolute path = false) :
    components (join root path) = components root ++ (segments path).filterMap component? := by
  obtain ⟨parts, hparts, hsegments, hjoins⟩ := segments_join hroot
  have hjoin := hjoins path hpath
  have hhead : (segments (join root path)).head? = (segments root).head? := by
    rw [hjoin, List.head?_append_of_ne_nil _ hparts]
    rcases hsegments with h | h
    · rw [h]
    · rw [h, List.head?_append_of_ne_nil _ hparts]
  have hbody : (segments root).filterMap component? = parts.filterMap component? := by
    rcases hsegments with h | h
    · rw [h]
    · rw [h, List.filterMap_append]
      simp [component?]
  rw [components_eq, components_eq, lead, lead, isAbsolute_join hroot hpath, hhead, hbody, hjoin,
    List.filterMap_append, List.append_assoc]

theorem components_join {root path : String} (hpath : lead path = []) :
    components (join root path) = components root ++ components path := by
  have hrel := isAbsolute_of_lead hpath
  by_cases hroot : root = ""
  · rw [hroot, join_empty]
    rfl
  · rw [components_join_relative hroot hrel, components_eq path, hpath, List.nil_append]

/-- A slash at the end does not count. -/
theorem components_append_slash {a : String} (ha : a ≠ "") :
    components (a ++ "/") = components a := by
  have hhead : (segments (a ++ "/")).head? = (segments a).head? := by
    rw [segments_append_slash, List.head?_append_of_ne_nil _ (segments_ne_nil a)]
  rw [components_eq, components_eq, lead, lead, isAbsolute_append ha, hhead, segments_append_slash,
    List.filterMap_append]
  simp [component?]

/-! ## Pieces alone -/

theorem no_slash_of_mem_segments {path piece : String} (h : piece ∈ segments path) :
    '/' ∉ piece.toList := by
  have hpieces : ∀ cs : List Char, ∀ p ∈ pieces cs, '/' ∉ p := by
    intro cs
    induction cs with
    | nil => simp [pieces]
    | cons c cs ih =>
      rw [pieces]
      split_ifs with hc
      · simpa using ih
      · split
        · simpa using Ne.symm hc
        · next p ps hps =>
          rw [hps, List.forall_mem_cons] at ih
          simpa [Ne.symm hc] using ih
  obtain ⟨cs, hcs, rfl⟩ := List.mem_map.1 h
  rw [String.toList_ofList]
  exact hpieces _ cs hcs

theorem segments_piece {piece : String} (hslash : '/' ∉ piece.toList) :
    segments piece = [piece] := by
  have h := segments_ofSegments (List.cons_ne_nil piece []) (by simpa using hslash)
  rwa [ofSegments, String.intercalate_singleton] at h

theorem isAbsolute_piece {piece : String} (hslash : '/' ∉ piece.toList) :
    isAbsolute piece = false := by
  rw [isAbsolute, beq_eq_false_iff_ne]
  exact fun h => hslash (List.mem_of_mem_head? h)

/-- A piece alone has its own step. -/
theorem components_piece {piece : String} (hslash : '/' ∉ piece.toList) (hdot : piece ≠ ".") :
    components piece = (component? piece).toList := by
  rw [components_eq, lead, isAbsolute_piece hslash, segments_piece hslash]
  cases h : component? piece <;> simp [h, hdot]

/-- A piece behind a slash adds its step, if it has one. -/
theorem components_join_piece {root piece : String} (hroot : root ≠ "")
    (hslash : '/' ∉ piece.toList) :
    components (join root piece) = components root ++ (component? piece).toList := by
  rw [components_join_relative hroot (isAbsolute_piece hslash), segments_piece hslash]
  cases h : component? piece <;> simp [h]

/-! ## Names -/

/-- A plain name: one step wherever it stands in a path. -/
structure IsName (name : String) : Prop where
  ne_empty : name ≠ ""
  ne_current : name ≠ "."
  ne_parent : name ≠ ".."
  no_slash : '/' ∉ name.toList

instance (name : String) : Decidable (IsName name) :=
  decidable_of_iff (name ≠ "" ∧ name ≠ "." ∧ name ≠ ".." ∧ '/' ∉ name.toList)
    ⟨fun ⟨hempty, hcurrent, hparent, hslash⟩ => ⟨hempty, hcurrent, hparent, hslash⟩,
      fun h => ⟨h.ne_empty, h.ne_current, h.ne_parent, h.no_slash⟩⟩

/-- A text without slashes is a name if it does not consist of dots. -/
theorem isName_of_mem {name : String} {c : Char} (hc : c ∈ name.toList) (hdot : c ≠ '.')
    (hslash : '/' ∉ name.toList) : IsName name := by
  refine ⟨?_, ?_, ?_, hslash⟩
  · rintro rfl
    simp at hc
  · rintro rfl
    simp [hdot] at hc
  · rintro rfl
    simp [hdot] at hc

/-- Empty pieces and single dots lead nowhere. -/
def IsSkip (piece : String) : Prop :=
  piece = "" ∨ piece = "."

theorem IsName.not_isSkip {name : String} (h : IsName name) : ¬ IsSkip name :=
  not_or.2 ⟨h.ne_empty, h.ne_current⟩

/-- Pieces that lead down are plain names. -/
theorem isName_of_not_isSkip {piece : String} (hskip : ¬ IsSkip piece) (hup : piece ≠ "..")
    (hslash : '/' ∉ piece.toList) : IsName piece := by
  obtain ⟨hempty, hdot⟩ := not_or.1 hskip
  exact ⟨hempty, hdot, hup, hslash⟩

/-- Pieces one by one: those that lead nowhere, steps up, and steps down, where the
last one is told from those with pieces behind. -/
@[elab_as_elim]
theorem pieces_induction {motive : List String → Prop} (nil : motive [])
    (skip : ∀ piece rest, IsSkip piece → motive rest → motive (piece :: rest))
    (up : ∀ rest, motive rest → motive (".." :: rest))
    (last : ∀ piece, ¬ IsSkip piece → piece ≠ ".." → motive [piece])
    (down : ∀ piece rest, ¬ IsSkip piece → piece ≠ ".." → rest ≠ [] → motive rest →
      motive (piece :: rest)) (pieces : List String) : motive pieces := by
  induction pieces with
  | nil => exact nil
  | cons piece rest ih =>
    by_cases hskip : IsSkip piece
    · exact skip piece rest hskip ih
    by_cases hup : piece = ".."
    · rw [hup]
      exact up rest ih
    by_cases hlast : rest = []
    · rw [hlast]
      exact last piece hskip hup
    · exact down piece rest hskip hup hlast ih

theorem IsName.component? {name : String} (h : IsName name) :
    component? name = some (.normal name) := by
  rw [Path.component?, if_neg (not_or.2 ⟨h.ne_empty, h.ne_current⟩), if_neg h.ne_parent]

theorem lead_ofSegments {parts : List String} (hne : parts ≠ []) (h : ∀ p ∈ parts, IsName p) :
    lead (ofSegments parts) = [] := by
  have hsegments := segments_ofSegments hne fun p hp => (h p hp).no_slash
  obtain ⟨p, ps, rfl⟩ := List.exists_cons_of_ne_nil hne
  have hname := h p List.mem_cons_self
  rw [lead, if_neg, if_neg]
  · rw [hsegments]
    exact fun hp => hname.ne_current (Option.some.inj hp)
  · intro habs
    have hp := head?_segments_of_isAbsolute habs
    rw [hsegments] at hp
    exact hname.ne_empty (Option.some.inj hp)

theorem components_ofSegments {parts : List String} (hne : parts ≠ [])
    (h : ∀ p ∈ parts, IsName p) : components (ofSegments parts) = parts.map .normal := by
  rw [components_eq, lead_ofSegments hne h, List.nil_append,
    segments_ofSegments hne fun p hp => (h p hp).no_slash,
    List.filterMap_eq_map_iff_forall_eq_some]
  exact fun p hp => (h p hp).component?

/-- The name of a file in a directory below a root. -/
theorem fileName?_join {root name : String} {dirs : List String}
    (h : ∀ p ∈ dirs ++ [name], IsName p) :
    fileName? (join root (ofSegments (dirs ++ [name]))) = some name := by
  have hne : dirs ++ [name] ≠ [] := by simp
  rw [fileName?, components_join (lead_ofSegments hne h), components_ofSegments hne h]
  simp [Component.name?]

end FixtureMatrix.Path
