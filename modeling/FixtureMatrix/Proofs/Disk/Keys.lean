import FixtureMatrix.Disk.Operations
import FixtureMatrix.Proofs.Outcome
import FixtureMatrix.Proofs.Path.Components

/-!
# Keys of paths

A path is walked through directories that have to exist, but where it leads is
a matter of its pieces alone: there are no links.

* `resolve_eq_target`: a path that can be walked leads to its `target`.
* `target_join`, `target_join_names`: the target of a join goes on from the
  target of the root.
* `resolve_mono`: a path can be walked as long as the directories on it stay.
-/

namespace FixtureMatrix.Disk

open FixtureMatrix.Path

variable {d d' : Disk} {path : String} {key key' : List String} {pieces : List String}

/-! ## Targets -/

/-- The key a piece leads to. -/
def step (key : List String) (piece : String) : List String :=
  if piece = "" ∨ piece = "." then key
  else if piece = ".." then key.dropLast
  else key ++ [piece]

/-- The key a path leads to, whatever stands on the way. -/
def target (d : Disk) (path : String) : List String :=
  (segments path).foldl step (d.start path)

theorem step_skip {piece : String} (h : IsSkip piece) (key : List String) :
    step key piece = key :=
  if_pos h

theorem step_down {piece : String} (hskip : ¬ IsSkip piece) (hup : piece ≠ "..")
    (key : List String) : step key piece = key ++ [piece] :=
  (if_neg hskip).trans (if_neg hup)

theorem foldl_step_names {names : List String} (h : ∀ name ∈ names, IsName name)
    (key : List String) : names.foldl step key = key ++ names := by
  induction names generalizing key with
  | nil => rw [List.foldl_nil, List.append_nil]
  | cons name names ih =>
    obtain ⟨hname, hnames⟩ := List.forall_mem_cons.1 h
    rw [List.foldl_cons, step_down hname.not_isSkip hname.ne_parent, ih hnames,
      List.append_assoc, List.singleton_append]

/-- Below a root the pieces are followed from the root's target on. -/
theorem target_join (d : Disk) {root : String} (hroot : root ≠ "")
    (hpath : isAbsolute path = false) :
    d.target (join root path) = (segments path).foldl step (d.target root) := by
  obtain ⟨parts, -, hsegments, hjoins⟩ := segments_join hroot
  have hjoin := hjoins path hpath
  have hparts : (segments root).foldl step (d.start root) = parts.foldl step (d.start root) := by
    rcases hsegments with h | h
    · rw [h]
    · rw [h, List.foldl_append, List.foldl_cons, List.foldl_nil, step_skip (Or.inl rfl)]
  rw [target, target, hjoin, List.foldl_append, hparts, start, start,
    isAbsolute_join hroot hpath]

/-- Names below a root are the end of the key. -/
theorem target_join_names (d : Disk) (root : String) {names : List String}
    (hne : names ≠ []) (hnames : ∀ name ∈ names, IsName name) :
    d.target (join root (ofSegments names)) = d.target root ++ names := by
  have hsegments := segments_ofSegments hne fun name h => (hnames name h).no_slash
  have hrel := isAbsolute_of_lead (lead_ofSegments hne hnames)
  by_cases hroot : root = ""
  · have hempty : d.target "" = d.workingDirectory := rfl
    rw [hroot, join_empty, hempty, target, hsegments, start, hrel, foldl_step_names hnames]
    rfl
  · rw [target_join d hroot hrel, hsegments, foldl_step_names hnames]

/-- A join with an empty path leads where the root does. -/
theorem target_join_empty (d : Disk) (root : String) : d.target (join root "") = d.target root := by
  by_cases hroot : root = ""
  · rw [hroot, join_empty]
  · rw [target_join d hroot rfl]
    rfl

theorem target_join_ofSegments (d : Disk) (root : String) {names : List String}
    (hnames : ∀ name ∈ names, IsName name) :
    d.target (join root (ofSegments names)) = d.target root ++ names := by
  by_cases hne : names = []
  · rw [hne, List.append_nil]
    exact target_join_empty d root
  · exact target_join_names d root hne hnames

theorem target_congr (h : d'.workingDirectory = d.workingDirectory) (path : String) :
    d'.target path = d.target path := by
  rw [target, target, start, start, h]

/-! ## Walks -/

theorem walk_skip {piece : String} (h : IsSkip piece) (d : Disk) (key rest : List String) :
    d.walk key (piece :: rest) = d.walk key rest := by
  have hskip : piece = "" ∨ piece = "." := h
  rw [walk, if_pos hskip]

theorem walk_up (d : Disk) (key rest : List String) :
    d.walk key (".." :: rest) = d.walk key.dropLast rest := by
  rw [walk, if_neg (by decide), if_pos rfl]

theorem walk_last {piece : String} (hskip : ¬ IsSkip piece) (hup : piece ≠ "..") (d : Disk)
    (key : List String) : d.walk key [piece] = .ok (key ++ [piece]) := by
  have hname : ¬ (piece = "" ∨ piece = ".") := hskip
  rw [walk, if_neg hname, if_neg hup]
  rfl

theorem walk_down {piece : String} (hskip : ¬ IsSkip piece) (hup : piece ≠ "..")
    (hrest : pieces ≠ []) (d : Disk) (key : List String) :
    d.walk key (piece :: pieces) =
      match d.lookup (key ++ [piece]) with
      | some .directory => d.walk (key ++ [piece]) pieces
      | some (.file _) => .error .notDirectory
      | none => .error .notFound := by
  have hname : ¬ (piece = "" ∨ piece = ".") := hskip
  rw [walk, if_neg hname, if_neg hup]
  exact if_neg hrest

/-- A name with pieces behind it is walked through a directory. -/
theorem walk_down_eq_ok_iff {piece : String} (hskip : ¬ IsSkip piece) (hup : piece ≠ "..")
    (hrest : pieces ≠ []) :
    d.walk key (piece :: pieces) = .ok key' ↔
      d.lookup (key ++ [piece]) = some .directory ∧ d.walk (key ++ [piece]) pieces = .ok key' := by
  rw [walk_down hskip hup hrest]
  split <;> simp_all

theorem walk_eq_foldl (h : d.walk key pieces = .ok key') : key' = pieces.foldl step key := by
  induction pieces using pieces_induction generalizing key with
  | nil => exact (Except.ok.inj h).symm
  | skip piece rest hskip ih =>
    rw [walk_skip hskip] at h
    rw [List.foldl_cons, step_skip hskip]
    exact ih h
  | up rest ih =>
    rw [walk_up] at h
    exact ih h
  | last piece hskip hup =>
    rw [walk_last hskip hup] at h
    rw [List.foldl_cons, List.foldl_nil, step_down hskip hup]
    exact (Except.ok.inj h).symm
  | down piece rest hskip hup hrest ih =>
    rw [List.foldl_cons, step_down hskip hup]
    exact ih ((walk_down_eq_ok_iff hskip hup hrest).1 h).2

/-- A path that can be walked leads to its target. -/
theorem resolve_eq_target (h : d.resolve path = .ok key) : key = d.target path := by
  rw [resolve] at h
  split_ifs at h
  exact walk_eq_foldl h

/-- Directories of one disk are directories of another. -/
def KeepsDirectories (d d' : Disk) : Prop :=
  ∀ key, d.lookup key = some .directory → d'.lookup key = some .directory

theorem walk_mono (hkeep : KeepsDirectories d d') (h : d.walk key pieces = .ok key') :
    d'.walk key pieces = .ok key' := by
  induction pieces using pieces_induction generalizing key with
  | nil => exact h
  | skip piece rest hskip ih =>
    rw [walk_skip hskip] at h ⊢
    exact ih h
  | up rest ih =>
    rw [walk_up] at h ⊢
    exact ih h
  | last piece hskip hup =>
    rw [walk_last hskip hup] at h ⊢
    exact h
  | down piece rest hskip hup hrest ih =>
    obtain ⟨hdirectory, hwalk⟩ := (walk_down_eq_ok_iff hskip hup hrest).1 h
    exact (walk_down_eq_ok_iff hskip hup hrest).2 ⟨hkeep _ hdirectory, ih hwalk⟩

theorem resolve_mono (hkeep : KeepsDirectories d d')
    (hworking : d'.workingDirectory = d.workingDirectory) (h : d.resolve path = .ok key) :
    d'.resolve path = .ok key := by
  rw [resolve] at h ⊢
  split_ifs at h ⊢ with hempty
  rw [start, hworking]
  exact walk_mono hkeep h

end FixtureMatrix.Disk
