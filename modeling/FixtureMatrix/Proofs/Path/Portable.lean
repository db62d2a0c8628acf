import FixtureMatrix.Proofs.Path.Components

/-!
# Portable paths

The portable form of a path consists of plain names, and it is the form in which a path
below a root is told.

* `isName_of_normal_mem`: the names among the steps of a path are plain.
* `stripPrefix?_eq_some_iff`: what is left of steps behind a common start.
* `portable_eq_self_iff`: paths in portable form are plain names with slashes between them.
* `exists_names_relativeTo`: the relative path of any file is in portable form.
* `portable_agrees`: below any root, a path of names is told by its portable form, and the
  portable form of what is left behind the root is that of the path.
-/

namespace FixtureMatrix.Path

variable {path name : String} {steps root rest : List Component} {names : List String}

/-! ## Names among steps -/

/-- Only the start of a path has the step of a single dot. -/
theorem ne_current_of_mem {parts : List String} {step : Component}
    (h : step ∈ parts.filterMap component?) : step ≠ .current := by
  obtain ⟨piece, -, hpiece⟩ := List.mem_filterMap.1 h
  rintro rfl
  rw [component?] at hpiece
  split_ifs at hpiece <;> cases hpiece

theorem Component.name?_eq_some_iff {step : Component} :
    step.name? = some name ↔ step = .normal name := by
  cases step <;> simp [Component.name?]

/-- The names among the steps of a path are plain. -/
theorem isName_of_normal_mem (h : .normal name ∈ components path) : IsName name := by
  rw [components_eq, List.mem_append] at h
  rcases h with hlead | hbody
  · unfold lead at hlead
    split_ifs at hlead <;> simp at hlead
  · obtain ⟨piece, hpiece, hcomponent⟩ := List.mem_filterMap.1 hbody
    unfold component? at hcomponent
    split_ifs at hcomponent with hskip hup
    · cases hcomponent
    · obtain rfl := Component.normal.inj (Option.some.inj hcomponent)
      exact isName_of_not_isSkip hskip hup (no_slash_of_mem_segments hpiece)

theorem isName_of_mem_names (hsteps : ∀ step ∈ steps, step ∈ components path)
    (h : name ∈ steps.filterMap Component.name?) : IsName name := by
  obtain ⟨step, hstep, hname⟩ := List.mem_filterMap.1 h
  obtain rfl := Component.name?_eq_some_iff.1 hname
  exact isName_of_normal_mem (hsteps _ hstep)

/-! ## Portable forms -/

theorem portableOf_append_names (steps : List Component) (names : List String) :
    portableOf (steps ++ names.map .normal) =
      ofSegments (steps.filterMap Component.name? ++ names) := by
  have hnames : (names.map Component.normal).filterMap Component.name? = names := by
    rw [List.filterMap_map]
    exact List.filterMap_some
  rw [portableOf, List.filterMap_append, hnames]

theorem components_ofSegments_names (h : ∀ name ∈ names, IsName name) :
    components (ofSegments names) = names.map .normal := by
  cases names with
  | nil => rfl
  | cons name names => exact components_ofSegments (List.cons_ne_nil name names) h

/-- The text of plain names tells them. -/
theorem ofSegments_inj {xs ys : List String} (hxs : ∀ name ∈ xs, IsName name)
    (hys : ∀ name ∈ ys, IsName name) (h : ofSegments xs = ofSegments ys) : xs = ys := by
  have hsteps := congrArg components h
  rw [components_ofSegments_names hxs, components_ofSegments_names hys] at hsteps
  exact List.map_injective_iff.2 (fun _ _ => Component.normal.inj) hsteps

/-- Plain names with slashes between them are in portable form. -/
theorem portable_ofSegments (h : ∀ name ∈ names, IsName name) :
    portable (ofSegments names) = ofSegments names := by
  rw [portable, components_ofSegments_names h]
  exact portableOf_append_names [] names

theorem exists_names_portableOf (path : String) (hsteps : ∀ step ∈ steps, step ∈ components path) :
    ∃ names, (∀ name ∈ names, IsName name) ∧ portableOf steps = ofSegments names :=
  ⟨_, fun _ hname => isName_of_mem_names hsteps hname, rfl⟩

/-- A path in portable form is plain names with slashes between them. -/
theorem portable_eq_self_iff : portable path = path ↔
    ∃ names, (∀ name ∈ names, IsName name) ∧ path = ofSegments names := by
  constructor
  · intro hportable
    obtain ⟨names, hnames, hpath⟩ := exists_names_portableOf path fun _ hstep => hstep
    exact ⟨names, hnames, hportable.symm.trans hpath⟩
  · rintro ⟨names, hnames, rfl⟩
    exact portable_ofSegments hnames

/-! ## Relative paths -/

theorem stripPrefix?_append (root steps : List Component) :
    stripPrefix? root (root ++ steps) = some steps := by
  induction root with
  | nil => rfl
  | cons step root ih => rw [List.cons_append, stripPrefix?, if_pos rfl, ih]

theorem stripPrefix?_eq_some_iff : stripPrefix? root steps = some rest ↔ steps = root ++ rest := by
  constructor
  · intro h
    induction root generalizing steps with
    | nil => exact Option.some.inj h
    | cons step root ih =>
      cases steps with
      | nil => cases h
      | cons first steps =>
        rw [stripPrefix?] at h
        split_ifs at h with hsame
        rw [hsame, ih h, List.cons_append]
  · rintro rfl
    exact stripPrefix?_append root rest

/-- The relative path of a file consists of plain names, whether or not the file is
recognized below the root. -/
theorem exists_names_relativeTo (root path : String) :
    ∃ names, (∀ name ∈ names, IsName name) ∧ relativeTo root path = ofSegments names := by
  refine exists_names_portableOf path fun step hstep => ?_
  cases hstrip : stripPrefix? (components root) (components path) with
  | none => rwa [hstrip, Option.getD_none] at hstep
  | some rest =>
    rw [hstrip, Option.getD_some] at hstep
    rw [stripPrefix?_eq_some_iff.1 hstrip]
    exact List.mem_append_right _ hstep

/-! ## Portable forms below a root -/

/-- The names among the steps of a path are its pieces that are plain names. -/
theorem names_components (path : String) :
    (components path).filterMap Component.name? = (segments path).filter (IsName ·) := by
  have hlead : (lead path).filterMap Component.name? = [] := by
    unfold lead
    split_ifs <;> rfl
  have hpiece : ∀ piece ∈ segments path,
      (component? piece).bind Component.name? = Option.guard (IsName ·) piece := by
    intro piece hmem
    by_cases hname : IsName piece
    · rw [hname.component?, Option.guard, if_pos (decide_eq_true hname)]
      rfl
    · rw [Option.guard, if_neg (by simpa using hname), component?]
      split_ifs with hskip hup
      · rfl
      · rfl
      · exact absurd (isName_of_not_isSkip hskip hup (no_slash_of_mem_segments hmem)) hname
  rw [components_eq, List.filterMap_append, hlead, List.nil_append, List.filterMap_filterMap,
    List.filterMap_congr hpiece, List.filterMap_eq_filter]

theorem components_portable (path : String) : components (portable path) =
    ((components path).filterMap Component.name?).map .normal :=
  components_ofSegments_names fun _ => isName_of_mem_names fun _ hstep => hstep

theorem lead_portable (path : String) : lead (portable path) = [] := by
  by_cases hnames : (components path).filterMap Component.name? = []
  · rw [portable, portableOf, hnames]
    rfl
  · exact lead_ofSegments hnames fun _ => isName_of_mem_names fun _ hstep => hstep

/-- A path of names alone. -/
def IsPlain (path : String) : Prop :=
  ∀ step ∈ components path, ∃ name, step = .normal name

theorem IsPlain.lead_eq (h : IsPlain path) : lead path = [] := by
  have hlead : ∀ step ∈ lead path, ∃ name, step = .normal name := fun step hstep =>
    h step (components_eq path ▸ List.mem_append_left _ hstep)
  unfold lead at hlead ⊢
  split_ifs at hlead ⊢
  · simp at hlead
  · simp at hlead
  · rfl

/-- The portable form of a path of names has its steps. -/
theorem IsPlain.components_portable (h : IsPlain path) :
    components (portable path) = components path := by
  have hname : ∀ step ∈ components path, step.name?.map Component.normal = some step := by
    intro step hstep
    obtain ⟨name, rfl⟩ := h step hstep
    rfl
  rw [Path.components_portable, List.map_filterMap, List.filterMap_congr hname, List.filterMap_some]

/-- A portable form is the plain names of a path joined by single separators and its own
portable form.  Below any root it is what a path of names is found under again, and it
leads there. -/
theorem portable_agrees :
    (∀ path, portable path = "/".intercalate ((segments path).filter (IsName ·)) ∧
      components (portable path) = ((segments path).filter (IsName ·)).map .normal ∧
      portable (portable path) = portable path) ∧
    ∀ root path, IsPlain path →
      stripPrefix? (components root) (components (join root path)) = some (components path) ∧
      relativeTo root (join root path) = portable path ∧
      components (join root (portable path)) = components (join root path) := by
  refine ⟨fun path => ⟨?_, ?_, ?_⟩, fun root path hplain => ?_⟩
  · rw [← names_components]
    rfl
  · rw [← names_components, components_portable]
  · exact portable_ofSegments fun _ => isName_of_mem_names fun _ hstep => hstep
  · have hjoin : components (join root path) = components root ++ components path :=
      components_join hplain.lead_eq
    have hstrip := stripPrefix?_append (components root) (components path)
    refine ⟨hjoin ▸ hstrip, ?_, ?_⟩
    · rw [relativeTo, hjoin, hstrip]
      rfl
    · rw [hjoin, components_join (lead_portable path), hplain.components_portable]

theorem portable_agrees_respelled :
    IsPlain "v1//dict/./a.parquet/" ∧ portable "v1//dict/./a.parquet/" = "v1/dict/a.parquet" ∧
    join "./b/..//" "v1//dict/./a.parquet/" = "./b/..//v1//dict/./a.parquet/" ∧
    relativeTo "./b/..//" "./b/..//v1//dict/./a.parquet/" = "v1/dict/a.parquet" ∧
    components (join "./b/..//" "v1/dict/a.parquet") =
      components "./b/..//v1//dict/./a.parquet/" := by
  have hplain : IsPlain "v1//dict/./a.parquet/" := by
    have hsteps : components "v1//dict/./a.parquet/" =
        ["v1", "dict", "a.parquet"].map Component.normal := by decide
    intro step hstep
    obtain ⟨name, -, rfl⟩ := List.mem_map.1 (hsteps ▸ hstep)
    exact ⟨name, rfl⟩
  have hportable : portable "v1//dict/./a.parquet/" = "v1/dict/a.parquet" := by decide
  have hjoin : join "./b/..//" "v1//dict/./a.parquet/" = "./b/..//v1//dict/./a.parquet/" := by decide
  obtain ⟨-, hrelative, hagree⟩ := portable_agrees.2 "./b/..//" _ hplain
  rw [hjoin, hportable] at hrelative hagree
  exact ⟨hplain, hportable, hjoin, hrelative, hagree⟩

end FixtureMatrix.Path
