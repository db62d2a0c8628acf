import FixtureMatrix.Proofs.Disk.Levels
import FixtureMatrix.Proofs.Matrix.Rerun

/-!
# The order of settings

Settings that differ in the order of their lists plan the same jobs in another
order.  Jobs do not get in each other's way, so what one order leaves the other
can reach: every job is settled there, and its directories are there.

* `jobs_perm`: the plans of reordered settings.
* `execute_within`: jobs that are settled on a disk can be generated on the way
  to it, in any order.
* `execute_perm`: two orders leave the same tree and complete the same jobs.
* `run_reordered`: the runs of reordered settings.
-/

namespace FixtureMatrix

open FixtureMatrix.Path

/-! ## Settings in another order -/

theorem eq_nil_iff_of_perm {α : Type} {xs ys : List α} (h : xs.Perm ys) : xs = [] ↔ ys = [] := by
  constructor
  · rintro rfl
    exact h.nil_eq.symm
  · rintro rfl
    exact h.eq_nil

/-- Settings that differ at most in the order of their lists. -/
structure MatrixConfig.Reordered (c c' : MatrixConfig) : Prop where
  output : c'.output = c.output
  matrix : c'.matrix = c.matrix
  pageVersions : c'.pageVersions.Perm c.pageVersions
  dictionary : c'.dictionary.Perm c.dictionary
  codecs : c'.codecs.Perm c.codecs
  enabled : c'.benchmarks.enabled = c.benchmarks.enabled
  minExponent : c'.benchmarks.minExponent = c.benchmarks.minExponent
  maxExponent : c'.benchmarks.maxExponent = c.benchmarks.maxExponent
  step : c'.benchmarks.step = c.benchmarks.step
  explicitSizes : c'.benchmarks.explicitSizes.Perm c.benchmarks.explicitSizes

namespace MatrixConfig

variable {c c' : MatrixConfig} {jobs : List Job}

theorem Reordered.symm (h : c.Reordered c') : c'.Reordered c where
  output := h.output.symm
  matrix := h.matrix.symm
  pageVersions := h.pageVersions.symm
  dictionary := h.dictionary.symm
  codecs := h.codecs.symm
  enabled := h.enabled.symm
  minExponent := h.minExponent.symm
  maxExponent := h.maxExponent.symm
  step := h.step.symm
  explicitSizes := h.explicitSizes.symm

/-- The verdict on settings does not depend on their order. -/
theorem Reordered.validate (h : c.Reordered c') (hvalid : c.validate = .ok ()) :
    c'.validate = .ok () := by
  rw [validate_eq_ok_iff, checkMatrix_eq_ok_iff, checkBenchmarks_eq_ok_iff] at hvalid ⊢
  rw [h.matrix, h.enabled, h.minExponent, h.maxExponent, h.step, h.pageVersions.nodup_iff,
    h.dictionary.nodup_iff, h.codecs.nodup_iff, h.explicitSizes.nodup_iff,
    h.explicitSizes.mem_iff]
  simpa only [ne_eq, eq_nil_iff_of_perm h.pageVersions, eq_nil_iff_of_perm h.dictionary,
    eq_nil_iff_of_perm h.codecs, eq_nil_iff_of_perm h.explicitSizes] using hvalid

theorem Reordered.mem_sizes (h : c.Reordered c') (rows : Nat) :
    rows ∈ c'.benchmarks.sizes ↔ rows ∈ c.benchmarks.sizes := by
  simp only [BenchConfig.sizes, ne_eq, eq_nil_iff_of_perm h.explicitSizes, h.step, h.minExponent,
    h.maxExponent]
  split_ifs
  · exact Iff.rfl
  · exact Iff.rfl
  · exact h.explicitSizes.mem_iff

/-- Reordered settings plan the same jobs, in some order. -/
theorem jobs_perm (h : c.Reordered c') (hjobs : c.jobs .all = .ok jobs) :
    ∃ jobs', c'.jobs .all = .ok jobs' ∧ jobs'.Perm jobs := by
  obtain ⟨hvalid, hplan⟩ := jobs_eq_ok_iff.1 hjobs
  have hvalid' := h.validate hvalid
  obtain ⟨hsizes, hall⟩ := plan_eq_ok_iff.1 hplan
  have hsizes' : c'.benchmarks.enabled = true →
      ∀ rows ∈ c'.benchmarks.sizes, 0 < rows ∧ benchTileRows ∣ rows := by
    rw [h.enabled]
    exact fun hon rows hrows => hsizes hon rows ((h.mem_sizes rows).1 hrows)
  have hplan' := plan_eq_ok_iff.2 ⟨hsizes', rfl⟩
  refine ⟨_, jobs_eq_ok_iff.2 ⟨hvalid', hplan'⟩, ?_⟩
  have hnodup := (places_nodup hvalid hplan).of_map
  have hnodup' := (places_nodup hvalid' hplan').of_map
  rw [List.perm_ext_iff_of_nodup hnodup' hnodup, hall]
  intro j
  simp only [List.mem_append, List.mem_ite_nil_right, mem_planFull_iff, mem_benches_iff, h.matrix,
    h.enabled, h.mem_sizes, h.pageVersions.mem_iff, h.dictionary.mem_iff, h.codecs.mem_iff]

end MatrixConfig

/-! ## On the way to a larger disk -/

/-- A tree within a larger disk that has the base of the output root already. -/
structure Disk.OnTheWay (base : String) (e f : Disk) : Prop where
  isTree : e.IsTree
  hasDirectory : e.HasDirectory base
  within : e.Within f

variable {enc : Encoder} {contents : EncodeRequest → Option ByteArray} {output base : String}
  {w w' v : World enc.State} {e f : Disk} {c : Completion}

namespace Job

variable {j : Job}

theorem parent?_path (hbase : IsBase base output) (hj : j.Planned) :
    parent? (j.path output) = some (levelPath base output j.profile.segments) :=
  hbase j.profile.segments j.fileName (isName_of_mem_steps hj)

theorem isName_of_mem_segments (hj : j.Planned) : ∀ n ∈ j.profile.segments, IsName n :=
  (List.forall_mem_append.1 (isName_of_mem_steps hj)).1

/-- What is done for a job, with its directory below the base of the output root. -/
theorem generate_below_iff (henc : enc.writesFiles = true) (hbase : IsBase base output)
    (hj : j.Planned) : j.generate enc output w = (w', .ok c) ↔
      ∃ r prepared a, j.request output = .ok r ∧
        w.disk.createDirectories (levelPath base output j.profile.segments) = .ok prepared ∧
        enc.encode r { w with disk := prepared } = (w', .ok ()) ∧ j.record r w'.disk = .ok a ∧
        c = ⟨j, r.numRows, some a⟩ := by
  rw [generate_eq_ok_iff henc]
  refine exists_congr fun r => exists_congr fun prepared => exists_congr fun a => ?_
  refine and_congr_right fun hrequest => ?_
  rw [path_of_request hrequest, prepare_eq_ok_iff henc (parent?_path hbase hj)]

theorem generate_isTree (henc : enc.FollowsRequest contents) (hbase : IsBase base output)
    (hj : j.Planned) (htree : w.disk.IsTree) (h : j.generate enc output w = (w', .ok c)) :
    w'.disk.IsTree := by
  obtain ⟨r, prepared, a, -, hcreated, hencode, -, -⟩ :=
    (generate_below_iff henc.writesFiles hbase hj).1 h
  obtain ⟨bytes, written, -, hwrite, hsame⟩ := henc.encode_eq_ok hencode
  exact hsame.isTree ((htree.createDirectories hcreated).writeFile hwrite)

/-- The base of the output root is created before the first file. -/
theorem exists_base_of_generate (henc : enc.writesFiles = true) (hbase : IsBase base output)
    (hj : j.Planned) (htree : w.disk.IsTree) (h : j.generate enc output w = (w', .ok c)) :
    ∃ created, w.disk.createDirectories base = .ok created := by
  obtain ⟨r, prepared, a, -, hcreated, -, -, -⟩ := (generate_below_iff henc hbase hj).1 h
  exact Disk.exists_createDirectories_base hbase htree (isName_of_mem_segments hj) hcreated

/-- A job is generated in the same way once that base is there. -/
theorem generate_base_iff (henc : enc.writesFiles = true) (hbase : IsBase base output)
    (hj : j.Planned) (htree : w.disk.IsTree) {created : Disk}
    (hcreated : w.disk.createDirectories base = .ok created) :
    j.generate enc output w = (w', .ok c) ↔
      j.generate enc output { w with disk := created } = (w', .ok c) := by
  rw [generate_below_iff henc hbase hj, generate_below_iff henc hbase hj]
  simp only [Disk.createDirectories_levelPath_iff hbase htree hcreated (isName_of_mem_segments hj)]

/-- The file of a settled job stands at its target. -/
theorem SettledOn.lookup (h : j.SettledOn contents output f c) :
    ∃ r bytes, j.request output = .ok r ∧ contents r = some bytes ∧
      f.lookup (f.target (j.path output)) = some (.file bytes) := by
  obtain ⟨r, bytes, hrequest, hbytes, hread, -, -⟩ := h
  exact ⟨r, bytes, hrequest, hbytes, (Disk.readFile_eq_ok_iff.1 hread).2⟩

/-- Where a job is settled on two disks, its file has the same content. -/
theorem SettledOn.lookup_eq {c' : Completion} (h : j.SettledOn contents output e c)
    (h' : j.SettledOn contents output f c') :
    f.lookup (f.target (j.path output)) = e.lookup (e.target (j.path output)) := by
  obtain ⟨r, bytes, hrequest, hbytes, hlookup⟩ := h.lookup
  obtain ⟨r', bytes', hrequest', hbytes', hlookup'⟩ := h'.lookup
  rw [hrequest] at hrequest'
  obtain rfl := Except.ok.inj hrequest'
  rw [hbytes] at hbytes'
  obtain rfl := Option.some.inj hbytes'
  rw [hlookup, hlookup']

/-- Where the file of a job stands on a tree, there are all the directories above. -/
theorem lookup_level (hj : j.Planned) (hf : f.IsTree)
    (hplace : f.lookup (f.target (j.path output)) ≠ none) :
    ∀ init, init <+: j.profile.segments → f.lookup (f.target output ++ init) = some .directory := by
  rintro init ⟨behind, hbehind⟩
  have hbelow : behind ++ [j.fileName] ≠ [] := by simp
  rw [target_path hj, names, ← hbehind, List.append_assoc, ← List.append_assoc] at hplace
  exact hf.ancestors hbelow hplace

/-- A job that is settled on a disk can be generated on the way to it. -/
theorem generate_within (henc : enc.FollowsRequest contents) (hbase : IsBase base output)
    (hj : j.Planned) (hf : f.IsTree) (hsettled : j.SettledOn contents output f c)
    (h : v.disk.OnTheWay base f) :
    ∃ v', j.generate enc output v = (v', .ok c) ∧ v'.disk.OnTheWay base f := by
  obtain ⟨r, bytes, hrequest, hbytes, hread, -, rfl⟩ := hsettled
  have hplace := (Disk.readFile_eq_ok_iff.1 hread).2
  have hparent := parent?_path hbase hj
  have hsome : f.lookup (f.target (j.path output)) ≠ none := by simp [hplace]
  have hlevels := lookup_level hj hf hsome
  rw [h.within.target] at hlevels
  obtain ⟨prepared, hprepared, hwithin⟩ := Disk.createDirectories_levelPath_within hbase h.isTree
    h.hasDirectory h.within (isName_of_mem_segments hj) hlevels
  have hthere := Disk.hasDirectory_of_createDirectories hprepared
  obtain ⟨written, hwrite, hend⟩ :=
    Disk.exists_writeFile_within (isNamed_path hj output) hparent hthere hwithin hplace bytes
  obtain ⟨v', hgenerate, hsame⟩ := generate_of_writeFile henc hrequest hbytes
    ((prepare_eq_ok_iff henc.writesFiles hparent).2 hprepared) hwrite
  have htree := generate_isTree henc hbase hj h.isTree hgenerate
  refine ⟨v', hgenerate, htree, ?_, hend.sameTree hsame⟩
  -- the base stays through all three steps
  have hcreates := Disk.WritesOnly.createDirectories hprepared
  have hwrites := Disk.WritesOnly.writeFile hwrite
  have hkept := h.hasDirectory.mono hcreates.directories hcreates.workingDirectory
  have hkept' := hkept.mono hwrites.directories hwrites.workingDirectory
  exact hkept'.mono hsame.keepsDirectories hsame.workingDirectory

end Job

/-! ## Jobs in another order -/

variable {total i : Nat} {jobs jobs' : List Job}

theorem execute_isTree (henc : enc.FollowsRequest contents) (hbase : IsBase base output)
    (hplanned : ∀ j ∈ jobs, j.Planned) (htree : w.disk.IsTree)
    (hfailure : (execute enc output total i jobs w).failure = none) :
    (execute enc output total i jobs w).disk.IsTree := by
  induction jobs generalizing i w with
  | nil => exact htree
  | cons j jobs ih =>
    obtain ⟨hj, hjobs⟩ := List.forall_mem_cons.1 hplanned
    obtain ⟨w', c, hgenerate, hrest⟩ := execute_cons_of_none hfailure
    rw [execute_cons_of_ok hgenerate]
    exact ih hjobs (Job.generate_isTree henc hbase hj htree hgenerate) hrest

/-- Jobs that are settled on a disk can all be generated on the way to it. -/
theorem execute_within (henc : enc.FollowsRequest contents) (hbase : IsBase base output)
    (hplanned : ∀ j ∈ jobs, j.Planned) (hf : f.IsTree) {completed : List Completion}
    (hsettled : List.Forall₂ (Job.SettledOn contents output f) jobs completed)
    (h : v.disk.OnTheWay base f) (total i : Nat) :
    let x := execute enc output total i jobs v
    x.completed = completed ∧ x.failure = none ∧ x.disk.OnTheWay base f := by
  induction hsettled generalizing i v with
  | nil => exact ⟨rfl, rfl, h⟩
  | cons hone _ ih =>
    obtain ⟨hj, hjobs⟩ := List.forall_mem_cons.1 hplanned
    obtain ⟨v', hgenerate, hway⟩ := Job.generate_within henc hbase hj hf hone h
    obtain ⟨hcompleted, hfailure, hlast⟩ := ih hjobs hway (i + 1)
    rw [execute_cons_of_ok hgenerate]
    exact ⟨congrArg _ hcompleted, hfailure, hlast⟩

/-- Several jobs are generated in the same way once the base of the output root is
there. -/
theorem execute_base (henc : enc.writesFiles = true) (hbase : IsBase base output)
    (hplanned : ∀ j ∈ jobs, j.Planned) (hjobs : jobs ≠ []) (htree : w.disk.IsTree)
    {created : Disk} (hcreated : w.disk.createDirectories base = .ok created)
    (hfailure : (execute enc output total i jobs w).failure = none ∨
      (execute enc output total i jobs { w with disk := created }).failure = none) :
    execute enc output total i jobs w =
      execute enc output total i jobs { w with disk := created } := by
  obtain ⟨j, jobs, rfl⟩ := List.exists_cons_of_ne_nil hjobs
  have hj := hplanned j List.mem_cons_self
  have hiff : ∀ w' c, j.generate enc output w = (w', .ok c) ↔
      j.generate enc output { w with disk := created } = (w', .ok c) := fun w' c =>
    Job.generate_base_iff henc hbase hj htree hcreated
  obtain ⟨w', c, hgenerate⟩ : ∃ w' c, j.generate enc output w = (w', .ok c) := by
    rcases hfailure with hfailure | hfailure
    · obtain ⟨w', c, hgenerate, -⟩ := execute_cons_of_none hfailure
      exact ⟨w', c, hgenerate⟩
    · obtain ⟨w', c, hgenerate, -⟩ := execute_cons_of_none hfailure
      exact ⟨w', c, (hiff w' c).2 hgenerate⟩
  rw [execute_cons_of_ok hgenerate, execute_cons_of_ok ((hiff w' c).1 hgenerate)]

theorem exists_base_of_execute (henc : enc.writesFiles = true) (hbase : IsBase base output)
    (hplanned : ∀ j ∈ jobs, j.Planned) (hjobs : jobs ≠ []) (htree : w.disk.IsTree)
    (hfailure : (execute enc output total i jobs w).failure = none) :
    ∃ created, w.disk.createDirectories base = .ok created := by
  obtain ⟨j, jobs, rfl⟩ := List.exists_cons_of_ne_nil hjobs
  obtain ⟨w', c, hgenerate, -⟩ := execute_cons_of_none hfailure
  exact Job.exists_base_of_generate henc hbase (hplanned j List.mem_cons_self) htree hgenerate

theorem exists_settledOn_of_mem {completed : List Completion}
    (h : List.Forall₂ (Job.SettledOn contents output f) jobs completed) :
    ∀ j ∈ jobs, ∃ c, j.SettledOn contents output f c := by
  induction h with
  | nil => simp
  | cons hone _ ih => exact List.forall_mem_cons.2 ⟨⟨_, hone⟩, ih⟩

/-- From where the base is there, jobs are generated in every order, and no order
leaves what another does not. -/
theorem execute_perm_within (henc : enc.FollowsRequest contents) (hbase : IsBase base output)
    (hplanned : ∀ j ∈ jobs, j.Planned) (hplaces : (jobs.map Job.place).Nodup)
    (htree : w.disk.IsTree) (hthere : w.disk.HasDirectory base)
    (hfailure : (execute enc output total i jobs w).failure = none) (hperm : jobs'.Perm jobs) :
    let x := execute enc output total i jobs w
    let x' := execute enc output total i jobs' w
    x'.failure = none ∧ x'.completed.Perm x.completed ∧ x'.disk.Within x.disk := by
  intro x x'
  obtain ⟨hchanges, hsettled⟩ := execute_settled henc hplanned hplaces hfailure
  have hf : x.disk.IsTree := execute_isTree henc hbase hplanned htree hfailure
  have hwithin : w.disk.Within x.disk := by
    refine hchanges.within fun key hkey => ?_
    obtain ⟨j, hj, rfl⟩ := List.mem_map.1 hkey
    obtain ⟨c, hc⟩ := exists_settledOn_of_mem hsettled j hj
    obtain ⟨r, bytes, -, -, hlookup⟩ := hc.lookup
    rw [hchanges.target] at hlookup
    exact ⟨bytes, hlookup⟩
  obtain ⟨completed, hcompleted, hsame⟩ := List.perm_comp_forall₂ hperm hsettled
  have hplanned' : ∀ j ∈ jobs', j.Planned := fun j hj => hplanned j (hperm.mem_iff.1 hj)
  obtain ⟨hall, hnone, hway⟩ :=
    execute_within henc hbase hplanned' hf hcompleted ⟨htree, hthere, hwithin⟩ total i
  exact ⟨hnone, hall.symm ▸ hsame, hway.within⟩

/-- Jobs that are all generated in one order are so in every other, and they leave
the same tree. -/
theorem execute_perm (henc : enc.FollowsRequest contents) (hplanned : ∀ j ∈ jobs, j.Planned)
    (hplaces : (jobs.map Job.place).Nodup) (htree : w.disk.IsTree)
    (hfailure : (execute enc output total i jobs w).failure = none) (hperm : jobs'.Perm jobs) :
    let x := execute enc output total i jobs w
    let x' := execute enc output total i jobs' w
    x'.failure = none ∧ x'.completed.Perm x.completed ∧ x.disk.SameTree x'.disk := by
  by_cases hjobs : jobs = []
  · subst hjobs
    rw [hperm.eq_nil]
    exact ⟨hfailure, List.Perm.refl _, .refl _⟩
  have hjobs' : jobs' ≠ [] := fun heq => hjobs ((eq_nil_iff_of_perm hperm).1 heq)
  have hplanned' : ∀ j ∈ jobs', j.Planned := fun j hj => hplanned j (hperm.mem_iff.1 hj)
  have hplaces' : (jobs'.map Job.place).Nodup := (hperm.map Job.place).nodup_iff.2 hplaces
  obtain ⟨base, hbase⟩ := exists_isBase output
  obtain ⟨created, hcreated⟩ :=
    exists_base_of_execute henc.writesFiles hbase hplanned hjobs htree hfailure
  have hthere := Disk.hasDirectory_of_createDirectories hcreated
  have htree' := htree.createDirectories hcreated
  -- both orders go on from where the base is there
  have hone := execute_base henc.writesFiles hbase hplanned hjobs htree hcreated (Or.inl hfailure)
  rw [hone] at hfailure ⊢
  obtain ⟨hfailure', hcompleted, hwithin⟩ :=
    execute_perm_within henc hbase hplanned hplaces htree' hthere hfailure hperm
  have hother :=
    execute_base henc.writesFiles hbase hplanned' hjobs' htree hcreated (Or.inr hfailure')
  rw [hother]
  obtain ⟨-, -, hwithin'⟩ :=
    execute_perm_within henc hbase hplanned' hplaces' htree' hthere hfailure' hperm.symm
  refine ⟨hfailure', hcompleted, hwithin'.sameTree_of_files hwithin fun key content other => ?_⟩
  intro hcontent hother
  obtain ⟨hchanges, hsettled⟩ := execute_settled henc hplanned hplaces hfailure
  obtain ⟨hchanges', hsettled'⟩ := execute_settled henc hplanned' hplaces' hfailure'
  -- a file of no job was there before, and the others are what their jobs make
  by_cases hkey : key ∈ jobs.map fun j => created.target (j.path output)
  · obtain ⟨j, hj, rfl⟩ := List.mem_map.1 hkey
    obtain ⟨c, hc⟩ := exists_settledOn_of_mem hsettled j hj
    obtain ⟨c', hc'⟩ := exists_settledOn_of_mem hsettled' j (hperm.mem_iff.2 hj)
    have hsame := hc.lookup_eq hc'
    rw [hchanges.target, hchanges'.target, hcontent, hother] at hsame
    cases hsame
    rfl
  · have hkey' : key ∉ jobs'.map fun j => created.target (j.path output) := fun hmem =>
      hkey ((hperm.map _).mem_iff.1 hmem)
    rw [hchanges.elsewhere key hkey] at hcontent
    rw [hchanges'.elsewhere key hkey', hcontent] at hother
    cases hother
    rfl

/-! ## Runs of reordered settings -/

variable {d d' : Disk}

/-- Totals do not depend on the order of what was completed. -/
theorem RunSummary.ofCompleted_perm {completed completed' : List Completion}
    (h : completed'.Perm completed) :
    (ofCompleted completed').jobs = (ofCompleted completed).jobs ∧
      (ofCompleted completed').rows = (ofCompleted completed).rows ∧
      (ofCompleted completed').bytes = (ofCompleted completed).bytes ∧
      (ofCompleted completed').artifacts.Perm (ofCompleted completed).artifacts := by
  have hartifacts := h.filterMap Completion.artifact
  refine ⟨h.length_eq, ?_, ?_, hartifacts⟩
  · exact h.foldr_eq' (fun x _ y _ rows => Nat.add_left_comm y.rows x.rows rows) 0
  · exact hartifacts.foldr_eq' (fun x _ y _ bytes => Nat.add_left_comm y.bytes x.bytes bytes) 0

/-- Runs of the same records are finished in the same way on the same tree. -/
theorem RunSummary.finish_sameTree {s s' t : RunSummary}
    (hmanifest : Manifest.ofRecords s'.artifacts = Manifest.ofRecords s.artifacts)
    (h : s.finish output d = (d', .ok t)) (hsame : d.SameTree e) :
    ∃ e', s'.finish output e = (e', .ok { s' with manifest := t.manifest }) ∧
      d'.SameTree e' := by
  obtain ⟨between, path, hcreated, hwrite, rfl⟩ := finish_eq_ok h
  obtain ⟨rfl, hwritten⟩ := Manifest.write_eq_ok hwrite
  obtain ⟨between', hcreated', hsame'⟩ := hsame.createDirectories hcreated
  obtain ⟨e', hwritten', hend⟩ := hsame'.writeFile hwritten
  refine ⟨e', ?_, hend⟩
  simp only [finish, hcreated', hmanifest, Manifest.write, hwritten']

namespace MatrixConfig

variable {c c' : MatrixConfig} {jobs jobs' : List Job} {s : RunSummary}

/-- The records of a run have distinct paths. -/
theorem artifacts_nodup (henc : enc.FollowsRequest contents) (hjobs : c.jobs .all = .ok jobs)
    (hfailure : (c.execution enc jobs d).failure = none) :
    ((RunSummary.ofCompleted (c.execution enc jobs d).completed).artifacts.map
      ArtifactRecord.path).Nodup := by
  obtain ⟨hplanned, -⟩ := planned_of_jobs hjobs
  obtain ⟨-, hsettled⟩ := execution_settled henc hjobs hfailure
  have hboth := (List.forall₂_and_left _ _).2 ⟨hplanned, hsettled⟩
  have hrecords := artifacts_of_completed (hboth.imp fun j _ hj => hj.2.completedOn hj.1)
  have hpaths := relativePaths_nodup hjobs
  rwa [← map_path_of_recorded hrecords] at hpaths

/-- The jobs of reordered settings are generated in either order. -/
theorem execution_perm (h : c.Reordered c') (henc : enc.FollowsRequest contents)
    (htree : d.IsTree) (hjobs : c.jobs .all = .ok jobs) (hperm : jobs'.Perm jobs)
    (hfailure : (c.execution enc jobs d).failure = none) :
    (c'.execution enc jobs' d).failure = none ∧
      (c'.execution enc jobs' d).completed.Perm (c.execution enc jobs d).completed ∧
      (c.execution enc jobs d).disk.SameTree (c'.execution enc jobs' d).disk := by
  obtain ⟨hplanned, hplaces⟩ := planned_of_jobs hjobs
  have hsame := execute_perm henc hplanned hplaces htree hfailure hperm
  rw [execution, h.output, hperm.length_eq]
  exact hsame

/-- What a run of reordered settings does when the other one succeeds. -/
theorem run_of_reordered (h : c.Reordered c') (henc : enc.FollowsRequest contents)
    (htree : d.IsTree) (hrun : (c.run enc .all d).result = .ok s) :
    ∃ s', (c'.run enc .all d).result = .ok s' ∧
      (c.run enc .all d).disk.SameTree (c'.run enc .all d).disk ∧ s'.jobs = s.jobs ∧
      s'.rows = s.rows ∧ s'.bytes = s.bytes ∧ s'.manifest = s.manifest ∧
      s'.artifacts.Perm s.artifacts := by
  obtain ⟨jobs, hjobs⟩ := exists_jobs_of_run hrun
  obtain ⟨jobs', hjobs', hperm⟩ := jobs_perm h hjobs
  obtain ⟨hfailure, hfinish⟩ := run_all_eq_ok henc.writesFiles hjobs hrun
  obtain ⟨hfailure', hcompleted, hsame⟩ := execution_perm h henc htree hjobs hperm hfailure
  obtain ⟨hcount, hrows, hbytes, hartifacts⟩ := RunSummary.ofCompleted_perm hcompleted
  have hmanifest := Manifest.ofRecords_eq_of_perm hartifacts (artifacts_nodup henc hjobs hfailure)
  obtain ⟨e', hfinish', hend⟩ := RunSummary.finish_sameTree hmanifest hfinish hsame
  rw [← h.output] at hfinish'
  rw [run_all_of_none henc.writesFiles hjobs' hfailure']
  simp only [hfinish']
  obtain ⟨_, _, -, -, rfl⟩ := RunSummary.finish_eq_ok hfinish
  exact ⟨_, rfl, hend, hcount, hrows, hbytes, rfl, hartifacts⟩

/-- What a run does depends on the order of the settings' lists only as far as the
order of its jobs goes.  It succeeds in one order if it does in the other; from the
same tree both leave the same files, the manifest among them, and tell the same
totals. -/
theorem run_reordered (h : c.Reordered c') (henc : enc.FollowsRequest contents)
    (htree : d.IsTree) :
    ((∃ s, (c.run enc .all d).result = .ok s) ↔ ∃ s', (c'.run enc .all d).result = .ok s') ∧
    ∀ s s', (c.run enc .all d).result = .ok s → (c'.run enc .all d).result = .ok s' →
      (c.run enc .all d).disk.SameTree (c'.run enc .all d).disk ∧ s'.jobs = s.jobs ∧
      s'.rows = s.rows ∧ s'.bytes = s.bytes ∧ s'.manifest = s.manifest ∧
      s'.artifacts.Perm s.artifacts := by
  refine ⟨⟨?_, ?_⟩, ?_⟩
  · rintro ⟨s, hrun⟩
    obtain ⟨s', hrun', -⟩ := run_of_reordered h henc htree hrun
    exact ⟨s', hrun'⟩
  · rintro ⟨s', hrun'⟩
    obtain ⟨s, hrun, -⟩ := run_of_reordered h.symm henc htree hrun'
    exact ⟨s, hrun⟩
  · intro s s' hrun hrun'
    obtain ⟨t, ht, hsame⟩ := run_of_reordered h henc htree hrun
    rw [hrun'] at ht
    obtain rfl := Except.ok.inj ht
    exact hsame

/-- Benchmark files of some sizes below `out`. -/
def ofSizes (sizes : List Nat) : MatrixConfig :=
  { output := "out", matrix := false, benchmarks := { explicitSizes := sizes } }

/-- Runs of two sizes in either order, where an earlier run left a file. -/
theorem run_reordered_two_sizes :
    ∃ s s', ((ofSizes [8, 16]).run (.stub "PAR1".toUTF8) .all earlierRun).result = .ok s ∧
      ((ofSizes [16, 8]).run (.stub "PAR1".toUTF8) .all earlierRun).result = .ok s' ∧
      ((ofSizes [8, 16]).run (.stub "PAR1".toUTF8) .all earlierRun).disk.SameTree
        ((ofSizes [16, 8]).run (.stub "PAR1".toUTF8) .all earlierRun).disk ∧
      s'.rows = s.rows := by
  have h : (ofSizes [8, 16]).Reordered (ofSizes [16, 8]) :=
    ⟨rfl, rfl, .refl _, .refl _, .refl _, rfl, rfl, rfl, rfl, .swap _ _ _⟩
  have htree : earlierRun.IsTree := by
    refine .of_entries rfl ?_ rfl
    simp only [earlierRun, List.forall_mem_cons]
    exact ⟨rfl, rfl, rfl, rfl, by simp⟩
  obtain ⟨s, hrun, -⟩ := RunOutcome.exists_of_fits
    (o := (ofSizes [8, 16]).run (.stub "PAR1".toUTF8) .all earlierRun) (by decide +kernel)
  obtain ⟨hiff, hsame⟩ := run_reordered h (Encoder.stub_followsRequest "PAR1".toUTF8) htree
  obtain ⟨s', hrun'⟩ := hiff.1 ⟨s, hrun⟩
  obtain ⟨htrees, -, hrows, -⟩ := hsame s s' hrun hrun'
  exact ⟨s, s', hrun, hrun', htrees, hrows⟩

end MatrixConfig

end FixtureMatrix
