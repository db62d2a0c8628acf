import FixtureMatrix.Command.Generate
import FixtureMatrix.Proofs.Matrix.Execution
import FixtureMatrix.Proofs.Matrix.Faults
import FixtureMatrix.Proofs.Matrix.Settings

/-!
# Options and configuration files

`generate` takes its settings from a file and from options.  A file is checked as
it stands; then the options take the place of what it says, and from there on only
what comes out of both counts.

* `validate_override`: options do not spoil a configuration that was accepted.
* `configuration_of_file`: what the options and a file come to.
* `perform_of_configuration`: `generate` tells of the run of its configuration.
* `perform_of_file`: when `generate` with a file fails for its configuration, which
  jobs it runs else, and that options can as well stand in the file.
-/

namespace FixtureMatrix

/-! ## The jobs of a run -/

/-- A run of all passes that is planned completes the first of its jobs, in order,
and all of them if it succeeds; if it fails, then not for its configuration. -/
theorem MatrixConfig.run_completes {c : MatrixConfig} {jobs : List Job}
    (hjobs : c.jobs .all = .ok jobs) (enc : Encoder) (d : Disk) :
    let run := c.run enc .all d
    run.completed.map Completion.job <+: jobs ∧
      (∀ s, run.result = .ok s → run.completed.map Completion.job = jobs) ∧
      ∀ e, run.result = .error (.returned e) → e.isConfig = false := by
  intro run
  have hcompleted : run.completed = (c.execution enc jobs d).completed := completed_run hjobs
  rw [hcompleted]
  refine ⟨isPrefix_map_job, ?_, ?_⟩
  · intro s hresult
    have hall := map_job_of_execute (failure_of_run hjobs hresult)
    exact hall
  · intro e hresult
    exact run_isConfig hjobs hresult

namespace GenerateOptions

variable {o : GenerateOptions} {c : MatrixConfig} {d : Disk} {path text : String}

/-! ## Options in place of settings -/

/-- A configuration with the options in place of what it says. -/
def override (o : GenerateOptions) (c : MatrixConfig) : MatrixConfig :=
  { c with
    output := o.output.getD c.output
    matrix := if o.skipMatrix then false else c.matrix
    benchmarks :=
      { c.benchmarks with enabled := if o.skipBench then false else c.benchmarks.enabled } }

/-- Options turn passes off only, and the settings of a pass that is off are not
checked. -/
theorem validate_override (h : c.validate = .ok ()) (o : GenerateOptions) :
    (o.override c).validate = .ok () := by
  obtain ⟨hmatrix, hbench⟩ := MatrixConfig.validate_eq_ok_iff.1 h
  have hoff : ∀ skip set : Bool, (if skip then false else set) = true → set = true := by decide
  apply MatrixConfig.validate_eq_ok_iff.2
  constructor
  · intro hon
    exact hmatrix (hoff _ _ hon)
  · intro hon
    exact hbench (hoff _ _ hon)

/-- A configuration file is checked as it stands, and options apply behind that. -/
theorem configuration_of_file (hpath : o.config = some path) (htext : d.readText path = .ok text)
    (hparse : MatrixConfig.parse text = .ok c) :
    o.configuration d = c.validate.map fun () => o.override c := by
  have hload : MatrixConfig.load d path = c.validate.map fun () => c := by
    rw [MatrixConfig.load, htext]
    simp only [hparse]
  rw [configuration, hpath]
  simp only [hload]
  cases hvalid : c.validate with
  | error e => rfl
  | ok u =>
    -- so the check behind the options finds nothing more
    have hoverride := validate_override hvalid o
    have heq : ∀ skip set : Bool, (set && !skip) = if skip then false else set := by decide
    simp only [override] at hoverride
    simp only [Except.map, bind, Except.bind, pure, Except.pure, heq]
    rw [hoverride]
    rfl

/-! ## What is told of a run -/

/-- The transcript of a run, by the time that it took. -/
def told {σ : Type} (o : GenerateOptions) (output : String) (run : RunOutcome σ) :
    Nat → Transcript :=
  let notes := o.notes output run.progress
  match run.result with
  | .error e => fun _ => { notes := notes, failure := some (e.map FixtureError.message) }
  | .ok s => fun elapsed =>
    let jobs := run.completed.map Completion.job
    let report :=
      if o.json then [(o.reportJson output elapsed jobs s).prettyText]
      else o.reportLines elapsed s
    { output := report, notes := notes }

/-- Whatever the configuration is made of, `generate` tells of its run. -/
theorem perform_of_configuration (h : o.configuration d = .ok c) :
    o.perform d = ((c.run o.encoder .all d).disk, o.told c.output (c.run o.encoder .all d)) := by
  rw [perform, h]
  cases hresult : (c.run o.encoder .all d).result with
  | error e => simp only [told, hresult]
  | ok s => simp only [told, hresult]

theorem perform_of_error {e : FixtureError} (h : o.configuration d = .error e) :
    o.perform d = (d, fun _ => .failed e.message) := by
  rw [perform, h]

/-! ## Settings from a file -/

/-- A configuration file is checked as it stands: where a setting of it is refused,
`generate` fails, although the options may turn the pass off that the setting is of.
Else it accepts what the options make of the file, and it is the run of this that it
tells of.  The run fails for its configuration only if it cannot be planned, and
otherwise it completes the planned jobs in order, all of them if it succeeds.  Nor
does it matter which settings are in the file and which are options: another file
and other options that come to the same are told alike. -/
theorem perform_of_file (hpath : o.config = some path) (htext : d.readText path = .ok text)
    (hparse : MatrixConfig.parse text = .ok c) :
    let run := (o.override c).run o.encoder .all d
    (∀ e, c.validate = .error e →
      e.isConfig = true ∧ o.perform d = (d, fun _ => .failed e.message)) ∧
    (c.validate = .ok () →
      (o.override c).validate = .ok () ∧
      o.perform d = (run.disk, o.told (o.override c).output run) ∧
      (∀ e, (o.override c).plan = .error e →
        e.isConfig = true ∧ run = ⟨⟨o.encoder.memory, d⟩, [], [], .error (.returned e)⟩) ∧
      (∀ jobs, (o.override c).plan = .ok jobs →
        run.completed.map Completion.job <+: jobs ∧
        (∀ s, run.result = .ok s → run.completed.map Completion.job = jobs) ∧
        ∀ e, run.result = .error (.returned e) → e.isConfig = false) ∧
      ∀ file output skipMatrix skipBench text' c',
        let moved := { o with config := some file, output, skipMatrix, skipBench }
        d.readText file = .ok text' → MatrixConfig.parse text' = .ok c' →
          c'.validate = .ok () → moved.override c' = o.override c →
            moved.perform d = o.perform d) := by
  intro run
  have hconfiguration := configuration_of_file hpath htext hparse
  constructor
  · intro e hrefused
    rw [hrefused] at hconfiguration
    exact ⟨MatrixConfig.validate_isConfig hrefused, perform_of_error hconfiguration⟩
  · intro hvalid
    have haccepted := validate_override hvalid o
    rw [hvalid] at hconfiguration
    have hperform := perform_of_configuration hconfiguration
    refine ⟨haccepted, hperform, ?unplanned, ?planned, ?moved⟩
    case unplanned =>
      intro e hplan
      have hjobs : (o.override c).jobs .all = .error e := by
        rw [MatrixConfig.jobs, haccepted]
        exact hplan
      refine ⟨MatrixConfig.plan_isConfig hplan, ?_⟩
      simp only [run, MatrixConfig.run, hjobs]
    case planned =>
      intro jobs hplan
      have hjobs : (o.override c).jobs .all = .ok jobs :=
        MatrixConfig.jobs_eq_ok_iff.2 ⟨haccepted, hplan⟩
      exact MatrixConfig.run_completes hjobs o.encoder d
    case moved =>
      intro file output skipMatrix skipBench text' c' moved htext' hparse' hvalid' hsame
      have hmoved := configuration_of_file (o := moved) rfl htext' hparse'
      rw [hvalid', hsame] at hmoved
      -- the encoder and the transcript depend on none of the options that are moved
      rw [perform_of_configuration hmoved, hperform]
      rfl

/-! ## Files with settings of a pass that is skipped -/

/-- A disk with configuration files. -/
def withConfigurations (files : List (String × String)) : Disk where
  entries := (["work"], .directory) ::
    files.map fun file => (["work", file.1], .file file.2.toUTF8)
  workingDirectory := ["work"]

/-- Benchmark files of eight rows: beside a canonical pass, without one, and beside
one without codecs. -/
def benchFiles : Disk :=
  withConfigurations [
    ("both.yaml", "benchmarks:\n  sizes: [8]\n"),
    ("bench.yaml", "matrix: false\nbenchmarks:\n  sizes: [8]\n"),
    ("no-codecs.yaml", "codecs: []\nbenchmarks:\n  sizes: [8]\n")]

/-- A dry run that skips the canonical pass of a file. -/
def benchOnly (file : String) : GenerateOptions where
  output := none
  config := some file
  skipMatrix := true
  skipBench := false
  progress := false
  verbose := false
  dryRun := true
  json := true

/-- The canonical pass is skipped by an option, or it is off in the file. -/
theorem perform_of_file_benchOnly :
    (((benchOnly "both.yaml").perform benchFiles).2 0).exitCode = 0 ∧
      { benchOnly "bench.yaml" with skipMatrix := false }.perform benchFiles =
        (benchOnly "both.yaml").perform benchFiles := by
  have hboth : MatrixConfig.parse "benchmarks:\n  sizes: [8]\n" =
      .ok { benchmarks := { explicitSizes := [8] } } := by decide +kernel
  have hbench : MatrixConfig.parse "matrix: false\nbenchmarks:\n  sizes: [8]\n" =
      .ok { matrix := false, benchmarks := { explicitSizes := [8] } } := by decide +kernel
  have htext : benchFiles.readText "both.yaml" = .ok "benchmarks:\n  sizes: [8]\n" :=
    Disk.readText_of_toUTF8 rfl
  have htext' : benchFiles.readText "bench.yaml" =
      .ok "matrix: false\nbenchmarks:\n  sizes: [8]\n" := Disk.readText_of_toUTF8 rfl
  refine ⟨by decide +kernel, ?_⟩
  have hrun := (perform_of_file (o := benchOnly "both.yaml") rfl htext hboth).2 rfl
  exact hrun.2.2.2.2 "bench.yaml" none false false _ _ htext' hbench rfl rfl

/-- An option does not help a file that is refused for the pass that it skips,
although what it makes of the file would be accepted and planned. -/
theorem perform_of_file_noCodecs :
    ∃ c jobs,
      benchFiles.readText "no-codecs.yaml" = .ok "codecs: []\nbenchmarks:\n  sizes: [8]\n" ∧
      MatrixConfig.parse "codecs: []\nbenchmarks:\n  sizes: [8]\n" = .ok c ∧
      ((benchOnly "no-codecs.yaml").override c).validate = .ok () ∧
      ((benchOnly "no-codecs.yaml").override c).plan = .ok jobs ∧
      (benchOnly "no-codecs.yaml").perform benchFiles =
        (benchFiles,
          fun _ => .failed "configuration error in config: codecs must not be empty") := by
  have htext : benchFiles.readText "no-codecs.yaml" =
      .ok "codecs: []\nbenchmarks:\n  sizes: [8]\n" := Disk.readText_of_toUTF8 rfl
  have hparse : MatrixConfig.parse "codecs: []\nbenchmarks:\n  sizes: [8]\n" =
      .ok { codecs := [], benchmarks := { explicitSizes := [8] } } := by decide +kernel
  refine ⟨_, Job.benches [8], htext, hparse, rfl, rfl, ?_⟩
  have hrefused := configuration_of_file (o := benchOnly "no-codecs.yaml") rfl htext hparse
  rw [perform_of_error hrefused]
  rfl

end GenerateOptions

end FixtureMatrix
