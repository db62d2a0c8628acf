import FixtureMatrix.Encoder.Storage
import FixtureMatrix.Proofs.Manifest.Verify
import FixtureMatrix.Proofs.Matrix.Execution
import FixtureMatrix.Proofs.Matrix.Places

/-!
# Files of a run

A run with an encoder that writes files leaves the file of every job it
completed, and touches no other file on the way.

* `Encoder.storing_writesAtPath`: the encoder that stores files writes at the
  path of its request alone.
* `generate_writes`: one job writes at its own path and records what stands there.
* `execute_writes`: after several jobs of distinct places all records still tell
  what stands at their paths.
-/

namespace FixtureMatrix

open FixtureMatrix.Path

/-! ## Encoders -/

/-- An encoder that writes files, and with a call that succeeds no file but the
one at the path of its request. -/
structure Encoder.WritesAtPath (enc : Encoder) : Prop where
  writesFiles : enc.writesFiles = true
  writesOnly : ∀ {r w w'}, enc.encode r w = (w', .ok ()) →
    w.disk.WritesOnly [w.disk.target r.path] w'.disk

/-- The encoder that stores files writes at the path of its request alone, though
it may write twice. -/
theorem Encoder.storing_writesAtPath (rowGroupSize : Nat) : (storing rowGroupSize).WritesAtPath where
  writesFiles := rfl
  writesOnly := by
    intro r w w' h
    rw [storing_eq_iff, storeFile] at h
    split at h
    · cases (Prod.mk.inj h).2
    split at h
    · cases (Prod.mk.inj h).2
    · next created hcreated =>
      have hfirst := Disk.WritesOnly.writeFile hcreated
      split_ifs at h
      · cases (Prod.mk.inj h).2
      split at h
      · rw [← (Prod.mk.inj h).1]
        exact hfirst
      · split at h
        · cases (Prod.mk.inj h).2
        · next written hwritten =>
          have hsecond := Disk.WritesOnly.writeFile hwritten
          rw [hfirst.target] at hsecond
          rw [← (Prod.mk.inj h).1]
          exact (hfirst.trans hsecond).mono (by simp)

/-- Writes one content to the path of any request. -/
def writeContent (content : ByteArray) (r : EncodeRequest) (d : Disk) :
    Disk × Except EncodeError Unit :=
  match d.writeFile r.path content with
  | .ok written => (written, .ok ())
  | .error e => (d, .error (.io e))

/-- An encoder that leaves files of one content. -/
def Encoder.stub (content : ByteArray) : Encoder :=
  .stateless true (writeContent content)

theorem Encoder.stub_eq_iff {content : ByteArray} {r : EncodeRequest}
    {w w' : World (stub content).State} {result : Except EncodeError Unit} :
    (stub content).encode r w = (w', result) ↔
      writeContent content r w.disk = (w'.disk, result) :=
  stateless_eq_iff

theorem Encoder.stub_writesAtPath (content : ByteArray) : (stub content).WritesAtPath where
  writesFiles := rfl
  writesOnly := by
    intro r w w' h
    rw [stub_eq_iff, writeContent] at h
    split at h
    · next hwrite =>
      rw [← (Prod.mk.inj h).1]
      exact .writeFile hwrite
    · cases (Prod.mk.inj h).2

theorem Encoder.prepare_writes {enc : Encoder} {path : String} {d d' : Disk}
    (h : enc.prepare path d = .ok d') : d.WritesOnly [] d' := by
  rw [Encoder.prepare] at h
  split at h
  · split at h
    · next hcreated =>
      rw [← Except.ok.inj h]
      exact .createDirectories hcreated
    · cases h
  · rw [← Except.ok.inj h]
    exact .refl d

namespace Job

variable {j : Job} {output : String} {d d' : Disk} {keys : List (List String)} {enc : Encoder}
  {w w' : World enc.State}

/-! ## Keys of jobs -/

/-- The names that lead to a job's file below the output root. -/
def names (j : Job) : List String :=
  j.profile.segments ++ [j.fileName]

theorem names_ne_nil (j : Job) : j.names ≠ [] := by simp [names]

theorem portable_relativePath (h : j.Planned) : portable j.relativePath = j.relativePath :=
  portable_ofSegments (isName_of_mem_steps h)

theorem target_path (h : j.Planned) (output : String) (d : Disk) :
    d.target (j.path output) = d.target output ++ j.names :=
  d.target_join_names output j.names_ne_nil (isName_of_mem_steps h)

/-- A search finds the file of a planned job. -/
theorem hasParquetEnding_getLast? (h : j.Planned) :
    (j.names.getLast?.map Disk.hasParquetEnding).getD false = true := by
  have hending : Disk.hasParquetEnding j.fileName = true := by
    cases h with
    | @canonical d p hd _ =>
      have hall : ∀ d ∈ CaseDescriptor.canonical, Disk.hasParquetEnding d.fileName = true := by
        decide
      exact hall d hd
    | @bench variant rows p _ _ =>
      have hname : (Job.bench variant rows p).fileName.toList =
          (variant.stem rows).toList ++ Disk.parquetEnding.toList := by
        rw [bench, String.toList_append, Disk.parquetEnding]
      rw [Disk.hasParquetEnding, List.isSuffixOf_iff_suffix, hname]
      exact List.suffix_append _ _
  rw [names, List.getLast?_concat, Option.map_some, Option.getD_some, hending]

/-! ## One job -/

/-- A record that tells what stands at a job's path. -/
structure RecordedOn (output : String) (d : Disk) (j : Job) (a : ArtifactRecord) : Prop where
  path : a.path = j.relativePath
  digest : d.digest (j.path output) = .ok (a.sha256, a.bytes)

/-- A record stays right as long as its file is not written again. -/
theorem RecordedOn.writesOnly {a : ArtifactRecord} (h : j.RecordedOn output d a)
    (hwrites : d.WritesOnly keys d') (hnot : d.target (j.path output) ∉ keys) :
    j.RecordedOn output d' a := by
  obtain ⟨content, hread, hsha, hsize⟩ := Disk.digest_eq_ok_iff.1 h.digest
  refine ⟨h.path, Disk.digest_eq_ok_iff.2 ⟨content, ?_, hsha, hsize⟩⟩
  exact hwrites.readFile hnot hread

/-- A job that is generated writes at its own path, and its record tells what
stands there. -/
theorem generate_writes (henc : enc.WritesAtPath) (hj : j.Planned) {c : Completion}
    (h : j.generate enc output w = (w', .ok c)) :
    w.disk.WritesOnly [w.disk.target (j.path output)] w'.disk ∧
      ∃ a, c.artifact = some a ∧ j.RecordedOn output w'.disk a := by
  obtain ⟨r, prepared, a, hrequest, hprepare, hencode, hrecord, rfl⟩ :=
    (generate_eq_ok_iff henc.writesFiles).1 h
  have hprepared := Encoder.prepare_writes hprepare
  have hwritten : prepared.WritesOnly [prepared.target r.path] w'.disk := henc.writesOnly hencode
  rw [hprepared.target, path_of_request hrequest] at hwritten
  refine ⟨hprepared.trans hwritten, a, rfl, ?_⟩
  obtain ⟨bytes, hread, rfl⟩ := record_eq_ok_iff.1 hrecord
  rw [path_of_request hrequest] at hread
  exact ⟨portable_relativePath hj, Disk.digest_eq_ok_iff.2 ⟨bytes, hread, rfl, rfl⟩⟩

/-- A completion with a record that tells what stands at the job's path. -/
def CompletedOn (output : String) (d : Disk) (j : Job) (c : Completion) : Prop :=
  ∃ a, c.artifact = some a ∧ j.RecordedOn output d a

end Job

/-! ## Several jobs -/

variable {enc : Encoder} {output : String} {total i : Nat} {jobs : List Job} {d : Disk}
  {w : World enc.State}

/-- Jobs of distinct places have distinct keys. -/
theorem Job.target_not_mem {j : Job} (hj : j.Planned) (hjobs : ∀ k ∈ jobs, k.Planned)
    (output : String) (d : Disk) (hplace : j.place ∉ jobs.map Job.place) :
    d.target (j.path output) ∉ jobs.map fun k => d.target (k.path output) := by
  intro hmem
  obtain ⟨k, hk, heq⟩ := List.mem_map.1 hmem
  rw [target_path hj, target_path (hjobs k hk), List.append_cancel_left_eq] at heq
  have hcomponents : components k.relativePath = components j.relativePath := by
    rw [components_relativePath hj, components_relativePath (hjobs k hk)]
    exact congrArg (List.map Component.normal) heq
  have hsame := place_eq_of_components (hjobs k hk) hj hcomponents
  exact hplace (List.mem_map.2 ⟨k, hk, hsame⟩)

/-- Jobs of distinct places that are all generated write at their own paths, and
at the end all their records tell what stands there. -/
theorem execute_writes (henc : enc.WritesAtPath) (hplanned : ∀ j ∈ jobs, j.Planned)
    (hplaces : (jobs.map Job.place).Nodup)
    (hfailure : (execute enc output total i jobs w).failure = none) :
    let x := execute enc output total i jobs w
    w.disk.WritesOnly (jobs.map fun j => w.disk.target (j.path output)) x.disk ∧
      List.Forall₂ (Job.CompletedOn output x.disk) jobs x.completed := by
  induction jobs generalizing i w with
  | nil => exact ⟨.refl w.disk, .nil⟩
  | cons j jobs ih =>
    obtain ⟨hj, hjobs⟩ := List.forall_mem_cons.1 hplanned
    rw [List.map_cons, List.nodup_cons] at hplaces
    obtain ⟨w', c, hgenerate, hrest⟩ := execute_cons_of_none hfailure
    rw [execute_cons_of_ok hgenerate]
    obtain ⟨hone, a, ha, hrecord⟩ := Job.generate_writes henc hj hgenerate
    obtain ⟨hothers, hcompleted⟩ := ih hjobs hplaces.2 hrest
    have hnot := Job.target_not_mem hj hjobs output w'.disk hplaces.1
    have hkept := hrecord.writesOnly hothers hnot
    simp only [hone.target] at hothers
    exact ⟨hone.trans hothers, .cons ⟨a, ha, hkept⟩ hcompleted⟩

/-- The records of completed jobs, in their order. -/
theorem artifacts_of_completed {completed : List Completion}
    (h : List.Forall₂ (Job.CompletedOn output d) jobs completed) :
    List.Forall₂ (Job.RecordedOn output d) jobs (completed.filterMap Completion.artifact) := by
  induction h with
  | nil => exact .nil
  | cons hc _ ih =>
    obtain ⟨a, ha, hrecord⟩ := hc
    rw [List.filterMap_cons_some ha]
    exact .cons hrecord ih

/-- The records of jobs have their paths. -/
theorem map_path_of_recorded {records : List ArtifactRecord}
    (h : List.Forall₂ (Job.RecordedOn output d) jobs records) :
    records.map ArtifactRecord.path = jobs.map Job.relativePath := by
  rw [← List.forall₂_eq_eq_eq, List.forall₂_map_left_iff, List.forall₂_map_right_iff]
  exact h.flip.imp fun _ _ hrecord => hrecord.path

end FixtureMatrix
