import FixtureMatrix.Proofs.Disk.Directories
import FixtureMatrix.Proofs.Matrix.Frame

/-!
# Settled jobs

With an encoder that makes the same of the same request, a job that was generated
is settled: at its path stands what its request makes, and what is remembered of
the job follows from that.

* `Encoder.storing_followsRequest`: the encoder that stores files is such.
* `settledOn_of_generate`, `execute_settled`: jobs that are generated are settled,
  and other files stay.
* `SettledOn.generate`, `execute_of_settled`: jobs that are settled can be
  generated again, and nothing changes.
-/

namespace FixtureMatrix

open FixtureMatrix.Path

/-! ## Encoders -/

/-- An encoder that writes files, whose success and whose bytes depend on the
request alone: it fails on requests without contents, and else writes these to
the path of the request, if a file can be written there. -/
structure Encoder.FollowsRequest (enc : Encoder) (contents : EncodeRequest → Option ByteArray) :
    Prop where
  writesFiles : enc.writesFiles = true
  encode_eq_ok : ∀ {r w w'}, enc.encode r w = (w', .ok ()) → ∃ bytes written,
    contents r = some bytes ∧ w.disk.writeFile r.path bytes = .ok written ∧
      written.SameTree w'.disk
  encode_ok : ∀ {r w bytes written}, contents r = some bytes →
    w.disk.writeFile r.path bytes = .ok written → ∃ w', enc.encode r w = (w', .ok ())

theorem Encoder.stub_followsRequest (content : ByteArray) :
    (stub content).FollowsRequest fun _ => some content where
  writesFiles := rfl
  encode_eq_ok := by
    intro r w w' h
    rw [stub_eq_iff, writeContent] at h
    split at h
    · next written hwrite =>
      obtain ⟨hdisk, -⟩ := Prod.mk.inj h
      exact ⟨content, written, rfl, hwrite, hdisk ▸ .refl written⟩
    · cases (Prod.mk.inj h).2
  encode_ok := by
    intro r w bytes written hbytes hwrite
    obtain rfl := Option.some.inj hbytes
    refine ⟨⟨w.memory, written⟩, stub_eq_iff.2 ?_⟩
    simp only [writeContent, hwrite]

/-- The bytes that are stored for a request, if it can be stored. -/
def EncodeRequest.storedBytes (rowGroupSize : Nat) (r : EncodeRequest) : Option ByteArray :=
  match Batch.build r.schema r.columns with
  | .error _ => none
  | .ok batch =>
    if ArrayField.anyEmptyStruct batch.schema.fields then none
    else
      match r.properties? rowGroupSize with
      | none => some ByteArray.empty
      | some p => some (batch.fileBytes p)

/-- The encoder that stores files makes the same of the same request, although it
writes twice. -/
theorem Encoder.storing_followsRequest (rowGroupSize : Nat) :
    (storing rowGroupSize).FollowsRequest (EncodeRequest.storedBytes (max rowGroupSize 1)) where
  writesFiles := rfl
  encode_eq_ok := by
    intro r w w' h
    rw [storing_eq_iff, storeFile] at h
    split at h
    · cases (Prod.mk.inj h).2
    next batch hbatch =>
      split at h
      · cases (Prod.mk.inj h).2
      next created hcreated =>
        split_ifs at h with hempty
        · cases (Prod.mk.inj h).2
        split at h
        · next hproperties =>
          obtain ⟨hdisk, -⟩ := Prod.mk.inj h
          refine ⟨ByteArray.empty, created, ?_, hcreated, hdisk ▸ .refl created⟩
          rw [EncodeRequest.storedBytes, hbatch]
          simp [hempty, hproperties]
        · next p hproperties =>
          obtain ⟨written, rewritten, hwrite, hrewrite, hsame⟩ :=
            Disk.writeFile_again hcreated (batch.fileBytes p)
          rw [hrewrite] at h
          obtain ⟨hdisk, -⟩ := Prod.mk.inj h
          refine ⟨batch.fileBytes p, written, ?_, hwrite, hdisk ▸ hsame⟩
          rw [EncodeRequest.storedBytes, hbatch]
          simp [hempty, hproperties]
  encode_ok := by
    intro r w bytes written hbytes hwrite
    obtain ⟨created, _, hcreated, -, -⟩ := Disk.writeFile_again hwrite ByteArray.empty
    rw [EncodeRequest.storedBytes] at hbytes
    cases hbatch : Batch.build r.schema r.columns with
    | error e =>
      rw [hbatch] at hbytes
      cases hbytes
    | ok batch =>
      rw [hbatch] at hbytes
      simp only at hbytes
      split_ifs at hbytes with hempty
      cases hproperties : r.properties? (max rowGroupSize 1) with
      | none =>
        refine ⟨⟨w.memory, created⟩, storing_eq_iff.2 ?_⟩
        simp only [storeFile, hbatch, hcreated, if_neg hempty, hproperties]
      | some p =>
        obtain ⟨_, rewritten, -, hrewrite, -⟩ :=
          Disk.writeFile_again hcreated (batch.fileBytes p)
        refine ⟨⟨w.memory, rewritten⟩, storing_eq_iff.2 ?_⟩
        simp only [storeFile, hbatch, hcreated, if_neg hempty, hproperties, hrewrite]

/-! ## One job -/

namespace Job

variable {j : Job} {enc : Encoder} {contents : EncodeRequest → Option ByteArray}
  {output : String} {w w' v : World enc.State} {d d' : Disk} {c : Completion}

theorem isNamed_path (h : j.Planned) (output : String) : IsNamed (j.path output) :=
  isNamed_join output j.names_ne_nil (isName_of_mem_steps h)

/-- What the request of a job makes stands at the job's path, below a directory,
and what is remembered of the job is what follows from that. -/
def SettledOn (contents : EncodeRequest → Option ByteArray) (output : String) (d : Disk)
    (j : Job) (c : Completion) : Prop :=
  ∃ r bytes, j.request output = .ok r ∧ contents r = some bytes ∧
    d.readFile (j.path output) = .ok bytes ∧
    (∀ above, parent? (j.path output) = some above → d.HasDirectory above) ∧
    c = ⟨j, r.numRows, some (j.recordOf r bytes)⟩

theorem SettledOn.changesFiles {keys : List (List String)} (h : j.SettledOn contents output d c)
    (hchanges : d.ChangesFiles keys d') (hnot : d.target (j.path output) ∉ keys) :
    j.SettledOn contents output d' c := by
  obtain ⟨r, bytes, hrequest, hbytes, hread, habove, hc⟩ := h
  refine ⟨r, bytes, hrequest, hbytes, hchanges.readFile hnot hread, fun above hparent => ?_, hc⟩
  exact (habove above hparent).mono hchanges.directories hchanges.workingDirectory

/-- Preparing the place of a file is creating the directory above it. -/
theorem prepare_eq_ok_iff {path above : String} (henc : enc.writesFiles = true)
    (hparent : parent? path = some above) :
    enc.prepare path d = .ok d' ↔ d.createDirectories above = .ok d' := by
  rw [Encoder.prepare, henc, hparent]
  simp only
  split
  · next hcreated => rw [hcreated, Except.ok.injEq, Except.ok.injEq]
  · next hfailed => simp [hfailed]

/-- A job that is generated is settled, and nothing happens to other files. -/
theorem settledOn_of_generate (henc : enc.FollowsRequest contents)
    (h : j.generate enc output w = (w', .ok c)) :
    w.disk.ChangesFiles [w.disk.target (j.path output)] w'.disk ∧
      j.SettledOn contents output w'.disk c := by
  obtain ⟨r, prepared, a, hrequest, hprepare, hencode, hrecord, rfl⟩ :=
    (generate_eq_ok_iff henc.writesFiles).1 h
  obtain ⟨bytes, written, hbytes, hwrite, hsame⟩ := henc.encode_eq_ok hencode
  have hread := hsame.readFile (Disk.readFile_writeFile hwrite)
  obtain ⟨content, hcontent, rfl⟩ := record_eq_ok_iff.1 hrecord
  rw [hread] at hcontent
  obtain rfl := Except.ok.inj hcontent
  rw [path_of_request hrequest] at hprepare hwrite hread
  have hprepared := (Encoder.prepare_writes hprepare).changesFiles
  have hwritten := (Disk.WritesOnly.writeFile hwrite).changesFiles
  rw [hprepared.target] at hwritten
  have hend := hwritten.trans (Disk.SameTree.changesFiles hsame)
  refine ⟨hprepared.trans hend, r, bytes, hrequest, hbytes, hread, fun above hparent => ?_, rfl⟩
  have hcreated := Disk.hasDirectory_of_createDirectories
    ((prepare_eq_ok_iff henc.writesFiles hparent).1 hprepare)
  exact hcreated.mono hend.directories hend.workingDirectory

/-- A job is generated if its file can be written where its place was prepared. -/
theorem generate_of_writeFile (henc : enc.FollowsRequest contents) {r : EncodeRequest}
    {bytes : ByteArray} {prepared written : Disk} (hrequest : j.request output = .ok r)
    (hbytes : contents r = some bytes)
    (hprepare : enc.prepare (j.path output) w.disk = .ok prepared)
    (hwrite : prepared.writeFile (j.path output) bytes = .ok written) :
    ∃ w', j.generate enc output w = (w', .ok ⟨j, r.numRows, some (j.recordOf r bytes)⟩) ∧
      written.SameTree w'.disk := by
  rw [← path_of_request hrequest] at hprepare hwrite
  obtain ⟨w', hencode⟩ := henc.encode_ok (w := { w with disk := prepared }) hbytes hwrite
  obtain ⟨content, written', hcontent, hwritten, hsame⟩ := henc.encode_eq_ok hencode
  rw [hbytes] at hcontent
  obtain rfl := Option.some.inj hcontent
  rw [hwrite] at hwritten
  obtain rfl := Except.ok.inj hwritten
  have hrecord : j.record r w'.disk = .ok (j.recordOf r bytes) :=
    record_eq_ok_iff.2 ⟨bytes, hsame.readFile (Disk.readFile_writeFile hwrite), rfl⟩
  exact ⟨w', (generate_eq_ok_iff henc.writesFiles).2
    ⟨r, prepared, _, hrequest, hprepare, hencode, hrecord, rfl⟩, hsame⟩

/-- A job that is settled can be generated again, and nothing changes. -/
theorem SettledOn.generate (henc : enc.FollowsRequest contents) (hj : j.Planned)
    (h : j.SettledOn contents output d c) (hsame : d.SameTree v.disk) :
    ∃ v', j.generate enc output v = (v', .ok c) ∧ d.SameTree v'.disk := by
  obtain ⟨r, bytes, hrequest, hbytes, hread, habove, rfl⟩ := h
  have hnamed := isNamed_path hj output
  obtain ⟨above, hparent⟩ := hnamed.exists_parent
  have hdirectory := (habove above hparent).mono hsame.keepsDirectories hsame.workingDirectory
  have hprepare := (prepare_eq_ok_iff henc.writesFiles hparent).2
    (Disk.createDirectories_of_hasDirectory hdirectory)
  obtain ⟨written, hwrite, hsame'⟩ :=
    Disk.writeFile_of_readFile (Disk.hasTrailing_of_isNamed hnamed) (hsame.readFile hread)
  obtain ⟨v', hgenerate, hend⟩ := generate_of_writeFile henc hrequest hbytes hprepare hwrite
  exact ⟨v', hgenerate, (hsame.trans hsame').trans hend⟩

/-- A job that is settled has a record that tells what stands at its path. -/
theorem SettledOn.completedOn (hj : j.Planned) (h : j.SettledOn contents output d c) :
    j.CompletedOn output d c := by
  obtain ⟨r, bytes, -, -, hread, -, rfl⟩ := h
  exact ⟨_, rfl, portable_relativePath hj, Disk.digest_eq_ok_iff.2 ⟨bytes, hread, rfl, rfl⟩⟩

end Job

/-! ## Several jobs -/

variable {enc : Encoder} {contents : EncodeRequest → Option ByteArray} {output : String}
  {total i : Nat} {jobs : List Job} {w v : World enc.State} {d : Disk}

/-- Jobs of distinct places that are all generated are settled at the end. -/
theorem execute_settled (henc : enc.FollowsRequest contents) (hplanned : ∀ j ∈ jobs, j.Planned)
    (hplaces : (jobs.map Job.place).Nodup)
    (hfailure : (execute enc output total i jobs w).failure = none) :
    let x := execute enc output total i jobs w
    w.disk.ChangesFiles (jobs.map fun j => w.disk.target (j.path output)) x.disk ∧
      List.Forall₂ (Job.SettledOn contents output x.disk) jobs x.completed := by
  induction jobs generalizing i w with
  | nil => exact ⟨.refl w.disk, .nil⟩
  | cons j jobs ih =>
    obtain ⟨hj, hjobs⟩ := List.forall_mem_cons.1 hplanned
    rw [List.map_cons, List.nodup_cons] at hplaces
    obtain ⟨w', c, hgenerate, hrest⟩ := execute_cons_of_none hfailure
    rw [execute_cons_of_ok hgenerate]
    obtain ⟨hone, hsettled⟩ := Job.settledOn_of_generate henc hgenerate
    obtain ⟨hothers, hcompleted⟩ := ih hjobs hplaces.2 hrest
    have hnot := Job.target_not_mem hj hjobs output w'.disk hplaces.1
    have hkept := hsettled.changesFiles hothers hnot
    simp only [hone.target] at hothers
    exact ⟨hone.trans hothers, .cons hkept hcompleted⟩

/-- Jobs that are settled can all be generated again, and nothing changes. -/
theorem execute_of_settled (henc : enc.FollowsRequest contents) (hplanned : ∀ j ∈ jobs, j.Planned)
    {completed : List Completion}
    (h : List.Forall₂ (Job.SettledOn contents output d) jobs completed)
    (hsame : d.SameTree v.disk) (total i : Nat) :
    let x := execute enc output total i jobs v
    x.completed = completed ∧ x.failure = none ∧ d.SameTree x.disk := by
  induction h generalizing i v with
  | nil => exact ⟨rfl, rfl, hsame⟩
  | cons hsettled _ ih =>
    obtain ⟨hj, hjobs⟩ := List.forall_mem_cons.1 hplanned
    obtain ⟨v', hgenerate, hsame'⟩ := hsettled.generate henc hj hsame
    obtain ⟨hcompleted, hfailure, hlast⟩ := ih hjobs hsame' (i + 1)
    rw [execute_cons_of_ok hgenerate]
    exact ⟨congrArg _ hcompleted, hfailure, hlast⟩

end FixtureMatrix
