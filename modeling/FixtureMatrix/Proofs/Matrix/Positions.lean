import FixtureMatrix.Proofs.Matrix.Plan
import Mathlib.Tactic.Ring

/-!
# Jobs by their places in a plan

A plan goes through its dimensions in nested loops, so the place of a job tells what the
job is: it is the number whose digits are the job's places in the single dimensions.

* `getElem?_flatMap_of_length`: one such loop.
* `fullPlaces_planFull`: the full pass, with four of them.
* `planBench_eq_ok_iff_places`, `planBench_eq_error_iff`: the benchmark pass, or the first
  row count that it refuses.
* `plan_by_places`: what a plan holds, and when there is none.
-/

namespace FixtureMatrix

/-! ## Equally long blocks -/

section Blocks

variable {α β : Type} {f : α → List β} {n : Nat} {as : List α}

theorem length_flatMap_of_length (as : List α) (h : ∀ a, (f a).length = n) :
    (as.flatMap f).length = as.length * n := by
  induction as with
  | nil => simp
  | cons a as ih =>
    rw [List.flatMap_cons, List.length_append, h, ih, List.length_cons]
    ring

/-- Of equally long blocks one after the other, the `i`-th starts at `i * n`. -/
theorem getElem?_flatMap_of_length (h : ∀ a, (f a).length = n) {i j : Nat} {a : α}
    (hi : as[i]? = some a) (hj : j < n) : (as.flatMap f)[i * n + j]? = (f a)[j]? := by
  induction as generalizing i with
  | nil => cases hi
  | cons b as ih =>
    rw [List.flatMap_cons]
    cases i with
    | zero =>
      obtain rfl : b = a := Option.some.inj hi
      rw [Nat.zero_mul, Nat.zero_add, List.getElem?_append_left (by rw [h]; exact hj)]
    | succ i =>
      have hplace : (i + 1) * n + j = n + (i * n + j) := by ring
      rw [hplace, List.getElem?_append_right (by rw [h]; omega), h, Nat.add_sub_cancel_left]
      exact ih hi

/-- The place of an item within equally long blocks. -/
theorem place_lt {i m j : Nat} (hi : i < m) (hj : j < n) : i * n + j < m * n := by
  rw [Nat.mul_comm i]
  exact Nat.mul_add_lt_mul_of_lt_of_lt hi hj

end Blocks

/-! ## The full pass -/

/-- The jobs of the full pass: at each place, the case, the version, the dictionary flag
and the codec whose places are the digits of that place. -/
structure MatrixConfig.FullPlaces (c : MatrixConfig) (jobs : List Job) : Prop where
  length : jobs.length = 5 * c.pageVersions.length * c.dictionary.length * c.codecs.length
  job : ∀ (k : Fin CaseDescriptor.canonical.length) (p : Fin c.pageVersions.length)
    (d : Fin c.dictionary.length) (z : Fin c.codecs.length),
    jobs[((k * c.pageVersions.length + p) * c.dictionary.length + d) * c.codecs.length + z]? =
      some (.canonical CaseDescriptor.canonical[k]
        ⟨c.pageVersions[p], c.dictionary[d], .single, c.codecs[z]⟩)

theorem MatrixConfig.fullPlaces_planFull (c : MatrixConfig) : c.FullPlaces c.planFull := by
  have hcodecs : ∀ d version dictionary, (c.codecs.map fun codec =>
      Job.canonical d ⟨version, dictionary, .single, codec⟩).length = c.codecs.length :=
    fun _ _ _ => List.length_map _
  have hdictionary := fun d version => length_flatMap_of_length c.dictionary (hcodecs d version)
  have hversions := fun d => length_flatMap_of_length c.pageVersions (hdictionary d)
  unfold planFull
  constructor
  · rw [length_flatMap_of_length _ hversions, show CaseDescriptor.canonical.length = 5 from rfl]
    ring
  · intro k p d z
    have hplace : ((k * c.pageVersions.length + p) * c.dictionary.length + d) *
          c.codecs.length + z =
        k * (c.pageVersions.length * (c.dictionary.length * c.codecs.length)) +
          (p * (c.dictionary.length * c.codecs.length) + (d * c.codecs.length + z)) := by
      ring
    have hflags : d * c.codecs.length + z < c.dictionary.length * c.codecs.length :=
      place_lt d.isLt z.isLt
    have hrest : p * (c.dictionary.length * c.codecs.length) + (d * c.codecs.length + z) <
        c.pageVersions.length * (c.dictionary.length * c.codecs.length) :=
      place_lt p.isLt hflags
    rw [hplace, getElem?_flatMap_of_length hversions (List.getElem?_eq_getElem k.isLt) hrest,
      getElem?_flatMap_of_length (hdictionary _) (List.getElem?_eq_getElem p.isLt) hflags,
      getElem?_flatMap_of_length (hcodecs _ _) (List.getElem?_eq_getElem d.isLt) z.isLt,
      List.getElem?_map, List.getElem?_eq_getElem z.isLt]
    rfl

/-! ## The benchmark pass -/

/-- The jobs of the benchmark pass: six for each row count, one under each profile. -/
structure BenchPlaces (sizes : List Nat) (jobs : List Job) : Prop where
  length : jobs.length = 6 * sizes.length
  job : ∀ (i : Fin sizes.length) (j : Fin benchProfiles.length),
    jobs[6 * (i : Nat) + j]? = some (.bench benchProfiles[j].1 sizes[i] benchProfiles[j].2)

variable {sizes : List Nat} {jobs jobs' : List Job}

/-- There is one list at most with these jobs at their places. -/
theorem BenchPlaces.unique (h : BenchPlaces sizes jobs) (h' : BenchPlaces sizes jobs') :
    jobs = jobs' := by
  apply List.ext_getElem?
  intro place
  by_cases hplace : place < 6 * sizes.length
  · have hsplit : place = 6 * (place / 6) + place % 6 := by omega
    have hsize : place / 6 < sizes.length := by omega
    have hprofile : place % 6 < benchProfiles.length := Nat.mod_lt place (by decide)
    rw [hsplit]
    exact (h.job ⟨_, hsize⟩ ⟨_, hprofile⟩).trans (h'.job ⟨_, hsize⟩ ⟨_, hprofile⟩).symm
  · rw [List.getElem?_eq_none (by rw [h.length]; omega),
      List.getElem?_eq_none (by rw [h'.length]; omega)]

theorem benchPlaces_benches (sizes : List Nat) : BenchPlaces sizes (Job.benches sizes) := by
  have hprofiles : ∀ rows : Nat,
      (benchProfiles.map fun p => Job.bench p.1 rows p.2).length = 6 :=
    fun _ => rfl
  unfold Job.benches
  constructor
  · rw [length_flatMap_of_length _ hprofiles, Nat.mul_comm]
  · intro i j
    have hj : (j : Nat) < 6 := j.isLt
    rw [Nat.mul_comm, getElem?_flatMap_of_length hprofiles (List.getElem?_eq_getElem i.isLt) hj,
      List.getElem?_map, List.getElem?_eq_getElem j.isLt]
    rfl

namespace MatrixConfig

variable {c : MatrixConfig} {e : FixtureError}

/-- The first of several row counts that is not a positive multiple of 8. -/
def FirstRefused (sizes : List Nat) (rows : Nat) : Prop :=
  ∃ before later, sizes = before ++ rows :: later ∧ ¬ (0 < rows ∧ 8 ∣ rows) ∧
    ∀ size ∈ before, 0 < size ∧ 8 ∣ size

theorem badSize?_eq_some_iff {rows : Nat} :
    badSize? sizes = some rows ↔ FirstRefused sizes rows := by
  have hrefused : ∀ size : Nat, (size = 0 || size % benchTileRows ≠ 0 : Bool) = true ↔
      ¬ (0 < size ∧ 8 ∣ size) := by
    intro size
    unfold benchTileRows
    simp only [Bool.or_eq_true, decide_eq_true_eq]
    omega
  have hkept : ∀ size : Nat, (!(size = 0 || size % benchTileRows ≠ 0 : Bool)) = true ↔
      0 < size ∧ 8 ∣ size := by
    intro size
    rw [Bool.not_eq_true', ← Bool.not_eq_true, hrefused, not_not]
  unfold badSize? FirstRefused
  rw [List.find?_eq_some_iff_append]
  simp only [hrefused, hkept]
  constructor
  · rintro ⟨hrows, before, later, hsizes, hbefore⟩
    exact ⟨before, later, hsizes, hrows, hbefore⟩
  · rintro ⟨before, later, hsizes, hrows, hbefore⟩
    exact ⟨hrows, before, later, hsizes, hbefore⟩

theorem planBench_eq_ok_iff_places : c.planBench = .ok jobs ↔
    (∀ rows ∈ c.benchmarks.sizes, 0 < rows ∧ 8 ∣ rows) ∧
      BenchPlaces c.benchmarks.sizes jobs := by
  rw [planBench_eq_ok_iff]
  apply and_congr_right
  intro _
  constructor
  · rintro rfl
    exact benchPlaces_benches _
  · intro h
    exact h.unique (benchPlaces_benches _)

/-- A refused row count is blamed on the first benchmark file that it would have. -/
theorem planBench_eq_error_iff : c.planBench = .error e ↔
    ∃ rows, FirstRefused c.benchmarks.sizes rows ∧
      e = .config (benchProfiles[0].1.stem rows) (some benchProfiles[0].2)
        (.benchmarkSize rows 8) := by
  unfold planBench
  simp only [← badSize?_eq_some_iff]
  cases hbad : badSize? c.benchmarks.sizes with
  | none => simp
  | some rows =>
    simp only [Except.error.injEq, Option.some.injEq, exists_eq_left']
    rw [eq_comm]
    rfl

/-! ## Both passes -/

theorem plan_eq_ok_iff_append : c.plan = .ok jobs ↔ ∃ bench,
    (if c.benchmarks.enabled then c.planBench = .ok bench else bench = []) ∧
      jobs = (if c.matrix then c.planFull else []) ++ bench := by
  unfold plan
  cases c.benchmarks.enabled with
  | false =>
    simp only [Bool.false_eq_true, if_false, bind_eq_ok_iff, pure_eq_ok_iff, Except.ok.injEq,
      exists_eq_left', exists_eq_left]
    exact eq_comm
  | true =>
    simp only [if_true, bind_eq_ok_iff, pure_eq_ok_iff]
    apply exists_congr
    intro bench
    rw [eq_comm (b := jobs)]

theorem plan_eq_error_iff :
    c.plan = .error e ↔ c.benchmarks.enabled = true ∧ c.planBench = .error e := by
  unfold plan
  cases c.benchmarks.enabled with
  | false => simp [bind, Except.bind, pure, Except.pure]
  | true => simp only [if_true, bind_pure_eq_error_iff, true_and]

/-- What planning gives, whatever the configuration is: the full pass, the benchmark pass
or its first refused row count, and both one after the other as far as they are enabled. -/
theorem plan_by_places (c : MatrixConfig) :
    c.FullPlaces c.planFull ∧
    ((∃ jobs, c.planBench = .ok jobs) ↔ ∀ rows ∈ c.benchmarks.sizes, 0 < rows ∧ 8 ∣ rows) ∧
    (∀ jobs, c.planBench = .ok jobs ↔
      (∀ rows ∈ c.benchmarks.sizes, 0 < rows ∧ 8 ∣ rows) ∧
        BenchPlaces c.benchmarks.sizes jobs) ∧
    (∀ e, c.planBench = .error e ↔ ∃ rows, FirstRefused c.benchmarks.sizes rows ∧
      e = .config (benchProfiles[0].1.stem rows) (some benchProfiles[0].2)
        (.benchmarkSize rows 8)) ∧
    (∀ jobs, c.plan = .ok jobs ↔ ∃ bench,
      (if c.benchmarks.enabled then c.planBench = .ok bench else bench = []) ∧
        jobs = (if c.matrix then c.planFull else []) ++ bench) ∧
    ∀ e, c.plan = .error e ↔ c.benchmarks.enabled = true ∧ c.planBench = .error e := by
  refine ⟨c.fullPlaces_planFull, ?_, ?_, ?_, ?_, ?_⟩
  · constructor
    · rintro ⟨jobs, hjobs⟩
      exact (planBench_eq_ok_iff_places.1 hjobs).1
    · intro hsizes
      exact ⟨_, planBench_eq_ok_iff_places.2 ⟨hsizes, benchPlaces_benches _⟩⟩
  · intro jobs
    exact planBench_eq_ok_iff_places
  · intro e
    exact planBench_eq_error_iff
  · intro jobs
    exact plan_eq_ok_iff_append
  · intro e
    exact plan_eq_error_iff

end MatrixConfig

end FixtureMatrix
