import FixtureMatrix.Manifest.Disk
import FixtureMatrix.Proofs.Matrix.Names
import FixtureMatrix.Proofs.Matrix.Settings
import Mathlib.Data.List.Nodup
import Mathlib.Data.List.ProdSigma

/-!
# Places of planned files

The place of a job is its file name and its profile, the two things that its
path is made of.

* `places_nodup_planFull_iff`, `places_nodup_benches_iff`: a pass takes no place
  twice exactly when its settings list nothing twice.
* `paths_apart`: the files of a plan never collide with each other or with the
  manifest.
-/

namespace FixtureMatrix

open FixtureMatrix.Path

/-- The file name and the profile of a job. -/
def Job.place (j : Job) : String × Profile :=
  (j.fileName, j.profile)

/-! ## Places of each pass -/

theorem CaseDescriptor.fileNames_nodup : (canonical.map CaseDescriptor.fileName).Nodup := by
  decide

/-- A list of pairs with no repetition repeats none of the first members. -/
theorem nodup_of_product_cons {α β : Type} {as : List α} {b : β} {bs : List β}
    (h : (as ×ˢ (b :: bs)).Nodup) : as.Nodup := by
  induction as with
  | nil => exact List.nodup_nil
  | cons a as ih =>
    rw [List.product_cons, List.nodup_append] at h
    obtain ⟨-, hrest, hdisjoint⟩ := h
    refine List.nodup_cons.2 ⟨fun hmem => ?_, ih hrest⟩
    have hfirst : (a, b) ∈ (b :: bs).map fun x => (a, x) :=
      List.mem_map_of_mem List.mem_cons_self
    have hlater : (a, b) ∈ as ×ˢ (b :: bs) := List.mem_product.2 ⟨hmem, List.mem_cons_self⟩
    exact hdisjoint _ hfirst _ hlater rfl

/-- The canonical pass takes a place twice exactly when its settings list a
combination twice. -/
theorem MatrixConfig.places_nodup_planFull_iff {c : MatrixConfig} :
    (c.planFull.map Job.place).Nodup ↔ (c.pageVersions ×ˢ c.dictionary ×ˢ c.codecs).Nodup := by
  have hplaces : c.planFull.map Job.place =
      (CaseDescriptor.canonical ×ˢ c.pageVersions ×ˢ c.dictionary ×ˢ c.codecs).map fun x =>
        (x.1.fileName, ⟨x.2.1, x.2.2.1, .single, x.2.2.2⟩) := by
    simp only [planFull, SProd.sprod, List.product, List.map_flatMap, List.map_map]
    rfl
  have hcases := CaseDescriptor.fileNames_nodup
  rw [hplaces]
  constructor
  · intro h
    have hall := h.of_map
    rw [CaseDescriptor.canonical, List.product_cons, List.nodup_append] at hall
    exact hall.1.of_map
  · intro h
    refine (hcases.of_map.product h).map_on fun x hx y hy hxy => ?_
    obtain ⟨d, version, dictionary, codec⟩ := x
    obtain ⟨d', version', dictionary', codec'⟩ := y
    obtain ⟨hname, hprofile⟩ := Prod.mk.inj hxy
    obtain ⟨rfl, rfl, -, rfl⟩ := Profile.mk.inj hprofile
    have hd : d = d' := List.inj_on_of_nodup_map hcases (List.mem_product.1 hx).1
      (List.mem_product.1 hy).1 hname
    rw [hd]

/-- The benchmark pass takes a place twice exactly when its row counts repeat. -/
theorem Job.places_nodup_benches_iff {sizes : List Nat} :
    ((Job.benches sizes).map Job.place).Nodup ↔ sizes.Nodup := by
  have hplaces : (Job.benches sizes).map Job.place =
      (sizes ×ˢ benchProfiles).map fun x => (x.2.1.stem x.1 ++ ".parquet", x.2.2) := by
    simp only [benches, SProd.sprod, List.product, List.map_flatMap, List.map_map]
    rfl
  have hprofiles : benchProfiles.Nodup := by decide
  rw [hplaces]
  constructor
  · intro h
    exact nodup_of_product_cons h.of_map
  · intro h
    refine (h.product hprofiles).map_on fun x _ y _ hxy => ?_
    obtain ⟨rows, variant, profile⟩ := x
    obtain ⟨rows', variant', profile'⟩ := y
    obtain ⟨hname, hprofile⟩ := Prod.mk.inj hxy
    have hstems : variant.stem rows = variant'.stem rows' := (String.append_left_inj _).1 hname
    obtain ⟨rfl, rfl⟩ := BenchVariant.stem_injective hstems
    rw [show profile = profile' from hprofile]

/-- No benchmark file has the name of a canonical case. -/
theorem CaseDescriptor.fileName_ne_bench {d : CaseDescriptor} (hd : d ∈ canonical)
    (v : BenchVariant) (rows : Nat) : d.fileName ≠ v.stem rows ++ ".parquet" := by
  have hcases : ∀ d ∈ canonical, d.fileName.toList.take 2 ≠ ['b', 'e'] := by decide
  have hbench : (v.stem rows ++ ".parquet").toList.take 2 = ['b', 'e'] := by
    rw [String.toList_append, BenchVariant.toList_stem]
    cases v <;> rfl
  intro heq
  exact hcases d hd (heq ▸ hbench)

/-! ## Paths of planned jobs -/

namespace Job

variable {a b : Job}

theorem place_eq_of_components (ha : a.Planned) (hb : b.Planned)
    (h : components a.relativePath = components b.relativePath) : a.place = b.place := by
  rw [components_relativePath ha, components_relativePath hb] at h
  have hsteps := List.map_injective_iff.2 (fun _ _ => Component.normal.inj) h
  obtain ⟨hdir, hfile⟩ := List.append_inj' hsteps rfl
  rw [place, place, Profile.segments_injective hdir, List.singleton_inj.1 hfile]

/-- A file never stands where another one needs a directory: its name has a
dot, and no segment has. -/
theorem components_eq_of_prefix (ha : a.Planned) (hb : b.Planned)
    (h : components a.relativePath <+: components b.relativePath) :
    components a.relativePath = components b.relativePath := by
  rw [components_relativePath ha, components_relativePath hb] at h ⊢
  have hsteps : a.profile.segments ++ [a.fileName] <+: b.profile.segments ++ [b.fileName] :=
    (List.prefix_map_iff_of_injective fun _ _ => Component.normal.inj).1 h
  rcases List.prefix_concat_iff.1 hsteps with heq | hdir
  · rw [heq]
  · have hmem : a.fileName ∈ b.profile.segments := hdir.subset (by simp)
    exact absurd (isName_fileName ha).2 (Profile.isName_of_mem_segments hmem).2

/-- Every planned file stands in the directory of a page version at least. -/
theorem components_ne_manifest (ha : a.Planned) :
    components a.relativePath ≠ components manifestFile := by
  intro heq
  have hlen := congrArg List.length heq
  have hmanifest : (components manifestFile).length = 1 := by decide
  rw [components_relativePath ha, hmanifest] at hlen
  simp [Profile.segments] at hlen

end Job

/-! ## A whole plan -/

namespace MatrixConfig

variable {c : MatrixConfig} {jobs : List Job}

theorem places_nodup (hvalid : c.validate = .ok ()) (hplan : c.plan = .ok jobs) :
    (jobs.map Job.place).Nodup := by
  obtain ⟨hmatrix, hbench⟩ := validate_eq_ok_iff.1 hvalid
  obtain ⟨-, rfl⟩ := plan_eq_ok_iff.1 hplan
  rw [List.map_append, List.nodup_append]
  refine ⟨?_, ?_, ?_⟩
  · split
    · rename_i hon
      obtain ⟨-, hversions, hdictionary, hcodecs⟩ := checkMatrix_eq_ok_iff.1 (hmatrix hon)
      exact places_nodup_planFull_iff.2 (hversions.product (hdictionary.product hcodecs))
    · exact List.nodup_nil
  · split
    · rename_i hon
      exact Job.places_nodup_benches_iff.2 (BenchConfig.sizes_nodup (hbench hon))
    · exact List.nodup_nil
  · intro x hx y hy heq
    obtain ⟨j, hj, rfl⟩ := List.mem_map.1 hx
    obtain ⟨k, hk, rfl⟩ := List.mem_map.1 hy
    obtain ⟨d, hd, version, -, dictionary, -, codec, -, rfl⟩ :=
      mem_planFull_iff.1 (List.mem_ite_nil_right.1 hj).2
    obtain ⟨rows, -, p, -, rfl⟩ := mem_benches_iff.1 (List.mem_ite_nil_right.1 hk).2
    exact CaseDescriptor.fileName_ne_bench hd p.1 rows (congrArg Prod.fst heq)

/-- The files of a plan never collide: no two jobs have the same path, none has
a path that leads through the file of another, and none takes the place of the
manifest. -/
theorem paths_apart (hvalid : c.validate = .ok ()) (hplan : c.plan = .ok jobs) :
    (jobs.map fun j => components j.relativePath).Nodup ∧
      (∀ a ∈ jobs, ∀ b ∈ jobs, components a.relativePath <+: components b.relativePath →
        components a.relativePath = components b.relativePath) ∧
      ∀ j ∈ jobs, components j.relativePath ≠ components manifestFile := by
  have hplanned : ∀ j ∈ jobs, j.Planned := fun j hj => planned_of_mem_plan hplan hj
  refine ⟨?_, ?_, ?_⟩
  · have hplaces := places_nodup hvalid hplan
    rw [List.Nodup, List.pairwise_map] at hplaces ⊢
    refine hplaces.imp_of_mem fun ha hb hne heq => ?_
    exact hne (Job.place_eq_of_components (hplanned _ ha) (hplanned _ hb) heq)
  · exact fun a ha b hb h => Job.components_eq_of_prefix (hplanned a ha) (hplanned b hb) h
  · exact fun j hj => Job.components_ne_manifest (hplanned j hj)

/-- The default settings enable both passes. -/
theorem paths_apart_default :
    ∃ jobs, plan {} = .ok jobs ∧ jobs.length = 96 ∧
      (jobs.map fun j => components j.relativePath).Nodup :=
  ⟨_, rfl, rfl, (paths_apart (c := {}) rfl rfl).1⟩

end MatrixConfig

end FixtureMatrix
