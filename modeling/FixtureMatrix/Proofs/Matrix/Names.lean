import FixtureMatrix.Matrix.Run
import FixtureMatrix.Proofs.Matrix.Plan
import FixtureMatrix.Proofs.Path.Components
import Mathlib.Logic.Function.Basic

/-!
# Names of planned files

* `segments_injective`: a profile can be read off its directory.
* `stem_injective`: the name of a benchmark file tells what it repeats, and up
  to how many rows.
* `components_relativePath`: the steps of a planned path are the profile's
  segments and the file name, each a plain name.
* `fileName?_path`: below any output root the file keeps its name.
-/

namespace FixtureMatrix

open FixtureMatrix.Path

/-! ## Directories -/

theorem PageVersion.ofText_text (v : PageVersion) : PageVersion.ofText v.text = .ok v := by
  cases v <;> rfl

theorem PageVersion.text_injective : Function.Injective PageVersion.text := by
  intro v w h
  have hread := PageVersion.ofText_text v
  rw [h, PageVersion.ofText_text w] at hread
  exact (Except.ok.inj hread).symm

/-- A codec is found by its segment, or by the lack of one. -/
theorem Compression.find?_dirName? (x : Compression) :
    Compression.all.find? (fun y => y.dirName? = x.dirName?) = some x := by
  cases x <;> rfl

theorem Compression.dirName?_injective : Function.Injective Compression.dirName? := by
  intro x y h
  have hfound := Compression.find?_dirName? x
  rw [h, Compression.find?_dirName? y] at hfound
  exact (Option.some.inj hfound).symm

namespace Profile

variable {p q : Profile}

theorem mem_segments {s : String} :
    s ∈ p.segments ↔ s = p.pageVersion.text ∨ p.dictionary = true ∧ s = "dict" ∨
      p.layout = .multi ∧ s = "multi" ∨ p.compression.dirName? = some s := by
  simp only [segments, List.mem_cons, List.mem_append, or_assoc, Option.mem_toList,
    List.mem_ite_nil_right, List.not_mem_nil, or_false]

/-- A segment is a plain name without a dot. -/
theorem isName_of_mem_segments {s : String} (h : s ∈ p.segments) :
    IsName s ∧ '.' ∉ s.toList := by
  have hplain : ∀ t : String, t.toList ≠ [] → '.' ∉ t.toList → '/' ∉ t.toList →
      IsName t ∧ '.' ∉ t.toList := by
    intro t hne hdot hslash
    obtain ⟨c, cs, hcs⟩ := List.exists_cons_of_ne_nil hne
    have hc : c ∈ t.toList := hcs ▸ List.mem_cons_self
    exact ⟨isName_of_mem hc (fun heq => hdot (heq ▸ hc)) hslash, hdot⟩
  rcases mem_segments.1 h with rfl | ⟨-, rfl⟩ | ⟨-, rfl⟩ | hcodec
  · cases p.pageVersion <;> exact hplain _ (by decide) (by decide) (by decide)
  · exact hplain _ (by decide) (by decide) (by decide)
  · exact hplain _ (by decide) (by decide) (by decide)
  · cases hp : p.compression <;> rw [hp] at hcodec <;> cases hcodec <;>
      exact hplain _ (by decide) (by decide) (by decide)

theorem dict_mem_segments : "dict" ∈ p.segments ↔ p.dictionary = true := by
  have hversion : "dict" ≠ p.pageVersion.text := by cases p.pageVersion <;> decide
  have hcodec : p.compression.dirName? ≠ some "dict" := by cases p.compression <;> decide
  simp [mem_segments, hversion, hcodec]

theorem multi_mem_segments : "multi" ∈ p.segments ↔ p.layout = .multi := by
  have hversion : "multi" ≠ p.pageVersion.text := by cases p.pageVersion <;> decide
  have hcodec : p.compression.dirName? ≠ some "multi" := by cases p.compression <;> decide
  simp [mem_segments, hversion, hcodec]

theorem segments_injective : Function.Injective segments := by
  intro p q h
  have hdictionary : p.dictionary = q.dictionary := by
    rw [Bool.eq_iff_iff, ← dict_mem_segments, h, dict_mem_segments]
  have hmulti : p.layout = .multi ↔ q.layout = .multi := by
    rw [← multi_mem_segments, h, multi_mem_segments]
  have hlayout : p.layout = q.layout := by
    cases hp : p.layout <;> cases hq : q.layout <;> simp_all
  rw [segments, segments, hdictionary, hlayout] at h
  obtain ⟨htext, hrest⟩ := List.cons.inj h
  have hcodec : p.compression.dirName? = q.compression.dirName? := by
    rw [← Option.head?_toList (o := p.compression.dirName?), List.append_cancel_left hrest,
      Option.head?_toList]
  obtain ⟨version, dictionary, layout, codec⟩ := p
  obtain ⟨version', dictionary', layout', codec'⟩ := q
  obtain rfl : version = version' := PageVersion.text_injective htext
  obtain rfl : dictionary = dictionary' := hdictionary
  obtain rfl : layout = layout' := hlayout
  obtain rfl : codec = codec' := Compression.dirName?_injective hcodec
  rfl

end Profile

/-! ## File names -/

/-- What the names of benchmark files start with. -/
def BenchVariant.stemStart : BenchVariant → String
  | nullable => "benches_"
  | required => "benches_required_"

theorem BenchVariant.stem_eq (v : BenchVariant) (rows : Nat) :
    v.stem rows = v.stemStart ++ rows.repr := by
  cases v <;> rfl

theorem BenchVariant.toList_stem (v : BenchVariant) (rows : Nat) :
    (v.stem rows).toList = v.stemStart.toList ++ Digits.ofNat rows := by
  rw [stem_eq, String.toList_append, Nat.toList_repr, Digits.ofNat]

theorem BenchVariant.stem_injective {v w : BenchVariant} {m n : Nat}
    (h : v.stem m = w.stem n) : v = w ∧ m = n := by
  have hlists := congrArg String.toList h
  rw [toList_stem, toList_stem] at hlists
  have hstart : ∀ {k l : Nat},
      nullable.stemStart.toList ++ Digits.ofNat k ≠
        required.stemStart.toList ++ Digits.ofNat l := by
    intro k l hkl
    have hrest : Digits.ofNat k = "required_".toList ++ Digits.ofNat l := by
      change nullable.stemStart.toList ++ Digits.ofNat k =
        nullable.stemStart.toList ++ ("required_".toList ++ Digits.ofNat l) at hkl
      exact List.append_cancel_left hkl
    have hr : 'r' ∈ Digits.ofNat k := by
      rw [hrest]
      exact List.mem_append_left _ (by decide)
    exact absurd (Digits.isDigit_of_mem_ofNat hr) (by decide)
  cases v with
  | nullable =>
    cases w with
    | nullable => exact ⟨rfl, Digits.ofNat_injective (List.append_cancel_left hlists)⟩
    | required => exact absurd hlists hstart
  | required =>
    cases w with
    | nullable => exact absurd hlists.symm hstart
    | required => exact ⟨rfl, Digits.ofNat_injective (List.append_cancel_left hlists)⟩

namespace Job

variable {j : Job}

/-- The name of a planned file is a plain name with a dot. -/
theorem isName_fileName (h : j.Planned) : IsName j.fileName ∧ '.' ∈ j.fileName.toList := by
  cases h with
  | @canonical d p hd _ =>
    have hnames : ∀ d ∈ CaseDescriptor.canonical,
        'e' ∈ d.fileName.toList ∧ '/' ∉ d.fileName.toList ∧ '.' ∈ d.fileName.toList := by decide
    obtain ⟨hletter, hslash, hdot⟩ := hnames d hd
    exact ⟨isName_of_mem hletter (by decide) hslash, hdot⟩
  | @bench variant rows p _ _ =>
    have hlist : (Job.bench variant rows p).fileName.toList =
        variant.stemStart.toList ++ Digits.ofNat rows ++ ".parquet".toList := by
      rw [bench, String.toList_append, BenchVariant.toList_stem]
    have hstart : 'e' ∈ variant.stemStart.toList ∧ '/' ∉ variant.stemStart.toList := by
      cases variant <;> decide
    have hdigits : '/' ∉ Digits.ofNat rows := fun hmem =>
      absurd (Digits.isDigit_of_mem_ofNat hmem) (by decide)
    have hend : '.' ∈ ".parquet".toList ∧ '/' ∉ ".parquet".toList := by decide
    refine ⟨isName_of_mem (c := 'e') ?_ (by decide) ?_, ?_⟩
    · rw [hlist]
      exact List.mem_append_left _ (List.mem_append_left _ hstart.1)
    · simp only [hlist, List.mem_append, not_or]
      exact ⟨⟨hstart.2, hdigits⟩, hend.2⟩
    · rw [hlist]
      exact List.mem_append_right _ hend.1

/-! ## Paths -/

theorem isName_of_mem_steps (h : j.Planned) :
    ∀ s ∈ j.profile.segments ++ [j.fileName], IsName s := by
  intro s hs
  rcases List.mem_append.1 hs with hdir | hfile
  · exact (Profile.isName_of_mem_segments hdir).1
  · rw [List.mem_singleton.1 hfile]
    exact (isName_fileName h).1

theorem components_relativePath (h : j.Planned) :
    components j.relativePath = (j.profile.segments ++ [j.fileName]).map .normal :=
  components_ofSegments (by simp) (isName_of_mem_steps h)

theorem fileName?_path (h : j.Planned) (output : String) :
    fileName? (j.path output) = some j.fileName :=
  fileName?_join (isName_of_mem_steps h)

end Job

end FixtureMatrix
