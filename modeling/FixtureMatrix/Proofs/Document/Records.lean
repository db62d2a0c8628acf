import FixtureMatrix.Document.JsonText
import FixtureMatrix.Document.Profile
import FixtureMatrix.Proofs.Json.RoundTrip
import FixtureMatrix.Proofs.Outcome

/-!
# Decoding what was written

A decoder of JSON text reads a value with its places.  `Reads` says what it
makes of a value wherever its parts stand in a text, so that the places need
not be followed.

* `reads_string`, `reads_unsigned`, `reads_bool`, `reads_choice`, `reads_list`:
  the values a notation has.
* `reads_record`: an object with the fields of a record in their order fills
  the record, one field after the other.
* `Profile.reads_toJson`: a written profile is read back.
-/

namespace FixtureMatrix

namespace Json

/-! ## Values with their places -/

theorem Atom.toJson_injective {a b : Atom} (h : a.toJson = b.toJson) : a = b := by
  cases a <;> cases b <;> simp_all [Atom.toJson]

namespace Located

variable {v : Located}

/-- A value without parts is an atom of the text. -/
theorem eq_atom_of_toJson? {a : Atom} (h : v.toJson? = some a.toJson) :
    ∃ start stop, v = .atom start stop a := by
  cases v with
  | atom start stop b =>
    rw [toJson?] at h
    rw [Atom.toJson_injective (Option.some.inj h)]
    exact ⟨start, stop, rfl⟩
  | array start items tail => cases tail <;> cases a <;> simp [toJson?, Atom.toJson] at h
  | object start entries tail => cases tail <;> cases a <;> simp [toJson?, Atom.toJson] at h
  | broken start fail => simp [toJson?] at h

theorem eq_array_of_toJson? {items : List Json} (h : v.toJson? = some (.arr items)) :
    ∃ start vs stop, v = .array start vs (.closed stop) ∧ itemsToJson? vs = some items := by
  cases v with
  | atom start stop b => cases b <;> simp [toJson?, Atom.toJson] at h
  | array start vs tail =>
    cases tail with
    | closed stop => exact ⟨start, vs, stop, rfl, by simpa [toJson?] using h⟩
    | _ => simp [toJson?] at h
  | object start entries tail => cases tail <;> simp [toJson?] at h
  | broken start fail => simp [toJson?] at h

theorem eq_object_of_toJson? {entries : List (String × Json)}
    (h : v.toJson? = some (.obj entries)) :
    ∃ start es stop, v = .object start es (.closed stop) ∧ entriesToJson? es = some entries := by
  cases v with
  | atom start stop b => cases b <;> simp [toJson?, Atom.toJson] at h
  | array start vs tail => cases tail <;> simp [toJson?] at h
  | object start es tail =>
    cases tail with
    | closed stop => exact ⟨start, es, stop, rfl, by simpa [toJson?] using h⟩
    | broken fail => simp [toJson?] at h
  | broken start fail => simp [toJson?] at h

theorem itemsToJson?_eq_cons {vs : List (Located × Nat)} {j : Json} {items : List Json}
    (h : itemsToJson? vs = some (j :: items)) :
    ∃ v after rest, vs = (v, after) :: rest ∧ v.toJson? = some j ∧
      itemsToJson? rest = some items := by
  cases vs with
  | nil => simp [itemsToJson?] at h
  | cons first rest =>
    obtain ⟨v, after⟩ := first
    simp only [itemsToJson?, Option.bind_eq_bind, Option.bind_eq_some_iff, Option.pure_def,
      Option.some.injEq, List.cons.injEq] at h
    obtain ⟨_, hv, _, hrest, rfl, rfl⟩ := h
    exact ⟨v, after, rest, rfl, hv, hrest⟩

theorem entriesToJson?_eq_cons {es : List ((String × Nat) × (Located × Nat))} {key : String}
    {j : Json} {entries : List (String × Json)}
    (h : entriesToJson? es = some ((key, j) :: entries)) :
    ∃ place v after rest, es = ((key, place), (v, after)) :: rest ∧ v.toJson? = some j ∧
      entriesToJson? rest = some entries := by
  cases es with
  | nil => simp [entriesToJson?] at h
  | cons first rest =>
    obtain ⟨⟨key', place⟩, v, after⟩ := first
    simp only [entriesToJson?, Option.bind_eq_bind, Option.bind_eq_some_iff, Option.pure_def,
      Option.some.injEq, List.cons.injEq, Prod.mk.injEq] at h
    obtain ⟨_, hv, _, hrest, ⟨rfl, rfl⟩, rfl⟩ := h
    exact ⟨place, v, after, rest, rfl, hv, hrest⟩

theorem itemsToJson?_eq_nil {vs : List (Located × Nat)} (h : itemsToJson? vs = some []) :
    vs = [] := by
  cases vs with
  | nil => rfl
  | cons first rest =>
    obtain ⟨v, after⟩ := first
    simp [itemsToJson?, Option.bind_eq_some_iff] at h

theorem entriesToJson?_eq_nil {es : List ((String × Nat) × (Located × Nat))}
    (h : entriesToJson? es = some []) : es = [] := by
  cases es with
  | nil => rfl
  | cons first rest =>
    obtain ⟨⟨key, place⟩, v, after⟩ := first
    simp [entriesToJson?, Option.bind_eq_some_iff] at h

end Located

end Json

namespace Document.JsonText

open Json (Located Atom)

/-! ## Values of the notation -/

/-- A decoder makes `a` of a value, wherever it stands in a text. -/
def Reads (decode : Located → Decoded Nat α) (j : Json) (a : α) : Prop :=
  ∀ v : Located, v.toJson? = some j → decode v = .ok a

theorem reads_string (expected s : String) : Reads (string expected) (.str s) s := by
  intro v hv
  obtain ⟨start, stop, rfl⟩ := Located.eq_atom_of_toJson? (a := .str s) hv
  rfl

theorem reads_bool (b : Bool) : Reads bool (.bool b) b := by
  intro v hv
  obtain ⟨start, stop, rfl⟩ := Located.eq_atom_of_toJson? (a := .bool b) hv
  rfl

theorem reads_unsigned {limit n : Nat} (hn : n < limit) (range : String) :
    Reads (unsigned limit range) (.nat n) n := by
  intro v hv
  obtain ⟨start, stop, rfl⟩ := Located.eq_atom_of_toJson? (a := .int (Int.ofNat n)) hv
  rw [unsigned, if_pos ⟨Int.natCast_nonneg n, Int.ofNat_lt.2 hn⟩]
  rfl

theorem reads_choice {options : List (String × α)} {name : String} {a : α}
    (h : chosen? options name = some a) : Reads (choice options) (.str name) a := by
  intro v hv
  obtain ⟨start, stop, rfl⟩ := Located.eq_atom_of_toJson? (a := .str name) hv
  rw [choice, choice.pick, h]

/-- Items that are read one by one are read as a list. -/
theorem reads_list {item : Located → Decoded Nat α} {f : α → Json} {as : List α}
    (h : ∀ a ∈ as, Reads item (f a) a) : Reads (list item) (.ofList f as) as := by
  intro v hv
  obtain ⟨start, vs, stop, rfl, hvs⟩ := Located.eq_array_of_toJson? hv
  rw [list]
  clear hv
  induction as generalizing vs with
  | nil =>
    rw [Located.itemsToJson?_eq_nil hvs]
    rfl
  | cons a as ih =>
    obtain ⟨v, after, rest, rfl, hv, hrest⟩ := Located.itemsToJson?_eq_cons hvs
    obtain ⟨ha, has⟩ := List.forall_mem_cons.1 h
    rw [readItems, ha v hv]
    simp only [ih has rest hrest]
    rfl

/-! ## Records -/

variable {σ : Type}

/-- Fields in their order, read one after the other, lead from one state of a
record to another. -/
inductive Fills : List (String × (Located → σ → Decoded Nat σ)) → List (String × Json) →
    σ → σ → Prop
  | nil {s : σ} : Fills [] [] s s
  | cons {key : String} {decode : Located → σ → Decoded Nat σ} {j : Json}
      {fields : List (String × (Located → σ → Decoded Nat σ))} {entries : List (String × Json)}
      {s s' t : σ} (field : Reads (fun v => decode v s) j s') (others : Fills fields entries s' t) :
      Fills ((key, decode) :: fields) ((key, j) :: entries) s t

/-- Of options with distinct names each is found under its own. -/
theorem chosen?_of_mem {options : List (String × α)} (h : (options.map Prod.fst).Nodup)
    {o : String × α} (ho : o ∈ options) : chosen? options o.1 = some o.2 := by
  induction options with
  | nil => cases ho
  | cons first options ih =>
    rw [List.map_cons, List.nodup_cons] at h
    rcases List.mem_cons.1 ho with rfl | ho
    · simp [chosen?]
    · have hne : first.1 ≠ o.1 := fun heq => h.1 (heq ▸ List.mem_map_of_mem ho)
      have hrest := ih h.2 ho
      rw [chosen?] at hrest ⊢
      rw [List.find?_cons_of_neg (by simpa using hne)]
      exact hrest

theorem readEntries_of_fills {shape : RecordShape Located Nat σ}
    {fields : List (String × (Located → σ → Decoded Nat σ))} {entries : List (String × Json)}
    {s t : σ} (h : Fills fields entries s t)
    (hknown : ∀ f ∈ fields, chosen? shape.fields f.1 = some f.2)
    (hnodup : (fields.map Prod.fst).Nodup) (seen : List String) (hseen : ∀ f ∈ fields, f.1 ∉ seen)
    (es : List ((String × Nat) × (Located × Nat)))
    (hes : Located.entriesToJson? es = some entries) :
    readEntries shape (es.map entry) seen s = .ok t := by
  induction h generalizing seen es with
  | nil =>
    rw [Located.entriesToJson?_eq_nil hes]
    rfl
  | @cons key decode j fields entries s s' t field others ih =>
    obtain ⟨place, v, after, rest, rfl, hv, hrest⟩ := Located.entriesToJson?_eq_cons hes
    obtain ⟨hkey, hknown⟩ := List.forall_mem_cons.1 hknown
    obtain ⟨hfresh, hseen⟩ := List.forall_mem_cons.1 hseen
    rw [List.map_cons, List.nodup_cons] at hnodup
    have hothers := ih hknown hnodup.2 (key :: seen) (fun f hf hmem => by
      rcases List.mem_cons.1 hmem with heq | hmem
      · exact hnodup.1 (List.mem_map.2 ⟨f, hf, heq⟩)
      · exact hseen f hf hmem) rest hrest
    rw [List.map_cons, readEntries]
    have hnew : seen.contains (entry ((key, place), (v, after))).key = false := by
      simpa [entry] using hfresh
    have hfield : decode (entry ((key, place), (v, after))).node s = .ok s' := field v hv
    have hfound : chosen? shape.fields (entry ((key, place), (v, after))).key = some decode := hkey
    simp only [hfound, hnew, Bool.false_eq_true, if_false, hfield]
    exact hothers

/-- A record written as an object with its fields in their order is read. -/
theorem reads_record {shape : RecordShape Located Nat σ} {entries : List (String × Json)}
    {init s : σ} (hkeys : (shape.fields.map Prod.fst).Nodup)
    (h : Fills shape.fields entries init s) (hmissing : shape.missing s = none) :
    Reads (record shape init) (.obj entries) s := by
  intro v hv
  obtain ⟨start, es, stop, rfl, hes⟩ := Located.eq_object_of_toJson? hv
  have hread := readEntries_of_fills h (fun f hf => chosen?_of_mem hkeys hf) hkeys []
    (fun _ _ => List.not_mem_nil) es hes
  rw [record, hread]
  simp only [bind, Except.bind, hmissing]
  rfl

end Document.JsonText

/-! ## Profiles -/

open Document.JsonText

theorem PageVersion.reads_toJson (v : PageVersion) :
    Reads (PageVersion.decode dialect) v.toJson v := by
  intro n hn
  have hnumber : v.number < Nat.pow 2 8 := by cases v <;> decide
  have hread : dialect.unsigned (Nat.pow 2 8) "u8" n = .ok v.number :=
    reads_unsigned hnumber "u8" n hn
  have hback : PageVersion.ofNumber? v.number = some v := by cases v <;> rfl
  rw [PageVersion.decode, hread]
  simp only [bind, Except.bind, hback]
  rfl

theorem PageLayout.reads_toJson (l : PageLayout) : Reads (PageLayout.decode dialect) l.toJson l :=
  reads_choice (by cases l <;> rfl)

theorem Compression.reads_toJson (c : Compression) :
    Reads (Compression.decode dialect) c.toJson c :=
  reads_choice (by cases c <;> rfl)

/-- A decoded field is put into the record. -/
theorem Document.JsonText.Reads.field {σ : Type} {decode : Json.Located → Decoded Nat α}
    {j : Json} {a : α} (h : Reads decode j a) (put : α → σ) :
    Reads (fun v => do return put (← decode v)) j (put a) := by
  intro v hv
  simp only [h v hv]
  rfl

theorem Profile.reads_toJson (p : Profile) : Reads (Profile.decode dialect) p.toJson p := by
  intro v hv
  have hfills : Fills (Profile.shape dialect).fields
      [("page_version", p.pageVersion.toJson), ("dictionary", .bool p.dictionary),
        ("layout", p.layout.toJson), ("compression", p.compression.toJson)] {}
      ⟨some p.pageVersion, some p.dictionary, some p.layout, some p.compression⟩ :=
    .cons ((PageVersion.reads_toJson _).field _) <| .cons ((reads_bool _).field _) <|
      .cons ((PageLayout.reads_toJson _).field _) <|
      .cons ((Compression.reads_toJson _).field _) .nil
  have hread : dialect.record (Profile.shape dialect) {} v = _ :=
    reads_record (by decide) hfills rfl v hv
  rw [Profile.decode, hread]
  rfl

end FixtureMatrix
