import FixtureMatrix.Proofs.Columnar.Errors

/-!
# Values that do not fit their streams

Building an array takes columns apart: the items of all lists of a column become one
stream, the members of its structs one stream each, and so on further inside. A value
that has not the form of its type is blamed by the name of the field of its stream and
by its number there.

`Field.streams` lists the streams of a column with the rows that their values come from.

* `buildArray_list_mismatch`, `buildArray_struct_mismatch`: a list or a struct is blamed
  itself, or all of them have their form and something inside them is blamed.
* `Field.blamed_of_buildArray`: what is blamed stands in one of the streams.
* `Field.refused_of_mem_streams`: the row that it comes from has a value that does not
  fit the column.
* `Batch.mismatch_of_build`: what an error says of a batch.
* `Batch.nestedText_blamed`: below a list neither name nor number are those of the column.
-/

namespace FixtureMatrix

open ColumnArray Value

/-! ## What is blamed when an array is built -/

variable {name n : String} {t u : LogicalType} {row r : Nat} {vs : List Value} {v : Value}
  {item : Field} {members : List Field}

theorem LayoutError.Refusal.ne_mismatch {e : LayoutError} (h : e.Refusal) :
    e ≠ .valueMismatch n r u := by
  rintro rfl
  cases h

namespace LogicalType

theorem buildArray_leaf_mismatch (ht : t.isNested = false)
    (h : t.buildArray name vs = .error (.valueMismatch n r u)) :
    StopsAt name t 0 vs (.valueMismatch n r u) :=
  (buildArray_leaf_error ht h).resolve_right fun hrefused => hrefused.ne_mismatch rfl

/-- A list is blamed itself, or all values have the form of lists, and something is
blamed in the stream of their items. -/
theorem buildArray_list_mismatch
    (h : (list item).buildArray name vs = .error (.valueMismatch n r u)) :
    StopsAt name (.list item) 0 vs (.valueMismatch n r u) ∨
      (∀ v ∈ vs, v = .null ∨ (list item).Suits v) ∧
        item.buildArray (allItems vs) = .error (.valueMismatch n r u) := by
  rcases buildArray_list_error h with hstop | hitem | hrefused
  · exact Or.inl hstop
  · exact Or.inr hitem
  · exact absurd rfl hrefused.ne_mismatch

/-- A struct is blamed itself, or all values have the form of structs, and something is
blamed in the stream of a member. -/
theorem buildArray_struct_mismatch
    (h : (struct members).buildArray name vs = .error (.valueMismatch n r u)) :
    StopsAt name (.struct members) 0 vs (.valueMismatch n r u) ∨
      (∀ v ∈ vs, v = .null ∨ (struct members).Suits v) ∧
        Field.buildMembers members (vs.map (parts members.length)) =
          .error (.valueMismatch n r u) := by
  rcases buildArray_struct_error h with hstop | hmember | hrefused
  · exact Or.inl hstop
  · exact Or.inr hmember
  · exact absurd rfl hrefused.ne_mismatch

/-- A value that has not the form of its type itself is found before anything inside. -/
theorem stopsAt_of_not_suits (hv : v ∈ vs) (hnull : v ≠ .null) (hsuits : ¬ t.Suits v)
    (h : t.buildArray name vs = .error (.valueMismatch n r u)) :
    StopsAt name t 0 vs (.valueMismatch n r u) := by
  have hform : ¬ ∀ v ∈ vs, v = .null ∨ t.Suits v := by
    intro hvs
    rcases hvs v hv with heq | hs
    · exact hnull heq
    · exact hsuits hs
  cases t with
  | list item => exact (buildArray_list_mismatch h).resolve_right fun hitem => hform hitem.1
  | struct members =>
    exact (buildArray_struct_mismatch h).resolve_right fun hmember => hform hmember.1
  | _ => exact buildArray_leaf_mismatch rfl h

end LogicalType

/-! ## Streams -/

/-- Values of a stream, each with the row of the column that it comes from. -/
abbrev TracedStream := List (Value × Nat)

/-- The items of all lists of a stream. -/
def TracedStream.items (s : TracedStream) : TracedStream :=
  s.flatMap fun cell => cell.1.items.map fun v => (v, cell.2)

mutual

/-- The fields inside a type, each with its stream, from the stream of the type. -/
def LogicalType.streams : LogicalType → TracedStream → List (Field × TracedStream)
  | .list item, s => item.streams s.items
  | .struct members, s =>
    Field.memberStreams members (s.map (Prod.map (Value.parts members.length) id))
  | _, _ => []

/-- The field itself and the fields inside it, each with its stream. -/
def Field.streams : Field → TracedStream → List (Field × TracedStream)
  | .mk name type nullable, s => (.mk name type nullable, s) :: type.streams s

/-- The fields of members and inside them, from rows of members. -/
def Field.memberStreams : List Field → List (List Value × Nat) → List (Field × TracedStream)
  | [], _ => []
  | f :: fs, rows => f.streams (rows.map (Prod.map (fun row => row.headD .null) id)) ++
      Field.memberStreams fs (rows.map (Prod.map List.tail id))

end

theorem TracedStream.map_fst_items (s : TracedStream) :
    s.items.map Prod.fst = allItems (s.map Prod.fst) := by
  simp [items, allItems, List.map_flatMap, List.flatMap_map, Function.comp_def]

theorem map_fst_map {α β : Type} (g : α → β) (rows : List (α × Nat)) :
    (rows.map (Prod.map g id)).map Prod.fst = (rows.map Prod.fst).map g := by
  rw [List.map_map, List.map_map]
  rfl

/-- An error blames a value of one of several streams, by the field of the stream and the
number of the value there. The value comes from row `origin`. -/
inductive Blamed (streams : List (Field × TracedStream)) : LayoutError → Nat → Prop
  | mk {g : Field} {s : TracedStream} {row origin : Nat} {v : Value} : (g, s) ∈ streams →
      s[row]? = some (v, origin) → v ≠ .null → ¬ g.type.Suits v →
      Blamed streams (.valueMismatch g.name row g.type) origin

section Streams

variable {streams more : List (Field × TracedStream)} {e : LayoutError} {s : TracedStream}
  {origin : Nat}

theorem Blamed.mono (h : Blamed streams e origin) (hsub : streams ⊆ more) :
    Blamed more e origin := by
  cases h with
  | mk hmem hvalue hnull hsuits => exact .mk (hsub hmem) hvalue hnull hsuits

theorem Field.mem_streams_self (f : Field) (s : TracedStream) : (f, s) ∈ f.streams s := by
  obtain ⟨name, type, nullable⟩ := f
  rw [Field.streams]
  exact List.mem_cons_self

/-- Where a loop stops, it blames a value of its own stream. -/
theorem StopsAt.exists_cell (h : StopsAt name t 0 (s.map Prod.fst) e) :
    ∃ i v origin, e = .valueMismatch name i t ∧ s[i]? = some (v, origin) ∧ v ≠ .null ∧
      ¬ t.Suits v := by
  obtain ⟨i, v, rfl, hv, hnull, hsuits⟩ := h.exists_value
  rw [List.getElem?_map, Option.map_eq_some_iff] at hv
  obtain ⟨⟨v, origin⟩, hcell, rfl⟩ := hv
  rw [Nat.zero_add]
  exact ⟨i, v, origin, rfl, hcell, hnull, hsuits⟩

theorem StopsAt.blamed {nullable : Bool} (h : StopsAt name t 0 (s.map Prod.fst) e) :
    ∃ origin, Blamed ((Field.mk name t nullable).streams s) e origin := by
  obtain ⟨i, v, origin, rfl, hcell, hnull, hsuits⟩ := h.exists_cell
  exact ⟨origin, .mk (Field.mem_streams_self (.mk name t nullable) s) hcell hnull hsuits⟩

mutual

/-- What is blamed when an array is built stands in one of the streams. -/
theorem LogicalType.blamed_of_buildArray :
    ∀ {t : LogicalType} {name : String} {nullable : Bool} {s : TracedStream},
      t.buildArray name (s.map Prod.fst) = .error (.valueMismatch n r u) →
      ∃ origin, Blamed ((Field.mk name t nullable).streams s) (.valueMismatch n r u) origin
  | .list item, _, _, s, h => by
    rcases LogicalType.buildArray_list_mismatch h with hstop | ⟨-, hitem⟩
    · exact hstop.blamed
    · rw [← s.map_fst_items] at hitem
      obtain ⟨origin, hblamed⟩ := Field.blamed_of_buildArray hitem
      refine ⟨origin, hblamed.mono ?_⟩
      rw [Field.streams, LogicalType.streams]
      exact List.subset_cons_self _ _
  | .struct members, _, _, s, h => by
    rcases LogicalType.buildArray_struct_mismatch h with hstop | ⟨-, hmember⟩
    · exact hstop.blamed
    · rw [← map_fst_map] at hmember
      obtain ⟨origin, hblamed⟩ := Field.blamed_of_buildMembers hmember
      refine ⟨origin, hblamed.mono ?_⟩
      rw [Field.streams, LogicalType.streams]
      exact List.subset_cons_self _ _
  | .bool, _, _, s, h | .int16, _, _, s, h | .int64, _, _, s, h | .uint32, _, _, s, h
  | .float64, _, _, s, h | .utf8, _, _, s, h | .largeBinary, _, _, s, h
  | .decimal _ _, _, _, s, h | .timestamp _ _, _, _, s, h =>
    (LogicalType.buildArray_leaf_mismatch rfl h).blamed

theorem Field.blamed_of_buildArray : ∀ {f : Field} {s : TracedStream},
    f.buildArray (s.map Prod.fst) = .error (.valueMismatch n r u) →
    ∃ origin, Blamed (f.streams s) (.valueMismatch n r u) origin
  | .mk _ _ _, s, h => by
    rw [Field.buildArray] at h
    exact LogicalType.blamed_of_buildArray h

theorem Field.blamed_of_buildMembers : ∀ {fs : List Field} {rows : List (List Value × Nat)},
    Field.buildMembers fs (rows.map Prod.fst) = .error (.valueMismatch n r u) →
    ∃ origin, Blamed (Field.memberStreams fs rows) (.valueMismatch n r u) origin
  | [], rows, h => by cases h
  | f :: fs, rows, h => by
    rw [Field.buildMembers, bind_eq_error_iff, ← map_fst_map] at h
    rw [Field.memberStreams]
    rcases h with h | ⟨a, -, h⟩
    · obtain ⟨origin, hblamed⟩ := Field.blamed_of_buildArray h
      exact ⟨origin, hblamed.mono (List.subset_append_left _ _)⟩
    · rw [bind_pure_eq_error_iff, ← map_fst_map] at h
      obtain ⟨origin, hblamed⟩ := Field.blamed_of_buildMembers h
      exact ⟨origin, hblamed.mono (List.subset_append_right _ _)⟩

end

/-! ## Rows that values come from -/

mutual

/-- A value in a stream that is not null and that its field refuses comes from a row
whose value the whole type refuses. -/
theorem LogicalType.refused_of_mem_streams : ∀ {t : LogicalType} {s stream : TracedStream}
    {g : Field} {v : Value} {origin : Nat}, (g, stream) ∈ t.streams s →
    (v, origin) ∈ stream → v ≠ .null → ¬ g.Admits v →
    ∃ w, (w, origin) ∈ s ∧ w ≠ .null ∧ ¬ t.Holds w
  | .list item, s, stream, g, v, origin, hmem, hv, hnull, hrefused => by
    rw [LogicalType.streams] at hmem
    obtain ⟨x, hx, -, hxrefused⟩ := Field.refused_of_mem_streams hmem hv hnull hrefused
    obtain ⟨⟨w, k⟩, hw, hxw⟩ := List.mem_flatMap.1 hx
    obtain ⟨y, hy, heq⟩ := List.mem_map.1 hxw
    obtain ⟨rfl, rfl⟩ := Prod.mk.inj heq
    cases w with
    | list items =>
      refine ⟨.list items, hw, by simp, ?_⟩
      intro hholds
      cases hholds with
      | list hitems => exact hxrefused (hitems y hy)
    | _ => cases hy
  | .struct members, s, stream, g, v, origin, hmem, hv, hnull, hrefused => by
    rw [LogicalType.streams] at hmem
    obtain ⟨row, hrow, ⟨x, hx, hxnull⟩, hparts⟩ :=
      Field.refused_of_mem_memberStreams hmem hv hnull hrefused
    obtain ⟨⟨w, k⟩, hw, heq⟩ := List.mem_map.1 hrow
    obtain ⟨rfl, rfl⟩ := Prod.mk.inj heq
    cases w with
    | struct ps =>
      refine ⟨.struct ps, hw, by simp, ?_⟩
      intro hholds
      cases hholds with
      | struct hadmits => exact hparts hadmits
    | _ => exact absurd (List.eq_of_mem_replicate hx) hxnull
  | .bool, s, _, _, _, _, hmem, _, _, _ | .int16, s, _, _, _, _, hmem, _, _, _
  | .int64, s, _, _, _, _, hmem, _, _, _ | .uint32, s, _, _, _, _, hmem, _, _, _
  | .float64, s, _, _, _, _, hmem, _, _, _ | .utf8, s, _, _, _, _, hmem, _, _, _
  | .largeBinary, s, _, _, _, _, hmem, _, _, _ | .decimal _ _, s, _, _, _, _, hmem, _, _, _
  | .timestamp _ _, s, _, _, _, _, hmem, _, _, _ => by
    rw [LogicalType.streams] at hmem
    · cases hmem
    all_goals simp

theorem Field.refused_of_mem_streams : ∀ {f : Field} {s stream : TracedStream} {g : Field}
    {v : Value} {origin : Nat}, (g, stream) ∈ f.streams s → (v, origin) ∈ stream →
    v ≠ .null → ¬ g.Admits v → ∃ w, (w, origin) ∈ s ∧ w ≠ .null ∧ ¬ f.Admits w
  | .mk name type nullable, s, stream, g, v, origin, hmem, hv, hnull, hrefused => by
    rw [Field.streams] at hmem
    rcases List.mem_cons.1 hmem with heq | hmem
    · obtain ⟨rfl, rfl⟩ := Prod.mk.inj heq
      exact ⟨v, hv, hnull, hrefused⟩
    · obtain ⟨w, hw, hwnull, hholds⟩ := LogicalType.refused_of_mem_streams hmem hv hnull hrefused
      exact ⟨w, hw, hwnull, by rwa [Field.admits_iff_holds hwnull]⟩

theorem Field.refused_of_mem_memberStreams : ∀ {fs : List Field}
    {rows : List (List Value × Nat)} {stream : TracedStream} {g : Field} {v : Value}
    {origin : Nat}, (g, stream) ∈ Field.memberStreams fs rows → (v, origin) ∈ stream →
    v ≠ .null → ¬ g.Admits v → ∃ row, (row, origin) ∈ rows ∧ (∃ w ∈ row, w ≠ .null) ∧
      ¬ List.Forall₂ Field.Admits fs row
  | f :: fs, rows, stream, g, v, origin, hmem, hv, hnull, hrefused => by
    rw [Field.memberStreams] at hmem
    rcases List.mem_append.1 hmem with hmem | hmem
    · obtain ⟨w, hw, hwnull, hwrefused⟩ := Field.refused_of_mem_streams hmem hv hnull hrefused
      obtain ⟨⟨row, k⟩, hrow, heq⟩ := List.mem_map.1 hw
      obtain ⟨rfl, rfl⟩ := Prod.mk.inj heq
      cases row with
      | nil => exact absurd rfl hwnull
      | cons x xs =>
        refine ⟨x :: xs, hrow, ⟨x, List.mem_cons_self, hwnull⟩, ?_⟩
        intro hadmits
        exact hwrefused (List.forall₂_cons.1 hadmits).1
    · obtain ⟨rest, hrest, ⟨w, hw, hwnull⟩, hparts⟩ :=
        Field.refused_of_mem_memberStreams hmem hv hnull hrefused
      obtain ⟨⟨row, k⟩, hrow, heq⟩ := List.mem_map.1 hrest
      obtain ⟨rfl, rfl⟩ := Prod.mk.inj heq
      cases row with
      | nil => cases hw
      | cons x xs =>
        refine ⟨x :: xs, hrow, ⟨w, List.mem_cons_of_mem x hw, hwnull⟩, ?_⟩
        intro hadmits
        exact hparts (List.forall₂_cons.1 hadmits).2

end

mutual

/-- Structs keep the rows of their stream for each of their members. -/
theorem LogicalType.rows_of_mem_streams : ∀ {t : LogicalType} {s stream : TracedStream}
    {g : Field}, t.NoList → (g, stream) ∈ t.streams s →
    stream.map Prod.snd = s.map Prod.snd
  | .list item, _, _, _, hno, _ => absurd List.mem_cons_self (hno item)
  | .struct members, s, stream, g, hno, hmem => by
    rw [LogicalType.streams] at hmem
    rw [Field.rows_of_mem_memberStreams (LogicalType.noList_struct.1 hno) hmem, List.map_map]
    rfl
  | .bool, _, _, _, _, hmem | .int16, _, _, _, _, hmem | .int64, _, _, _, _, hmem
  | .uint32, _, _, _, _, hmem | .float64, _, _, _, _, hmem | .utf8, _, _, _, _, hmem
  | .largeBinary, _, _, _, _, hmem | .decimal _ _, _, _, _, _, hmem
  | .timestamp _ _, _, _, _, _, hmem => by
    rw [LogicalType.streams] at hmem
    · cases hmem
    all_goals simp

theorem Field.rows_of_mem_streams : ∀ {f : Field} {s stream : TracedStream} {g : Field},
    f.type.NoList → (g, stream) ∈ f.streams s → stream.map Prod.snd = s.map Prod.snd
  | .mk _ _ _, s, stream, g, hno, hmem => by
    rw [Field.streams] at hmem
    rcases List.mem_cons.1 hmem with heq | hmem
    · rw [(Prod.mk.inj heq).2]
    · exact LogicalType.rows_of_mem_streams hno hmem

theorem Field.rows_of_mem_memberStreams : ∀ {fs : List Field} {rows : List (List Value × Nat)}
    {stream : TracedStream} {g : Field}, (∀ f ∈ fs, f.type.NoList) →
    (g, stream) ∈ Field.memberStreams fs rows → stream.map Prod.snd = rows.map Prod.snd
  | f :: fs, rows, stream, g, hno, hmem => by
    obtain ⟨hfirst, hrest⟩ := List.forall_mem_cons.1 hno
    rw [Field.memberStreams] at hmem
    rcases List.mem_append.1 hmem with hmem | hmem
    · rw [Field.rows_of_mem_streams hfirst hmem, List.map_map]
      rfl
    · rw [Field.rows_of_mem_memberStreams hrest hmem, List.map_map]
      rfl

end

end Streams

/-! ## Columns -/

section Columns

variable {f : Field} {e : LayoutError} {origin : Nat}

/-- The row that a blamed value comes from is refused. -/
theorem Blamed.exists_refused (h : Blamed (f.streams vs.zipIdx) e origin) :
    ∃ w, vs[origin]? = some w ∧ w.check f ≠ .ok () := by
  cases h with
  | @mk g s row origin v hmem hvalue hnull hsuits =>
    have hrefused : ¬ g.Admits v := by
      rw [Field.admits_iff_holds hnull]
      exact fun hholds => hsuits (.value hholds)
    obtain ⟨w, hw, -, hwrefused⟩ :=
      Field.refused_of_mem_streams hmem (List.mem_of_getElem? hvalue) hnull hrefused
    refine ⟨w, List.mem_zipIdx_iff_getElem?.1 hw, ?_⟩
    rwa [Ne, Value.check_eq_ok_iff]

theorem eq_of_getElem?_zipIdx (h : vs.zipIdx[row]? = some (v, origin)) : row = origin := by
  rw [List.getElem?_zipIdx, Option.map_eq_some_iff] at h
  obtain ⟨w, -, heq⟩ := h
  have hrow := (Prod.mk.inj heq).2
  omega

/-- Without lists the number in the stream is that of the row. -/
theorem Blamed.row_eq (hno : f.type.NoList)
    (h : Blamed (f.streams vs.zipIdx) (.valueMismatch n row u) origin) : row = origin := by
  cases h with
  | @mk g s row origin v hmem hvalue hnull hsuits =>
    have hrows := congrArg (fun l => l[row]?) (Field.rows_of_mem_streams hno hmem)
    simp only [List.getElem?_map, hvalue, List.getElem?_zipIdx, Option.map_some, Option.map_map]
      at hrows
    obtain ⟨w, -, hw⟩ := Option.map_eq_some_iff.1 hrows.symm
    simpa using hw

/-- A value that has not the form of the column's type is blamed by the column's own name
and its own row. -/
theorem exists_blamed_self (h : f.buildArray vs = .error (.valueMismatch n row u))
    (hform : f.type.isNested = false ∨ ∃ w ∈ vs, w ≠ .null ∧ ¬ f.type.Suits w) :
    n = f.name ∧ Blamed (f.streams vs.zipIdx) (.valueMismatch n row u) row := by
  rw [Field.buildArray_eq] at h
  have hstop : StopsAt f.name f.type 0 vs (.valueMismatch n row u) := by
    rcases hform with hleaf | ⟨w, hw, hnull, hsuits⟩
    · exact LogicalType.buildArray_leaf_mismatch hleaf h
    · exact LogicalType.stopsAt_of_not_suits hw hnull hsuits h
  rw [← List.zipIdx_map_fst 0 vs] at hstop
  obtain ⟨i, v, origin, heq, hcell, hnull, hsuits⟩ := hstop.exists_cell
  cases heq
  obtain rfl := eq_of_getElem?_zipIdx hcell
  exact ⟨rfl, .mk (Field.mem_streams_self f _) hcell hnull hsuits⟩

end Columns

/-! ## Batches -/

namespace Batch

variable {schema : Schema} {columns : List Column}

theorem buildArrays_of_build_mismatch
    (h : build schema columns = .error (.valueMismatch n r u)) :
    buildArrays schema.fields columns = .error (.valueMismatch n r u) :=
  (build_error h).resolve_right fun hrefused => hrefused.ne_mismatch rfl

theorem name_eq_of_mem_zip {f : Field} {c : Column}
    (hnames : columns.map Column.name = schema.names) (h : (f, c) ∈ schema.fields.zip columns) :
    f.name = c.name := by
  obtain ⟨i, hi⟩ := List.getElem?_of_mem h
  obtain ⟨hf, hc⟩ := List.getElem?_zip_eq_some.1 hi
  have hname := congrArg (fun names => names[i]?) hnames
  simp only [Schema.names, List.getElem?_map, hf, hc, Option.map_some] at hname
  exact (Option.some.inj hname).symm

/-- An error on a value that does not fit blames a value in a stream of one column, by the
name of that stream's field and the number of the value there. The value comes from a row
of the column that does not fit the column's field.

Name and number are those of the column and the row if the type is not nested, or if a
value of the column has not the form of the type itself; the number is that of the row if
there is no list inside the type. -/
theorem mismatch_of_build (hnames : columns.map Column.name = schema.names)
    (h : build schema columns = .error (.valueMismatch n row u)) :
    ∃ f c origin, (f, c) ∈ schema.fields.zip columns ∧ f.name = c.name ∧
      Blamed (f.streams c.values.zipIdx) (.valueMismatch n row u) origin ∧
      (∃ w, c.values[origin]? = some w ∧ w.check f ≠ .ok ()) ∧
      (f.type.isNested = false ∨ (∃ w ∈ c.values, w ≠ .null ∧ ¬ f.type.Suits w) →
        n = c.name ∧ row = origin) ∧
      (f.type.NoList → row = origin) := by
  obtain ⟨f, c, hmem, hbuild⟩ := buildArrays_eq_error (buildArrays_of_build_mismatch h)
  have hname := name_eq_of_mem_zip hnames hmem
  by_cases hform : f.type.isNested = false ∨ ∃ w ∈ c.values, w ≠ .null ∧ ¬ f.type.Suits w
  · obtain ⟨hn, hblamed⟩ := exists_blamed_self hbuild hform
    exact ⟨f, c, row, hmem, hname, hblamed, hblamed.exists_refused,
      fun _ => ⟨hn.trans hname, rfl⟩, fun _ => rfl⟩
  · rw [← List.zipIdx_map_fst 0 c.values] at hbuild
    obtain ⟨origin, hblamed⟩ := Field.blamed_of_buildArray hbuild
    exact ⟨f, c, origin, hmem, hname, hblamed, hblamed.exists_refused,
      fun hform' => absurd hform' hform, fun hno => hblamed.row_eq hno⟩

/-- Structs with a list and a text in them, and one that is null. -/
def listsInStructs : List Column :=
  [⟨"s", [.null, .struct [.list [.int 1, .int 2, .null], .str "a"],
    .struct [.list [.str "x"], .null]]⟩]

def listsInStructsSchema : Schema :=
  ⟨[.optional "s" (.struct [.required "l" (.list (.optional "item" .int64)),
    .optional "t" .utf8])]⟩

/-- The fourth of all items is blamed, which comes from the third row. -/
theorem mismatch_of_build_listsInStructs :
    build listsInStructsSchema listsInStructs = .error (.valueMismatch "item" 3 .int64) ∧
      ∃ f c origin, (f, c) ∈ listsInStructsSchema.fields.zip listsInStructs ∧
        Blamed (f.streams c.values.zipIdx) (.valueMismatch "item" 3 .int64) origin ∧
        ∃ w, c.values[origin]? = some w ∧ w.check f ≠ .ok () := by
  have hbuild : build listsInStructsSchema listsInStructs =
      .error (.valueMismatch "item" 3 .int64) := rfl
  obtain ⟨f, c, origin, hmem, -, hblamed, hrefused, -⟩ := mismatch_of_build rfl hbuild
  exact ⟨hbuild, f, c, origin, hmem, hblamed, hrefused⟩

/-- Two lists of numbers, with a text in the second one. -/
def nestedText : List Column :=
  [⟨"a", [.list [.int 1, .int 2], .list [.str "x"]]⟩]

def nestedTextSchema : Schema :=
  ⟨[.optional "a" (.list (.optional "item" .int64))]⟩

/-- The error names no column, and its number is not that of a row. -/
theorem nestedText_blamed : nestedText.map Column.name = nestedTextSchema.names ∧
    ∃ n row u, build nestedTextSchema nestedText = .error (.valueMismatch n row u) ∧
      ∀ c ∈ nestedText, c.name ≠ n ∧ c.values[row]? = none := by
  refine ⟨rfl, "item", 2, .int64, rfl, ?_⟩
  simp [nestedText]

end Batch

end FixtureMatrix
