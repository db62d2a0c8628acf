import FixtureMatrix.Proofs.Columnar.Layout

/-!
# Nodes of built arrays

`ColumnArray.nodes` lists an array with all arrays inside it, so that a property of
an array at every depth is one about the members of that list.

* `Field.built_of_mem_nodes`: every node of a built array was itself built, from some
  stream of values and for a type inside that of the whole.

What holds of every built array therefore holds at every depth of one, and its proof
needs no induction of its own.
-/

namespace FixtureMatrix

open ColumnArray

namespace ColumnArray

mutual

/-- The array itself and all arrays inside it. -/
def nodes : ColumnArray → List ColumnArray
  | leaf type cells => [leaf type cells]
  | list item offsets validity child => list item offsets validity child :: child.nodes
  | struct members validity children => struct members validity children :: allNodes children

def allNodes : List ColumnArray → List ColumnArray
  | [] => []
  | a :: as => a.nodes ++ allNodes as

end

/-- An array that was built for one of several types. -/
def BuiltFor (types : List LogicalType) (a : ColumnArray) : Prop :=
  ∃ t ∈ types, ∃ name vs, t.buildArray name vs = .ok a

theorem BuiltFor.mono {types more : List LogicalType} {a : ColumnArray}
    (h : a.BuiltFor types) (hsub : ∀ t ∈ types, t ∈ more) : a.BuiltFor more := by
  obtain ⟨t, ht, hbuilt⟩ := h
  exact ⟨t, hsub t ht, hbuilt⟩

end ColumnArray

/-! ## Types inside types -/

theorem LogicalType.mem_inside_self (t : LogicalType) : t ∈ t.inside := by
  cases t <;> simp [inside]

mutual

theorem LogicalType.inside_subset : ∀ {t u : LogicalType}, u ∈ t.inside → u.inside ⊆ t.inside
  | .list item, u, h => by
    rw [LogicalType.inside] at h
    rcases List.mem_cons.1 h with rfl | h
    · exact List.Subset.refl _
    · rw [LogicalType.inside]
      exact List.subset_cons_of_subset _ (Field.inside_subset h)
  | .struct members, u, h => by
    rw [LogicalType.inside] at h
    rcases List.mem_cons.1 h with rfl | h
    · exact List.Subset.refl _
    · rw [LogicalType.inside]
      exact List.subset_cons_of_subset _ (Field.allInside_subset h)
  | .bool, u, h | .int16, u, h | .int64, u, h | .uint32, u, h | .float64, u, h | .utf8, u, h
  | .largeBinary, u, h | .decimal _ _, u, h | .timestamp _ _, u, h => by
    rw [List.mem_singleton.1 h]
    exact List.Subset.refl _

theorem Field.inside_subset : ∀ {f : Field} {u : LogicalType}, u ∈ f.inside → u.inside ⊆ f.inside
  | .mk _ type _, u, h => by
    rw [Field.inside] at h ⊢
    exact LogicalType.inside_subset h

theorem Field.allInside_subset :
    ∀ {fs : List Field} {u : LogicalType}, u ∈ Field.allInside fs → u.inside ⊆ Field.allInside fs
  | f :: fs, u, h => by
    rw [Field.allInside] at h ⊢
    rcases List.mem_append.1 h with h | h
    · exact List.subset_append_of_subset_left _ (Field.inside_subset h)
    · exact List.subset_append_of_subset_right _ (Field.allInside_subset h)

end

/-! ## Built arrays -/

theorem LogicalType.builtFor_of_buildArray {name : String} {t : LogicalType} {vs : List Value}
    {a : ColumnArray} (h : t.buildArray name vs = .ok a) : a.BuiltFor t.inside :=
  ⟨t, t.mem_inside_self, name, vs, h⟩

mutual

theorem LogicalType.built_of_mem_nodes {name : String} :
    ∀ {t : LogicalType} {vs : List Value} {a : ColumnArray}, t.buildArray name vs = .ok a →
      ∀ node ∈ a.nodes, node.BuiltFor t.inside
  | .list item, vs, a, h => by
    have hself := LogicalType.builtFor_of_buildArray h
    obtain ⟨-, -, child, g, hchild, -, -, -, rfl⟩ := LogicalType.buildArray_list_eq_ok_iff.1 h
    rw [nodes, List.forall_mem_cons]
    refine ⟨hself, fun node hnode => ?_⟩
    refine (Field.built_of_mem_nodes hchild node hnode).mono fun t ht => ?_
    rw [LogicalType.inside]
    exact List.mem_cons_of_mem _ ht
  | .struct members, vs, a, h => by
    have hself := LogicalType.builtFor_of_buildArray h
    obtain ⟨-, children, gs, hchildren, -, -, -, rfl⟩ :=
      LogicalType.buildArray_struct_eq_ok_iff.1 h
    rw [nodes, List.forall_mem_cons]
    refine ⟨hself, fun node hnode => ?_⟩
    refine (Field.built_of_mem_allNodes hchildren node hnode).mono fun t ht => ?_
    rw [LogicalType.inside]
    exact List.mem_cons_of_mem _ ht
  | .decimal _ _, vs, a, h => by
    have hself := LogicalType.builtFor_of_buildArray h
    obtain ⟨-, -, -, u, -, rfl⟩ := LogicalType.buildArray_decimal_eq_ok_iff.1 h
    simpa [nodes] using hself
  | .bool, vs, a, h | .int16, vs, a, h | .int64, vs, a, h | .uint32, vs, a, h
  | .float64, vs, a, h | .utf8, vs, a, h | .largeBinary, vs, a, h | .timestamp _ _, vs, a, h => by
    have hself := LogicalType.builtFor_of_buildArray h
    obtain ⟨-, u, -, rfl⟩ := (LogicalType.buildArray_plain_eq_ok_iff rfl).1 h
    simpa [nodes] using hself

theorem Field.built_of_mem_nodes : ∀ {f : Field} {vs : List Value} {a : ColumnArray},
    f.buildArray vs = .ok a → ∀ node ∈ a.nodes, node.BuiltFor f.inside
  | .mk _ type _, vs, a, h => by
    rw [Field.buildArray] at h
    rw [Field.inside]
    exact LogicalType.built_of_mem_nodes h

theorem Field.built_of_mem_allNodes :
    ∀ {fs : List Field} {rows : List (List Value)} {as : List ColumnArray},
      Field.buildMembers fs rows = .ok as →
      ∀ node ∈ allNodes as, node.BuiltFor (Field.allInside fs)
  | [], rows, as, h => by
    rw [Field.buildMembers_nil_eq_ok_iff.1 h]
    simp [allNodes]
  | f :: fs, rows, as, h => by
    obtain ⟨b, bs, hb, hbs, rfl⟩ := Field.buildMembers_cons_eq_ok_iff.1 h
    rw [allNodes, Field.allInside, List.forall_mem_append]
    constructor
    · intro node hnode
      exact (Field.built_of_mem_nodes hb node hnode).mono fun t => List.mem_append_left _
    · intro node hnode
      exact (Field.built_of_mem_allNodes hbs node hnode).mono fun t => List.mem_append_right _

end

end FixtureMatrix
