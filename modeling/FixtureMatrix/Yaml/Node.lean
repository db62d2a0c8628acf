import FixtureMatrix.Yaml.Scalar

/-!
# YAML nodes

A document is a tree as far as its tokens allow: where they end too early, the
tree holds what is wrong there.
-/

namespace FixtureMatrix.Yaml

/-- A node of a document.  Collections keep their entries up to a fault. -/
inductive Node where
  | scalar (mark : Mark) (anchor : Option Nat) (tag : Option String) (style : ScalarStyle)
      (text : String)
  | sequence (mark : Mark) (anchor : Option Nat) (tag : Option String) (items : List Node)
      (fault : Option String)
  | mapping (mark : Mark) (anchor : Option Nat) (tag : Option String)
      (entries : List (Node × Node)) (fault : Option String)
  | alias (mark : Mark) (anchor : Nat)
  /-- There is no document. -/
  | absent
  | broken (fault : String)

/-! ## Anchors -/

mutual

/-- The nodes with an anchor, in the order of the text. -/
def Node.anchored : Node → List (Nat × Node)
  | .scalar mark anchor tag style text =>
    (anchor.map fun n => (n, Node.scalar mark anchor tag style text)).toList
  | .sequence mark anchor tag items fault =>
    (anchor.map fun n => (n, Node.sequence mark anchor tag items fault)).toList ++
      anchoredItems items
  | .mapping mark anchor tag entries fault =>
    (anchor.map fun n => (n, Node.mapping mark anchor tag entries fault)).toList ++
      anchoredEntries entries
  | .alias _ _ => []
  | .absent => []
  | .broken _ => []

def anchoredItems : List Node → List (Nat × Node)
  | [] => []
  | n :: rest => n.anchored ++ anchoredItems rest

def anchoredEntries : List (Node × Node) → List (Nat × Node)
  | [] => []
  | (k, v) :: rest => k.anchored ++ v.anchored ++ anchoredEntries rest

end

end FixtureMatrix.Yaml
