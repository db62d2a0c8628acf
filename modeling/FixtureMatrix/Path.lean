/-!
# Paths

A path is its text; slashes separate its pieces.  `components` drops empty
pieces and all single dots but a leading one, and tells the root, the dots and
names apart.  Paths are compared and stripped by their components, and shown
and joined as text.
-/

namespace FixtureMatrix.Path

/-- The pieces between slashes, at least one. -/
def pieces : List Char → List (List Char)
  | [] => [[]]
  | c :: cs =>
    if c = '/' then [] :: pieces cs
    else
      match pieces cs with
      | [] => [[c]]
      | p :: ps => (c :: p) :: ps

/-- The pieces of a text as strings. -/
def segments (path : String) : List String :=
  (pieces path.toList).map String.ofList

/-- Pieces with slashes between them. -/
def ofSegments (parts : List String) : String :=
  "/".intercalate parts

/-- One step of a path. -/
inductive Component where
  | root
  | current
  | parent
  | normal (name : String)
deriving DecidableEq

/-- The step a piece stands for, past the start of a path. -/
def component? (piece : String) : Option Component :=
  if piece = "" ∨ piece = "." then none
  else if piece = ".." then some .parent
  else some (.normal piece)

def isAbsolute (path : String) : Bool :=
  path.toList.head? == some '/'

/-- The steps of a path. -/
def components (path : String) : List Component :=
  let parts := segments path
  let body := parts.filterMap component?
  if isAbsolute path then .root :: body
  else if parts.head? = some "." then .current :: body
  else body

/-- The name of a step that has one. -/
def Component.name? : Component → Option String
  | .normal name => some name
  | _ => none

/-- The names of steps, with slashes between them. -/
def portableOf (steps : List Component) : String :=
  ofSegments (steps.filterMap Component.name?)

/-- The names in a path with single slashes between them: the form in which
paths below an output root are recorded. -/
def portable (path : String) : String :=
  portableOf (components path)

/-- A path below another.  An absolute one replaces it. -/
def join (root path : String) : String :=
  if isAbsolute path ∨ root = "" ∨ root.toList.getLast? = some '/' then
    if isAbsolute path then path else root ++ path
  else root ++ "/" ++ path

/-- The steps after a common start. -/
def stripPrefix? : List Component → List Component → Option (List Component)
  | [], path => some path
  | _ :: _, [] => none
  | r :: root, p :: path => if r = p then stripPrefix? root path else none

/-- The portable form of a path below a root; of the whole path where it does
not start with the root. -/
def relativeTo (root path : String) : String :=
  let steps := components path
  portableOf ((stripPrefix? (components root) steps).getD steps)

/-- The last step's name, if it has one. -/
def fileName? (path : String) : Option String :=
  (components path).getLast?.bind Component.name?

/-- Without the empty pieces and single dots at the end, given in reverse.
The first piece of the path is kept. -/
def trimReversed : List String → List String
  | piece :: rest =>
    if (piece = "" ∨ piece = ".") ∧ rest ≠ [] then trimReversed rest else piece :: rest
  | [] => []

/-- The path without its last step; there is none for the root and for an
empty path. -/
def parent? (path : String) : Option String :=
  match trimReversed (segments path).reverse with
  | [] => none
  | [piece] => if piece = "" then none else some ""
  | _ :: rest =>
    let kept := (trimReversed rest).reverse
    some (if kept = [""] then "/" else ofSegments kept)

/-- The rank of a step's kind. -/
def Component.rank : Component → Nat
  | .root => 0
  | .current => 1
  | .parent => 2
  | .normal _ => 3

/-- The order of steps: by kind, then by name. -/
def Component.le (a b : Component) : Bool :=
  match a, b with
  | .normal x, .normal y => x ≤ y
  | _, _ => a.rank ≤ b.rank

/-- The order of paths, step by step. -/
def le : List Component → List Component → Bool
  | [], _ => true
  | _ :: _, [] => false
  | a :: as, b :: bs => if a = b then le as bs else a.le b

/-- Paths in order, step by step. -/
def sort (paths : List String) : List String :=
  paths.mergeSort fun a b => le (components a) (components b)

end FixtureMatrix.Path
