import FixtureMatrix.Number.Shortest

/-!
# JSON values

Objects keep their entries in order and may repeat a key.  Whole numbers and
binary64 numbers are told apart.
-/

namespace FixtureMatrix

/-- A JSON value. -/
inductive Json where
  | null
  | bool (b : Bool)
  | int (n : Int)
  | float (x : Binary64)
  | str (s : String)
  | arr (items : List Json)
  | obj (entries : List (String × Json))

instance : Inhabited Json := ⟨.null⟩

namespace Json

/-- A natural number. -/
def nat (n : Nat) : Json := .int (Int.ofNat n)

/-- The value, or `null` where there is none. -/
def ofOption (f : α → Json) : Option α → Json
  | none => .null
  | some a => f a

/-- An array of the members' values. -/
def ofList (f : α → Json) (xs : List α) : Json :=
  .arr (xs.map f)

/-- The entry of a key; of a repeated key the last one. -/
def get? : Json → String → Option Json
  | .obj entries, key => (entries.reverse.find? fun e => e.1 = key).map Prod.snd
  | _, _ => none

end Json

end FixtureMatrix
