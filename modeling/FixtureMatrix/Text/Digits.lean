/-!
# Decimal digits

Numbers are written as lists of characters, so that what a text denotes can be
read off by recursion on the list.  `ofNat` writes a natural number without
superfluous leading zeros, `ofInt` puts a minus sign in front of a negative
one, and `toNat?` reads a nonempty run of digits back.
-/

namespace FixtureMatrix.Digits

/-- The decimal digits of `n`, without leading zeros (`0` is one digit). -/
def ofNat (n : Nat) : List Char :=
  Nat.toDigits 10 n

/-- The decimal text of an integer: a minus sign exactly when it is negative,
then the digits of its absolute value. -/
def ofInt (n : Int) : List Char :=
  if n < 0 then '-' :: ofNat n.natAbs else ofNat n.natAbs

/-- The number a run of digits denotes, most significant digit first. -/
def value (cs : List Char) : Nat :=
  Nat.ofDigitChars 10 cs 0

/-- Reads a nonempty run of ASCII digits, leading zeros allowed. -/
def toNat? (cs : List Char) : Option Nat :=
  if cs ≠ [] ∧ cs.all Char.isDigit then some (value cs) else none

/-- Fills with zeros on the left up to `width` characters. -/
def zeroPad (width : Nat) (cs : List Char) : List Char :=
  List.replicate (width - cs.length) '0' ++ cs

/-- The text of an integer with at least `width` digits. -/
def ofIntPadded (width : Nat) (n : Int) : List Char :=
  if n < 0 then '-' :: zeroPad width (ofNat n.natAbs) else zeroPad width (ofNat n.natAbs)

theorem value_ofNat (n : Nat) : value (ofNat n) = n :=
  Nat.ofDigitChars_toDigits (by decide) (by decide)

theorem isDigit_of_mem_ofNat {n : Nat} {c : Char} (h : c ∈ ofNat n) : c.isDigit = true :=
  Nat.isDigit_of_mem_toDigits (by decide) (by decide) h

theorem ofNat_ne_nil (n : Nat) : ofNat n ≠ [] :=
  Nat.toDigits_ne_nil

theorem ofNat_injective {m n : Nat} (h : ofNat m = ofNat n) : m = n := by
  rw [← value_ofNat m, h, value_ofNat]

theorem length_zeroPad (width : Nat) (cs : List Char) :
    (zeroPad width cs).length = max width cs.length := by
  simp only [zeroPad, List.length_append, List.length_replicate]
  omega

end FixtureMatrix.Digits
