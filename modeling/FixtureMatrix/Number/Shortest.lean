import FixtureMatrix.Number.Binary64
import FixtureMatrix.Text.Digits

/-!
# The shortest decimal that reads back

Every finite positive number is the nearest one to a whole interval of
reals.  `Binary64.shortest` finds the fewest decimal digits whose value lies
in that interval, and of two such values the nearer.  A `NumberStyle` then
decides how digits and exponent are set as text.
-/

namespace FixtureMatrix

/-- A positive decimal `0.d₁d₂… · 10 ^ point`, without trailing zeros. -/
structure ShortDecimal where
  digits : List Char
  point : Int

/-- Which of two equally near decimals is taken. -/
inductive TieRule where
  | up
  | even

namespace Binary64

/-- The exponent `e` with `10 ^ e ≤ num / den < 10 ^ (e + 1)`, for positive operands. -/
def decimalExponent (num den : Nat) : Int :=
  let e : Int := Int.ofNat (Nat.toDigits 10 num).length - Int.ofNat (Nat.toDigits 10 den).length
  if num * Nat.pow 10 (-e).toNat < den * Nat.pow 10 e.toNat then e - 1 else e

/-- The reals that round to a positive finite number, as
`(low, value, high, den)` over a common denominator. -/
def interval (x : Binary64) : Nat × Nat × Nat × Nat :=
  let m := x.significand
  let q := x.scale - 2
  let up := Nat.pow 2 q.toNat
  let low := if m = Nat.pow 2 52 ∧ -1074 < x.scale then 4 * m - 1 else 4 * m - 2
  (low * up, 4 * m * up, (4 * m + 2) * up, Nat.pow 2 (-q).toNat)

/-- The decimal with its last digit at `10 ^ unit` that lies in the interval
of `x` and is nearest to `x`, if there is one. -/
def onGrid? (x : Binary64) (tie : TieRule) (unit : Int) : Option Nat :=
  let (low, value, high, den) := x.interval
  let a := Nat.pow 10 (-unit).toNat
  let b := den * Nat.pow 10 unit.toNat
  let inclusive := x.significand % 2 = 0
  let d := value * a / b
  let lowHit := if inclusive then low * a ≤ d * b else low * a < d * b
  let highHit := if inclusive then (d + 1) * b ≤ high * a else (d + 1) * b < high * a
  let below := value * a - d * b
  let above := (d + 1) * b - value * a
  if lowHit ∧ highHit then
    if below < above then some d
    else if above < below then some (d + 1)
    else match tie with
      | .up => some (d + 1)
      | .even => some (if d % 2 = 0 then d else d + 1)
  else if lowHit then some d
  else if highHit then some (d + 1)
  else none

/-- The first grid with a decimal in the interval, from the leading digit
`10 ^ lead` downwards. -/
def firstGrid (x : Binary64) (tie : TieRule) (lead : Int) : Nat → Int → Nat × Int
  | 0, unit => ((x.onGrid? tie unit).getD 0, unit)
  | more + 1, unit =>
    match x.onGrid? tie unit with
    | some d => (d, unit)
    | none => firstGrid x tie lead more (unit - 1)

/-- The shortest decimal of a positive finite number.  Seventeen digits
always suffice. -/
def shortest (x : Binary64) (tie : TieRule) : ShortDecimal :=
  let (num, den) := x.ratio
  let lead := decimalExponent num den
  let (d, unit) := x.firstGrid tie lead 17 lead
  let digits := Digits.ofNat d
  ⟨(digits.reverse.dropWhile (· == '0')).reverse, unit + Int.ofNat digits.length⟩

end Binary64

/-- How a number is set as text. -/
structure NumberStyle where
  /-- Which of two equally near shortest decimals is taken. -/
  tie : TieRule
  /-- Whether a leading digit at `10 ^ e` is written without an exponent. -/
  positional : Int → Bool
  /-- Written in front of an exponent that is not negative. -/
  exponentSign : List Char
  /-- Written after a whole number that has no exponent. -/
  wholeMark : List Char
  nan : List Char
  infinity : List Char

namespace NumberStyle

/-- A positive decimal without an exponent. -/
def positionalText (style : NumberStyle) (d : ShortDecimal) : List Char :=
  if d.point ≤ 0 then
    '0' :: '.' :: (List.replicate (-d.point).toNat '0' ++ d.digits)
  else if Int.ofNat d.digits.length ≤ d.point then
    d.digits ++ List.replicate (d.point.toNat - d.digits.length) '0' ++ style.wholeMark
  else
    d.digits.take d.point.toNat ++ '.' :: d.digits.drop d.point.toNat

/-- A positive decimal with one digit before the point and an exponent. -/
def exponentText (style : NumberStyle) (d : ShortDecimal) : List Char :=
  let e := d.point - 1
  let mantissa := match d.digits with
    | c :: rest => if rest.isEmpty then [c] else c :: '.' :: rest
    | [] => []
  mantissa ++ 'e' :: ((if 0 ≤ e then style.exponentSign else []) ++ Digits.ofInt e)

/-- The text of a number in this style. -/
def text (style : NumberStyle) (x : Binary64) : List Char :=
  let sign := if x.isNegative then ['-'] else []
  if x.isNaN then style.nan
  else if x.isInfinite then sign ++ style.infinity
  else if x.isZero then sign ++ '0' :: style.wholeMark
  else
    let d := x.shortest style.tie
    sign ++ if style.positional (d.point - 1) then style.positionalText d else style.exponentText d

end NumberStyle

end FixtureMatrix
