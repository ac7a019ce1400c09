/-!
# Floating point numbers and their decimal text

Binary floating point numbers of 64 bits, in exact arithmetic: a magnitude (`Binary64`) is a
significand below 2 ^ 53 times a power of two. `Binary64.nearest?` rounds a fraction to the
closest of them, a tie to the even significand; `shortest` gives the shortest decimal number that
rounds to a magnitude, and `Floating.render` writes it out.
-/

namespace RegisterWrites.Decimal

/-! ## Magnitudes -/

/-- The magnitude `significand * 2 ^ exponent`. -/
structure Binary64 where
  significand : Nat
  exponent : Int
  deriving DecidableEq, Repr

namespace Binary64

def minExponent : Int := -1074

/-- The greatest exponent of a significand of 53 bits. -/
def maxExponent : Int := 971

/-- The least significand of 53 bits. -/
def minSignificand : Nat := 1 <<< 52

/-- The fraction `num / den` divided by `2 ^ exponent`, as a numerator and a denominator. -/
def scale (num den : Nat) (exponent : Int) : Nat × Nat :=
  (num <<< (-exponent).toNat, den <<< exponent.toNat)

/-- The integer nearest to `num / den`, and of two the even one. -/
def roundHalfEven (num den : Nat) : Nat :=
  let quotient := num / den
  let remainder := num % den
  if 2 * remainder < den then quotient
  else if den < 2 * remainder then quotient + 1
  else quotient + quotient % 2

/-- The exponent under which the positive fraction `num / den` has a quotient of 53 bits, or
`minExponent` if that is greater. -/
def exponentOf (num den : Nat) : Int :=
  let guess : Int := (num.log2 : Int) - (den.log2 : Int) - 53
  let (num, den) := scale num den guess
  max minExponent (if num / den < 2 * minSignificand then guess else guess + 1)

/-- The magnitude nearest to `num / den`; there is none if the fraction is too large. -/
def nearest? (num den : Nat) : Option Binary64 :=
  if num = 0 then some ⟨0, minExponent⟩
  else
    let exponent := exponentOf num den
    let (num, den) := scale num den exponent
    let significand := roundHalfEven num den
    let result : Binary64 :=
      if significand < 2 * minSignificand then ⟨significand, exponent⟩
      else ⟨minSignificand, exponent + 1⟩
    if result.exponent ≤ maxExponent then some result else none

/-- The number of decimal digits of `n`. -/
def digitCount (n : Nat) : Nat := (Nat.toDigits 10 n).length

/-- The magnitude nearest to `n * 10 ^ power`. Powers so great or so small that the digits of `n`
cannot matter are decided without computing them. -/
def ofDecimal? (n : Nat) (power : Int) : Option Binary64 :=
  let top := (digitCount n : Int) + power
  if n = 0 ∨ top < -400 then some ⟨0, minExponent⟩
  else if 400 < top then none
  else nearest? (n * Nat.pow 10 power.toNat) (Nat.pow 10 (-power).toNat)

end Binary64

/-! ## The shortest decimal number

The numbers that round to a magnitude form an interval, with its ends if the significand is even.
The coarsest grid of powers of ten that has a point in the interval gives the fewest digits; of two
points the nearer is taken, and the greater if both are as near.
-/

/-- The decimal number `digits * 10 ^ power`. -/
structure Scientific where
  digits : Nat
  power : Int
  deriving DecidableEq, Repr

/-- The numbers that round to a magnitude: from `low / unit` to `high / unit`, around `centre /
unit`. -/
structure Neighbourhood where
  centre : Nat
  low : Nat
  high : Nat
  /-- Whether `low` and `high` themselves round to the magnitude. -/
  closed : Bool
  unit : Nat

/-- The numbers that round to the positive magnitude `x`, counted in quarters of its last place,
which are `2 ^ (x.exponent - 2)`. Below a power of two the next magnitude is only half as far away
as above it. -/
def neighbourhood (x : Binary64) : Neighbourhood :=
  let power := x.exponent - 2
  let below :=
    if x.significand = Binary64.minSignificand ∧ Binary64.minExponent < x.exponent then 1 else 2
  { centre := (4 * x.significand) <<< power.toNat
    low := (4 * x.significand - below) <<< power.toNat
    high := (4 * x.significand + 2) <<< power.toNat
    closed := x.significand % 2 = 0
    unit := 1 <<< (-power).toNat }

namespace Neighbourhood

/-- Whether the fraction `num / den` lies in the neighbourhood `s`. -/
def contains (s : Neighbourhood) (num den : Nat) : Bool :=
  if s.closed then s.low * den ≤ num * s.unit && num * s.unit ≤ s.high * den
  else s.low * den < num * s.unit && num * s.unit < s.high * den

/-- The multiple of `10 ^ power` that lies in the neighbourhood `s`, the one nearest to `s.centre`,
if there is one. -/
def onGrid? (s : Neighbourhood) (power : Int) : Option Scientific :=
  let step := Nat.pow 10 power.toNat
  let den := Nat.pow 10 (-power).toNat
  let under := s.centre * den / (s.unit * step)
  let twiceRest := 2 * (s.centre * den % (s.unit * step))
  let candidates :=
    if twiceRest < s.unit * step then [under, under + 1] else [under + 1, under]
  (candidates.find? fun k => s.contains (k * step) den).map (⟨·, power⟩)

end Neighbourhood

/-- The shortest decimal number that rounds to `x`. -/
def shortest (x : Binary64) : Scientific :=
  if x.significand = 0 then ⟨0, 0⟩
  else
    let s := neighbourhood x
    ((List.range 700).findSome? fun (n : Nat) => s.onGrid? (310 - (n : Int))).getD ⟨0, 0⟩

/-! ## Text -/

inductive Floating
  | finite (negative : Bool) (magnitude : Binary64)
  | infinite (negative : Bool)
  | notANumber
  deriving DecidableEq, Repr

namespace Floating

/-- The decimal number `x` written out, with a point. -/
def positional (x : Scientific) : String :=
  let digits := Nat.toDigits 10 x.digits
  if 0 ≤ x.power then
    String.ofList (digits ++ List.replicate x.power.toNat '0') ++ ".0"
  else
    let places := (-x.power).toNat
    let padded := List.replicate (places + 1 - digits.length) '0' ++ digits
    let whole := padded.length - places
    String.ofList (padded.take whole) ++ "." ++ String.ofList (padded.drop whole)

/-- A floating point number in writing. Zero keeps its sign. -/
def render : Floating → String
  | finite negative magnitude =>
    (if negative then "-" else "") ++ positional (shortest magnitude)
  | infinite negative => if negative then "-inf" else "inf"
  | notANumber => "NaN"

end Floating

end RegisterWrites.Decimal
