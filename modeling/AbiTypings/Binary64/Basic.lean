/-!
# Binary floating point

Finite numbers of the 64-bit binary format, as a sign and a magnitude `significand * 2 ^ exponent`.
All arithmetic is on natural numbers: a result is the exact quotient of two naturals, rounded to the
nearest magnitude, with a half going to the even significand (`nearest`).

A decimal number is read in the customary two steps: its digits are rounded to a magnitude, which is
then multiplied or divided by a rounded power of ten. This is exact for short numbers and may differ
from the nearest magnitude in the last place for long ones.
-/

namespace AbiTypings

/-- The magnitude `significand * 2 ^ exponent`. -/
structure Magnitude where
  significand : Nat
  exponent : Int
  deriving DecidableEq, Repr

/-- A finite number. Zero has a sign too. -/
structure Binary64 where
  negative : Bool
  magnitude : Magnitude
  deriving DecidableEq, Repr

namespace Magnitude

/-- The least exponent of the format. -/
def leastExponent : Int := -1074

/-- The least significand of a magnitude above the least exponent, which is `2 ^ 52`; all are below
its double. -/
def leastNormal : Nat := 4503599627370496

/-- The greatest exponent of the format. -/
def greatestExponent : Int := 971

/-- The magnitude zero. -/
def zero : Magnitude := ⟨0, leastExponent⟩

/-! ## Quotients -/

/-- The quotient `num / den * base ^ exponent` as a quotient of naturals. -/
def scaleBy (base : Nat) (exponent : Int) (num den : Nat) : Nat × Nat :=
  if 0 ≤ exponent then (num * base.pow exponent.toNat, den)
  else (num, den * base.pow (-exponent).toNat)

/-- A magnitude as a quotient. -/
def ratio (x : Magnitude) : Nat × Nat :=
  scaleBy 2 x.exponent x.significand 1

/-- The greatest `k` with `2 ^ k ≤ num / den`, for positive naturals. -/
def floorLog2 (num den : Nat) : Int :=
  let k : Int := (num.log2 : Int) - den.log2
  let (n, d) := scaleBy 2 (-k) num den
  if d ≤ n then k else k - 1

/-- The integer nearest to a quotient; a half goes to the even neighbour. -/
def roundHalfEven (num den : Nat) : Nat :=
  let low := num / den
  let twice := 2 * (num % den)
  if den < twice || (twice == den && low % 2 == 1) then low + 1 else low

/-- The magnitude nearest to a quotient, or `none` when it is too large for the format. -/
def nearest (num den : Nat) : Option Magnitude :=
  if num = 0 then some zero
  else
    let exponent := max (floorLog2 num den - leastNormal.log2) leastExponent
    let (n, d) := scaleBy 2 (-exponent) num den
    let significand := roundHalfEven n d
    let x : Magnitude :=
      if significand = 2 * leastNormal then ⟨leastNormal, exponent + 1⟩ else ⟨significand, exponent⟩
    if greatestExponent < x.exponent then none else some x

/-! ## Powers of ten -/

/-- The power of ten nearest to `10 ^ k`, for `k` up to 308. -/
def powerOfTen (k : Nat) : Magnitude :=
  (nearest (Nat.pow 10 k) 1).getD zero

/-- The rounded product. -/
def times (x y : Magnitude) : Option Magnitude :=
  nearest (x.ratio.1 * y.ratio.1) (x.ratio.2 * y.ratio.2)

/-- The rounded quotient by a power of ten, which is never too large. -/
def dividedBy (x y : Magnitude) : Magnitude :=
  (nearest (x.ratio.1 * y.ratio.2) (x.ratio.2 * y.ratio.1)).getD zero

/-- The greatest power of ten that the format holds. -/
def greatestPower : Nat := 308

/-- Divide by `10 ^ k`, by at most the greatest power of ten at a time. -/
def shrink (x : Magnitude) (k : Nat) : Magnitude :=
  if k ≤ greatestPower then x.dividedBy (powerOfTen k)
  else if x.significand = 0 then x
  else shrink (x.dividedBy (powerOfTen greatestPower)) (k - greatestPower)
termination_by k
decreasing_by simp_all [greatestPower]; omega

/-- Multiply by `10 ^ k`. -/
def grow (x : Magnitude) (k : Nat) : Option Magnitude :=
  if k ≤ greatestPower then x.times (powerOfTen k)
  else if x.significand = 0 then some x
  else none

/-- The magnitude of `significand * 10 ^ exponent`, or `none` when it is too large. -/
def ofDecimal (significand : Nat) (exponent : Int) : Option Magnitude :=
  (nearest significand 1).bind fun x =>
    if 0 ≤ exponent then x.grow exponent.toNat else some (x.shrink (-exponent).toNat)

end Magnitude
end AbiTypings
