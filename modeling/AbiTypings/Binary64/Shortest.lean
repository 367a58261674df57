import AbiTypings.Binary64.Basic

/-!
# Shortest decimal text

The text of a number has the fewest significant digits that read back as the number; of several such
decimals it is the nearest one, and of two equally near ones the one whose last digit is even. A
decimal reads back when it lies between the midpoints to the neighbouring magnitudes, the midpoints
included when the significand is even.

A number whose leading digit stands for `10 ^ e` is written positionally when `-5 ≤ e ≤ 15`, with at
least one digit after the point, and with a signed exponent otherwise: `100.0`, `0.00001`, `1e+16`,
`1.5e-7`.
-/

namespace AbiTypings.Magnitude

/-- The decimal `coefficient * 10 ^ exponent`. -/
structure Decimal where
  coefficient : Nat
  exponent : Int

/-! ## The decimals that read back -/

/-- Compare two quotients of naturals. -/
def ratioLe (a b : Nat × Nat) : Bool :=
  a.1 * b.2 ≤ b.1 * a.2

/-- A decimal as a quotient. -/
def Decimal.ratio (x : Decimal) : Nat × Nat :=
  scaleBy 10 x.exponent x.coefficient 1

/-- The midpoint to the next lower magnitude, in quarters of the last place: the lower neighbour of
a power of two is half as far away as the upper one. -/
def lowerMidpoint (x : Magnitude) : Nat × Nat :=
  let gap := if x.significand = leastNormal ∧ leastExponent < x.exponent then 1 else 2
  scaleBy 2 (x.exponent - 2) (4 * x.significand - gap) 1

/-- The midpoint to the next higher magnitude. -/
def upperMidpoint (x : Magnitude) : Nat × Nat :=
  scaleBy 2 (x.exponent - 2) (4 * x.significand + 2) 1

/-- Whether a decimal reads back as the magnitude. -/
def readsBack (x : Magnitude) (d : Decimal) : Bool :=
  let r := d.ratio
  if x.significand % 2 = 0 then
    ratioLe x.lowerMidpoint r && ratioLe r x.upperMidpoint
  else
    !ratioLe r x.lowerMidpoint && !ratioLe x.upperMidpoint r

/-! ## The shortest of them -/

/-- The greatest `e` with `10 ^ e ≤ num / den`, for positive naturals. The binary logarithm gives it
up to one. -/
def floorLog10 (num den : Nat) : Int :=
  let estimate := floorLog2 num den * 30103 / 100000
  let atLeast (e : Int) : Bool := ratioLe (scaleBy 10 e 1 1) (num, den)
  if atLeast (estimate + 1) then estimate + 1
  else if atLeast estimate then estimate
  else estimate - 1

/-- The better of the two neighbours of a magnitude among the multiples of `10 ^ exponent`, if one
of them reads back. -/
def neighbour? (x : Magnitude) (exponent : Int) : Option Decimal :=
  let (num, den) := scaleBy 10 (-exponent) x.ratio.1 x.ratio.2
  let low : Decimal := ⟨num / den, exponent⟩
  let high : Decimal := ⟨num / den + 1, exponent⟩
  match x.readsBack low, x.readsBack high with
  | true, true => some ⟨roundHalfEven num den, exponent⟩
  | true, false => some low
  | false, true => some high
  | false, false => none

/-- The shortest decimal that reads back as a positive magnitude. Seventeen digits always do. -/
def shortest (x : Magnitude) : Decimal :=
  let leading := floorLog10 x.ratio.1 x.ratio.2
  ((List.range 17).findSome? fun (n : Nat) => x.neighbour? (leading - n)).getD ⟨0, 0⟩

/-! ## Text -/

/-- Drop the zeros at the end. -/
def dropTrailingZeros (digits : List Char) : List Char :=
  (digits.reverse.dropWhile (· = '0')).reverse

/-- Write digits whose first one stands for `10 ^ leading`. -/
def writeDigits (digits : List Char) (leading : Int) : List Char :=
  if -5 ≤ leading ∧ leading ≤ 15 then
    if leading < 0 then
      '0' :: '.' :: List.replicate (-leading - 1).toNat '0' ++ digits
    else
      let whole := leading.toNat + 1
      let fraction := digits.drop whole
      digits.take whole ++ List.replicate (whole - digits.length) '0' ++ ['.']
        ++ (if fraction.isEmpty then ['0'] else fraction)
  else
    let point := if digits.length = 1 then [] else ['.']
    let sign := if leading < 0 then '-' else '+'
    digits.take 1 ++ point ++ digits.drop 1 ++ ['e', sign] ++ Nat.toDigits 10 leading.natAbs

/-- The text of a magnitude. -/
def text (x : Magnitude) : List Char :=
  if x.significand = 0 then ['0', '.', '0']
  else
    let d := x.shortest
    let digits := Nat.toDigits 10 d.coefficient
    writeDigits (dropTrailingZeros digits) (d.exponent + digits.length - 1)

end AbiTypings.Magnitude

namespace AbiTypings

/-- The text of a number. -/
def Binary64.text (x : Binary64) : String :=
  String.ofList (if x.negative then '-' :: x.magnitude.text else x.magnitude.text)

end AbiTypings
