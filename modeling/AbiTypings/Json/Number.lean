import AbiTypings.Json.Basic
import AbiTypings.Text.Decimal

/-!
# JSON numbers

A number is an optional minus sign, a numeral without leading zeros, an optional fraction and an
optional exponent. Its digits are gathered into a 64-bit significand: integer digits that do not fit
any more only raise the exponent, and fraction digits that do not fit are ignored.
-/

namespace AbiTypings.Json

/-- The parts of a number as written. An absent fraction has no digits. -/
structure NumberText where
  negative : Bool
  whole : List Char
  fraction : List Char
  exponent : Option Int

/-! ## Parts of a number -/

/-- Split leading digits off. -/
def spanDigits (cs : List Char) : List Char × List Char :=
  (cs.takeWhile Char.isDigit, cs.dropWhile Char.isDigit)

/-- The fraction: a point and at least one digit, or nothing. -/
def readFraction : List Char → Option (List Char × List Char)
  | '.' :: cs =>
    let (digits, rest) := spanDigits cs
    if digits.isEmpty then none else some (digits, rest)
  | cs => some ([], cs)

/-- The digits of an exponent, which are the end of the number. -/
def readExponentDigits (cs : List Char) : Option Nat :=
  if cs.isEmpty || !cs.all Char.isDigit then none else some (Text.numeral cs)

/-- The exponent: a letter, an optional sign and at least one digit, or nothing. -/
def readExponent : List Char → Option (Option Int)
  | [] => some none
  | c :: cs =>
    if c = 'e' ∨ c = 'E' then
      match cs with
      | '-' :: digits => (readExponentDigits digits).map fun n => some (-n)
      | '+' :: digits => (readExponentDigits digits).map fun n => some n
      | digits => (readExponentDigits digits).map fun n => some n
    else none

/-- Whether digits are a numeral without leading zeros. -/
def isWholePart (digits : List Char) : Bool :=
  match digits with
  | [] => false
  | ['0'] => true
  | c :: _ => c != '0'

/-- Read a number without its sign. -/
def readUnsigned (negative : Bool) (cs : List Char) : Option NumberText :=
  let (whole, rest) := spanDigits cs
  if isWholePart whole then
    (readFraction rest).bind fun (fraction, rest) =>
      (readExponent rest).map fun exponent => ⟨negative, whole, fraction, exponent⟩
  else none

/-- Read a number into its parts. -/
def readNumberText : List Char → Option NumberText
  | '-' :: cs => readUnsigned true cs
  | cs => readUnsigned false cs

/-! ## Value of a number -/

/-- The bound of significands. -/
def significandBound : Nat := UInt64.size

/-- Gather integer digits: the significand, and how many digits did not fit. -/
def gatherWhole : Nat → Nat → List Char → Nat × Nat
  | significand, dropped, [] => (significand, dropped)
  | significand, dropped, c :: cs =>
    let longer := 10 * significand + Text.digitValue c
    if dropped = 0 ∧ longer < significandBound then gatherWhole longer 0 cs
    else gatherWhole significand (dropped + 1) cs

/-- Gather fraction digits up to the first that does not fit: the significand, and how many digits
did fit. -/
def gatherFraction : Nat → Nat → List Char → Nat × Nat
  | significand, taken, [] => (significand, taken)
  | significand, taken, c :: cs =>
    let longer := 10 * significand + Text.digitValue c
    if longer < significandBound then gatherFraction longer (taken + 1) cs
    else (significand, taken)

/-- The value of a number, or `none` when it is too large. A negative number that is no 64-bit
integer, and minus zero, are floating point numbers. -/
def NumberText.value (n : NumberText) : Option Json :=
  let (whole, dropped) := gatherWhole 0 0 n.whole
  let (significand, taken) := gatherFraction whole 0 n.fraction
  let real := (Magnitude.ofDecimal significand (dropped - taken + n.exponent.getD 0)).map
    fun magnitude => Json.real ⟨n.negative, magnitude⟩
  if n.fraction.isEmpty && n.exponent.isNone && dropped == 0 then
    if !n.negative then some (.int significand)
    else if 0 < significand && 2 * significand ≤ significandBound then some (.int (-significand))
    else real
  else real

/-- Read a number. -/
def readNumber (cs : List Char) : Option Json :=
  (readNumberText cs).bind NumberText.value

end AbiTypings.Json
