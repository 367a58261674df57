/-!
# Decimal numerals

Reading a numeral of ASCII digits. Leading zeros are allowed, and a numeral may be of any length.
-/

namespace AbiTypings.Text

/-- The value of a digit. -/
def digitValue (c : Char) : Nat :=
  c.toNat - '0'.toNat

/-- The number that a string of digits denotes; no digits denote zero. -/
def numeral (digits : List Char) : Nat :=
  digits.foldl (fun n c => 10 * n + digitValue c) 0

end AbiTypings.Text
