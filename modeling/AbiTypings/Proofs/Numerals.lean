import Mathlib.Data.List.TakeWhile
import AbiTypings.Text.Decimal

/-!
# Decimal numerals

Strings of digits, the numbers that they denote, and the digits that a number is written with.

* **Reading** — `takeWhile_isDigit_append` and `dropWhile_isDigit_append`: digits end where the
  first character stands that is none.
* **Numbers** — `decimal`: the number that digits denote, of any length.
* **Both ways** — `decimal_toString`: what a number is written with denotes it.
  `toString_decimal`: a string of digits is what its number is written with, unless it has a leading
  zero.
-/

namespace AbiTypings

/-- A string of digits, which may be empty. -/
def AllDigits (cs : List Char) : Prop :=
  ∀ c ∈ cs, c.isDigit

/-! ## Digits in a text -/

section Reading

variable {digits rest : List Char}

/-- Digits are read up to the first character that is none. -/
theorem takeWhile_isDigit_append (hdigits : AllDigits digits)
    (hrest : ∀ c ∈ rest.head?, c.isDigit = false) :
    (digits ++ rest).takeWhile Char.isDigit = digits := by
  rw [List.takeWhile_append_of_pos hdigits]
  cases rest with
  | nil => rw [List.takeWhile_nil, List.append_nil]
  | cons c rest =>
    rw [List.takeWhile_cons, hrest c rfl, if_neg Bool.false_ne_true, List.append_nil]

theorem dropWhile_isDigit_append (hdigits : AllDigits digits)
    (hrest : ∀ c ∈ rest.head?, c.isDigit = false) :
    (digits ++ rest).dropWhile Char.isDigit = rest := by
  rw [List.dropWhile_append_of_pos hdigits]
  cases rest with
  | nil => rfl
  | cons c rest => rw [List.dropWhile_cons, hrest c rfl, if_neg Bool.false_ne_true]

theorem allDigits_takeWhile (cs : List Char) : AllDigits (cs.takeWhile Char.isDigit) :=
  fun _ hc => List.mem_takeWhile_imp hc

end Reading

/-! ## The digits of a number -/

/-- A number is written in digits of base ten. -/
theorem toList_toString_nat (n : Nat) : (toString n).toList = Nat.toDigits 10 n := by
  rw [Nat.toString_eq_ofList_toDigits, String.toList_ofList]

theorem isDigit_of_mem_toString {n : Nat} {c : Char} (hc : c ∈ (toString n).toList) :
    c.isDigit := by
  rw [toList_toString_nat] at hc
  exact Nat.isDigit_of_mem_toDigits (by decide) (by decide) hc

theorem toList_toString_ne_nil (n : Nat) : (toString n).toList ≠ [] := by
  rw [toList_toString_nat]
  exact Nat.toDigits_ne_nil

/-! ## The number of digits -/

/-- The number that digits denote in base ten. -/
def decimal (digits : List Char) : Nat :=
  Nat.ofDigitChars 10 digits 0

theorem numeral_eq_decimal (digits : List Char) : Text.numeral digits = decimal digits :=
  Nat.ofDigitChars_eq_foldl.symm

/-- A number is read back from its digits. -/
theorem decimal_toString (n : Nat) : decimal (toString n).toList = n := by
  rw [toList_toString_nat, decimal, Nat.ofDigitChars_ten_toDigits]

/-- A digit is what its value is written with. -/
theorem toDigits_digit {c : Char} (hc : c.isDigit) :
    c.toNat - '0'.toNat < 10 ∧ Nat.toDigits 10 (c.toNat - '0'.toNat) = [c] := by
  obtain ⟨hlow, hhigh⟩ := Char.isDigit_iff_toNat.1 hc
  have hzero : '0'.toNat = 48 := rfl
  have hnine : '9'.toNat = 57 := rfl
  have hlt : c.toNat - '0'.toNat < 10 := by omega
  refine ⟨hlt, ?_⟩
  rw [Nat.toDigits_of_lt_base hlt, List.cons.injEq, ← Char.toNat_inj,
    Nat.toNat_digitChar_of_lt_ten hlt]
  exact ⟨by omega, rfl⟩

/-- Digits that are read after a number that is not zero are written behind it. -/
theorem toDigits_ofDigitChars {digits : List Char} (hdigits : AllDigits digits) {n : Nat}
    (hn : 0 < n) :
    Nat.toDigits 10 (Nat.ofDigitChars 10 digits n) = Nat.toDigits 10 n ++ digits := by
  induction digits generalizing n with
  | nil => rw [Nat.ofDigitChars_nil, List.append_nil]
  | cons c digits ih =>
    obtain ⟨hc, hrest⟩ := List.forall_mem_cons.1 hdigits
    obtain ⟨hlt, hdigit⟩ := toDigits_digit hc
    calc Nat.toDigits 10 (Nat.ofDigitChars 10 (c :: digits) n)
        = Nat.toDigits 10 (Nat.ofDigitChars 10 digits (10 * n + (c.toNat - '0'.toNat))) := by
          rw [Nat.ofDigitChars_cons]
      _ = Nat.toDigits 10 (10 * n + (c.toNat - '0'.toNat)) ++ digits := ih hrest (by omega)
      _ = Nat.toDigits 10 n ++ [c] ++ digits := by
          rw [← Nat.toDigits_append_toDigits (by decide) hn hlt, hdigit]
      _ = Nat.toDigits 10 n ++ c :: digits := by rw [List.append_assoc, List.singleton_append]

/-- Digits without a leading zero are what their number is written with. -/
theorem toString_decimal {digits : List Char} (hne : digits ≠ []) (hdigits : AllDigits digits)
    (hzero : digits.head? = some '0' → digits = ['0']) :
    (toString (decimal digits)).toList = digits := by
  rw [toList_toString_nat, decimal]
  cases digits with
  | nil => exact absurd rfl hne
  | cons c digits =>
    obtain ⟨hc, hrest⟩ := List.forall_mem_cons.1 hdigits
    by_cases hfirst : c = '0'
    · subst hfirst
      obtain rfl := (List.cons.inj (hzero rfl)).2
      rfl
    · have hpos : 0 < c.toNat - '0'.toNat := by
        obtain ⟨hlow, -⟩ := Char.isDigit_iff_toNat.1 hc
        have hval : c.toNat ≠ '0'.toNat := fun h => hfirst (Char.toNat_inj.1 h)
        omega
      rw [Nat.ofDigitChars_cons, Nat.mul_zero, Nat.zero_add, toDigits_ofDigitChars hrest hpos,
        (toDigits_digit hc).2, List.singleton_append]

end AbiTypings
