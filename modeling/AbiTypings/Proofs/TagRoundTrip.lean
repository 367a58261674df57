import AbiTypings.Proofs.TagLanguage

/-!
# Types and their tags

A type is written as a tag and read from one.  Every type with its numbers in range is read back
from the text that it is written as, and no other type is read from a tag.  A tag is what its type
is written as unless it says the same in another way: with a leading zero, or without a width.

* **Ranges** — `AbiType.WellFormed`: the numbers of a type are in range.
* **The tag of a type** — `AbiType.tag`: its parts, with its numbers as digits.
  `AbiType.chars_tag`: it is spelled as the type is written.
* **The tag of a text** — `AbiType.eq_tag_of_spells`: with plain numbers and no width left out, a
  tag is the one of the type that it spells.
* **Round trip** — `AbiType.ofTag_text` puts these together.
-/

namespace AbiTypings

/-! ## Ranges -/

/-- The widths of an elementary type are in range. -/
def Elementary.WellFormed : Elementary → Prop
  | uint bits | int bits => IsNumberWidth bits.toNat
  | fixedBytes size => IsByteSize size.toNat
  | fixed _ bits decimals => IsNumberWidth bits.toNat ∧ IsDecimals decimals.toNat
  | bool | address | bytes | string | function => True

/-- The widths of a base, if it has some, are in range. -/
def BaseType.WellFormed : BaseType → Prop
  | elementary type => type.WellFormed
  | tuple => True

/-- The size of a dimension, if it has one, is in range. -/
def Dimension.WellFormed : Dimension → Prop
  | dynamic => True
  | fixed size => IsArraySize size.toNat

/-- The numbers of a type are in range. -/
def AbiType.WellFormed (type : AbiType) : Prop :=
  type.base.WellFormed ∧ ∀ dim ∈ type.dims, dim.WellFormed

/-! ## The tag of a type -/

/-- The digits of a number. -/
def digitsOf (n : Nat) : List Char :=
  (toString n).toList

theorem digitsOf_ne_nil (n : Nat) : digitsOf n ≠ [] :=
  toList_toString_ne_nil n

theorem allDigits_digitsOf (n : Nat) : AllDigits (digitsOf n) :=
  fun _ hc => isDigit_of_mem_toString hc

/-- The base of a tag for an elementary type, with every width given. -/
def Elementary.tag : Elementary → BaseTag
  | bool => .bool
  | address => .address
  | uint bits => .uint (digitsOf bits.toNat)
  | int bits => .int (digitsOf bits.toNat)
  | fixedBytes size => .bytes (digitsOf size.toNat)
  | bytes => .bytes []
  | string => .string
  | function => .function
  | fixed signed bits decimals =>
    .fixed signed (some (digitsOf bits.toNat, digitsOf decimals.toNat))

/-- The base of the tag that a base is written as. -/
def BaseType.tag : BaseType → BaseTag
  | elementary type => type.tag
  | tuple => .tuple

/-- The digits between the brackets of a dimension. -/
def Dimension.digits : Dimension → List Char
  | dynamic => []
  | fixed size => digitsOf size.toNat

/-- The tag that a type is written as. -/
def AbiType.tag (type : AbiType) : TypeTag :=
  ⟨type.base.tag, type.dims.map Dimension.digits⟩

/-! ### It is spelled as the type is written -/

theorem Elementary.chars_tag (type : Elementary) : type.tag.chars = type.text.toList := by
  cases type with
  | bool | address | bytes | string | function => rfl
  | uint bits => simp [tag, text, BaseTag.chars, digitsOf]
  | int bits => simp [tag, text, BaseTag.chars, digitsOf]
  | fixedBytes size => simp [tag, text, BaseTag.chars, digitsOf]
  | fixed signed bits decimals =>
    cases signed <;> simp [tag, text, BaseTag.chars, fixedKeyword, digitsOf]

theorem BaseType.chars_tag (type : BaseType) : type.tag.chars = type.text.toList := by
  cases type with
  | elementary type => exact type.chars_tag
  | tuple => rfl

theorem Dimension.dimChars_digits (dim : Dimension) : dimChars dim.digits = dim.text.toList := by
  cases dim with
  | dynamic => rfl
  | fixed size => simp [dimChars, digits, text, digitsOf]

/-- The tag of a type has the characters of its text. -/
theorem AbiType.chars_tag (type : AbiType) : type.tag.chars = type.text.toList := by
  have hdims : ∀ dims : List Dimension, (dims.map Dimension.digits).flatMap dimChars =
      (String.join (dims.map Dimension.text)).toList := by
    intro dims
    induction dims with
    | nil => rfl
    | cons dim dims ih =>
      simp [ih, dim.dimChars_digits]
  rw [TypeTag.chars, tag, type.base.chars_tag, hdims, text, String.toList_append]

/-! ### It is proper, in range when the type is, and spells the type -/

theorem BaseType.proper_tag (type : BaseType) : type.tag.Proper := by
  cases type with
  | tuple => trivial
  | elementary type =>
    cases type with
    | bool | address | string | function => trivial
    | bytes => exact fun _ h => absurd h List.not_mem_nil
    | uint bits => exact allDigits_digitsOf _
    | int bits => exact allDigits_digitsOf _
    | fixedBytes size => exact allDigits_digitsOf _
    | fixed signed bits decimals =>
      exact ⟨⟨digitsOf_ne_nil _, allDigits_digitsOf _⟩, digitsOf_ne_nil _, allDigits_digitsOf _⟩

theorem AbiType.proper_tag (type : AbiType) : type.tag.Proper := by
  refine ⟨type.base.proper_tag, fun digits hmem => ?_⟩
  obtain ⟨dim, -, rfl⟩ := List.mem_map.1 hmem
  cases dim with
  | dynamic => exact fun _ h => absurd h List.not_mem_nil
  | fixed size => exact allDigits_digitsOf _

theorem BaseType.inRange_tag {type : BaseType} (hwf : type.WellFormed) : type.tag.InRange := by
  cases type with
  | tuple => trivial
  | elementary type =>
    cases type with
    | bool | address | string | function => trivial
    | bytes => exact .inl rfl
    | uint bits | int bits | fixedBytes size =>
      right
      rwa [digitsOf, decimal_toString]
    | fixed signed bits decimals =>
      show IsNumberWidth (decimal (digitsOf _)) ∧ IsDecimals (decimal (digitsOf _))
      rwa [digitsOf, digitsOf, decimal_toString, decimal_toString]

theorem AbiType.inRange_tag {type : AbiType} (hwf : type.WellFormed) : type.tag.InRange := by
  refine ⟨BaseType.inRange_tag hwf.1, fun digits hmem => ?_⟩
  obtain ⟨dim, hdim, rfl⟩ := List.mem_map.1 hmem
  have hrange := hwf.2 dim hdim
  cases dim with
  | dynamic => exact .inl rfl
  | fixed size =>
    right
    rwa [Dimension.digits, digitsOf, decimal_toString]

theorem BaseType.spells_tag (type : BaseType) : type.tag.Spells type := by
  cases type with
  | tuple => exact .tuple
  | elementary type =>
    cases type with
    | bool => exact .bool
    | address => exact .address
    | string => exact .string
    | function => exact .function
    | bytes => exact .bytes
    | uint bits => exact .uint (digitsOf_ne_nil _) (decimal_toString _).symm
    | int bits => exact .int (digitsOf_ne_nil _) (decimal_toString _).symm
    | fixedBytes size => exact .fixedBytes (digitsOf_ne_nil _) (decimal_toString _).symm
    | fixed signed bits decimals =>
      exact .fixed signed (decimal_toString _).symm (decimal_toString _).symm

/-- The tag of a type spells the type. -/
theorem AbiType.spells_tag (type : AbiType) : type.tag.Spells type := by
  refine ⟨type.base.spells_tag, ?_⟩
  rw [tag, List.forall₂_map_left_iff, List.forall₂_same]
  intro dim _
  cases dim with
  | dynamic => exact .dynamic
  | fixed size => exact .fixed (digitsOf_ne_nil _) (decimal_toString _).symm

/-! ### It has no blanks around it -/

theorem isBlank_of_isDigit {c : Char} (hc : c.isDigit) : Text.isBlank c = false := by
  obtain ⟨hlow, hhigh⟩ := Char.isDigit_iff_toNat.1 hc
  have hzero : '0'.toNat = 48 := rfl
  have hnine : '9'.toNat = 57 := rfl
  simp [Text.isBlank]
  omega

theorem BaseTag.isBlank_of_mem_chars {base : BaseTag} (hbase : base.Proper) :
    ∀ c ∈ base.chars, Text.isBlank c = false := by
  have hdigits : ∀ {digits}, AllDigits digits → ∀ c ∈ digits, Text.isBlank c = false :=
    fun h c hc => isBlank_of_isDigit (h c hc)
  have hkeyword : ∀ {keyword : List Char}, keyword.any Text.isBlank = false →
      ∀ c ∈ keyword, Text.isBlank c = false :=
    fun h c hc => Bool.eq_false_iff.2 (List.any_eq_false.1 h c hc)
  have hfixed : ∀ signed, (fixedKeyword signed).any Text.isBlank = false := by
    intro signed
    cases signed <;> rfl
  cases base with
  | tuple | address | bool | string | function => exact hkeyword rfl
  | bytes size | uint size | int size =>
    simp only [chars, List.forall_mem_append]
    exact ⟨hkeyword rfl, hdigits hbase⟩
  | fixed signed widths =>
    cases widths with
    | none => exact hkeyword (hfixed signed)
    | some widths =>
      simp only [chars, List.forall_mem_append, List.forall_mem_cons]
      exact ⟨⟨hkeyword (hfixed signed), hdigits hbase.1.2⟩, rfl, hdigits hbase.2.2⟩

theorem TypeTag.isBlank_of_mem_chars {tag : TypeTag} (hproper : tag.Proper) :
    ∀ c ∈ tag.chars, Text.isBlank c = false := by
  rw [chars, List.forall_mem_append]
  refine ⟨BaseTag.isBlank_of_mem_chars hproper.1, fun c hc => ?_⟩
  obtain ⟨digits, hmem, hc⟩ := List.mem_flatMap.1 hc
  simp only [dimChars, List.mem_append, List.mem_cons, List.not_mem_nil, or_false] at hc
  obtain (rfl | hc) | rfl := hc
  · rfl
  · exact isBlank_of_isDigit (hproper.2 digits hmem c hc)
  · rfl

/-- There is nothing to trim off a tag. -/
theorem TypeTag.trims_chars {tag : TypeTag} (hproper : tag.Proper) :
    Text.Trims tag.chars tag.chars := by
  have hblank := isBlank_of_mem_chars hproper
  refine ⟨⟨[], [], by simp, fun c hc => absurd hc List.not_mem_nil⟩, ?_, ?_⟩
  · exact fun c hc => hblank c (List.mem_of_head? hc)
  · exact fun c hc => hblank c (List.mem_of_getLast? hc)

/-! ## The tag of a text -/

/-- A number in a text: digits with no digit before or after them. -/
def NumberIn (cs digits : List Char) : Prop :=
  ∃ before after, cs = before ++ digits ++ after ∧ (digits ≠ [] ∧ AllDigits digits) ∧
    (∀ c ∈ before.getLast?, c.isDigit = false) ∧ ∀ c ∈ after.head?, c.isDigit = false

/-- No number in a text has a leading zero. -/
def PlainNumbers (cs : List Char) : Prop :=
  ∀ digits, NumberIn cs digits → digits.head? = some '0' → digits = ['0']

/-- A text begins with the keyword of a number and has no width after it. -/
def OmitsWidth (cs : List Char) : Prop :=
  ∃ keyword ∈ ["uint", "int", "fixed", "ufixed"], ∃ rest,
    cs = keyword.toList ++ rest ∧ ∀ c ∈ rest.head?, c.isDigit = false

section PlainNumbers

variable {cs digits : List Char}

/-- A plain number is what its value is written with. -/
theorem PlainNumbers.eq_digitsOf (hplain : PlainNumbers cs) (hnumber : NumberIn cs digits) {n : Nat}
    (hn : n = decimal digits) : digits = digitsOf n := by
  have hzero := hplain digits hnumber
  obtain ⟨before, after, -, ⟨hne, hdigits⟩, -, -⟩ := hnumber
  rw [hn, digitsOf, toString_decimal hne hdigits hzero]

/-- The digits of a dimension are a number of the text. -/
theorem numberIn_flatMap_dimChars (before : List Char) {dims : List (List Char)}
    (hmem : digits ∈ dims) (hne : digits ≠ []) (hdigits : AllDigits digits) :
    NumberIn (before ++ dims.flatMap dimChars) digits := by
  obtain ⟨front, back, rfl⟩ := List.append_of_mem hmem
  refine ⟨before ++ front.flatMap dimChars ++ ['['], ']' :: back.flatMap dimChars, ?_,
    ⟨hne, hdigits⟩, ?_, ?_⟩
  · simp [dimChars]
  · simp
  · simp

end PlainNumbers

section TagOfText

variable {tag : BaseTag} {type : BaseType} {rest : List Char}

/-- Before dimensions, a base with plain numbers and with its widths is the one of its type. -/
theorem BaseTag.eq_tag_of_spells (hproper : tag.Proper) (hspells : tag.Spells type)
    (hrest : ∀ c ∈ rest.head?, c.isDigit = false) (hplain : PlainNumbers (tag.chars ++ rest))
    (hgiven : ¬ OmitsWidth (tag.chars ++ rest)) : tag = type.tag := by
  cases hspells with
  | tuple | address | bool | string | function | bytes => rfl
  | plainUint => exact absurd ⟨"uint", by simp, rest, rfl, hrest⟩ hgiven
  | plainInt => exact absurd ⟨"int", by simp, rest, rfl, hrest⟩ hgiven
  | plainFixed signed =>
    refine absurd ⟨if signed then "fixed" else "ufixed", ?_, rest, ?_, hrest⟩ hgiven
    · cases signed <;> simp
    · cases signed <;> rfl
  | @uint digits bits hne hbits =>
    have hnumber : NumberIn (['u', 'i', 'n', 't'] ++ digits ++ rest) digits :=
      ⟨_, rest, rfl, ⟨hne, hproper⟩, by simp, hrest⟩
    rw [hplain.eq_digitsOf hnumber hbits]
    rfl
  | @int digits bits hne hbits =>
    have hnumber : NumberIn (['i', 'n', 't'] ++ digits ++ rest) digits :=
      ⟨_, rest, rfl, ⟨hne, hproper⟩, by simp, hrest⟩
    rw [hplain.eq_digitsOf hnumber hbits]
    rfl
  | @fixedBytes digits size hne hsize =>
    have hnumber : NumberIn (['b', 'y', 't', 'e', 's'] ++ digits ++ rest) digits :=
      ⟨_, rest, rfl, ⟨hne, hproper⟩, by simp, hrest⟩
    rw [hplain.eq_digitsOf hnumber hsize]
    rfl
  | @fixed signed digits digits' bits decimals hbits hdecimals =>
    have hnumber : NumberIn (chars (.fixed signed (some (digits, digits'))) ++ rest) digits := by
      refine ⟨fixedKeyword signed, 'x' :: digits' ++ rest, ?_, hproper.1, ?_, by simp⟩
      · simp [chars]
      · cases signed <;> simp [fixedKeyword]
    have hnumber' : NumberIn (chars (.fixed signed (some (digits, digits'))) ++ rest) digits' := by
      refine ⟨fixedKeyword signed ++ digits ++ ['x'], rest, ?_, hproper.2, by simp, hrest⟩
      simp [chars]
    rw [hplain.eq_digitsOf hnumber hbits, hplain.eq_digitsOf hnumber' hdecimals]
    rfl

end TagOfText

/-- With plain numbers and no width left out, a tag is the one of the type that it spells. -/
theorem AbiType.eq_tag_of_spells {tag : TypeTag} {type : AbiType} (hproper : tag.Proper)
    (hspells : tag.Spells type) (hplain : PlainNumbers tag.chars)
    (hgiven : ¬ OmitsWidth tag.chars) : tag = type.tag := by
  have hbase : tag.base = type.base.tag := by
    refine BaseTag.eq_tag_of_spells hproper.1 hspells.1 (fun c hc => ?_) hplain hgiven
    rw [head?_flatMap_dimChars tag.dims c hc]
    rfl
  have hdim : ∀ digits dim, digits ∈ tag.dims ∧ SpellsDim digits dim → digits = dim.digits := by
    rintro digits dim ⟨hmem, hspells⟩
    cases hspells with
    | dynamic => rfl
    | fixed hne hsize =>
      exact hplain.eq_digitsOf
        (numberIn_flatMap_dimChars tag.base.chars hmem hne (hproper.2 digits hmem)) hsize
  have hdims : List.Forall₂ (fun digits dim => digits = dim.digits) tag.dims type.dims :=
    ((List.forall₂_and_left _ _).2 ⟨fun _ hmem => hmem, hspells.2⟩).imp hdim
  have hdims' : tag.dims = type.dims.map Dimension.digits := by
    rwa [← List.forall₂_map_right_iff, List.forall₂_eq_eq_eq] at hdims
  show (⟨tag.base, tag.dims⟩ : TypeTag) = type.tag
  rw [hbase, hdims']
  rfl

/-! ## Round trip -/

theorem BaseTag.wellFormed_of_spells {tag : BaseTag} {type : BaseType} (hrange : tag.InRange)
    (hspells : tag.Spells type) : type.WellFormed := by
  have hwidth : ∀ {n : Nat}, n = 256 ∨ n = 128 → IsNumberWidth n := by
    intro n hn
    unfold IsNumberWidth
    omega
  cases hspells with
  | tuple | address | bool | string | function | bytes => trivial
  | plainUint | plainInt => exact hwidth (.inl rfl)
  | plainFixed signed => exact ⟨hwidth (.inr rfl), show 18 ≤ 80 by decide⟩
  | uint hne hbits | int hne hbits =>
    show IsNumberWidth _
    rw [hbits]
    exact hrange.resolve_left hne
  | fixedBytes hne hsize =>
    show IsByteSize _
    rw [hsize]
    exact hrange.resolve_left hne
  | fixed signed hbits hdecimals =>
    show IsNumberWidth _ ∧ IsDecimals _
    rw [hbits, hdecimals]
    exact hrange

/-- A tag with its numbers in range spells a type with its numbers in range. -/
theorem AbiType.wellFormed_of_spells {tag : TypeTag} {type : AbiType} (hrange : tag.InRange)
    (hspells : tag.Spells type) : type.WellFormed := by
  have hdim : ∀ digits dim, (digits = [] ∨ IsArraySize (decimal digits)) ∧ SpellsDim digits dim →
      dim.WellFormed := by
    rintro digits dim ⟨hrange, hspells⟩
    cases hspells with
    | dynamic => trivial
    | fixed hne hsize =>
      show IsArraySize _
      rw [hsize]
      exact hrange.resolve_left hne
  have hdims := (List.forall₂_and_left _ _).2 ⟨hrange.2, hspells.2⟩
  refine ⟨BaseTag.wellFormed_of_spells hrange.1 hspells.1, fun dim hmem => ?_⟩
  obtain ⟨digits, hdigits⟩ := exists_forall₂_iff.1 ⟨_, hdims.flip⟩ dim hmem
  exact hdim digits dim hdigits

/-- A type with its numbers in range is read back from the text that it is written as.  Whatever is
read from a text has its numbers in range, and is written as that text without the blanks around it
when no number there has a leading zero and no width is left out. -/
theorem AbiType.ofTag_text :
    (∀ type : AbiType, type.WellFormed → AbiType.ofTag type.text = .ok type) ∧
    ∀ s type, AbiType.ofTag s = .ok type → type.WellFormed ∧
      ∀ core : String, Text.Trims s.toList core.toList → PlainNumbers core.toList →
        ¬ OmitsWidth core.toList → type.text = core := by
  constructor
  · intro type hwf
    have htrims := TypeTag.trims_chars type.proper_tag
    rw [type.chars_tag] at htrims
    rw [ofTag_eq_ok_iff, ofTag?_eq_some_iff]
    refine ⟨type.tag, ⟨type.proper_tag, ?_⟩, inRange_tag hwf, type.spells_tag⟩
    rwa [type.chars_tag]
  · intro s type hread
    rw [ofTag_eq_ok_iff, ofTag?_eq_some_iff] at hread
    obtain ⟨tag, ⟨hproper, htag⟩, hrange, hspells⟩ := hread
    refine ⟨wellFormed_of_spells hrange hspells, fun core hcore hplain hgiven => ?_⟩
    -- a text has only one text without the blanks around it
    have hchars : core.toList = tag.chars := by
      rw [← Text.trims_iff.1 hcore, Text.trims_iff.1 htag]
    rw [hchars] at hplain hgiven
    rw [← String.toList_inj, ← type.chars_tag, hchars,
      ← eq_tag_of_spells hproper hspells hplain hgiven]

/-- Forty bits, ten times over, with a blank on either side. -/
theorem AbiType.ofTag_text_uint40 :
    let type : AbiType := ⟨.elementary (.uint 40), [.fixed 10, .dynamic]⟩
    (type.WellFormed ∧ AbiType.ofTag type.text = .ok type) ∧
      (AbiType.ofTag " uint40[10][] " = .ok type ∧
        Text.Trims " uint40[10][] ".toList "uint40[10][]".toList ∧
        PlainNumbers "uint40[10][]".toList ∧ ¬ OmitsWidth "uint40[10][]".toList) ∧
      type.text = "uint40[10][]" := by
  intro type
  have hwf : type.WellFormed := by
    refine ⟨⟨by decide, by decide, by decide⟩, ?_⟩
    simp [type, Dimension.WellFormed, IsArraySize, UInt64.size]
  have hread : AbiType.ofTag " uint40[10][] " = .ok type := by decide
  have htrims : Text.Trims " uint40[10][] ".toList "uint40[10][]".toList :=
    Text.trims_iff.2 (by decide)
  have hchars : "uint40[10][]".toList =
      ['u', 'i', 'n', 't', '4', '0', '[', '1', '0', ']', '[', ']'] := rfl
  have hplain : PlainNumbers "uint40[10][]".toList := by
    rintro digits ⟨before, after, hsplit, -, hbefore, -⟩ hzero
    obtain ⟨rest, rfl⟩ := List.head?_eq_some_iff.1 hzero
    -- either zero stands behind a digit
    simp [hchars, List.cons_eq_append_iff] at hsplit
    obtain ⟨tail, rfl, ⟨rfl, -⟩ | ⟨rfl, -⟩⟩ := hsplit
    · exact absurd (hbefore '4' rfl) (by decide)
    · exact absurd (hbefore '1' rfl) (by decide)
  have hgiven : ¬ OmitsWidth "uint40[10][]".toList := by
    rintro ⟨keyword, hkeyword, rest, hsplit, hrest⟩
    simp only [List.mem_cons, List.not_mem_nil, or_false] at hkeyword
    obtain rfl | rfl | rfl | rfl := hkeyword
    · simp [hchars] at hsplit
      subst hsplit
      exact absurd (hrest '4' rfl) (by decide)
    · simp [hchars] at hsplit
    · simp [hchars] at hsplit
    · simp [hchars] at hsplit
  exact ⟨⟨hwf, ofTag_text.1 type hwf⟩, ⟨hread, htrims, hplain, hgiven⟩,
    (ofTag_text.2 _ type hread).2 _ htrims hplain hgiven⟩

end AbiTypings
