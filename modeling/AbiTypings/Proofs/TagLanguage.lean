import AbiTypings.Proofs.TagSpelling
import AbiTypings.Proofs.Traversal

/-!
# The language of type tags

Which types the texts of tags stand for, said without reading them: the digits of a tag are numbers
of any length, and reading gives exactly the types that are spelled with every number in range.

* **Meaning** — `TypeTag.InRange` and `TypeTag.Spells`: the numbers that digits may denote, and the
  type of a tag.  `TypeTag.resolve_eq_some_iff`: a tag has a meaning just when it is in range, and
  `TypeTag.exists_spells`: nothing else is asked of it.
* **Blanks** — `Text.Trims`: a text without the blanks around it.
* **Types** — `AbiType.ofTag_iff` puts these together with the spelling of tags.
-/

namespace AbiTypings

/-! ## Meaning -/

section Ranges

/-- What the width of a number may be. -/
def IsNumberWidth (n : Nat) : Prop :=
  8 ≤ n ∧ n ≤ 256 ∧ 8 ∣ n

/-- How many decimals a fixed-point number may have. -/
def IsDecimals (n : Nat) : Prop :=
  n ≤ 80

/-- How long a byte string of fixed length may be. -/
def IsByteSize (n : Nat) : Prop :=
  1 ≤ n ∧ n ≤ 32

/-- How long an array of fixed length may be. -/
def IsArraySize (n : Nat) : Prop :=
  1 ≤ n ∧ n < UInt64.size

variable {n : Nat}

theorem numberWidth?_eq_some_iff {bits : UInt16} :
    numberWidth? n = some bits ↔ IsNumberWidth n ∧ bits.toNat = n := by
  unfold numberWidth? IsNumberWidth
  rw [Option.ite_none_right_eq_some, Option.some.injEq, ← UInt16.toNat_inj, UInt16.toNat_ofNat']
  omega

theorem decimals?_eq_some_iff {decimals : UInt8} :
    decimals? n = some decimals ↔ IsDecimals n ∧ decimals.toNat = n := by
  unfold decimals? IsDecimals
  rw [Option.ite_none_right_eq_some, Option.some.injEq, ← UInt8.toNat_inj, UInt8.toNat_ofNat']
  omega

theorem byteSize?_eq_some_iff {size : UInt8} :
    byteSize? n = some size ↔ IsByteSize n ∧ size.toNat = n := by
  unfold byteSize? IsByteSize
  rw [Option.ite_none_right_eq_some, Option.some.injEq, ← UInt8.toNat_inj, UInt8.toNat_ofNat']
  omega

theorem arraySize?_eq_some_iff {size : UInt64} :
    arraySize? n = some size ↔ IsArraySize n ∧ size.toNat = n := by
  unfold arraySize? IsArraySize UInt64.size
  rw [Option.ite_none_right_eq_some, Option.some.injEq, ← UInt64.toNat_inj, UInt64.toNat_ofNat']
  omega

end Ranges

/-- The numbers of a base are in range. -/
def BaseTag.InRange : BaseTag → Prop
  | bytes size => size = [] ∨ IsByteSize (decimal size)
  | uint width | int width => width = [] ∨ IsNumberWidth (decimal width)
  | fixed _ (some (bits, decimals)) => IsNumberWidth (decimal bits) ∧ IsDecimals (decimal decimals)
  | tuple | address | bool | string | function | fixed _ none => True

/-- The numbers of a tag are in range. -/
def TypeTag.InRange (tag : TypeTag) : Prop :=
  tag.base.InRange ∧ ∀ digits ∈ tag.dims, digits = [] ∨ IsArraySize (decimal digits)

/-- The type that a base spells: its numbers are those that the digits denote, and a width that is
left out has its customary value. -/
inductive BaseTag.Spells : BaseTag → BaseType → Prop
  | tuple : Spells .tuple .tuple
  | address : Spells .address (.elementary .address)
  | bool : Spells .bool (.elementary .bool)
  | string : Spells .string (.elementary .string)
  | function : Spells .function (.elementary .function)
  | bytes : Spells (.bytes []) (.elementary .bytes)
  | fixedBytes {digits : List Char} {size : UInt8} (hne : digits ≠ [])
      (hsize : size.toNat = decimal digits) :
      Spells (.bytes digits) (.elementary (.fixedBytes size))
  | plainUint : Spells (.uint []) (.elementary (.uint 256))
  | uint {digits : List Char} {bits : UInt16} (hne : digits ≠ [])
      (hbits : bits.toNat = decimal digits) : Spells (.uint digits) (.elementary (.uint bits))
  | plainInt : Spells (.int []) (.elementary (.int 256))
  | int {digits : List Char} {bits : UInt16} (hne : digits ≠ [])
      (hbits : bits.toNat = decimal digits) : Spells (.int digits) (.elementary (.int bits))
  | plainFixed (signed : Bool) : Spells (.fixed signed none) (.elementary (.fixed signed 128 18))
  | fixed (signed : Bool) {digits digits' : List Char} {bits : UInt16} {decimals : UInt8}
      (hbits : bits.toNat = decimal digits) (hdecimals : decimals.toNat = decimal digits') :
      Spells (.fixed signed (some (digits, digits'))) (.elementary (.fixed signed bits decimals))

/-- The dimension that is spelled with these digits between brackets. -/
inductive SpellsDim : List Char → Dimension → Prop
  | dynamic : SpellsDim [] .dynamic
  | fixed {digits : List Char} {size : UInt64} (hne : digits ≠ [])
      (hsize : size.toNat = decimal digits) : SpellsDim digits (.fixed size)

/-- The type that a tag spells, with the dimensions in the order of the text. -/
def TypeTag.Spells (tag : TypeTag) (type : AbiType) : Prop :=
  tag.base.Spells type.base ∧ List.Forall₂ SpellsDim tag.dims type.dims

/-- A width that is left out is 256. -/
theorem numberWidth?_widthOr_eq_some_iff {digits : List Char} {bits : UInt16} :
    numberWidth? (widthOr 256 digits) = some bits ↔
      digits = [] ∧ bits = 256 ∨
        digits ≠ [] ∧ IsNumberWidth (decimal digits) ∧ bits.toNat = decimal digits := by
  rw [numberWidth?_eq_some_iff, widthOr, numeral_eq_decimal]
  by_cases hempty : digits = []
  · have hbits : bits.toNat = 256 ↔ bits = 256 := by
      rw [← UInt16.toNat_inj]
      rfl
    simp [hempty, hbits, IsNumberWidth]
  · simp [hempty]

/-- A base has a meaning just when its numbers are in range, and it is the base that it spells. -/
theorem BaseTag.resolve_eq_some_iff {tag : BaseTag} {type : BaseType} :
    tag.resolve = some type ↔ tag.InRange ∧ tag.Spells type := by
  constructor
  · intro hresolve
    cases tag with
    | tuple => cases hresolve; exact ⟨trivial, .tuple⟩
    | address => cases hresolve; exact ⟨trivial, .address⟩
    | bool => cases hresolve; exact ⟨trivial, .bool⟩
    | string => cases hresolve; exact ⟨trivial, .string⟩
    | function => cases hresolve; exact ⟨trivial, .function⟩
    | bytes digits =>
      simp only [resolve, numeral_eq_decimal, List.isEmpty_iff] at hresolve
      by_cases hempty : digits = []
      · rw [if_pos hempty] at hresolve
        cases hresolve
        rw [hempty]
        exact ⟨.inl rfl, .bytes⟩
      · rw [if_neg hempty] at hresolve
        obtain ⟨size, hsize, rfl⟩ := Option.map_eq_some_iff.1 hresolve
        obtain ⟨hrange, hvalue⟩ := byteSize?_eq_some_iff.1 hsize
        exact ⟨.inr hrange, .fixedBytes hempty hvalue⟩
    | uint digits =>
      obtain ⟨bits, hbits, rfl⟩ := Option.map_eq_some_iff.1 hresolve
      obtain ⟨rfl, rfl⟩ | ⟨hne, hrange, hvalue⟩ := numberWidth?_widthOr_eq_some_iff.1 hbits
      · exact ⟨.inl rfl, .plainUint⟩
      · exact ⟨.inr hrange, .uint hne hvalue⟩
    | int digits =>
      obtain ⟨bits, hbits, rfl⟩ := Option.map_eq_some_iff.1 hresolve
      obtain ⟨rfl, rfl⟩ | ⟨hne, hrange, hvalue⟩ := numberWidth?_widthOr_eq_some_iff.1 hbits
      · exact ⟨.inl rfl, .plainInt⟩
      · exact ⟨.inr hrange, .int hne hvalue⟩
    | fixed signed widths =>
      cases widths with
      | none => cases hresolve; exact ⟨trivial, .plainFixed signed⟩
      | some widths =>
        obtain ⟨digits, digits'⟩ := widths
        simp only [resolve, numeral_eq_decimal] at hresolve
        obtain ⟨bits, hbits, hresolve⟩ := Option.bind_eq_some_iff.1 hresolve
        obtain ⟨decimals, hdecimals, rfl⟩ := Option.map_eq_some_iff.1 hresolve
        obtain ⟨hrange, hvalue⟩ := numberWidth?_eq_some_iff.1 hbits
        obtain ⟨hrange', hvalue'⟩ := decimals?_eq_some_iff.1 hdecimals
        exact ⟨⟨hrange, hrange'⟩, .fixed signed hvalue hvalue'⟩
  · rintro ⟨hrange, hspells⟩
    cases hspells with
    | tuple | address | bool | string | function | bytes | plainFixed => rfl
    | plainUint | plainInt => rfl
    | fixedBytes hne hsize =>
      simp only [resolve, numeral_eq_decimal, List.isEmpty_iff, if_neg hne,
        byteSize?_eq_some_iff.2 ⟨hrange.resolve_left hne, hsize⟩, Option.map_some]
    | uint hne hbits | int hne hbits =>
      rw [resolve, numberWidth?_widthOr_eq_some_iff.2
        (.inr ⟨hne, hrange.resolve_left hne, hbits⟩), Option.map_some]
    | fixed signed hbits hdecimals =>
      rw [resolve, numeral_eq_decimal, numeral_eq_decimal,
        numberWidth?_eq_some_iff.2 ⟨hrange.1, hbits⟩, Option.bind_some,
        decimals?_eq_some_iff.2 ⟨hrange.2, hdecimals⟩, Option.map_some]

/-- Digits between brackets have a meaning just when they are none or in range, and it is the
dimension that they spell. -/
theorem resolveDim_eq_some_iff {digits : List Char} {dim : Dimension} :
    resolveDim digits = some dim ↔
      (digits = [] ∨ IsArraySize (decimal digits)) ∧ SpellsDim digits dim := by
  simp only [resolveDim, numeral_eq_decimal, List.isEmpty_iff]
  constructor
  · intro hresolve
    by_cases hempty : digits = []
    · rw [if_pos hempty] at hresolve
      cases hresolve
      rw [hempty]
      exact ⟨.inl rfl, .dynamic⟩
    · rw [if_neg hempty] at hresolve
      obtain ⟨size, hsize, rfl⟩ := Option.map_eq_some_iff.1 hresolve
      obtain ⟨hrange, hvalue⟩ := arraySize?_eq_some_iff.1 hsize
      exact ⟨.inr hrange, .fixed hempty hvalue⟩
  · rintro ⟨hrange, hspells⟩
    cases hspells with
    | dynamic => exact if_pos rfl
    | fixed hne hsize =>
      rw [if_neg hne, arraySize?_eq_some_iff.2 ⟨hrange.resolve_left hne, hsize⟩, Option.map_some]

/-- A tag has a meaning just when its numbers are in range, and it is the type that it spells. -/
theorem TypeTag.resolve_eq_some_iff {tag : TypeTag} {type : AbiType} :
    tag.resolve = some type ↔ tag.InRange ∧ tag.Spells type := by
  have hdims : tag.dims.mapM resolveDim = some type.dims ↔
      (∀ digits ∈ tag.dims, digits = [] ∨ IsArraySize (decimal digits)) ∧
        List.Forall₂ SpellsDim tag.dims type.dims := by
    simp only [mapM_eq_some_iff_forall₂, resolveDim_eq_some_iff]
    exact List.forall₂_and_left _ _
  have hresolve : tag.resolve = some type ↔
      tag.base.resolve = some type.base ∧ tag.dims.mapM resolveDim = some type.dims := by
    unfold resolve
    constructor
    · intro h
      obtain ⟨base, hbase, h⟩ := Option.bind_eq_some_iff.1 h
      obtain ⟨dims, hlist, rfl⟩ := Option.map_eq_some_iff.1 h
      exact ⟨hbase, hlist⟩
    · rintro ⟨hbase, hlist⟩
      rw [hbase, Option.bind_some, hlist, Option.map_some]
  rw [hresolve, BaseTag.resolve_eq_some_iff, hdims, InRange, Spells]
  exact and_and_and_comm

/-! ### Numbers in range spell a type -/

theorem exists_toNat_of_isNumberWidth {n : Nat} (hn : IsNumberWidth n) :
    ∃ bits : UInt16, bits.toNat = n := by
  have hlt : n < UInt16.size := lt_of_le_of_lt hn.2.1 (by decide)
  exact ⟨.ofNat n, UInt16.toNat_ofNat_of_lt' hlt⟩

theorem BaseTag.exists_spells {tag : BaseTag} (hrange : tag.InRange) : ∃ type, tag.Spells type := by
  cases tag with
  | tuple => exact ⟨_, .tuple⟩
  | address => exact ⟨_, .address⟩
  | bool => exact ⟨_, .bool⟩
  | string => exact ⟨_, .string⟩
  | function => exact ⟨_, .function⟩
  | bytes digits =>
    by_cases hempty : digits = []
    · rw [hempty]
      exact ⟨_, .bytes⟩
    · have hlt : decimal digits < UInt8.size :=
        lt_of_le_of_lt (hrange.resolve_left hempty).2 (by decide)
      exact ⟨_, .fixedBytes hempty (UInt8.toNat_ofNat_of_lt' hlt)⟩
  | uint digits =>
    by_cases hempty : digits = []
    · rw [hempty]
      exact ⟨_, .plainUint⟩
    · obtain ⟨bits, hbits⟩ := exists_toNat_of_isNumberWidth (hrange.resolve_left hempty)
      exact ⟨_, .uint hempty hbits⟩
  | int digits =>
    by_cases hempty : digits = []
    · rw [hempty]
      exact ⟨_, .plainInt⟩
    · obtain ⟨bits, hbits⟩ := exists_toNat_of_isNumberWidth (hrange.resolve_left hempty)
      exact ⟨_, .int hempty hbits⟩
  | fixed signed widths =>
    cases widths with
    | none => exact ⟨_, .plainFixed signed⟩
    | some widths =>
      obtain ⟨bits, hbits⟩ := exists_toNat_of_isNumberWidth hrange.1
      have hlt : decimal widths.2 < UInt8.size := lt_of_le_of_lt hrange.2 (by decide)
      exact ⟨_, .fixed signed hbits (UInt8.toNat_ofNat_of_lt' hlt)⟩

theorem exists_spellsDim {digits : List Char}
    (hrange : digits = [] ∨ IsArraySize (decimal digits)) : ∃ dim, SpellsDim digits dim := by
  by_cases hempty : digits = []
  · rw [hempty]
    exact ⟨_, .dynamic⟩
  · have hlt : decimal digits < UInt64.size := (hrange.resolve_left hempty).2
    exact ⟨_, .fixed hempty (UInt64.toNat_ofNat_of_lt' hlt)⟩

theorem TypeTag.exists_spells {tag : TypeTag} (hrange : tag.InRange) :
    ∃ type, tag.Spells type := by
  obtain ⟨base, hbase⟩ := BaseTag.exists_spells hrange.1
  have hdims : ∀ {dims : List (List Char)},
      (∀ digits ∈ dims, digits = [] ∨ IsArraySize (decimal digits)) →
        ∃ types, List.Forall₂ SpellsDim dims types := by
    intro dims hall
    induction dims with
    | nil => exact ⟨[], .nil⟩
    | cons digits dims ih =>
      rw [List.forall_mem_cons] at hall
      obtain ⟨dim, hdim⟩ := exists_spellsDim hall.1
      obtain ⟨types, htypes⟩ := ih hall.2
      exact ⟨dim :: types, .cons hdim htypes⟩
  obtain ⟨dims, hlist⟩ := hdims hrange.2
  exact ⟨⟨base, dims⟩, hbase, hlist⟩

/-! ## Blanks -/

/-- A text is what is left of another one without the blanks around it. -/
def Text.Trims (cs core : List Char) : Prop :=
  (∃ before after, cs = before ++ core ++ after ∧ ∀ c ∈ before ++ after, isBlank c) ∧
    (∀ c ∈ core.head?, isBlank c = false) ∧ ∀ c ∈ core.getLast?, isBlank c = false

namespace Text

theorem dropWhile_isBlank_append {before cs : List Char} (hbefore : ∀ c ∈ before, isBlank c)
    (hcs : ∀ c ∈ cs.head?, isBlank c = false) : (before ++ cs).dropWhile isBlank = cs := by
  rw [List.dropWhile_append_of_pos hbefore]
  cases cs with
  | nil => rfl
  | cons c cs => rw [List.dropWhile_cons, hcs c rfl, if_neg Bool.false_ne_true]

theorem head?_dropWhile_isBlank (cs : List Char) :
    ∀ c ∈ (cs.dropWhile isBlank).head?, isBlank c = false := by
  intro c hc
  simpa [Option.mem_def.1 hc] using List.head?_dropWhile_not isBlank cs

/-- Trimming drops blanks at both ends and nothing else. -/
theorem trims_iff {cs core : List Char} : Trims cs core ↔ trimChars cs = core := by
  constructor
  · rintro ⟨⟨before, after, rfl, hblank⟩, hfirst, hlast⟩
    rw [List.forall_mem_append] at hblank
    obtain ⟨hbefore, hafter⟩ := hblank
    have hafter' : ∀ c ∈ after.reverse, isBlank c := fun c hc => hafter c (List.mem_reverse.1 hc)
    unfold trimChars trimRight
    cases core with
    | nil =>
      have hnone : (before ++ after).dropWhile isBlank = [] :=
        List.dropWhile_eq_nil_iff.2 (List.forall_mem_append.2 ⟨hbefore, hafter⟩)
      rw [List.append_nil, hnone]
      rfl
    | cons c core =>
      have hend : ∀ d ∈ (c :: core).reverse.head?, isBlank d = false := by
        rw [List.head?_reverse]
        exact hlast
      rw [List.append_assoc, dropWhile_isBlank_append hbefore (by simpa using hfirst),
        List.reverse_append, dropWhile_isBlank_append hafter' hend, List.reverse_reverse]
  · rintro rfl
    have hright := head?_dropWhile_isBlank (cs.dropWhile isBlank).reverse
    have hsplit := List.takeWhile_append_dropWhile (p := isBlank)
      (l := (cs.dropWhile isBlank).reverse)
    refine ⟨⟨cs.takeWhile isBlank, ((cs.dropWhile isBlank).reverse.takeWhile isBlank).reverse,
      ?_, ?_⟩, ?_, ?_⟩
    · rw [trimChars, trimRight, List.append_assoc, ← List.reverse_append, hsplit,
        List.reverse_reverse, List.takeWhile_append_dropWhile]
    · rw [List.forall_mem_append]
      refine ⟨fun c hc => List.mem_takeWhile_imp hc, fun c hc => ?_⟩
      exact List.mem_takeWhile_imp (List.mem_reverse.1 hc)
    · -- the first character that is left is the first one that is no blank
      intro c hc
      have hleft := head?_dropWhile_isBlank cs
      have htrimmed : trimChars cs <+: cs.dropWhile isBlank := by
        refine ⟨((cs.dropWhile isBlank).reverse.takeWhile isBlank).reverse, ?_⟩
        rw [trimChars, trimRight, ← List.reverse_append, hsplit, List.reverse_reverse]
      refine hleft c ?_
      obtain ⟨rest, hrest⟩ := htrimmed
      rw [← hrest, List.head?_append, Option.mem_def.1 hc]
      rfl
    · rw [trimChars, trimRight, List.getLast?_reverse]
      exact hright

end Text

/-! ## Types -/

/-- A type is read just from the texts that spell it, with blanks around them. -/
theorem AbiType.ofTag?_eq_some_iff {s : String} {type : AbiType} :
    AbiType.ofTag? s = some type ↔ ∃ tag : TypeTag,
      (tag.Proper ∧ Text.Trims s.toList tag.chars) ∧ tag.InRange ∧ tag.Spells type := by
  simp only [ofTag?, Option.bind_eq_some_iff, TypeTag.read_eq_some_iff,
    TypeTag.resolve_eq_some_iff, Text.trims_iff]

/-- Reading with and without an error accept the same texts. -/
theorem AbiType.ofTag_eq_ok_iff {s : String} {type : AbiType} :
    AbiType.ofTag s = .ok type ↔ AbiType.ofTag? s = some type := by
  unfold ofTag
  cases AbiType.ofTag? s <;> simp

/-- The texts that are type tags, the types that are read from them, and the texts that no type is
read from: those that are no tag without the blanks around them, and those with a number out of
range.  The error then has the text as it was given. -/
theorem AbiType.ofTag_iff (s : String) :
    (isTypeTag s ↔ ∃ tag : TypeTag, tag.Proper ∧ s.toList = tag.chars) ∧
    (∀ type, AbiType.ofTag s = .ok type ↔ ∃ tag : TypeTag,
      (tag.Proper ∧ Text.Trims s.toList tag.chars) ∧ tag.InRange ∧ tag.Spells type) ∧
    ∀ fault, AbiType.ofTag s = .error fault ↔ fault = .type s none ∧
      ¬∃ tag : TypeTag, (tag.Proper ∧ Text.Trims s.toList tag.chars) ∧ tag.InRange := by
  refine ⟨isTypeTag_iff, fun type => ?_, fun fault => ?_⟩
  · rw [ofTag_eq_ok_iff, ofTag?_eq_some_iff]
  · have hnone : AbiType.ofTag? s = none ↔
        ¬∃ tag : TypeTag, (tag.Proper ∧ Text.Trims s.toList tag.chars) ∧ tag.InRange := by
      rw [Option.eq_none_iff_forall_ne_some]
      constructor
      · rintro hne ⟨tag, hspelled, hrange⟩
        obtain ⟨type, hspells⟩ := TypeTag.exists_spells hrange
        exact hne type (ofTag?_eq_some_iff.2 ⟨tag, hspelled, hrange, hspells⟩)
      · intro hno type hsome
        obtain ⟨tag, hspelled, hrange, -⟩ := ofTag?_eq_some_iff.1 hsome
        exact hno ⟨tag, hspelled, hrange⟩
    rw [← hnone, ofTag]
    cases AbiType.ofTag? s <;> simp [eq_comm]

-- leading zeros and blanks around a tag make no difference
example : AbiType.ofTag " int008[02][] " = .ok ⟨.elementary (.int 8), [.fixed 2, .dynamic]⟩ := by
  decide

end AbiTypings
