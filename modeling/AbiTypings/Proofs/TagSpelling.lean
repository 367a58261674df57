import Mathlib.Data.List.Basic
import AbiTypings.AbiType.Tag
import AbiTypings.Proofs.Numerals

/-!
# The spelling of type tags

Which texts are type tags, said without reading them: `TypeTag.chars` writes a tag out, and
`TypeTag.Proper` says that digits stand where digits should.  `TypeTag.read_eq_some_iff`: what is
read is what was written, so every text has at most one tag.

* **Bases** — `readBase_chars_append`: a base is read up to a dimension or the end, as no keyword
  begins another one and digits are read as far as they go.  `proper_of_readBase` is the converse.
* **Dimensions** — `readDims_flatMap` and `proper_of_readDims`: by induction over the text, for the
  reader inside and outside a dimension at once.
-/

namespace AbiTypings

/-! ## Writing -/

/-- The keyword of a fixed-point type. -/
def fixedKeyword (signed : Bool) : List Char :=
  if signed then ['f', 'i', 'x', 'e', 'd'] else ['u', 'f', 'i', 'x', 'e', 'd']

/-- How a base is written: a keyword, and the digits behind it. -/
def BaseTag.chars : BaseTag → List Char
  | tuple => ['t', 'u', 'p', 'l', 'e']
  | address => ['a', 'd', 'd', 'r', 'e', 's', 's']
  | bool => ['b', 'o', 'o', 'l']
  | string => ['s', 't', 'r', 'i', 'n', 'g']
  | function => ['f', 'u', 'n', 'c', 't', 'i', 'o', 'n']
  | bytes size => ['b', 'y', 't', 'e', 's'] ++ size
  | uint width => ['u', 'i', 'n', 't'] ++ width
  | int width => ['i', 'n', 't'] ++ width
  | fixed signed none => fixedKeyword signed
  | fixed signed (some (bits, decimals)) => fixedKeyword signed ++ bits ++ 'x' :: decimals

/-- The digits of a base are digits, and both widths of a fixed-point type have some. -/
def BaseTag.Proper : BaseTag → Prop
  | bytes digits | uint digits | int digits => AllDigits digits
  | fixed _ (some (bits, decimals)) =>
    (bits ≠ [] ∧ AllDigits bits) ∧ decimals ≠ [] ∧ AllDigits decimals
  | tuple | address | bool | string | function | fixed _ none => True

/-- How a dimension is written. -/
def dimChars (digits : List Char) : List Char :=
  '[' :: digits ++ [']']

/-- How a tag is written: its base, and then its dimensions, with nothing between them. -/
def TypeTag.chars (tag : TypeTag) : List Char :=
  tag.base.chars ++ tag.dims.flatMap dimChars

/-- Digits stand where digits should. -/
def TypeTag.Proper (tag : TypeTag) : Prop :=
  tag.base.Proper ∧ ∀ digits ∈ tag.dims, AllDigits digits

/-! ## Bases -/

/-- What may follow the keyword of a base agrees with how the base is written. -/
def Follows (keyword : List Char) (follow : List Char → BaseTag × List Char) : Prop :=
  ∀ tail, (follow tail).1.Proper ∧ keyword ++ tail = (follow tail).1.chars ++ (follow tail).2

theorem follows_readWidth {keyword : List Char} {base : List Char → BaseTag}
    (hproper : ∀ digits, (base digits).Proper ↔ AllDigits digits)
    (hchars : ∀ digits, (base digits).chars = keyword ++ digits) :
    Follows keyword (readWidth base) := by
  intro tail
  refine ⟨(hproper _).2 (allDigits_takeWhile tail), ?_⟩
  rw [readWidth, hchars, List.append_assoc, List.takeWhile_append_dropWhile]

/-- The widths of a fixed-point type are read together or not at all. -/
theorem readFixedWidths_cases (cs : List Char) :
    readFixedWidths cs = (none, cs) ∨
      ∃ bits decimals rest, (bits ≠ [] ∧ AllDigits bits) ∧ (decimals ≠ [] ∧ AllDigits decimals) ∧
        cs = bits ++ 'x' :: (decimals ++ rest) ∧
        readFixedWidths cs = (some (bits, decimals), rest) := by
  have hsplit := List.takeWhile_append_dropWhile (p := Char.isDigit) (l := cs)
  unfold readFixedWidths
  split
  case h_1 rest hrest =>
    dsimp only
    by_cases hempty : (cs.takeWhile Char.isDigit).isEmpty || (rest.takeWhile Char.isDigit).isEmpty
    · left
      rw [if_pos hempty]
    · right
      rw [if_neg hempty]
      rw [Bool.or_eq_true, List.isEmpty_iff, List.isEmpty_iff, not_or] at hempty
      refine ⟨_, _, _, ⟨hempty.1, allDigits_takeWhile cs⟩, ⟨hempty.2, allDigits_takeWhile rest⟩,
        ?_, rfl⟩
      rw [List.takeWhile_append_dropWhile, ← hrest, hsplit]
  case h_2 => exact .inl rfl

/-- After the keyword of a fixed-point number, its widths are read. -/
theorem follows_readFixed (signed : Bool) :
    Follows (fixedKeyword signed) (readFixed signed) := by
  intro tail
  unfold readFixed
  obtain hnone | ⟨bits, decimals, rest, hbits, hdecimals, htail, hsome⟩ :=
    readFixedWidths_cases tail
  · rw [hnone]
    exact ⟨trivial, rfl⟩
  · rw [hsome]
    refine ⟨⟨hbits, hdecimals⟩, ?_⟩
    rw [htail]
    simp only [BaseTag.chars, List.append_assoc, List.cons_append]

section Keywords

variable {keyword : List Char} {follow : List Char → BaseTag × List Char}

/-- Whatever follows a keyword is written as the base says. -/
theorem follows_of_mem_keywords (hmem : (keyword, follow) ∈ keywords) : Follows keyword follow := by
  have hplain : ∀ base : BaseTag, base.Proper → Follows base.chars fun cs => (base, cs) :=
    fun _ hproper _ => ⟨hproper, rfl⟩
  have hall : ∀ entry ∈ keywords, Follows entry.1 entry.2 := by
    simp only [keywords, List.forall_mem_cons]
    exact ⟨hplain .tuple trivial, follows_readFixed false, follows_readFixed true,
      follows_readWidth (fun _ => Iff.rfl) fun _ => rfl,
      follows_readWidth (fun _ => Iff.rfl) fun _ => rfl,
      hplain .address trivial, hplain .bool trivial, hplain .string trivial,
      follows_readWidth (fun _ => Iff.rfl) fun _ => rfl,
      hplain .function trivial, fun _ h => absurd h List.not_mem_nil⟩
  exact hall _ hmem

/-- A keyword is recognised whatever follows it, as no keyword begins another one. -/
theorem readBase_append (hmem : (keyword, follow) ∈ keywords) (tail : List Char) :
    readBase (keyword ++ tail) = some (follow tail) := by
  have hall : ∀ entry ∈ keywords, readBase (entry.1 ++ tail) = some (entry.2 tail) := by
    simp only [keywords, List.forall_mem_cons]
    exact ⟨rfl, rfl, rfl, rfl, rfl, rfl, rfl, rfl, rfl, rfl, fun _ h => absurd h List.not_mem_nil⟩
  exact hall _ hmem

end Keywords

theorem readFixedWidths_append {bits decimals rest : List Char}
    (hbits : bits ≠ [] ∧ AllDigits bits) (hdecimals : decimals ≠ [] ∧ AllDigits decimals)
    (hrest : ∀ c ∈ rest.head?, c.isDigit = false) :
    readFixedWidths (bits ++ 'x' :: (decimals ++ rest)) = (some (bits, decimals), rest) := by
  have hx : ∀ c ∈ ('x' :: (decimals ++ rest)).head?, c.isDigit = false := by
    intro c hc
    obtain rfl := Option.some.inj hc
    rfl
  unfold readFixedWidths
  simp only [takeWhile_isDigit_append hbits.2 hx, dropWhile_isDigit_append hbits.2 hx,
    takeWhile_isDigit_append hdecimals.2 hrest, dropWhile_isDigit_append hdecimals.2 hrest]
  rw [if_neg]
  simp [hbits.1, hdecimals.1]

/-- There are no widths before a dimension, nor at the end. -/
theorem readFixedWidths_eq_none {rest : List Char} (hrest : ∀ c ∈ rest.head?, c = '[') :
    readFixedWidths rest = (none, rest) := by
  cases rest with
  | nil => rfl
  | cons c rest =>
    obtain rfl := hrest c rfl
    rfl

/-- A base is read as it was written, up to a dimension or the end. -/
theorem readBase_chars_append {base : BaseTag} (hbase : base.Proper) {rest : List Char}
    (hrest : ∀ c ∈ rest.head?, c = '[') : readBase (base.chars ++ rest) = some (base, rest) := by
  have hdigit : ∀ c ∈ rest.head?, c.isDigit = false := by
    intro c hc
    rw [hrest c hc]
    rfl
  have hwidth : ∀ {keyword digits : List Char} {base : List Char → BaseTag},
      (keyword, readWidth base) ∈ keywords → AllDigits digits →
        readBase (keyword ++ digits ++ rest) = some (base digits, rest) := by
    intro keyword digits base hmem hdigits
    rw [List.append_assoc, readBase_append hmem, readWidth,
      takeWhile_isDigit_append hdigits hdigit, dropWhile_isDigit_append hdigits hdigit]
  have hfixed : ∀ {signed : Bool} {widths : Option (List Char × List Char)} {cs : List Char},
      readFixedWidths cs = (widths, rest) →
        readBase (fixedKeyword signed ++ cs) = some (.fixed signed widths, rest) := by
    intro signed widths cs hcs
    have hmem : (fixedKeyword signed, readFixed signed) ∈ keywords := by
      cases signed <;> simp [keywords, fixedKeyword]
    rw [readBase_append hmem]
    simp only [readFixed, hcs]
  cases base with
  | tuple => rfl
  | address => rfl
  | bool => rfl
  | string => rfl
  | function => rfl
  | bytes size => exact hwidth (by simp [keywords]) hbase
  | uint width => exact hwidth (by simp [keywords]) hbase
  | int width => exact hwidth (by simp [keywords]) hbase
  | fixed signed widths =>
    cases widths with
    | none => exact hfixed (readFixedWidths_eq_none hrest)
    | some widths =>
      obtain ⟨bits, decimals⟩ := widths
      rw [BaseTag.chars, List.append_assoc, List.append_assoc, List.cons_append]
      exact hfixed (readFixedWidths_append hbase.1 hbase.2 hdigit)

/-- A base that was read is the beginning of the text. -/
theorem proper_of_readBase {cs rest : List Char} {base : BaseTag}
    (hread : readBase cs = some (base, rest)) : base.Proper ∧ cs = base.chars ++ rest := by
  obtain ⟨⟨keyword, follow⟩, hentry, hfollow⟩ := List.exists_of_findSome?_eq_some hread
  obtain ⟨tail, htail, hbase⟩ := Option.map_eq_some_iff.1 hfollow
  obtain rfl := List.isPrefixOf?_eq_some_iff_append_eq.1 htail
  have hboth := follows_of_mem_keywords hentry tail
  rwa [hbase] at hboth

/-! ## Dimensions -/

/-- The digits of a dimension are collected up to the bracket that closes it. -/
theorem readDims_digits {digits : List Char} (hdigits : AllDigits digits) (ds cs : List Char) :
    readDims (some ds) (digits ++ ']' :: cs) =
      (readDims none cs).map ((ds.reverse ++ digits) :: ·) := by
  induction digits generalizing ds with
  | nil =>
    rw [List.nil_append, readDims, List.append_nil]
    exact if_pos rfl
  | cons c digits ih =>
    have hc : c.isDigit := hdigits c List.mem_cons_self
    have hne : c ≠ ']' := by
      rintro rfl
      exact absurd hc (by decide)
    rw [List.cons_append, readDims]
    simp only [if_neg hne, if_pos hc]
    rw [ih fun d hd => hdigits d (List.mem_cons_of_mem c hd)]
    simp only [List.reverse_cons, List.append_assoc, List.singleton_append]

/-- Dimensions are read back. -/
theorem readDims_flatMap {dims : List (List Char)} (hdims : ∀ digits ∈ dims, AllDigits digits) :
    readDims none (dims.flatMap dimChars) = some dims := by
  induction dims with
  | nil => rfl
  | cons digits dims ih =>
    rw [List.forall_mem_cons] at hdims
    rw [List.flatMap_cons, dimChars, List.cons_append, List.cons_append, List.append_assoc,
      List.singleton_append, readDims]
    simp only [if_pos, readDims_digits hdims.1, ih hdims.2, Option.map_some, List.reverse_nil,
      List.nil_append]

/-- Outside a dimension, what was read is written in front of the reader; inside one, its digits so
far stand behind it. -/
theorem proper_of_readDims (cs : List Char) :
    (∀ dims, readDims none cs = some dims →
      (∀ digits ∈ dims, AllDigits digits) ∧ cs = dims.flatMap dimChars) ∧
    ∀ ds dims, readDims (some ds) cs = some dims → ∃ digits dims',
      dims = (ds.reverse ++ digits) :: dims' ∧ AllDigits digits ∧
        (∀ digits ∈ dims', AllDigits digits) ∧ cs = digits ++ ']' :: dims'.flatMap dimChars := by
  induction cs with
  | nil =>
    constructor
    · intro dims hread
      obtain rfl := Option.some.inj hread
      exact ⟨fun _ h => absurd h List.not_mem_nil, rfl⟩
    · intro ds dims hread
      exact absurd hread (by simp [readDims])
  | cons c cs ih =>
    obtain ⟨ihout, ihin⟩ := ih
    constructor
    · intro dims hread
      rw [readDims] at hread
      obtain ⟨rfl, hread⟩ := Option.ite_none_right_eq_some.1 hread
      obtain ⟨digits, dims', rfl, hdigits, hdims', rfl⟩ := ihin [] dims hread
      refine ⟨List.forall_mem_cons.2 ⟨hdigits, hdims'⟩, ?_⟩
      simp [dimChars]
    · intro ds dims hread
      rw [readDims] at hread
      by_cases hclose : c = ']'
      · -- the dimension ends here
        rw [if_pos hclose] at hread
        obtain ⟨dims', hdims', rfl⟩ := Option.map_eq_some_iff.1 hread
        obtain ⟨hproper, rfl⟩ := ihout dims' hdims'
        exact ⟨[], dims', by rw [List.append_nil], fun _ h => absurd h List.not_mem_nil, hproper,
          by rw [hclose, List.nil_append]⟩
      · rw [if_neg hclose] at hread
        obtain ⟨hdigit, hread⟩ := Option.ite_none_right_eq_some.1 hread
        obtain ⟨digits, dims', rfl, hdigits, hdims', rfl⟩ := ihin (c :: ds) dims hread
        refine ⟨c :: digits, dims', ?_, List.forall_mem_cons.2 ⟨hdigit, hdigits⟩, hdims', rfl⟩
        simp only [List.reverse_cons, List.append_assoc, List.singleton_append]

/-! ## Tags -/

theorem head?_flatMap_dimChars (dims : List (List Char)) :
    ∀ c ∈ (dims.flatMap dimChars).head?, c = '[' := by
  intro c hc
  cases dims with
  | nil => exact absurd hc (by simp)
  | cons digits dims => exact (Option.some.inj hc).symm

/-- Reading gives the one tag that is written so. -/
theorem TypeTag.read_eq_some_iff {cs : List Char} {tag : TypeTag} :
    TypeTag.read cs = some tag ↔ tag.Proper ∧ cs = tag.chars := by
  unfold TypeTag.read
  constructor
  · intro hread
    obtain ⟨⟨base, rest⟩, hbase, hread⟩ := Option.bind_eq_some_iff.1 hread
    obtain ⟨dims, hdims, rfl⟩ := Option.map_eq_some_iff.1 hread
    obtain ⟨hproper, rfl⟩ := proper_of_readBase hbase
    obtain ⟨hdigits, rfl⟩ := (proper_of_readDims rest).1 dims hdims
    exact ⟨⟨hproper, hdigits⟩, rfl⟩
  · rintro ⟨⟨hbase, hdims⟩, rfl⟩
    rw [chars, readBase_chars_append hbase (head?_flatMap_dimChars tag.dims)]
    simp only [Option.bind_some, readDims_flatMap hdims, Option.map_some]

/-- A text is spelled like a tag just if it has the characters of one. -/
theorem isTypeTag_iff {s : String} :
    isTypeTag s ↔ ∃ tag : TypeTag, tag.Proper ∧ s.toList = tag.chars := by
  simp only [isTypeTag, Option.isSome_iff_exists, TypeTag.read_eq_some_iff]

end AbiTypings
