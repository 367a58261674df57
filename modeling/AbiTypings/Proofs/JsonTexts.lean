import AbiTypings.Json.Reader

/-!
# Texts of JSON trees

A text spells a tree, in which the members of an object stand in the order in which they are
written, and a key may be used again.  The value of the text is the tree with the members of each
object in the order of their keys (`sorted`); of members with one key, the last is kept.

* **Trees** — `sorted` and `depth`: the value of a tree, and how deep containers are nested in it.
* **Texts** — `Spells`: the texts of a tree, with blanks between their parts, any way of writing a
  character inside a string, and any number that the format has and that is not too large.
* **The format** — `IsText`: all texts of the format.  There are some that spell no tree, for
  numbers may be too large in them, and halves of a pair of surrogates may stand alone.
-/

namespace AbiTypings.Json

/-! ## Trees -/

mutual

/-- The value of a tree as it is written: the members of each object in the order of their keys,
and of members of one key the last. -/
def sorted : Json → Json
  | arr items => .arr (sortedItems items)
  | obj members => .obj (sortedMembers [] members)
  | j => j

/-- The elements of a list, each with its members in order. -/
def sortedItems : List Json → List Json
  | [] => []
  | j :: rest => j.sorted :: sortedItems rest

/-- The members of an object, put in order one after another among those before them. -/
def sortedMembers (before : List (String × Json)) : List (String × Json) → List (String × Json)
  | [] => before
  | (key, j) :: rest => sortedMembers (insert key j.sorted before) rest

end

mutual

/-- How many containers are nested in one another. -/
def depth : Json → Nat
  | arr items => itemsDepth items + 1
  | obj members => membersDepth members + 1
  | _ => 0

/-- The greatest depth of the elements of a list. -/
def itemsDepth : List Json → Nat
  | [] => 0
  | j :: rest => max j.depth (itemsDepth rest)

/-- The greatest depth of the members of an object. -/
def membersDepth : List (String × Json) → Nat
  | [] => 0
  | (_, j) :: rest => max j.depth (membersDepth rest)

end

/-! ## The language -/

/-- Blanks between the parts of a text. -/
def Blanks (cs : List Char) : Prop :=
  ∀ c ∈ cs, Reader.isSpace c

/-- Four hexadecimal digits, as a code unit. -/
def hexUnit (a b c d : Char) : Option Nat := do
  let a ← Reader.hexValue a
  let b ← Reader.hexValue b
  let c ← Reader.hexValue c
  let d ← Reader.hexValue d
  return 16 * (16 * (16 * a + b) + c) + d

/-- What stands between two quotes, and the characters it stands for. -/
inductive SpellsString : List Char → List Char → Prop where
  | nil : SpellsString [] []
  | plain {c : Char} {cs s : List Char} (hquote : c ≠ '"') (hescape : c ≠ '\\')
    (hcontrol : 0x20 ≤ c.toNat) (rest : SpellsString cs s) : SpellsString (c :: cs) (c :: s)
  | short {e c : Char} {cs s : List Char} (h : Reader.shortEscape e = some c)
    (rest : SpellsString cs s) : SpellsString ('\\' :: e :: cs) (c :: s)
  | unit {d₁ d₂ d₃ d₄ : Char} {unit : Nat} {cs s : List Char}
    (h : hexUnit d₁ d₂ d₃ d₄ = some unit) (hhigh : Reader.isHighSurrogate unit = false)
    (hlow : Reader.isLowSurrogate unit = false) (rest : SpellsString cs s) :
    SpellsString ('\\' :: 'u' :: d₁ :: d₂ :: d₃ :: d₄ :: cs) (Char.ofNat unit :: s)
  | pair {d₁ d₂ d₃ d₄ e₁ e₂ e₃ e₄ : Char} {high low : Nat} {cs s : List Char}
    (h : hexUnit d₁ d₂ d₃ d₄ = some high) (hhigh : Reader.isHighSurrogate high = true)
    (h' : hexUnit e₁ e₂ e₃ e₄ = some low) (hlow : Reader.isLowSurrogate low = true)
    (rest : SpellsString cs s) :
    SpellsString
      ('\\' :: 'u' :: d₁ :: d₂ :: d₃ :: d₄ :: '\\' :: 'u' :: e₁ :: e₂ :: e₃ :: e₄ :: cs)
      (Char.ofNat (0x10000 + (high - 0xD800) * 0x400 + (low - 0xDC00)) :: s)

/-- A key, with the blanks around it. -/
inductive SpellsKey : List Char → String → Prop where
  | mk {before cs after s : List Char} (hbefore : Blanks before) (hafter : Blanks after)
    (h : SpellsString cs s) :
    SpellsKey (before ++ '"' :: (cs ++ '"' :: after)) (String.ofList s)

/-- The text of a member of an object: of its key, and of its value. -/
structure MemberText where
  keyText : List Char
  valueText : List Char
  key : String
  tree : Json

namespace MemberText

/-- The text of a member: its key, a colon and its value. -/
def chars (m : MemberText) : List Char := m.keyText ++ ':' :: m.valueText

/-- The member that is spelled. -/
def member (m : MemberText) : String × Json := (m.key, m.tree)

end MemberText

/-- What follows the first element of a list or an object: the others, each after a comma, and the
closing bracket. -/
def moreAndClose (texts : List (List Char)) (close : Char) : List Char :=
  texts.flatMap (',' :: ·) ++ [close]

/-- The texts of a tree, in which the members of objects have their order and may have keys that
are used again. -/
inductive Spells : List Char → Json → Prop where
  | null : Spells "null".toList .null
  | true : Spells "true".toList (.bool true)
  | false : Spells "false".toList (.bool false)
  | number {cs : List Char} {j : Json} (h : readNumber cs = some j) : Spells cs j
  | string {cs s : List Char} (h : SpellsString cs s) :
    Spells ('"' :: (cs ++ ['"'])) (.str (String.ofList s))
  | emptyList {blanks : List Char} (h : Blanks blanks) : Spells ('[' :: (blanks ++ [']'])) (.arr [])
  | list {first : List Char × Json} {rest : List (List Char × Json)}
    (items : ∀ item ∈ first :: rest, Spells item.1 item.2) :
    Spells ('[' :: (first.1 ++ moreAndClose (rest.map (·.1)) ']'))
      (.arr ((first :: rest).map (·.2)))
  | emptyObject {blanks : List Char} (h : Blanks blanks) :
    Spells ('\x7b' :: (blanks ++ ['\x7d'])) (.obj [])
  | object {first : MemberText} {rest : List MemberText}
    (keys : ∀ m ∈ first :: rest, SpellsKey m.keyText m.key)
    (values : ∀ m ∈ first :: rest, Spells m.valueText m.tree) :
    Spells ('\x7b' :: (first.chars ++ moreAndClose (rest.map MemberText.chars) '\x7d'))
      (.obj ((first :: rest).map MemberText.member))
  | blanks {before cs after : List Char} {j : Json} (hbefore : Blanks before)
    (hafter : Blanks after) (h : Spells cs j) : Spells (before ++ (cs ++ after)) j

/-! ## The format -/

/-- What may stand between two quotes. -/
inductive IsString : List Char → Prop where
  | nil : IsString []
  | plain {c : Char} {cs : List Char} (hquote : c ≠ '"') (hescape : c ≠ '\\')
    (hcontrol : 0x20 ≤ c.toNat) (rest : IsString cs) : IsString (c :: cs)
  | short {e c : Char} {cs : List Char} (h : Reader.shortEscape e = some c)
    (rest : IsString cs) : IsString ('\\' :: e :: cs)
  | unit {d₁ d₂ d₃ d₄ : Char} {unit : Nat} {cs : List Char}
    (h : hexUnit d₁ d₂ d₃ d₄ = some unit) (rest : IsString cs) :
    IsString ('\\' :: 'u' :: d₁ :: d₂ :: d₃ :: d₄ :: cs)

/-- A key, with the blanks around it. -/
inductive IsKey : List Char → Prop where
  | mk {before cs after : List Char} (hbefore : Blanks before) (hafter : Blanks after)
    (h : IsString cs) : IsKey (before ++ '"' :: (cs ++ '"' :: after))

/-- A list, by the texts of its elements. -/
inductive ListText : List Char → List (List Char) → Prop where
  | empty {blanks : List Char} (h : Blanks blanks) : ListText ('[' :: (blanks ++ [']'])) []
  | items (first : List Char) (rest : List (List Char)) :
    ListText ('[' :: (first ++ moreAndClose rest ']')) (first :: rest)
  | blanks {before cs after : List Char} {texts : List (List Char)} (hbefore : Blanks before)
    (hafter : Blanks after) (h : ListText cs texts) : ListText (before ++ (cs ++ after)) texts

/-- The texts of the format. -/
inductive IsText : List Char → Prop where
  | null : IsText "null".toList
  | true : IsText "true".toList
  | false : IsText "false".toList
  | number {cs : List Char} {n : NumberText} (h : readNumberText cs = some n) : IsText cs
  | string {cs : List Char} (h : IsString cs) : IsText ('"' :: (cs ++ ['"']))
  | list {cs : List Char} {texts : List (List Char)} (h : ListText cs texts)
    (items : ∀ text ∈ texts, IsText text) : IsText cs
  | emptyObject {blanks : List Char} (h : Blanks blanks) :
    IsText ('\x7b' :: (blanks ++ ['\x7d']))
  /-- Each member has a key and a value. -/
  | object {first : List Char × List Char} {rest : List (List Char × List Char)}
    (keys : ∀ m ∈ first :: rest, IsKey m.1) (values : ∀ m ∈ first :: rest, IsText m.2) :
    IsText ('\x7b' :: (first.1 ++ ':' :: first.2 ++
      moreAndClose (rest.map fun m => m.1 ++ ':' :: m.2) '\x7d'))
  | blanks {before cs after : List Char} (hbefore : Blanks before) (hafter : Blanks after)
    (h : IsText cs) : IsText (before ++ (cs ++ after))

theorem SpellsString.isString {cs s : List Char} (h : SpellsString cs s) : IsString cs := by
  induction h with
  | nil => exact .nil
  | plain hquote hescape hcontrol _ ih => exact .plain hquote hescape hcontrol ih
  | short h _ ih => exact .short h ih
  | unit h _ _ _ ih => exact .unit h ih
  | pair h _ h' _ _ ih => exact .unit h (.unit h' ih)

theorem SpellsKey.isKey {cs : List Char} {key : String} (h : SpellsKey cs key) : IsKey cs := by
  obtain ⟨hbefore, hafter, h⟩ := h
  exact .mk hbefore hafter h.isString

/-- What spells a tree is a text of the format. -/
theorem Spells.isText {cs : List Char} {j : Json} (h : Spells cs j) : IsText cs := by
  induction h with
  | null => exact .null
  | true => exact .true
  | false => exact .false
  | number h =>
    obtain ⟨n, hn, -⟩ := Option.bind_eq_some_iff.1 h
    exact .number hn
  | string h => exact .string h.isString
  | emptyList h => exact .list (.empty h) (List.forall_mem_nil _)
  | @list first rest items ih =>
    refine .list (.items first.1 (rest.map (·.1))) ?_
    rw [← List.map_cons (f := Prod.fst), List.forall_mem_map]
    exact ih
  | emptyObject h => exact .emptyObject h
  | @object first rest keys values ih =>
    have htext := @IsText.object (first.keyText, first.valueText)
      (rest.map fun m => (m.keyText, m.valueText))
    simp only [List.forall_mem_cons, List.forall_mem_map, List.map_map] at htext keys ih
    exact htext ⟨keys.1.isKey, fun m hm => (keys.2 m hm).isKey⟩ ih
  | blanks hbefore hafter _ ih => exact .blanks hbefore hafter ih

end AbiTypings.Json
