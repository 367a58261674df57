import AbiTypings.Proofs.JsonTexts

/-!
# Writing JSON texts

Every tree without numbers has a text: the one without blanks, in which only those characters of a
string are escaped that cannot stand for themselves.
-/

namespace AbiTypings.Json

/-! ## The text of a tree -/

/-- A hexadecimal digit. -/
def hexDigit (n : Nat) : Char :=
  Char.ofNat (if n < 10 then '0'.toNat + n else 'a'.toNat + (n - 10))

/-- A character inside a string. -/
def charText (c : Char) : List Char :=
  if c = '"' ∨ c = '\\' then ['\\', c]
  else if c.toNat < 0x20 then
    ['\\', 'u', '0', '0', hexDigit (c.toNat / 16), hexDigit (c.toNat % 16)]
  else [c]

/-- A string between its quotes. -/
def stringText (s : String) : List Char :=
  '"' :: (s.toList.flatMap charText ++ ['"'])

mutual

/-- A text of a tree. Numbers are left out. -/
def text : Json → List Char
  | null => "null".toList
  | bool true => "true".toList
  | bool false => "false".toList
  | int _ | real _ => []
  | str s => stringText s
  | arr [] => ['[', ']']
  | arr (j :: items) => '[' :: (j.text ++ moreAndClose (itemTexts items) ']')
  | obj [] => ['\x7b', '\x7d']
  | obj ((key, j) :: members) =>
    '\x7b' :: (stringText key ++ ':' :: j.text ++ moreAndClose (memberTexts members) '\x7d')

/-- The texts of the elements of a list. -/
def itemTexts : List Json → List (List Char)
  | [] => []
  | j :: items => j.text :: itemTexts items

/-- The texts of the members of an object. -/
def memberTexts : List (String × Json) → List (List Char)
  | [] => []
  | (key, j) :: members => (stringText key ++ ':' :: j.text) :: memberTexts members

end

mutual

/-- Whether there are no numbers in a tree. -/
def numberless : Json → Bool
  | int _ | real _ => false
  | arr items => itemsNumberless items
  | obj members => membersNumberless members
  | _ => true

/-- No element of a list holds a number. -/
def itemsNumberless : List Json → Bool
  | [] => true
  | j :: items => j.numberless && itemsNumberless items

/-- No member of an object holds a number. -/
def membersNumberless : List (String × Json) → Bool
  | [] => true
  | (_, j) :: members => j.numberless && membersNumberless members

end

/-! ## What it spells -/

/-- A control character is read back from its four digits. -/
theorem hexUnit_control {n : Nat} (h : n < 0x20) :
    hexUnit '0' '0' (hexDigit (n / 16)) (hexDigit (n % 16)) = some n := by
  have hall : ∀ n < 0x20, hexUnit '0' '0' (hexDigit (n / 16)) (hexDigit (n % 16)) = some n := by
    decide
  exact hall n h

/-- The escaped characters of a string spell the string. -/
theorem spellsString_flatMap (s : List Char) : SpellsString (s.flatMap charText) s := by
  induction s with
  | nil => exact .nil
  | cons c s ih =>
    rw [List.flatMap_cons, charText]
    split
    · rename_i hescape
      refine .short ?_ ih
      rcases hescape with rfl | rfl <;> rfl
    · rename_i hplain
      rw [not_or] at hplain
      split
      · rename_i hcontrol
        have hhigh : Reader.isHighSurrogate c.toNat = false := by
          simp only [Reader.isHighSurrogate, Bool.and_eq_false_iff, decide_eq_false_iff_not]
          omega
        have hlow : Reader.isLowSurrogate c.toNat = false := by
          simp only [Reader.isLowSurrogate, Bool.and_eq_false_iff, decide_eq_false_iff_not]
          omega
        have hunit := SpellsString.unit (hexUnit_control hcontrol) hhigh hlow ih
        rwa [Char.ofNat_toNat] at hunit
      · rename_i hcontrol
        exact .plain hplain.1 hplain.2 (Nat.not_lt.1 hcontrol) ih

theorem blanks_nil : Blanks [] := by
  intro c hc
  cases hc

theorem spellsKey_stringText (key : String) : SpellsKey (stringText key) key := by
  have h := SpellsKey.mk blanks_nil blanks_nil (spellsString_flatMap key.toList)
  rwa [String.ofList_toList] at h

/-- Every tree without numbers has a text. -/
theorem spells_text : ∀ j : Json, j.numberless → Spells j.text j := by
  refine Json.rec
    (motive_1 := fun j => j.numberless → Spells j.text j)
    (motive_2 := fun items => itemsNumberless items →
      ∃ texts : List (List Char × Json), texts.map (·.1) = itemTexts items ∧
        texts.map (·.2) = items ∧ ∀ t ∈ texts, Spells t.1 t.2)
    (motive_3 := fun members => membersNumberless members →
      ∃ texts : List MemberText, texts.map MemberText.chars = memberTexts members ∧
        texts.map MemberText.member = members ∧
        ∀ t ∈ texts, SpellsKey t.keyText t.key ∧ Spells t.valueText t.tree)
    (motive_4 := fun m => m.2.numberless → Spells m.2.text m.2)
    ?null ?bool ?int ?real ?str ?arr ?obj ?noItem ?item ?noMember ?member ?pair
  case null => exact fun _ => .null
  case bool =>
    rintro (_ | _) _
    · exact .false
    · exact .true
  case int =>
    intro n h
    cases h
  case real =>
    intro x h
    cases h
  case str =>
    intro s _
    have h := Spells.string (spellsString_flatMap s.toList)
    rwa [String.ofList_toList] at h
  case arr =>
    intro items ih h
    obtain ⟨texts, htexts, rfl, hspells⟩ := ih h
    cases texts with
    | nil => exact .emptyList blanks_nil
    | cons first rest =>
      have hlist := Spells.list hspells
      rw [List.map_cons, List.map_cons, itemTexts] at htexts
      obtain ⟨hfirst, hrest⟩ := List.cons.inj htexts
      rw [hfirst, hrest] at hlist
      exact hlist
  case obj =>
    intro members ih h
    obtain ⟨texts, htexts, rfl, hspells⟩ := ih h
    cases texts with
    | nil => exact .emptyObject blanks_nil
    | cons first rest =>
      have hobject := Spells.object (fun t ht => (hspells t ht).1) (fun t ht => (hspells t ht).2)
      rw [List.map_cons, List.map_cons, MemberText.member, memberTexts] at htexts
      obtain ⟨hfirst, hrest⟩ := List.cons.inj htexts
      rw [hfirst, hrest] at hobject
      exact hobject
  case noItem => exact fun _ => ⟨[], rfl, rfl, List.forall_mem_nil _⟩
  case item =>
    intro j items ih ihs h
    rw [itemsNumberless, Bool.and_eq_true] at h
    obtain ⟨texts, htexts, hitems, hspells⟩ := ihs h.2
    exact ⟨(j.text, j) :: texts, congrArg _ htexts, congrArg _ hitems,
      List.forall_mem_cons.2 ⟨ih h.1, hspells⟩⟩
  case noMember => exact fun _ => ⟨[], rfl, rfl, List.forall_mem_nil _⟩
  case member =>
    rintro ⟨key, j⟩ members ih ihs h
    rw [membersNumberless, Bool.and_eq_true] at h
    obtain ⟨texts, htexts, hmembers, hspells⟩ := ihs h.2
    exact ⟨⟨stringText key, j.text, key, j⟩ :: texts, congrArg _ htexts, congrArg _ hmembers,
      List.forall_mem_cons.2 ⟨⟨spellsKey_stringText key, ih h.1⟩, hspells⟩⟩
  case pair => exact fun key j ih => ih

theorem spells_ofList_text {j : Json} (h : j.numberless) :
    Spells (String.ofList j.text).toList j := by
  rw [String.toList_ofList]
  exact spells_text j h

theorem itemTexts_eq_map (items : List Json) : itemTexts items = items.map text := by
  induction items with
  | nil => rfl
  | cons j items ih => rw [itemTexts, ih, List.map_cons]

/-- The text of a list is a list of the texts of its elements. -/
theorem listText_text (items : List Json) : ListText (Json.arr items).text (items.map text) := by
  cases items with
  | nil => exact .empty blanks_nil
  | cons j items =>
    rw [text, itemTexts_eq_map]
    exact .items _ _

end AbiTypings.Json
