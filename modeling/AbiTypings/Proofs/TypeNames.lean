import AbiTypings.Text.CamelCase
import AbiTypings.Proofs.FieldKeys

/-!
# Names of types in texts

The types that a text names are found by cutting it into words.  Not every word is a type: labels,
the names of calls and quoted words are told by the character behind them.

* **Words** — `IsWord`: letters, digits, `_`, `$` and whatever is not ASCII.  Identifiers and
  numbers are words.
* **Names** — `typeNames` lists the words of a text that are types.  A word is always read to its
  end, so texts can be cut only where no word goes on (`mem_namesIn_append`, `namesIn_append_end`).
* **Texts that are put together** — `Refers P`: all types that a text names have the property `P`.
  This is kept by the ways in which signatures are written: `Refers.append_of_begins` and
  `Refers.append_of_ends` where no word goes on between two parts, `Refers.append_noWord` for
  punctuation, `Refers.label` for labels, and `Refers.intercalate` for lists.
* **Lists of names** — `typeNames_commaSeparated`: words with commas between them are read back.
-/

namespace AbiTypings

/-! ## Words -/

/-- The characters of words: letters, digits, `_` and `$`, and whatever is not ASCII. -/
def isWordChar (c : Char) : Bool :=
  c.isAlphanum || c == '_' || c == '$' || 128 ≤ c.toNat

/-- A text of word characters. -/
def IsWord (s : String) : Prop :=
  ∀ c ∈ s.toList, isWordChar c

instance (s : String) : Decidable (IsWord s) := List.decidableBAll _ s.toList

theorem isWord_append {s s' : String} : IsWord (s ++ s') ↔ IsWord s ∧ IsWord s' := by
  simp only [IsWord, String.toList_append, List.forall_mem_append]

theorem isWordChar_of_isAlphanumeric {c : Char} (h : Text.isAlphanumeric c) : isWordChar c := by
  unfold Text.isAlphanumeric at h
  split at h
  · simp [isWordChar, h]
  · rename_i hascii
    simp [isWordChar, Nat.not_lt.1 hascii]

/-- Identifiers are words. -/
theorem isWord_of_isIdentifier {s : String} (h : isIdentifier s) : IsWord s := by
  unfold isIdentifier at h
  split at h
  · exact absurd h (by decide)
  · rename_i c cs hcs
    rw [Bool.and_eq_true, List.all_eq_true] at h
    intro d hd
    have hd := h.2 d (hcs ▸ hd)
    simp only [Bool.or_eq_true, beq_iff_eq] at hd
    rcases hd with (hd | rfl) | rfl
    · exact isWordChar_of_isAlphanumeric hd
    · decide
    · decide

theorem isWord_toString (n : Nat) : IsWord (toString n) := by
  intro c hc
  have hdigit := isDigit_of_mem_toString hc
  simp [isWordChar, Char.isAlphanum, hdigit]

/-! ## Names of types -/

/-- Whether a word before this character is no type: a label, the name of a call, or quoted. -/
def isLabelEnd (c : Char) : Bool :=
  c == ':' || c == '?' || c == '(' || c == '\''

/-- The longest words that are names of types, where `word` was read before. -/
def namesIn (word : List Char) : List Char → List (List Char)
  | [] => if word.isEmpty then [] else [word]
  | c :: cs =>
    if isWordChar c then namesIn (word ++ [c]) cs
    else if word.isEmpty || isLabelEnd c then namesIn [] cs
    else word :: namesIn [] cs

/-- The names of types in a text. -/
def typeNames (s : String) : List String :=
  (namesIn [] s.toList).map String.ofList

/-- All types that a text names have a property. -/
def Refers (P : String → Prop) (s : String) : Prop :=
  ∀ name ∈ typeNames s, P name

instance (P : String → Prop) [DecidablePred P] (s : String) : Decidable (Refers P s) :=
  List.decidableBAll P (typeNames s)

theorem namesIn_cons_word {c : Char} (h : isWordChar c) (word cs : List Char) :
    namesIn word (c :: cs) = namesIn (word ++ [c]) cs := by
  rw [namesIn, if_pos h]

/-- A word ends where a character is none of its own. -/
theorem namesIn_cons_end {c : Char} (h : isWordChar c = false) (word cs : List Char) :
    namesIn word (c :: cs) =
      (if word.isEmpty || isLabelEnd c then [] else [word]) ++ namesIn [] cs := by
  rw [namesIn, if_neg (by simp [h])]
  split <;> rfl

theorem namesIn_append_word {w : List Char} (h : ∀ c ∈ w, isWordChar c) (word cs : List Char) :
    namesIn word (w ++ cs) = namesIn (word ++ w) cs := by
  induction w generalizing word with
  | nil => simp
  | cons c w ih =>
    rw [List.cons_append, namesIn_cons_word (h c List.mem_cons_self),
      ih fun d hd => h d (List.mem_cons_of_mem _ hd), List.append_assoc, List.singleton_append]

/-- A word that is no label is a name. -/
theorem namesIn_word_end {w : List Char} (hw : ∀ c ∈ w, isWordChar c) (hne : w ≠ []) {c : Char}
    (hc : isWordChar c = false) (hlabel : isLabelEnd c = false) (cs : List Char) :
    namesIn [] (w ++ c :: cs) = w :: namesIn [] cs := by
  rw [namesIn_append_word hw, List.nil_append, namesIn_cons_end hc, if_neg (by simp [hne, hlabel]),
    List.singleton_append]

/-- No word goes on before a character that is none of its own. -/
theorem mem_namesIn_append {cs ds : List Char} (hcut : ∀ d ∈ ds.head?, isWordChar d = false)
    {word name : List Char} (h : name ∈ namesIn word (cs ++ ds)) :
    name ∈ namesIn word cs ∨ name ∈ namesIn [] ds := by
  -- over the first text, whatever word was read before it
  induction cs generalizing word with
  | nil =>
    cases ds with
    | nil => exact .inl h
    | cons d ds =>
      have hd : isWordChar d = false := hcut d rfl
      rw [List.nil_append, namesIn_cons_end hd, List.mem_append] at h
      rcases h with hword | hrest
      · left
        split at hword
        · exact absurd hword List.not_mem_nil
        · rename_i hne
          simp only [Bool.or_eq_true, not_or] at hne
          rw [namesIn, if_neg hne.1]
          exact hword
      · right
        rw [namesIn_cons_end hd, List.mem_append]
        exact .inr hrest
  | cons c cs ih =>
    rw [List.cons_append] at h
    by_cases hc : isWordChar c
    · rw [namesIn_cons_word hc] at h ⊢
      exact ih h
    · rw [namesIn_cons_end (by simpa using hc), List.mem_append] at h ⊢
      rw [or_assoc]
      exact h.imp_right ih

/-- No word goes on after a character that is none of its own. -/
theorem namesIn_append_end {c : Char} (hc : isWordChar c = false) (word cs ds : List Char) :
    namesIn word (cs ++ c :: ds) = namesIn word (cs ++ [c]) ++ namesIn [] ds := by
  induction cs generalizing word with
  | nil =>
    rw [List.nil_append, List.nil_append, namesIn_cons_end hc, namesIn_cons_end hc, namesIn,
      if_pos List.isEmpty_nil, List.append_nil]
  | cons d cs ih =>
    rw [List.cons_append, List.cons_append]
    by_cases hd : isWordChar d
    · rw [namesIn_cons_word hd, namesIn_cons_word hd, ih]
    · have hd : isWordChar d = false := by simpa using hd
      rw [namesIn_cons_end hd, namesIn_cons_end hd, ih, List.append_assoc]

/-! ## Texts that are put together -/

/-- A text without words. -/
def NoWord (s : String) : Prop := ∀ c ∈ s.toList, isWordChar c = false

/-- No word goes on before this text. -/
def BeginsApart (s : String) : Prop := ∀ c ∈ s.toList.head?, isWordChar c = false

/-- No word goes on after this text. -/
def EndsApart (s : String) : Prop := ∀ c ∈ s.toList.getLast?, isWordChar c = false

/-- A word before this text is no type. -/
def BeginsLabelled (s : String) : Prop := ∃ c ∈ s.toList.head?, isLabelEnd c

instance (s : String) : Decidable (NoWord s) := List.decidableBAll _ s.toList
instance (s : String) : Decidable (BeginsApart s) := Option.decidableForallMem _
instance (s : String) : Decidable (EndsApart s) := Option.decidableForallMem _
instance (s : String) : Decidable (BeginsLabelled s) := Option.decidableExistsMem _

theorem isWordChar_of_isLabelEnd {c : Char} (h : isLabelEnd c) : isWordChar c = false := by
  simp only [isLabelEnd, Bool.or_eq_true, beq_iff_eq] at h
  rcases h with ((rfl | rfl) | rfl) | rfl <;> decide

theorem NoWord.beginsApart {s : String} (h : NoWord s) : BeginsApart s :=
  fun c hc => h c (List.mem_of_mem_head? hc)

theorem NoWord.endsApart {s : String} (h : NoWord s) : EndsApart s :=
  fun c hc => h c (List.mem_of_mem_getLast? hc)

theorem EndsApart.append {s' : String} (h : EndsApart s') (hne : s' ≠ "") (s : String) :
    EndsApart (s ++ s') := by
  have hnil : s'.toList ≠ [] := fun hnil => hne (String.toList_eq_nil_iff.1 hnil)
  unfold EndsApart
  rw [String.toList_append, List.getLast?_append_of_ne_nil _ hnil]
  exact h

namespace Refers

variable {P Q : String → Prop} {s t : String}

/-- A weaker property holds of the same names. -/
theorem mono (h : Refers P s) (hPQ : ∀ name, P name → Q name) : Refers Q s :=
  fun name hname => hPQ name (h name hname)

/-- Two texts are read one after the other if the second does not begin within a word. -/
theorem append_of_begins (hs : Refers P s) (ht : Refers P t) (h : BeginsApart t) :
    Refers P (s ++ t) := by
  intro name hname
  rw [typeNames, String.toList_append] at hname
  obtain ⟨cs, hcs, rfl⟩ := List.mem_map.1 hname
  rcases mem_namesIn_append h hcs with hfirst | hsecond
  · exact hs _ (List.mem_map.2 ⟨cs, hfirst, rfl⟩)
  · exact ht _ (List.mem_map.2 ⟨cs, hsecond, rfl⟩)

theorem append_of_ends (hs : Refers P s) (ht : Refers P t) (h : EndsApart s) :
    Refers P (s ++ t) := by
  rcases List.eq_nil_or_concat s.toList with hnil | ⟨cs, c, hconcat⟩
  · rw [String.toList_eq_nil_iff.1 hnil, String.empty_append]
    exact ht
  · rw [List.concat_eq_append] at hconcat
    have hc : isWordChar c = false := h c (by simp [hconcat])
    intro name hname
    rw [typeNames, String.toList_append, hconcat, List.append_assoc, List.singleton_append,
      namesIn_append_end hc, List.map_append, List.mem_append] at hname
    rcases hname with hfirst | hsecond
    · rw [← hconcat] at hfirst
      exact hs name hfirst
    · exact ht name hsecond

theorem of_noWord (h : NoWord s) : Refers P s := by
  have hnone : ∀ cs : List Char, (∀ c ∈ cs, isWordChar c = false) → namesIn [] cs = [] := by
    intro cs hcs
    induction cs with
    | nil => rfl
    | cons c cs ih =>
      rw [namesIn_cons_end (hcs c List.mem_cons_self),
        ih fun d hd => hcs d (List.mem_cons_of_mem _ hd)]
      rfl
  intro name hname
  rw [typeNames, hnone _ h] at hname
  exact absurd hname List.not_mem_nil

theorem append_noWord (hs : Refers P s) (ht : NoWord t) : Refers P (s ++ t) :=
  hs.append_of_begins (.of_noWord ht) ht.beginsApart

theorem noWord_append (hs : NoWord s) (ht : Refers P t) : Refers P (s ++ t) :=
  (of_noWord hs).append_of_ends ht hs.endsApart

/-- Texts with a separator between them. -/
theorem separated {sep : String} (hs : Refers P s) (hsep : NoWord sep) (hne : sep ≠ "")
    (ht : Refers P t) : Refers P (s ++ sep ++ t) :=
  (hs.append_noWord hsep).append_of_ends ht (hsep.endsApart.append hne s)

/-- A word names itself. -/
theorem of_isWord (h : IsWord s) (hs : P s) : Refers P s := by
  intro name hname
  have hword := namesIn_append_word h [] []
  rw [List.append_nil, List.nil_append] at hword
  rw [typeNames, hword, namesIn] at hname
  split at hname
  · exact absurd hname List.not_mem_nil
  · rw [List.map_singleton, String.ofList_toList, List.mem_singleton] at hname
    exact hname ▸ hs

/-- A label names no type. -/
theorem label (hs : IsWord s) (ht : Refers P t) (h : BeginsLabelled t) : Refers P (s ++ t) := by
  obtain ⟨c, hc, hlabel⟩ := h
  obtain ⟨cs, hcs⟩ := List.head?_eq_some_iff.1 hc
  have hword := isWordChar_of_isLabelEnd hlabel
  intro name hname
  rw [typeNames, String.toList_append, hcs, namesIn_append_word hs, List.nil_append,
    namesIn_cons_end hword, if_pos (by simp [hlabel]), List.nil_append] at hname
  refine ht name ?_
  rw [typeNames, hcs, namesIn_cons_end hword, if_pos (by simp), List.nil_append]
  exact hname

theorem intercalate {sep : String} {parts : List String} (hsep : NoWord sep) (hne : sep ≠ "")
    (h : ∀ part ∈ parts, Refers P part) : Refers P (sep.intercalate parts) := by
  induction parts with
  | nil =>
    rw [String.intercalate_nil]
    exact .of_noWord (by decide)
  | cons part parts ih =>
    have hpart := h part List.mem_cons_self
    have hrest := ih fun p hp => h p (List.mem_cons_of_mem _ hp)
    cases parts with
    | nil => simpa using hpart
    | cons next parts =>
      rw [String.intercalate_cons_cons]
      exact hpart.separated hsep hne hrest

end Refers

/-! ## Lists of names -/

theorem mem_commaSeparated {c : Char} {parts : List String}
    (h : c ∈ (", ".intercalate parts).toList) :
    c = ',' ∨ c = ' ' ∨ ∃ part ∈ parts, c ∈ part.toList := by
  induction parts with
  | nil => exact absurd h List.not_mem_nil
  | cons part parts ih =>
    cases parts with
    | nil =>
      rw [String.intercalate_singleton] at h
      exact .inr (.inr ⟨part, List.mem_cons_self, h⟩)
    | cons next parts =>
      rw [String.intercalate_cons_cons, String.toList_append, String.toList_append,
        List.mem_append, List.mem_append] at h
      rcases h with (hpart | hcomma) | hrest
      · exact .inr (.inr ⟨part, List.mem_cons_self, hpart⟩)
      · have hcomma : c = ',' ∨ c = ' ' := by simpa using hcomma
        tauto
      · rcases ih hrest with hcomma | hspace | ⟨other, hother, hc⟩
        · exact .inl hcomma
        · exact .inr (.inl hspace)
        · exact .inr (.inr ⟨other, List.mem_cons_of_mem _ hother, hc⟩)

/-- Words with commas between them are the names of types in such a list. -/
theorem typeNames_commaSeparated {names : List String} (h : ∀ name ∈ names, IsWord name)
    (hne : ∀ name ∈ names, name ≠ "") :
    typeNames (" " ++ ", ".intercalate names ++ " ") = names := by
  have hspace : isWordChar ' ' = false := by decide
  -- the blank at the end stands for what ends the last word; after a comma one blank is passed over
  have hlist : ∀ names : List String, (∀ name ∈ names, IsWord name ∧ name ≠ "") →
      namesIn [] ((", ".intercalate names).toList ++ [' ']) = names.map String.toList := by
    intro names h
    induction names with
    | nil => rfl
    | cons name names ih =>
      rw [List.forall_mem_cons] at h
      obtain ⟨⟨hword, hname⟩, hrest⟩ := h
      have hname : name.toList ≠ [] := fun hnil => hname (String.toList_eq_nil_iff.1 hnil)
      cases names with
      | nil =>
        rw [String.intercalate_singleton, namesIn_word_end hword hname hspace (by decide)]
        rfl
      | cons next names =>
        rw [String.intercalate_cons_cons, String.toList_append, String.toList_append,
          List.append_assoc, List.append_assoc]
        exact (namesIn_word_end hword hname (c := ',') (by decide) (by decide) _).trans
          (congrArg _ ((namesIn_cons_end hspace [] _).trans (ih hrest)))
  have hmap : (names.map String.toList).map String.ofList = names := by
    rw [List.map_map]
    exact (List.map_congr_left fun name _ => String.ofList_toList).trans (List.map_id _)
  rw [typeNames, String.append_assoc, String.toList_append, String.toList_append]
  refine Eq.trans ?_ hmap
  rw [← hlist names fun name hname => ⟨h name hname, hne name hname⟩]
  exact congrArg _ (namesIn_cons_end hspace [] _)

end AbiTypings
