import Mathlib.Logic.Function.Iterate
import AbiTypings.Proofs.TypeNames

/-!
# Reading types

The types in signatures are names, arrays and unions.  Brackets belong to the operand right before
them and so bind tighter than the bar of a union, and parentheses make an operand of any type.  This
module says what type a text is read as by these rules alone, and that there is never a choice.

* **Texts** — `lexemes` cuts a text into words and single characters, and passes over blanks.
  `lexemes_append`: where no word goes on, a text can be cut before its lexemes are.
* **Grammar** — `IsOperand` and `IsUnion`: the types that lexemes are read as, with one rule for each
  form.
* **One reading** — `readLexemes` reads lexemes from left to right and keeps what stands before each
  open parenthesis.  It follows every reading of the grammar (`readLexemes_of_isUnion`), so there is
  only one (`IsUnion.unique`).
* **Rules for texts** — `ReadAs.parens`, `OperandAs.brackets` and `ReadAs.union`: the grammar in
  terms of the texts that are put together.
-/

namespace AbiTypings

/-! ## Types -/

/-- A type as it is written in signatures. -/
inductive TypeExpr where
  | named (name : String)
  | array (element : TypeExpr)
  | union (left right : TypeExpr)
  deriving DecidableEq, Repr

/-! ## Texts -/

/-- A part of a text that cannot be cut further. -/
inductive Lexeme where
  | word (name : String)
  | mark (c : Char)
  deriving DecidableEq, Repr

/-- The lexeme of a word that has ended, if there was one. -/
def wordLexeme (word : List Char) : List Lexeme :=
  if word.isEmpty then [] else [.word (String.ofList word)]

/-- The lexemes of a text, where `word` was read before. -/
def lexemesAfter (word : List Char) : List Char → List Lexeme
  | [] => wordLexeme word
  | c :: cs =>
    if isWordChar c then lexemesAfter (word ++ [c]) cs
    else wordLexeme word ++ (if c = ' ' then [] else [.mark c]) ++ lexemesAfter [] cs

/-- The lexemes of a text: the longest words, and all other characters but blanks. -/
def lexemes (s : String) : List Lexeme :=
  lexemesAfter [] s.toList

/-- A text is cut where a character is none of a word. -/
theorem lexemesAfter_append {ds : List Char} (hcut : ∀ d ∈ ds.head?, isWordChar d = false)
    (word cs : List Char) :
    lexemesAfter word (cs ++ ds) = lexemesAfter word cs ++ lexemesAfter [] ds := by
  induction cs generalizing word with
  | nil =>
    cases ds with
    | nil => simp [lexemesAfter, wordLexeme]
    | cons d ds =>
      have hd : isWordChar d = false := hcut d rfl
      simp [lexemesAfter, hd, wordLexeme]
  | cons c cs ih =>
    rw [List.cons_append, lexemesAfter, lexemesAfter]
    split
    · exact ih _
    · rw [ih, ← List.append_assoc]

/-- Where no word goes on, a text can be cut. -/
theorem lexemes_append (s : String) {t : String} (h : BeginsApart t) :
    lexemes (s ++ t) = lexemes s ++ lexemes t := by
  rw [lexemes, String.toList_append, lexemesAfter_append h]
  rfl

/-- The characters that stand alone are those of the text. -/
theorem mem_of_mark_mem_lexemesAfter {c : Char} {word cs : List Char}
    (h : .mark c ∈ lexemesAfter word cs) : c ∈ cs := by
  induction cs generalizing word with
  | nil =>
    unfold lexemesAfter wordLexeme at h
    split at h <;> simp at h
  | cons d cs ih =>
    rw [lexemesAfter] at h
    split at h
    · exact List.mem_cons_of_mem _ (ih h)
    · rw [List.mem_append, List.mem_append] at h
      rcases h with (hword | hmark) | hrest
      · unfold wordLexeme at hword
        split at hword <;> simp at hword
      · split at hmark
        · simp at hmark
        · obtain rfl : c = d := by simpa using hmark
          exact List.mem_cons_self
      · exact List.mem_cons_of_mem _ (ih hrest)

/-! ## Grammar -/

mutual

/-- The types that brackets can stand behind. -/
inductive IsOperand : List Lexeme → TypeExpr → Prop
  | named (name : String) : IsOperand [.word name] (.named name)
  | parens {inner : List Lexeme} {e : TypeExpr} (h : IsUnion inner e) :
      IsOperand (.mark '(' :: (inner ++ [.mark ')'])) e
  | array {element : List Lexeme} {e : TypeExpr} (h : IsOperand element e) :
      IsOperand (element ++ [.mark '[', .mark ']']) (.array e)

/-- Operands with bars between them. -/
inductive IsUnion : List Lexeme → TypeExpr → Prop
  | operand {ls : List Lexeme} {e : TypeExpr} (h : IsOperand ls e) : IsUnion ls e
  | union {left right : List Lexeme} {l r : TypeExpr} (hleft : IsUnion left l)
      (hright : IsOperand right r) : IsUnion (left ++ .mark '|' :: right) (.union l r)

end

/-! ## One reading -/

/-- An operand together with what stands to the left of it. -/
def joined (left : Option TypeExpr) (operand : TypeExpr) : TypeExpr :=
  match left with
  | none => operand
  | some e => .union e operand

/-- Read lexemes from left to right.  What was read before is the union to the left in the innermost
parentheses, those to the left in the parentheses around them, and the operand, once it has begun. -/
def readLexemes (left : Option TypeExpr) (outer : List (Option TypeExpr)) :
    Option TypeExpr → List Lexeme → Option TypeExpr
  | none, .word name :: ls => readLexemes left outer (some (.named name)) ls
  | none, .mark '(' :: ls => readLexemes none (left :: outer) none ls
  | some e, .mark '[' :: .mark ']' :: ls => readLexemes left outer (some (.array e)) ls
  | some e, .mark '|' :: ls => readLexemes (some (joined left e)) outer none ls
  | some e, .mark ')' :: ls =>
    match outer with
    | [] => none
    | before :: outer => readLexemes before outer (some (joined left e)) ls
  | some e, [] => if outer.isEmpty then some (joined left e) else none
  | _, _ => none

mutual

/-- Reading goes past an operand with that operand, wherever it stands. -/
theorem readLexemes_of_isOperand : ∀ {ls : List Lexeme} {e : TypeExpr}, IsOperand ls e →
    ∀ (left : Option TypeExpr) (outer : List (Option TypeExpr)) (rest : List Lexeme),
      readLexemes left outer none (ls ++ rest) = readLexemes left outer (some e) rest
  | _, _, .named name, left, outer, rest => by
    rw [List.singleton_append, readLexemes]
  | _, _, @IsOperand.parens inner e h, left, outer, rest => by
    obtain ⟨before, operand, rfl, hread⟩ :=
      readLexemes_of_isUnion h (left :: outer) (.mark ')' :: rest)
    rw [List.cons_append, List.append_assoc, List.singleton_append, readLexemes, hread, readLexemes]
  | _, _, @IsOperand.array element e h, left, outer, rest => by
    rw [List.append_assoc, readLexemes_of_isOperand h, List.cons_append, List.cons_append,
      List.nil_append, readLexemes]

/-- Reading goes past a union with its last operand, and what stands before that. -/
theorem readLexemes_of_isUnion : ∀ {ls : List Lexeme} {e : TypeExpr}, IsUnion ls e →
    ∀ (outer : List (Option TypeExpr)) (rest : List Lexeme), ∃ left operand,
      joined left operand = e ∧
        readLexemes none outer none (ls ++ rest) = readLexemes left outer (some operand) rest
  | _, e, .operand h, outer, rest =>
    ⟨none, e, rfl, readLexemes_of_isOperand h none outer rest⟩
  | _, _, @IsUnion.union left right l r hleft hright, outer, rest => by
    obtain ⟨before, operand, rfl, hread⟩ :=
      readLexemes_of_isUnion hleft outer (.mark '|' :: (right ++ rest))
    refine ⟨some (joined before operand), r, rfl, ?_⟩
    rw [List.append_assoc, List.cons_append, hread, readLexemes,
      readLexemes_of_isOperand hright]

end

/-- Lexemes are read in one way only. -/
theorem IsUnion.unique {ls : List Lexeme} {e e' : TypeExpr} (h : IsUnion ls e)
    (h' : IsUnion ls e') : e = e' := by
  have hread {e : TypeExpr} (h : IsUnion ls e) : readLexemes none [] none ls = some e := by
    obtain ⟨left, operand, rfl, hread⟩ := readLexemes_of_isUnion h [] []
    rw [← List.append_nil ls, hread]
    rfl
  exact Option.some.inj ((hread h).symm.trans (hread h'))

/-- Brackets behind parentheses apply to all that is in them, and before a bar to no more. -/
example : readLexemes none [] none (lexemes "(string | number[])[] | x") =
    some (.union (.array (.union (.named "string") (.array (.named "number")))) (.named "x")) := by
  decide

/-! ## Rules for texts -/

/-- A text is read as a type that brackets can stand behind. -/
def OperandAs (s : String) (e : TypeExpr) : Prop :=
  IsOperand (lexemes s) e

/-- A text is read as a type. -/
def ReadAs (s : String) (e : TypeExpr) : Prop :=
  IsUnion (lexemes s) e

section Rules

variable {s t : String} {e l r : TypeExpr}

theorem OperandAs.readAs (h : OperandAs s e) : ReadAs s e :=
  .operand h

/-- In parentheses, any type is an operand. -/
theorem ReadAs.parens (h : ReadAs s e) : OperandAs ("(" ++ s ++ ")") e := by
  have hopened : lexemes ("(" ++ s) = .mark '(' :: lexemes s := by
    rw [lexemes, String.toList_append]
    rfl
  rw [OperandAs, lexemes_append _ (by decide), hopened]
  exact .parens h

/-- Brackets apply to the operand before them. -/
theorem OperandAs.array (h : OperandAs s e) : OperandAs (s ++ "[]") (.array e) := by
  rw [OperandAs, lexemes_append _ (by decide)]
  exact .array h

/-- Each pair of brackets makes an array of what stands before it. -/
theorem OperandAs.brackets (h : OperandAs s e) (dims : List Dimension) :
    OperandAs (s ++ brackets dims) (TypeExpr.array^[dims.length] e) := by
  induction dims generalizing s e with
  | nil => simpa [AbiTypings.brackets] using h
  | cons dim dims ih =>
    rw [AbiTypings.brackets, ← String.append_assoc]
    exact ih h.array

/-- A bar joins a type and an operand to a union. -/
theorem ReadAs.union (hleft : ReadAs s l) (hright : OperandAs t r) :
    ReadAs (s ++ " | " ++ t) (.union l r) := by
  have hbar : lexemes (" | " ++ t) = .mark '|' :: lexemes t := by
    rw [lexemes, String.toList_append]
    rfl
  rw [ReadAs, String.append_assoc, lexemes_append _ (by simp [BeginsApart, isWordChar]), hbar]
  exact .union hleft hright

/-- Without a bar there is no union. -/
theorem ReadAs.operandAs (h : ReadAs s e) (hbar : '|' ∉ s.toList) : OperandAs s e := by
  unfold ReadAs at h
  generalize hlexemes : lexemes s = ls at h
  cases h with
  | operand h =>
    rw [OperandAs, hlexemes]
    exact h
  | union hleft hright =>
    have hmark : .mark '|' ∈ lexemesAfter [] s.toList := by
      rw [← lexemes, hlexemes]
      simp
    exact absurd (mem_of_mark_mem_lexemesAfter hmark) hbar

end Rules

end AbiTypings
