import Mathlib.Data.List.Forall2
import AbiTypings.Proofs.RecordNames

/-!
# The trees that types stand for

A token names a record, and the fields of the record have tokens that name further records.
Replacing every name by what it names turns a token into a tree (`Expands`); a parameter spells a
tree directly, without any names (`Param.tree?`).  Both sides are defined here on their own: the
first reads nothing but a list of records, the second nothing but a parameter and what a dialect
says of elementary types.

* **Brackets** — `append_bracketPairs_inj`: a name that does not end in a bracket can be told from
  the pairs of brackets behind it.
* **Determinism** — `Expands.unique`: where records have distinct names, none of which ends in a
  bracket, a token expands to one tree only.
* **Leaves** — `Expands.leaf_of_not_mem_R`: a token without the letter that every name has is
  a leaf, whatever the records are.
-/

namespace AbiTypings

/-! ## Brackets -/

/-- As many pairs of brackets as an array has levels. -/
def bracketPairs : Nat → String
  | 0 => ""
  | n + 1 => bracketPairs n ++ "[]"

theorem append_bracketPairs_comm (n : Nat) : "[]" ++ bracketPairs n = bracketPairs n ++ "[]" := by
  induction n with
  | zero => rfl
  | succ n ih => rw [bracketPairs, ← String.append_assoc, ih]

/-- Array dimensions add a pair of brackets each. -/
theorem brackets_eq_bracketPairs (dims : List Dimension) :
    brackets dims = bracketPairs dims.length := by
  induction dims with
  | nil => rfl
  | cons dim dims ih => rw [brackets, ih, append_bracketPairs_comm, List.length_cons, bracketPairs]

theorem mem_bracketPairs {n : Nat} : ∀ c ∈ (bracketPairs n).toList, c = '[' ∨ c = ']' := by
  induction n with
  | zero => simp [bracketPairs]
  | succ n ih =>
    intro c hc
    rw [bracketPairs, String.toList_append, List.mem_append] at hc
    rcases hc with hc | hc
    · exact ih c hc
    · simpa using hc

theorem not_mem_R_bracketPairs (n : Nat) : 'R' ∉ (bracketPairs n).toList :=
  fun h => absurd (mem_bracketPairs _ h) (by decide)

/-- Where a text stops and the brackets behind it begin is clear, unless the text ends in a bracket
itself. -/
theorem append_bracketPairs_inj {a b : String} (ha : a.toList.getLast? ≠ some ']')
    (hb : b.toList.getLast? ≠ some ']') {m n : Nat}
    (h : a ++ bracketPairs m = b ++ bracketPairs n) : a = b ∧ m = n := by
  have hlast : ∀ (s : String) (k : Nat),
      (s ++ bracketPairs (k + 1)).toList.getLast? = some ']' := by
    intro s k
    simp [bracketPairs, List.getLast?_append]
  induction m generalizing n with
  | zero =>
    cases n with
    | zero => exact ⟨by simpa [bracketPairs] using h, rfl⟩
    | succ n =>
      rw [bracketPairs, String.append_empty] at h
      exact absurd (h ▸ hlast b n) ha
  | succ m ih =>
    cases n with
    | zero =>
      rw [show bracketPairs 0 = "" from rfl, String.append_empty] at h
      exact absurd (h ▸ hlast a m) hb
    | succ n =>
      rw [bracketPairs, bracketPairs, ← String.append_assoc, ← String.append_assoc] at h
      have hlists := congrArg String.toList h
      rw [String.toList_append, String.toList_append (s := b ++ bracketPairs n)] at hlists
      obtain ⟨rfl, rfl⟩ := ih (String.ext (List.append_cancel_right hlists))
      exact ⟨rfl, rfl⟩

/-! ## Trees -/

/-- A type with its records written out: a token, or fields under a number of array levels. -/
inductive TypeTree where
  | leaf (token : String)
  | composite (depth : Nat) (fields : List (String × TypeTree))

/-! ## Reading a tree off tokens -/

mutual

/-- The tree of a token.  A token is expanded when it is the name of a record with any number of
brackets behind it, and is a leaf otherwise. -/
inductive Expands (records : List Record) : String → TypeTree → Prop
  | leaf {token : String}
      (unnamed : ∀ record ∈ records, ∀ depth, token ≠ record.name ++ bracketPairs depth) :
      Expands records token (.leaf token)
  | composite {record : Record} {fields : List (String × TypeTree)} (depth : Nat)
      (mem : record ∈ records) (expands : FieldsExpand records record.fields fields) :
      Expands records (record.name ++ bracketPairs depth) (.composite depth fields)

/-- The trees of the fields of a record, in order and under their keys. -/
inductive FieldsExpand (records : List Record) : List Field → List (String × TypeTree) → Prop
  | nil : FieldsExpand records [] []
  | cons {field : Field} {fields : List Field} {tree : TypeTree} {trees : List (String × TypeTree)}
      (head : Expands records field.type tree) (tail : FieldsExpand records fields trees) :
      FieldsExpand records (field :: fields) ((field.key, tree) :: trees)

end

section Unique

variable {records : List Record}

mutual

/-- A token has one tree only. -/
theorem Expands.unique (hnames : ∀ a ∈ records, ∀ b ∈ records, a.name = b.name → a = b)
    (hlast : ∀ record ∈ records, record.name.toList.getLast? ≠ some ']') :
    ∀ {token : String} {t t' : TypeTree}, Expands records token t → Expands records token t' →
      t = t'
  | token, _, t', .leaf unnamed, h' => by
    generalize htoken : token = token' at h'
    cases h' with
    | leaf => rfl
    | composite depth mem => exact absurd htoken (unnamed _ mem depth)
  | _, _, t', @Expands.composite _ record _ depth mem expands, h' => by
    generalize htoken : record.name ++ bracketPairs depth = token' at h'
    cases h' with
    | leaf unnamed => exact absurd htoken.symm (unnamed record mem depth)
    | @composite record' _ depth' mem' expands' =>
      obtain ⟨hname, rfl⟩ :=
        append_bracketPairs_inj (hlast record mem) (hlast record' mem') htoken
      obtain rfl := hnames record mem record' mem' hname
      rw [FieldsExpand.unique hnames hlast expands expands']

theorem FieldsExpand.unique (hnames : ∀ a ∈ records, ∀ b ∈ records, a.name = b.name → a = b)
    (hlast : ∀ record ∈ records, record.name.toList.getLast? ≠ some ']') :
    ∀ {fields : List Field} {ts ts' : List (String × TypeTree)}, FieldsExpand records fields ts →
      FieldsExpand records fields ts' → ts = ts'
  | _, _, _, .nil, .nil => rfl
  | _, _, _, .cons head tail, .cons head' tail' => by
    rw [Expands.unique hnames hlast head head', FieldsExpand.unique hnames hlast tail tail']

end

end Unique

/-- A token without the letter that every name of a record has is a leaf. -/
theorem Expands.leaf_of_not_mem_R {records : List Record}
    (hnamed : ∀ record ∈ records, record.role.Names record.name) {token : String}
    (htoken : 'R' ∉ token.toList) : Expands records token (.leaf token) :=
  .leaf fun record hmem depth => (hnamed record hmem).append_ne htoken (bracketPairs depth)

/-! ## Reading a tree off a parameter -/

/-- The token of an elementary value under a number of array levels: a union is put in parentheses
before it takes brackets. -/
def leafToken (token : String) (depth : Nat) : String :=
  if depth ≠ 0 ∧ '|' ∈ token.toList then "(" ++ token ++ ")" ++ bracketPairs depth
  else token ++ bracketPairs depth

/-- The token of an array depends on how many dimensions it has, and not on their sizes. -/
theorem arrayToken_eq_leafToken (token : String) (dims : List Dimension) :
    arrayToken token dims = leafToken token dims.length := by
  unfold arrayToken leafToken
  rw [brackets_eq_bracketPairs]
  cases dims <;> simp

theorem not_mem_R_leafToken {token : String} (h : 'R' ∉ token.toList) (depth : Nat) :
    'R' ∉ (leafToken token depth).toList := by
  unfold leafToken
  split <;> simp [h, not_mem_R_bracketPairs]

theorem not_mem_R_arrayToken {token : String} (h : 'R' ∉ token.toList) (dims : List Dimension) :
    'R' ∉ (arrayToken token dims).toList := by
  rw [arrayToken_eq_leafToken]
  exact not_mem_R_leafToken h _

/-- The entries of one component among its siblings: under its name or placeholder, and where
responses can be reached by position, under its position too. -/
def componentEntries (profile : Profile) (role : Role) (index : Nat) (p : Param)
    (tree : TypeTree) : List (String × TypeTree) :=
  (p.nameOr role.placeholder index, tree) ::
    if role = .response ∧ profile.positionalAliases then [(toString index, tree)] else []

mutual

/-- The tree that a parameter spells, if its type is understood and has tokens. -/
def Param.tree? (profile : Profile) (role : Role) : Param → Option TypeTree
  | ⟨_, typeTag, none, _, _⟩ =>
    (AbiType.ofTag? typeTag).bind fun type =>
      match type.base with
      | .elementary elementary =>
        (elementary.token? profile role.side).map fun token =>
          .leaf (leafToken token type.dims.length)
      | .tuple => none
  | ⟨_, typeTag, some ps, _, _⟩ =>
    (AbiType.ofTag? typeTag).bind fun type =>
      match type.base with
      | .tuple => (componentTrees? profile role 0 ps).map (.composite type.dims.length)
      | .elementary _ => none

/-- The entries of sibling parameters, the first of which has position `index`. -/
def componentTrees? (profile : Profile) (role : Role) (index : Nat) :
    List Param → Option (List (String × TypeTree))
  | [] => some []
  | p :: ps =>
    (p.tree? profile role).bind fun tree =>
      (componentTrees? profile role (index + 1) ps).map
        (componentEntries profile role index p tree ++ ·)

end

end AbiTypings
