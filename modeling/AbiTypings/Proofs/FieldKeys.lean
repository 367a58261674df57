import AbiTypings.Text.Alphanumeric
import AbiTypings.Proofs.Building
import AbiTypings.Proofs.RecordNames
import AbiTypings.Proofs.SiblingKeys

/-!
# The keys of a record's fields

The fields of a record get their keys from four sources: the names that its siblings are declared
with, placeholders for those without a name, positions where fields can be reached by position, and
`length` for several outputs.  Positions are numbers, which no identifier is; the other three are
all words, and nothing compares them.

* **Keys** — `RecordBody.keys_perm`: the keys of a record made from some siblings are what they are
  called, and `RecordBody.otherKeys` besides.
* **Distinctness** — `RecordBody.nodup_keys_iff`: where the siblings are properly named, the keys
  are distinct exactly when none of the declared names is one that is made up.
* **Bindings** — `Bindings.fieldKeys_nodup_iff` says so of all records of finished bindings, and
  `Bindings.fieldKeys_not_nodup` is a function with an output called `result1`.
-/

namespace AbiTypings

/-! ## Proper names -/

/-- Whether a word is an identifier: letters, digits, `_` and `$`, of which a digit is not the
first. -/
def isIdentifier (s : String) : Bool :=
  match s.toList with
  | [] => false
  | c :: cs => !c.isDigit && (c :: cs).all fun c => Text.isAlphanumeric c || c == '_' || c == '$'

/-- Siblings whose declared names are distinct identifiers. -/
structure ProperlyNamed (ps : List Param) : Prop where
  nodup : (declaredNames ps).Nodup
  identifiers : ∀ name ∈ declaredNames ps, isIdentifier name

instance (ps : List Param) : Decidable (ProperlyNamed ps) :=
  decidable_of_iff
    ((declaredNames ps).Nodup ∧ ∀ name ∈ declaredNames ps, isIdentifier name = true)
    ⟨fun h => ⟨h.1, h.2⟩, fun h => ⟨h.1, h.2⟩⟩

/-! ## Words and numbers -/

/-- A word that begins with a digit, as numbers do. -/
def BeginsWithDigit (s : String) : Prop :=
  ∃ c, s.toList.head? = some c ∧ c.isDigit

theorem beginsWithDigit_toString (n : Nat) : BeginsWithDigit (toString n) := by
  cases hdigits : (toString n).toList with
  | nil => exact absurd hdigits (toList_toString_ne_nil n)
  | cons c cs =>
    refine ⟨c, by rw [hdigits]; rfl, isDigit_of_mem_toString (n := n) ?_⟩
    rw [hdigits]
    exact List.mem_cons_self

/-- An identifier begins with no digit, unlike a position. -/
theorem not_beginsWithDigit_of_isIdentifier {s : String} (h : isIdentifier s) :
    ¬ BeginsWithDigit s := by
  rintro ⟨c, hhead, hdigit⟩
  rw [isIdentifier] at h
  cases hchars : s.toList with
  | nil =>
    rw [hchars] at hhead
    cases hhead
  | cons d cs =>
    rw [hchars] at h hhead
    cases hhead
    simp [hdigit] at h

/-- Placeholders begin with a letter. -/
theorem Role.head?_placeholder_append (role : Role) (s : String) :
    (role.placeholder ++ s).toList.head? = role.placeholder.toList.head? := by
  rw [String.toList_append, List.head?_append]
  cases role <;> rfl

theorem Role.not_beginsWithDigit_placeholder (role : Role) (s : String) :
    ¬ BeginsWithDigit (role.placeholder ++ s) := by
  rintro ⟨c, hhead, hdigit⟩
  rw [role.head?_placeholder_append] at hhead
  cases role <;> cases hhead <;> exact absurd hdigit (by decide)

theorem not_beginsWithDigit_length : ¬ BeginsWithDigit "length" := by
  rintro ⟨c, hhead, hdigit⟩
  cases hhead
  exact absurd hdigit (by decide)

theorem beginsWithDigit_of_mem_positionKeys {index count : Nat} {key : String}
    (hmem : key ∈ positionKeys index count) : BeginsWithDigit key := by
  obtain ⟨n, -, rfl⟩ := List.mem_map.1 hmem
  exact beginsWithDigit_toString n

theorem nodup_positionKeys (index count : Nat) : (positionKeys index count).Nodup := by
  have hinjective : Function.Injective (toString : Nat → String) :=
    fun _ _ h => Nat.repr_injective h
  exact List.Nodup.map hinjective List.nodup_range'

/-! ## Keys -/

namespace RecordBody

variable {profile : Profile} {body : RecordBody} {record : Record}

/-- The key of the number of siblings, where it is a field. -/
def lengthKeys (profile : Profile) (body : RecordBody) : List String :=
  if body.counted && profile.positionalAliases then ["length"] else []

/-- The keys that do not stand for the name of a sibling. -/
def otherKeys (profile : Profile) (body : RecordBody) : List String :=
  (if profile.aliases body.role then positionKeys 0 body.params.length else []) ++
    body.lengthKeys profile

/-- The words among the keys that nobody declared: placeholders, and `length` where it is a
field. -/
def madeUpKeys (profile : Profile) (body : RecordBody) : List String :=
  placeholders body.role.placeholder 0 body.params ++ body.lengthKeys profile

/-- The keys of a record are what its siblings are called, and the other keys. -/
theorem keys_perm (h : body.Makes profile record) :
    (record.fields.map Field.key).Perm
      (siblingKeys body.role.placeholder 0 body.params ++ body.otherKeys profile) := by
  obtain ⟨types, hlength, hshape⟩ := h
  have hfields : record.fields = body.fields profile types := congrArg Shape.fields hshape
  have hcounted : (if body.counted then lengthFields profile body.params else []).map Field.key =
      body.lengthKeys profile := by
    unfold lengthKeys lengthFields
    cases body.counted <;> cases profile.positionalAliases <;> rfl
  rw [hfields, fields, List.map_append, hcounted, otherKeys, ← List.append_assoc]
  exact (keys_siblingFields_perm _ _ hlength).append_right _

theorem mem_lengthKeys {key : String} (h : key ∈ body.lengthKeys profile) : key = "length" := by
  rw [lengthKeys] at h
  split at h
  · exact List.mem_singleton.1 h
  · exact absurd h List.not_mem_nil

theorem beginsWithDigit_or_of_mem_otherKeys {key : String} (h : key ∈ body.otherKeys profile) :
    BeginsWithDigit key ∨ key ∈ body.lengthKeys profile := by
  obtain hposition | hlength := List.mem_append.1 h
  · split at hposition
    · exact Or.inl (beginsWithDigit_of_mem_positionKeys hposition)
    · exact absurd hposition List.not_mem_nil
  · exact Or.inr hlength

/-- The keys that are made up for a record are distinct among themselves. -/
theorem nodup_otherKeys : (body.otherKeys profile).Nodup := by
  refine List.Nodup.append ?_ ?_ ?_
  · split
    · exact nodup_positionKeys _ _
    · exact List.nodup_nil
  · rw [lengthKeys]
    split
    · exact List.nodup_singleton _
    · exact List.nodup_nil
  · intro key hposition hlength
    split at hposition
    · rw [mem_lengthKeys hlength] at hposition
      exact not_beginsWithDigit_length (beginsWithDigit_of_mem_positionKeys hposition)
    · exact absurd hposition List.not_mem_nil

/-- The other keys are no placeholders. -/
theorem otherKeys_ne_placeholder :
    ∀ key ∈ body.otherKeys profile, ∀ n : Nat, key ≠ body.role.placeholder ++ toString n := by
  rintro key hmem n rfl
  obtain hdigit | hlength := beginsWithDigit_or_of_mem_otherKeys hmem
  · exact body.role.not_beginsWithDigit_placeholder _ hdigit
  · -- `length` and the placeholders differ in their first letter
    have hhead := congrArg (fun s => s.toList.head?) (mem_lengthKeys hlength)
    rw [body.role.head?_placeholder_append] at hhead
    revert hhead
    cases body.role <;> decide

/-- Where siblings are properly named, the keys of their record are distinct exactly when no
declared name is made up for something else. -/
theorem nodup_keys_iff (hnames : ProperlyNamed body.params) (hmakes : body.Makes profile record) :
    (record.fields.map Field.key).Nodup ↔
      (declaredNames body.params).Disjoint (body.madeUpKeys profile) := by
  rw [(keys_perm hmakes).nodup_iff,
    nodup_siblingKeys_append_iff nodup_otherKeys otherKeys_ne_placeholder]
  constructor
  · rintro ⟨-, hdisjoint⟩ name hdeclared hmadeUp
    refine hdisjoint hdeclared (List.mem_append.2 ?_)
    obtain hplaceholder | hlength := List.mem_append.1 hmadeUp
    · exact Or.inl hplaceholder
    · exact Or.inr (List.mem_append_right _ hlength)
  · intro hdisjoint
    refine ⟨hnames.nodup, fun name hdeclared hmem => hdisjoint hdeclared (List.mem_append.2 ?_)⟩
    obtain hplaceholder | hother := List.mem_append.1 hmem
    · exact Or.inl hplaceholder
    · obtain hdigit | hlength := beginsWithDigit_or_of_mem_otherKeys hother
      · -- an identifier is no position
        have hword := not_beginsWithDigit_of_isIdentifier (hnames.identifiers name hdeclared)
        exact absurd hdigit hword
      · exact Or.inr hlength

end RecordBody

/-! ## Bindings -/

/-- **When the keys of records are distinct.**  In the bindings of members whose siblings are
properly named, in any dialect, every record is made from some siblings, and its keys are distinct
exactly when none of these is declared with a name that is made up: the placeholder of an unnamed
one, or `length` for several outputs in dialects that count them.  So the keys of all records are
distinct exactly when this holds of all siblings that make a record. -/
theorem Bindings.fieldKeys_nodup_iff {options : Options} {ms : List Member} {b : Bindings}
    (h : Bindings.ofMembers options ms = .ok b)
    (hnames : ∀ body ∈ ms.flatMap Member.bodies, ProperlyNamed body.params) :
    (∀ record ∈ b.records, ∃ body ∈ ms.flatMap Member.bodies,
        body.Makes options.dialect.profile record ∧
          ((record.fields.map Field.key).Nodup ↔
            (declaredNames body.params).Disjoint (body.madeUpKeys options.dialect.profile))) ∧
      ((∀ record ∈ b.records, (record.fields.map Field.key).Nodup) ↔
        ∀ body ∈ ms.flatMap Member.bodies,
          (declaredNames body.params).Disjoint (body.madeUpKeys options.dialect.profile)) := by
  obtain ⟨hmade, hmakes⟩ := records_from_bodies h
  refine ⟨fun record hmem => ?_, fun hnodup body hbody => ?_, fun hdisjoint record hmem => ?_⟩
  · obtain ⟨body, hbody, hbodyMakes⟩ := hmade record hmem
    exact ⟨body, hbody, hbodyMakes, body.nodup_keys_iff (hnames body hbody) hbodyMakes⟩
  · obtain ⟨record, hmem, hbodyMakes⟩ := hmakes body hbody
    exact (body.nodup_keys_iff (hnames body hbody) hbodyMakes).1 (hnodup record hmem)
  · obtain ⟨body, hbody, hbodyMakes⟩ := hmade record hmem
    exact (body.nodup_keys_iff (hnames body hbody) hbodyMakes).2 (hdisjoint body hbody)

/-- A function with two outputs, the first of which is called like the placeholder of the second. -/
def bestMembers : List Member :=
  [.function "best" []
    [⟨"result1", "uint256", none, none, false⟩, ⟨"", "bool", none, none, false⟩]
    (.ofMutability .view)]

theorem properlyNamed_bestMembers :
    ∀ body ∈ bestMembers.flatMap Member.bodies, ProperlyNamed body.params := by
  decide +kernel

theorem Bindings.fieldKeys_nodup_iff_best :
    ∃ b, Bindings.ofMembers ⟨.ethersV5, none, none⟩ bestMembers = .ok b ∧
      (∀ body ∈ bestMembers.flatMap Member.bodies, ProperlyNamed body.params) ∧
      ((∀ record ∈ b.records, (record.fields.map Field.key).Nodup) ↔
        ∀ body ∈ bestMembers.flatMap Member.bodies,
          (declaredNames body.params).Disjoint (body.madeUpKeys Dialect.ethersV5.profile)) := by
  have hgood : ∀ visit ∈ bestMembers.flatMap Member.visits, ¬ visit.param.isBad := by
    decide
  obtain ⟨b, hb⟩ := exists_ofMembers ⟨.ethersV5, none, none⟩ hgood
  exact ⟨b, hb, properlyNamed_bestMembers, (fieldKeys_nodup_iff hb properlyNamed_bestMembers).2⟩

/-- The record of the two outputs has one key twice. -/
theorem Bindings.fieldKeys_not_nodup :
    (∀ body ∈ bestMembers.flatMap Member.bodies, ProperlyNamed body.params) ∧
      ∃ b, Bindings.ofMembers ⟨.web3, none, none⟩ bestMembers = .ok b ∧
        ∃ record ∈ b.records, ¬ (record.fields.map Field.key).Nodup := by
  obtain ⟨b, hb, hrecords⟩ : ∃ b, Bindings.ofMembers ⟨.web3, none, none⟩ bestMembers = .ok b ∧
      b.records = [⟨"BestResponse", .response,
        [⟨"result1", "string"⟩, ⟨"result1", "boolean"⟩]⟩] :=
    exists_of_toOption_map (by decide +kernel)
  refine ⟨properlyNamed_bestMembers, b, hb, ?_⟩
  rw [hrecords]
  exact ⟨_, List.mem_singleton_self _, by decide⟩

end AbiTypings
