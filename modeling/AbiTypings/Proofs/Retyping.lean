import AbiTypings.Proofs.TypeTree

/-!
# The integers of the ethers dialects

Of the tokens of types, the two ethers dialects differ in one only: an integer that is returned is a
`BigNumber` in the older dialect and a `bigint` in the newer one.  `retype` replaces the one by the
other, under any number of dimensions, and leaves every other token alone.

* **Tokens** — `retype_append`: of a text with brackets behind it, the text decides what becomes of
  it.  `retype_injOn`: distinct tokens stay distinct, as long as none of them is a `bigint` already.
* **Fields** — `FieldsRetyped`: the fields of a record before and after.  Inputs have no type that
  changes, so their fields are the same (`FieldsRetyped.eq_of_ne`).
-/

namespace AbiTypings

/-! ## Tokens -/

/-- Whether nothing is left but pairs of brackets. -/
def isBracketPairs : List Char → Bool
  | [] => true
  | '[' :: ']' :: cs => isBracketPairs cs
  | _ => false

/-- Put `bigint` for the base of a token that is `BigNumber`, with any number of dimensions.  Every
other token stays as it is. -/
def retype (token : String) : String :=
  match "BigNumber".toList.isPrefixOf? token.toList with
  | some cs => if isBracketPairs cs then "bigint" ++ String.ofList cs else token
  | none => token

example : retype "BigNumber[][]" = "bigint[][]" := by decide

example : retype "BigNumber[RowResponse" = "BigNumber[RowResponse" := by decide

theorem toList_bracketPairs_succ (n : Nat) :
    (bracketPairs (n + 1)).toList = '[' :: ']' :: (bracketPairs n).toList := by
  rw [bracketPairs, ← append_bracketPairs_comm, String.toList_append]
  rfl

/-- The test for pairs of brackets finds just those. -/
theorem isBracketPairs_iff {cs : List Char} :
    isBracketPairs cs ↔ ∃ n, cs = (bracketPairs n).toList := by
  constructor
  · intro h
    induction cs using isBracketPairs.induct with
    | case1 => exact ⟨0, rfl⟩
    | case2 cs ih =>
      obtain ⟨n, rfl⟩ := ih h
      exact ⟨n + 1, (toList_bracketPairs_succ n).symm⟩
    | case3 cs hnil hpair =>
      rw [isBracketPairs] at h
      · cases h
      · exact hnil
      · exact hpair
  · rintro ⟨n, rfl⟩
    induction n with
    | zero => rfl
    | succ n ih =>
      rw [toList_bracketPairs_succ]
      exact ih

theorem retype_bigNumber (n : Nat) :
    retype ("BigNumber" ++ bracketPairs n) = "bigint" ++ bracketPairs n := by
  have hstart : "BigNumber".toList.isPrefixOf? ("BigNumber" ++ bracketPairs n).toList =
      some (bracketPairs n).toList := by
    rw [String.toList_append, List.isPrefixOf?_eq_some_iff_append_eq]
  unfold retype
  rw [hstart]
  dsimp only
  rw [if_pos (isBracketPairs_iff.2 ⟨n, rfl⟩), String.ofList_toList]

/-- Every other token stays. -/
theorem retype_of_ne {token : String} (h : ∀ n, token ≠ "BigNumber" ++ bracketPairs n) :
    retype token = token := by
  unfold retype
  split
  · rename_i cs hstart
    rw [List.isPrefixOf?_eq_some_iff_append_eq] at hstart
    rw [if_neg]
    intro hpairs
    obtain ⟨n, rfl⟩ := isBracketPairs_iff.1 hpairs
    refine h n (String.ext ?_)
    rw [String.toList_append, hstart]
  · rfl

/-- What brackets are behind does not end in a bracket. -/
def IsBase (base : String) : Prop :=
  base.toList.getLast? ≠ some ']'

theorem isBase_bigNumber : IsBase "BigNumber" := by
  simp [IsBase]

theorem isBase_bigint : IsBase "bigint" := by
  simp [IsBase]

/-- What becomes of a token without dimensions. -/
def retypeBase (base : String) : String :=
  if base = "BigNumber" then "bigint" else base

/-- The base of a token decides what becomes of it. -/
theorem retype_append {base : String} (hbase : IsBase base) (n : Nat) :
    retype (base ++ bracketPairs n) = retypeBase base ++ bracketPairs n := by
  unfold retypeBase
  by_cases h : base = "BigNumber"
  · rw [if_pos h, h, retype_bigNumber]
  · rw [if_neg h]
    refine retype_of_ne fun m heq => h ?_
    exact (append_bracketPairs_inj hbase isBase_bigNumber heq).1

/-- A token that the newer dialect has and the older one lacks. -/
def IsBigint (token : String) : Prop :=
  ∃ n, token = "bigint" ++ bracketPairs n

theorem not_isBigint_append {base : String} (hbase : IsBase base) (hne : base ≠ "bigint")
    (n : Nat) : ¬ IsBigint (base ++ bracketPairs n) := by
  rintro ⟨m, heq⟩
  exact hne (append_bracketPairs_inj hbase isBase_bigint heq).1

/-- Distinct tokens of the older dialect stay distinct. -/
theorem retype_injOn {a b : String} (ha : ¬ IsBigint a) (hb : ¬ IsBigint b)
    (h : retype a = retype b) : a = b := by
  by_cases hbig : ∃ n, a = "BigNumber" ++ bracketPairs n
  · obtain ⟨n, rfl⟩ := hbig
    rw [retype_bigNumber] at h
    by_cases hbig' : ∃ m, b = "BigNumber" ++ bracketPairs m
    · obtain ⟨m, rfl⟩ := hbig'
      rw [retype_bigNumber] at h
      rw [(append_bracketPairs_inj isBase_bigint isBase_bigint h).2]
    · rw [retype_of_ne (not_exists.1 hbig')] at h
      exact absurd ⟨n, h.symm⟩ hb
  · rw [retype_of_ne (not_exists.1 hbig)] at h
    by_cases hbig' : ∃ m, b = "BigNumber" ++ bracketPairs m
    · obtain ⟨m, rfl⟩ := hbig'
      rw [retype_bigNumber] at h
      exact absurd ⟨m, h⟩ ha
    · rw [retype_of_ne (not_exists.1 hbig')] at h
      exact h

/-- The tokens that the older and the newer dialect have for one type in a role. -/
structure TokenRetyped (role : Role) (token token' : String) : Prop where
  eq_retype : token' = retype token
  not_isBigint : ¬ IsBigint token
  /-- What is passed to a call or an event is written alike in both dialects. -/
  eq_of_ne : role ≠ .response → token' = token

theorem tokenRetyped_append {role : Role} {base : String} (hbase : IsBase base)
    (hnew : base ≠ "bigint") (hinput : role ≠ .response → base ≠ "BigNumber") (n : Nat) :
    TokenRetyped role (base ++ bracketPairs n) (retypeBase base ++ bracketPairs n) where
  eq_retype := (retype_append hbase n).symm
  not_isBigint := not_isBigint_append hbase hnew n
  eq_of_ne hrole := by rw [retypeBase, if_neg (hinput hrole)]

/-- A base that is none of the two integers stays as it is. -/
theorem tokenRetyped_same (role : Role) {base : String} (hbase : IsBase base)
    (hnew : base ≠ "bigint") (hold : base ≠ "BigNumber") (n : Nat) :
    TokenRetyped role (base ++ bracketPairs n) (base ++ bracketPairs n) := by
  have hinput : role ≠ .response → base ≠ "BigNumber" := fun _ => hold
  have h := tokenRetyped_append hbase hnew hinput n
  rwa [retypeBase, if_neg hold] at h

/-- The name of a record is the same in both dialects. -/
theorem tokenRetyped_name {role : Role} {name : String} (hname : role.Names name) (n : Nat) :
    TokenRetyped role (name ++ bracketPairs n) (name ++ bracketPairs n) := by
  refine tokenRetyped_same role hname.getLast?_ne ?_ ?_ n
  · rintro rfl
    exact absurd hname.mem_R (by decide)
  · rintro rfl
    exact absurd hname.mem_R (by decide)

theorem tokenRetyped_toString (role : Role) (n : Nat) :
    TokenRetyped role (toString n) (toString n) := by
  have hdigits : ∀ c ∈ (toString n).toList, c.isDigit := fun c hc => isDigit_of_mem_toString hc
  have hbase : IsBase (toString n) := by
    intro hlast
    exact absurd (hdigits _ (List.mem_of_getLast? hlast)) (by decide)
  have hne : ∀ text : String, (∃ c ∈ text.toList, ¬ c.isDigit) → toString n ≠ text := by
    rintro text ⟨c, hc, hdigit⟩ rfl
    exact hdigit (hdigits c hc)
  have h := tokenRetyped_same role hbase (hne _ ⟨'b', by decide, by decide⟩)
    (hne _ ⟨'B', by decide, by decide⟩) 0
  rwa [show bracketPairs 0 = "" from rfl, String.append_empty] at h

/-! ## Elementary types -/

theorem arrayToken_of_not_mem {token : String} (h : '|' ∉ token.toList) (dims : List Dimension) :
    arrayToken token dims = token ++ bracketPairs dims.length := by
  rw [arrayToken_eq_leafToken, leafToken, if_neg fun hunion => h hunion.2]

/-- The tokens of the older dialect are single words, and inputs have no `BigNumber` among them. -/
theorem Elementary.word_of_token? {type : Elementary} {side : Side} {base : String}
    (h : type.token? Dialect.ethersV5.profile side = some base) :
    '|' ∉ base.toList ∧ IsBase base ∧ base ≠ "bigint" ∧ (side = .input → base ≠ "BigNumber") := by
  unfold IsBase
  cases type <;> cases side <;> simp [token?, Dialect.profile] at h <;> subst h <;> decide

/-- The tokens of the newer dialect are those of the older one, but for integers. -/
theorem Elementary.token?_ethersV6 (type : Elementary) (side : Side) :
    type.token? Dialect.ethersV6.profile side =
      (type.token? Dialect.ethersV5.profile side).map retypeBase := by
  cases type <;> cases side <;> simp [token?, Dialect.profile, retypeBase]

/-- An elementary type has tokens in step, under any dimensions. -/
theorem tokenRetyped_arrayToken {role : Role} {type : Elementary} {base : String}
    (h : type.token? Dialect.ethersV5.profile role.side = some base) (dims : List Dimension) :
    TokenRetyped role (arrayToken base dims) (arrayToken (retypeBase base) dims) := by
  obtain ⟨hunion, hbase, hnew, hinput⟩ := Elementary.word_of_token? h
  have hunion' : '|' ∉ (retypeBase base).toList := by
    unfold retypeBase
    split
    · decide
    · exact hunion
  rw [arrayToken_of_not_mem hunion, arrayToken_of_not_mem hunion']
  refine tokenRetyped_append hbase hnew (fun hrole => hinput ?_) _
  cases role with
  | response => exact absurd rfl hrole
  | request => rfl
  | event => rfl

/-! ## Fields and records -/

/-- A field with the token of the newer dialect. -/
def Field.retyped (field : Field) : Field :=
  ⟨field.key, retype field.type⟩

/-- A record with the tokens of the newer dialect. -/
def Record.retyped (record : Record) : Record :=
  ⟨record.name, record.role, record.fields.map Field.retyped⟩

/-- The fields that the older and the newer dialect have in a role. -/
def FieldsRetyped (role : Role) : List Field → List Field → Prop :=
  List.Forall₂ fun field field' =>
    field'.key = field.key ∧ TokenRetyped role field.type field'.type

namespace FieldsRetyped

variable {role : Role} {fields fields' : List Field}

theorem eq_map (h : FieldsRetyped role fields fields') : fields' = fields.map Field.retyped := by
  induction h with
  | nil => rfl
  | @cons field field' fields fields' hfield _ ih =>
    obtain ⟨hkey, htype⟩ := hfield
    rw [List.map_cons, ← ih, Field.retyped, ← hkey, ← htype.eq_retype]

/-- Fields other than those of responses are the same in both dialects. -/
theorem eq_of_ne (h : FieldsRetyped role fields fields') (hrole : role ≠ .response) :
    fields' = fields := by
  induction h with
  | nil => rfl
  | @cons field field' fields fields' hfield _ ih =>
    obtain ⟨key, type⟩ := field
    obtain ⟨key', type'⟩ := field'
    obtain ⟨hkey, htype⟩ := hfield
    obtain rfl : key' = key := hkey
    obtain rfl : type' = type := htype.eq_of_ne hrole
    rw [ih]

theorem not_isBigint (h : FieldsRetyped role fields fields') :
    ∀ field ∈ fields, ¬ IsBigint field.type := by
  induction h with
  | nil => exact fun field hmem => absurd hmem List.not_mem_nil
  | cons hfield _ ih =>
    intro other hmem
    obtain rfl | hrest := List.mem_cons.1 hmem
    · exact hfield.2.not_isBigint
    · exact ih other hrest

theorem append {others others' : List Field} (h : FieldsRetyped role fields fields')
    (hothers : FieldsRetyped role others others') :
    FieldsRetyped role (fields ++ others) (fields' ++ others') :=
  List.rel_append h hothers

end FieldsRetyped

theorem fieldsRetyped_siblingFields (aliases : Bool) (role : Role) (index : Nat) (ps : List Param)
    {types types' : List String} (h : List.Forall₂ (TokenRetyped role) types types') :
    FieldsRetyped role (siblingFields aliases role index ps types)
      (siblingFields aliases role index ps types') := by
  induction h generalizing index ps with
  | nil => cases ps <;> exact .nil
  | @cons type type' types types' htype _ ih =>
    cases ps with
    | nil => exact .nil
    | cons p ps =>
      rw [siblingFields, siblingFields]
      refine FieldsRetyped.append ?_ (ih (index + 1) ps)
      cases aliases with
      | true => exact .cons ⟨rfl, htype⟩ (.cons ⟨rfl, htype⟩ .nil)
      | false => exact .cons ⟨rfl, htype⟩ .nil

/-- Lists of fields of the older dialect that become the same are the same. -/
theorem map_retyped_injOn {fields others : List Field}
    (hfields : ∀ field ∈ fields, ¬ IsBigint field.type)
    (hothers : ∀ field ∈ others, ¬ IsBigint field.type)
    (h : fields.map Field.retyped = others.map Field.retyped) : fields = others := by
  induction fields generalizing others with
  | nil => exact (List.map_eq_nil_iff.1 h.symm).symm
  | cons field fields ih =>
    cases others with
    | nil => cases h
    | cons other others =>
      rw [List.forall_mem_cons] at hfields hothers
      rw [List.map_cons, List.map_cons, List.cons.injEq] at h
      obtain ⟨hhead, htail⟩ := h
      obtain ⟨hkey, htype⟩ := Field.mk.inj hhead
      obtain ⟨key, type⟩ := field
      obtain ⟨key', type'⟩ := other
      obtain rfl : key = key' := hkey
      obtain rfl : type = type' := retype_injOn hfields.1 hothers.1 htype
      rw [ih hfields.2 hothers.2 htail]

end AbiTypings
