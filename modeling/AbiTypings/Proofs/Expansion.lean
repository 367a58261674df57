import AbiTypings.Proofs.FirstFault
import AbiTypings.Proofs.TypeTree
import AbiTypings.Proofs.Written

/-!
# Tokens expand to what parameters spell

A token is made while the registry is still growing: the records it leads to may be shared with
other members, may have been renumbered, and are followed by many more.  The trees of
`AbiTypings.Proofs.TypeTree` say that nothing of this matters in the end.

* **Parameters** — `Param.WrittenAs.spells`: the token that a parameter is written as, over whatever
  list of records the registry ends up in, expands to the tree that the parameter spells.  The
  induction is over the nesting of parameters; that a record is never taken back or changed once it
  is registered is in `Param.WrittenAs.mono`.
* **Members** — `Member.StandsInMethod` and `Member.StandsInFilter` say where the tokens of a
  member's parameters are found in its method or filter.
* **Bindings** — `Bindings.stands_in`: in finished bindings this holds of every member, and no token
  expands to a second tree.
-/

namespace AbiTypings

/-- A parameter spells the tree that its token expands to. -/
def Param.Spells (profile : Profile) (role : Role) (records : List Record) (p : Param)
    (token : String) : Prop :=
  ∃ tree, p.tree? profile role = some tree ∧ Expands records token tree

section Spells

variable {profile : Profile} {role : Role} {records : List Record}

theorem FieldsExpand.append {fields fields' : List Field} {trees trees' : List (String × TypeTree)}
    (h : FieldsExpand records fields trees) (h' : FieldsExpand records fields' trees') :
    FieldsExpand records (fields ++ fields') (trees ++ trees') := by
  induction fields generalizing trees with
  | nil =>
    cases h
    exact h'
  | cons field fields ih =>
    obtain _ | ⟨head, tail⟩ := h
    exact .cons head (ih tail)

theorem fieldsExpand_paramFields {token : String} {tree : TypeTree}
    (h : Expands records token tree) (index : Nat) (p : Param) :
    FieldsExpand records (paramFields (profile.aliases role) role index p token)
      (componentEntries profile role index p tree) := by
  have haliases : profile.aliases role = true ↔ role = .response ∧ profile.positionalAliases := by
    simp [Profile.aliases]
  unfold paramFields componentEntries
  by_cases hrole : role = .response ∧ profile.positionalAliases
  · rw [if_pos (haliases.2 hrole), if_pos hrole]
    exact .cons h (.cons h .nil)
  · rw [if_neg (mt haliases.1 hrole), if_neg hrole]
    exact .cons h .nil

/-- Fields of siblings expand to the trees of the siblings, aliases included. -/
theorem fieldsExpand_siblingFields {ps : List Param} {types : List String}
    (h : List.Forall₂ (Param.Spells profile role records) ps types) (index : Nat) :
    ∃ trees, componentTrees? profile role index ps = some trees ∧
      FieldsExpand records (siblingFields (profile.aliases role) role index ps types) trees := by
  induction h generalizing index with
  | nil => exact ⟨[], rfl, .nil⟩
  | @cons p token ps types hp _ ih =>
    obtain ⟨tree, htree, hexpands⟩ := hp
    obtain ⟨trees, htrees, hfields⟩ := ih (index + 1)
    refine ⟨componentEntries profile role index p tree ++ trees, ?_, ?_⟩
    · rw [componentTrees?, htree, Option.bind_some, htrees, Option.map_some]
    · exact (fieldsExpand_paramFields hexpands index p).append hfields

end Spells

/-! ## Tokens of parameters -/

section Tokens

variable {profile : Profile} {role : Role} {records : List Record}

mutual

/-- What is written over records stands for the tree that the parameter spells. -/
theorem Param.WrittenAs.spells (hplain : profile.Plain)
    (hnamed : ∀ record ∈ records, record.role.Names record.name) :
    ∀ {p : Param} {token : String}, p.WrittenAs profile role records token →
      p.Spells profile role records token
  | _, _, @Param.WrittenAs.plain _ _ _ _ _ base _ _ type _ tag isElementary token => by
    have hleaf : 'R' ∉ (arrayToken base type.dims).toList :=
      not_mem_R_arrayToken (hplain _ _ _ token) _
    refine ⟨.leaf (leafToken base type.dims.length), ?_, ?_⟩
    · simp [Param.tree?, tag, isElementary, token]
    · rw [← arrayToken_eq_leafToken]
      exact Expands.leaf_of_not_mem_R hnamed hleaf
  | _, _, @Param.WrittenAs.composite _ _ _ _ _ ps _ _ type types record tag isTuple components mem
      shape => by
    have hfields : record.fields = siblingFields (profile.aliases role) role 0 ps types :=
      congrArg Shape.fields shape
    obtain ⟨trees, htrees, hexpand⟩ :=
      fieldsExpand_siblingFields (components.spells hplain hnamed) 0
    refine ⟨.composite type.dims.length trees, ?_, ?_⟩
    · simp [Param.tree?, tag, isTuple, htrees]
    · rw [brackets_eq_bracketPairs]
      rw [← hfields] at hexpand
      exact .composite type.dims.length mem hexpand

/-- Tokens of siblings expand to the trees of the siblings. -/
theorem WrittenAll.spells (hplain : profile.Plain)
    (hnamed : ∀ record ∈ records, record.role.Names record.name) :
    ∀ {ps : List Param} {types : List String}, WrittenAll profile role records ps types →
      List.Forall₂ (Param.Spells profile role records) ps types
  | _, _, .nil => .nil
  | _, _, .cons head tail => .cons (head.spells hplain hnamed) (tail.spells hplain hnamed)

end

end Tokens

/-! ## Members -/

/-- The tokens of parameters, in order, expand to the trees that the parameters spell, and to no
other trees. -/
def SpellExactly (profile : Profile) (role : Role) (records : List Record) (ps : List Param)
    (tokens : List String) : Prop :=
  List.Forall₂ (fun p token => ∃ tree, p.tree? profile role = some tree ∧
    ∀ t, Expands records token t ↔ t = tree) ps tokens

/-- The outputs of a function that only reads stand in what it returns: a single output as the
type that is returned, and several outputs as the fields of the record that is returned. -/
def OutputsStandIn (profile : Profile) (records : List Record) (outputs : List Param)
    (returns : String) : Prop :=
  match outputs with
  | [] => True
  | [output] => ∃ token, returns = wrapResult profile .readOnly (.value token) ∧
      SpellExactly profile .response records [output] [token]
  | outputs => ∃ tokens, ∃ record ∈ records,
      returns = wrapResult profile .readOnly (.value record.name) ∧ record.role = .response ∧
      record.fields = siblingFields (profile.aliases .response) .response 0 outputs tokens ++
        lengthFields profile outputs ∧
      SpellExactly profile .response records outputs tokens

/-- The parameters of a member stand in its method. -/
def Member.StandsInMethod (profile : Profile) (records : List Record) :
    Member → Method → Prop
  | constructor inputs _, method =>
    SpellExactly profile .request records inputs (method.params.map Field.type)
  | function _ inputs outputs traits, method =>
    SpellExactly profile .request records inputs (method.params.map Field.type) ∧
      (traits.effect = .readOnly → OutputsStandIn profile records outputs method.returns)
  | event .., _ | nonCallable .., _ => False

/-- The inputs of an event stand in its filter. -/
def Member.StandsInFilter (profile : Profile) (records : List Record) :
    Member → EventFilter → Prop
  | event _ inputs _, filter =>
    SpellExactly profile .event records inputs (filter.params.map EventParam.type)
  | constructor .., _ | function .., _ | nonCallable .., _ => False

section Bindings

variable {profile : Profile} {role : Role} {ps : List Param} {types : List String} {t : Registry}

theorem spellExactly_of_spells {records : List Record}
    (hunique : ∀ {token : String} {t t' : TypeTree}, Expands records token t →
      Expands records token t' → t = t')
    (h : List.Forall₂ (Param.Spells profile role records) ps types) :
    SpellExactly profile role records ps types := by
  refine h.imp ?_
  rintro p token ⟨tree, htree, hexpands⟩
  refine ⟨tree, htree, fun t => ⟨fun ht => hunique ht hexpands, ?_⟩⟩
  rintro rfl
  exact hexpands

/-- In a registry, a token has one tree only. -/
theorem Registry.WellFormed.expands_unique (hwf : t.WellFormed) (hnamed : t.Named)
    {token : String} {tree tree' : TypeTree} (h : Expands t.records token tree)
    (h' : Expands t.records token tree') : tree = tree' :=
  Expands.unique (fun _ ha _ hb => hwf.eq_of_name_eq ha hb)
    (fun record hmem => (hnamed record hmem).getLast?_ne) h h'

/-- Tokens of siblings expand to the trees of the siblings, and to no others. -/
theorem WrittenAll.spellExactly (hplain : profile.Plain) (ht : t.WellFormed) (hnamed : t.Named)
    (h : WrittenAll profile role t.records ps types) :
    SpellExactly profile role t.records ps types :=
  spellExactly_of_spells (ht.expands_unique hnamed) (h.spells hplain hnamed)

/-- What is returned expands to the trees of the outputs. -/
theorem WrittenResult.outputsStandIn {outputs : List Param} {result : Result}
    (hplain : profile.Plain) (ht : t.WellFormed) (hnamed : t.Named)
    (h : WrittenResult profile t.records .readOnly outputs result) :
    OutputsStandIn profile t.records outputs (wrapResult profile .readOnly result) := by
  match outputs with
  | [] => trivial
  | [output] =>
    obtain ⟨token, rfl, hwritten⟩ := h
    have hone : WrittenAll profile .response t.records [output] [token] := .cons hwritten .nil
    exact ⟨token, rfl, hone.spellExactly hplain ht hnamed⟩
  | first :: second :: others =>
    unfold WrittenResult at h
    dsimp only at h
    rw [if_pos rfl] at h
    obtain ⟨record, hmem, rfl, types, hwritten, hshape⟩ := h
    exact ⟨types, record, hmem, rfl, congrArg Shape.role hshape, congrArg Shape.fields hshape,
      hwritten.spellExactly hplain ht hnamed⟩

end Bindings

/-- A method stands in for its member over all records that are ever registered after it. -/
theorem standsInMethod_of_run {profile : Profile} (hplain : profile.Plain) {m : Member}
    {action : Registering Method} {method : Method} {r s t : Registry} (hr : r.WellFormed)
    (ht : t.WellFormed) (hnamed : t.Named) (haction : m.method? profile = some action)
    (hrun : action.run r = (.ok method, s)) (hsub : s.records ⊆ t.records) :
    m.StandsInMethod profile t.records method := by
  have hwritten := (m.writtenInMethod_of_run hr haction hrun).mono hsub
  cases m with
  | constructor inputs traits => exact hwritten.1.spellExactly hplain ht hnamed
  | function name inputs outputs traits =>
    obtain ⟨hinputs, -, result, hresult, hreturns⟩ := hwritten
    refine ⟨hinputs.spellExactly hplain ht hnamed, fun heffect => ?_⟩
    rw [heffect] at hresult hreturns
    rw [hreturns]
    exact hresult.outputsStandIn hplain ht hnamed
  | event name inputs anonymous => cases haction
  | nonCallable kind name => cases haction

theorem standsInFilter_of_run {profile : Profile} (hplain : profile.Plain) {m : Member}
    {action : Registering EventFilter} {filter : EventFilter} {r s t : Registry}
    (hr : r.WellFormed) (ht : t.WellFormed) (hnamed : t.Named)
    (haction : m.filter? profile = some action) (hrun : action.run r = (.ok filter, s))
    (hsub : s.records ⊆ t.records) : m.StandsInFilter profile t.records filter := by
  have hwritten := (m.writtenInFilter_of_run hr haction hrun).mono hsub
  cases m with
  | event name inputs anonymous => exact hwritten.1.spellExactly hplain ht hnamed
  | constructor inputs traits => cases haction
  | function name inputs outputs traits => cases haction
  | nonCallable kind name => cases haction

/-! ## Bindings -/

/-- **Names lose nothing.**  Wherever a parameter of a member is used, its token, expanded through
the records of the finished bindings, is the tree that the parameter spells: sharing records between
members, renumbering taken names and registering further records change none of them. -/
theorem Bindings.stands_in {options : Options} {ms : List Member} {b : Bindings}
    (h : Bindings.ofMembers options ms = .ok b) :
    List.Forall₂ (Member.StandsInMethod options.dialect.profile b.records)
        (ms.filter Member.isMethod) b.methods ∧
      List.Forall₂ (Member.StandsInFilter options.dialect.profile b.records)
        (ms.filter Member.isEvent) b.events := by
  have hplain := options.dialect.plain_profile
  obtain ⟨t, hreach, hrecords⟩ := exists_registry_of_ofMembers h
  have ht : t.WellFormed := hreach.wellFormed Registry.wellFormed_empty
  have hnamed : t.Named := hreach.named
  refine forall₂_of_ofMembers h ?_ ?_
  · intro m _ action method r s haction hr hrun hsub
    rw [hrecords] at hsub ⊢
    exact standsInMethod_of_run hplain hr ht hnamed haction hrun hsub
  · intro m _ action filter r s haction hr hrun hsub
    rw [hrecords] at hsub ⊢
    exact standsInFilter_of_run hplain hr ht hnamed haction hrun hsub

/-- A function and an event with points in them, one of which goes without the name. -/
def pointMembers : List Member :=
  let x (typeTag : String) : Param := ⟨"x", typeTag, none, none, false⟩
  [.function "move"
      [⟨"from", "tuple", some [x "uint256"], some "struct Point", false⟩,
        ⟨"path", "tuple[2][]", some [x "uint8"], none, false⟩]
      [⟨"", "bool", none, none, false⟩, ⟨"", "bytes[]", none, none, false⟩]
      (.ofMutability .view),
    .event "Moved" [⟨"to", "tuple", some [x "uint256"], some "struct Point", true⟩] false]

theorem Bindings.stands_in_pointMembers :
    ∃ b, Bindings.ofMembers ⟨.ethersV6, none, none⟩ pointMembers = .ok b ∧
      List.Forall₂ (Member.StandsInMethod Dialect.ethersV6.profile b.records)
        (pointMembers.filter Member.isMethod) b.methods ∧
      List.Forall₂ (Member.StandsInFilter Dialect.ethersV6.profile b.records)
        (pointMembers.filter Member.isEvent) b.events := by
  have hgood : ∀ visit ∈ pointMembers.flatMap Member.visits, ¬ visit.param.isBad := by
    decide
  obtain ⟨b, hb⟩ := exists_ofMembers ⟨.ethersV6, none, none⟩ hgood
  exact ⟨b, hb, stands_in hb⟩

end AbiTypings
