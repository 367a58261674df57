import AbiTypings.Proofs.Building
import AbiTypings.Proofs.TypeTree

/-!
# Records name earlier records of their own role

Reading the types of a record leads to other records, and from these to further ones.  This module
says where that can lead: only to records that were registered before, and only to records of the
same role.  So it always comes to an end, and a request never turns out to be part of a response.
Members that fail do not matter: what they leave behind is of the same kind.

* **Tokens** — `IsElementaryToken`, `IsOutputCount` and `NamesRecord` are the three things that the
  type of a field can be.  `BuiltFrom.field_cases`: at every position of records in order, it is one
  of them, and only records before that position are named.
* **Members** — `Member.ClosedMethod` and `Member.ClosedFilter`: composite parameters stand in
  methods and filters as names of records of the role in which they are used.
* **Runs that go on** — `Bindings.closed_of_bindAll` puts these together for any members, sound or
  not.
-/

namespace AbiTypings

/-! ## Tokens -/

/-- The token of an elementary type on the side of a role, under any number of dimensions. -/
def IsElementaryToken (profile : Profile) (role : Role) (token : String) : Prop :=
  ∃ (type : Elementary) (base : String) (dims : List Dimension),
    type.token? profile role.side = some base ∧ token = arrayToken base dims

/-- The name of one of some records, which has the given role, and any number of brackets. -/
def NamesRecord (records : List Record) (role : Role) (token : String) : Prop :=
  ∃ record ∈ records, record.role = role ∧ ∃ depth, token = record.name ++ bracketPairs depth

/-- The last field of a response, which holds the number of its outputs. -/
def IsOutputCount (record : Record) (field : Field) : Prop :=
  record.role = .response ∧ record.fields.getLast? = some field ∧
    ∃ n : Nat, field = ⟨"length", toString n⟩

/-- The token of a parameter names a record if the parameter is composite, and is elementary
otherwise. -/
def Param.HasToken (profile : Profile) (role : Role) (records : List Record) (p : Param)
    (token : String) : Prop :=
  if p.isComposite then NamesRecord records role token else IsElementaryToken profile role token

section Tokens

variable {profile : Profile} {role : Role} {records : List Record}

theorem Param.WrittenAs.hasToken {p : Param} {token : String}
    (h : p.WrittenAs profile role records token) : p.HasToken profile role records token := by
  cases h with
  | plain _ _ htoken => exact ⟨_, _, _, htoken, rfl⟩
  | composite _ _ _ hmem hshape =>
    rw [brackets_eq_bracketPairs]
    exact ⟨_, hmem, congrArg Shape.role hshape, _, rfl⟩

/-- A token is that of an elementary type or names a record. -/
theorem Param.HasToken.cases {p : Param} {token : String}
    (h : p.HasToken profile role records token) :
    IsElementaryToken profile role token ∨ NamesRecord records role token := by
  unfold HasToken at h
  split at h
  · exact Or.inr h
  · exact Or.inl h

theorem WrittenAll.hasToken {ps : List Param} {types : List String}
    (h : WrittenAll profile role records ps types) :
    List.Forall₂ (Param.HasToken profile role records) ps types :=
  (writtenAll_iff_forall₂.1 h).imp fun _ _ hp => hp.hasToken

theorem WrittenAll.token_cases {ps : List Param} {types : List String}
    (h : WrittenAll profile role records ps types) :
    ∀ token ∈ types, IsElementaryToken profile role token ∨ NamesRecord records role token := by
  induction ps generalizing types with
  | nil =>
    cases h
    exact fun token hmem => absurd hmem List.not_mem_nil
  | cons p ps ih =>
    obtain _ | ⟨head, tail⟩ := h
    intro token hmem
    obtain rfl | hrest := List.mem_cons.1 hmem
    · exact head.hasToken.cases
    · exact ih tail token hrest

end Tokens

/-! ## Fields -/

section Fields

variable {profile : Profile}

/-- The types of the fields of siblings are the tokens they are made from. -/
theorem type_mem_of_mem_siblingFields {aliases : Bool} {role : Role} {index : Nat}
    {ps : List Param} {types : List String} {field : Field}
    (h : field ∈ siblingFields aliases role index ps types) : field.type ∈ types := by
  induction ps generalizing index types with
  | nil => exact absurd h List.not_mem_nil
  | cons p ps ih =>
    cases types with
    | nil => exact absurd h List.not_mem_nil
    | cons type types =>
      rw [siblingFields, List.mem_append] at h
      obtain hfirst | hrest := h
      · have htype : field.type = type := by
          unfold paramFields at hfirst
          split at hfirst
          · obtain rfl | hfirst := List.mem_cons.1 hfirst
            · rfl
            · rw [List.mem_singleton.1 hfirst]
          · rw [List.mem_singleton.1 hfirst]
        exact htype ▸ List.mem_cons_self
      · exact List.mem_cons_of_mem _ (ih hrest)

/-- What the type of a field can be, in a record that some siblings yield. -/
theorem RecordBody.Yields.field_cases {records : List Record} {body : RecordBody}
    {record : Record} (h : body.Yields profile records record)
    (hcounted : body.counted → body.role = .response) {field : Field}
    (hfield : field ∈ record.fields) :
    IsElementaryToken profile record.role field.type ∨ IsOutputCount record field ∨
      NamesRecord records record.role field.type := by
  obtain ⟨types, hwritten, hshape⟩ := h
  have hrole : record.role = body.role := congrArg Shape.role hshape
  have hfields : record.fields = body.fields profile types := congrArg Shape.fields hshape
  rw [hfields, RecordBody.fields, List.mem_append] at hfield
  obtain hsibling | hlength := hfield
  · rw [hrole]
    obtain helementary | hnames :=
      hwritten.token_cases _ (type_mem_of_mem_siblingFields hsibling)
    · exact Or.inl helementary
    · exact Or.inr (Or.inr hnames)
  · refine Or.inr (Or.inl ?_)
    split at hlength
    · rename_i hcount
      unfold lengthFields at hlength
      split at hlength
      · rename_i haliases
        rw [List.mem_singleton] at hlength
        refine ⟨hrole.trans (hcounted hcount), ?_, body.params.length, hlength⟩
        rw [hfields, RecordBody.fields, if_pos hcount, lengthFields, if_pos haliases, hlength,
          List.getLast?_concat]
      · exact absurd hlength List.not_mem_nil
    · exact absurd hlength List.not_mem_nil

/-- Records in order name nothing but earlier records of their own role. -/
theorem BuiltFrom.field_cases {ms : List Member} {records : List Record}
    (h : BuiltFrom profile (ms.flatMap Member.bodies) records) {i : Nat} {record : Record}
    (hi : records[i]? = some record) {field : Field} (hfield : field ∈ record.fields) :
    IsElementaryToken profile record.role field.type ∨ IsOutputCount record field ∨
      NamesRecord (records.take i) record.role field.type := by
  obtain ⟨body, hbody, hyields⟩ := h.yields hi
  obtain ⟨m, -, hm⟩ := List.mem_flatMap.1 hbody
  exact hyields.field_cases (Member.role_of_counted hm) hfield

end Fields

/-! ## Members -/

/-- What a function that only reads returns: a single output as its token, and several outputs as
the name of a record. -/
def ReturnsToken (profile : Profile) (records : List Record) (outputs : List Param)
    (returns : String) : Prop :=
  match outputs with
  | [] => returns = wrapResult profile .readOnly .void
  | [output] => ∃ token, returns = wrapResult profile .readOnly (.value token) ∧
      output.HasToken profile .response records token
  | _ => ∃ token, returns = wrapResult profile .readOnly (.value token) ∧
      NamesRecord records .response token

/-- The tokens in the method of a member: composite inputs name records of requests, and what is
returned by a call that only reads names records of responses. -/
def Member.ClosedMethod (profile : Profile) (records : List Record) (m : Member)
    (method : Method) : Prop :=
  List.Forall₂ (Param.HasToken profile .request records) m.inputs
      (method.params.map Field.type) ∧
    (method.effect = .readOnly → ReturnsToken profile records m.outputs method.returns)

/-- The tokens in the filter of an event: composite inputs name records of events. -/
def Member.ClosedFilter (profile : Profile) (records : List Record) (m : Member)
    (filter : EventFilter) : Prop :=
  List.Forall₂ (Param.HasToken profile .event records) m.inputs
    (filter.params.map EventParam.type)

section Members

variable {profile : Profile} {records : List Record} {m : Member}

/-- What a call that only reads returns is written by the tokens of its outputs. -/
theorem WrittenResult.returnsToken {outputs : List Param} {result : Result}
    (h : WrittenResult profile records .readOnly outputs result) :
    ReturnsToken profile records outputs (wrapResult profile .readOnly result) := by
  match outputs with
  | [] =>
    obtain rfl : result = .void := h
    rfl
  | [output] =>
    obtain ⟨token, rfl, hwritten⟩ := h
    exact ⟨token, rfl, hwritten.hasToken⟩
  | first :: second :: others =>
    unfold WrittenResult at h
    dsimp only at h
    rw [if_pos rfl] at h
    obtain ⟨record, hmem, rfl, types, -, hshape⟩ := h
    exact ⟨record.name, rfl, record, hmem, congrArg Shape.role hshape, 0,
      (String.append_empty).symm⟩

/-- A constructor changes the state, whatever it declares. -/
theorem constructorEffect_ne_readOnly (traits : CallTraits) :
    constructorEffect traits ≠ .readOnly := by
  unfold constructorEffect
  split <;> decide

/-- A method names only records that are there. -/
theorem Member.WrittenInMethod.closedMethod {method : Method}
    (h : m.WrittenInMethod profile records method) : m.ClosedMethod profile records method := by
  cases m with
  | constructor inputs traits =>
    obtain ⟨hinputs, heffect⟩ := h
    refine ⟨hinputs.hasToken, fun hreads => ?_⟩
    exact absurd (heffect.symm.trans hreads) (constructorEffect_ne_readOnly traits)
  | function name inputs outputs traits =>
    obtain ⟨hinputs, heffect, result, hresult, hreturns⟩ := h
    refine ⟨hinputs.hasToken, fun hreads => ?_⟩
    rw [← heffect, hreads] at hresult hreturns
    rw [hreturns]
    exact hresult.returnsToken
  | event name inputs anonymous => exact h.elim
  | nonCallable kind name => exact h.elim

theorem Member.WrittenInFilter.closedFilter {filter : EventFilter}
    (h : m.WrittenInFilter profile records filter) : m.ClosedFilter profile records filter := by
  cases m with
  | event name inputs anonymous => exact h.1.hasToken
  | constructor inputs traits => exact h.elim
  | function name inputs outputs traits => exact h.elim
  | nonCallable kind name => exact h.elim

end Members

/-! ## Runs that go on -/

/-- **Records are closed and never mix roles.**  Let any members be bound one after the other, for
any dialect, going on after each that fails.  The type of a field of a record is the token of an
elementary type, or the number of outputs at the end of a response, or the name of a record of the
same role that stands before it, with brackets behind it.  The methods and filters are those of the
members that do not fail, in order, and every composite parameter stands in them as the name of a
record of its role: that of requests for what is passed to a call, that of responses for what a call
returns that only reads, and that of events for the inputs of an event. -/
theorem Bindings.closed_of_bindAll (options : Options) (ms : List Member) :
    let profile := options.dialect.profile
    let b := (Compilation.bindAll profile {} ms).bindings options
    (∀ (i : Nat) (record : Record), b.records[i]? = some record → ∀ field ∈ record.fields,
        IsElementaryToken profile record.role field.type ∨ IsOutputCount record field ∨
          NamesRecord (b.records.take i) record.role field.type) ∧
      List.Forall₂ (Member.ClosedMethod profile b.records)
        ((ms.filter Member.isSound).filter Member.isMethod) b.methods ∧
      List.Forall₂ (Member.ClosedFilter profile b.records)
        ((ms.filter Member.isSound).filter Member.isEvent) b.events := by
  intro profile b
  have hbuilt : (Compilation.bindAll profile {} ms).registry.Built profile
      (ms.flatMap Member.bodies) :=
    Compilation.built_bindAll (List.Subset.refl _) (.empty profile _)
  obtain ⟨methods, events, hmethods, hevents, hwritten, hwritten'⟩ :=
    Compilation.written_bindAll profile {} ms Registry.wellFormed_empty
  rw [List.nil_append] at hmethods hevents
  refine ⟨fun i record hi field hfield => hbuilt.builtFrom.field_cases hi hfield, ?_, ?_⟩
  · rw [← hmethods] at hwritten
    exact hwritten.imp fun _ _ h => h.closedMethod
  · rw [← hevents] at hwritten'
    exact hwritten'.imp fun _ _ h => h.closedFilter

end AbiTypings
