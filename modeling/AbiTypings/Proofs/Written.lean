import AbiTypings.Proofs.RecordBodies

/-!
# How parameters are written

The token of a parameter is either that of an elementary type, or the name of a record whose fields
are written in the same way, one level down.  `Param.WrittenAs` says this of a parameter and a token
over a list of records, and reads nothing else: not the registry that the records come from, nor
the names that were asked for.

* **Growth** — `Param.WrittenAs.mono`: what is written over some records is written over more.
* **Runs** — `writtenAs_of_run`, `Member.writtenInMethod_of_run` and their like: whatever succeeds
  is written over the records that are registered then.
* **Bodies** — `RecordBody.Yields`: siblings yield a record that has their tokens for its fields.
  `Param.WrittenAs.exists_yields` and its like for members: what is written has a record for each
  body in it, down to the innermost.
-/

namespace AbiTypings

/-! ## Tokens over records -/

mutual

/-- A parameter is written as a token, over the records that are named on the way down. -/
inductive Param.WrittenAs (profile : Profile) (role : Role) (records : List Record) :
    Param → String → Prop
  | plain {name typeTag base : String} {internalType : Option String} {indexed : Bool}
      {type : AbiType} {elementary : Elementary} (tag : AbiType.ofTag? typeTag = some type)
      (isElementary : type.base = .elementary elementary)
      (token : elementary.token? profile role.side = some base) :
      Param.WrittenAs profile role records ⟨name, typeTag, none, internalType, indexed⟩
        (arrayToken base type.dims)
  | composite {name typeTag : String} {ps : List Param} {internalType : Option String}
      {indexed : Bool} {type : AbiType} {types : List String} {record : Record}
      (tag : AbiType.ofTag? typeTag = some type) (isTuple : type.base = .tuple)
      (components : WrittenAll profile role records ps types) (mem : record ∈ records)
      (shape : record.shape = ⟨role, siblingFields (profile.aliases role) role 0 ps types⟩) :
      Param.WrittenAs profile role records ⟨name, typeTag, some ps, internalType, indexed⟩
        (record.name ++ brackets type.dims)

/-- Parameters are written as tokens, one by one. -/
inductive WrittenAll (profile : Profile) (role : Role) (records : List Record) :
    List Param → List String → Prop
  | nil : WrittenAll profile role records [] []
  | cons {p : Param} {ps : List Param} {type : String} {types : List String}
      (head : Param.WrittenAs profile role records p type)
      (tail : WrittenAll profile role records ps types) :
      WrittenAll profile role records (p :: ps) (type :: types)

end

section Growth

variable {profile : Profile} {role : Role} {records records' : List Record}

mutual

/-- What is written over some records is written over more. -/
theorem Param.WrittenAs.mono (hsub : records ⊆ records') : ∀ {p : Param} {token : String},
    p.WrittenAs profile role records token → p.WrittenAs profile role records' token
  | _, _, .plain tag isElementary token => .plain tag isElementary token
  | _, _, .composite tag isTuple components mem shape =>
    .composite tag isTuple (components.mono hsub) (hsub mem) shape

/-- Tokens stay what they are when records are added. -/
theorem WrittenAll.mono (hsub : records ⊆ records') : ∀ {ps : List Param} {types : List String},
    WrittenAll profile role records ps types → WrittenAll profile role records' ps types
  | _, _, .nil => .nil
  | _, _, .cons head tail => .cons (head.mono hsub) (tail.mono hsub)

end

theorem WrittenAll.length_eq {ps : List Param} {types : List String}
    (h : WrittenAll profile role records ps types) : types.length = ps.length := by
  induction ps generalizing types with
  | nil =>
    cases h
    rfl
  | cons p ps ih =>
    obtain _ | ⟨-, tail⟩ := h
    rw [List.length_cons, List.length_cons, ih tail]

theorem writtenAll_iff_forall₂ {ps : List Param} {types : List String} :
    WrittenAll profile role records ps types ↔
      List.Forall₂ (Param.WrittenAs profile role records) ps types := by
  induction ps generalizing types with
  | nil =>
    constructor
    · rintro ⟨⟩
      exact .nil
    · rintro ⟨⟩
      exact .nil
  | cons p ps ih =>
    constructor
    · rintro (_ | ⟨head, tail⟩)
      exact .cons head (ih.1 tail)
    · rintro (_ | ⟨head, tail⟩)
      exact .cons head (ih.2 tail)

end Growth

/-! ## Runs -/

section Runs

variable {profile : Profile} {scope name : String} {role : Role} {r s : Registry}

mutual

/-- The token of a parameter is written over the records that are registered when it is made. -/
theorem writtenAs_of_run : ∀ (p : Param) (position : Position) {r s : Registry} {token : String},
    r.WellFormed → (typeToken profile scope role p position).run r = (.ok token, s) →
      p.WrittenAs profile role s.records token
  | ⟨_, _, none, _, _⟩, _, _, _, _, _, hrun => by
    obtain ⟨⟨type, elementary, base, htype, hbase, htoken, rfl⟩, rfl⟩ :=
      typeToken_plain_eq_ok.1 hrun
    exact .plain htype hbase htoken
  | ⟨_, _, some ps, _, _⟩, position, r, s, token, hr, hrun => by
    obtain ⟨type, types, t, htype, htuple, htypes, hgrow, record, hmem, hshape, rfl⟩ :=
      exists_record_of_typeToken_eq_ok hr hrun
    -- the components are written before their record is there
    have hcomponents := writtenAll_of_run ps position.component 0 hr htypes
    exact .composite htype htuple (hcomponents.mono hgrow) hmem hshape

theorem writtenAll_of_run : ∀ (ps : List Param) (positionOf : Nat → Position) (index : Nat)
    {r s : Registry} {types : List String}, r.WellFormed →
      (typeTokens profile scope role positionOf index ps).run r = (.ok types, s) →
      WrittenAll profile role s.records ps types
  | [], _, _, _, _, _, _, hrun => by
    rw [(typeTokens_nil_eq_ok.1 hrun).1]
    exact .nil
  | p :: ps, positionOf, index, r, s, types, hr, hrun => by
    obtain ⟨type, t, rest, htype, hrest, rfl⟩ := typeTokens_cons_eq_ok.1 hrun
    have ht : t.WellFormed :=
      ((typeToken_reaches profile scope role p _).of_run htype).wellFormed hr
    have hgrow : t.records <+: s.records :=
      ((typeTokens_reaches profile scope role ps _ _).of_run hrest).records_grow ht
    have hfirst := writtenAs_of_run p (positionOf index) hr htype
    exact .cons (hfirst.mono hgrow.subset) (writtenAll_of_run ps positionOf (index + 1) ht hrest)

end

/-- The types of the fields of inputs are written as the inputs. -/
theorem writtenAll_of_recordFields_run {positionOf : Nat → Position} {ps : List Param}
    {fields : List Field} (hr : r.WellFormed) (hrole : role ≠ .response)
    (hrun : (recordFields profile scope role positionOf ps).run r = (.ok fields, s)) :
    WrittenAll profile role s.records ps (fields.map Field.type) := by
  obtain ⟨types, htypes, rfl⟩ := recordFields_eq_ok.1 hrun
  rw [Profile.aliases_of_ne hrole,
    map_type_siblingFields role 0 (length_of_typeTokens_eq_ok htypes)]
  exact writtenAll_of_run ps positionOf 0 hr htypes

end Runs

/-! ## Bodies -/

namespace RecordBody

/-- Siblings yield a record: their tokens, written over some records, are the types of its
fields. -/
def Yields (profile : Profile) (records : List Record) (body : RecordBody) (record : Record) :
    Prop :=
  ∃ types, WrittenAll profile body.role records body.params types ∧
    record.shape = ⟨body.role, body.fields profile types⟩

variable {profile : Profile} {records records' : List Record} {body : RecordBody} {record : Record}

theorem Yields.mono (h : body.Yields profile records record) (hsub : records ⊆ records') :
    body.Yields profile records' record := by
  obtain ⟨types, hwritten, hshape⟩ := h
  exact ⟨types, hwritten.mono hsub, hshape⟩

theorem Yields.makes (h : body.Yields profile records record) : body.Makes profile record := by
  obtain ⟨types, hwritten, hshape⟩ := h
  exact ⟨types, hwritten.length_eq, hshape⟩

end RecordBody

section Yielding

variable {profile : Profile} {role : Role} {records : List Record}

mutual

/-- What is written has a record for each list of components in it. -/
theorem Param.WrittenAs.exists_yields : ∀ {p : Param} {token : String},
    p.WrittenAs profile role records token →
      ∀ body ∈ p.bodies role, ∃ record ∈ records, body.Yields profile records record
  | _, _, .plain .., body, hbody => by
    rw [Param.bodies] at hbody
    exact absurd hbody List.not_mem_nil
  | _, _, @Param.WrittenAs.composite _ _ _ _ _ ps _ _ _ types record _ _ components mem shape,
      body, hbody => by
    rw [Param.bodies, List.mem_append, List.mem_singleton] at hbody
    obtain hcomponent | rfl := hbody
    · exact components.exists_yields body hcomponent
    · rw [← RecordBody.fields_of_not_counted] at shape
      exact ⟨record, mem, types, components, shape⟩

/-- Behind the tokens of siblings stand records of all of their bodies. -/
theorem WrittenAll.exists_yields : ∀ {ps : List Param} {types : List String},
    WrittenAll profile role records ps types →
      ∀ body ∈ siblingBodies role ps, ∃ record ∈ records, body.Yields profile records record
  | _, _, .nil, body, hbody => by
    rw [siblingBodies] at hbody
    exact absurd hbody List.not_mem_nil
  | _, _, .cons head tail, body, hbody => by
    rw [siblingBodies, List.mem_append] at hbody
    obtain hfirst | hrest := hbody
    · exact head.exists_yields body hfirst
    · exact tail.exists_yields body hrest

end

end Yielding

/-! ## Members -/

/-- The outputs of a function are written in what it hands back: a single output as its token, and
several outputs as the name of the record that they yield, if the function only reads. -/
def WrittenResult (profile : Profile) (records : List Record) (effect : CallEffect)
    (outputs : List Param) (result : Result) : Prop :=
  match outputs with
  | [] => result = .void
  | [output] => ∃ token, result = .value token ∧
      output.WrittenAs profile .response records token
  | outputs =>
    if effect = .readOnly then ∃ record ∈ records, result = .value record.name ∧
      RecordBody.Yields profile records ⟨.response, outputs, true⟩ record
    else result = .void

/-- The parameters of a constructor or function are written in its method. -/
def Member.WrittenInMethod (profile : Profile) (records : List Record) : Member → Method → Prop
  | constructor inputs traits, method =>
    WrittenAll profile .request records inputs (method.params.map Field.type) ∧
      method.effect = constructorEffect traits
  | function _ inputs outputs traits, method =>
    WrittenAll profile .request records inputs (method.params.map Field.type) ∧
      method.effect = traits.effect ∧
      ∃ result, WrittenResult profile records traits.effect outputs result ∧
        method.returns = wrapResult profile traits.effect result
  | event .., _ | nonCallable .., _ => False

/-- The inputs of an event are written in its filter, and yield the record of the event. -/
def Member.WrittenInFilter (profile : Profile) (records : List Record) :
    Member → EventFilter → Prop
  | event _ inputs _, filter =>
    WrittenAll profile .event records inputs (filter.params.map EventParam.type) ∧
      (inputs ≠ [] → ∃ record ∈ records,
        RecordBody.Yields profile records ⟨.event, inputs, false⟩ record)
  | constructor .., _ | function .., _ | nonCallable .., _ => False

section Members

variable {profile : Profile} {m : Member} {method : Method} {filter : EventFilter}
  {records records' : List Record} {r s : Registry}

theorem WrittenResult.mono {effect : CallEffect} {outputs : List Param} {result : Result}
    (h : WrittenResult profile records effect outputs result) (hsub : records ⊆ records') :
    WrittenResult profile records' effect outputs result := by
  match outputs with
  | [] => exact h
  | [output] =>
    obtain ⟨token, hresult, hwritten⟩ := h
    exact ⟨token, hresult, hwritten.mono hsub⟩
  | first :: second :: others =>
    unfold WrittenResult at h ⊢
    dsimp only at h ⊢
    split at h
    · rename_i heffect
      obtain ⟨record, hmem, hresult, hyields⟩ := h
      rw [if_pos heffect]
      exact ⟨record, hsub hmem, hresult, hyields.mono hsub⟩
    · rename_i heffect
      rw [if_neg heffect]
      exact h

theorem Member.WrittenInMethod.mono (h : m.WrittenInMethod profile records method)
    (hsub : records ⊆ records') : m.WrittenInMethod profile records' method := by
  cases m with
  | constructor inputs traits => exact ⟨h.1.mono hsub, h.2⟩
  | function name inputs outputs traits =>
    obtain ⟨hinputs, heffect, result, hresult, hreturns⟩ := h
    exact ⟨hinputs.mono hsub, heffect, result, hresult.mono hsub, hreturns⟩
  | event name inputs anonymous => exact h
  | nonCallable kind name => exact h

theorem Member.WrittenInFilter.mono (h : m.WrittenInFilter profile records filter)
    (hsub : records ⊆ records') : m.WrittenInFilter profile records' filter := by
  cases m with
  | event name inputs anonymous =>
    obtain ⟨hinputs, hown⟩ := h
    refine ⟨hinputs.mono hsub, fun hne => ?_⟩
    obtain ⟨record, hmem, hyields⟩ := hown hne
    exact ⟨record, hsub hmem, hyields.mono hsub⟩
  | constructor inputs traits => exact h
  | function name inputs outputs traits => exact h
  | nonCallable kind name => exact h

/-! ### Runs of members -/

/-- A successful run writes its result over the records it leaves. -/
theorem writtenResult_of_run {name : String} {effect : CallEffect} {outputs : List Param}
    {result : Result} (hr : r.WellFormed)
    (hrun : (resultOf profile name effect outputs).run r = (.ok result, s)) :
    WrittenResult profile s.records effect outputs result := by
  match outputs with
  | [] => exact (Registering.run_pure_eq_ok.1 hrun).1
  | [output] =>
    obtain ⟨token, htoken, rfl⟩ := resultOf_single_eq_ok.1 hrun
    exact ⟨token, rfl, writtenAs_of_run output _ hr htoken⟩
  | first :: second :: others =>
    unfold WrittenResult
    dsimp only
    by_cases heffect : effect = .readOnly
    · subst heffect
      obtain ⟨types, t, htypes, fields, rfl, rfl, rfl⟩ :=
        (resultOf_several_eq_ok rfl (by simp)).1 hrun
      have hwritten := writtenAll_of_run _ Position.output 0 hr htypes
      have ht : t.WellFormed :=
        ((typeTokens_reaches profile name .response _ _ 0).of_run htypes).wellFormed hr
      rw [if_pos rfl]
      exact ⟨_, Registry.mem_records_add ht _ _ _, rfl, types,
        hwritten.mono (Registry.records_grow_add ht _ _ _).subset, rfl⟩
    · -- the outputs of a call that is not read-only are never looked at
      have hvoid : ¬ effect.isReadOnly := by
        simpa [CallEffect.isReadOnly] using heffect
      unfold resultOf at hrun
      dsimp only at hrun
      rw [if_neg hvoid] at hrun
      rw [if_neg heffect]
      exact (Registering.run_pure_eq_ok.1 hrun).1

/-- A successful run writes its method over the records it leaves. -/
theorem Member.writtenInMethod_of_run {action : Registering Method} (hr : r.WellFormed)
    (haction : m.method? profile = some action) (hrun : action.run r = (.ok method, s)) :
    m.WrittenInMethod profile s.records method := by
  cases m with
  | constructor inputs traits =>
    cases haction
    obtain ⟨params, hparams, rfl⟩ := Method.ofConstructor_eq_ok.1 hrun
    exact ⟨writtenAll_of_recordFields_run hr.noteMethod (by decide) hparams, rfl⟩
  | function name inputs outputs traits =>
    cases haction
    obtain ⟨params, t, result, hparams, hresult, rfl⟩ := Method.ofFunction_eq_ok.1 hrun
    have ht : t.WellFormed :=
      ((recordFields_reaches profile name .request _ _).of_run hparams).wellFormed hr.noteMethod
    have hgrow : t.records <+: s.records :=
      ((resultOf_reaches profile name outputs traits).of_run hresult).records_grow ht
    have hinputs := writtenAll_of_recordFields_run hr.noteMethod (by decide) hparams
    exact ⟨hinputs.mono hgrow.subset, rfl, result, writtenResult_of_run ht hresult, rfl⟩
  | event name inputs anonymous => cases haction
  | nonCallable kind name => cases haction

theorem Member.writtenInFilter_of_run {action : Registering EventFilter} (hr : r.WellFormed)
    (haction : m.filter? profile = some action) (hrun : action.run r = (.ok filter, s)) :
    m.WrittenInFilter profile s.records filter := by
  cases m with
  | event name inputs anonymous =>
    cases haction
    obtain ⟨fields, t, hfields, rfl, rfl⟩ := EventFilter.ofEvent_eq_ok.1 hrun
    have ht : t.WellFormed :=
      ((recordFields_reaches profile name .event _ _).of_run hfields).wellFormed hr.noteEvent
    have hlength := length_of_recordFields_eq_ok (by decide) hfields
    have hinputs := writtenAll_of_recordFields_run hr.noteEvent (by decide) hfields
    rw [WrittenInFilter, map_type_zipWith_eventParam hlength]
    by_cases hempty : fields.isEmpty
    · have hnone : inputs = [] := by
        rw [← List.length_eq_zero_iff, ← hlength, ← List.isEmpty_iff_length_eq_zero]
        exact hempty
      rw [if_pos hempty]
      exact ⟨hinputs, fun hne => absurd hnone hne⟩
    · obtain ⟨types, hwritten, rfl⟩ := recordFields_eq_ok.1 hfields
      have hgrow := Registry.records_grow_add ht (eventRecordName name) .event
        (siblingFields (profile.aliases .event) .event 0 inputs types)
      rw [if_neg hempty]
      refine ⟨hinputs.mono hgrow.subset, fun _ => ⟨_, Registry.mem_records_add ht _ _ _, types,
        (writtenAll_of_run _ _ _ hr.noteEvent hwritten).mono hgrow.subset, ?_⟩⟩
      rw [RecordBody.fields_of_not_counted]
      rfl
  | constructor inputs traits => cases haction
  | function name inputs outputs traits => cases haction
  | nonCallable kind name => cases haction

/-! ### Bodies of members -/

theorem WrittenResult.exists_yields {outputs : List Param} {traits : CallTraits} {result : Result}
    (h : WrittenResult profile records traits.effect outputs result) :
    ∀ body ∈ outputBodies outputs traits,
      ∃ record ∈ records, body.Yields profile records record := by
  intro body hbody
  match outputs with
  | [] =>
    simp [outputBodies, outputsVisited, siblingBodies] at hbody
  | [output] =>
    obtain ⟨token, -, hwritten⟩ := h
    have hone : outputBodies [output] traits = output.bodies .response := by
      simp [outputBodies, outputsVisited, siblingBodies]
    exact hwritten.exists_yields body (hone ▸ hbody)
  | first :: second :: others =>
    unfold WrittenResult at h
    dsimp only at h
    by_cases heffect : traits.effect = .readOnly
    · rw [if_pos heffect] at h
      obtain ⟨record, hmem, -, hyields⟩ := h
      have hseveral : outputBodies (first :: second :: others) traits =
          siblingBodies .response (first :: second :: others) ++
            [⟨.response, first :: second :: others, true⟩] := by
        simp [outputBodies, outputsVisited, heffect]
      rw [hseveral, List.mem_append, List.mem_singleton] at hbody
      obtain hnested | rfl := hbody
      · obtain ⟨types, hwritten, -⟩ := hyields
        exact hwritten.exists_yields body hnested
      · exact ⟨record, hmem, hyields⟩
    · simp [outputBodies, outputsVisited, heffect, siblingBodies] at hbody

theorem Member.WrittenInMethod.exists_yields (h : m.WrittenInMethod profile records method) :
    ∀ body ∈ m.bodies, ∃ record ∈ records, body.Yields profile records record := by
  intro body hbody
  cases m with
  | constructor inputs traits => exact h.1.exists_yields body hbody
  | function name inputs outputs traits =>
    obtain ⟨hinputs, -, result, hresult, -⟩ := h
    obtain hinput | houtput := List.mem_append.1 hbody
    · exact hinputs.exists_yields body hinput
    · exact hresult.exists_yields body houtput
  | event name inputs anonymous => exact h.elim
  | nonCallable kind name => exact h.elim

theorem Member.WrittenInFilter.exists_yields (h : m.WrittenInFilter profile records filter) :
    ∀ body ∈ m.bodies, ∃ record ∈ records, body.Yields profile records record := by
  intro body hbody
  cases m with
  | event name inputs anonymous =>
    obtain ⟨hinputs, hown⟩ := h
    obtain hnested | hself := List.mem_append.1 hbody
    · exact hinputs.exists_yields body hnested
    · split at hself
      · exact absurd hself List.not_mem_nil
      · rename_i hne
        rw [List.mem_singleton.1 hself]
        exact hown (by simpa using hne)
  | constructor inputs traits => exact h.elim
  | function name inputs outputs traits => exact h.elim
  | nonCallable kind name => exact h.elim

end Members
end AbiTypings
