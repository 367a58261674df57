import AbiTypings.Bindings.Compilation
import AbiTypings.Proofs.Asking

/-!
# Runs that succeed

What has happened when a type token, the fields of siblings, a method or an event filter was made:
each statement takes a successful run apart into the runs of the parts, says which registration was
made last, and says what the result is.  The converse holds as well, so the same statements put a
run together from its parts.

* **Parameters** — `typeToken_composite_eq_ok` and `exists_record_of_typeToken_eq_ok`: the token of
  a parameter with components is the name of a record of their tokens.
* **Members** — `Method.ofFunction_eq_ok`, `EventFilter.ofEvent_eq_ok` and their like.  The inputs
  of an event filter are the fields of the event's record (`map_field_zipWith_eventParam`).
-/

namespace AbiTypings

section Tokens

variable {profile : Profile} {scope : String} {role : Role} {location : Location}
  {name typeTag token : String} {ps : List Param} {internalType : Option String} {indexed : Bool}
  {position : Position} {positionOf : Nat → Position} {index : Nat} {r s : Registry}

/-! ## Tags -/

theorem elementaryToken_eq_ok :
    elementaryToken profile role location typeTag = .ok token ↔
      ∃ type elementary base, AbiType.ofTag? typeTag = some type ∧
        type.base = .elementary elementary ∧ elementary.token? profile role.side = some base ∧
        token = arrayToken base type.dims := by
  unfold elementaryToken AbiType.ofTag Elementary.token
  rcases AbiType.ofTag? typeTag with _ | ⟨elementary | _, dims⟩
  · simp [Except.mapError, bind, Except.bind]
  · cases htoken : elementary.token? profile role.side with
    | none => simp [Except.mapError, bind, Except.bind, htoken]
    | some base => simp [Except.mapError, bind, Except.bind, pure, Except.pure, htoken, eq_comm]
  · simp [Except.mapError, bind, Except.bind, throw, throwThe, MonadExceptOf.throw]

/-- A composite parameter must have the type of a tuple, of which only the dimensions are left. -/
theorem compositeBrackets_eq_ok {text : String} :
    compositeBrackets location typeTag = .ok text ↔
      ∃ type, AbiType.ofTag? typeTag = some type ∧ type.base = .tuple ∧
        text = brackets type.dims := by
  unfold compositeBrackets AbiType.ofTag
  rcases AbiType.ofTag? typeTag with _ | ⟨elementary | _, dims⟩
  · simp [Except.mapError, bind, Except.bind]
  · simp [Except.mapError, bind, Except.bind, throw, throwThe, MonadExceptOf.throw]
  · simp [Except.mapError, bind, Except.bind, pure, Except.pure, AbiType.brackets, eq_comm]

/-! ## Parameters -/

/-- The token of a parameter without components registers nothing. -/
theorem typeToken_plain_eq_ok :
    (typeToken profile scope role ⟨name, typeTag, none, internalType, indexed⟩ position).run r =
        (.ok token, s) ↔
      (∃ type elementary base, AbiType.ofTag? typeTag = some type ∧
        type.base = .elementary elementary ∧ elementary.token? profile role.side = some base ∧
        token = arrayToken base type.dims) ∧ s = r := by
  rw [typeToken, Registering.run_ofExcept_eq_ok, elementaryToken_eq_ok]

/-- The token of a parameter with components is the name of its record, which is registered after
the components have been dealt with. -/
theorem typeToken_composite_eq_ok :
    (typeToken profile scope role ⟨name, typeTag, some ps, internalType, indexed⟩ position).run r =
        (.ok token, s) ↔
      ∃ type types t, AbiType.ofTag? typeTag = some type ∧ type.base = .tuple ∧
        (typeTokens profile scope role position.component 0 ps).run r = (.ok types, t) ∧
        ∃ candidate fields, candidate = paramRecordName scope
            ⟨name, typeTag, some ps, internalType, indexed⟩
            (Param.nameOr role.placeholder position.index
              ⟨name, typeTag, some ps, internalType, indexed⟩) role ∧
          fields = siblingFields (profile.aliases role) role 0 ps types ∧
          token = (t.add candidate role fields).1 ++ brackets type.dims ∧
          s = (t.add candidate role fields).2 := by
  rw [typeToken]
  simp only [Registering.run_bind_eq_ok, Registering.run_ofExcept_eq_ok, compositeBrackets_eq_ok,
    Registering.run_registerRecord_eq_ok, Registering.run_pure_eq_ok]
  constructor
  · rintro ⟨_, _, ⟨⟨type, htype, htuple, rfl⟩, rfl⟩, types, t, htypes, _, _, ⟨rfl, rfl⟩, rfl, rfl⟩
    exact ⟨type, types, t, htype, htuple, htypes, _, _, rfl, rfl, rfl, rfl⟩
  · rintro ⟨type, types, t, htype, htuple, htypes, _, _, rfl, rfl, rfl, rfl⟩
    exact ⟨_, _, ⟨⟨type, htype, htuple, rfl⟩, rfl⟩, types, t, htypes, _, _, ⟨rfl, rfl⟩, rfl, rfl⟩

/-- What is registered once a parameter with components has its token: a record of the tokens of the
components, which the token is the name of. -/
theorem exists_record_of_typeToken_eq_ok (hr : r.WellFormed)
    (h : (typeToken profile scope role ⟨name, typeTag, some ps, internalType, indexed⟩ position).run
      r = (.ok token, s)) :
    ∃ type types t, AbiType.ofTag? typeTag = some type ∧ type.base = .tuple ∧
      (typeTokens profile scope role position.component 0 ps).run r = (.ok types, t) ∧
      t.records ⊆ s.records ∧
      ∃ record ∈ s.records,
        record.shape = ⟨role, siblingFields (profile.aliases role) role 0 ps types⟩ ∧
        token = record.name ++ brackets type.dims := by
  obtain ⟨type, types, t, htype, htuple, htypes, candidate, fields, -, rfl, rfl, rfl⟩ :=
    typeToken_composite_eq_ok.1 h
  have ht : t.WellFormed :=
    ((typeTokens_reaches profile scope role ps _ 0).of_run htypes).wellFormed hr
  have hgrow := Registry.records_grow_add ht candidate role
    (siblingFields (profile.aliases role) role 0 ps types)
  have hmem := Registry.mem_records_add ht candidate role
    (siblingFields (profile.aliases role) role 0 ps types)
  exact ⟨type, types, t, htype, htuple, htypes, hgrow.subset, _, hmem, rfl, rfl⟩

theorem typeTokens_nil_eq_ok {types : List String} :
    (typeTokens profile scope role positionOf index []).run r = (.ok types, s) ↔
      types = [] ∧ s = r := by
  rw [typeTokens, Registering.run_pure_eq_ok]

theorem typeTokens_cons_eq_ok {p : Param} {types : List String} :
    (typeTokens profile scope role positionOf index (p :: ps)).run r = (.ok types, s) ↔
      ∃ type t rest, (typeToken profile scope role p (positionOf index)).run r = (.ok type, t) ∧
        (typeTokens profile scope role positionOf (index + 1) ps).run t = (.ok rest, s) ∧
        types = type :: rest := by
  rw [typeTokens]
  simp only [Registering.run_bind_eq_ok, Registering.run_pure_eq_ok]
  constructor
  · rintro ⟨type, t, htype, rest, _, hrest, rfl, rfl⟩
    exact ⟨type, t, rest, htype, hrest, rfl⟩
  · rintro ⟨type, t, rest, htype, hrest, rfl⟩
    exact ⟨type, t, htype, rest, s, hrest, rfl, rfl⟩

/-- Siblings have fields just if they have tokens. -/
theorem recordFields_eq_ok {fields : List Field} :
    (recordFields profile scope role positionOf ps).run r = (.ok fields, s) ↔
      ∃ types, (typeTokens profile scope role positionOf 0 ps).run r = (.ok types, s) ∧
        fields = siblingFields (profile.aliases role) role 0 ps types := by
  rw [recordFields]
  simp only [Registering.run_bind_eq_ok, Registering.run_pure_eq_ok]
  constructor
  · rintro ⟨types, _, htypes, rfl, rfl⟩
    exact ⟨types, htypes, rfl⟩
  · rintro ⟨types, htypes, rfl⟩
    exact ⟨types, s, htypes, rfl, rfl⟩

/-- There are as many tokens as siblings. -/
theorem length_of_typeTokens_eq_ok {types : List String}
    (h : (typeTokens profile scope role positionOf index ps).run r = (.ok types, s)) :
    types.length = ps.length := by
  induction ps generalizing index r types with
  | nil =>
    obtain ⟨rfl, -⟩ := typeTokens_nil_eq_ok.1 h
    rfl
  | cons p ps ih =>
    obtain ⟨type, t, rest, -, hrest, rfl⟩ := typeTokens_cons_eq_ok.1 h
    rw [List.length_cons, List.length_cons, ih hrest]

/-- Where fields cannot be reached by position, their types are those of the siblings. -/
theorem map_type_siblingFields (role : Role) (index : Nat) {types : List String}
    (h : types.length = ps.length) :
    (siblingFields false role index ps types).map Field.type = types := by
  induction ps generalizing index types with
  | nil =>
    rw [List.length_nil, List.length_eq_zero_iff] at h
    rw [h]
    rfl
  | cons p ps ih =>
    cases types with
    | nil => simp at h
    | cons type types =>
      rw [siblingFields, List.map_append, ih (index + 1) (by simpa using h)]
      rfl

/-- Only responses can be reached by position. -/
theorem Profile.aliases_of_ne (hrole : role ≠ .response) : profile.aliases role = false := by
  simp [Profile.aliases, hrole]

/-- The fields of inputs are as many as the inputs. -/
theorem length_of_recordFields_eq_ok {fields : List Field} (hrole : role ≠ .response)
    (h : (recordFields profile scope role positionOf ps).run r = (.ok fields, s)) :
    fields.length = ps.length := by
  obtain ⟨types, htypes, rfl⟩ := recordFields_eq_ok.1 h
  have hlength := length_of_typeTokens_eq_ok htypes
  rw [Profile.aliases_of_ne hrole, ← List.length_map (f := Field.type),
    map_type_siblingFields role 0 hlength, hlength]

end Tokens

/-! ## Members -/

section Members

variable {profile : Profile} {name : String} {inputs outputs : List Param} {traits : CallTraits}
  {effect : CallEffect} {result : Result} {method : Method} {filter : EventFilter}
  {r s : Registry}

/-- The field that a record of several outputs has besides them, where it can be reached by
position. -/
def lengthFields (profile : Profile) (outputs : List Param) : List Field :=
  if profile.positionalAliases then [⟨"length", toString outputs.length⟩] else []

theorem Method.ofConstructor_eq_ok :
    (Method.ofConstructor profile inputs traits).run r = (.ok method, s) ↔
      ∃ params, (recordFields profile constructorScope .request Position.input inputs).run
          (r.noteMethod constructorName) = (.ok params, s) ∧
        method = .build profile constructorName true (constructorEffect traits) params .void
          (docsOf .constructor traits (constructorEffect traits) inputs) := by
  rw [Method.ofConstructor, Registering.run_bind_of_ok (Registering.run_modify _ r)]
  simp only [inputFields, Registering.run_bind_eq_ok, Registering.run_pure_eq_ok]
  constructor
  · rintro ⟨params, _, hparams, rfl, rfl⟩
    exact ⟨params, hparams, rfl⟩
  · rintro ⟨params, hparams, rfl⟩
    exact ⟨params, s, hparams, rfl, rfl⟩

theorem resultOf_single_eq_ok {output : Param} :
    (resultOf profile name effect [output]).run r = (.ok result, s) ↔
      ∃ type, (typeToken profile name .response output (Position.output 0)).run r = (.ok type, s) ∧
        result = .value type := by
  rw [resultOf]
  simp only [Registering.run_bind_eq_ok, Registering.run_pure_eq_ok]
  constructor
  · rintro ⟨type, _, htype, rfl, rfl⟩
    exact ⟨type, htype, rfl⟩
  · rintro ⟨type, htype, rfl⟩
    exact ⟨type, s, htype, rfl, rfl⟩

theorem resultOf_several_eq_ok (heffect : effect.isReadOnly) (hlength : 2 ≤ outputs.length) :
    (resultOf profile name effect outputs).run r = (.ok result, s) ↔
      ∃ types t, (typeTokens profile name .response Position.output 0 outputs).run r =
          (.ok types, t) ∧
        ∃ fields, fields = siblingFields (profile.aliases .response) .response 0 outputs types ++
            lengthFields profile outputs ∧
          result = .value (t.add (outputsRecordName name) .response fields).1 ∧
          s = (t.add (outputsRecordName name) .response fields).2 := by
  match outputs, hlength with
  | _ :: _ :: _, _ =>
    rw [resultOf, if_pos heffect]
    · simp only [Registering.run_bind_eq_ok, Registering.run_registerRecord_eq_ok,
        Registering.run_pure_eq_ok, recordFields_eq_ok]
      constructor
      · rintro ⟨_, t, ⟨types, htypes, rfl⟩, _, _, ⟨rfl, rfl⟩, rfl, rfl⟩
        exact ⟨types, t, htypes, _, rfl, rfl, rfl⟩
      · rintro ⟨types, t, htypes, _, rfl, rfl, rfl⟩
        exact ⟨_, t, ⟨types, htypes, rfl⟩, _, _, ⟨rfl, rfl⟩, rfl, rfl⟩
    · exact List.cons_ne_nil _ _
    · rintro output ⟨⟩

/-- What a call hands back that may change the state does not depend on its outputs. -/
theorem wrapResult_of_ne (heffect : effect ≠ .readOnly) (result : Result) :
    wrapResult profile effect result = wrapResult profile effect .void := by
  unfold wrapResult
  cases effect with
  | payable | mutating => cases profile.wrapper <;> rfl
  | readOnly => exact absurd rfl heffect

/-- A run of a function, by those of its inputs and of its outputs. -/
theorem Method.ofFunction_eq_ok :
    (Method.ofFunction profile name inputs outputs traits).run r = (.ok method, s) ↔
      ∃ params t result, (recordFields profile name .request Position.input inputs).run
          (r.noteMethod name) = (.ok params, t) ∧
        (resultOf profile name traits.effect outputs).run t = (.ok result, s) ∧
        method = .build profile name false traits.effect params result
          (docsOf .function traits traits.effect inputs) := by
  rw [Method.ofFunction, Registering.run_bind_of_ok (Registering.run_modify _ r)]
  simp only [inputFields, Registering.run_bind_eq_ok, Registering.run_pure_eq_ok]
  constructor
  · rintro ⟨params, t, hparams, result, _, hresult, rfl, rfl⟩
    exact ⟨params, t, result, hparams, hresult, rfl⟩
  · rintro ⟨params, t, result, hparams, hresult, rfl⟩
    exact ⟨params, t, hparams, result, s, hresult, rfl, rfl⟩

/-- An event with inputs gets a record of them, which is registered last. -/
theorem EventFilter.ofEvent_eq_ok :
    (EventFilter.ofEvent profile name inputs).run r = (.ok filter, s) ↔
      ∃ fields t, (recordFields profile name .event Position.input inputs).run
          (r.noteEvent name) = (.ok fields, t) ∧
        s = (if fields.isEmpty then t else (t.add (eventRecordName name) .event fields).2) ∧
        filter = ⟨name, inputs.zipWith eventParam fields, profile.eventFilter⟩ := by
  rw [EventFilter.ofEvent, Registering.run_bind_of_ok (Registering.run_modify _ r)]
  simp only [Registering.run_bind_eq_ok]
  refine exists_congr fun fields => exists_congr fun t => and_congr_right fun _ => ?_
  by_cases hempty : fields.isEmpty
  · simp only [if_pos hempty, Registering.run_pure_eq_ok]
    exact and_comm
  · simp only [if_neg hempty, Registering.run_bind_eq_ok, Registering.run_registerRecord_eq_ok,
      Registering.run_pure_eq_ok]
    constructor
    · rintro ⟨_, _, ⟨rfl, rfl⟩, rfl, rfl⟩
      exact ⟨rfl, rfl⟩
    · rintro ⟨rfl, rfl⟩
      exact ⟨_, _, ⟨rfl, rfl⟩, rfl, rfl⟩

/-- An input of an event as a field. -/
def EventParam.field (p : EventParam) : Field :=
  ⟨p.name, p.type⟩

/-- The inputs of an event filter have the names and types of the fields they are made from. -/
theorem map_field_zipWith_eventParam {ps : List Param} {fields : List Field}
    (h : fields.length = ps.length) :
    (ps.zipWith eventParam fields).map EventParam.field = fields := by
  induction ps generalizing fields with
  | nil =>
    rw [List.length_nil, List.length_eq_zero_iff] at h
    rw [h]
    rfl
  | cons p ps ih =>
    cases fields with
    | nil => simp at h
    | cons field fields =>
      rw [List.zipWith_cons_cons, List.map_cons, ih (by simpa using h)]
      rfl

theorem map_type_zipWith_eventParam {ps : List Param} {fields : List Field}
    (h : fields.length = ps.length) :
    (ps.zipWith eventParam fields).map EventParam.type = fields.map Field.type := by
  have hmap := congrArg (List.map Field.type) (map_field_zipWith_eventParam h)
  rw [List.map_map] at hmap
  exact hmap

end Members
end AbiTypings
