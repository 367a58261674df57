import AbiTypings.Proofs.Compilation
import AbiTypings.Proofs.Retyping

/-!
# The ethers dialects compile in lockstep

Members are compiled for the older and the newer ethers dialect by two runs that never part: at each
step both register, share and renumber the same records, and both fail at the same place if they
fail at all.  The shapes that are looked up differ, as integers have different tokens, but a shape
is found in the one run exactly when its counterpart is found in the other.

* **Registries** — `Registry.InStep`: the records of the one are those of the other with other
  integers.  `Registry.InStep.add` is the step: both registrations return the same name.
* **Computations** — `Registering.InStep`: from registries in step, two computations fail with the
  same fault or have related results, and lead to registries in step.  `InStep.bind` puts this
  together from parts.
* **Parameters and members** — `inStep_typeToken` by induction over components, and from it
  `inStep_ofFunction` and its like.
* **Bindings** — `Bindings.ethers_inStep`: all of it for lists of members.
-/

namespace AbiTypings

variable {α β γ δ : Type}

/-! ## Registries -/

/-- Two registries with the same records, but for the tokens of integers. -/
structure Registry.InStep (r r' : Registry) : Prop where
  wellFormed : r.WellFormed
  wellFormed' : r'.WellFormed
  named : r.Named
  records : r'.records = r.records.map Record.retyped
  methods : r'.methods = r.methods
  events : r'.events = r.events
  not_isBigint : ∀ record ∈ r.records, ∀ field ∈ record.fields, ¬ IsBigint field.type

namespace Registry.InStep

variable {r r' : Registry}

theorem empty : InStep {} {} where
  wellFormed := wellFormed_empty
  wellFormed' := wellFormed_empty
  named := fun _ hmem => absurd hmem List.not_mem_nil
  records := rfl
  methods := rfl
  events := rfl
  not_isBigint := fun _ hmem => absurd hmem List.not_mem_nil

theorem noteMethod (h : r.InStep r') (name : String) :
    (r.noteMethod name).InStep (r'.noteMethod name) :=
  { h with
    wellFormed := h.wellFormed.noteMethod
    wellFormed' := h.wellFormed'.noteMethod
    methods := congrArg (· ++ [name]) h.methods }

theorem noteEvent (h : r.InStep r') (name : String) :
    (r.noteEvent name).InStep (r'.noteEvent name) :=
  { h with
    wellFormed := h.wellFormed.noteEvent
    wellFormed' := h.wellFormed'.noteEvent
    events := congrArg (· ++ [name]) h.events }

theorem names_eq (h : r.InStep r') : r'.names = r.names := by
  rw [h.wellFormed'.names_eq, h.wellFormed.names_eq, h.records, List.map_map]
  rfl

/-- A record is found in the one registry exactly when its counterpart is found in the other. -/
theorem shape_retyped_iff (h : r.InStep r') {record : Record} (hmem : record ∈ r.records)
    {role : Role} {fields : List Field} (hfields : ∀ field ∈ fields, ¬ IsBigint field.type) :
    record.retyped.shape = ⟨role, fields.map Field.retyped⟩ ↔ record.shape = ⟨role, fields⟩ := by
  constructor
  · intro hshape
    obtain ⟨hrole, hsame⟩ := Shape.mk.inj hshape
    rw [Record.shape, show record.role = role from hrole,
      map_retyped_injOn (h.not_isBigint record hmem) hfields hsame]
  · intro hshape
    obtain ⟨rfl, rfl⟩ := Shape.mk.inj hshape
    rfl

/-- The same registration, with the tokens of either dialect, returns the same name. -/
theorem add (h : r.InStep r') {candidate : String} {role : Role} (hasks : role.Asks candidate)
    {fields fields' : List Field} (hfields : FieldsRetyped role fields fields') :
    (r'.add candidate role fields').1 = (r.add candidate role fields).1 ∧
      role.Names (r.add candidate role fields).1 ∧
      (r.add candidate role fields).2.InStep (r'.add candidate role fields').2 := by
  have hnew := hfields.not_isBigint
  rw [hfields.eq_map]
  obtain ⟨record, hmem, hshape, hname, hadd⟩ | ⟨hnone, hadd⟩ :=
    add_cases h.wellFormed candidate role fields
  · have hmem' : record.retyped ∈ r'.records := by
      rw [h.records]
      exact List.mem_map_of_mem hmem
    have hadd' := add_of_mem h.wellFormed' hmem' ((h.shape_retyped_iff hmem hnew).2 hshape) hname
    have hrole : record.role = role := congrArg Shape.role hshape
    rw [hadd, hadd']
    exact ⟨rfl, hrole ▸ h.named record hmem, h⟩
  · have hnone' : ∀ other ∈ r'.records, other.shape = ⟨role, fields.map Field.retyped⟩ →
        role = .event ∧ other.name ≠ candidate := by
      intro other hother hshape
      rw [h.records] at hother
      obtain ⟨record, hmem, rfl⟩ := List.mem_map.1 hother
      exact hnone record hmem ((h.shape_retyped_iff hmem hnew).1 hshape)
    have hadd' := add_of_forall_ne h.wellFormed' hnone'
    have hadded := wellFormed_add h.wellFormed candidate role fields
    have hadded' := wellFormed_add h.wellFormed' candidate role (fields.map Field.retyped)
    have hname : role.Names (unusedName r.names candidate) :=
      ⟨candidate, hasks, unusedName_eq r.names candidate⟩
    rw [hadd] at hadded ⊢
    rw [hadd', h.names_eq] at hadded' ⊢
    refine ⟨rfl, hname, hadded, hadded', ?_, ?_, h.methods, h.events, ?_⟩
    · intro record hrecord
      obtain hold | hlast := List.mem_append.1 hrecord
      · exact h.named record hold
      · rw [List.mem_singleton.1 hlast]
        exact hname
    · rw [push, push, h.records, List.map_append]
      rfl
    · intro record hrecord
      obtain hold | hlast := List.mem_append.1 hrecord
      · exact h.not_isBigint record hold
      · rw [List.mem_singleton.1 hlast]
        exact hnew

end Registry.InStep

/-! ## Computations -/

/-- Two results are the same fault, or related values. -/
inductive SameOutcome (R : α → β → Prop) : Except Fault α → Except Fault β → Prop
  | ok {a : α} {b : β} (related : R a b) : SameOutcome R (.ok a) (.ok b)
  | error (fault : Fault) : SameOutcome R (.error fault) (.error fault)

/-- From registries in step, two computations fail alike or have related results, and they lead to
registries in step. -/
def Registering.InStep (R : α → β → Prop) (x : Registering α) (y : Registering β) : Prop :=
  ∀ r r' : Registry, r.InStep r' →
    SameOutcome R (x.run r).1 (y.run r').1 ∧ (x.run r).2.InStep (y.run r').2

namespace Registering

variable {R : α → β → Prop} {S : γ → δ → Prop}

theorem inStep_pure {a : α} {b : β} (h : R a b) :
    InStep R (pure a : Registering α) (pure b : Registering β) :=
  fun _ _ hr => ⟨.ok h, hr⟩

theorem inStep_ofExcept {result : Except Fault α} {result' : Except Fault β}
    (h : SameOutcome R result result') : InStep R (ofExcept result) (ofExcept result') :=
  fun _ _ hr => ⟨h, hr⟩

theorem inStep_noteMethod (name : String) :
    InStep (fun _ _ => True) (modify (·.noteMethod name) : Registering PUnit)
      (modify (·.noteMethod name) : Registering PUnit) :=
  fun _ _ hr => ⟨.ok trivial, hr.noteMethod name⟩

theorem inStep_noteEvent (name : String) :
    InStep (fun _ _ => True) (modify (·.noteEvent name) : Registering PUnit)
      (modify (·.noteEvent name) : Registering PUnit) :=
  fun _ _ hr => ⟨.ok trivial, hr.noteEvent name⟩

/-- Records whose fields are in step get the same name. -/
theorem inStep_registerRecord {candidate : String} {role : Role} (hasks : role.Asks candidate)
    {fields fields' : List Field} (h : FieldsRetyped role fields fields') :
    InStep (fun name name' => name' = name ∧ role.Names name)
      (registerRecord candidate role fields) (registerRecord candidate role fields') := by
  intro r r' hr
  obtain ⟨hname, hnames, hstate⟩ := hr.add hasks h
  exact ⟨.ok ⟨hname, hnames⟩, hstate⟩

/-- If the first of two computations fail, they do so alike; otherwise the second go on from
registries in step. -/
theorem InStep.bind {x : Registering α} {y : Registering β} {f : α → Registering γ}
    {g : β → Registering δ} (hx : InStep R x y) (hf : ∀ a b, R a b → InStep S (f a) (g b)) :
    InStep S (x >>= f) (y >>= g) := by
  intro r r' hr
  obtain ⟨hresult, hstate⟩ := hx r r' hr
  rw [run_bind, run_bind]
  generalize x.run r = run at hresult hstate ⊢
  generalize y.run r' = run' at hresult hstate ⊢
  obtain ⟨result, s⟩ := run
  obtain ⟨result', s'⟩ := run'
  cases hresult with
  | ok related => exact hf _ _ related s s' hstate
  | error fault => exact ⟨.error fault, hstate⟩

end Registering

/-! ## Parameters -/

section Params

variable (scope : String) (role : Role)

/-- An elementary type has tokens in step, or the same fault. -/
theorem sameOutcome_elementaryToken (location : Location) (typeTag : String) :
    SameOutcome (TokenRetyped role)
      (elementaryToken Dialect.ethersV5.profile role location typeTag)
      (elementaryToken Dialect.ethersV6.profile role location typeTag) := by
  unfold elementaryToken AbiType.ofTag Elementary.token
  rcases AbiType.ofTag? typeTag with _ | ⟨elementary | _, dims⟩
  · exact .error _
  · have hnew := elementary.token?_ethersV6 role.side
    cases hold : elementary.token? Dialect.ethersV5.profile role.side with
    | none =>
      rw [hold, Option.map_none] at hnew
      simp only [Except.mapError, bind, Except.bind, hold, hnew]
      exact .error _
    | some base =>
      rw [hold, Option.map_some] at hnew
      simp only [Except.mapError, bind, Except.bind, pure, Except.pure, hold, hnew]
      exact .ok (tokenRetyped_arrayToken hold dims)
  · exact .error _

theorem sameOutcome_compositeBrackets (location : Location) (typeTag : String) :
    SameOutcome (fun text text' => text' = text ∧ ∃ n, text = bracketPairs n)
      (compositeBrackets location typeTag) (compositeBrackets location typeTag) := by
  cases hbrackets : compositeBrackets location typeTag with
  | error fault => exact .error fault
  | ok text =>
    obtain ⟨type, -, -, htext⟩ := compositeBrackets_eq_ok.1 hbrackets
    rw [brackets_eq_bracketPairs] at htext
    exact .ok ⟨rfl, _, htext⟩

mutual

/-- The tokens of a parameter in the two dialects are made in step. -/
theorem inStep_typeToken : ∀ (p : Param) (position : Position),
    Registering.InStep (TokenRetyped role)
      (typeToken Dialect.ethersV5.profile scope role p position)
      (typeToken Dialect.ethersV6.profile scope role p position)
  | ⟨_, typeTag, none, _, _⟩, position => by
    rw [typeToken, typeToken]
    exact Registering.inStep_ofExcept (sameOutcome_elementaryToken role _ typeTag)
  | ⟨_, typeTag, some ps, _, _⟩, position => by
    rw [typeToken, typeToken]
    refine (Registering.inStep_ofExcept (sameOutcome_compositeBrackets _ typeTag)).bind ?_
    rintro _ _ ⟨rfl, n, rfl⟩
    refine (inStep_typeTokens ps position.component 0).bind fun types types' htypes => ?_
    have hfields := fieldsRetyped_siblingFields
      (Dialect.ethersV5.profile.aliases role) role 0 ps htypes
    refine (Registering.inStep_registerRecord (paramRecordName_asks _ _ _ _) hfields).bind ?_
    rintro name _ ⟨rfl, hname⟩
    exact Registering.inStep_pure (tokenRetyped_name hname n)

theorem inStep_typeTokens : ∀ (ps : List Param) (positionOf : Nat → Position) (index : Nat),
    Registering.InStep (List.Forall₂ (TokenRetyped role))
      (typeTokens Dialect.ethersV5.profile scope role positionOf index ps)
      (typeTokens Dialect.ethersV6.profile scope role positionOf index ps)
  | [], _, _ => by
    rw [typeTokens, typeTokens]
    exact Registering.inStep_pure .nil
  | p :: ps, positionOf, index => by
    rw [typeTokens, typeTokens]
    refine (inStep_typeToken p (positionOf index)).bind fun type type' htype => ?_
    refine (inStep_typeTokens ps positionOf (index + 1)).bind fun types types' htypes => ?_
    exact Registering.inStep_pure (.cons htype htypes)

end

/-- Siblings have fields in step. -/
theorem inStep_recordFields (positionOf : Nat → Position) (ps : List Param) :
    Registering.InStep (FieldsRetyped role)
      (recordFields Dialect.ethersV5.profile scope role positionOf ps)
      (recordFields Dialect.ethersV6.profile scope role positionOf ps) := by
  refine (inStep_typeTokens scope role ps positionOf 0).bind fun types types' htypes => ?_
  exact Registering.inStep_pure (fieldsRetyped_siblingFields _ role 0 ps htypes)

end Params

/-! ## Members -/

/-- What a call hands back, with the tokens of the newer dialect. -/
def Result.retyped : Result → Result
  | void => .void
  | value type => .value (retype type)

/-- The methods that the older and the newer ethers dialect have for one member.  What a call
returns that only reads is a promise of a type; any other call promises a transaction. -/
structure Method.InStep (m m' : Method) : Prop where
  name : m'.name = m.name
  isConstructor : m'.isConstructor = m.isConstructor
  effect : m'.effect = m.effect
  params : m'.params = m.params
  overrides : m'.overrides = m.overrides
  docs : m'.docs = m.docs
  reads : m.effect = .readOnly → ∃ type, m.returns = "Promise<" ++ type ++ ">" ∧
    m'.returns = "Promise<" ++ retype type ++ ">"
  writes : m.effect ≠ .readOnly → m.returns = "Promise<ContractTransaction>" ∧
    m'.returns = "Promise<ContractTransactionResponse>"

/-- Methods of the same parameters and result are in step. -/
theorem Method.inStep_build (name : String) (isConstructor : Bool) (effect : CallEffect)
    (params : List Field) (result : Result) (docs : MethodDocs) :
    (Method.build Dialect.ethersV5.profile name isConstructor effect params result docs).InStep
      (Method.build Dialect.ethersV6.profile name isConstructor effect params result.retyped
        docs) where
  name := rfl
  isConstructor := rfl
  effect := rfl
  params := rfl
  overrides := rfl
  docs := rfl
  reads hreads := by
    obtain rfl : effect = .readOnly := hreads
    cases result with
    | void => exact ⟨"void", rfl, rfl⟩
    | value type => exact ⟨type, rfl, rfl⟩
  writes hwrites := by
    cases effect with
    | readOnly => exact absurd rfl hwrites
    | mutating => exact ⟨rfl, rfl⟩
    | payable => exact ⟨rfl, rfl⟩

theorem inStep_ofConstructor (inputs : List Param) (traits : CallTraits) :
    Registering.InStep Method.InStep
      (Method.ofConstructor Dialect.ethersV5.profile inputs traits)
      (Method.ofConstructor Dialect.ethersV6.profile inputs traits) := by
  refine (Registering.inStep_noteMethod constructorName).bind fun _ _ _ => ?_
  refine (inStep_recordFields constructorScope .request .input inputs).bind
    fun params params' hparams => ?_
  obtain rfl := hparams.eq_of_ne (by decide)
  exact Registering.inStep_pure (Method.inStep_build _ _ _ _ .void _)

/-- Outputs have results in step. -/
theorem inStep_resultOf (name : String) (effect : CallEffect) (outputs : List Param) :
    Registering.InStep (fun result result' => result' = result.retyped)
      (resultOf Dialect.ethersV5.profile name effect outputs)
      (resultOf Dialect.ethersV6.profile name effect outputs) := by
  match outputs with
  | [] => exact Registering.inStep_pure rfl
  | [output] =>
    refine (inStep_typeToken name .response output (.output 0)).bind fun type type' htype => ?_
    refine Registering.inStep_pure ?_
    rw [htype.eq_retype, Result.retyped]
  | first :: second :: others =>
    unfold resultOf
    dsimp only
    split
    · refine (inStep_recordFields name .response .output _).bind fun fields fields' hfields => ?_
      have hlength : FieldsRetyped .response
          (lengthFields Dialect.ethersV5.profile (first :: second :: others))
          (lengthFields Dialect.ethersV6.profile (first :: second :: others)) :=
        .cons ⟨rfl, tokenRetyped_toString .response _⟩ .nil
      refine (Registering.inStep_registerRecord (outputsRecordName_asks name)
        (hfields.append hlength)).bind ?_
      rintro record _ ⟨rfl, hname⟩
      have hrecord := (tokenRetyped_name hname 0).eq_retype
      rw [show bracketPairs 0 = "" from rfl, String.append_empty] at hrecord
      refine Registering.inStep_pure ?_
      rw [Result.retyped, ← hrecord]
    · exact Registering.inStep_pure rfl

theorem inStep_ofFunction (name : String) (inputs outputs : List Param) (traits : CallTraits) :
    Registering.InStep Method.InStep
      (Method.ofFunction Dialect.ethersV5.profile name inputs outputs traits)
      (Method.ofFunction Dialect.ethersV6.profile name inputs outputs traits) := by
  refine (Registering.inStep_noteMethod name).bind fun _ _ _ => ?_
  refine (inStep_recordFields name .request .input inputs).bind fun params params' hparams => ?_
  obtain rfl := hparams.eq_of_ne (by decide)
  refine (inStep_resultOf name traits.effect outputs).bind ?_
  rintro result _ rfl
  exact Registering.inStep_pure (Method.inStep_build _ _ _ _ _ _)

theorem inStep_ofEvent (name : String) (inputs : List Param) :
    Registering.InStep (fun filter filter' => filter' = filter)
      (EventFilter.ofEvent Dialect.ethersV5.profile name inputs)
      (EventFilter.ofEvent Dialect.ethersV6.profile name inputs) := by
  refine (Registering.inStep_noteEvent name).bind fun _ _ _ => ?_
  refine (inStep_recordFields name .event .input inputs).bind fun fields fields' hfields => ?_
  obtain rfl := hfields.eq_of_ne (by decide)
  split
  · exact Registering.inStep_pure rfl
  · refine (Registering.inStep_registerRecord (eventRecordName_asks name) hfields).bind
      fun _ _ _ => ?_
    exact Registering.inStep_pure rfl

/-! ## All members -/

/-- Compilations for the two dialects after the same members. -/
structure Compilation.InStep (c c' : Compilation) : Prop where
  registry : c.registry.InStep c'.registry
  methods : List.Forall₂ Method.InStep c.methods c'.methods
  events : c'.events = c.events

namespace Compilation

variable {R : α → β → Prop} {c c' : Compilation}

theorem InStep.empty : InStep {} {} :=
  ⟨.empty, .nil, rfl⟩

theorem InStep.addMethod (h : c.InStep c') {m m' : Method} (hm : m.InStep m') :
    (c.addMethod m).InStep (c'.addMethod m') :=
  ⟨h.registry, List.rel_append h.methods (.cons hm .nil), h.events⟩

theorem InStep.addEvent (h : c.InStep c') (filter : EventFilter) :
    (c.addEvent filter).InStep (c'.addEvent filter) :=
  ⟨h.registry, h.methods, congrArg (· ++ [filter]) h.events⟩

/-- Computations in step are taken into compilations in step. -/
theorem InStep.register (h : c.InStep c') {x : Registering α} {y : Registering β}
    (hxy : Registering.InStep R x y) {take : Compilation → α → Compilation}
    {take' : Compilation → β → Compilation}
    (htake : ∀ {c c'} a b, c.InStep c' → R a b → (take c a).InStep (take' c' b)) :
    SameOutcome (fun _ _ => True) (c.register x take).1 (c'.register y take').1 ∧
      (c.register x take).2.InStep (c'.register y take').2 := by
  obtain ⟨hresult, hstate⟩ := hxy c.registry c'.registry h.registry
  unfold Compilation.register
  generalize x.run c.registry = run at hresult hstate ⊢
  generalize y.run c'.registry = run' at hresult hstate ⊢
  obtain ⟨result, r⟩ := run
  obtain ⟨result', r'⟩ := run'
  cases hresult with
  | ok related => exact ⟨.ok trivial, htake _ _ ⟨hstate, h.methods, h.events⟩ related⟩
  | error fault => exact ⟨.error fault, hstate, h.methods, h.events⟩

theorem inStep_bindMember (h : c.InStep c') (m : Member) :
    SameOutcome (fun _ _ => True) (c.bindMember Dialect.ethersV5.profile m).1
        (c'.bindMember Dialect.ethersV6.profile m).1 ∧
      (c.bindMember Dialect.ethersV5.profile m).2.InStep
        (c'.bindMember Dialect.ethersV6.profile m).2 := by
  cases m with
  | constructor inputs traits =>
    exact h.register (inStep_ofConstructor inputs traits) fun _ _ hc hm => hc.addMethod hm
  | function name inputs outputs traits =>
    exact h.register (inStep_ofFunction name inputs outputs traits) fun _ _ hc hm => hc.addMethod hm
  | event name inputs anonymous =>
    exact h.register (inStep_ofEvent name inputs) fun _ _ hc hfilter =>
      hfilter ▸ hc.addEvent _
  | nonCallable kind name => exact ⟨.ok trivial, h⟩

/-- Members are bound in step, or refused with the same fault. -/
theorem inStep_bindMembers (h : c.InStep c') (ms : List Member) :
    SameOutcome InStep (bindMembers Dialect.ethersV5.profile c ms)
      (bindMembers Dialect.ethersV6.profile c' ms) := by
  induction ms generalizing c c' with
  | nil => exact .ok h
  | cons m ms ih =>
    obtain ⟨hresult, hstate⟩ := inStep_bindMember h m
    rw [bindMembers, bindMembers]
    generalize c.bindMember Dialect.ethersV5.profile m = bound at hresult hstate ⊢
    generalize c'.bindMember Dialect.ethersV6.profile m = bound' at hresult hstate ⊢
    obtain ⟨result, d⟩ := bound
    obtain ⟨result', d'⟩ := bound'
    cases hresult with
    | ok => exact ih hstate
    | error fault => exact .error fault

end Compilation

/-! ## Bindings -/

/-- The bindings that the older and the newer ethers dialect have for the same members. -/
structure Bindings.InStep (b b' : Bindings) : Prop where
  names : b'.names = b.names
  library : b'.library = b.library
  methodNames : b'.methodNames = b.methodNames
  eventNames : b'.eventNames = b.eventNames
  events : b'.events = b.events
  records : b'.records = b.records.map Record.retyped
  methods : List.Forall₂ Method.InStep b.methods b'.methods

/-- **The ethers dialects compile in lockstep.**  Whatever the members and the options, they fail
for both dialects with the same fault, or have bindings for both.  The bindings for the newer one
are then those for the older one with `bigint` for `BigNumber` in the fields of records and in what
calls promise that only read, and with the newer type of a transaction in what all other calls
promise. -/
theorem Bindings.ethers_inStep (start library : Option String) (ms : List Member) :
    SameOutcome Bindings.InStep (Bindings.ofMembers ⟨.ethersV5, start, library⟩ ms)
      (Bindings.ofMembers ⟨.ethersV6, start, library⟩ ms) := by
  have hrun := Compilation.inStep_bindMembers .empty ms
  unfold Bindings.ofMembers
  dsimp only
  generalize Compilation.bindMembers Dialect.ethersV5.profile {} ms = result at hrun ⊢
  generalize Compilation.bindMembers Dialect.ethersV6.profile {} ms = result' at hrun ⊢
  cases hrun with
  | ok h =>
    exact .ok ⟨rfl, rfl, h.registry.methods, h.registry.events, h.events, h.registry.records,
      h.methods⟩
  | error fault => exact .error fault

end AbiTypings
