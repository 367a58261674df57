import AbiTypings.Proofs.Registering
import AbiTypings.Proofs.Visits

/-!
# What is asked for

The names that records ask for, read off the members of a document before anything is registered.
Which name a record gets in the end depends on the registry; which one it asks for does not.

* **Names** — `Param.recordNames` and `Member.asks` list what a parameter or a member asks for, in
  the order of registration.  All of it ends as the role of the record says
  (`Param.asks_of_mem_recordNames`, `Member.asks_of_mem_asks`).
* **Reach** — `reaches_typeToken`, `Member.reaches_method?` and their like: whether it succeeds or
  fails, a computation asks for nothing that is not listed.
-/

namespace AbiTypings

/-! ## Names -/

/-- The names that records of a role ask for: they end as the role says. -/
def Role.Asks (role : Role) (candidate : String) : Prop :=
  ∃ start, candidate = start ++ role.ending

theorem paramRecordName_asks (scope : String) (p : Param) (fieldName : String) (role : Role) :
    role.Asks (paramRecordName scope p fieldName role) := by
  unfold paramRecordName
  split
  · exact ⟨_, rfl⟩
  · exact ⟨_, rfl⟩

theorem outputsRecordName_asks (function : String) :
    Role.response.Asks (outputsRecordName function) :=
  ⟨Text.capitalize function, rfl⟩

theorem eventRecordName_asks (event : String) : Role.event.Asks (eventRecordName event) :=
  ⟨Text.capitalize event, rfl⟩

mutual

/-- The names that the records of a parameter and of its components ask for. -/
def Param.recordNames (scope : String) (role : Role) (position : Position) : Param → List String
  | ⟨_, _, none, _, _⟩ => []
  | ⟨name, typeTag, some ps, internalType, indexed⟩ =>
    let p : Param := ⟨name, typeTag, some ps, internalType, indexed⟩
    siblingRecordNames scope role position.component 0 ps ++
      [paramRecordName scope p (p.nameOr role.placeholder position.index) role]

/-- The names that the records of siblings ask for, in the order of registration. -/
def siblingRecordNames (scope : String) (role : Role) (positionOf : Nat → Position)
    (index : Nat) : List Param → List String
  | [] => []
  | p :: ps =>
    p.recordNames scope role (positionOf index) ++
      siblingRecordNames scope role positionOf (index + 1) ps

end

/-- The names that the records of several outputs ask for, the record of all of them last. -/
def outputsAsk (name : String) (outputs : List Param) (traits : CallTraits) : List String :=
  siblingRecordNames name .response Position.output 0 (outputsVisited outputs traits) ++
    if 2 ≤ outputs.length ∧ traits.effect = .readOnly then [outputsRecordName name] else []

/-- The names that the records of an event ask for, the record of the event itself last. -/
def eventAsks (name : String) (inputs : List Param) : List String :=
  siblingRecordNames name .event Position.input 0 inputs ++
    if inputs.isEmpty then [] else [eventRecordName name]

/-- The names that the records of a member ask for, each with the role of its record. -/
def Member.asks : Member → List (String × Role)
  | constructor inputs _ =>
    (siblingRecordNames constructorScope .request Position.input 0 inputs).map (·, .request)
  | function name inputs outputs traits =>
    (siblingRecordNames name .request Position.input 0 inputs).map (·, .request) ++
      (outputsAsk name outputs traits).map (·, .response)
  | event name inputs _ => (eventAsks name inputs).map (·, .event)
  | nonCallable .. => []

mutual

/-- The record of a parameter asks for a name of its role, and so do those of its components. -/
theorem Param.asks_of_mem_recordNames {scope : String} {role : Role} {candidate : String} :
    ∀ (p : Param) (position : Position), candidate ∈ p.recordNames scope role position →
      role.Asks candidate
  | ⟨_, _, none, _, _⟩, _, hmem => by
    rw [Param.recordNames] at hmem
    exact absurd hmem List.not_mem_nil
  | ⟨_, _, some ps, _, _⟩, position, hmem => by
    rw [Param.recordNames, List.mem_append, List.mem_singleton] at hmem
    obtain hcomponent | rfl := hmem
    · exact asks_of_mem_siblingRecordNames ps position.component 0 hcomponent
    · exact paramRecordName_asks _ _ _ _

theorem asks_of_mem_siblingRecordNames {scope : String} {role : Role} {candidate : String} :
    ∀ (ps : List Param) (positionOf : Nat → Position) (index : Nat),
      candidate ∈ siblingRecordNames scope role positionOf index ps → role.Asks candidate
  | [], _, _, hmem => by
    rw [siblingRecordNames] at hmem
    exact absurd hmem List.not_mem_nil
  | p :: ps, positionOf, index, hmem => by
    rw [siblingRecordNames, List.mem_append] at hmem
    obtain hfirst | hrest := hmem
    · exact Param.asks_of_mem_recordNames p (positionOf index) hfirst
    · exact asks_of_mem_siblingRecordNames ps positionOf (index + 1) hrest

end

theorem asks_of_mem_outputsAsk {name : String} {outputs : List Param} {traits : CallTraits}
    {candidate : String} (hmem : candidate ∈ outputsAsk name outputs traits) :
    Role.response.Asks candidate := by
  obtain hnested | hown := List.mem_append.1 hmem
  · exact asks_of_mem_siblingRecordNames _ _ _ hnested
  · split at hown
    · rw [List.mem_singleton.1 hown]
      exact outputsRecordName_asks name
    · exact absurd hown List.not_mem_nil

theorem asks_of_mem_eventAsks {name : String} {inputs : List Param} {candidate : String}
    (hmem : candidate ∈ eventAsks name inputs) : Role.event.Asks candidate := by
  obtain hnested | hown := List.mem_append.1 hmem
  · exact asks_of_mem_siblingRecordNames _ _ _ hnested
  · split at hown
    · exact absurd hown List.not_mem_nil
    · rw [List.mem_singleton.1 hown]
      exact eventRecordName_asks name

/-- What a member asks for ends as the role says. -/
theorem Member.asks_of_mem_asks {m : Member} {candidate : String} {role : Role}
    (hmem : (candidate, role) ∈ m.asks) : role.Asks candidate := by
  cases m with
  | constructor inputs traits =>
    obtain ⟨_, hname, heq⟩ := List.mem_map.1 hmem
    cases heq
    exact asks_of_mem_siblingRecordNames _ _ _ hname
  | function name inputs outputs traits =>
    obtain hinput | houtput := List.mem_append.1 hmem
    · obtain ⟨_, hname, heq⟩ := List.mem_map.1 hinput
      cases heq
      exact asks_of_mem_siblingRecordNames _ _ _ hname
    · obtain ⟨_, hname, heq⟩ := List.mem_map.1 houtput
      cases heq
      exact asks_of_mem_outputsAsk hname
  | event name inputs anonymous =>
    obtain ⟨_, hname, heq⟩ := List.mem_map.1 hmem
    cases heq
    exact asks_of_mem_eventAsks hname
  | nonCallable kind name => exact absurd hmem List.not_mem_nil

/-! ## Reach of parameters -/

section Reach

variable {Asks : String → Role → Prop}

mutual

/-- The token of a parameter asks for the names listed for the parameter, and for no others. -/
theorem reaches_typeToken (profile : Profile) (scope : String) (role : Role) :
    ∀ (p : Param) (position : Position),
      (∀ candidate ∈ p.recordNames scope role position, Asks candidate role) →
      (typeToken profile scope role p position).Reaches Asks
  | ⟨_, _, none, _, _⟩, _, _ => Registering.reaches_ofExcept _
  | ⟨_, _, some ps, _, _⟩, position, hasks => by
    rw [Param.recordNames, List.forall_mem_append, List.forall_mem_singleton] at hasks
    obtain ⟨hcomponents, hown⟩ := hasks
    rw [typeToken]
    refine .bind (Registering.reaches_ofExcept _) fun _ => ?_
    refine .bind (reaches_typeTokens profile scope role ps position.component 0 hcomponents)
      fun _ => ?_
    refine .bind ?_ fun _ => Registering.reaches_pure _
    exact Registering.reaches_registerRecord hown _

theorem reaches_typeTokens (profile : Profile) (scope : String) (role : Role) :
    ∀ (ps : List Param) (positionOf : Nat → Position) (index : Nat),
      (∀ candidate ∈ siblingRecordNames scope role positionOf index ps, Asks candidate role) →
      (typeTokens profile scope role positionOf index ps).Reaches Asks
  | [], _, _, _ => Registering.reaches_pure _
  | p :: ps, positionOf, index, hasks => by
    rw [siblingRecordNames, List.forall_mem_append] at hasks
    obtain ⟨hfirst, hrest⟩ := hasks
    rw [typeTokens]
    refine .bind (reaches_typeToken profile scope role p (positionOf index) hfirst) fun _ => ?_
    refine .bind (reaches_typeTokens profile scope role ps positionOf (index + 1) hrest)
      fun _ => ?_
    exact Registering.reaches_pure _

end

theorem reaches_recordFields (profile : Profile) (scope : String) (role : Role)
    (positionOf : Nat → Position) (ps : List Param)
    (hasks : ∀ candidate ∈ siblingRecordNames scope role positionOf 0 ps, Asks candidate role) :
    (recordFields profile scope role positionOf ps).Reaches Asks :=
  (reaches_typeTokens profile scope role ps positionOf 0 hasks).bind fun _ =>
    Registering.reaches_pure _

/-! ## Reach of members -/

/-- A result registers no more than the records that the outputs ask for. -/
theorem reaches_resultOf (profile : Profile) (name : String) (outputs : List Param)
    (traits : CallTraits)
    (hasks : ∀ candidate ∈ outputsAsk name outputs traits, Asks candidate .response) :
    (resultOf profile name traits.effect outputs).Reaches Asks := by
  match outputs with
  | [] => exact Registering.reaches_pure _
  | [output] =>
    rw [outputsAsk, outputsVisited, if_pos (Or.inl (by simp)), siblingRecordNames,
      siblingRecordNames, List.append_nil, List.forall_mem_append] at hasks
    refine .bind (reaches_typeToken profile name .response output (.output 0) hasks.1) fun _ => ?_
    exact Registering.reaches_pure _
  | first :: second :: others =>
    unfold resultOf
    by_cases heffect : traits.effect = .readOnly
    · have hseveral : 2 ≤ (first :: second :: others).length ∧ traits.effect = .readOnly :=
        ⟨by simp, heffect⟩
      rw [outputsAsk, outputsVisited, if_pos (Or.inr heffect), if_pos hseveral,
        List.forall_mem_append, List.forall_mem_singleton] at hasks
      rw [heffect]
      refine .bind (reaches_recordFields profile name .response .output _ hasks.1) fun _ => ?_
      refine .bind ?_ fun _ => Registering.reaches_pure _
      exact Registering.reaches_registerRecord hasks.2 _
    · have hdropped : ¬ traits.effect.isReadOnly := by
        simpa [CallEffect.isReadOnly] using heffect
      dsimp only
      rw [if_neg hdropped]
      exact Registering.reaches_pure _

theorem reaches_ofConstructor (profile : Profile) (inputs : List Param) (traits : CallTraits)
    (hasks : ∀ ask ∈ Member.asks (.constructor inputs traits), Asks ask.1 ask.2) :
    (Method.ofConstructor profile inputs traits).Reaches Asks := by
  rw [Member.asks, List.forall_mem_map] at hasks
  refine .bind (Registering.reaches_noteMethod _) fun _ => ?_
  refine .bind (reaches_recordFields profile _ .request _ inputs hasks) fun _ => ?_
  exact Registering.reaches_pure _

theorem reaches_ofFunction (profile : Profile) (name : String) (inputs outputs : List Param)
    (traits : CallTraits)
    (hasks : ∀ ask ∈ Member.asks (.function name inputs outputs traits), Asks ask.1 ask.2) :
    (Method.ofFunction profile name inputs outputs traits).Reaches Asks := by
  rw [Member.asks, List.forall_mem_append, List.forall_mem_map, List.forall_mem_map] at hasks
  refine .bind (Registering.reaches_noteMethod _) fun _ => ?_
  refine .bind (reaches_recordFields profile _ .request _ inputs hasks.1) fun _ => ?_
  refine .bind (reaches_resultOf profile name outputs traits hasks.2) fun _ => ?_
  exact Registering.reaches_pure _

theorem reaches_ofEvent (profile : Profile) (name : String) (inputs : List Param)
    (anonymous : Bool)
    (hasks : ∀ ask ∈ Member.asks (.event name inputs anonymous), Asks ask.1 ask.2) :
    (EventFilter.ofEvent profile name inputs).Reaches Asks := by
  rw [Member.asks, eventAsks, List.forall_mem_map, List.forall_mem_append] at hasks
  refine .bind (Registering.reaches_noteEvent _) fun _ => ?_
  cases inputs with
  | nil =>
    intro r
    have hrun : (recordFields profile name .event Position.input []).run r = (.ok [], r) := rfl
    rw [Registering.run_bind_of_ok hrun]
    exact .refl r
  | cons p ps =>
    refine .bind (reaches_recordFields profile _ .event _ _ hasks.1) fun fields => ?_
    split
    · exact Registering.reaches_pure _
    · refine .bind ?_ fun _ => Registering.reaches_pure _
      exact Registering.reaches_registerRecord (hasks.2 _ (List.mem_singleton_self _)) _

end Reach

/-! ## What is common to all names -/

/-- Names as they are fit for the records of any role. -/
def asksFitting (candidate : String) (role : Role) : Prop :=
  role.Asks candidate

/-- Tokens only register records under names that fit their roles. -/
theorem typeToken_reaches (profile : Profile) (scope : String) (role : Role) (p : Param)
    (position : Position) : (typeToken profile scope role p position).Reaches asksFitting :=
  reaches_typeToken profile scope role p position fun _ => p.asks_of_mem_recordNames position

theorem typeTokens_reaches (profile : Profile) (scope : String) (role : Role) (ps : List Param)
    (positionOf : Nat → Position) (index : Nat) :
    (typeTokens profile scope role positionOf index ps).Reaches asksFitting :=
  reaches_typeTokens profile scope role ps positionOf index fun _ =>
    asks_of_mem_siblingRecordNames ps positionOf index

theorem recordFields_reaches (profile : Profile) (scope : String) (role : Role)
    (positionOf : Nat → Position) (ps : List Param) :
    (recordFields profile scope role positionOf ps).Reaches asksFitting :=
  reaches_recordFields profile scope role positionOf ps fun _ =>
    asks_of_mem_siblingRecordNames ps positionOf 0

theorem resultOf_reaches (profile : Profile) (name : String) (outputs : List Param)
    (traits : CallTraits) : (resultOf profile name traits.effect outputs).Reaches asksFitting :=
  reaches_resultOf profile name outputs traits fun _ => asks_of_mem_outputsAsk

end AbiTypings
