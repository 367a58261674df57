import AbiTypings.Proofs.Compilation
import AbiTypings.Proofs.Visits

/-!
# Compilation reports the first bad parameter

Whether a member can be bound, and what is reported if it cannot, is a matter of its parameters
alone: neither what was registered before, nor the dialect, nor the role of a parameter has a say in
it.

* **Computations** — `Registering.FaultsWith`: at every registry, a computation fails with the same
  fault, or never fails.  `FaultsWith.bind`: of two computations, the fault of the first comes
  first.
* **Parameters** — `faultsWith_typeToken`: the token of a parameter fails with the fault of the
  first bad parameter among it and its components.
* **Members** — `faultOf_bindMember`: a member fails with the first fault of what is visited in it.
* **Bindings** — `Bindings.accepts_and_reports`: bindings exist exactly when nothing that is visited
  is bad, and the error is otherwise the fault of the first bad parameter.
-/

namespace AbiTypings

variable {α β : Type}

/-! ## Faults of a computation -/

/-- The fault of a result. -/
def faultOf : Except Fault α → Option Fault
  | .ok _ => none
  | .error fault => some fault

theorem faultOf_eq_some_iff {result : Except Fault α} {fault : Fault} :
    faultOf result = some fault ↔ result = .error fault := by
  cases result <;> simp [faultOf]

theorem faultOf_eq_none_iff {result : Except Fault α} :
    faultOf result = none ↔ ∃ a, result = .ok a := by
  cases result <;> simp [faultOf]

namespace Registering

/-- Wherever it starts, a computation fails with the given fault, or never fails if there is
none. -/
def FaultsWith (x : Registering α) (fault : Option Fault) : Prop :=
  ∀ r, faultOf (x.run r).1 = fault

theorem faultsWith_pure (a : α) : (pure a : Registering α).FaultsWith none :=
  fun _ => rfl

theorem faultsWith_modify (f : Registry → Registry) :
    (modify f : Registering PUnit).FaultsWith none :=
  fun _ => rfl

theorem faultsWith_registerRecord (candidate : String) (role : Role) (fields : List Field) :
    (registerRecord candidate role fields).FaultsWith none :=
  fun _ => rfl

theorem faultsWith_ofExcept (result : Except Fault α) :
    (ofExcept result).FaultsWith (faultOf result) :=
  fun _ => rfl

/-- A computation without a fault gives a result from every registry. -/
theorem FaultsWith.exists_run {x : Registering α} (h : x.FaultsWith none) (r : Registry) :
    ∃ a s, x.run r = (.ok a, s) := by
  obtain ⟨a, ha⟩ := faultOf_eq_none_iff.1 (h r)
  exact ⟨a, (x.run r).2, Prod.ext ha rfl⟩

/-- Of two computations, the fault of the first comes first. -/
theorem FaultsWith.bind {x : Registering α} {f : α → Registering β} {first rest : Option Fault}
    (hx : x.FaultsWith first) (hf : ∀ a, (f a).FaultsWith rest) :
    (x >>= f).FaultsWith (first.or rest) := by
  intro r
  have hfirst := hx r
  rw [run_bind]
  rcases hrun : x.run r with ⟨fault | a, s⟩
  · rw [hrun] at hfirst
    rw [← hfirst]
    rfl
  · rw [hrun] at hfirst
    rw [← hfirst]
    exact hf a s

/-- What follows a computation and never fails adds no fault. -/
theorem FaultsWith.bind_of_none {x : Registering α} {f : α → Registering β} {fault : Option Fault}
    (hx : x.FaultsWith fault) (hf : ∀ a, (f a).FaultsWith none) : (x >>= f).FaultsWith fault := by
  have h := hx.bind hf
  rw [Option.or_none] at h
  exact h

/-- What comes before a computation and never fails adds no fault. -/
theorem FaultsWith.of_none_bind {x : Registering α} {f : α → Registering β} {fault : Option Fault}
    (hx : x.FaultsWith none) (hf : ∀ a, (f a).FaultsWith fault) : (x >>= f).FaultsWith fault := by
  have h := hx.bind hf
  rw [Option.none_or] at h
  exact h

end Registering

/-! ## Parameters -/

section Tokens

variable {profile : Profile} {scope : String} {role : Role}

/-- Fixed-point numbers are the types that no dialect has a token for. -/
theorem token?_eq_none_iff (profile : Profile) (side : Side) {type : Elementary} :
    type.token? profile side = none ↔ type.isFixedPoint := by
  cases type <;> cases side <;> simp [Elementary.token?, Elementary.isFixedPoint]

/-- A parameter without components fails if it is bad. -/
theorem faultOf_elementaryToken (profile : Profile) (role : Role) {p : Param} (path : ParamPath)
    (hplain : p.isComposite = false) :
    faultOf (elementaryToken profile role ⟨scope, path.text⟩ p.typeTag) =
      firstFault [⟨scope, path, p⟩] := by
  unfold elementaryToken AbiType.ofTag Elementary.token firstFault
  rcases htype : AbiType.ofTag? p.typeTag with _ | ⟨elementary | _, dims⟩
  · simp [Param.isBad, Visit.fault, htype, Except.mapError, bind, Except.bind, faultOf, Fault.at,
      Visit.location]
  · cases htoken : elementary.token? profile role.side with
    | none =>
      have hfixed := (token?_eq_none_iff profile role.side).1 htoken
      simp [Param.isBad, Visit.fault, htype, hplain, hfixed, htoken, Except.mapError, bind,
        Except.bind, faultOf, Fault.at, Visit.location]
    | some token =>
      have hfixed : elementary.isFixedPoint = false := by
        rw [← Bool.not_eq_true, ← token?_eq_none_iff profile role.side, htoken]
        exact Option.some_ne_none token
      simp [Param.isBad, htype, hplain, hfixed, htoken, Except.mapError, bind, Except.bind, pure,
        Except.pure, faultOf]
  · simp [Param.isBad, Visit.fault, htype, hplain, Except.mapError, bind, Except.bind, throw,
      throwThe, MonadExceptOf.throw, faultOf, Visit.location]

/-- A parameter with components fails by itself if it is bad. -/
theorem faultOf_compositeBrackets {p : Param} (path : ParamPath) (hcomposite : p.isComposite) :
    faultOf (compositeBrackets ⟨scope, path.text⟩ p.typeTag) = firstFault [⟨scope, path, p⟩] := by
  unfold compositeBrackets AbiType.ofTag firstFault
  rcases htype : AbiType.ofTag? p.typeTag with _ | ⟨elementary | _, dims⟩
  · simp [Param.isBad, Visit.fault, htype, Except.mapError, bind, Except.bind, faultOf, Fault.at,
      Visit.location]
  · simp [Param.isBad, Visit.fault, htype, hcomposite, Except.mapError, bind, Except.bind, throw,
      throwThe, MonadExceptOf.throw, faultOf, Visit.location]
  · simp [Param.isBad, htype, hcomposite, Except.mapError, bind, Except.bind, pure, Except.pure,
      faultOf]

/-- Positions and paths say the same. -/
def SameWay (position : Position) (path : ParamPath) : Prop :=
  position.path = path.text

theorem SameWay.component {position : Position} {path : ParamPath} (h : SameWay position path)
    (index : Nat) : SameWay (position.component index) (path.component index) := by
  unfold SameWay at h ⊢
  rw [Position.component, ParamPath.text, h]

mutual

/-- The token of a parameter fails with the first fault among the parameter and its components. -/
theorem faultsWith_typeToken :
    ∀ (p : Param) {position : Position} {path : ParamPath}, SameWay position path →
      (typeToken profile scope role p position).FaultsWith (firstFault (p.visits scope path))
  | ⟨name, typeTag, none, internalType, indexed⟩, position, path, hway => by
    rw [typeToken, hway, Param.visits, ← faultOf_elementaryToken profile role path rfl]
    exact Registering.faultsWith_ofExcept _
  | ⟨name, typeTag, some ps, internalType, indexed⟩, position, path, hway => by
    rw [typeToken, hway, Param.visits, firstFault_cons, ← faultOf_compositeBrackets path rfl]
    refine (Registering.faultsWith_ofExcept _).bind fun _ => ?_
    refine (faultsWith_typeTokens ps (fun i => hway.component i) 0).bind_of_none fun _ => ?_
    refine (Registering.faultsWith_registerRecord _ _ _).bind_of_none fun _ => ?_
    exact Registering.faultsWith_pure _

theorem faultsWith_typeTokens :
    ∀ (ps : List Param) {positionOf : Nat → Position} {pathOf : Nat → ParamPath},
      (∀ i, SameWay (positionOf i) (pathOf i)) → ∀ index,
      (typeTokens profile scope role positionOf index ps).FaultsWith
        (firstFault (siblingVisits scope pathOf index ps))
  | [], _, _, _, _ => by
    rw [typeTokens]
    exact Registering.faultsWith_pure _
  | p :: ps, positionOf, pathOf, hways, index => by
    rw [typeTokens, siblingVisits, firstFault_append]
    refine (faultsWith_typeToken p (hways index)).bind fun _ => ?_
    refine (faultsWith_typeTokens ps hways (index + 1)).bind_of_none fun _ => ?_
    exact Registering.faultsWith_pure _

end

/-- Fields have the first fault that is met among the siblings. -/
theorem faultsWith_recordFields {positionOf : Nat → Position} {pathOf : Nat → ParamPath}
    (hways : ∀ i, SameWay (positionOf i) (pathOf i)) (ps : List Param) :
    (recordFields profile scope role positionOf ps).FaultsWith
      (firstFault (siblingVisits scope pathOf 0 ps)) :=
  (faultsWith_typeTokens ps hways 0).bind_of_none fun _ => Registering.faultsWith_pure _

theorem sameWay_input (index : Nat) : SameWay (Position.input index) (.input index) :=
  rfl

theorem sameWay_output (index : Nat) : SameWay (Position.output index) (.output index) :=
  rfl

/-! ## Members -/

theorem faultsWith_ofConstructor (profile : Profile) (inputs : List Param) (traits : CallTraits) :
    (Method.ofConstructor profile inputs traits).FaultsWith
      (firstFault (Member.visits (.constructor inputs traits))) := by
  refine (Registering.faultsWith_modify _).of_none_bind fun _ => ?_
  refine (faultsWith_recordFields sameWay_input inputs).bind_of_none fun _ => ?_
  exact Registering.faultsWith_pure _

theorem faultsWith_resultOf (profile : Profile) (name : String) (outputs : List Param)
    (traits : CallTraits) :
    (resultOf profile name traits.effect outputs).FaultsWith
      (firstFault (siblingVisits name .output 0 (outputsVisited outputs traits))) := by
  match outputs with
  | [] =>
    rw [outputsVisited, if_pos (Or.inl (by simp))]
    exact Registering.faultsWith_pure _
  | [output] =>
    rw [outputsVisited, if_pos (Or.inl (by simp)), siblingVisits, siblingVisits, List.append_nil]
    refine (faultsWith_typeToken output (sameWay_output 0)).bind_of_none fun _ => ?_
    exact Registering.faultsWith_pure _
  | first :: second :: others =>
    unfold resultOf outputsVisited
    by_cases heffect : traits.effect = .readOnly
    · rw [if_pos (Or.inr heffect), heffect]
      refine (faultsWith_recordFields sameWay_output _).bind_of_none fun _ => ?_
      refine (Registering.faultsWith_registerRecord _ _ _).bind_of_none fun _ => ?_
      exact Registering.faultsWith_pure _
    · have hseveral : ¬ ((first :: second :: others).length ≤ 1 ∨ traits.effect = .readOnly) := by
        simp [heffect]
      have hdropped : ¬ traits.effect.isReadOnly := by
        simpa [CallEffect.isReadOnly] using heffect
      rw [if_neg hseveral]
      dsimp only
      rw [if_neg hdropped]
      exact Registering.faultsWith_pure _

theorem faultsWith_ofFunction (profile : Profile) (name : String) (inputs outputs : List Param)
    (traits : CallTraits) :
    (Method.ofFunction profile name inputs outputs traits).FaultsWith
      (firstFault (Member.visits (.function name inputs outputs traits))) := by
  rw [Member.visits, firstFault_append]
  refine (Registering.faultsWith_modify _).of_none_bind fun _ => ?_
  refine (faultsWith_recordFields sameWay_input inputs).bind fun _ => ?_
  refine (faultsWith_resultOf profile name outputs traits).bind_of_none fun _ => ?_
  exact Registering.faultsWith_pure _

theorem faultsWith_ofEvent (profile : Profile) (name : String) (inputs : List Param)
    (anonymous : Bool) :
    (EventFilter.ofEvent profile name inputs).FaultsWith
      (firstFault (Member.visits (.event name inputs anonymous))) := by
  refine (Registering.faultsWith_modify _).of_none_bind fun _ => ?_
  refine (faultsWith_recordFields sameWay_input inputs).bind_of_none fun fields => ?_
  split
  · exact Registering.faultsWith_pure _
  · refine (Registering.faultsWith_registerRecord _ _ _).bind_of_none fun _ => ?_
    exact Registering.faultsWith_pure _

end Tokens

/-! ## All members -/

namespace Compilation

theorem faultOf_register {α : Type} {action : Registering α} {fault : Option Fault}
    (h : action.FaultsWith fault) (c : Compilation) (take : Compilation → α → Compilation) :
    faultOf (c.register action take).1 = fault := by
  have hfault := h c.registry
  unfold register
  rcases hrun : action.run c.registry with ⟨_ | a, r⟩
  · rw [hrun] at hfault
    exact hfault
  · rw [hrun] at hfault
    exact hfault

/-- Whether a member can be bound is a matter of what is visited in it alone. -/
theorem faultOf_bindMember (profile : Profile) (c : Compilation) (m : Member) :
    faultOf (c.bindMember profile m).1 = firstFault m.visits := by
  cases m with
  | constructor inputs traits => exact faultOf_register (faultsWith_ofConstructor profile _ _) c _
  | function name inputs outputs traits =>
    exact faultOf_register (faultsWith_ofFunction profile _ _ _ _) c _
  | event name inputs anonymous => exact faultOf_register (faultsWith_ofEvent profile _ _ _) c _
  | nonCallable kind name => rfl

/-- A run over members has the first fault that is met among them. -/
theorem faultOf_bindMembers (profile : Profile) (c : Compilation) (ms : List Member) :
    faultOf (bindMembers profile c ms) = firstFault (ms.flatMap Member.visits) := by
  induction ms generalizing c with
  | nil => rfl
  | cons m ms ih =>
    have hm := faultOf_bindMember profile c m
    rw [List.flatMap_cons, firstFault_append, ← hm, bindMembers]
    rcases c.bindMember profile m with ⟨_ | _, c'⟩
    · rfl
    · exact ih c'

end Compilation

/-! ## Bindings -/

/-- Bindings are refused with the first fault that is met among the members. -/
theorem Bindings.faultOf_ofMembers (options : Options) (ms : List Member) :
    faultOf (Bindings.ofMembers options ms) = firstFault (ms.flatMap Member.visits) := by
  have h := Compilation.faultOf_bindMembers options.dialect.profile {} ms
  rw [Bindings.ofMembers]
  cases hrun : Compilation.bindMembers options.dialect.profile {} ms with
  | ok c =>
    rw [hrun] at h
    exact h
  | error fault =>
    rw [hrun] at h
    exact h

/-- Members without bad parameters have bindings. -/
theorem Bindings.exists_ofMembers (options : Options) {ms : List Member}
    (h : ∀ visit ∈ ms.flatMap Member.visits, ¬ visit.param.isBad) :
    ∃ b, Bindings.ofMembers options ms = .ok b := by
  rw [← faultOf_eq_none_iff, faultOf_ofMembers]
  exact firstFault_eq_none_iff.2 h

/-- **The first bad parameter is reported.**  Members have bindings, whatever the options, exactly
when no parameter that is visited is bad.  Otherwise the error is the fault of the first one that
is, at the place where it stands. -/
theorem Bindings.accepts_and_reports (options : Options) (ms : List Member) :
    ((∃ b, Bindings.ofMembers options ms = .ok b) ↔
        ∀ visit ∈ ms.flatMap Member.visits, ¬ visit.param.isBad) ∧
      ∀ fault, Bindings.ofMembers options ms = .error fault ↔
        ∃ before visit after, ms.flatMap Member.visits = before ++ visit :: after ∧
          (∀ earlier ∈ before, ¬ earlier.param.isBad) ∧ visit.param.isBad ∧
          fault = visit.fault := by
  refine ⟨?_, fun fault => ?_⟩
  · rw [← faultOf_eq_none_iff, faultOf_ofMembers]
    exact firstFault_eq_none_iff
  · rw [← faultOf_eq_some_iff, faultOf_ofMembers]
    exact firstFault_eq_some_iff

end AbiTypings
