import AbiTypings.Proofs.FirstFault

/-!
# Outputs of calls that change the state

A call that may change the state hands back its transaction, so its outputs are no part of its
method.  Several outputs are not even looked at.  A single one gets its type token, and the records
that are registered for it are all that can be seen of it.

* **What is appended** — `Registry.pushAll` appends records as they are, and
  `Registering.Appends role` says of a computation that it does nothing else to the registry, with
  records of one role.  `appends_typeToken`: so does the token of a parameter.
* **Several outputs** — `bindMember_of_drops`: nothing changes if they are left out.
* **A single output** — `bindMember_single`: the method is the one without outputs, and
  records of responses are appended.
* **Bindings** — `Bindings.outputs_dropped` puts these together.
-/

namespace AbiTypings

variable {α β : Type}

/-! ## What is appended -/

/-- Append records under the names they have. -/
def Registry.pushAll (r : Registry) (records : List Record) : Registry :=
  records.foldl (fun r record => r.push record.name record.shape) r

theorem Registry.pushAll_append (r : Registry) (records records' : List Record) :
    r.pushAll (records ++ records') = (r.pushAll records).pushAll records' :=
  List.foldl_append

/-- Whether it succeeds or fails, a computation appends records of a role and does nothing else. -/
def Registering.Appends (role : Role) (x : Registering α) : Prop :=
  ∀ r : Registry, ∃ records, (∀ record ∈ records, record.role = role) ∧
    (x.run r).2 = r.pushAll records

namespace Registering

variable {role : Role}

theorem appends_pure (a : α) : (pure a : Registering α).Appends role :=
  fun _ => ⟨[], by simp, rfl⟩

theorem appends_ofExcept (result : Except Fault α) : (ofExcept result).Appends role :=
  fun _ => ⟨[], by simp, rfl⟩

/-- A record that is shared is not appended again. -/
theorem appends_registerRecord (candidate : String) (fields : List Field) :
    (registerRecord candidate role fields).Appends role := by
  intro r
  change ∃ records, _ ∧ (r.add candidate role fields).2 = r.pushAll records
  cases hshared : r.shared? candidate ⟨role, fields⟩ with
  | some name =>
    refine ⟨[], by simp, ?_⟩
    simp only [Registry.add, hshared]
    rfl
  | none =>
    refine ⟨[⟨Registry.unusedName r.names candidate, role, fields⟩], by simp, ?_⟩
    simp only [Registry.add, hshared]
    rfl

theorem Appends.bind {x : Registering α} {f : α → Registering β} (hx : x.Appends role)
    (hf : ∀ a, (f a).Appends role) : (x >>= f).Appends role := by
  intro r
  obtain ⟨records, hrecords, hrun⟩ := hx r
  rw [run_bind]
  rcases hresult : x.run r with ⟨_ | a, s⟩
  · rw [hresult] at hrun
    exact ⟨records, hrecords, hrun⟩
  · rw [hresult] at hrun
    obtain ⟨records', hrecords', hrun'⟩ := hf a s
    refine ⟨records ++ records', List.forall_mem_append.2 ⟨hrecords, hrecords'⟩, ?_⟩
    rw [Registry.pushAll_append, ← hrun]
    exact hrun'

end Registering

section Tokens

variable (profile : Profile) (scope : String) (role : Role)

mutual

/-- The token of a parameter appends records of the role of its use. -/
theorem appends_typeToken : ∀ (p : Param) (position : Position),
    (typeToken profile scope role p position).Appends role
  | ⟨_, _, none, _, _⟩, _ => by
    rw [typeToken]
    exact Registering.appends_ofExcept _
  | ⟨_, _, some ps, _, _⟩, position => by
    rw [typeToken]
    refine (Registering.appends_ofExcept _).bind fun _ => ?_
    refine (appends_typeTokens ps position.component 0).bind fun _ => ?_
    refine (Registering.appends_registerRecord _ _).bind fun _ => ?_
    exact Registering.appends_pure _

/-- Tokens append no more than records of their role. -/
theorem appends_typeTokens : ∀ (ps : List Param) (positionOf : Nat → Position) (index : Nat),
    (typeTokens profile scope role positionOf index ps).Appends role
  | [], _, _ => by
    rw [typeTokens]
    exact Registering.appends_pure _
  | p :: ps, positionOf, index => by
    rw [typeTokens]
    refine (appends_typeToken p (positionOf index)).bind fun _ => ?_
    refine (appends_typeTokens ps positionOf (index + 1)).bind fun _ => ?_
    exact Registering.appends_pure _

end

end Tokens

/-! ## Functions -/

section Functions

variable {profile : Profile} {name : String} {inputs : List Param} {traits : CallTraits}

/-- Several outputs of a call that may change the state are not looked at. -/
theorem resultOf_several (hchanges : traits.effect ≠ .readOnly) {outputs : List Param}
    (hseveral : 2 ≤ outputs.length) :
    resultOf profile name traits.effect outputs = resultOf profile name traits.effect [] := by
  match outputs, hseveral with
  | _ :: _ :: _, _ =>
    unfold resultOf
    dsimp only
    rw [if_neg (by simpa [CallEffect.isReadOnly] using hchanges)]

/-- A function that changes the state is the same method with several outputs as with none. -/
theorem Method.ofFunction_several (hchanges : traits.effect ≠ .readOnly) {outputs : List Param}
    (hseveral : 2 ≤ outputs.length) :
    Method.ofFunction profile name inputs outputs traits =
      Method.ofFunction profile name inputs [] traits := by
  simp only [ofFunction, resultOf_several hchanges hseveral]

/-- Whether a single output of a function gets its token, at some registry at least. -/
def Param.IsTokenized (profile : Profile) (function : String) (output : Param) : Prop :=
  ∃ r token s, (typeToken profile function .response output (.output 0)).run r = (.ok token, s)

/-- A parameter that gets its token at some registry gets one at every registry. -/
theorem Param.IsTokenized.exists_run {output : Param} (h : output.IsTokenized profile name)
    (r : Registry) :
    ∃ token s, (typeToken profile name .response output (.output 0)).run r = (.ok token, s) := by
  obtain ⟨r', _, _, hrun⟩ := h
  have hfault : (typeToken profile name .response output (.output 0)).FaultsWith
      (firstFault (output.visits name (.output 0))) :=
    faultsWith_typeToken output (sameWay_output 0)
  have hnone := hfault r'
  rw [hrun] at hnone
  rw [← hnone] at hfault
  exact hfault.exists_run r

/-- A function is bound by its inputs first, and its outputs after that. -/
theorem Method.run_ofFunction (outputs : List Param) (r : Registry) :
    (Method.ofFunction profile name inputs outputs traits).run r =
      match (inputFields profile name inputs).run (r.noteMethod name) with
      | (.error fault, t) => (.error fault, t)
      | (.ok params, t) =>
        match (resultOf profile name traits.effect outputs).run t with
        | (.error fault, s) => (.error fault, s)
        | (.ok result, s) =>
          (.ok (.build profile name false traits.effect params result
            (docsOf .function traits traits.effect inputs)), s) := by
  rw [Method.ofFunction, Registering.run_bind_of_ok (Registering.run_modify _ r)]
  dsimp only
  rw [Registering.run_bind]
  rcases (inputFields profile name inputs).run (r.noteMethod name) with ⟨_ | params, t⟩
  · rfl
  · dsimp only
    rw [Registering.run_bind]
    rcases (resultOf profile name traits.effect outputs).run t with ⟨_ | result, s⟩ <;> rfl

variable (inputs) in
/-- A single output of a call that may change the state leaves its method as it is, and records of
responses at the end of the registry. -/
theorem Method.ofFunction_single (hchanges : traits.effect ≠ .readOnly) {output : Param}
    (houtput : output.IsTokenized profile name) (r : Registry) :
    ∃ records, (∀ record ∈ records, record.role = .response) ∧
      (Method.ofFunction profile name inputs [output] traits).run r =
        (((Method.ofFunction profile name inputs [] traits).run r).1,
          ((Method.ofFunction profile name inputs [] traits).run r).2.pushAll records) := by
  rw [run_ofFunction, run_ofFunction]
  rcases (inputFields profile name inputs).run (r.noteMethod name) with ⟨fault | params, t⟩
  · exact ⟨[], by simp, rfl⟩
  · obtain ⟨token, s, htoken⟩ := houtput.exists_run t
    obtain ⟨records, hroles, hrecords⟩ := appends_typeToken profile name .response output
      (.output 0) t
    rw [htoken] at hrecords
    refine ⟨records, hroles, ?_⟩
    have hresult : (resultOf profile name traits.effect [output]).run t = (.ok (.value token), s) :=
      resultOf_single_eq_ok.2 ⟨token, htoken, rfl⟩
    have hvoid : (resultOf profile name traits.effect []).run t = (.ok .void, t) := rfl
    dsimp only
    rw [hresult, hvoid]
    dsimp only
    rw [Method.build, Method.build, wrapResult_of_ne hchanges (.value token), ← hrecords]

end Functions

/-! ## Members -/

/-- A member as it is, or a function that may change the state without the outputs it has, which
are several. -/
inductive Member.Drops : Member → Member → Prop
  | same (m : Member) : Drops m m
  | outputs (name : String) (inputs outputs : List Param) (traits : CallTraits)
      (changes : traits.effect ≠ .readOnly) (several : 2 ≤ outputs.length) :
      Drops (.function name inputs outputs traits) (.function name inputs [] traits)

namespace Compilation

variable {profile : Profile} {m m' : Member} {ms ms' : List Member}

theorem bindMember_of_drops (h : m.Drops m') (c : Compilation) :
    c.bindMember profile m = c.bindMember profile m' := by
  cases h with
  | same => rfl
  | outputs name inputs outputs traits changes several =>
    rw [bindMember, Method.ofFunction_several changes several]
    rfl

/-- Members that differ in dropped outputs alone are bound alike. -/
theorem bindMembers_of_drops (h : List.Forall₂ Member.Drops ms ms') (c : Compilation) :
    bindMembers profile c ms = bindMembers profile c ms' := by
  induction h generalizing c with
  | nil => rfl
  | cons hm _ ih =>
    rw [bindMembers, bindMembers, bindMember_of_drops hm c]
    split
    · exact ih _
    · rfl

/-- To bind a function with a single output, if it may change the state, is to bind it without, and
to append records of responses. -/
theorem bindMember_single {name : String} (inputs : List Param) {output : Param}
    {traits : CallTraits} (hchanges : traits.effect ≠ .readOnly)
    (houtput : output.IsTokenized profile name) (c : Compilation) :
    ∃ records, (∀ record ∈ records, record.role = .response) ∧
      c.bindMember profile (.function name inputs [output] traits) =
        ((c.bindMember profile (.function name inputs [] traits)).1,
          { (c.bindMember profile (.function name inputs [] traits)).2 with
            registry := (c.bindMember profile
              (.function name inputs [] traits)).2.registry.pushAll records }) := by
  obtain ⟨records, hroles, hrun⟩ :=
    Method.ofFunction_single inputs hchanges houtput c.registry
  refine ⟨records, hroles, ?_⟩
  simp only [bindMember, register]
  rw [hrun]
  rcases (Method.ofFunction profile name inputs [] traits).run c.registry with ⟨_ | method, r⟩ <;>
    rfl

end Compilation

/-! ## Bindings -/

/-- **Outputs of calls that change the state are dropped.**  Whatever the options, to leave out the
outputs of any functions that may change the state and have several, be they well-formed or not,
changes neither the bindings of a list of members nor the fault that is reported instead.  And to
bind such a function with a single output that gets its token, whatever was compiled before, leaves
the same as to bind it without outputs, except for records of responses at the end of those
registered then. -/
theorem Bindings.outputs_dropped (options : Options) :
    (∀ ms ms', List.Forall₂ Member.Drops ms ms' →
        Bindings.ofMembers options ms = Bindings.ofMembers options ms') ∧
      ∀ (c : Compilation) (name : String) (inputs : List Param) (output : Param)
        (traits : CallTraits), traits.effect ≠ .readOnly →
          output.IsTokenized options.dialect.profile name →
          ∃ records, (∀ record ∈ records, record.role = .response) ∧
            ∀ result d, c.bindMember options.dialect.profile (.function name inputs [] traits) =
                (result, d) →
              c.bindMember options.dialect.profile (.function name inputs [output] traits) =
                (result, { d with registry := d.registry.pushAll records }) := by
  refine ⟨fun ms ms' h => ?_, fun c name inputs output traits hchanges houtput => ?_⟩
  · rw [Bindings.ofMembers, Bindings.ofMembers, Compilation.bindMembers_of_drops h]
  · obtain ⟨records, hroles, hbound⟩ :=
      Compilation.bindMember_single inputs hchanges houtput c
    refine ⟨records, hroles, fun result d hempty => ?_⟩
    rw [hbound, hempty]

/-- A function that may change the state. -/
def withdraws (outputs : List Param) : Member :=
  .function "withdraw" [⟨"amount", "uint256", none, none, false⟩] outputs
    (.ofMutability .nonPayable)

/-- A struct that is handed back. -/
def receipt : Param :=
  ⟨"", "tuple", some [⟨"left", "uint256", none, none, false⟩], some "struct Receipt", false⟩

/-- Of two outputs, the second has no type at all; of a single struct there is a record. -/
theorem Bindings.outputs_dropped_withdraw :
    Bindings.ofMembers ⟨.web3, none, none⟩ [withdraws [receipt, ⟨"", "", none, none, false⟩]] =
        Bindings.ofMembers ⟨.web3, none, none⟩ [withdraws []] ∧
      ∃ d records, Compilation.bindMember Dialect.web3.profile {} (withdraws []) = (.ok (), d) ∧
        Compilation.bindMember Dialect.web3.profile {} (withdraws [receipt]) =
          (.ok (), { d with registry := d.registry.pushAll records }) ∧
        (∀ record ∈ records, record.role = .response) ∧
        (d.registry.pushAll records).records.map Record.name = ["ReceiptResponse"] := by
  obtain ⟨hseveral, hsingle⟩ := outputs_dropped ⟨.web3, none, none⟩
  have hchanges : (CallTraits.ofMutability .nonPayable).effect ≠ .readOnly := by decide
  have htoken : receipt.IsTokenized Dialect.web3.profile "withdraw" := by
    have hfault : firstFault (receipt.visits "withdraw" (.output 0)) = none := by decide
    have hrun : (typeToken Dialect.web3.profile "withdraw" .response receipt (.output 0)).FaultsWith
        (firstFault (receipt.visits "withdraw" (.output 0))) :=
      faultsWith_typeToken receipt (sameWay_output 0)
    rw [hfault] at hrun
    exact ⟨{}, hrun.exists_run {}⟩
  obtain ⟨records, hroles, hbound⟩ := hsingle {} "withdraw" _ receipt _ hchanges htoken
  have hfault := Compilation.faultOf_bindMember Dialect.web3.profile {} (withdraws [])
  obtain ⟨_, hok⟩ := faultOf_eq_none_iff.1 (hfault.trans (by decide))
  have hempty : Compilation.bindMember Dialect.web3.profile {} (withdraws []) =
      (.ok (), (Compilation.bindMember Dialect.web3.profile {} (withdraws [])).2) :=
    Prod.ext hok rfl
  have hsame := hbound _ _ hempty
  have hnames : (Compilation.bindMember Dialect.web3.profile {}
      (withdraws [receipt])).2.registry.records.map Record.name = ["ReceiptResponse"] := by
    decide +kernel
  rw [withdraws, hsame] at hnames
  exact ⟨hseveral _ _ (.cons (.outputs _ _ _ _ hchanges (by decide)) .nil), _, records, hempty,
    hsame, hroles, hnames⟩

end AbiTypings
