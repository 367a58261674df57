import AbiTypings.Proofs.FirstFault
import AbiTypings.Proofs.SiblingKeys

/-!
# The parameter names of calls and filters

A method binds its inputs and, in some dialects, a trailing parameter for overrides; the filter of
an event binds the event's inputs.  An input without a name is called by its position.  None of the
names that are made up is compared with the declared ones.

* **What is bound** — `Member.boundNames_method` and `Member.boundNames_filter`: a signature binds
  what its member's inputs are called, and the overrides of the dialect.
* **Distinctness** — `Bindings.boundNames_nodup_iff`: a signature binds distinct names exactly when
  its inputs are declared with distinct names and none of them is made up for another parameter.
  `Bindings.boundNames_not_nodup` is a function with an input called `overrides`.
-/

namespace AbiTypings

/-! ## What is bound -/

/-- The parameter names of a method, its overrides last. -/
def Method.boundNames (method : Method) : List String :=
  method.params.map Field.key ++ method.overrides.toList.map Overrides.name

/-- The parameter names of an event filter. -/
def EventFilter.boundNames (filter : EventFilter) : List String :=
  filter.params.map EventParam.name

/-- What the overrides parameter of a dialect is called, if it has one. -/
def Profile.overridesNames (profile : Profile) : List String :=
  profile.overrides.toList.map OverridesStyle.paramName

/-- The names that the signature of a member binds and that nobody declared: the placeholders of its
unnamed inputs and, for methods, the overrides of the dialect. -/
def Member.madeUpNames (profile : Profile) (m : Member) : List String :=
  placeholders Role.request.placeholder 0 m.inputs ++
    if m.isMethod then profile.overridesNames else []

section Bound

variable {profile : Profile} {m : Member} {r s : Registry}

/-- Inputs have no aliases, so their keys are what they are called as siblings. -/
theorem keys_recordFields {scope : String} {role : Role} {positionOf : Nat → Position}
    {ps : List Param} {fields : List Field} (hrole : role ≠ .response)
    (h : (recordFields profile scope role positionOf ps).run r = (.ok fields, s)) :
    fields.map Field.key = siblingKeys role.placeholder 0 ps := by
  obtain ⟨types, htypes, rfl⟩ := recordFields_eq_ok.1 h
  rw [Profile.aliases_of_ne hrole]
  exact keys_siblingFields role 0 (length_of_typeTokens_eq_ok htypes)

/-- The overrides of a call are called alike, whatever its effect. -/
theorem overridesOf_names (profile : Profile) (effect : CallEffect) :
    (overridesOf profile effect).toList.map Overrides.name = profile.overridesNames := by
  unfold overridesOf Profile.overridesNames
  cases profile.overrides <;> rfl

theorem Member.boundNames_method {action : Registering Method} {method : Method}
    (haction : m.method? profile = some action) (hrun : action.run r = (.ok method, s)) :
    method.boundNames =
      siblingKeys Role.request.placeholder 0 m.inputs ++ profile.overridesNames := by
  cases m with
  | constructor inputs traits =>
    cases haction
    obtain ⟨params, hparams, rfl⟩ := Method.ofConstructor_eq_ok.1 hrun
    rw [Method.boundNames, Method.build, keys_recordFields (by decide) hparams, overridesOf_names]
    rfl
  | function name inputs outputs traits =>
    cases haction
    obtain ⟨params, t, result, hparams, -, rfl⟩ := Method.ofFunction_eq_ok.1 hrun
    rw [Method.boundNames, Method.build, keys_recordFields (by decide) hparams, overridesOf_names]
    rfl
  | event name inputs anonymous => cases haction
  | nonCallable kind name => cases haction

theorem Member.boundNames_filter {action : Registering EventFilter} {filter : EventFilter}
    (haction : m.filter? profile = some action) (hrun : action.run r = (.ok filter, s)) :
    filter.boundNames = siblingKeys Role.request.placeholder 0 m.inputs := by
  cases m with
  | event name inputs anonymous =>
    cases haction
    obtain ⟨fields, t, hfields, -, rfl⟩ := EventFilter.ofEvent_eq_ok.1 hrun
    have hlength := length_of_recordFields_eq_ok (by decide) hfields
    have hnames : (inputs.zipWith eventParam fields).map EventParam.name =
        ((inputs.zipWith eventParam fields).map EventParam.field).map Field.key := by
      rw [List.map_map]
      rfl
    rw [EventFilter.boundNames, hnames, map_field_zipWith_eventParam hlength,
      keys_recordFields (by decide) hfields]
    rfl
  | constructor inputs traits => cases haction
  | function name inputs outputs traits => cases haction
  | nonCallable kind name => cases haction

/-- Constructors and functions are bound as methods, and nothing else is. -/
theorem Member.isMethod_of_method? {action : Registering Method}
    (h : m.method? profile = some action) : m.isMethod := by
  cases m with
  | constructor inputs traits => rfl
  | function name inputs outputs traits => rfl
  | event name inputs anonymous => cases h
  | nonCallable kind name => cases h

theorem Member.not_isMethod_of_filter? {action : Registering EventFilter}
    (h : m.filter? profile = some action) : ¬ m.isMethod := by
  cases m with
  | event name inputs anonymous => exact Bool.false_ne_true
  | constructor inputs traits => cases h
  | function name inputs outputs traits => cases h
  | nonCallable kind name => cases h

end Bound

/-! ## Distinctness -/

/-- No dialect calls its overrides like a placeholder. -/
theorem Dialect.overridesNames_ne_placeholder (dialect : Dialect) :
    ∀ name ∈ dialect.profile.overridesNames, ∀ n : Nat,
      name ≠ Role.request.placeholder ++ toString n := by
  intro name hmem n heq
  have hfirst : ∀ name ∈ dialect.profile.overridesNames, name.toList.head? = some 'o' := by
    cases dialect <;> decide
  have hletter := hfirst name hmem
  rw [heq, String.toList_append, List.head?_append] at hletter
  exact absurd hletter (by simp [Role.placeholder])

theorem Dialect.nodup_overridesNames (dialect : Dialect) :
    dialect.profile.overridesNames.Nodup := by
  cases dialect <;> decide

/-- **When a signature binds distinct names.**  In the bindings of any members in any dialect, a
method or event filter binds distinct names exactly when the inputs of its member are declared with
distinct names and none of these is the placeholder of an unnamed input or, for a method, the name
of the dialect's overrides. -/
theorem Bindings.boundNames_nodup_iff {options : Options} {ms : List Member} {b : Bindings}
    (h : Bindings.ofMembers options ms = .ok b) :
    List.Forall₂ (fun m method => method.boundNames.Nodup ↔ (declaredNames m.inputs).Nodup ∧
        (declaredNames m.inputs).Disjoint (m.madeUpNames options.dialect.profile))
      (ms.filter Member.isMethod) b.methods ∧
    List.Forall₂ (fun m filter => filter.boundNames.Nodup ↔ (declaredNames m.inputs).Nodup ∧
        (declaredNames m.inputs).Disjoint (m.madeUpNames options.dialect.profile))
      (ms.filter Member.isEvent) b.events := by
  refine forall₂_of_ofMembers h ?_ ?_
  · intro m _ action method r s haction _ hrun _
    rw [m.boundNames_method haction hrun, Member.madeUpNames,
      if_pos (m.isMethod_of_method? haction)]
    exact nodup_siblingKeys_append_iff options.dialect.nodup_overridesNames
      options.dialect.overridesNames_ne_placeholder
  · intro m _ action filter r s haction _ hrun _
    rw [m.boundNames_filter haction hrun, Member.madeUpNames,
      if_neg (m.not_isMethod_of_filter? haction),
      ← List.append_nil (siblingKeys Role.request.placeholder 0 m.inputs)]
    exact nodup_siblingKeys_append_iff List.nodup_nil fun _ hmem => absurd hmem List.not_mem_nil

/-- A function with an input that is called like the overrides of the ethers dialects. -/
def relayMembers : List Member :=
  [.function "relay" [⟨"overrides", "uint256", none, none, false⟩] [] (.ofMutability .nonPayable)]

theorem Bindings.boundNames_nodup_iff_relay :
    ∃ b, Bindings.ofMembers ⟨.ethersV5, none, none⟩ relayMembers = .ok b ∧
      List.Forall₂ (fun m method => method.boundNames.Nodup ↔ (declaredNames m.inputs).Nodup ∧
          (declaredNames m.inputs).Disjoint (m.madeUpNames Dialect.ethersV5.profile))
        (relayMembers.filter Member.isMethod) b.methods := by
  have hgood : ∀ visit ∈ relayMembers.flatMap Member.visits, ¬ visit.param.isBad := by
    decide
  obtain ⟨b, hb⟩ := exists_ofMembers ⟨.ethersV5, none, none⟩ hgood
  exact ⟨b, hb, (boundNames_nodup_iff hb).1⟩

/-- The only input of the function is declared with a name of its own, and the overrides are called
like it. -/
theorem Bindings.boundNames_not_nodup :
    (∀ m ∈ relayMembers, (declaredNames m.inputs).Nodup) ∧
      ∃ b, Bindings.ofMembers ⟨.ethersV5, none, none⟩ relayMembers = .ok b ∧
        ∃ method ∈ b.methods, ¬ method.boundNames.Nodup := by
  obtain ⟨b, hb, hnames⟩ : ∃ b, Bindings.ofMembers ⟨.ethersV5, none, none⟩ relayMembers = .ok b ∧
      b.methods.map Method.boundNames = [["overrides", "overrides"]] :=
    exists_of_toOption_map (by decide +kernel)
  have hmem : ["overrides", "overrides"] ∈ b.methods.map Method.boundNames := by
    rw [hnames]
    exact List.mem_singleton_self _
  obtain ⟨method, hmethod, hbound⟩ := List.mem_map.1 hmem
  refine ⟨by decide, b, hb, method, hmethod, ?_⟩
  rw [hbound]
  decide

end AbiTypings
