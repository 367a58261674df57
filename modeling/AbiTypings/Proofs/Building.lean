import AbiTypings.Proofs.FirstFault
import AbiTypings.Proofs.Traversal
import AbiTypings.Proofs.Written

/-!
# How records come about

A record is registered when the tokens of its siblings have been made, so these name nothing but
records that are there already.  This holds of every registration, those of members that fail later
on included, and it does not matter whether the records that are named are new, renumbered or
shared.

* **Order** — `BuiltFrom`: every record is yielded by some body, over the records before it.
  `BuiltFrom.yields` reads this off for a record at a position.
* **Registrations** — `builtFrom_add`: registering what a body yields keeps this up.
* **Computations** — `Registry.Built.bind`, `built_typeToken` and their like, up to
  `Compilation.built_bindMember`: whether it succeeds or fails, binding a member registers nothing
  but what its bodies yield.
* **Runs that go on** — `Compilation.bindAll` binds members one after the other and goes on after
  those that fail.  `Compilation.built_bindAll` and `Compilation.written_bindAll` say what its
  records, methods and filters are like.
-/

namespace AbiTypings

/-! ## Order -/

/-- Records in the order of their registration: each is yielded by one of the bodies, over the
records before it. -/
inductive BuiltFrom (profile : Profile) (bodies : List RecordBody) : List Record → Prop
  | nil : BuiltFrom profile bodies []
  | snoc {records : List Record} {body : RecordBody} {record : Record}
      (built : BuiltFrom profile bodies records) (mem : body ∈ bodies)
      (yields : body.Yields profile records record) : BuiltFrom profile bodies (records ++ [record])

section Order

variable {profile : Profile} {bodies : List RecordBody} {records : List Record}

/-- The record at a position is yielded over the records before that position. -/
theorem BuiltFrom.yields (h : BuiltFrom profile bodies records) {i : Nat} {record : Record}
    (hi : records[i]? = some record) :
    ∃ body ∈ bodies, body.Yields profile (records.take i) record := by
  induction h with
  | nil => cases hi
  | @snoc records body last built mem yields ih =>
    obtain hlt | heq | hgt := Nat.lt_trichotomy i records.length
    · rw [List.getElem?_append_left hlt] at hi
      rw [List.take_append_of_le_length (Nat.le_of_lt hlt)]
      exact ih hi
    · subst heq
      rw [List.getElem?_concat_length] at hi
      rw [List.take_left, ← Option.some.inj hi]
      exact ⟨body, mem, yields⟩
    · have hnone : (records ++ [last])[i]? = none := by
        rw [List.getElem?_eq_none_iff, List.length_append, List.length_singleton]
        exact hgt
      rw [hnone] at hi
      cases hi

/-- Registering what a body yields keeps records in order. -/
theorem builtFrom_add {r : Registry} (hwf : r.WellFormed)
    (h : BuiltFrom profile bodies r.records) (candidate : String) {body : RecordBody}
    (hbody : body ∈ bodies) {types : List String}
    (hwritten : WrittenAll profile body.role r.records body.params types) :
    BuiltFrom profile bodies
      (r.add candidate body.role (body.fields profile types)).2.records := by
  obtain ⟨_, -, -, -, hadd⟩ | ⟨-, hadd⟩ :=
    Registry.add_cases hwf candidate body.role (body.fields profile types)
  · rw [hadd]
    exact h
  · rw [hadd]
    exact h.snoc hbody ⟨types, hwritten, rfl⟩

end Order

/-- A registry whose records are built from the given bodies. -/
structure Registry.Built (profile : Profile) (bodies : List RecordBody) (r : Registry) : Prop where
  wellFormed : r.WellFormed
  builtFrom : BuiltFrom profile bodies r.records

namespace Registry.Built

variable {α β : Type} {profile : Profile} {bodies : List RecordBody} {r : Registry}

theorem empty (profile : Profile) (bodies : List RecordBody) : Built profile bodies {} :=
  ⟨wellFormed_empty, .nil⟩

theorem add (h : r.Built profile bodies) (candidate : String) {body : RecordBody}
    (hbody : body ∈ bodies) {types : List String}
    (hwritten : WrittenAll profile body.role r.records body.params types) :
    (r.add candidate body.role (body.fields profile types)).2.Built profile bodies :=
  ⟨wellFormed_add h.wellFormed _ _ _, builtFrom_add h.wellFormed h.builtFrom _ hbody hwritten⟩

theorem noteMethod (h : r.Built profile bodies) (name : String) :
    (r.noteMethod name).Built profile bodies :=
  ⟨h.wellFormed.noteMethod, h.builtFrom⟩

theorem noteEvent (h : r.Built profile bodies) (name : String) :
    (r.noteEvent name).Built profile bodies :=
  ⟨h.wellFormed.noteEvent, h.builtFrom⟩

/-- If the first of two computations fails, what it registered stays. -/
theorem bind {x : Registering α} {f : α → Registering β}
    (hx : (x.run r).2.Built profile bodies)
    (hf : ∀ a s, x.run r = (.ok a, s) → s.Built profile bodies →
      ((f a).run s).2.Built profile bodies) :
    ((x >>= f).run r).2.Built profile bodies := by
  rw [Registering.run_bind]
  rcases hrun : x.run r with ⟨_ | a, s⟩
  · rw [hrun] at hx
    exact hx
  · rw [hrun] at hx
    exact hf a s hrun hx

end Registry.Built

/-! ## Parameters -/

section Params

variable {profile : Profile} {scope : String} {role : Role} {bodies : List RecordBody}

mutual

/-- Whether it succeeds or fails, the token of a parameter registers what its bodies yield. -/
theorem built_typeToken : ∀ (p : Param) (position : Position) {r : Registry},
    p.bodies role ⊆ bodies → r.Built profile bodies →
      ((typeToken profile scope role p position).run r).2.Built profile bodies
  | ⟨_, _, none, _, _⟩, _, _, _, hr => by
    rw [typeToken]
    exact hr
  | ⟨_, _, some ps, _, _⟩, position, r, hbodies, hr => by
    rw [Param.bodies, List.append_subset] at hbodies
    obtain ⟨hcomponents, hown⟩ := hbodies
    rw [typeToken]
    refine .bind hr fun _ s _ hs => ?_
    refine .bind (built_typeTokens ps position.component 0 hcomponents hs)
      fun types t htypes ht => ?_
    refine .bind ?_ fun _ _ _ hu => hu
    have hwritten := writtenAll_of_run ps position.component 0 hs.wellFormed htypes
    rw [← RecordBody.fields_of_not_counted]
    exact ht.add _ (hown (List.mem_singleton_self _)) hwritten

theorem built_typeTokens : ∀ (ps : List Param) (positionOf : Nat → Position) (index : Nat)
    {r : Registry}, siblingBodies role ps ⊆ bodies → r.Built profile bodies →
      ((typeTokens profile scope role positionOf index ps).run r).2.Built profile bodies
  | [], _, _, _, _, hr => by
    rw [typeTokens]
    exact hr
  | p :: ps, positionOf, index, r, hbodies, hr => by
    rw [siblingBodies, List.append_subset] at hbodies
    rw [typeTokens]
    refine .bind (built_typeToken p (positionOf index) hbodies.1 hr) fun _ s _ hs => ?_
    refine .bind (built_typeTokens ps positionOf (index + 1) hbodies.2 hs) fun _ _ _ ht => ht

end

/-- Fields register records of the bodies of the siblings. -/
theorem built_recordFields {r : Registry} (positionOf : Nat → Position) (ps : List Param)
    (hbodies : siblingBodies role ps ⊆ bodies) (hr : r.Built profile bodies) :
    ((recordFields profile scope role positionOf ps).run r).2.Built profile bodies :=
  .bind (built_typeTokens ps positionOf 0 hbodies hr) fun _ _ _ hs => hs

end Params

/-! ## Members -/

section Members

variable {profile : Profile} {bodies : List RecordBody} {r : Registry}

/-- Results register records of the bodies of the outputs. -/
theorem built_resultOf (name : String) (outputs : List Param) (traits : CallTraits)
    (hbodies : outputBodies outputs traits ⊆ bodies) (hr : r.Built profile bodies) :
    ((resultOf profile name traits.effect outputs).run r).2.Built profile bodies := by
  match outputs with
  | [] => exact hr
  | [output] =>
    rw [outputBodies, outputsVisited, if_pos (Or.inl (by simp)), siblingBodies, siblingBodies,
      List.append_nil, List.append_subset] at hbodies
    exact .bind (built_typeToken output (.output 0) hbodies.1 hr) fun _ _ _ hs => hs
  | first :: second :: others =>
    unfold resultOf
    by_cases heffect : traits.effect = .readOnly
    · have hseveral : 2 ≤ (first :: second :: others).length ∧ traits.effect = .readOnly :=
        ⟨by simp, heffect⟩
      rw [outputBodies, outputsVisited, if_pos (Or.inr heffect), if_pos hseveral,
        List.append_subset] at hbodies
      rw [heffect]
      refine .bind (built_recordFields Position.output _ hbodies.1 hr) fun fields s hfields hs => ?_
      refine .bind ?_ fun _ _ _ ht => ht
      obtain ⟨types, htypes, rfl⟩ := recordFields_eq_ok.1 hfields
      have hwritten := writtenAll_of_run _ Position.output 0 hr.wellFormed htypes
      exact hs.add (outputsRecordName name) (hbodies.2 (List.mem_singleton_self _)) hwritten
    · have hdropped : ¬ traits.effect.isReadOnly := by
        simpa [CallEffect.isReadOnly] using heffect
      dsimp only
      rw [if_neg hdropped]
      exact hr

theorem built_ofConstructor (inputs : List Param) (traits : CallTraits)
    (hbodies : Member.bodies (.constructor inputs traits) ⊆ bodies) (hr : r.Built profile bodies) :
    ((Method.ofConstructor profile inputs traits).run r).2.Built profile bodies := by
  refine .bind (hr.noteMethod constructorName) fun _ s _ hs => ?_
  refine .bind (built_recordFields Position.input inputs hbodies hs) fun _ _ _ ht => ht

theorem built_ofFunction (name : String) (inputs outputs : List Param) (traits : CallTraits)
    (hbodies : Member.bodies (.function name inputs outputs traits) ⊆ bodies)
    (hr : r.Built profile bodies) :
    ((Method.ofFunction profile name inputs outputs traits).run r).2.Built profile bodies := by
  rw [Member.bodies, List.append_subset] at hbodies
  refine .bind (hr.noteMethod name) fun _ s _ hs => ?_
  refine .bind (built_recordFields Position.input inputs hbodies.1 hs) fun _ t _ ht => ?_
  refine .bind (built_resultOf name outputs traits hbodies.2 ht) fun _ _ _ hu => hu

theorem built_ofEvent (name : String) (inputs : List Param) (anonymous : Bool)
    (hbodies : Member.bodies (.event name inputs anonymous) ⊆ bodies)
    (hr : r.Built profile bodies) :
    ((EventFilter.ofEvent profile name inputs).run r).2.Built profile bodies := by
  rw [Member.bodies, List.append_subset] at hbodies
  refine .bind (hr.noteEvent name) fun _ s _ hs => ?_
  refine .bind (built_recordFields Position.input inputs hbodies.1 hs) fun fields t hfields ht => ?_
  split
  · exact ht
  · rename_i hsome
    refine .bind ?_ fun _ _ _ hu => hu
    have hne : ¬ inputs.isEmpty := by
      have hlength := length_of_recordFields_eq_ok (by decide) hfields
      rwa [List.isEmpty_iff_length_eq_zero, ← hlength, ← List.isEmpty_iff_length_eq_zero]
    obtain ⟨types, htypes, rfl⟩ := recordFields_eq_ok.1 hfields
    have hwritten := writtenAll_of_run inputs Position.input 0 hs.wellFormed htypes
    rw [if_neg hne] at hbodies
    have hown := ht.add (eventRecordName name) (hbodies.2 (List.mem_singleton_self _)) hwritten
    rw [RecordBody.fields_of_not_counted] at hown
    exact hown

end Members

/-! ## Runs that go on -/

namespace Compilation

variable {profile : Profile} {bodies : List RecordBody} {c : Compilation}

/-- Whether it succeeds or fails, binding a member registers what its bodies yield. -/
theorem built_bindMember {m : Member} (hbodies : m.bodies ⊆ bodies)
    (hc : c.registry.Built profile bodies) :
    (c.bindMember profile m).2.registry.Built profile bodies := by
  cases m with
  | constructor inputs traits =>
    rw [bindMember, registry_register registry_addMethod]
    exact built_ofConstructor inputs traits hbodies hc
  | function name inputs outputs traits =>
    rw [bindMember, registry_register registry_addMethod]
    exact built_ofFunction name inputs outputs traits hbodies hc
  | event name inputs anonymous =>
    rw [bindMember, registry_register registry_addEvent]
    exact built_ofEvent name inputs anonymous hbodies hc
  | nonCallable kind name => exact hc

/-- Bind members in order, and go on after each that fails. -/
def bindAll (profile : Profile) (c : Compilation) (ms : List Member) : Compilation :=
  ms.foldl (fun c m => (c.bindMember profile m).2) c

theorem bindAll_cons (profile : Profile) (c : Compilation) (m : Member) (ms : List Member) :
    bindAll profile c (m :: ms) = bindAll profile (c.bindMember profile m).2 ms := rfl

/-- Where no member fails, going on after failures makes no difference. -/
theorem bindAll_of_bindMembers_eq_ok {ms : List Member} {d : Compilation}
    (h : bindMembers profile c ms = .ok d) : bindAll profile c ms = d := by
  induction ms generalizing c with
  | nil =>
    cases h
    rfl
  | cons m ms ih =>
    obtain ⟨c', hm, hms⟩ := bindMembers_cons_eq_ok.1 h
    rw [bindAll_cons, hm]
    exact ih hms

/-- Members register records of their bodies, whether they succeed or fail. -/
theorem built_bindAll {ms : List Member} (hbodies : ms.flatMap Member.bodies ⊆ bodies)
    (hc : c.registry.Built profile bodies) :
    (bindAll profile c ms).registry.Built profile bodies := by
  induction ms generalizing c with
  | nil => exact hc
  | cons m ms ih =>
    rw [List.flatMap_cons, List.append_subset] at hbodies
    exact ih hbodies.2 (built_bindMember hbodies.1 hc)

theorem reaches_bindAll (profile : Profile) (c : Compilation) (ms : List Member) :
    c.registry.Reaches asksFitting (bindAll profile c ms).registry := by
  induction ms generalizing c with
  | nil => exact .refl _
  | cons m ms ih =>
    have hfirst := reaches_bindMember profile c (m := m) Member.asksFitting_of_mem_asks
    exact hfirst.trans (ih _)

end Compilation

/-- Whether a member can be bound. -/
def Member.isSound (m : Member) : Bool :=
  (firstFault m.visits).isNone

namespace Compilation

variable (profile : Profile) (c : Compilation) {m : Member} (ms : List Member)

/-- A member is bound exactly when it is sound. -/
theorem bindMember_fst_eq_ok_iff : (c.bindMember profile m).1 = .ok () ↔ m.isSound := by
  have hfault := faultOf_bindMember profile c m
  rw [Member.isSound, ← hfault, Option.isNone_iff_eq_none, faultOf_eq_none_iff]
  exact ⟨fun h => ⟨(), h⟩, fun ⟨_, h⟩ => h⟩

theorem bindMember_of_isSound (h : m.isSound) :
    c.bindMember profile m = (.ok (), (c.bindMember profile m).2) :=
  Prod.ext ((bindMember_fst_eq_ok_iff profile c).2 h) rfl

/-- A member that fails leaves no method or filter. -/
theorem bindMember_of_not_isSound (h : ¬ m.isSound) :
    (c.bindMember profile m).2.methods = c.methods ∧
      (c.bindMember profile m).2.events = c.events := by
  have hfail : ∀ {α : Type} (action : Registering α) (take : Compilation → α → Compilation),
      (c.register action take).1 ≠ .ok () →
        (c.register action take).2.methods = c.methods ∧
          (c.register action take).2.events = c.events := by
    intro α action take hne
    unfold register
    rcases hrun : action.run c.registry with ⟨_ | a, r⟩
    · exact ⟨rfl, rfl⟩
    · refine absurd ?_ hne
      rw [register, hrun]
  rw [← bindMember_fst_eq_ok_iff profile c] at h
  cases m with
  | constructor inputs traits => exact hfail _ _ h
  | function name inputs outputs traits => exact hfail _ _ h
  | event name inputs anonymous => exact hfail _ _ h
  | nonCallable kind name => exact ⟨rfl, rfl⟩

/-- Binding a member adds the method or the filter of the member if it can be bound, and nothing
otherwise. -/
theorem written_bindMember (m : Member) (hc : c.registry.WellFormed) :
    ∃ methods events, (c.bindMember profile m).2.methods = c.methods ++ methods ∧
      (c.bindMember profile m).2.events = c.events ++ events ∧
      List.Forall₂ (Member.WrittenInMethod profile (c.bindMember profile m).2.registry.records)
        (([m].filter Member.isSound).filter Member.isMethod) methods ∧
      List.Forall₂ (Member.WrittenInFilter profile (c.bindMember profile m).2.registry.records)
        (([m].filter Member.isSound).filter Member.isEvent) events := by
  by_cases hsound : m.isSound
  · have hbound := bindMember_of_isSound profile c hsound
    rw [List.filter_cons_of_pos hsound, List.filter_nil]
    obtain ⟨action, method, r, haction, hism, hise, hrun, hd⟩ |
      ⟨action, filter, r, haction, hism, hise, hrun, hd⟩ | ⟨hism, hise, hd⟩ :=
        bindMember_eq_ok hbound
    · rw [List.filter_cons_of_pos hism, List.filter_cons_of_neg hise, hd]
      have hwritten := m.writtenInMethod_of_run hc haction hrun
      exact ⟨[method], [], rfl, (List.append_nil _).symm, .cons hwritten .nil, .nil⟩
    · rw [List.filter_cons_of_neg hism, List.filter_cons_of_pos hise, hd]
      have hwritten := m.writtenInFilter_of_run hc haction hrun
      exact ⟨[], [filter], (List.append_nil _).symm, rfl, .nil, .cons hwritten .nil⟩
    · rw [List.filter_cons_of_neg hism, List.filter_cons_of_neg hise, hd]
      exact ⟨[], [], (List.append_nil _).symm, (List.append_nil _).symm, .nil, .nil⟩
  · obtain ⟨hmethods, hevents⟩ := bindMember_of_not_isSound profile c hsound
    rw [List.filter_cons_of_neg hsound, hmethods, hevents]
    exact ⟨[], [], (List.append_nil _).symm, (List.append_nil _).symm, .nil, .nil⟩

/-- The methods and filters of a run that goes on are those of the members that can be bound, in
order, and their parameters are written over the records at the end. -/
theorem written_bindAll (hc : c.registry.WellFormed) :
    ∃ methods events, (bindAll profile c ms).methods = c.methods ++ methods ∧
      (bindAll profile c ms).events = c.events ++ events ∧
      List.Forall₂ (Member.WrittenInMethod profile (bindAll profile c ms).registry.records)
        ((ms.filter Member.isSound).filter Member.isMethod) methods ∧
      List.Forall₂ (Member.WrittenInFilter profile (bindAll profile c ms).registry.records)
        ((ms.filter Member.isSound).filter Member.isEvent) events := by
  induction ms generalizing c with
  | nil => exact ⟨[], [], (List.append_nil _).symm, (List.append_nil _).symm, .nil, .nil⟩
  | cons m ms ih =>
    have hc' : (c.bindMember profile m).2.registry.WellFormed :=
      (reaches_bindMember profile c (m := m) Member.asksFitting_of_mem_asks).wellFormed hc
    have hgrow := ((reaches_bindAll profile (c.bindMember profile m).2 ms).records_grow hc').subset
    obtain ⟨methods, events, hmethods, hevents, hP, hQ⟩ := written_bindMember profile c m hc
    obtain ⟨methods', events', hmethods', hevents', hP', hQ'⟩ := ih _ hc'
    rw [bindAll_cons, ← List.singleton_append, List.filter_append, List.filter_append,
      List.filter_append]
    refine ⟨methods ++ methods', events ++ events', ?_, ?_, ?_, ?_⟩
    · rw [hmethods', hmethods, List.append_assoc]
    · rw [hevents', hevents, List.append_assoc]
    · exact List.rel_append (hP.imp fun _ _ h => h.mono hgrow) hP'
    · exact List.rel_append (hQ.imp fun _ _ h => h.mono hgrow) hQ'

end Compilation

/-! ## Finished bindings -/

section Finished

variable {options : Options} {ms : List Member} {b : Bindings}

/-- The records of finished bindings are built from the bodies of the members. -/
theorem Bindings.exists_built_of_ofMembers (h : Bindings.ofMembers options ms = .ok b) :
    ∃ r : Registry, r.Built options.dialect.profile (ms.flatMap Member.bodies) ∧
      b.records = r.records := by
  obtain ⟨c, hc, rfl⟩ := ofMembers_eq_ok.1 h
  refine ⟨c.registry, ?_, rfl⟩
  rw [← Compilation.bindAll_of_bindMembers_eq_ok hc]
  exact Compilation.built_bindAll (List.Subset.refl _) (.empty _ _)

/-- The records of finished bindings are yielded by the bodies of the members, and every body yields
one of them. -/
theorem Bindings.yields_of_ofMembers (h : Bindings.ofMembers options ms = .ok b) :
    (∀ record ∈ b.records, ∃ body ∈ ms.flatMap Member.bodies,
        body.Yields options.dialect.profile b.records record) ∧
      ∀ body ∈ ms.flatMap Member.bodies, ∃ record ∈ b.records,
        body.Yields options.dialect.profile b.records record := by
  refine ⟨fun record hmem => ?_, fun body hbody => ?_⟩
  · obtain ⟨r, hbuilt, hrecords⟩ := exists_built_of_ofMembers h
    rw [hrecords] at hmem ⊢
    obtain ⟨i, hi⟩ := List.mem_iff_getElem?.1 hmem
    obtain ⟨body, hbody, hyields⟩ := hbuilt.builtFrom.yields hi
    exact ⟨body, hbody, hyields.mono (List.take_subset i _)⟩
  · obtain ⟨hmethods, hfilters⟩ := forall₂_of_ofMembers
      (P := Member.WrittenInMethod options.dialect.profile b.records)
      (Q := Member.WrittenInFilter options.dialect.profile b.records) h
      (fun m _ action method r s haction hr hrun hsub =>
        (m.writtenInMethod_of_run hr haction hrun).mono hsub)
      (fun m _ action filter r s haction hr hrun hsub =>
        (m.writtenInFilter_of_run hr haction hrun).mono hsub)
    obtain ⟨m, hm, hbody⟩ := List.mem_flatMap.1 hbody
    cases m with
    | constructor inputs traits =>
      obtain ⟨method, hwritten⟩ :=
        exists_forall₂_iff.1 ⟨_, hmethods⟩ _ (List.mem_filter.2 ⟨hm, rfl⟩)
      exact hwritten.exists_yields body hbody
    | function name inputs outputs traits =>
      obtain ⟨method, hwritten⟩ :=
        exists_forall₂_iff.1 ⟨_, hmethods⟩ _ (List.mem_filter.2 ⟨hm, rfl⟩)
      exact hwritten.exists_yields body hbody
    | event name inputs anonymous =>
      obtain ⟨filter, hwritten⟩ :=
        exists_forall₂_iff.1 ⟨_, hfilters⟩ _ (List.mem_filter.2 ⟨hm, rfl⟩)
      exact hwritten.exists_yields body hbody
    | nonCallable kind name => exact absurd hbody List.not_mem_nil

/-- The records of finished bindings are made from the bodies of the members, and every body made
one of them. -/
theorem Bindings.records_from_bodies (h : Bindings.ofMembers options ms = .ok b) :
    (∀ record ∈ b.records, ∃ body ∈ ms.flatMap Member.bodies,
        body.Makes options.dialect.profile record) ∧
      ∀ body ∈ ms.flatMap Member.bodies, ∃ record ∈ b.records,
        body.Makes options.dialect.profile record := by
  obtain ⟨hmade, hmakes⟩ := yields_of_ofMembers h
  refine ⟨fun record hmem => ?_, fun body hbody => ?_⟩
  · obtain ⟨body, hbody, hyields⟩ := hmade record hmem
    exact ⟨body, hbody, hyields.makes⟩
  · obtain ⟨record, hmem, hyields⟩ := hmakes body hbody
    exact ⟨record, hmem, hyields.makes⟩

end Finished
end AbiTypings
