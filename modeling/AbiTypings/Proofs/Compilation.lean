import Mathlib.Data.List.Forall2
import AbiTypings.Proofs.RecordNames
import AbiTypings.Proofs.TokenRuns

/-!
# Runs over all members

A list of members is bound one after the other, and every method and filter comes from the run of
its own member, at a registry that earlier members led to and that later members only extend.

* `bindMembers_append_eq_ok` — a run over a list can be cut anywhere.
* `reaches_bindMembers` — the registry at the end is reached from the one at the start by steps that
  ask for nothing but what is listed for the members.
* `bindMembers_forall₂` and `Bindings.forall₂_of_ofMembers` — what can be said of each method and
  filter at the run of its own member holds of all of them, position by position.
-/

namespace AbiTypings

/-! ## Kinds of members -/

/-- The computation that binds a constructor or function. -/
def Member.method? (profile : Profile) : Member → Option (Registering Method)
  | constructor inputs traits => some (Method.ofConstructor profile inputs traits)
  | function name inputs outputs traits =>
    some (Method.ofFunction profile name inputs outputs traits)
  | event .. | nonCallable .. => none

/-- The computation that binds an event. -/
def Member.filter? (profile : Profile) : Member → Option (Registering EventFilter)
  | event name inputs _ => some (EventFilter.ofEvent profile name inputs)
  | constructor .. | function .. | nonCallable .. => none

/-- Whether a member is a constructor or function. -/
def Member.isMethod : Member → Bool
  | constructor .. | function .. => true
  | event .. | nonCallable .. => false

/-- Whether a member is an event. -/
def Member.isEvent : Member → Bool
  | event .. => true
  | constructor .. | function .. | nonCallable .. => false

section Reach

variable {Asks : String → Role → Prop} {profile : Profile} {m : Member}

theorem Member.reaches_method? (hasks : ∀ ask ∈ m.asks, Asks ask.1 ask.2)
    {action : Registering Method} (h : m.method? profile = some action) : action.Reaches Asks := by
  cases m with
  | constructor inputs traits =>
    cases h
    exact reaches_ofConstructor profile inputs traits hasks
  | function name inputs outputs traits =>
    cases h
    exact reaches_ofFunction profile name inputs outputs traits hasks
  | event name inputs anonymous => cases h
  | nonCallable kind name => cases h

theorem Member.reaches_filter? (hasks : ∀ ask ∈ m.asks, Asks ask.1 ask.2)
    {action : Registering EventFilter} (h : m.filter? profile = some action) :
    action.Reaches Asks := by
  cases m with
  | event name inputs anonymous =>
    cases h
    exact reaches_ofEvent profile name inputs anonymous hasks
  | constructor inputs traits => cases h
  | function name inputs outputs traits => cases h
  | nonCallable kind name => cases h

end Reach

theorem Member.asksFitting_of_mem_asks {m : Member} :
    ∀ ask ∈ m.asks, asksFitting ask.1 ask.2 :=
  fun _ hmem => asks_of_mem_asks hmem

namespace Compilation

variable {Asks : String → Role → Prop} {profile : Profile} {c d : Compilation} {m : Member}
  {ms xs ys : List Member}

/-! ## One member -/

theorem register_eq_ok {α : Type} {action : Registering α}
    {take : Compilation → α → Compilation} :
    c.register action take = (.ok (), d) ↔
      ∃ a r, action.run c.registry = (.ok a, r) ∧ d = take { c with registry := r } a := by
  unfold register
  rcases action.run c.registry with ⟨_ | a, r⟩
  · constructor
    · rintro ⟨⟩
    · rintro ⟨_, _, ⟨⟩, _⟩
  · constructor
    · rintro ⟨⟩
      exact ⟨a, r, rfl, rfl⟩
    · rintro ⟨_, _, ⟨⟩, rfl⟩
      rfl

/-- Everything that binding one member can do when it succeeds. -/
theorem bindMember_eq_ok (h : c.bindMember profile m = (.ok (), d)) :
    (∃ action method r, m.method? profile = some action ∧ m.isMethod ∧ ¬ m.isEvent ∧
        action.run c.registry = (.ok method, r) ∧
        d = { c with registry := r, methods := c.methods ++ [method] }) ∨
      (∃ action filter r, m.filter? profile = some action ∧ ¬ m.isMethod ∧ m.isEvent ∧
        action.run c.registry = (.ok filter, r) ∧
        d = { c with registry := r, events := c.events ++ [filter] }) ∨
      (¬ m.isMethod ∧ ¬ m.isEvent ∧ d = c) := by
  cases m with
  | constructor inputs traits =>
    obtain ⟨method, r, hrun, rfl⟩ := register_eq_ok.1 h
    exact Or.inl ⟨_, method, r, rfl, rfl, Bool.false_ne_true, hrun, rfl⟩
  | function name inputs outputs traits =>
    obtain ⟨method, r, hrun, rfl⟩ := register_eq_ok.1 h
    exact Or.inl ⟨_, method, r, rfl, rfl, Bool.false_ne_true, hrun, rfl⟩
  | event name inputs anonymous =>
    obtain ⟨filter, r, hrun, rfl⟩ := register_eq_ok.1 h
    exact Or.inr (Or.inl ⟨_, filter, r, rfl, Bool.false_ne_true, rfl, hrun, rfl⟩)
  | nonCallable kind name =>
    cases h
    exact Or.inr (Or.inr ⟨Bool.false_ne_true, Bool.false_ne_true, rfl⟩)

theorem registry_addMethod (c : Compilation) (method : Method) :
    (c.addMethod method).registry = c.registry := rfl

theorem registry_addEvent (c : Compilation) (filter : EventFilter) :
    (c.addEvent filter).registry = c.registry := rfl

/-- What a run registers stays, also when it fails. -/
theorem registry_register {α : Type} {action : Registering α} {take : Compilation → α → Compilation}
    (htake : ∀ c a, (take c a).registry = c.registry) :
    (c.register action take).2.registry = (action.run c.registry).2 := by
  unfold register
  rcases action.run c.registry with ⟨_ | a, r⟩
  · rfl
  · exact htake _ a

/-- Whether it succeeds or fails, binding a member asks for nothing but what is listed for it. -/
theorem reaches_bindMember (profile : Profile) (c : Compilation)
    (hasks : ∀ ask ∈ m.asks, Asks ask.1 ask.2) :
    c.registry.Reaches Asks (c.bindMember profile m).2.registry := by
  cases m with
  | constructor inputs traits =>
    rw [bindMember, registry_register registry_addMethod]
    exact reaches_ofConstructor profile inputs traits hasks _
  | function name inputs outputs traits =>
    rw [bindMember, registry_register registry_addMethod]
    exact reaches_ofFunction profile name inputs outputs traits hasks _
  | event name inputs anonymous =>
    rw [bindMember, registry_register registry_addEvent]
    exact reaches_ofEvent profile name inputs anonymous hasks _
  | nonCallable kind name => exact .refl _

/-! ## All members -/

/-- Members are bound just if the first is, and the others are after it. -/
theorem bindMembers_cons_eq_ok :
    bindMembers profile c (m :: ms) = .ok d ↔
      ∃ c', c.bindMember profile m = (.ok (), c') ∧ bindMembers profile c' ms = .ok d := by
  rw [bindMembers]
  rcases c.bindMember profile m with ⟨_ | _, c'⟩ <;> simp

theorem bindMembers_append_eq_ok :
    bindMembers profile c (xs ++ ys) = .ok d ↔
      ∃ c', bindMembers profile c xs = .ok c' ∧ bindMembers profile c' ys = .ok d := by
  induction xs generalizing c with
  | nil => simp [bindMembers]
  | cons m xs ih =>
    simp only [List.cons_append, bindMembers_cons_eq_ok, ih]
    constructor
    · rintro ⟨c', hm, c'', hxs, hys⟩
      exact ⟨c'', ⟨c', hm, hxs⟩, hys⟩
    · rintro ⟨c'', ⟨c', hm, hxs⟩, hys⟩
      exact ⟨c', hm, c'', hxs, hys⟩

/-- A run over members only registers records under names that the members ask for. -/
theorem reaches_bindMembers (hasks : ∀ ask ∈ ms.flatMap Member.asks, Asks ask.1 ask.2)
    (h : bindMembers profile c ms = .ok d) : c.registry.Reaches Asks d.registry := by
  induction ms generalizing c with
  | nil =>
    cases h
    exact .refl _
  | cons m ms ih =>
    rw [List.flatMap_cons, List.forall_mem_append] at hasks
    obtain ⟨hfirst, hrest⟩ := hasks
    obtain ⟨c', hm, hms⟩ := bindMembers_cons_eq_ok.1 h
    have hreach := reaches_bindMember profile c hfirst
    rw [hm] at hreach
    exact hreach.trans (ih hrest hms)

theorem bindMembers_reaches (h : bindMembers profile c ms = .ok d) :
    c.registry.Reaches asksFitting d.registry := by
  refine reaches_bindMembers (fun ask hask => ?_) h
  obtain ⟨m, -, hmem⟩ := List.mem_flatMap.1 hask
  exact Member.asksFitting_of_mem_asks ask hmem

/-- Each method and each filter comes from the run of its own member, at a registry between those
at the start and at the end. -/
theorem bindMembers_forall₂ {P : Member → Method → Prop} {Q : Member → EventFilter → Prop}
    (h : bindMembers profile c ms = .ok d)
    (hmethod : ∀ m ∈ ms, ∀ action method r s, m.method? profile = some action →
      c.registry.Reaches asksFitting r → action.run r = (.ok method, s) →
      s.Reaches asksFitting d.registry → P m method)
    (hfilter : ∀ m ∈ ms, ∀ action filter r s, m.filter? profile = some action →
      c.registry.Reaches asksFitting r → action.run r = (.ok filter, s) →
      s.Reaches asksFitting d.registry → Q m filter) :
    ∃ methods events, d.methods = c.methods ++ methods ∧ d.events = c.events ++ events ∧
      List.Forall₂ P (ms.filter Member.isMethod) methods ∧
      List.Forall₂ Q (ms.filter Member.isEvent) events := by
  induction ms generalizing c with
  | nil =>
    cases h
    exact ⟨[], [], by simp, by simp, .nil, .nil⟩
  | cons m ms ih =>
    obtain ⟨c', hm, hms⟩ := bindMembers_cons_eq_ok.1 h
    have hreach := reaches_bindMember profile c (m := m) Member.asksFitting_of_mem_asks
    rw [hm] at hreach
    have hrest := bindMembers_reaches hms
    obtain ⟨methods, events, hmethods, hevents, hP, hQ⟩ := ih hms
      (fun m hmem action method r s ha hr => hmethod m (.tail _ hmem) action method r s ha
        (hreach.trans hr))
      (fun m hmem action filter r s ha hr => hfilter m (.tail _ hmem) action filter r s ha
        (hreach.trans hr))
    obtain ⟨action, method, r, ha, hism, hise, hrun, rfl⟩ |
      ⟨action, filter, r, ha, hism, hise, hrun, rfl⟩ | ⟨hism, hise, rfl⟩ := bindMember_eq_ok hm
    · have hmP := hmethod m (.head _) action method _ r ha (.refl _) hrun hrest
      refine ⟨method :: methods, events, by simp [hmethods], hevents, ?_, ?_⟩
      · rw [List.filter_cons_of_pos hism]
        exact .cons hmP hP
      · rw [List.filter_cons_of_neg hise]
        exact hQ
    · have hmQ := hfilter m (.head _) action filter _ r ha (.refl _) hrun hrest
      refine ⟨methods, filter :: events, hmethods, by simp [hevents], ?_, ?_⟩
      · rw [List.filter_cons_of_neg hism]
        exact hP
      · rw [List.filter_cons_of_pos hise]
        exact .cons hmQ hQ
    · refine ⟨methods, events, hmethods, hevents, ?_, ?_⟩
      · rw [List.filter_cons_of_neg hism]
        exact hP
      · rw [List.filter_cons_of_neg hise]
        exact hQ

end Compilation

/-- Bindings are the end of a run over all members, from nothing. -/
theorem Bindings.ofMembers_eq_ok {options : Options} {ms : List Member} {b : Bindings} :
    Bindings.ofMembers options ms = .ok b ↔
      ∃ c, Compilation.bindMembers options.dialect.profile {} ms = .ok c ∧
        b = c.bindings options := by
  rw [Bindings.ofMembers]
  cases Compilation.bindMembers options.dialect.profile {} ms <;> simp [Except.map, eq_comm]

theorem Bindings.dialect_eq {options : Options} {ms : List Member} {b : Bindings}
    (h : Bindings.ofMembers options ms = .ok b) : b.dialect = options.dialect := by
  obtain ⟨c, -, rfl⟩ := ofMembers_eq_ok.1 h
  rfl

/-- Bindings of which something was found by compiling them. -/
theorem Bindings.exists_of_toOption_map {α : Type} {options : Options} {ms : List Member}
    {f : Bindings → α} {a : α} (h : (Bindings.ofMembers options ms).toOption.map f = some a) :
    ∃ b, Bindings.ofMembers options ms = .ok b ∧ f b = a := by
  cases hresult : Bindings.ofMembers options ms with
  | error fault =>
    rw [hresult] at h
    cases h
  | ok b =>
    rw [hresult] at h
    exact ⟨b, rfl, Option.some.inj h⟩

/-- What can be said of each method and filter at the run of its own member, at some registry and
whatever is registered later, holds of those of finished bindings. -/
theorem Bindings.forall₂_of_ofMembers {options : Options} {ms : List Member} {b : Bindings}
    {P : Member → Method → Prop} {Q : Member → EventFilter → Prop}
    (h : Bindings.ofMembers options ms = .ok b)
    (hmethod : ∀ m ∈ ms, ∀ action method r s, m.method? options.dialect.profile = some action →
      r.WellFormed → action.run r = (.ok method, s) → s.records ⊆ b.records → P m method)
    (hfilter : ∀ m ∈ ms, ∀ action filter r s, m.filter? options.dialect.profile = some action →
      r.WellFormed → action.run r = (.ok filter, s) → s.records ⊆ b.records → Q m filter) :
    List.Forall₂ P (ms.filter Member.isMethod) b.methods ∧
      List.Forall₂ Q (ms.filter Member.isEvent) b.events := by
  obtain ⟨c, hc, rfl⟩ := ofMembers_eq_ok.1 h
  obtain ⟨methods, events, hmethods, hevents, hP, hQ⟩ :=
    Compilation.bindMembers_forall₂ (P := P) (Q := Q) hc
      (fun m hm action method r s haction hr hrun hs => by
        have hr' := hr.wellFormed Registry.wellFormed_empty
        have hs' := (m.reaches_method? Member.asksFitting_of_mem_asks haction).of_run hrun
        exact hmethod m hm action method r s haction hr' hrun
          (hs.records_grow (hs'.wellFormed hr')).subset)
      (fun m hm action filter r s haction hr hrun hs => by
        have hr' := hr.wellFormed Registry.wellFormed_empty
        have hs' := (m.reaches_filter? Member.asksFitting_of_mem_asks haction).of_run hrun
        exact hfilter m hm action filter r s haction hr' hrun
          (hs.records_grow (hs'.wellFormed hr')).subset)
  rw [List.nil_append] at hmethods hevents
  rw [← hmethods] at hP
  rw [← hevents] at hQ
  exact ⟨hP, hQ⟩

/-- The records of finished bindings are those of a registry that was reached from the empty one. -/
theorem Bindings.exists_registry_of_ofMembers {options : Options} {ms : List Member} {b : Bindings}
    (h : Bindings.ofMembers options ms = .ok b) :
    ∃ r, Registry.Reaches asksFitting {} r ∧ b.records = r.records := by
  obtain ⟨c, hc, rfl⟩ := ofMembers_eq_ok.1 h
  exact ⟨c.registry, Compilation.bindMembers_reaches hc, rfl⟩

/-- The records of finished bindings are named as their roles say. -/
theorem Bindings.names_of_mem_records {options : Options} {ms : List Member} {b : Bindings}
    (h : Bindings.ofMembers options ms = .ok b) {record : Record} (hmem : record ∈ b.records) :
    record.role.Names record.name := by
  obtain ⟨r, hreach, hrecords⟩ := exists_registry_of_ofMembers h
  exact hreach.named record (hrecords ▸ hmem)

/-- The records of finished bindings have distinct names. -/
theorem Bindings.nodup_recordNames {options : Options} {ms : List Member} {b : Bindings}
    (h : Bindings.ofMembers options ms = .ok b) : (b.records.map Record.name).Nodup := by
  obtain ⟨r, hreach, hrecords⟩ := exists_registry_of_ofMembers h
  have hwf := hreach.wellFormed Registry.wellFormed_empty
  rw [hrecords, ← hwf.names_eq]
  exact hwf.names_nodup

end AbiTypings
