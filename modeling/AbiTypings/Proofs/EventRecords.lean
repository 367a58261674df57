import AbiTypings.Proofs.FirstFault
import AbiTypings.Proofs.RecordNames

/-!
# When an event's record keeps its name

The record of an event is referred to by name from other modules, so it should be found under the
name of the event.  Registering it only makes an offer, though: if the name is taken by another
record at that moment, the event's record is renumbered like any other, and the name leads to
something else.  This module says exactly when that happens.

* **Registration** — `Registry.mem_records_add_of_own`: a record is found under the name it asks for
  when no other record has that name.
* **Events** — `Bindings.eventRecord_mem_iff`: the record of an event is found under the event's
  name in the finished bindings exactly when no other record had that name by the time the event's
  own parameters were dealt with.  What comes later does not matter.  It is enough that nobody
  before it asked for the name; `Bindings.eventRecord_missing` shows that the parameters of the
  event itself can.
-/

namespace AbiTypings

/-! ## Registration -/

/-- The record of an event is found under the name it asks for, unless another record has that
name. -/
theorem Registry.mem_records_add_of_own {r : Registry} (h : r.WellFormed) {candidate : String}
    {fields : List Field}
    (hown : ∀ other ∈ r.records, other.name = candidate → other = ⟨candidate, .event, fields⟩) :
    ⟨candidate, .event, fields⟩ ∈ (r.add candidate .event fields).2.records := by
  obtain ⟨record, hmem, -, hname, hadd⟩ | ⟨hnew, hadd⟩ := add_cases h candidate .event fields
  · -- the record is there already
    rw [hadd, ← hown record hmem (hname rfl)]
    exact hmem
  · -- the record is new, and so is its name
    have hfree : candidate ∉ r.names := by
      intro htaken
      obtain ⟨other, hother, hname⟩ := h.mem_names_iff.1 htaken
      have hshape : other.shape = ⟨.event, fields⟩ := by
        rw [hown other hother hname]
        rfl
      exact (hnew other hother hshape).2 hname
    rw [hadd, unusedName_of_not_mem hfree]
    simp [push]

/-- What is registered after the record of an event neither takes it away nor gives it its name
back. -/
theorem Registry.mem_records_iff_of_reaches {Asks : String → Role → Prop} {r s : Registry}
    (h : r.WellFormed) {candidate : String} {fields : List Field}
    (hreach : (r.add candidate .event fields).2.Reaches Asks s) :
    ⟨candidate, .event, fields⟩ ∈ s.records ↔
      ∀ other ∈ r.records, other.name = candidate → other = ⟨candidate, .event, fields⟩ := by
  have hadd := wellFormed_add h candidate .event fields
  have hs : s.WellFormed := hreach.wellFormed hadd
  have hgrow := (records_grow_add h candidate .event fields).subset
  have hlater := (hreach.records_grow hadd).subset
  constructor
  · intro hmem other hother hname
    exact hs.eq_of_name_eq (hlater (hgrow hother)) hmem hname
  · intro hown
    exact hlater (mem_records_add_of_own h hown)

/-- The record of an event never goes by the name of another event. -/
theorem Registry.numbered_add_event {r : Registry} (h : r.WellFormed) (candidate : String)
    (fields : List Field) : Numbered candidate (r.add candidate .event fields).1 := by
  obtain ⟨record, -, -, hname, hadd⟩ | ⟨-, hadd⟩ := add_cases h candidate .event fields
  · rw [hadd]
    exact Or.inl (hname rfl)
  · rw [hadd]
    exact unusedName_eq r.names candidate

/-! ## Events -/

section Events

variable {options : Options} {before after : List Member} {name : String} {inputs : List Param}
  {anonymous : Bool} {b : Bindings}

/-- How the bindings of a list of members come about, seen from one of its events. -/
theorem Bindings.ofMembers_event_eq_ok
    (h : Bindings.ofMembers options (before ++ .event name inputs anonymous :: after) = .ok b)
    (hinputs : inputs ≠ []) :
    ∃ (c : Compilation) (fields : List Field) (t : Registry) (d : Compilation),
      Compilation.bindMembers options.dialect.profile {} before = .ok c ∧
      (recordFields options.dialect.profile name .event Position.input inputs).run
        (c.registry.noteEvent name) = (.ok fields, t) ∧
      (t.add (eventRecordName name) .event fields).2.Reaches asksFitting d.registry ∧
      c.events ++ [⟨name, inputs.zipWith eventParam fields,
        options.dialect.profile.eventFilter⟩] <+: d.events ∧
      b = d.bindings options := by
  obtain ⟨d, hd, rfl⟩ := ofMembers_eq_ok.1 h
  obtain ⟨c, hc, hrest⟩ := Compilation.bindMembers_append_eq_ok.1 hd
  obtain ⟨c', hevent, hafter⟩ := Compilation.bindMembers_cons_eq_ok.1 hrest
  obtain ⟨filter, s, hrun, rfl⟩ := Compilation.register_eq_ok.1 hevent
  obtain ⟨fields, t, hfields, hs, rfl⟩ := EventFilter.ofEvent_eq_ok.1 hrun
  have hsome : ¬ fields.isEmpty := by
    intro hempty
    have hlength := length_of_recordFields_eq_ok (by decide) hfields
    rw [List.isEmpty_iff.1 hempty, List.length_nil, eq_comm, List.length_eq_zero_iff] at hlength
    exact hinputs hlength
  rw [if_neg hsome] at hs
  have hreach := Compilation.bindMembers_reaches hafter
  obtain ⟨_, events, -, hevents, -⟩ := Compilation.bindMembers_forall₂ (P := fun _ _ => True)
    (Q := fun _ _ => True) hafter (fun _ _ _ _ _ _ _ _ _ _ => trivial)
    (fun _ _ _ _ _ _ _ _ _ _ => trivial)
  refine ⟨c, fields, t, d, hc, hfields, hs ▸ hreach, ?_, rfl⟩
  rw [hevents]
  exact List.prefix_append _ _

/-- Any name but the given one may be asked for. -/
def asksOther (name candidate : String) (_ : Role) : Prop :=
  candidate ≠ name

/-- A name that neither the members before an event nor the parameters of the event ask for is not
taken when the record of the event is registered. -/
theorem name_ne_eventRecordName {profile : Profile} {c : Compilation} {fields : List Field}
    {t : Registry} (hc : Compilation.bindMembers profile {} before = .ok c)
    (hfields : (recordFields profile name .event Position.input inputs).run
      (c.registry.noteEvent name) = (.ok fields, t))
    (hbefore : ∀ ask ∈ before.flatMap Member.asks, ask.1 ≠ eventRecordName name)
    (hinputs : eventRecordName name ∉ siblingRecordNames name .event Position.input 0 inputs) :
    ∀ other ∈ t.records, other.name ≠ eventRecordName name := by
  have hinputs' : ∀ candidate ∈ siblingRecordNames name .event Position.input 0 inputs,
      asksOther (eventRecordName name) candidate .event := by
    rintro _ hmem rfl
    exact hinputs hmem
  have hcreach : Registry.Reaches (asksOther (eventRecordName name)) {} c.registry :=
    Compilation.reaches_bindMembers hbefore hc
  have htreach := (reaches_recordFields profile name .event _ inputs hinputs').of_run hfields
  have hreach := (hcreach.trans (.single (.noteEvent name))).trans htreach
  exact hreach.name_ne (eventRecordName_asks name) fun _ _ hne => hne

/-- **When an event's record keeps its name.**  Members before an event have led a registry to some
state, and the parameters of the event to the state `t`.  In the finished bindings, a record of the
event's inputs is found under the event's name or that name with a number.  It is the name itself
exactly when every record of that name in `t` is the same record already, and this is so if no
member before the event and no parameter of the event asks for the name. -/
theorem Bindings.eventRecord_mem_iff
    (h : Bindings.ofMembers options (before ++ .event name inputs anonymous :: after) = .ok b)
    (hinputs : inputs ≠ []) :
    ∃ c fields t, Compilation.bindMembers options.dialect.profile {} before = .ok c ∧
      (recordFields options.dialect.profile name .event Position.input inputs).run
        (c.registry.noteEvent name) = (.ok fields, t) ∧
      (∃ filter, b.events[c.events.length]? = some filter ∧ filter.name = name ∧
        filter.params.map EventParam.field = fields) ∧
      (∃ own, Numbered (eventRecordName name) own ∧ ⟨own, .event, fields⟩ ∈ b.records) ∧
      (⟨eventRecordName name, .event, fields⟩ ∈ b.records ↔
        ∀ other ∈ t.records, other.name = eventRecordName name →
          other = ⟨eventRecordName name, .event, fields⟩) ∧
      ((∀ ask ∈ before.flatMap Member.asks, ask.1 ≠ eventRecordName name) →
        eventRecordName name ∉ siblingRecordNames name .event Position.input 0 inputs →
        ⟨eventRecordName name, .event, fields⟩ ∈ b.records) := by
  obtain ⟨c, fields, t, d, hc, hfields, hreach, hevents, rfl⟩ := ofMembers_event_eq_ok h hinputs
  have hcreach : Registry.Reaches asksFitting {} c.registry := Compilation.bindMembers_reaches hc
  have hcwf : c.registry.WellFormed := hcreach.wellFormed Registry.wellFormed_empty
  have htwf : t.WellFormed :=
    ((recordFields_reaches _ name .event _ _).of_run hfields).wellFormed hcwf.noteEvent
  have hiff := Registry.mem_records_iff_of_reaches htwf hreach
  have howned : ∃ own, Numbered (eventRecordName name) own ∧
      ⟨own, .event, fields⟩ ∈ d.registry.records := by
    have hadd := Registry.wellFormed_add htwf (eventRecordName name) .event fields
    have hmem := Registry.mem_records_add htwf (eventRecordName name) .event fields
    exact ⟨_, Registry.numbered_add_event htwf _ fields,
      (hreach.records_grow hadd).subset hmem⟩
  have hfilter : d.events[c.events.length]? = some ⟨name, inputs.zipWith eventParam fields,
      options.dialect.profile.eventFilter⟩ := by
    obtain ⟨rest, hrest⟩ := hevents
    rw [← hrest, List.append_assoc, List.getElem?_append_right (Nat.le_refl _), Nat.sub_self]
    rfl
  have hparams := map_field_zipWith_eventParam (length_of_recordFields_eq_ok (by decide) hfields)
  refine ⟨c, fields, t, hc, hfields, ⟨_, hfilter, rfl, hparams⟩, howned, hiff, ?_⟩
  intro hbefore hown
  have hfree := name_ne_eventRecordName hc hfields hbefore hown
  exact hiff.2 fun other hother hname => absurd hname (hfree other hother)

end Events

/-- One parameter, whose struct has the name of the event it is meant for. -/
def depositInputs : List Param :=
  [⟨"deposit", "tuple", some [⟨"amount", "uint256", none, none, false⟩],
    some "struct Vault.Deposit", false⟩]

theorem exists_ofMembers_deposit :
    ∃ b, Bindings.ofMembers ⟨.web3, none, none⟩
      ([] ++ .event "Deposit" depositInputs false :: []) = .ok b := by
  have hgood : ∀ visit ∈ [Member.event "Deposit" depositInputs false].flatMap Member.visits,
      ¬ visit.param.isBad := by decide
  exact Bindings.exists_ofMembers _ hgood

theorem Bindings.eventRecord_mem_iff_deposit :
    ∃ b c fields t, Bindings.ofMembers ⟨.web3, none, none⟩
        ([] ++ .event "Deposit" depositInputs false :: []) = .ok b ∧ depositInputs ≠ [] ∧
      Compilation.bindMembers Dialect.web3.profile {} [] = .ok c ∧
      (recordFields Dialect.web3.profile "Deposit" .event Position.input depositInputs).run
        (c.registry.noteEvent "Deposit") = (.ok fields, t) ∧
      (⟨eventRecordName "Deposit", .event, fields⟩ ∈ b.records ↔
        ∀ other ∈ t.records, other.name = eventRecordName "Deposit" →
          other = ⟨eventRecordName "Deposit", .event, fields⟩) := by
  obtain ⟨b, hb⟩ := exists_ofMembers_deposit
  have hinputs : depositInputs ≠ [] := List.cons_ne_nil _ _
  obtain ⟨c, fields, t, hc, hfields, -, -, hiff, -⟩ := eventRecord_mem_iff hb hinputs
  exact ⟨b, c, fields, t, hb, hinputs, hc, hfields, hiff⟩

/-- The struct is registered first and takes the name of the event, so the event's own record is not
found under it. -/
theorem Bindings.eventRecord_missing :
    ∃ b filter, Bindings.ofMembers ⟨.web3, none, none⟩ [.event "Deposit" depositInputs false] =
        .ok b ∧
      b.events[0]? = some filter ∧ filter.name = "Deposit" ∧
      ∀ record ∈ b.records, record.name = eventRecordName "Deposit" →
        record.fields ≠ filter.params.map EventParam.field := by
  obtain ⟨b, hb⟩ := exists_ofMembers_deposit
  obtain ⟨c, fields, t, d, hc, hfields, hreach, ⟨rest, hevents⟩, rfl⟩ :=
    ofMembers_event_eq_ok hb (List.cons_ne_nil _ _)
  cases hc
  obtain ⟨_, htokens, rfl⟩ := recordFields_eq_ok.1 hfields
  obtain ⟨token, s, _, htoken, hnone, rfl⟩ := typeTokens_cons_eq_ok.1 htokens
  obtain ⟨rfl, rfl⟩ := typeTokens_nil_eq_ok.1 hnone
  obtain ⟨_, _, u, -, -, hcomponents, candidate, structFields, hcandidate, hstruct, -, rfl⟩ :=
    typeToken_composite_eq_ok.1 htoken
  obtain ⟨amount, _, _, hamount, hnone', rfl⟩ := typeTokens_cons_eq_ok.1 hcomponents
  obtain ⟨rfl, rfl⟩ := typeTokens_nil_eq_ok.1 hnone'
  obtain ⟨-, rfl⟩ := typeToken_plain_eq_ok.1 hamount
  have hname : candidate = eventRecordName "Deposit" := by
    rw [hcandidate]
    decide
  rw [hname] at hreach
  -- the struct asks first, of an empty registry
  have hempty : (({} : Registry).noteEvent "Deposit").WellFormed :=
    Registry.wellFormed_empty.noteEvent
  have hstructMem : ⟨eventRecordName "Deposit", .event, structFields⟩ ∈
      ((({} : Registry).noteEvent "Deposit").add (eventRecordName "Deposit") .event
        structFields).2.records :=
    Registry.mem_records_add_of_own hempty fun other hother => absurd hother List.not_mem_nil
  have ht := Registry.wellFormed_add hempty (eventRecordName "Deposit") .event structFields
  have hs := Registry.wellFormed_add ht (eventRecordName "Deposit") .event
    [⟨"deposit", token⟩]
  have hgrow := Registry.records_grow_add ht (eventRecordName "Deposit") .event
    [⟨"deposit", token⟩]
  have hd := hreach.wellFormed hs
  have hmem := (hreach.records_grow hs).subset (hgrow.subset hstructMem)
  have hfilter : d.events[0]? = some ⟨"Deposit", [⟨"deposit", token, false⟩],
      Dialect.web3.profile.eventFilter⟩ := by
    rw [← hevents]
    rfl
  refine ⟨_, _, hb, hfilter, rfl, ?_⟩
  intro record hrecord hrecordName hown
  have hsame := hd.eq_of_name_eq hrecord hmem hrecordName
  rw [hsame, hstruct] at hown
  have hkeys : ["amount"] = ["deposit"] := congrArg (List.map Field.key) hown
  exact absurd hkeys (by decide)

end AbiTypings
