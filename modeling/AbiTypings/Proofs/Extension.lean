import AbiTypings.Proofs.Building

/-!
# Later members and failures disturb nothing

What a member is bound to is decided by the members before it.  So the bindings of a list of members
are where the bindings of any longer list start, down to the name of every record; and a member that
fails leaves behind no more than records that nobody asked for and its own name.

* **Registrations** — `Registry.GrowsBy`: records are appended, and some names are noted.
  `Registering.Notes` says this of a computation, whether it succeeds or fails.  Only the first
  thing that is done for a member notes anything (`Notes.bind`).
* **Members** — `Compilation.growsBy_bindMember`: binding a member notes its name and appends
  records.  `Compilation.extends_bindMember`: whatever was compiled before stays where it is.
* **Runs** — `Compilation.extends_bindMembers` and `Compilation.bindMembers_append_of_error`: the
  same for a list of members, and its first failure is the failure of every longer list.
* **Bindings** — `Bindings.extends_of_append` puts these together.
-/

namespace AbiTypings

variable {α β : Type}

/-! ## Registrations -/

/-- From one state to a later one, records were appended, and the given names were noted. -/
structure Registry.GrowsBy (methods events : List String) (r s : Registry) : Prop where
  records : r.records <+: s.records
  methods : s.methods = r.methods ++ methods
  events : s.events = r.events ++ events

namespace Registry

variable {methods events : List String} {r s t : Registry}

theorem GrowsBy.refl (r : Registry) : r.GrowsBy [] [] r :=
  ⟨List.prefix_refl _, (List.append_nil _).symm, (List.append_nil _).symm⟩

/-- What follows may append records, and notes nothing. -/
theorem GrowsBy.trans (hrs : r.GrowsBy methods events s) (hst : s.GrowsBy [] [] t) :
    r.GrowsBy methods events t where
  records := hrs.records.trans hst.records
  methods := by rw [hst.methods, List.append_nil, hrs.methods]
  events := by rw [hst.events, List.append_nil, hrs.events]

/-- A registration appends a record, or leaves the registry as it is. -/
theorem growsBy_add (r : Registry) (candidate : String) (role : Role) (fields : List Field) :
    r.GrowsBy [] [] (r.add candidate role fields).2 := by
  cases hshared : r.shared? candidate ⟨role, fields⟩ with
  | some name =>
    simp only [add, hshared]
    exact .refl r
  | none =>
    simp only [add, hshared]
    exact ⟨List.prefix_append _ _, (List.append_nil _).symm, (List.append_nil _).symm⟩

end Registry

/-- Whether it succeeds or fails, a computation notes the given names and appends records. -/
def Registering.Notes (methods events : List String) (x : Registering α) : Prop :=
  ∀ r : Registry, r.GrowsBy methods events (x.run r).2

namespace Registering

variable {methods events : List String}

theorem notes_pure (a : α) : (pure a : Registering α).Notes [] [] :=
  fun r => .refl r

theorem notes_ofExcept (result : Except Fault α) : (ofExcept result).Notes [] [] :=
  fun r => .refl r

theorem notes_registerRecord (candidate : String) (role : Role) (fields : List Field) :
    (registerRecord candidate role fields).Notes [] [] :=
  fun r => r.growsBy_add candidate role fields

theorem notes_noteMethod (name : String) :
    (modify (·.noteMethod name) : Registering PUnit).Notes [name] [] :=
  fun _ => ⟨List.prefix_refl _, rfl, (List.append_nil _).symm⟩

theorem notes_noteEvent (name : String) :
    (modify (·.noteEvent name) : Registering PUnit).Notes [] [name] :=
  fun _ => ⟨List.prefix_refl _, (List.append_nil _).symm, rfl⟩

/-- Of two computations only the first notes anything, so it does not matter which of them fails. -/
theorem Notes.bind {x : Registering α} {f : α → Registering β} (hx : x.Notes methods events)
    (hf : ∀ a, (f a).Notes [] []) : (x >>= f).Notes methods events := by
  intro r
  have hfirst := hx r
  rw [run_bind]
  rcases hrun : x.run r with ⟨fault | a, s⟩
  · rw [hrun] at hfirst
    exact hfirst
  · rw [hrun] at hfirst
    exact hfirst.trans (hf a s)

end Registering

/-! ## Parameters -/

section Params

variable (profile : Profile) (scope : String) (role : Role)

mutual

/-- The token of a parameter notes nothing. -/
theorem notes_typeToken : ∀ (p : Param) (position : Position),
    (typeToken profile scope role p position).Notes [] []
  | ⟨_, _, none, _, _⟩, _ => by
    rw [typeToken]
    exact Registering.notes_ofExcept _
  | ⟨_, _, some ps, _, _⟩, position => by
    rw [typeToken]
    refine (Registering.notes_ofExcept _).bind fun _ => ?_
    refine (notes_typeTokens ps position.component 0).bind fun _ => ?_
    refine (Registering.notes_registerRecord _ _ _).bind fun _ => ?_
    exact Registering.notes_pure _

theorem notes_typeTokens : ∀ (ps : List Param) (positionOf : Nat → Position) (index : Nat),
    (typeTokens profile scope role positionOf index ps).Notes [] []
  | [], _, _ => by
    rw [typeTokens]
    exact Registering.notes_pure _
  | p :: ps, positionOf, index => by
    rw [typeTokens]
    refine (notes_typeToken p (positionOf index)).bind fun _ => ?_
    refine (notes_typeTokens ps positionOf (index + 1)).bind fun _ => ?_
    exact Registering.notes_pure _

end

/-- Fields note no names. -/
theorem notes_recordFields (positionOf : Nat → Position) (ps : List Param) :
    (recordFields profile scope role positionOf ps).Notes [] [] :=
  (notes_typeTokens profile scope role ps positionOf 0).bind fun _ => Registering.notes_pure _

theorem notes_resultOf (name : String) (effect : CallEffect) (outputs : List Param) :
    (resultOf profile name effect outputs).Notes [] [] := by
  match outputs with
  | [] => exact Registering.notes_pure _
  | [output] =>
    refine (notes_typeToken profile name .response output (.output 0)).bind fun _ => ?_
    exact Registering.notes_pure _
  | first :: second :: others =>
    unfold resultOf
    dsimp only
    split
    · refine (notes_recordFields profile name .response .output _).bind fun _ => ?_
      refine (Registering.notes_registerRecord _ _ _).bind fun _ => ?_
      exact Registering.notes_pure _
    · exact Registering.notes_pure _

end Params

/-! ## Members -/

/-- The names that a member is listed under among the methods. -/
def Member.methodNames : Member → List String
  | constructor .. => [constructorName]
  | function name .. => [name]
  | event .. | nonCallable .. => []

/-- The names that a member is listed under among the events. -/
def Member.eventNames : Member → List String
  | event name .. => [name]
  | constructor .. | function .. | nonCallable .. => []

/-- A member has at most one name in both lists together. -/
theorem Member.length_names_le (m : Member) :
    m.methodNames.length + m.eventNames.length ≤ 1 := by
  cases m <;> simp [methodNames, eventNames]

section Members

variable (profile : Profile)

theorem notes_ofConstructor (inputs : List Param) (traits : CallTraits) :
    (Method.ofConstructor profile inputs traits).Notes [constructorName] [] := by
  refine (Registering.notes_noteMethod constructorName).bind fun _ => ?_
  refine (notes_recordFields profile constructorScope .request .input inputs).bind fun _ => ?_
  exact Registering.notes_pure _

theorem notes_ofFunction (name : String) (inputs outputs : List Param) (traits : CallTraits) :
    (Method.ofFunction profile name inputs outputs traits).Notes [name] [] := by
  refine (Registering.notes_noteMethod name).bind fun _ => ?_
  refine (notes_recordFields profile name .request .input inputs).bind fun _ => ?_
  refine (notes_resultOf profile name traits.effect outputs).bind fun _ => ?_
  exact Registering.notes_pure _

theorem notes_ofEvent (name : String) (inputs : List Param) :
    (EventFilter.ofEvent profile name inputs).Notes [] [name] := by
  refine (Registering.notes_noteEvent name).bind fun _ => ?_
  refine (notes_recordFields profile name .event .input inputs).bind fun fields => ?_
  split
  · exact Registering.notes_pure _
  · refine (Registering.notes_registerRecord _ _ _).bind fun _ => ?_
    exact Registering.notes_pure _

end Members

/-! ## Compilations -/

/-- From one compilation to a later one, everything stays where it is. -/
structure Compilation.Extends (c d : Compilation) : Prop where
  records : c.registry.records <+: d.registry.records
  methodNames : c.registry.methods <+: d.registry.methods
  eventNames : c.registry.events <+: d.registry.events
  methods : c.methods <+: d.methods
  events : c.events <+: d.events

namespace Compilation

variable {profile : Profile} {c d e : Compilation} {xs : List Member}

theorem Extends.refl (c : Compilation) : c.Extends c :=
  ⟨List.prefix_refl _, List.prefix_refl _, List.prefix_refl _, List.prefix_refl _,
    List.prefix_refl _⟩

theorem Extends.trans (hcd : c.Extends d) (hde : d.Extends e) : c.Extends e where
  records := hcd.records.trans hde.records
  methodNames := hcd.methodNames.trans hde.methodNames
  eventNames := hcd.eventNames.trans hde.eventNames
  methods := hcd.methods.trans hde.methods
  events := hcd.events.trans hde.events

/-- Whether it succeeds or fails, binding a member notes its name and appends records. -/
theorem growsBy_bindMember (profile : Profile) (c : Compilation) (m : Member) :
    c.registry.GrowsBy m.methodNames m.eventNames (c.bindMember profile m).2.registry := by
  cases m with
  | constructor inputs traits =>
    rw [bindMember, registry_register registry_addMethod]
    exact notes_ofConstructor profile inputs traits _
  | function name inputs outputs traits =>
    rw [bindMember, registry_register registry_addMethod]
    exact notes_ofFunction profile name inputs outputs traits _
  | event name inputs anonymous =>
    rw [bindMember, registry_register registry_addEvent]
    exact notes_ofEvent profile name inputs _
  | nonCallable kind name => exact .refl _

/-- Methods and filters are appended. -/
theorem methods_events_bindMember (profile : Profile) (c : Compilation) (m : Member) :
    c.methods <+: (c.bindMember profile m).2.methods ∧
      c.events <+: (c.bindMember profile m).2.events := by
  by_cases hsound : m.isSound
  · have hbound := bindMember_of_isSound profile c hsound
    obtain ⟨_, method, r, -, -, -, -, hd⟩ | ⟨_, filter, r, -, -, -, -, hd⟩ | ⟨-, -, hd⟩ :=
      bindMember_eq_ok hbound
    · rw [hd]
      exact ⟨List.prefix_append _ _, List.prefix_refl _⟩
    · rw [hd]
      exact ⟨List.prefix_refl _, List.prefix_append _ _⟩
    · rw [hd]
      exact ⟨List.prefix_refl _, List.prefix_refl _⟩
  · obtain ⟨hmethods, hevents⟩ := bindMember_of_not_isSound profile c hsound
    rw [hmethods, hevents]
    exact ⟨List.prefix_refl _, List.prefix_refl _⟩

/-- Whether it succeeds or fails, binding a member leaves everything where it is. -/
theorem extends_bindMember (profile : Profile) (c : Compilation) (m : Member) :
    c.Extends (c.bindMember profile m).2 := by
  obtain ⟨hrecords, hmethodNames, heventNames⟩ := growsBy_bindMember profile c m
  obtain ⟨hmethods, hevents⟩ := methods_events_bindMember profile c m
  refine ⟨hrecords, ?_, ?_, hmethods, hevents⟩
  · rw [hmethodNames]
    exact List.prefix_append _ _
  · rw [heventNames]
    exact List.prefix_append _ _

/-! ## Runs -/

/-- A run over members leaves what was there before it. -/
theorem extends_bindMembers (h : bindMembers profile c xs = .ok d) : c.Extends d := by
  induction xs generalizing c with
  | nil =>
    cases h
    exact .refl _
  | cons m xs ih =>
    obtain ⟨c', hm, hxs⟩ := bindMembers_cons_eq_ok.1 h
    have hfirst := extends_bindMember profile c m
    rw [hm] at hfirst
    exact hfirst.trans (ih hxs)

/-- A run that fails does so whatever comes after it. -/
theorem bindMembers_append_of_error {fault : Fault} (h : bindMembers profile c xs = .error fault)
    (ys : List Member) : bindMembers profile c (xs ++ ys) = .error fault := by
  induction xs generalizing c with
  | nil => cases h
  | cons m xs ih =>
    rw [List.cons_append]
    rw [bindMembers] at h ⊢
    rcases hm : c.bindMember profile m with ⟨failure | _, c'⟩
    · rw [hm] at h
      exact h
    · rw [hm] at h
      exact ih h

end Compilation

/-! ## Bindings -/

/-- The records, methods and filters of bindings, and the names they list, are what those of others
start with. -/
structure Bindings.Extends (b b' : Bindings) : Prop where
  records : b.records <+: b'.records
  methods : b.methods <+: b'.methods
  events : b.events <+: b'.events
  methodNames : b.methodNames <+: b'.methodNames
  eventNames : b.eventNames <+: b'.eventNames

/-- What a compilation keeps, its bindings keep. -/
theorem Compilation.Extends.bindings {c d : Compilation} (h : c.Extends d) (options : Options) :
    (c.bindings options).Extends (d.bindings options) :=
  ⟨h.records, h.methods, h.events, h.methodNames, h.eventNames⟩

/-- **Later members and failures disturb nothing.**  If a list of members has bindings, so has every
list that it continues, and there they stand at the front: no later member renames or changes a
record, a method or a filter.  If it has none, the first fault stays the same whatever follows.  And
at any time, a member that fails leaves the methods and filters as they are and the records at the
front of what is registered then; of names it leaves its own, in one of the two lists. -/
theorem Bindings.extends_of_append (options : Options) (ms extra : List Member) :
    (∀ b', Bindings.ofMembers options (ms ++ extra) = .ok b' →
        ∃ b, Bindings.ofMembers options ms = .ok b ∧ b.Extends b') ∧
      (∀ fault, Bindings.ofMembers options ms = .error fault →
        Bindings.ofMembers options (ms ++ extra) = .error fault) ∧
      ∀ (c d : Compilation) (m : Member) (fault : Fault),
        c.bindMember options.dialect.profile m = (.error fault, d) →
          d.methods = c.methods ∧ d.events = c.events ∧
            c.registry.records <+: d.registry.records ∧
            d.registry.methods = c.registry.methods ++ m.methodNames ∧
            d.registry.events = c.registry.events ++ m.eventNames ∧
            m.methodNames.length + m.eventNames.length ≤ 1 := by
  refine ⟨fun b' hb' => ?_, fun fault hfault => ?_, fun c d m fault hbound => ?_⟩
  · obtain ⟨d, hd, rfl⟩ := ofMembers_eq_ok.1 hb'
    obtain ⟨c, hc, hextra⟩ := Compilation.bindMembers_append_eq_ok.1 hd
    exact ⟨c.bindings options, ofMembers_eq_ok.2 ⟨c, hc, rfl⟩,
      (Compilation.extends_bindMembers hextra).bindings options⟩
  · have hrun : Compilation.bindMembers options.dialect.profile {} ms = .error fault := by
      unfold Bindings.ofMembers at hfault
      cases hms : Compilation.bindMembers options.dialect.profile {} ms with
      | ok c => rw [hms] at hfault; cases hfault
      | error failure => rw [hms] at hfault; cases hfault; rfl
    rw [Bindings.ofMembers, Compilation.bindMembers_append_of_error hrun extra]
    rfl
  · have hunsound : ¬ m.isSound := by
      rw [← Compilation.bindMember_fst_eq_ok_iff options.dialect.profile c, hbound]
      intro hok
      cases hok
    have hkept := Compilation.bindMember_of_not_isSound options.dialect.profile c hunsound
    have hgrow := Compilation.growsBy_bindMember options.dialect.profile c m
    rw [hbound] at hkept hgrow
    exact ⟨hkept.1, hkept.2, hgrow.records, hgrow.methods, hgrow.events, m.length_names_le⟩

/-- A function that takes a struct of one field. -/
def takesPoint (name field : String) (others : List Param) : Member :=
  .function name
    (⟨"p", "tuple", some [⟨field, "uint8", none, none, false⟩], some "struct Point", false⟩ ::
      others)
    [] (.ofMutability .view)

/-- A function that fails after its first input was registered. -/
def strayMember : Member :=
  takesPoint "stray" "z" [⟨"n", "uint7", none, none, false⟩]

/-- The struct of the second function has the name of that of the first, and is renumbered; the
function that fails leaves nothing but a record and its name. -/
theorem Bindings.extends_of_append_points :
    (∃ b b', Bindings.ofMembers ⟨.web3, none, none⟩ [takesPoint "walk" "x" []] = .ok b ∧
        Bindings.ofMembers ⟨.web3, none, none⟩
          ([takesPoint "walk" "x" []] ++ [takesPoint "jump" "y" []]) = .ok b' ∧
        b.Extends b') ∧
      (∃ fault, Bindings.ofMembers ⟨.web3, none, none⟩ [strayMember] = .error fault ∧
        Bindings.ofMembers ⟨.web3, none, none⟩ ([strayMember] ++ [takesPoint "jump" "y" []]) =
          .error fault) ∧
      ∃ fault d, Compilation.bindMember Dialect.web3.profile {} strayMember = (.error fault, d) ∧
        d.methods = [] ∧ d.registry.methods = ["stray"] := by
  obtain ⟨hextends, -, -⟩ :=
    extends_of_append ⟨.web3, none, none⟩ [takesPoint "walk" "x" []] [takesPoint "jump" "y" []]
  obtain ⟨-, hfails, hkeeps⟩ :=
    extends_of_append ⟨.web3, none, none⟩ [strayMember] [takesPoint "jump" "y" []]
  have hgood : ∀ visit ∈ ([takesPoint "walk" "x" []] ++ [takesPoint "jump" "y" []]).flatMap
      Member.visits, ¬ visit.param.isBad := by
    decide
  have hfault : firstFault strayMember.visits =
      some (.type "uint7" (some ⟨"stray", "inputs[1]"⟩)) := by
    decide
  refine ⟨?_, ?_, ?_⟩
  · obtain ⟨b', hb'⟩ := exists_ofMembers ⟨.web3, none, none⟩ hgood
    obtain ⟨b, hb, hsame⟩ := hextends b' hb'
    exact ⟨b, b', hb, hb', hsame⟩
  · have hnone : Bindings.ofMembers ⟨.web3, none, none⟩ [strayMember] =
        .error (.type "uint7" (some ⟨"stray", "inputs[1]"⟩)) := by
      rw [← faultOf_eq_some_iff, faultOf_ofMembers, List.flatMap_singleton, hfault]
    exact ⟨_, hnone, hfails _ hnone⟩
  · have hbound := Compilation.faultOf_bindMember Dialect.web3.profile {} strayMember
    rw [hfault, faultOf_eq_some_iff] at hbound
    have hpair : Compilation.bindMember Dialect.web3.profile {} strayMember =
        (.error (.type "uint7" (some ⟨"stray", "inputs[1]"⟩)),
          (Compilation.bindMember Dialect.web3.profile {} strayMember).2) :=
      Prod.ext hbound rfl
    obtain ⟨hmethods, -, -, hnames, -, -⟩ := hkeeps {} _ strayMember _ hpair
    exact ⟨_, _, hpair, hmethods, hnames⟩

end AbiTypings
