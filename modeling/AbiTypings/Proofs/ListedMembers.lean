import AbiTypings.Proofs.BoundNames
import AbiTypings.Proofs.Extension

/-!
# What bindings list

The name of a member is noted before the member is bound, and its method or filter is stored after
that.  Where all members are bound, the two agree: bindings list a method for each constructor and
function and a filter for each event, in order, and their names beside them.  Entries that cannot be
called leave no trace.

* **Members** — `Member.binds_of_run` and `Member.filters_of_run`: the method or filter of a member
  has its name and its inputs.
* **Names that agree** — `Compilation.NamesAgree`: the names that were noted are those of what was
  stored.  Binding a member keeps this (`namesAgree_bindMember`), and so does binding all of them
  (`namesAgree_bindMembers`).
* **Entries that are skipped** — `Compilation.bindMembers_filter`: to leave some of them out changes
  nothing.
* **Repeated names** — `firstOccurrences_eq`: a name is dropped where it has stood before.
* **Bindings** — `Bindings.lists_members` puts these together.
-/

namespace AbiTypings

/-! ## Members -/

/-- A method of the name of a constructor or function, with its inputs as parameters. -/
structure Member.Binds (m : Member) (method : Method) : Prop where
  /-- Constructors are called `new`, and functions by their names. -/
  name : m.methodNames = [method.name]
  isConstructor : method.isConstructor = (m.kind == .constructor)
  /-- There is one parameter for each input, in order, and called like it. -/
  params : method.params.map Field.key = siblingKeys Role.request.placeholder 0 m.inputs

/-- A filter of the name of an event, with its inputs. -/
structure Member.Filters (m : Member) (filter : EventFilter) : Prop where
  name : m.eventNames = [filter.name]
  params : filter.params.map EventParam.name = siblingKeys Role.event.placeholder 0 m.inputs

section Members

variable {profile : Profile} {m : Member} {r s : Registry}

theorem Member.binds_of_run {action : Registering Method} {method : Method}
    (haction : m.method? profile = some action) (hrun : action.run r = (.ok method, s)) :
    m.Binds method := by
  cases m with
  | constructor inputs traits =>
    cases haction
    obtain ⟨params, hparams, rfl⟩ := Method.ofConstructor_eq_ok.1 hrun
    exact ⟨rfl, rfl, keys_recordFields (by decide) hparams⟩
  | function name inputs outputs traits =>
    cases haction
    obtain ⟨params, t, result, hparams, -, rfl⟩ := Method.ofFunction_eq_ok.1 hrun
    exact ⟨rfl, rfl, keys_recordFields (by decide) hparams⟩
  | event name inputs anonymous => cases haction
  | nonCallable kind name => cases haction

theorem Member.filters_of_run {action : Registering EventFilter} {filter : EventFilter}
    (haction : m.filter? profile = some action) (hrun : action.run r = (.ok filter, s)) :
    m.Filters filter := by
  refine ⟨?_, m.boundNames_filter haction hrun⟩
  cases m with
  | event name inputs anonymous =>
    cases haction
    obtain ⟨fields, t, -, -, rfl⟩ := EventFilter.ofEvent_eq_ok.1 hrun
    rfl
  | constructor inputs traits => cases haction
  | function name inputs outputs traits => cases haction
  | nonCallable kind name => cases haction

end Members

/-- Only constructors and functions are listed among the methods. -/
theorem Member.methodNames_of_not_isMethod {m : Member} (h : ¬ m.isMethod) :
    m.methodNames = [] := by
  cases m with
  | constructor inputs traits => exact absurd rfl h
  | function name inputs outputs traits => exact absurd rfl h
  | event name inputs anonymous => rfl
  | nonCallable kind name => rfl

/-- Only events are listed among the events. -/
theorem Member.eventNames_of_not_isEvent {m : Member} (h : ¬ m.isEvent) : m.eventNames = [] := by
  cases m with
  | event name inputs anonymous => exact absurd rfl h
  | constructor inputs traits => rfl
  | function name inputs outputs traits => rfl
  | nonCallable kind name => rfl

/-! ## Names that agree -/

namespace Compilation

variable {profile : Profile} {c d : Compilation} {m : Member} {ms : List Member}

/-- The names that were noted are those of the methods and filters that were stored. -/
structure NamesAgree (c : Compilation) : Prop where
  methods : c.registry.methods = c.methods.map Method.name
  events : c.registry.events = c.events.map EventFilter.name

theorem namesAgree_empty : NamesAgree {} :=
  ⟨rfl, rfl⟩

/-- A member that is bound adds one name to a list, and what it is the name of. -/
theorem namesAgree_bindMember (hc : c.NamesAgree) (h : c.bindMember profile m = (.ok (), d)) :
    d.NamesAgree := by
  have hnoted := growsBy_bindMember profile c m
  rw [h] at hnoted
  have hmethods : d.registry.methods = c.methods.map Method.name ++ m.methodNames := by
    rw [hnoted.methods, hc.methods]
  have hevents : d.registry.events = c.events.map EventFilter.name ++ m.eventNames := by
    rw [hnoted.events, hc.events]
  obtain ⟨action, method, r, haction, -, hevent, hrun, rfl⟩ |
    ⟨action, filter, r, haction, hmethod, -, hrun, rfl⟩ | ⟨hmethod, hevent, rfl⟩ :=
    bindMember_eq_ok h
  · rw [(m.binds_of_run haction hrun).name] at hmethods
    rw [m.eventNames_of_not_isEvent hevent, List.append_nil] at hevents
    exact ⟨by simpa using hmethods, hevents⟩
  · rw [m.methodNames_of_not_isMethod hmethod, List.append_nil] at hmethods
    rw [(m.filters_of_run haction hrun).name] at hevents
    exact ⟨hmethods, by simpa using hevents⟩
  · exact hc

/-- Through a run over members, the noted names stay those of the methods and filters. -/
theorem namesAgree_bindMembers (hc : c.NamesAgree) (h : bindMembers profile c ms = .ok d) :
    d.NamesAgree := by
  induction ms generalizing c with
  | nil =>
    cases h
    exact hc
  | cons m ms ih =>
    obtain ⟨c', hm, hms⟩ := bindMembers_cons_eq_ok.1 h
    exact ih (namesAgree_bindMember hc hm) hms

/-! ## Entries that are skipped -/

/-- Members that are neither methods nor events can be left out. -/
theorem bindMembers_filter {keep : Member → Bool}
    (hkeep : ∀ m, keep m = false → ¬ m.isMethod ∧ ¬ m.isEvent) (profile : Profile)
    (c : Compilation) (ms : List Member) :
    bindMembers profile c (ms.filter keep) = bindMembers profile c ms := by
  induction ms generalizing c with
  | nil => rfl
  | cons m ms ih =>
    cases hm : keep m with
    | false =>
      obtain ⟨hmethod, hevent⟩ := hkeep m hm
      rw [List.filter_cons_of_neg (by simp [hm]), ih, bindMembers]
      cases m with
      | constructor inputs traits => exact absurd rfl hmethod
      | function name inputs outputs traits => exact absurd rfl hmethod
      | event name inputs anonymous => exact absurd rfl hevent
      | nonCallable kind name => rfl
    | true =>
      rw [List.filter_cons_of_pos hm, bindMembers, bindMembers]
      rcases c.bindMember profile m with ⟨_ | _, c'⟩
      · rfl
      · exact ih c'

end Compilation

/-- Whether a member is not one of the entries that cannot be called. -/
def Member.isCallable (m : Member) : Bool :=
  m.kind ∉ [MemberKind.fallback, .receive, .error]

/-- What cannot be called is neither method nor event. -/
theorem Member.not_bound_of_not_isCallable (m : Member) (h : m.isCallable = false) :
    ¬ m.isMethod ∧ ¬ m.isEvent := by
  cases m with
  | constructor inputs traits => exact absurd h (by simp [isCallable, kind])
  | function name inputs outputs traits => exact absurd h (by simp [isCallable, kind])
  | event name inputs anonymous => exact absurd h (by simp [isCallable, kind])
  | nonCallable kind name => exact ⟨Bool.false_ne_true, Bool.false_ne_true⟩

/-! ## Repeated names -/

/-- The names of a list that do not stand further to the front as well. -/
def withoutRepeats (names : List String) : List String :=
  (names.zipIdx.filter fun (name, i) => name ∉ names.take i).map Prod.fst

/-- Names that were seen before, and names that have occurred before, are dropped. -/
theorem firstOccurrences_eq (seen names : List String) :
    Bindings.firstOccurrences seen names =
      (names.zipIdx.filter fun (name, i) => name ∉ seen ∧ name ∉ names.take i).map Prod.fst := by
  induction names generalizing seen with
  | nil => rfl
  | cons first names ih =>
    -- every later name has the first one before it, and is one place further back
    have hlater (dropped : List String) (hdropped : ∀ name, name ∈ dropped ↔ name = first ∨
        name ∈ seen) :
        Bindings.firstOccurrences dropped names = ((names.zipIdx 1).filter fun (name, i) =>
          name ∉ seen ∧ name ∉ (first :: names).take i).map Prod.fst := by
      rw [ih, List.zipIdx_succ, List.filter_map, List.map_map]
      congr 1
      refine List.filter_congr fun x _ => ?_
      simp [hdropped, Bool.and_assoc, Bool.and_left_comm]
    rw [Bindings.firstOccurrences, List.zipIdx_cons]
    by_cases hseen : first ∈ seen
    · rw [if_pos (by simpa using hseen), List.filter_cons_of_neg (by simp [hseen])]
      exact hlater seen fun name => by
        constructor
        · exact Or.inr
        · rintro (rfl | hname)
          · exact hseen
          · exact hname
    · rw [if_neg (by simpa using hseen), List.filter_cons_of_pos (by simp [hseen]), List.map_cons]
      exact congrArg _ (hlater (first :: seen) fun name => List.mem_cons)

/-! ## Bindings -/

/-- **Bindings list what can be called, in order.**  The bindings of any members have one method for
each constructor and function and one filter for each event, in the order of the members, each of
its member's name and with its inputs.  The two lists of names are those of the methods and filters,
position by position, and the distinct names are those that do not stand further to the front as
well.  Fallback, receive and error entries may be left out anywhere. -/
theorem Bindings.lists_members {options : Options} {ms : List Member} {b : Bindings}
    (h : Bindings.ofMembers options ms = .ok b) :
    List.Forall₂ Member.Binds (ms.filter Member.isMethod) b.methods ∧
      List.Forall₂ Member.Filters (ms.filter Member.isEvent) b.events ∧
      b.methodNames = b.methods.map Method.name ∧
      b.eventNames = b.events.map EventFilter.name ∧
      b.distinctMethodNames = withoutRepeats b.methodNames ∧
      Bindings.ofMembers options (ms.filter Member.isCallable) = .ok b := by
  have hlisted : List.Forall₂ Member.Binds (ms.filter Member.isMethod) b.methods ∧
      List.Forall₂ Member.Filters (ms.filter Member.isEvent) b.events :=
    forall₂_of_ofMembers h
      (fun m _ _ _ _ _ haction _ hrun _ => m.binds_of_run haction hrun)
      (fun m _ _ _ _ _ haction _ hrun _ => m.filters_of_run haction hrun)
  have hdistinct : b.distinctMethodNames = withoutRepeats b.methodNames := by
    rw [distinctMethodNames, firstOccurrences_eq, withoutRepeats]
    simp
  have hcallable : Bindings.ofMembers options (ms.filter Member.isCallable) = .ok b := by
    rw [Bindings.ofMembers, Compilation.bindMembers_filter Member.not_bound_of_not_isCallable]
    exact h
  obtain ⟨c, hc, rfl⟩ := ofMembers_eq_ok.1 h
  obtain ⟨hmethods, hevents⟩ :=
    Compilation.namesAgree_bindMembers Compilation.namesAgree_empty hc
  exact ⟨hlisted.1, hlisted.2, hmethods, hevents, hdistinct, hcallable⟩

/-- Two constructors, a function that is overloaded, an event, and entries that are skipped between
them. -/
def vaultMembers : List Member :=
  [.nonCallable .error (some "Closed"),
    .constructor [⟨"owner", "address", none, none, false⟩] {},
    .function "close" [] [] {},
    .nonCallable .fallback none,
    .event "Closed" [⟨"", "uint256", none, none, true⟩] false,
    .function "open" [] [] {},
    .function "close" [⟨"", "bool", none, none, false⟩] [] {},
    .constructor [] {},
    .nonCallable .receive none]

theorem Bindings.lists_members_vault :
    ∃ b, Bindings.ofMembers ⟨.web3, none, none⟩ vaultMembers = .ok b ∧
      b.methodNames = ["new", "close", "open", "close", "new"] ∧
      b.methodNames = b.methods.map Method.name ∧
      b.distinctMethodNames = ["new", "close", "open"] ∧
      Bindings.ofMembers ⟨.web3, none, none⟩ (vaultMembers.filter Member.isCallable) = .ok b := by
  obtain ⟨b, hb, hnames⟩ : ∃ b, Bindings.ofMembers ⟨.web3, none, none⟩ vaultMembers = .ok b ∧
      b.methodNames = ["new", "close", "open", "close", "new"] :=
    exists_of_toOption_map (by decide +kernel)
  obtain ⟨-, -, hmethods, -, hdistinct, hcallable⟩ := lists_members hb
  rw [hnames] at hdistinct
  exact ⟨b, hb, hnames, hmethods, hdistinct.trans (by decide), hcallable⟩

end AbiTypings
