import AbiTypings.Bindings.Member

/-!
# Visits

The parameters that compilation looks at, in the order in which it meets them, each with the way
that leads to it; and what can be wrong with a parameter on its own account.  None of this reads a
registry, a dialect or a token.

* **Order** — `Member.visits`: a parameter is met before its components, siblings from left to
  right, and inputs before outputs.  The outputs of a function that may change the state are passed
  over when there are several.
* **Truth** — `Member.paramAt?_of_mem_visits`: the path of a visit leads to its parameter.
* **Faults** — `Param.isBad` and `Visit.fault`: a tag that cannot be read, a tuple without
  components, components of something else, or a fixed-point number, which has no token.
-/

namespace AbiTypings

/-! ## Paths -/

/-- The way from a member to one of its parameters. -/
inductive ParamPath where
  | input (index : Nat)
  | output (index : Nat)
  | component (path : ParamPath) (index : Nat)
  deriving DecidableEq, Repr

/-- A path as it is reported. -/
def ParamPath.text : ParamPath → String
  | input index => "inputs[" ++ toString index ++ "]"
  | output index => "outputs[" ++ toString index ++ "]"
  | component path index => path.text ++ ".components[" ++ toString index ++ "]"

/-- A parameter, the member it belongs to and the way to it. -/
structure Visit where
  member : String
  path : ParamPath
  param : Param

/-- The place that is reported for a visit. -/
def Visit.location (visit : Visit) : Location :=
  ⟨visit.member, visit.path.text⟩

/-! ## What is met -/

mutual

/-- A parameter and all of its components, each before its own components. -/
def Param.visits (member : String) (path : ParamPath) : Param → List Visit
  | ⟨name, typeTag, none, internalType, indexed⟩ =>
    [⟨member, path, ⟨name, typeTag, none, internalType, indexed⟩⟩]
  | ⟨name, typeTag, some ps, internalType, indexed⟩ =>
    ⟨member, path, ⟨name, typeTag, some ps, internalType, indexed⟩⟩ ::
      siblingVisits member path.component 0 ps

/-- Siblings, the first of which has position `index`, and all of their components. -/
def siblingVisits (member : String) (pathOf : Nat → ParamPath) (index : Nat) :
    List Param → List Visit
  | [] => []
  | p :: ps => p.visits member (pathOf index) ++ siblingVisits member pathOf (index + 1) ps

end

/-- The outputs of a function that it hands back: several outputs only if it merely reads. -/
def outputsVisited (outputs : List Param) (traits : CallTraits) : List Param :=
  if outputs.length ≤ 1 ∨ traits.effect = .readOnly then outputs else []

/-- Everything that is visited in a member, in order. -/
def Member.visits : Member → List Visit
  | constructor inputs _ => siblingVisits constructorScope .input 0 inputs
  | function name inputs outputs traits =>
    siblingVisits name .input 0 inputs ++
      siblingVisits name .output 0 (outputsVisited outputs traits)
  | event name inputs _ => siblingVisits name .input 0 inputs
  | nonCallable .. => []

/-! ## Following a path -/

/-- The inputs of a member; what cannot be called has none. -/
def Member.inputs : Member → List Param
  | constructor inputs _ | function _ inputs _ _ | event _ inputs _ => inputs
  | nonCallable .. => []

/-- The outputs of a member, which only functions have. -/
def Member.outputs : Member → List Param
  | function _ _ outputs _ => outputs
  | constructor .. | event .. | nonCallable .. => []

/-- The parameter at the end of a path. -/
def Member.paramAt? (m : Member) : ParamPath → Option Param
  | .input index => m.inputs[index]?
  | .output index => m.outputs[index]?
  | .component path index =>
    (m.paramAt? path).bind fun p => p.components.bind fun ps => ps[index]?

section Following

variable {m : Member} {member : String}

mutual

/-- The path of a visit leads to the parameter that is visited. -/
theorem Param.paramAt?_of_mem_visits :
    ∀ (p : Param) (path : ParamPath), m.paramAt? path = some p →
      ∀ visit ∈ p.visits member path, m.paramAt? visit.path = some visit.param
  | ⟨_, _, none, _, _⟩, path, hpath, visit, hmem => by
    rw [Param.visits, List.mem_singleton] at hmem
    rw [hmem, hpath]
  | ⟨_, _, some ps, _, _⟩, path, hpath, visit, hmem => by
    rw [Param.visits, List.mem_cons] at hmem
    obtain rfl | hcomponent := hmem
    · exact hpath
    · refine paramAt?_of_mem_siblingVisits ps path.component 0 ?_ visit hcomponent
      intro i
      rw [Member.paramAt?, hpath, Nat.zero_add]
      rfl

theorem paramAt?_of_mem_siblingVisits :
    ∀ (ps : List Param) (pathOf : Nat → ParamPath) (index : Nat),
      (∀ i, m.paramAt? (pathOf (index + i)) = ps[i]?) →
      ∀ visit ∈ siblingVisits member pathOf index ps, m.paramAt? visit.path = some visit.param
  | [], _, _, _, visit, hmem => by
    rw [siblingVisits] at hmem
    exact absurd hmem List.not_mem_nil
  | p :: ps, pathOf, index, hpaths, visit, hmem => by
    rw [siblingVisits, List.mem_append] at hmem
    obtain hfirst | hrest := hmem
    · exact Param.paramAt?_of_mem_visits p (pathOf index) (hpaths 0) visit hfirst
    · refine paramAt?_of_mem_siblingVisits ps pathOf (index + 1) ?_ visit hrest
      intro i
      rw [Nat.add_assoc, Nat.add_comm 1 i]
      exact hpaths (i + 1)

end

end Following

/-- A visit is where its path says. -/
theorem Member.paramAt?_of_mem_visits (m : Member) {visit : Visit} (hmem : visit ∈ m.visits) :
    m.paramAt? visit.path = some visit.param := by
  have hinputs : ∀ i, m.paramAt? (.input (0 + i)) = m.inputs[i]? := by
    intro i
    rw [Nat.zero_add, paramAt?]
  cases m with
  | constructor inputs traits =>
    exact paramAt?_of_mem_siblingVisits inputs .input 0 hinputs visit hmem
  | function name inputs outputs traits =>
    obtain hinput | houtput := List.mem_append.1 hmem
    · exact paramAt?_of_mem_siblingVisits inputs .input 0 hinputs visit hinput
    · unfold outputsVisited at houtput
      split at houtput
      · refine paramAt?_of_mem_siblingVisits outputs .output 0 ?_ visit houtput
        intro i
        rw [Nat.zero_add, paramAt?, Member.outputs]
      · exact absurd houtput List.not_mem_nil
  | event name inputs anonymous =>
    exact paramAt?_of_mem_siblingVisits inputs .input 0 hinputs visit hmem
  | nonCallable kind name => exact absurd hmem List.not_mem_nil

/-! ## What can be wrong -/

/-- Whether a type is a fixed-point number, which has no token. -/
def Elementary.isFixedPoint : Elementary → Bool
  | fixed .. => true
  | _ => false

/-- Whether something is wrong with a parameter, whatever its components are like. -/
def Param.isBad (p : Param) : Bool :=
  match AbiType.ofTag? p.typeTag with
  | none => true
  | some ⟨.tuple, _⟩ => !p.isComposite
  | some ⟨.elementary type, _⟩ => type.isFixedPoint || p.isComposite

/-- What is wrong with a bad parameter.  A tag that cannot be read is reported as it was given, and
a fixed-point type in its full spelling. -/
def Visit.fault (visit : Visit) : Fault :=
  match AbiType.ofTag? visit.param.typeTag with
  | none => .type visit.param.typeTag (some visit.location)
  | some ⟨.tuple, _⟩ => .parameter visit.location (.componentsMissing visit.param.typeTag)
  | some ⟨.elementary type, _⟩ =>
    if visit.param.isComposite then
      .parameter visit.location (.componentsUnexpected visit.param.typeTag)
    else .type type.text (some visit.location)

/-- The fault of the first bad parameter. -/
def firstFault (visits : List Visit) : Option Fault :=
  (visits.find? (·.param.isBad)).map Visit.fault

/-- The first fault of two lists is that of the first, and else that of the second. -/
theorem firstFault_append (visits visits' : List Visit) :
    firstFault (visits ++ visits') = (firstFault visits).or (firstFault visits') := by
  rw [firstFault, List.find?_append, Option.map_or]
  rfl

theorem firstFault_cons (visit : Visit) (visits : List Visit) :
    firstFault (visit :: visits) = (firstFault [visit]).or (firstFault visits) :=
  firstFault_append [visit] visits

/-- There is no fault just if nothing that is visited is bad. -/
theorem firstFault_eq_none_iff {visits : List Visit} :
    firstFault visits = none ↔ ∀ visit ∈ visits, ¬ visit.param.isBad := by
  rw [firstFault, Option.map_eq_none_iff, List.find?_eq_none]

/-- The first fault is that of a bad parameter before which none is bad. -/
theorem firstFault_eq_some_iff {visits : List Visit} {fault : Fault} :
    firstFault visits = some fault ↔
      ∃ before visit after, visits = before ++ visit :: after ∧
        (∀ earlier ∈ before, ¬ earlier.param.isBad) ∧ visit.param.isBad ∧ fault = visit.fault := by
  rw [firstFault, Option.map_eq_some_iff]
  constructor
  · rintro ⟨visit, hfind, rfl⟩
    obtain ⟨hbad, before, after, rfl, hbefore⟩ := List.find?_eq_some_iff_append.1 hfind
    exact ⟨before, visit, after, rfl, by simpa using hbefore, hbad, rfl⟩
  · rintro ⟨before, visit, after, rfl, hbefore, hbad, rfl⟩
    refine ⟨visit, List.find?_eq_some_iff_append.2 ⟨hbad, before, after, rfl, ?_⟩, rfl⟩
    simpa using hbefore

example :
    firstFault (Member.visits (.event "Moved"
      [⟨"from", "address", none, none, false⟩,
        ⟨"path", "tuple[]",
          some [⟨"x", "uint8", none, none, false⟩, ⟨"y", "uint7", none, none, false⟩], none,
          false⟩] false)) =
      some (.type "uint7" (some ⟨"Moved", "inputs[1].components[1]"⟩)) := by
  decide

end AbiTypings
