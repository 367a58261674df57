import AbiTypings.Proofs.Compilation

/-!
# What records are made from

Every record is made from a list of siblings: the components of a parameter, the outputs of a
function that hands back several, or the inputs of an event.  These lists can be read off the
members before anything is registered.  `Param.bodies` and `Member.bodies` list what becomes a
record, in the order of registration, with the role it is registered for; `RecordBody.Makes` says
that a record has the fields of a body, for some tokens of its siblings.  That compilation turns
exactly these into records is `Bindings.records_from_bodies` in `AbiTypings.Proofs.Building`.
-/

namespace AbiTypings

/-! ## Bodies -/

/-- Siblings that become the fields of a record. -/
structure RecordBody where
  role : Role
  params : List Param
  /-- Whether their number becomes a field as well, where fields can be reached by position. -/
  counted : Bool

namespace RecordBody

/-- The fields of a record, for the tokens of the siblings. -/
def fields (profile : Profile) (body : RecordBody) (types : List String) : List Field :=
  siblingFields (profile.aliases body.role) body.role 0 body.params types ++
    if body.counted then lengthFields profile body.params else []

/-- Whether a record is made from the siblings, whatever their tokens are. -/
def Makes (profile : Profile) (body : RecordBody) (record : Record) : Prop :=
  ∃ types, types.length = body.params.length ∧
    record.shape = ⟨body.role, body.fields profile types⟩

/-- Components are not counted. -/
theorem fields_of_not_counted (profile : Profile) (role : Role) (ps : List Param)
    (types : List String) :
    RecordBody.fields profile ⟨role, ps, false⟩ types =
      siblingFields (profile.aliases role) role 0 ps types := by
  rw [RecordBody.fields, if_neg Bool.false_ne_true, List.append_nil]

end RecordBody

mutual

/-- What becomes of a parameter and its components: each list of components makes a record. -/
def Param.bodies (role : Role) : Param → List RecordBody
  | ⟨_, _, none, _, _⟩ => []
  | ⟨_, _, some ps, _, _⟩ => siblingBodies role ps ++ [⟨role, ps, false⟩]

/-- What becomes of siblings, in the order of registration. -/
def siblingBodies (role : Role) : List Param → List RecordBody
  | [] => []
  | p :: ps => p.bodies role ++ siblingBodies role ps

end

/-- What becomes of the outputs of a function, the record of all of them last. -/
def outputBodies (outputs : List Param) (traits : CallTraits) : List RecordBody :=
  siblingBodies .response (outputsVisited outputs traits) ++
    if 2 ≤ outputs.length ∧ traits.effect = .readOnly then [⟨.response, outputs, true⟩] else []

/-- Everything in a member that makes a record. -/
def Member.bodies : Member → List RecordBody
  | constructor inputs _ => siblingBodies .request inputs
  | function _ inputs outputs traits =>
    siblingBodies .request inputs ++ outputBodies outputs traits
  | event _ inputs _ =>
    siblingBodies .event inputs ++ if inputs.isEmpty then [] else [⟨.event, inputs, false⟩]
  | nonCallable .. => []

/-! ## What is counted -/

mutual

theorem Param.not_counted_of_mem_bodies {role : Role} :
    ∀ (p : Param), ∀ body ∈ p.bodies role, body.counted = false
  | ⟨_, _, none, _, _⟩, body, hbody => by
    rw [Param.bodies] at hbody
    exact absurd hbody List.not_mem_nil
  | ⟨_, _, some ps, _, _⟩, body, hbody => by
    rw [Param.bodies, List.mem_append, List.mem_singleton] at hbody
    obtain hcomponent | rfl := hbody
    · exact not_counted_of_mem_siblingBodies ps body hcomponent
    · rfl

theorem not_counted_of_mem_siblingBodies {role : Role} :
    ∀ (ps : List Param), ∀ body ∈ siblingBodies role ps, body.counted = false
  | [], body, hbody => by
    rw [siblingBodies] at hbody
    exact absurd hbody List.not_mem_nil
  | p :: ps, body, hbody => by
    rw [siblingBodies, List.mem_append] at hbody
    obtain hfirst | hrest := hbody
    · exact Param.not_counted_of_mem_bodies p body hfirst
    · exact not_counted_of_mem_siblingBodies ps body hrest

end

/-- Only the outputs of a function are counted. -/
theorem Member.role_of_counted {m : Member} {body : RecordBody} (hbody : body ∈ m.bodies)
    (hcounted : body.counted) : body.role = .response := by
  have hnested : ∀ {role : Role} {ps : List Param}, body ∉ siblingBodies role ps := by
    intro role ps hmem
    rw [not_counted_of_mem_siblingBodies ps body hmem] at hcounted
    exact absurd hcounted Bool.false_ne_true
  cases m with
  | constructor inputs traits => exact absurd hbody hnested
  | function name inputs outputs traits =>
    rw [bodies, outputBodies, List.mem_append, List.mem_append] at hbody
    obtain hinput | houtput | hown := hbody
    · exact absurd hinput hnested
    · exact absurd houtput hnested
    · split at hown
      · rw [List.mem_singleton.1 hown]
      · exact absurd hown List.not_mem_nil
  | event name inputs anonymous =>
    rw [bodies, List.mem_append] at hbody
    obtain hinput | hown := hbody
    · exact absurd hinput hnested
    · split at hown
      · exact absurd hown List.not_mem_nil
      · rw [List.mem_singleton.1 hown] at hcounted
        exact absurd hcounted Bool.false_ne_true
  | nonCallable kind name => exact absurd hbody List.not_mem_nil

end AbiTypings
