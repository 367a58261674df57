import AbiTypings.Proofs.Asking
import AbiTypings.Proofs.Numerals

/-!
# The names of records

What the name of a record can look like, whatever the members, structs and fields of a document are
called: it is a name as records of its role ask for, possibly with a number behind it.

* **Reach** — `Registry.Reaches.namedBy`: every record has a name that was asked for, or such a name
  with a number.  `Registry.Reaches.named` puts this together with how the names end that are asked
  for.
* **Letters** — `Role.Names.mem_R` and `Role.Names.getLast?_ne`: such a name has a capital R in it
  and does not end in a bracket.  No token of an elementary type has that letter, so the two never
  meet, and a name can be told from the brackets behind it.
-/

namespace AbiTypings

/-! ## Names that were asked for -/

/-- What a record can be called that asks for a name: that name, or that name with a number from two
on. -/
def Numbered (candidate name : String) : Prop :=
  name = candidate ∨ ∃ n : Nat, 2 ≤ n ∧ name = candidate ++ toString n

/-- Every record has a name that was asked for, or such a name with a number. -/
def Registry.NamedBy (Asks : String → Role → Prop) (r : Registry) : Prop :=
  ∀ record ∈ r.records, ∃ candidate, Asks candidate record.role ∧ Numbered candidate record.name

namespace Registry

variable {Asks : String → Role → Prop} {r s : Registry}

theorem namedBy_empty : NamedBy Asks {} := by
  intro record hmem
  exact absurd hmem List.not_mem_nil

/-- Registering a record under a name that is asked for keeps all names such. -/
theorem namedBy_add (hwf : r.WellFormed) (h : r.NamedBy Asks) {candidate : String} {role : Role}
    (hasks : Asks candidate role) (fields : List Field) :
    (r.add candidate role fields).2.NamedBy Asks := by
  obtain ⟨record, -, -, -, hadd⟩ | ⟨-, hadd⟩ := add_cases hwf candidate role fields
  · rw [hadd]
    exact h
  · rw [hadd]
    intro record hmem
    obtain hold | hnew := List.mem_append.1 hmem
    · exact h record hold
    · rw [List.mem_singleton.1 hnew]
      exact ⟨candidate, hasks, unusedName_eq r.names candidate⟩

/-- Registrations under names that are asked for keep all names such. -/
theorem Reaches.namedBy (hreach : r.Reaches Asks s) (hwf : r.WellFormed) (h : r.NamedBy Asks) :
    s.NamedBy Asks := by
  have hboth : s.WellFormed ∧ s.NamedBy Asks := by
    refine hreach.invariant (P := fun t => t.WellFormed ∧ t.NamedBy Asks) ?_ ⟨hwf, h⟩
    rintro t u hstep ⟨ht, hnamed⟩
    refine ⟨ht.step hstep, ?_⟩
    cases hstep with
    | add asks fields => exact namedBy_add ht hnamed asks fields
    | noteMethod => exact hnamed
    | noteEvent => exact hnamed
  exact hboth.2

end Registry

/-! ## Names of a role -/

/-- The names that a record of a role can have, whatever it asks for. -/
def Role.Names (role : Role) (name : String) : Prop :=
  ∃ candidate, role.Asks candidate ∧ Numbered candidate name

/-- Every record is named as its role says. -/
def Registry.Named (r : Registry) : Prop :=
  ∀ record ∈ r.records, record.role.Names record.name

/-- Where all names that are asked for are fit for their roles, every record is named as its role
says. -/
theorem Registry.Reaches.named {r : Registry} (hreach : Registry.Reaches asksFitting {} r) :
    r.Named :=
  hreach.namedBy wellFormed_empty namedBy_empty

/-! ## Letters of names -/

/-- Every ending has a capital R in it, and so has every name. -/
theorem Role.Names.mem_R {role : Role} {name : String} (h : role.Names name) :
    'R' ∈ name.toList := by
  obtain ⟨_, ⟨start, rfl⟩, hname⟩ := h
  have hending : 'R' ∈ role.ending.toList := by
    cases role <;> decide
  have hcandidate : 'R' ∈ (start ++ role.ending).toList := by
    rw [String.toList_append]
    exact List.mem_append_right _ hending
  obtain rfl | ⟨n, -, rfl⟩ := hname
  · exact hcandidate
  · rw [String.toList_append]
    exact List.mem_append_left _ hcandidate

/-- A text without the letter does not begin with a name. -/
theorem Role.Names.append_ne {role : Role} {name text : String} (h : role.Names name)
    (htext : 'R' ∉ text.toList) (rest : String) : text ≠ name ++ rest := by
  rintro rfl
  refine htext ?_
  rw [String.toList_append]
  exact List.mem_append_left _ h.mem_R

/-- The last letter of a name is the last one of the ending, or a digit. -/
theorem Role.Names.getLast?_ne {role : Role} {name : String} (h : role.Names name) :
    name.toList.getLast? ≠ some ']' := by
  obtain ⟨_, ⟨start, rfl⟩, rfl | ⟨n, -, rfl⟩⟩ := h
  · rw [String.toList_append, List.getLast?_append]
    cases role <;> simp [Role.ending]
  · rw [String.toList_append, List.getLast?_append_of_ne_nil _ (toList_toString_ne_nil n)]
    intro hlast
    have hdigit : Char.isDigit ']' := isDigit_of_mem_toString (List.mem_of_getLast? hlast)
    exact absurd hdigit (by decide)

/-- A name that ends as records ask for has no number behind it. -/
theorem Numbered.eq_of_asks {candidate name : String} {role : Role} (h : Numbered candidate name)
    (hname : role.Asks name) : name = candidate := by
  obtain rfl | ⟨n, -, rfl⟩ := h
  · rfl
  · obtain ⟨start, hstart⟩ := hname
    have hlast := congrArg (fun s => s.toList.getLast?) hstart
    rw [String.toList_append, String.toList_append,
      List.getLast?_append_of_ne_nil _ (toList_toString_ne_nil n)] at hlast
    have hdigits : ∀ c ∈ (toString n).toList.getLast?, c.isDigit :=
      fun c hc => isDigit_of_mem_toString (List.mem_of_getLast? hc)
    rw [hlast] at hdigits
    cases role <;> simp [Role.ending] at hdigits

/-- A name that records could ask for, and none did, is not taken. -/
theorem Registry.Reaches.name_ne {Asks : String → Role → Prop} {r : Registry}
    (hreach : Registry.Reaches Asks {} r) {role : Role} {name : String} (hname : role.Asks name)
    (hfree : ∀ candidate other, Asks candidate other → candidate ≠ name) :
    ∀ record ∈ r.records, record.name ≠ name := by
  intro record hmem htaken
  obtain ⟨candidate, hasks, hnumbered⟩ :=
    hreach.namedBy wellFormed_empty namedBy_empty record hmem
  rw [htaken] at hnumbered
  exact hfree candidate record.role hasks (hnumbered.eq_of_asks hname).symm

/-- No token of an elementary type has a capital R in it. -/
def Profile.Plain (profile : Profile) : Prop :=
  ∀ (side : Side) (type : Elementary) (token : String),
    type.token? profile side = some token → 'R' ∉ token.toList

/-- No dialect has a token of an elementary type with a capital R in it. -/
theorem Dialect.plain_profile (dialect : Dialect) : dialect.profile.Plain := by
  intro side type token htoken
  cases dialect <;> cases side <;> cases type <;> simp [Elementary.token?, profile] at htoken <;>
    subst htoken <;> decide

end AbiTypings
