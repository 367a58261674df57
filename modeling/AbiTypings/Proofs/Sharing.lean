import AbiTypings.Proofs.FirstFault

/-!
# Sharing is complete

Records of requests and responses are compared by their fields, and the fields hold the tokens of
the components.  So two parameters can only share a record if their components, all the way down,
have come to share theirs first.  This module shows that they always do: once a composite
parameter has a token, another one of the same contents gets the same record, wherever it comes from
and whatever has happened in between, and nothing is registered for it.

* **Contents** — `Param.bare` forgets what has no influence on a record: the struct that a
  parameter is an instance of, and whether it is indexed.  Parameters of equal contents are those
  that are equal after that.
* **Runs** — `Registry.Use` is one use of a registry: a token or the fields of siblings are asked
  for, successfully or not, a record is registered, or a member is noted.
* **Repetition** — `typeToken_again`: a parameter whose token was made before gets that token again
  without changing the registry, and so does any parameter of equal contents.  The induction is over
  the nesting; the invariant `Registry.WellFormed` gives at each level that the record registered
  then is the only one of its fields, so it is the one found now.
* **Sharing** — `typeToken_shares`: the same for two parameters that need not agree in their own
  names, structs and array dimensions.
-/

namespace AbiTypings

/-! ## Contents of parameters -/

mutual

/-- A parameter without its internal types and index marks, and so for all of its components. -/
def Param.bare : Param → Param
  | ⟨name, typeTag, none, _, _⟩ => ⟨name, typeTag, none, none, false⟩
  | ⟨name, typeTag, some ps, _, _⟩ => ⟨name, typeTag, some (bareParams ps), none, false⟩

/-- Parameters without their internal types and index marks. -/
def bareParams : List Param → List Param
  | [] => []
  | p :: ps => p.bare :: bareParams ps

end

/-- The fields of siblings do not depend on internal types and index marks. -/
theorem siblingFields_congr {aliases : Bool} {role : Role} {ps qs : List Param}
    (h : bareParams ps = bareParams qs) (index : Nat) (types : List String) :
    siblingFields aliases role index ps types = siblingFields aliases role index qs types := by
  induction ps generalizing qs index types with
  | nil =>
    cases qs with
    | nil => rfl
    | cons q qs => cases h
  | cons p ps ih =>
    cases qs with
    | nil => cases h
    | cons q qs =>
      rw [bareParams, bareParams, List.cons.injEq] at h
      obtain ⟨hfirst, hrest⟩ := h
      cases types with
      | nil => rfl
      | cons type types =>
        have hname : p.name = q.name := by
          have hbare : p.bare.name = q.bare.name := by rw [hfirst]
          rcases p with ⟨_, _, _ | _, _, _⟩ <;> rcases q with ⟨_, _, _ | _, _, _⟩ <;> exact hbare
        rw [siblingFields, siblingFields, ih hrest, paramFields, paramFields, Param.nameOr,
          Param.nameOr, hname]

/-! ## Uses of a registry -/

/-- One use of a registry, for any dialect and any role.  A computation that fails may have
registered records before. -/
inductive Registry.Use (r : Registry) : Registry → Prop
  | typeToken (profile : Profile) (scope : String) (role : Role) (p : Param)
      (position : Position) : Use r ((AbiTypings.typeToken profile scope role p position).run r).2
  | recordFields (profile : Profile) (scope : String) (role : Role) (positionOf : Nat → Position)
      (ps : List Param) :
      Use r ((AbiTypings.recordFields profile scope role positionOf ps).run r).2
  | add (candidate : String) (role : Role) (fields : List Field) :
      Use r (r.add candidate role fields).2
  | noteMethod (name : String) : Use r (r.noteMethod name)
  | noteEvent (name : String) : Use r (r.noteEvent name)

/-- Any number of uses, one after the other. -/
def Registry.Run : Registry → Registry → Prop :=
  Relation.ReflTransGen Registry.Use

theorem Registry.Use.reaches {r s : Registry} (h : r.Use s) :
    r.Reaches (fun _ _ => True) s := by
  cases h with
  | typeToken profile scope role p position =>
    exact (typeToken_reaches profile scope role p position r).mono fun _ => trivial
  | recordFields profile scope role positionOf ps =>
    exact (recordFields_reaches profile scope role positionOf ps r).mono fun _ => trivial
  | add candidate role fields => exact .single (.add trivial fields)
  | noteMethod name => exact .single (.noteMethod name)
  | noteEvent name => exact .single (.noteEvent name)

theorem Registry.Run.reaches {r s : Registry} (h : r.Run s) :
    r.Reaches (fun _ _ => True) s := by
  induction h with
  | refl => exact .refl _
  | tail _ huse ih => exact ih.trans huse.reaches

/-! ## Repetition -/

section Repetition

variable {profile : Profile} {scope scope' : String} {role : Role}

/-- Where a record of the fields of its components is registered, a parameter has the token of that
record, under whatever name it would ask for another one. -/
theorem typeToken_of_mem {name typeTag : String} {ps : List Param} {internalType : Option String}
    {indexed : Bool} {position : Position} {type : AbiType} {types : List String} {t : Registry}
    {record : Record} (hrole : role ≠ .event) (htype : AbiType.ofTag? typeTag = some type)
    (htuple : type.base = .tuple) (ht : t.WellFormed) (hmem : record ∈ t.records)
    (hshape : record.shape = ⟨role, siblingFields (profile.aliases role) role 0 ps types⟩)
    (htypes : (typeTokens profile scope role position.component 0 ps).run t = (.ok types, t)) :
    (typeToken profile scope role ⟨name, typeTag, some ps, internalType, indexed⟩ position).run t =
      (.ok (record.name ++ brackets type.dims), t) := by
  have hadd : ∀ candidate, t.add candidate role
      (siblingFields (profile.aliases role) role 0 ps types) = (record.name, t) :=
    fun _ => Registry.add_of_mem ht hmem hshape fun hevent => absurd hevent hrole
  rw [typeToken_composite_eq_ok]
  exact ⟨type, types, t, htype, htuple, htypes, _, _, rfl, rfl, by rw [hadd], by rw [hadd]⟩

mutual

/-- A token that was made before is made again, without any change, from whatever has the same
contents. -/
theorem typeToken_again (hrole : role ≠ .event) :
    ∀ (p q : Param) (position position' : Position) {r s t : Registry} {token : String},
      p.bare = q.bare → r.WellFormed → t.WellFormed →
      (typeToken profile scope role p position).run r = (.ok token, s) → s.records ⊆ t.records →
      (typeToken profile scope' role q position').run t = (.ok token, t)
  | ⟨_, _, none, _, _⟩, ⟨_, _, none, _, _⟩, position, position', r, s, t, token, hbare, _, _,
      hrun, _ => by
    rw [Param.bare, Param.bare, Param.mk.injEq] at hbare
    obtain ⟨-, rfl, -⟩ := hbare
    exact typeToken_plain_eq_ok.2 ⟨(typeToken_plain_eq_ok.1 hrun).1, rfl⟩
  | ⟨_, _, some ps, _, _⟩, ⟨_, _, some qs, _, _⟩, position, position', r, s, t, token, hbare, hr,
      ht, hrun, hsub => by
    rw [Param.bare, Param.bare, Param.mk.injEq, Option.some.injEq] at hbare
    obtain ⟨-, rfl, hparams, -⟩ := hbare
    obtain ⟨type, types, u, htype, htuple, htypes, hgrow, record, hmem, hshape, rfl⟩ :=
      exists_record_of_typeToken_eq_ok hr hrun
    -- the record that was registered then is the one found now
    rw [siblingFields_congr hparams] at hshape
    refine typeToken_of_mem hrole htype htuple ht (hsub hmem) hshape ?_
    exact typeTokens_again hrole ps qs _ position'.component 0 0 hparams hr ht htypes
      (List.Subset.trans hgrow hsub)
  | ⟨_, _, none, _, _⟩, ⟨_, _, some _, _, _⟩, _, _, _, _, _, _, hbare, _, _, _, _ => by
    rw [Param.bare, Param.bare, Param.mk.injEq] at hbare
    exact absurd hbare.2.2.1 (by simp)
  | ⟨_, _, some _, _, _⟩, ⟨_, _, none, _, _⟩, _, _, _, _, _, _, hbare, _, _, _, _ => by
    rw [Param.bare, Param.bare, Param.mk.injEq] at hbare
    exact absurd hbare.2.2.1 (by simp)

theorem typeTokens_again (hrole : role ≠ .event) :
    ∀ (ps qs : List Param) (positionOf positionOf' : Nat → Position) (index index' : Nat)
      {r s t : Registry} {types : List String}, bareParams ps = bareParams qs → r.WellFormed →
      t.WellFormed →
      (typeTokens profile scope role positionOf index ps).run r = (.ok types, s) →
      s.records ⊆ t.records →
      (typeTokens profile scope' role positionOf' index' qs).run t = (.ok types, t)
  | [], [], _, _, _, _, _, _, _, _, _, _, _, hrun, _ => by
    exact typeTokens_nil_eq_ok.2 ⟨(typeTokens_nil_eq_ok.1 hrun).1, rfl⟩
  | p :: ps, q :: qs, positionOf, positionOf', index, index', r, s, t, types, hbare, hr, ht, hrun,
      hsub => by
    rw [bareParams, bareParams, List.cons.injEq] at hbare
    obtain ⟨hfirst, hrest⟩ := hbare
    obtain ⟨type, u, rest, htype, htypes, rfl⟩ := typeTokens_cons_eq_ok.1 hrun
    have hu : u.WellFormed :=
      ((typeToken_reaches profile scope role p _).of_run htype).wellFormed hr
    have hgrow : u.records <+: s.records :=
      ((typeTokens_reaches profile scope role ps _ _).of_run htypes).records_grow hu
    have hagain := typeToken_again hrole p q (positionOf index) (positionOf' index') hfirst hr ht
      htype (List.Subset.trans hgrow.subset hsub)
    have hagains := typeTokens_again hrole ps qs positionOf positionOf' (index + 1) (index' + 1)
      hrest hu ht htypes hsub
    exact typeTokens_cons_eq_ok.2 ⟨type, t, rest, hagain, hagains, rfl⟩
  | [], _ :: _, _, _, _, _, _, _, _, _, hbare, _, _, _, _ => by
    rw [bareParams, bareParams] at hbare
    cases hbare
  | _ :: _, [], _, _, _, _, _, _, _, _, hbare, _, _, _, _ => by
    rw [bareParams, bareParams] at hbare
    cases hbare

end

/-! ## Sharing -/

/-- **Sharing is complete.**  Let a composite parameter of a request or response have got its token
in some run of uses of a registry, and let another one with the same components, up to internal
types and index marks, be dealt with any number of uses later.  Then both tokens are the name of one
record, with the brackets of either parameter behind it, and the second changes nothing. -/
theorem typeToken_shares {p q : Param} {ps qs : List Param} {position position' : Position}
    {type type' : AbiType} {r s t : Registry} {token : String}
    (hrole : role = .request ∨ role = .response)
    (hp : p.components = some ps) (hq : q.components = some qs)
    (hparams : bareParams ps = bareParams qs)
    (htype : AbiType.ofTag? p.typeTag = some type) (htuple : type.base = .tuple)
    (htype' : AbiType.ofTag? q.typeTag = some type') (htuple' : type'.base = .tuple)
    (hbefore : Registry.Run {} r)
    (hrun : (typeToken profile scope role p position).run r = (.ok token, s))
    (hbetween : s.Run t) :
    ∃ record ∈ s.records, record.role = role ∧ token = record.name ++ brackets type.dims ∧
      (typeToken profile scope' role q position').run t =
        (.ok (record.name ++ brackets type'.dims), t) := by
  have hevent : role ≠ .event := by
    rcases hrole with rfl | rfl <;> decide
  have hr : r.WellFormed := hbefore.reaches.wellFormed Registry.wellFormed_empty
  have hs : s.WellFormed := ((typeToken_reaches profile scope role p _).of_run hrun).wellFormed hr
  have ht : t.WellFormed := hbetween.reaches.wellFormed hs
  have hsub : s.records ⊆ t.records := (hbetween.reaches.records_grow hs).subset
  obtain ⟨name, typeTag, components, internalType, indexed⟩ := p
  obtain ⟨name', typeTag', components', internalType', indexed'⟩ := q
  obtain rfl : components = some ps := hp
  obtain rfl : components' = some qs := hq
  obtain ⟨_, types, u, hfound, -, htypes, hgrow, record, hmem, hshape, rfl⟩ :=
    exists_record_of_typeToken_eq_ok hr hrun
  obtain rfl := Option.some.inj (hfound.symm.trans htype)
  refine ⟨record, hmem, congrArg Shape.role hshape, rfl, ?_⟩
  rw [siblingFields_congr hparams] at hshape
  refine typeToken_of_mem hevent htype' htuple' ht (hsub hmem) hshape ?_
  exact typeTokens_again hevent ps qs _ position'.component 0 0 hparams hr ht htypes
    (List.Subset.trans hgrow hsub)

/-- A point. -/
def pointParam : Param :=
  ⟨"from", "tuple", some [⟨"x", "uint256", none, none, false⟩], some "struct Point", false⟩

/-- An array of arrays of points, which does not say so. -/
def pathParam : Param :=
  ⟨"path", "tuple[2][]", some [⟨"x", "uint256", none, some "uint256", true⟩], none, false⟩

/-- Between the two, a record is registered and an event is noted. -/
theorem typeToken_shares_point :
    ∃ token s t,
      (typeToken Dialect.web3.profile "move" .request pointParam (.input 0)).run {} =
        (.ok token, s) ∧
      s.Run t ∧ ∃ record ∈ s.records, record.role = .request ∧
        token = record.name ++ brackets [] ∧
        (typeToken Dialect.web3.profile "draw" .request pathParam (.input 3)).run t =
          (.ok (record.name ++ brackets [.fixed 2, .dynamic]), t) := by
  have hgood : firstFault (pointParam.visits "move" (.input 0)) = none := by decide
  have hfaults : (typeToken Dialect.web3.profile "move" .request pointParam (.input 0)).FaultsWith
      none := by
    rw [← hgood]
    exact faultsWith_typeToken pointParam (sameWay_input 0)
  obtain ⟨token, s, hrun⟩ := hfaults.exists_run {}
  have hbetween : s.Run ((s.add "MoveRequest" .request []).2.noteEvent "Moved") :=
    .tail (.single (.add "MoveRequest" .request [])) (.noteEvent "Moved")
  have htype : AbiType.ofTag? pointParam.typeTag = some ⟨.tuple, []⟩ := by decide
  have htype' : AbiType.ofTag? pathParam.typeTag = some ⟨.tuple, [.fixed 2, .dynamic]⟩ := by decide
  have hparams : bareParams [⟨"x", "uint256", none, none, false⟩] =
      bareParams [⟨"x", "uint256", none, some "uint256", true⟩] := rfl
  exact ⟨token, s, _, hrun, hbetween,
    typeToken_shares (Or.inl rfl) rfl rfl hparams htype rfl htype' rfl .refl hrun hbetween⟩

end Repetition
end AbiTypings
