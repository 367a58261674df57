import Mathlib.Data.List.Count
import AbiTypings.Proofs.Closure
import AbiTypings.Proofs.Expansion

/-!
# The order of members does not matter

Which names records get, which of them are renumbered and who comes to share them all depends on the
order in which members are bound.  What the records of requests and responses say once their names
are written out does not: it is a matter of the members alone.

* **Bodies** — `RecordBody.trees?` spells the fields of a body directly, without any names, and
  `RecordBody.Yields.fieldsExpand` says that the record it yields expands to them.
* **One record for each tree** — `Expands.token_inj`: two tokens of the same role that expand to one
  tree are the same token, because two records of the same fields would be the same record.  The
  induction is over the tree, and needs that a record only leads to records of its own role.
* **Order** — `Bindings.mem_treePairs_iff`: the trees that the records of requests and responses
  have are those that the bodies of the members spell.  `Bindings.treePairs_perm` compares the
  bindings of the same members in two orders.
-/

namespace AbiTypings

/-! ## Bodies -/

/-- The fields that a body spells. -/
def RecordBody.trees? (profile : Profile) (body : RecordBody) :
    Option (List (String × TypeTree)) :=
  (componentTrees? profile body.role 0 body.params).map fun trees =>
    trees ++ if body.counted ∧ profile.positionalAliases then
      [("length", .leaf (toString body.params.length))] else []

/-- A number has no capital R in it, unlike the names of all records. -/
theorem not_mem_R_toString (n : Nat) : 'R' ∉ (toString n).toList := by
  intro hmem
  exact absurd (isDigit_of_mem_toString hmem) (by decide)

/-- The record that a body yields expands to what the body spells. -/
theorem RecordBody.Yields.fieldsExpand {profile : Profile} {records : List Record}
    {body : RecordBody} {record : Record} (hplain : profile.Plain)
    (hnamed : ∀ record ∈ records, record.role.Names record.name)
    (h : body.Yields profile records record) :
    ∃ trees, body.trees? profile = some trees ∧ FieldsExpand records record.fields trees := by
  obtain ⟨types, hwritten, hshape⟩ := h
  have hfields : record.fields = body.fields profile types := congrArg Shape.fields hshape
  obtain ⟨trees, htrees, hexpand⟩ := fieldsExpand_siblingFields (hwritten.spells hplain hnamed) 0
  refine ⟨_, by rw [trees?, htrees, Option.map_some], ?_⟩
  rw [hfields]
  refine hexpand.append ?_
  by_cases hcounted : body.counted ∧ profile.positionalAliases
  · rw [if_pos hcounted.1, lengthFields, if_pos hcounted.2, if_pos hcounted]
    exact .cons (.leaf_of_not_mem_R hnamed (not_mem_R_toString _)) .nil
  · rw [if_neg hcounted]
    split
    · rename_i hcount
      rw [lengthFields, if_neg fun haliases => hcounted ⟨hcount, haliases⟩]
      exact .nil
    · exact .nil

/-! ## One record for each tree -/

/-- A token leads to records of one role only. -/
def LeadsTo (records : List Record) (role : Role) (token : String) : Prop :=
  ∀ record ∈ records, ∀ depth, token = record.name ++ bracketPairs depth → record.role = role

section Leading

variable {profile : Profile} {role : Role} {r : Registry}

theorem leadsTo_of_not_mem_R (hnamed : r.Named) {token : String} (h : 'R' ∉ token.toList) :
    LeadsTo r.records role token :=
  fun record hmem depth heq => absurd heq ((hnamed record hmem).append_ne h (bracketPairs depth))

theorem NamesRecord.leadsTo (hwf : r.WellFormed) (hnamed : r.Named) {token : String}
    (h : NamesRecord r.records role token) : LeadsTo r.records role token := by
  obtain ⟨record, hmem, hrole, depth, rfl⟩ := h
  intro other hother depth' heq
  obtain ⟨hname, -⟩ := append_bracketPairs_inj (hnamed record hmem).getLast?_ne
    (hnamed other hother).getLast?_ne heq
  rw [← hwf.eq_of_name_eq hmem hother hname]
  exact hrole

/-- The token of an elementary type has no capital R in it. -/
theorem IsElementaryToken.not_mem_R (hplain : profile.Plain) {token : String}
    (h : IsElementaryToken profile role token) : 'R' ∉ token.toList := by
  obtain ⟨type, base, dims, hbase, rfl⟩ := h
  exact not_mem_R_arrayToken (hplain _ _ _ hbase) _

/-- The fields of a record lead to records of its own role. -/
theorem leadsTo_of_built {ms : List Member} (hplain : profile.Plain) (hnamed : r.Named)
    (h : r.Built profile (ms.flatMap Member.bodies)) :
    ∀ record ∈ r.records, ∀ field ∈ record.fields,
      LeadsTo r.records record.role field.type := by
  intro record hmem field hfield
  obtain ⟨i, hi⟩ := List.mem_iff_getElem?.1 hmem
  obtain helementary | ⟨-, -, n, rfl⟩ | ⟨other, hother, hrole, depth, htype⟩ :=
    h.builtFrom.field_cases hi hfield
  · exact leadsTo_of_not_mem_R hnamed (helementary.not_mem_R hplain)
  · exact leadsTo_of_not_mem_R hnamed (not_mem_R_toString n)
  · have hnames : NamesRecord r.records record.role field.type :=
      ⟨other, List.mem_of_mem_take hother, hrole, depth, htype⟩
    exact hnames.leadsTo h.wellFormed hnamed

end Leading

section TreesToTokens

variable {records : List Record} {role : Role}

mutual

/-- Tokens of requests or of responses that expand to one tree are the same token. -/
theorem Expands.token_inj
    (hshape : ∀ a ∈ records, ∀ b ∈ records, a.shape = b.shape → a.role ≠ .event → a = b)
    (hfields : ∀ record ∈ records, ∀ field ∈ record.fields,
      LeadsTo records record.role field.type) (hrole : role ≠ .event) :
    ∀ {token token' : String} {tree : TypeTree}, Expands records token tree →
      Expands records token' tree → LeadsTo records role token → LeadsTo records role token' →
      token = token'
  | token, _, _, .leaf _, h', _, _ => by
    generalize htree : TypeTree.leaf token = tree at h'
    cases h' with
    | leaf => exact TypeTree.leaf.inj htree
    | composite => cases htree
  | _, _, _, @Expands.composite _ record fields depth mem expands, h', hleads, hleads' => by
    generalize htree : TypeTree.composite depth fields = tree at h'
    cases h' with
    | leaf => cases htree
    | @composite record' fields' depth' mem' expands' =>
      obtain ⟨rfl, rfl⟩ := TypeTree.composite.inj htree
      have hr : record.role = role := hleads record mem depth rfl
      have hr' : record'.role = role := hleads' record' mem' depth rfl
      -- records of one role and the same fields are one record
      have hsame : record.fields = record'.fields :=
        FieldsExpand.fields_inj hshape hfields hrole expands expands' (hr ▸ hfields record mem)
          (hr' ▸ hfields record' mem')
      have heq : record.shape = record'.shape := by
        rw [Record.shape, Record.shape, hr, hr', hsame]
      rw [hshape record mem record' mem' heq (hr ▸ hrole)]

/-- Fields of requests or of responses that expand to the same trees are the same fields. -/
theorem FieldsExpand.fields_inj
    (hshape : ∀ a ∈ records, ∀ b ∈ records, a.shape = b.shape → a.role ≠ .event → a = b)
    (hfields : ∀ record ∈ records, ∀ field ∈ record.fields,
      LeadsTo records record.role field.type) (hrole : role ≠ .event) :
    ∀ {fields fields' : List Field} {trees : List (String × TypeTree)},
      FieldsExpand records fields trees → FieldsExpand records fields' trees →
      (∀ field ∈ fields, LeadsTo records role field.type) →
      (∀ field ∈ fields', LeadsTo records role field.type) → fields = fields'
  | _, _, _, .nil, h', _, _ => by
    cases h'
    rfl
  | _, _, _, @FieldsExpand.cons _ field fields tree trees head tail, h', hleads, hleads' => by
    generalize htrees : (field.key, tree) :: trees = all at h'
    cases h' with
    | nil => cases htrees
    | @cons field' fields' tree' trees' head' tail' =>
      obtain ⟨hpair, rfl⟩ := List.cons.inj htrees
      obtain ⟨hkey, rfl⟩ := Prod.mk.inj hpair
      rw [List.forall_mem_cons] at hleads hleads'
      have htype : field.type = field'.type :=
        Expands.token_inj hshape hfields hrole head head' hleads.1 hleads'.1
      have hrest : fields = fields' :=
        FieldsExpand.fields_inj hshape hfields hrole tail tail' hleads.2 hleads'.2
      obtain ⟨key, type⟩ := field
      obtain ⟨key', type'⟩ := field'
      obtain rfl : key = key' := hkey
      obtain rfl : type = type' := htype
      rw [hrest]

end

end TreesToTokens

/-! ## Order -/

/-- The fields of every record expand to the trees that are given for it, and to no others. -/
def Bindings.ExpandTo (b : Bindings) (treesOf : Record → List (String × TypeTree)) : Prop :=
  ∀ record ∈ b.records, ∀ trees,
    FieldsExpand b.records record.fields trees ↔ trees = treesOf record

/-- The roles of the records of requests and responses, each with the trees given for the record. -/
def Bindings.treePairs (b : Bindings) (treesOf : Record → List (String × TypeTree)) :
    List (Role × List (String × TypeTree)) :=
  (b.records.filter (·.role ≠ .event)).map fun record => (record.role, treesOf record)

section Order

variable {options : Options} {ms : List Member} {b : Bindings}
  {treesOf : Record → List (String × TypeTree)}

/-- Every record of finished bindings has its trees. -/
theorem Bindings.exists_expandTo (h : Bindings.ofMembers options ms = .ok b) :
    ∃ treesOf, b.ExpandTo treesOf := by
  have hinj : ∀ a ∈ b.records, ∀ c ∈ b.records, a.name = c.name → a = c :=
    fun a ha c hc => List.inj_on_of_nodup_map (nodup_recordNames h) ha hc
  have hexists : ∀ record, ∃ trees, record ∈ b.records →
      ∀ t, FieldsExpand b.records record.fields t ↔ t = trees := by
    intro record
    by_cases hmem : record ∈ b.records
    · obtain ⟨body, -, hyields⟩ := (yields_of_ofMembers h).1 record hmem
      obtain ⟨trees, -, hexpand⟩ := hyields.fieldsExpand options.dialect.plain_profile
        fun record hmem => names_of_mem_records h hmem
      refine ⟨trees, fun _ t => ⟨fun ht => ?_, ?_⟩⟩
      · exact FieldsExpand.unique hinj
          (fun record hmem => (names_of_mem_records h hmem).getLast?_ne) ht hexpand
      · rintro rfl
        exact hexpand
    · exact ⟨[], fun h => absurd h hmem⟩
  choose treesOf htreesOf using hexists
  exact ⟨treesOf, fun record hmem => htreesOf record hmem⟩

/-- The trees of the records of requests and responses are those that the bodies of the members
spell, whatever the order of the members. -/
theorem Bindings.mem_treePairs_iff (h : Bindings.ofMembers options ms = .ok b)
    (htrees : b.ExpandTo treesOf) {role : Role} {trees : List (String × TypeTree)} :
    (role, trees) ∈ b.treePairs treesOf ↔ role ≠ .event ∧
      ∃ body ∈ ms.flatMap Member.bodies, body.role = role ∧
        body.trees? options.dialect.profile = some trees := by
  obtain ⟨hmade, hmakes⟩ := yields_of_ofMembers h
  have hspells : ∀ (body : RecordBody) (record : Record), record ∈ b.records →
      body.Yields options.dialect.profile b.records record →
        record.role = body.role ∧ body.trees? options.dialect.profile = some (treesOf record) := by
    intro body record hmem hyields
    obtain ⟨trees, hbody, hexpand⟩ :=
      hyields.fieldsExpand options.dialect.plain_profile
        fun record hmem => names_of_mem_records h hmem
    obtain ⟨_, -, hshape⟩ := hyields
    rw [(htrees record hmem trees).1 hexpand] at hbody
    exact ⟨congrArg Shape.role hshape, hbody⟩
  rw [treePairs, List.mem_map]
  constructor
  · rintro ⟨record, hrecord, heq⟩
    obtain ⟨hmem, hshared⟩ := List.mem_filter.1 hrecord
    obtain ⟨rfl, rfl⟩ := Prod.mk.inj heq
    obtain ⟨body, hbody, hyields⟩ := hmade record hmem
    obtain ⟨hrole, hbodyTrees⟩ := hspells body record hmem hyields
    exact ⟨by simpa using hshared, body, hbody, hrole.symm, hbodyTrees⟩
  · rintro ⟨hshared, body, hbody, rfl, hbodyTrees⟩
    obtain ⟨record, hmem, hyields⟩ := hmakes body hbody
    obtain ⟨hrole, hrecordTrees⟩ := hspells body record hmem hyields
    refine ⟨record, List.mem_filter.2 ⟨hmem, by simpa [hrole] using hshared⟩, ?_⟩
    rw [hrole, Option.some.inj (hrecordTrees.symm.trans hbodyTrees)]

/-- No two records of requests, and no two of responses, have the same trees. -/
theorem Bindings.nodup_treePairs (h : Bindings.ofMembers options ms = .ok b)
    (htrees : b.ExpandTo treesOf) : (b.treePairs treesOf).Nodup := by
  obtain ⟨r, hbuilt, hrecords⟩ := exists_built_of_ofMembers h
  have hnamed : r.Named := fun record hmem => names_of_mem_records h (hrecords ▸ hmem)
  have hleads := leadsTo_of_built options.dialect.plain_profile hnamed hbuilt
  have hshapes : ∀ a ∈ r.records, ∀ c ∈ r.records, a.shape = c.shape → a.role ≠ .event → a = c :=
    fun _ ha _ hc => hbuilt.wellFormed.eq_of_shape_eq ha hc
  rw [← hrecords] at hleads hshapes
  have hnodup : b.records.Nodup := .of_map _ (nodup_recordNames h)
  refine (hnodup.filter _).map_on ?_
  intro record hrecord other hother heq
  obtain ⟨hmem, hshared⟩ := List.mem_filter.1 hrecord
  obtain ⟨hmem', -⟩ := List.mem_filter.1 hother
  obtain ⟨hrole, hsame⟩ := Prod.mk.inj heq
  have hevent : record.role ≠ .event := by simpa using hshared
  have hexpand := (htrees record hmem (treesOf record)).2 rfl
  have hexpand' := (htrees other hmem' (treesOf record)).2 hsame
  have hfields : record.fields = other.fields :=
    FieldsExpand.fields_inj hshapes hleads hevent hexpand hexpand' (hleads record hmem)
      (hrole ▸ hleads other hmem')
  have hshape : record.shape = other.shape := by
    rw [Record.shape, Record.shape, hrole, hfields]
  exact hshapes record hmem other hmem' hshape hevent

/-- As many records have a role as the role occurs beside trees. -/
theorem Bindings.countP_role_eq (b : Bindings) (treesOf : Record → List (String × TypeTree))
    {role : Role} (hrole : role ≠ .event) :
    b.records.countP (·.role = role) = (b.treePairs treesOf).countP (·.1 = role) := by
  rw [treePairs, List.countP_map, List.countP_filter]
  refine List.countP_congr fun record _ => ?_
  simp only [Function.comp_apply, Bool.and_eq_true, decide_eq_true_eq, ne_eq]
  constructor
  · rintro rfl
    exact ⟨rfl, hrole⟩
  · exact fun h => h.1

/-- Whether members have bindings is the same in every order. -/
theorem Bindings.exists_ofMembers_perm (options : Options) {ms ms' : List Member}
    (hperm : ms.Perm ms') (h : ∃ b, Bindings.ofMembers options ms = .ok b) :
    ∃ b, Bindings.ofMembers options ms' = .ok b := by
  rw [← faultOf_eq_none_iff, faultOf_ofMembers, firstFault_eq_none_iff] at h ⊢
  intro visit hvisit
  exact h visit ((hperm.flatMap_right Member.visits).mem_iff.2 hvisit)

end Order

/-- **The order of members does not matter** for what the records of requests and responses say.
Members have bindings in one order exactly when they have in another.  If they have, the fields of
every record expand in one way only; the records of requests and responses have the same roles and
trees in both orders, none of them twice; and so there are as many requests, and as many responses,
in the one as in the other. -/
theorem Bindings.treePairs_perm (options : Options) {ms ms' : List Member} (hperm : ms.Perm ms') :
    ((∃ b, Bindings.ofMembers options ms = .ok b) ↔
        ∃ b', Bindings.ofMembers options ms' = .ok b') ∧
      ∀ b b', Bindings.ofMembers options ms = .ok b → Bindings.ofMembers options ms' = .ok b' →
        ∃ treesOf treesOf', b.ExpandTo treesOf ∧ b'.ExpandTo treesOf' ∧
          (b.treePairs treesOf).Nodup ∧ (b'.treePairs treesOf').Nodup ∧
          (b.treePairs treesOf).Perm (b'.treePairs treesOf') ∧
          ∀ role, role ≠ .event →
            b.records.countP (·.role = role) = b'.records.countP (·.role = role) := by
  refine ⟨⟨exists_ofMembers_perm options hperm, exists_ofMembers_perm options hperm.symm⟩, ?_⟩
  intro b b' hb hb'
  obtain ⟨treesOf, htrees⟩ := exists_expandTo hb
  obtain ⟨treesOf', htrees'⟩ := exists_expandTo hb'
  have hnodup := nodup_treePairs hb htrees
  have hnodup' := nodup_treePairs hb' htrees'
  have hpairs : (b.treePairs treesOf).Perm (b'.treePairs treesOf') := by
    refine (List.perm_ext_iff_of_nodup hnodup hnodup').2 ?_
    rintro ⟨role, trees⟩
    rw [mem_treePairs_iff hb htrees, mem_treePairs_iff hb' htrees']
    simp only [(hperm.flatMap_right Member.bodies).mem_iff]
  refine ⟨treesOf, treesOf', htrees, htrees', hnodup, hnodup', hpairs, fun role hrole => ?_⟩
  rw [countP_role_eq b treesOf hrole, countP_role_eq b' treesOf' hrole]
  exact hpairs.countP_eq _

/-- Methods that take different structs of one name.  The record of the later one is renumbered, and
the two responses are one record in either order. -/
def collidingMembers : List Member :=
  let takes (name field : String) : Member :=
    .function name
      [⟨"p", "tuple", some [⟨field, "uint8", none, none, false⟩], some "struct Point", false⟩]
      [⟨"", "bool", none, none, false⟩, ⟨"", "bool", none, none, false⟩] (.ofMutability .view)
  [takes "walk" "x", takes "jump" "y"]

theorem Bindings.treePairs_perm_collidingMembers :
    ∃ b b' treesOf treesOf', Bindings.ofMembers ⟨.web3, none, none⟩ collidingMembers = .ok b ∧
      Bindings.ofMembers ⟨.web3, none, none⟩ collidingMembers.reverse = .ok b' ∧
      b.ExpandTo treesOf ∧ b'.ExpandTo treesOf' ∧
      (b.treePairs treesOf).Perm (b'.treePairs treesOf') := by
  obtain ⟨hiff, hsame⟩ := treePairs_perm ⟨.web3, none, none⟩ collidingMembers.reverse_perm.symm
  have hgood : ∀ visit ∈ collidingMembers.flatMap Member.visits, ¬ visit.param.isBad := by
    decide
  obtain ⟨b, hb⟩ := exists_ofMembers ⟨.web3, none, none⟩ hgood
  obtain ⟨b', hb'⟩ := hiff.1 ⟨b, hb⟩
  obtain ⟨treesOf, treesOf', htrees, htrees', -, -, hperm, -⟩ := hsame b b' hb hb'
  exact ⟨b, b', treesOf, treesOf', hb, hb', htrees, htrees', hperm⟩

end AbiTypings
