import AbiTypings.Proofs.MeaningfulContent

/-!
# Where decoded parts stand

An object and a list are decoded by the same visits: those of its members, or those of its elements
under the names that their positions stand for (`parts`).  What was decoded therefore stands in a
part, one container deeper: components in a parameter (`Param.exists_components`), and inputs in an
element of the list (`Member.exists_inputs`).
-/

namespace AbiTypings

open Json

/-! ## Parts -/

/-- The members of an object, or the elements of a list under the names for their positions. -/
def parts (names : List String) : Json → List (String × Json)
  | .obj members => members
  | .arr items => names.zip items
  | _ => []

theorem depth_le_itemsDepth {items : List Json} {j : Json} (h : j ∈ items) :
    j.depth ≤ itemsDepth items := by
  induction items with
  | nil => cases h
  | cons j' items ih =>
    rw [itemsDepth]
    rcases List.mem_cons.1 h with rfl | h
    · exact Nat.le_max_left _ _
    · exact (ih h).trans (Nat.le_max_right _ _)

theorem depth_le_membersDepth {members : List (String × Json)} {key : String} {j : Json}
    (h : (key, j) ∈ members) : j.depth ≤ membersDepth members := by
  induction members with
  | nil => cases h
  | cons m members ih =>
    obtain ⟨key', j'⟩ := m
    rw [membersDepth]
    rcases List.mem_cons.1 h with heq | h
    · obtain ⟨rfl, rfl⟩ := Prod.mk.inj heq
      exact Nat.le_max_left _ _
    · exact (ih h).trans (Nat.le_max_right _ _)

/-- A part of a value is nested less deep than the value. -/
theorem depth_lt_of_mem_parts {names : List String} {key : String} {j part : Json}
    (h : (key, part) ∈ parts names j) : part.depth < j.depth := by
  cases j with
  | obj members => exact Nat.lt_succ_of_le (depth_le_membersDepth h)
  | arr items => exact Nat.lt_succ_of_le (depth_le_itemsDepth (List.of_mem_zip h).2)
  | null | bool | int | real | str => cases h

/-- A part of the value of a tree is the value of a part. -/
theorem exists_of_mem_parts_sorted {names : List String} {key : String} {j v : Json}
    (h : (key, v) ∈ parts names j.sorted) :
    ∃ part, (key, part) ∈ parts names j ∧ v = part.sorted := by
  cases j with
  | obj members =>
    rcases exists_of_mem_sortedMembers h with h | h
    · cases h
    · exact h
  | arr items =>
    rw [sorted, parts, sortedItems_eq_map, List.zip_map_right] at h
    obtain ⟨⟨key', part⟩, hmem, heq⟩ := List.mem_map.1 h
    obtain ⟨rfl, rfl⟩ := Prod.mk.inj heq
    exact ⟨part, hmem, rfl⟩
  | null | bool | int | real | str => cases h

/-- What is a list in order was a list as it was written. -/
theorem eq_arr_of_sorted_eq {j : Json} {items : List Json} (h : j.sorted = .arr items) :
    ∃ items', j = .arr items' ∧ items = items'.map sorted := by
  cases j with
  | arr items' => exact ⟨items', rfl, (sortedItems_eq_map items').symm ▸ (Json.arr.inj h).symm⟩
  | null | bool | int | real | str | obj => cases h

/-- What holds only at the end of a run of visits has come with one of them. -/
theorem exists_visit_of_foldlM {σ : Type} {visit : σ → String × Json → Decoded σ} {P : σ → Prop}
    {members : List (String × Json)} {s s' : σ} (h : members.foldlM visit s = .ok s')
    (hstart : ¬ P s) (hend : P s') :
    ∃ m ∈ members, ∃ t t', visit t m = .ok t' ∧ ¬ P t ∧ P t' := by
  induction members generalizing s with
  | nil =>
    obtain rfl := Except.ok.inj h
    exact absurd hend hstart
  | cons m members ih =>
    obtain ⟨t, hvisit, hrest⟩ := bind_eq_ok_iff.1 h
    by_cases ht : P t
    · exact ⟨m, List.mem_cons_self, s, t, hvisit, hstart, ht⟩
    · obtain ⟨m', hm', hcome⟩ := ih hrest ht
      exact ⟨m', List.mem_cons_of_mem _ hm', hcome⟩

/-! ## Components -/

namespace Param

/-- A decoded parameter comes from a visit of its parts, which sets its components. -/
theorem exists_visits {j : Json} {p : Param} (h : Param.ofJson j = .ok p) :
    ∃ acc, (parts Param.memberNames j).foldlM visitPair {} = .ok acc ∧
      p.components = acc.components := by
  have hparam {missing : DecodeError} {acc : ParamMembers} (h : acc.toParam missing = .ok p) :
      p.components = acc.components := by
    unfold ParamMembers.toParam at h
    split at h
    · exact (congrArg Param.components (Except.ok.inj h)).symm
    · cases h
  cases j with
  | obj members =>
    rw [Param.ofJson, visitMembers_eq_foldlM] at h
    obtain ⟨acc, hvisits, h⟩ := bind_eq_ok_iff.1 h
    exact ⟨acc, hvisits, hparam h⟩
  | arr items =>
    rw [Param.ofJson, visitItems_eq_foldlM] at h
    obtain ⟨acc, hvisits, h⟩ := bind_eq_ok_iff.1 h
    obtain ⟨p', hp, h⟩ := bind_eq_ok_iff.1 h
    obtain ⟨-, -, h⟩ := bind_eq_ok_iff.1 h
    obtain rfl := Except.ok.inj h
    exact ⟨acc, hvisits, hparam hp⟩
  | null | bool | int | real | str => cases h

/-- The components of a parameter stand in one of its parts. -/
theorem exists_components {j : Json} {p : Param} {ps : List Param}
    (h : Param.ofJson j.sorted = .ok p) (hps : p.components = some ps) :
    ∃ items, ("components", Json.arr items) ∈ parts Param.memberNames j ∧
      (items.map sorted).mapM Param.ofJson = .ok ps := by
  obtain ⟨acc, hvisits, hacc⟩ := exists_visits h
  obtain ⟨⟨key, v⟩, hmem, t, t', hvisit, hbefore, hafter⟩ :=
    exists_visit_of_foldlM (P := fun acc => acc.components = some ps) hvisits nofun
      (hacc.symm.trans hps)
  rcases visitPair_eq_ok hvisit with ⟨rfl, qs, rfl, hqs⟩ | ⟨-, _, rfl⟩ | ⟨-, _, rfl⟩ |
    ⟨-, _, rfl⟩ | ⟨-, _, rfl⟩ | rfl
  · obtain ⟨items, rfl, hitems⟩ := hqs ps hafter
    obtain ⟨part, hpart, hsorted⟩ := exists_of_mem_parts_sorted hmem
    obtain ⟨items', rfl, rfl⟩ := eq_arr_of_sorted_eq hsorted.symm
    exact ⟨items', hpart, (listOfJson_eq_mapM _).symm.trans hitems⟩
  all_goals exact absurd hafter hbefore

end Param

/-! ## Inputs -/

namespace Entry

theorem visits_of_ofJson {j : Json} {entry : Entry} (h : Entry.ofJson j = .ok entry) :
    (parts memberNames j).foldlM visit {} = .ok entry := by
  cases j with
  | obj members => exact h
  | arr items =>
    obtain ⟨entry', hvisits, h⟩ := bind_eq_ok_iff.1 h
    obtain ⟨-, -, h⟩ := bind_eq_ok_iff.1 h
    obtain rfl := Except.ok.inj h
    exact hvisits
  | null | bool | int | real | str => cases h

/-- Only the member for inputs sets the inputs of an entry. -/
theorem inputs_of_visit {entry entry' : Entry} {key : String} {j : Json}
    (h : entry.visit (key, j) = .ok entry') :
    entry'.inputs = entry.inputs ∨ key = "inputs" ∧ paramsOfJson j = .ok entry'.inputs := by
  unfold visit at h
  split at h
  case h_3 heq =>
    obtain ⟨rfl, rfl⟩ := Prod.mk.inj heq
    obtain ⟨ps, hps, rfl⟩ := map_eq_ok_iff.1 h
    exact .inr ⟨rfl, hps⟩
  case h_9 =>
    obtain rfl := Except.ok.inj h
    exact .inl rfl
  all_goals
    obtain ⟨_, -, rfl⟩ := map_eq_ok_iff.1 h
    exact .inl rfl

theorem inputs_of_toMember {entry : Entry} {name : String} {inputs outputs : List Param}
    {traits : CallTraits} (h : entry.toMember = .ok (.function name inputs outputs traits)) :
    entry.inputs = inputs := by
  unfold toMember at h
  split at h <;> cases h
  rfl

end Entry

/-- The inputs of an element of the list stand in one of its parts. -/
theorem Member.exists_inputs {j : Json} {name : String} {inputs outputs : List Param}
    {traits : CallTraits} (h : Member.ofElement j = .ok (.function name inputs outputs traits))
    (hne : inputs ≠ []) :
    ∃ items, ("inputs", Json.arr items) ∈ parts Entry.memberNames j ∧
      (items.map sorted).mapM Param.ofJson = .ok inputs := by
  obtain ⟨entry, hentry, hmember⟩ := Member.exists_entry h
  have hinputs := Entry.inputs_of_toMember hmember
  obtain ⟨⟨key, v⟩, hmem, t, t', hvisit, hbefore, hafter⟩ :=
    exists_visit_of_foldlM (P := fun entry => entry.inputs = inputs)
      (Entry.visits_of_ofJson hentry) (fun hstart => hne hstart.symm) hinputs
  rcases Entry.inputs_of_visit hvisit with hsame | ⟨rfl, hparams⟩
  · exact absurd (hsame.symm.trans hafter) hbefore
  · rw [hafter] at hparams
    obtain ⟨part, hpart, hsorted⟩ := exists_of_mem_parts_sorted hmem
    cases v with
    | arr items =>
      obtain ⟨items', rfl, rfl⟩ := eq_arr_of_sorted_eq hsorted.symm
      exact ⟨items', hpart, (Param.listOfJson_eq_mapM _).symm.trans hparams⟩
    | null => exact absurd (Except.ok.inj hparams).symm hne
    | bool | int | real | str | obj => cases hparams

end AbiTypings
