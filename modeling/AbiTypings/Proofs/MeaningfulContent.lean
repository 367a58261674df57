import AbiTypings.Proofs.MemberLists
import Mathlib.Logic.Relation

/-!
# What decoding depends on

Two documents are decoded alike, faults included, if they differ only in what the decoder takes no
account of: the order of the members of objects, members under keys that are not known where they
stand, members that are null and may be left out, and an envelope around the list.

* **Visitors** — `foldlM_insert_of_skip`: a member that is passed over in one state is passed over
  wherever it stands; `foldlM_sortedMembers_replace`: a value can be replaced by one that is visited
  alike.
* **Changes** — `Param.ofJson_of_change`, `Member.ofElement_of_change`, `sorted_of_reorders`: what
  each kind of change leaves the same.
* **Documents** — `Member.listOfText_of_changes`: any number of changes.
-/

namespace AbiTypings

open Json

/-! ## Visitors -/

section Visitors

variable {σ : Type} {visit : σ → String × Json → Decoded σ} {key : String} {value value' : Json}
  {members members' before after : List (String × Json)}

/-- A member that is passed over at the start is passed over at its place, if the visits of other
members do not change that. -/
theorem foldlM_insert_of_skip (hkey : key ∉ members.map (·.1))
    (hkeep : ∀ {s s' : σ} {m : String × Json}, m.1 ≠ key → visit s (key, value) = .ok s →
      visit s m = .ok s' → visit s' (key, value) = .ok s')
    {s : σ} (hskip : visit s (key, value) = .ok s) :
    (insert key value members).foldlM visit s = members.foldlM visit s := by
  induction members generalizing s with
  | nil =>
    rw [insert_nil, List.foldlM_cons, hskip]
    rfl
  | cons m members ih =>
    obtain ⟨key', value'⟩ := m
    rw [List.map_cons, List.mem_cons, not_or] at hkey
    rcases lt_or_gt_of_ne_string hkey.1 with hlt | hlt
    · rw [insert_cons_of_lt hlt, List.foldlM_cons, hskip]
      rfl
    · rw [insert_cons_of_gt hlt, List.foldlM_cons, List.foldlM_cons]
      rcases hvisit : visit s (key', value') with e | s'
      · rfl
      · exact ih hkey.2 (hkeep (Ne.symm hkey.1) hskip hvisit)

/-- Members of one key that are visited alike. -/
def VisitedAlike (visit : σ → String × Json → Decoded σ) (m m' : String × Json) : Prop :=
  m.1 = m'.1 ∧ ∀ s, visit s m = visit s m'

theorem VisitedAlike.refl (m : String × Json) : VisitedAlike visit m m :=
  ⟨rfl, fun _ => rfl⟩

theorem forall₂_insert (h : List.Forall₂ (VisitedAlike visit) members members')
    (hvalue : VisitedAlike visit (key, value) (key, value')) :
    List.Forall₂ (VisitedAlike visit) (insert key value members) (insert key value' members') := by
  induction h with
  | nil => exact .cons hvalue .nil
  | @cons m m' members members' hm hrest ih =>
    obtain ⟨k, v⟩ := m
    obtain ⟨k', v'⟩ := m'
    obtain rfl : k = k' := hm.1
    rcases eq_or_ne key k with rfl | hne
    · rw [insert_cons_self, insert_cons_self]
      exact .cons hvalue hrest
    · rcases lt_or_gt_of_ne_string hne with hlt | hlt
      · rw [insert_cons_of_lt hlt, insert_cons_of_lt hlt]
        exact .cons hvalue (.cons hm hrest)
      · rw [insert_cons_of_gt hlt, insert_cons_of_gt hlt]
        exact .cons hm ih

/-- Members that are visited alike stay so in the order of their keys. -/
theorem forall₂_sortedMembers (h : List.Forall₂ (VisitedAlike visit) before after) :
    List.Forall₂ (VisitedAlike visit) (sortedMembers before members)
      (sortedMembers after members) := by
  induction members generalizing before after with
  | nil => exact h
  | cons m members ih => exact ih (forall₂_insert h (.refl _))

/-- Members that are visited alike lead to the same end. -/
theorem foldlM_congr_of_visitedAlike (h : List.Forall₂ (VisitedAlike visit) members members')
    (s : σ) : members.foldlM visit s = members'.foldlM visit s := by
  induction h generalizing s with
  | nil => rfl
  | cons hm _ ih =>
    rw [List.foldlM_cons, List.foldlM_cons, hm.2 s]
    exact congrArg _ (funext ih)

/-- In an object, a value can be replaced by one that is visited alike. -/
theorem foldlM_sortedMembers_replace
    (h : ∀ s, visit s (key, value.sorted) = visit s (key, value'.sorted)) (s : σ) :
    (sortedMembers [] (before ++ (key, value) :: after)).foldlM visit s =
      (sortedMembers [] (before ++ (key, value') :: after)).foldlM visit s := by
  refine foldlM_congr_of_visitedAlike ?_ s
  rw [sortedMembers_append, sortedMembers_append, sortedMembers, sortedMembers]
  refine forall₂_sortedMembers (forall₂_insert ?_ ⟨rfl, h⟩)
  exact List.forall₂_same.2 fun m _ => .refl m

end Visitors

/-! ## Added members -/

/-- A member is added that need not be there: one of a key that is not known, or null under a key
that may be left out. -/
inductive AddsMember (known optional : List String) :
    List (String × Json) → List (String × Json) → Prop where
  | unknown {before after : List (String × Json)} {key : String} (value : Json)
    (hunknown : key ∉ known) (hnew : key ∉ (before ++ after).map (·.1)) :
    AddsMember known optional (before ++ after) (before ++ (key, value) :: after)
  | null {before after : List (String × Json)} {key : String} (hoptional : key ∈ optional)
    (hnew : key ∉ (before ++ after).map (·.1)) :
    AddsMember known optional (before ++ after) (before ++ (key, .null) :: after)

/-- A member whose key is no other's can be put in order last. -/
theorem sortedMembers_middle {before after : List (String × Json)} {key : String} {value : Json}
    (hnew : key ∉ (before ++ after).map (·.1)) :
    sortedMembers [] (before ++ (key, value) :: after) =
      insert key value.sorted (sortedMembers [] (before ++ after)) := by
  rw [List.map_append, List.mem_append, not_or] at hnew
  rw [sortedMembers_append, sortedMembers_append, sortedMembers, sortedMembers_insert hnew.2]

/-- What is added is passed over by a visitor that passes over the members of unknown keys, and over
null under the keys that may be left out. -/
theorem AddsMember.foldlM_eq {known optional : List String} {ms ms' : List (String × Json)}
    (h : AddsMember known optional ms ms') {σ : Type} {visit : σ → String × Json → Decoded σ}
    (hunknown : ∀ {key : String}, key ∉ known → ∀ s j, visit s (key, j) = .ok s)
    (hkeep : ∀ {key : String} {m : String × Json} {s s' : σ}, key ∈ optional → m.1 ≠ key →
      visit s (key, .null) = .ok s → visit s m = .ok s' → visit s' (key, .null) = .ok s')
    {s : σ} (hstart : ∀ key ∈ optional, visit s (key, .null) = .ok s) :
    (sortedMembers [] ms').foldlM visit s = (sortedMembers [] ms).foldlM visit s := by
  have hfresh {members : List (String × Json)} {key : String} (hnew : key ∉ members.map (·.1)) :
      key ∉ (sortedMembers [] members).map (·.1) := by
    rw [mem_keys_sortedMembers]
    exact fun hmem => hmem.elim (List.not_mem_nil) hnew
  cases h with
  | unknown value hkey hnew =>
    rw [sortedMembers_middle hnew]
    exact foldlM_insert_of_skip (hfresh hnew) (fun _ _ _ => hunknown hkey _ _) (hunknown hkey _ _)
  | null hkey hnew =>
    rw [sortedMembers_middle hnew]
    exact foldlM_insert_of_skip (hfresh hnew) (fun hne => hkeep hkey hne) (hstart _ hkey)

/-- In a list, an element can be replaced by one that is decoded alike. -/
theorem mapM_sortedItems_replace {α : Type} {f : Json → Decoded α} {j j' : Json}
    (h : f j.sorted = f j'.sorted) (before after : List Json) :
    (sortedItems (before ++ j :: after)).mapM f = (sortedItems (before ++ j' :: after)).mapM f := by
  simp only [sortedItems_eq_map, List.map_append, List.map_cons, List.mapM_append,
    List.mapM_cons, h]

/-! ## Parameters -/

namespace Param

/-- The members of a parameter that may be left out. -/
def optionalNames : List String :=
  ["name", "components", "internalType", "indexed"]

/-- A change of what the decoder takes no account of, in a parameter or in its components. -/
inductive Change : Json → Json → Prop where
  | adds {members members' : List (String × Json)}
    (h : AddsMember Param.memberNames optionalNames members members') :
    Change (.obj members) (.obj members')
  | component {before after : List (String × Json)} {items items' : List Json} {j j' : Json}
    (h : Change j j') :
    Change (.obj (before ++ ("components", .arr (items ++ j :: items')) :: after))
      (.obj (before ++ ("components", .arr (items ++ j' :: items')) :: after))
  /-- In the list form, the components are the third element. -/
  | componentOfList {name type : Json} {items items' rest : List Json} {j j' : Json}
    (h : Change j j') :
    Change (.arr (name :: type :: .arr (items ++ j :: items') :: rest))
      (.arr (name :: type :: .arr (items ++ j' :: items') :: rest))

/-- Visit a member with its key. -/
def visitPair (acc : ParamMembers) (m : String × Json) : Decoded ParamMembers :=
  Param.visitMember acc m.1 m.2

theorem visitMembers_eq_foldlM (acc : ParamMembers) (members : List (String × Json)) :
    Param.visitMembers acc members = members.foldlM visitPair acc := by
  induction members generalizing acc with
  | nil => rfl
  | cons m members ih =>
    obtain ⟨key, j⟩ := m
    rw [Param.visitMembers, List.foldlM_cons]
    exact congrArg _ (funext ih)

theorem visitItems_eq_foldlM (acc : ParamMembers) (names : List String) (items : List Json) :
    Param.visitItems acc names items = (names.zip items).foldlM visitPair acc := by
  induction items generalizing acc names with
  | nil =>
    cases names <;> rfl
  | cons j items ih =>
    cases names with
    | nil => rfl
    | cons key names =>
      rw [Param.visitItems, List.zip_cons_cons, List.foldlM_cons]
      exact congrArg _ (funext fun acc => ih acc names)

theorem listOfJson_eq_mapM (items : List Json) :
    Param.listOfJson items = items.mapM Param.ofJson := by
  induction items with
  | nil => rfl
  | cons j items ih => rw [Param.listOfJson, List.mapM_cons, ih]

theorem visitPair_of_ne {key : String} (h : key ≠ "components") (acc : ParamMembers) (j : Json) :
    visitPair acc (key, j) = acc.visit key j := by
  cases j <;> simp [visitPair, Param.visitMember, h]

theorem visitPair_unknown {key : String} (h : key ∉ Param.memberNames) (acc : ParamMembers)
    (j : Json) : visitPair acc (key, j) = .ok acc := by
  simp only [Param.memberNames, List.mem_cons, List.not_mem_nil, or_false, not_or] at h
  obtain ⟨hname, htype, hcomponents, hinternal, hindexed⟩ := h
  rw [visitPair_of_ne hcomponents, ParamMembers.visit, if_neg hname, if_neg htype,
    if_neg hinternal, if_neg hindexed]

theorem visitPair_components {items items' : List Json}
    (h : Param.listOfJson items = Param.listOfJson items') (acc : ParamMembers) :
    visitPair acc ("components", .arr items) = visitPair acc ("components", .arr items') := by
  rw [visitPair, visitPair, Param.visitMember, Param.visitMember, h]
  rfl

/-- The visit of a member changes at most the part that is named after its key. -/
theorem visitPair_eq_ok {acc acc' : ParamMembers} {key : String} {j : Json}
    (h : visitPair acc (key, j) = .ok acc') :
    (key = "components" ∧ ∃ ps, acc' = { acc with components := ps } ∧
      ∀ qs, ps = some qs → ∃ items, j = .arr items ∧ Param.listOfJson items = .ok qs) ∨
    (key = "name" ∧ ∃ s, acc' = { acc with name := s }) ∨
    (key = "type" ∧ ∃ s, acc' = { acc with typeTag := s }) ∨
    (key = "internalType" ∧ ∃ s, acc' = { acc with internalType := s }) ∨
    (key = "indexed" ∧ ∃ b, acc' = { acc with indexed := b }) ∨ acc' = acc := by
  rcases eq_or_ne key "components" with rfl | hne
  · refine .inl ⟨rfl, ?_⟩
    cases j with
    | null => exact ⟨none, (Except.ok.inj h).symm, nofun⟩
    | arr items =>
      rw [visitPair, Param.visitMember] at h
      obtain ⟨ps, hps, hacc⟩ := bind_eq_ok_iff.1 h
      exact ⟨some ps, (Except.ok.inj hacc).symm, fun qs hqs =>
        ⟨items, rfl, Option.some.inj hqs ▸ hps⟩⟩
    | bool | int | real | str | obj => cases h
  · rw [visitPair_of_ne hne, ParamMembers.visit] at h
    split at h
    · obtain ⟨s, -, rfl⟩ := map_eq_ok_iff.1 h
      exact .inr (.inl ⟨‹_›, s, rfl⟩)
    split at h
    · obtain ⟨s, -, rfl⟩ := map_eq_ok_iff.1 h
      exact .inr (.inr (.inl ⟨‹_›, some s, rfl⟩))
    split at h
    · obtain ⟨s, -, rfl⟩ := map_eq_ok_iff.1 h
      exact .inr (.inr (.inr (.inl ⟨‹_›, s, rfl⟩)))
    split at h
    · obtain ⟨b, -, rfl⟩ := map_eq_ok_iff.1 h
      exact .inr (.inr (.inr (.inr (.inl ⟨‹_›, b, rfl⟩))))
    · exact .inr (.inr (.inr (.inr (.inr (Except.ok.inj h).symm))))

/-- A member that is skipped when null can be skipped after any other. -/
theorem visitPair_null_of_visitPair {key : String} (hoptional : key ∈ optionalNames)
    {m : String × Json} (hne : m.1 ≠ key) {acc acc' : ParamMembers}
    (hskip : visitPair acc (key, .null) = .ok acc) (h : visitPair acc m = .ok acc') :
    visitPair acc' (key, .null) = .ok acc' := by
  obtain ⟨k, j⟩ := m
  obtain ⟨name, typeTag, components, internalType, indexed⟩ := acc
  simp only [optionalNames, List.mem_cons, List.not_mem_nil, or_false] at hoptional
  rcases visitPair_eq_ok h with ⟨rfl, _, rfl, -⟩ | ⟨rfl, _, rfl⟩ | ⟨rfl, _, rfl⟩ |
    ⟨rfl, _, rfl⟩ | ⟨rfl, _, rfl⟩ | rfl
  all_goals
    rcases hoptional with rfl | rfl | rfl | rfl <;>
    first
    | exact absurd rfl hne
    | cases hskip
      rfl

/-- The components of a parameter can be replaced by others that are decoded alike. -/
theorem visitPair_components_replace {j j' : Json}
    (h : Param.ofJson j.sorted = Param.ofJson j'.sorted) (before after : List Json)
    (acc : ParamMembers) :
    visitPair acc ("components", (Json.arr (before ++ j :: after)).sorted) =
      visitPair acc ("components", (Json.arr (before ++ j' :: after)).sorted) := by
  rw [sorted, sorted]
  refine visitPair_components ?_ acc
  rw [listOfJson_eq_mapM, listOfJson_eq_mapM]
  exact mapM_sortedItems_replace h before after

theorem ofJson_of_change {j j' : Json} (h : Change j j') :
    Param.ofJson j.sorted = Param.ofJson j'.sorted := by
  induction h with
  | adds h =>
    have hstart : ∀ key ∈ optionalNames, visitPair {} (key, .null) = .ok {} := by
      simp [optionalNames, visitPair, Param.visitMember, ParamMembers.visit, orDefault, nullable,
        Except.map]
    have hvisits := h.foldlM_eq (fun hkey s j => visitPair_unknown hkey s j)
      (fun hkey hne hskip hvisit => visitPair_null_of_visitPair hkey hne hskip hvisit) hstart
    rw [sorted, sorted, Param.ofJson, Param.ofJson, visitMembers_eq_foldlM,
      visitMembers_eq_foldlM, hvisits]
  | @component before after items items' j j' h ih =>
    have hvisits := @foldlM_sortedMembers_replace _ _ _ _ _ before after
      (visitPair_components_replace ih items items') {}
    rw [sorted, sorted, Param.ofJson, Param.ofJson, visitMembers_eq_foldlM,
      visitMembers_eq_foldlM, hvisits]
  | @componentOfList name type items items' rest j j' h ih =>
    have hvisit := visitPair_components_replace ih items items'
    simp only [sorted, sortedItems, Param.ofJson, visitItems_eq_foldlM, Param.memberNames,
      List.zip_cons_cons, List.foldlM_cons, noMoreThan, List.length_cons] at hvisit ⊢
    simp only [hvisit]

end Param

/-! ## Members -/

namespace Entry

theorem visit_unknown {key : String} (h : key ∉ memberNames) (entry : Entry) (j : Json) :
    entry.visit (key, j) = .ok entry := by
  unfold visit
  split
  case h_9 => rfl
  all_goals
    rename_i heq
    obtain ⟨rfl, rfl⟩ := Prod.mk.inj heq
    exact absurd h (by decide)

theorem visit_null_of_visit {key : String} (hknown : key ∈ memberNames) {m : String × Json}
    (hne : m.1 ≠ key) {entry entry' : Entry} (hskip : entry.visit (key, .null) = .ok entry)
    (h : entry.visit m = .ok entry') : entry'.visit (key, .null) = .ok entry' := by
  obtain ⟨k, j⟩ := m
  obtain ⟨kind, name, inputs, outputs, mutability, payable, constant, anonymous⟩ := entry
  simp only [memberNames, List.mem_cons, List.not_mem_nil, or_false] at hknown
  unfold visit at h
  split at h
  case h_9 =>
    obtain rfl := Except.ok.inj h
    exact hskip
  all_goals
    rename_i heq
    obtain ⟨rfl, rfl⟩ := Prod.mk.inj heq
    obtain ⟨_, -, rfl⟩ := map_eq_ok_iff.1 h
    rcases hknown with rfl | rfl | rfl | rfl | rfl | rfl | rfl | rfl <;>
    first
    | exact absurd rfl hne
    | cases hskip
      rfl

/-- A parameter of an entry can be replaced by one that is decoded alike. -/
theorem visit_params_replace {key : String} (hkey : key = "inputs" ∨ key = "outputs") {p p' : Json}
    (h : Param.ofJson p.sorted = Param.ofJson p'.sorted) (before after : List Json)
    (entry : Entry) :
    entry.visit (key, (Json.arr (before ++ p :: after)).sorted) =
      entry.visit (key, (Json.arr (before ++ p' :: after)).sorted) := by
  have hlist : paramsOfJson (Json.arr (before ++ p :: after)).sorted =
      paramsOfJson (Json.arr (before ++ p' :: after)).sorted := by
    rw [sorted, sorted, paramsOfJson, paramsOfJson, Param.listOfJson_eq_mapM,
      Param.listOfJson_eq_mapM]
    exact mapM_sortedItems_replace h before after
  rcases hkey with rfl | rfl
  · exact congrArg (Except.map _) hlist
  · exact congrArg (Except.map _) hlist

end Entry

/-- A change of what the decoder takes no account of, in an element of the list or in its
parameters. -/
inductive Member.Change : Json → Json → Prop where
  | adds {members members' : List (String × Json)}
    (h : AddsMember Entry.memberNames Entry.memberNames members members') :
    Change (.obj members) (.obj members')
  | param {key : String} (hkey : key = "inputs" ∨ key = "outputs")
    {before after : List (String × Json)} {items items' : List Json} {p p' : Json}
    (h : Param.Change p p') :
    Change (.obj (before ++ (key, .arr (items ++ p :: items')) :: after))
      (.obj (before ++ (key, .arr (items ++ p' :: items')) :: after))
  /-- In the list form, the inputs are the third element. -/
  | inputOfList {kind name : Json} {items items' rest : List Json} {p p' : Json}
    (h : Param.Change p p') :
    Change (.arr (kind :: name :: .arr (items ++ p :: items') :: rest))
      (.arr (kind :: name :: .arr (items ++ p' :: items') :: rest))
  /-- In the list form, the outputs are the fourth element. -/
  | outputOfList {kind name inputs : Json} {items items' rest : List Json} {p p' : Json}
    (h : Param.Change p p') :
    Change (.arr (kind :: name :: inputs :: .arr (items ++ p :: items') :: rest))
      (.arr (kind :: name :: inputs :: .arr (items ++ p' :: items') :: rest))

/-- A change that an entry takes no account of leaves it the same. -/
theorem Entry.ofJson_of_change {j j' : Json} (h : Member.Change j j') :
    Entry.ofJson j.sorted = Entry.ofJson j'.sorted := by
  cases h with
  | adds h =>
    have hstart : ∀ key ∈ memberNames, visit {} (key, .null) = .ok {} := by
      intro key hkey
      simp only [memberNames, List.mem_cons, List.not_mem_nil, or_false] at hkey
      rcases hkey with rfl | rfl | rfl | rfl | rfl | rfl | rfl | rfl <;> rfl
    rw [sorted, sorted, Entry.ofJson, Entry.ofJson]
    exact (h.foldlM_eq (fun hkey s j => visit_unknown hkey s j)
      (fun hkey hne hskip hvisit => visit_null_of_visit hkey hne hskip hvisit) hstart).symm
  | @param key hkey before after items items' p p' h =>
    rw [sorted, sorted, Entry.ofJson, Entry.ofJson]
    exact foldlM_sortedMembers_replace
      (visit_params_replace hkey (Param.ofJson_of_change h) items items') {}
  | @inputOfList kind name items items' rest p p' h =>
    have hvisit := visit_params_replace (.inl rfl) (Param.ofJson_of_change h) items items'
    simp only [sorted, sortedItems, Entry.ofJson, memberNames, List.zip_cons_cons,
      List.foldlM_cons, noMoreThan, List.length_cons] at hvisit ⊢
    simp only [hvisit]
  | @outputOfList kind name inputs items items' rest p p' h =>
    have hvisit := visit_params_replace (.inr rfl) (Param.ofJson_of_change h) items items'
    simp only [sorted, sortedItems, Entry.ofJson, memberNames, List.zip_cons_cons,
      List.foldlM_cons, noMoreThan, List.length_cons] at hvisit ⊢
    simp only [hvisit]

theorem Member.ofElement_of_change {j j' : Json} (h : Change j j') :
    Member.ofElement j = Member.ofElement j' := by
  rw [Member.ofElement, Member.ofElement, Member.ofJson, Member.ofJson, Entry.ofJson_of_change h]

/-! ## Order -/

/-- The members of one object, anywhere in a tree, are put into another order. -/
inductive Json.Reorders : Json → Json → Prop where
  | here {members members' : List (String × Json)} (hnodup : (members.map (·.1)).Nodup)
    (h : members.Perm members') : Reorders (.obj members) (.obj members')
  | item {j j' : Json} {before after : List Json} (h : Reorders j j') :
    Reorders (.arr (before ++ j :: after)) (.arr (before ++ j' :: after))
  | value {key : String} {j j' : Json} {before after : List (String × Json)} (h : Reorders j j') :
    Reorders (.obj (before ++ (key, j) :: after)) (.obj (before ++ (key, j') :: after))

theorem Json.sorted_of_reorders {j j' : Json} (h : Reorders j j') : j.sorted = j'.sorted := by
  induction h with
  | here hnodup h => rw [sorted, sorted, sortedMembers_perm h hnodup]
  | item h ih => simp only [sorted, sortedItems_eq_map, List.map_append, List.map_cons, ih]
  | value h ih => simp only [sorted, sortedMembers_append, sortedMembers, ih]

/-! ## Documents -/

/-- A change of what the decoder takes no account of, in a document.  A change of the list in an
envelope is one of the list before it is put there. -/
inductive Document.Change : Json → Json → Prop where
  | order {j j' : Json} (h : j.Reorders j') : Change j j'
  | member {j j' : Json} {before after : List Json} (h : Member.Change j j') :
    Change (.arr (before ++ j :: after)) (.arr (before ++ j' :: after))
  | envelope {items : List Json} {before after : List (String × Json)}
    (hnew : "abi" ∉ (before ++ after).map (·.1)) :
    Change (.arr items) (.obj (before ++ ("abi", .arr items) :: after))

/-- A change that a document takes no account of leaves its members the same. -/
theorem Document.ofTree_of_change {j j' : Json} (h : Change j j') : ofTree j = ofTree j' := by
  cases h with
  | order h => rw [ofTree, ofTree, sorted_of_reorders h]
  | member h =>
    rw [ofTree_arr, ofTree_arr, List.mapM_append, List.mapM_append, List.mapM_cons, List.mapM_cons,
      Member.ofElement_of_change h]
  | @envelope items before after hnew =>
    have hsorted : (Json.obj (before ++ ("abi", .arr items) :: after)).sorted =
        .obj (insert "abi" (Json.arr items).sorted (sortedMembers [] (before ++ after))) :=
      congrArg Json.obj (sortedMembers_middle hnew)
    have hlist : memberList (Json.obj (before ++ ("abi", .arr items) :: after)).sorted =
        memberList (Json.arr items).sorted := by
      rw [hsorted, memberList, lookup_insert, if_pos rfl]
      rfl
    rw [ofTree, ofTree, hlist]

/-- **Decoding depends only on the meaningful content of a document**: a document that the reader
takes spells a tree, and after any number of changes of it, made or taken back, the result is the
same, with the same members or the same fault. -/
theorem Member.listOfText_of_changes {document : String}
    (hread : Member.listOfText document ≠ .error (.document .notJson)) :
    (∃ j, Spells document.toList j ∧ j.depth ≤ depthLimit) ∧
    ∀ {j j' : Json} {changed : String}, Spells document.toList j →
      Relation.EqvGen Document.Change j j' → Spells changed.toList j' → j'.depth ≤ depthLimit →
      Member.listOfText document = Member.listOfText changed := by
  constructor
  · by_contra hnone
    refine hread (Member.listOfText_eq_notJson_iff.2 fun j hj => Nat.lt_of_not_le fun hdepth => ?_)
    exact hnone ⟨j, hj, hdepth⟩
  · intro j j' changed hdocument h hchanged hdepth'
    have hdepth : j.depth ≤ depthLimit := by
      by_contra hdeep
      exact hread ((Member.listOfText_of_spells hdocument).trans (if_neg hdeep))
    have htree : Document.ofTree j = Document.ofTree j' := by
      clear hdocument hchanged hdepth hdepth'
      induction h with
      | rel j j' h => exact Document.ofTree_of_change h
      | refl j => rfl
      | symm j j' _ ih => exact ih.symm
      | trans j k j' _ _ ih ih' => exact ih.trans ih'
    rw [Member.listOfText_of_spells hdocument, Member.listOfText_of_spells hchanged,
      if_pos hdepth, if_pos hdepth', htree]

/-- A function with one parameter. -/
def payFunction (parameter : List (String × Json)) : List (String × Json) :=
  [("inputs", .arr [.obj parameter]), ("name", .str "pay")]

/-- The same function in an artifact, with more about it and in another order. -/
def payArtifact : Json :=
  .obj [("contractName", .str "Till"), ("abi", .arr [.obj [("name", .str "pay"),
    ("outputs", .null), ("inputs", .arr [.obj [("unit", .obj [("wei", .bool true)]),
      ("type", .str "uint256"), ("name", .null)]])]])]

theorem listOfText_of_changes_pay :
    Member.listOfText (String.ofList
        (Json.arr [.obj (payFunction [("type", .str "uint256")])]).text) =
      Member.listOfText (String.ofList payArtifact.text) := by
  let type := ("type", Json.str "uint256")
  let unit := ("unit", Json.obj [("wei", .bool true)])
  have hname : Param.Change (.obj [type]) (.obj [type, ("name", .null)]) :=
    .adds (@AddsMember.null _ _ [type] [] "name" (by decide) (by decide))
  have hunit : Param.Change (.obj [type, ("name", .null)]) (.obj [unit, type, ("name", .null)]) :=
    .adds (@AddsMember.unknown _ _ [] [type, ("name", .null)] "unit" _ (by decide) (by decide))
  have hparam {ms ms' : List (String × Json)} (h : Param.Change (.obj ms) (.obj ms')) :
      Document.Change (.arr [.obj (payFunction ms)]) (.arr [.obj (payFunction ms')]) :=
    @Document.Change.member _ _ [] [] (@Member.Change.param _ (.inl rfl) [] _ [] [] _ _ h)
  let ms := [unit, type, ("name", .null)]
  have hnodup : ((payFunction ms).map (·.1)).Nodup := by
    decide
  have horder : Document.Change (.arr [.obj (payFunction ms)])
      (.arr [.obj (payFunction ms).reverse]) :=
    .order (@Json.Reorders.item _ _ [] [] (.here hnodup (List.reverse_perm _).symm))
  have houtputs : Document.Change (.arr [.obj (payFunction ms).reverse])
      (.arr [.obj [("name", .str "pay"), ("outputs", .null), ("inputs", .arr [.obj ms])]]) :=
    @Document.Change.member _ _ [] [] (.adds (@AddsMember.null _ _ [("name", .str "pay")]
      [("inputs", .arr [.obj ms])] "outputs" (by decide) (by decide)))
  have henvelope := @Document.Change.envelope
    [.obj [("name", .str "pay"), ("outputs", .null), ("inputs", .arr [.obj ms])]]
    [("contractName", .str "Till")] [] (by decide)
  have hdocument := @spells_ofList_text (.arr [.obj (payFunction [type])]) (by decide)
  have hread : Member.listOfText (String.ofList (Json.arr [.obj (payFunction [type])]).text) ≠
      .error (.document .notJson) := fun h =>
    absurd (Member.listOfText_eq_notJson_iff.1 h _ hdocument) (by decide)
  exact (Member.listOfText_of_changes hread).2 hdocument
    (.trans _ _ _ (.rel _ _ (hparam hname)) (.trans _ _ _ (.rel _ _ (hparam hunit))
      (.trans _ _ _ (.rel _ _ horder) (.trans _ _ _ (.rel _ _ houtputs) (.rel _ _ henvelope)))))
    (spells_ofList_text (by decide)) (by decide)

/-- Not every value can be added: a number that is too large, or one half of a pair of surrogates,
is none for the reader. -/
theorem listOfText_of_unread_value :
    (∃ ms, Member.listOfText "[\x7b\"type\":\"fallback\"\x7d]" = .ok ms) ∧
    ∀ value ∈ ["1e999", "\"\\ud800\""],
      Member.listOfText ("[\x7b\"type\":\"fallback\",\"x\":" ++ value ++ "\x7d]") =
        .error (.document .notJson) := by
  refine ⟨faultOf_eq_none_iff.1 (by decide +kernel), fun value hvalue => faultOf_eq_some_iff.1 ?_⟩
  revert value
  decide +kernel

end AbiTypings
