import AbiTypings.Proofs.JsonTexts
import Mathlib.Data.List.Perm.Basic

/-!
# Members in the order of their keys

The value of an object has its members in the order of their keys, whatever their order in the text.

* **Insertion** — `lookup_insert`, `ascending_insert`, `insert_insert_of_ne`: what an insertion does
  to a list of members.
* **Sorting** — `lookup_sortedMembers`: the value has the last member of each key;
  `sortedMembers_perm`: members with different keys may stand in any order.
-/

namespace AbiTypings.Json

variable {key key' k : String} {value value' v : Json} {members members' : List (String × Json)}

/-! ## Insertion -/

theorem lt_or_gt_of_ne_string {s t : String} (h : s ≠ t) : s < t ∨ t < s := by
  by_contra hneither
  rw [not_or, String.not_lt, String.not_lt] at hneither
  exact h (String.le_antisymm hneither.2 hneither.1)

theorem insert_nil : insert key value [] = [(key, value)] := rfl

theorem insert_cons_self : insert k value ((k, v) :: members) = (k, value) :: members :=
  if_pos rfl

theorem insert_cons_of_lt (h : key < k) :
    insert key value ((k, v) :: members) = (key, value) :: (k, v) :: members := by
  have hne : key ≠ k := by
    rintro rfl
    exact String.lt_irrefl _ h
  rw [insert, if_neg hne, if_pos h]

theorem insert_cons_of_gt (h : k < key) :
    insert key value ((k, v) :: members) = (k, v) :: insert key value members := by
  have hne : key ≠ k := by
    rintro rfl
    exact String.lt_irrefl _ h
  rw [insert, if_neg hne, if_neg (String.lt_asymm h)]

/-- Insertion adds its key and no other. -/
theorem mem_keys_insert :
    k ∈ (insert key value members).map (·.1) ↔ k = key ∨ k ∈ members.map (·.1) := by
  induction members with
  | nil => simp [insert]
  | cons m members ih =>
    obtain ⟨key', value'⟩ := m
    rcases eq_or_ne key key' with rfl | hne
    · simp [insert_cons_self]
    · rcases lt_or_gt_of_ne_string hne with hlt | hlt
      · simp [insert_cons_of_lt hlt]
      · simp only [insert_cons_of_gt hlt, List.map_cons, List.mem_cons, ih]
        exact or_left_comm

theorem mem_of_mem_insert {m : String × Json} (h : m ∈ insert key value members) :
    m = (key, value) ∨ m ∈ members := by
  induction members with
  | nil => exact .inl (List.mem_singleton.1 h)
  | cons m' members ih =>
    obtain ⟨key', value'⟩ := m'
    unfold insert at h
    split at h
    · exact (List.mem_cons.1 h).imp_right (List.mem_cons_of_mem _)
    · split at h
      · exact List.mem_cons.1 h
      · rcases List.mem_cons.1 h with rfl | h
        · exact .inr List.mem_cons_self
        · exact (ih h).imp_right (List.mem_cons_of_mem _)

/-- Whether the members are in the order of their keys, each key once. -/
def Ascending (members : List (String × Json)) : Prop :=
  members.Pairwise fun m m' => m.1 < m'.1

theorem ascending_of_keys {keys : List String} (h : members.map (·.1) = keys)
    (hkeys : keys.Pairwise (· < ·)) : Ascending members := by
  subst h
  exact List.pairwise_map.1 hkeys

theorem Ascending.nodup_keys (h : Ascending members) : (members.map (·.1)).Nodup := by
  rw [List.Nodup, List.pairwise_map]
  refine h.imp fun {m m'} hlt heq => ?_
  rw [heq] at hlt
  exact String.lt_irrefl _ hlt

/-- Insertion keeps members in order. -/
theorem ascending_insert (h : Ascending members) : Ascending (insert key value members) := by
  induction members with
  | nil => exact List.pairwise_singleton _ _
  | cons m members ih =>
    obtain ⟨key', value'⟩ := m
    obtain ⟨hfirst, hrest⟩ := List.pairwise_cons.1 h
    rcases eq_or_ne key key' with rfl | hne
    · rw [insert_cons_self]
      exact List.pairwise_cons.2 ⟨hfirst, hrest⟩
    · rcases lt_or_gt_of_ne_string hne with hlt | hlt
      · rw [insert_cons_of_lt hlt]
        refine List.pairwise_cons.2 ⟨fun m hm => ?_, h⟩
        rcases List.mem_cons.1 hm with rfl | hm
        · exact hlt
        · exact String.lt_trans hlt (hfirst m hm)
      · rw [insert_cons_of_gt hlt]
        refine List.pairwise_cons.2 ⟨fun m hm => ?_, ih hrest⟩
        rcases mem_keys_insert.1 (List.mem_map_of_mem hm) with heq | hmem
        · exact heq ▸ hlt
        · obtain ⟨m', hm', hkey⟩ := List.mem_map.1 hmem
          exact hkey ▸ hfirst m' hm'

theorem lookup_cons_eq_ite :
    ((key, value) :: members).lookup k = if k = key then some value else members.lookup k := by
  rcases eq_or_ne k key with rfl | hne
  · rw [List.lookup_cons_self, if_pos rfl]
  · rw [List.lookup_cons, beq_false_of_ne hne, if_neg hne]

/-- Insertion changes what is found under its key and nothing else. -/
theorem lookup_insert :
    (insert key value members).lookup k = if k = key then some value else members.lookup k := by
  induction members with
  | nil => exact lookup_cons_eq_ite
  | cons m members ih =>
    obtain ⟨key', value'⟩ := m
    rcases eq_or_ne key key' with rfl | hne
    · rw [insert_cons_self, lookup_cons_eq_ite, lookup_cons_eq_ite]
      split <;> rfl
    · rcases lt_or_gt_of_ne_string hne with hlt | hlt
      · rw [insert_cons_of_lt hlt, lookup_cons_eq_ite]
      · rw [insert_cons_of_gt hlt, lookup_cons_eq_ite, lookup_cons_eq_ite, ih]
        rcases eq_or_ne k key' with rfl | hk
        · rw [if_pos rfl, if_pos rfl, if_neg hne.symm]
        · rw [if_neg hk, if_neg hk]

theorem insert_insert_of_lt (h : key < key') :
    insert key value (insert key' value' members) =
      insert key' value' (insert key value members) := by
  induction members with
  | nil =>
    rw [insert_nil, insert_nil, insert_cons_of_lt h, insert_cons_of_gt h, insert_nil]
  | cons m members ih =>
    obtain ⟨k, v⟩ := m
    rcases eq_or_ne key k with rfl | hne
    · rw [insert_cons_of_gt h, insert_cons_self, insert_cons_self, insert_cons_of_gt h]
    · rcases lt_or_gt_of_ne_string hne with hlt | hlt
      · rw [insert_cons_of_lt hlt, insert_cons_of_gt h]
        rcases eq_or_ne key' k with rfl | hne'
        · rw [insert_cons_self, insert_cons_of_lt h]
        · rcases lt_or_gt_of_ne_string hne' with hlt' | hlt'
          · rw [insert_cons_of_lt hlt', insert_cons_of_lt h]
          · rw [insert_cons_of_gt hlt', insert_cons_of_lt hlt]
      · have hlt' : k < key' := String.lt_trans hlt h
        rw [insert_cons_of_gt hlt', insert_cons_of_gt hlt, insert_cons_of_gt hlt,
          insert_cons_of_gt hlt', ih]

/-- Members with different keys can be inserted in any order. -/
theorem insert_insert_of_ne (h : key ≠ key') :
    insert key value (insert key' value' members) =
      insert key' value' (insert key value members) := by
  rcases lt_or_gt_of_ne_string h with hlt | hlt
  · exact insert_insert_of_lt hlt
  · exact (insert_insert_of_lt hlt).symm

/-! ## Sorting -/

theorem sortedItems_eq_map (items : List Json) : sortedItems items = items.map sorted := by
  induction items with
  | nil => rfl
  | cons j items ih => rw [sortedItems, List.map_cons, ih]

variable {before : List (String × Json)}

theorem sortedMembers_append :
    sortedMembers before (members ++ members') =
      sortedMembers (sortedMembers before members) members' := by
  induction members generalizing before with
  | nil => rfl
  | cons m members ih => exact ih

theorem ascending_sortedMembers (h : Ascending before) :
    Ascending (sortedMembers before members) := by
  induction members generalizing before with
  | nil => exact h
  | cons m members ih => exact ih (ascending_insert h)

theorem mem_keys_sortedMembers :
    k ∈ (sortedMembers before members).map (·.1) ↔
      k ∈ before.map (·.1) ∨ k ∈ members.map (·.1) := by
  induction members generalizing before with
  | nil => simp [sortedMembers]
  | cons m members ih =>
    obtain ⟨key, j⟩ := m
    rw [sortedMembers, ih, mem_keys_insert, List.map_cons, List.mem_cons]
    tauto

theorem exists_of_mem_sortedMembers (h : (k, v) ∈ sortedMembers before members) :
    (k, v) ∈ before ∨ ∃ j, (k, j) ∈ members ∧ v = j.sorted := by
  induction members generalizing before with
  | nil => exact .inl h
  | cons m members ih =>
    obtain ⟨key, j⟩ := m
    rcases ih h with hbefore | ⟨j', hmem, rfl⟩
    · rcases mem_of_mem_insert hbefore with heq | hbefore
      · obtain ⟨rfl, rfl⟩ := Prod.mk.inj heq
        exact .inr ⟨j, List.mem_cons_self, rfl⟩
      · exact .inl hbefore
    · exact .inr ⟨j', List.mem_cons_of_mem _ hmem, rfl⟩

/-- Of members with one key, the last counts. -/
theorem lookup_sortedMembers :
    (sortedMembers before members).lookup k =
      ((members.reverse.lookup k).map sorted).or (before.lookup k) := by
  induction members generalizing before with
  | nil => rfl
  | cons m members ih =>
    obtain ⟨key, j⟩ := m
    rw [sortedMembers, ih, lookup_insert, List.reverse_cons, List.lookup_append, Option.map_or,
      Option.or_assoc, lookup_cons_eq_ite]
    split <;> rfl

/-- A member is sorted in as if it were the last, if none after it has its key. -/
theorem sortedMembers_insert (h : key ∉ members.map (·.1)) :
    sortedMembers (insert key value before) members =
      insert key value (sortedMembers before members) := by
  induction members generalizing before with
  | nil => rfl
  | cons m members ih =>
    obtain ⟨key', j⟩ := m
    rw [List.map_cons, List.mem_cons, not_or] at h
    rw [sortedMembers, insert_insert_of_ne (Ne.symm h.1), ih h.2, sortedMembers]

/-- Members with different keys may stand in any order. -/
theorem sortedMembers_perm (h : members.Perm members') (hnodup : (members.map (·.1)).Nodup) :
    sortedMembers before members = sortedMembers before members' := by
  induction h generalizing before with
  | nil => rfl
  | cons m h ih => exact ih (List.nodup_cons.1 hnodup).2
  | swap m m' rest =>
    have hne : m'.1 ≠ m.1 := by
      simp only [List.map_cons, List.nodup_cons, List.mem_cons, not_or] at hnodup
      exact hnodup.1.1
    simp only [sortedMembers]
    rw [insert_insert_of_ne hne]
  | trans h h' ih ih' =>
    rw [ih hnodup, ih' ((h.map (·.1)).nodup_iff.1 hnodup)]

theorem insert_of_forall_lt (h : ∀ m ∈ members, m.1 < key) :
    insert key value members = members ++ [(key, value)] := by
  induction members with
  | nil => rfl
  | cons m members ih =>
    obtain ⟨k, v⟩ := m
    rw [List.forall_mem_cons] at h
    rw [insert_cons_of_gt h.1, ih h.2, List.cons_append]

/-- Members that are in the order of their keys stay as they are. -/
theorem sortedMembers_of_ascending (h : Ascending (before ++ members))
    (hvalues : ∀ m ∈ members, m.2.sorted = m.2) :
    sortedMembers before members = before ++ members := by
  induction members generalizing before with
  | nil => exact (List.append_nil before).symm
  | cons m members ih =>
    obtain ⟨key, j⟩ := m
    rw [List.forall_mem_cons] at hvalues
    have hlast : ∀ m ∈ before, m.1 < key := fun m hm =>
      (List.pairwise_append.1 h).2.2 m hm (key, j) List.mem_cons_self
    rw [List.append_cons] at h ⊢
    rw [sortedMembers, hvalues.1, insert_of_forall_lt hlast, ih h hvalues.2]

/-- An object whose members are in order stays as it is. -/
theorem sorted_obj_of_ascending (h : Ascending members)
    (hvalues : ∀ m ∈ members, m.2.sorted = m.2) : (Json.obj members).sorted = .obj members :=
  congrArg Json.obj (sortedMembers_of_ascending h hvalues)

end AbiTypings.Json
