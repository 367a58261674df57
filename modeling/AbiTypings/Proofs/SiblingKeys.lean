import Mathlib.Data.List.Nodup
import AbiTypings.TypeToken
import AbiTypings.Proofs.Registry

/-!
# What siblings are called

Sibling parameters are called by their names, and by a placeholder and their position where they
have none.  Nothing compares the two: a parameter may well be declared with the name that another
one is given.  This module says that this is all that can go wrong.

* **Names** — `declaredNames` and `placeholders` are the names that siblings are declared with and
  those that are made up for the others; together they are what the siblings are called
  (`siblingKeys_perm`).  Names that are made up never meet each other (`nodup_placeholders`).
* **Fields** — `keys_siblingFields` and `keys_siblingFields_perm`: the keys of the siblings' fields
  are what the siblings are called, and their positions where fields can be reached by position.
* **Distinctness** — `nodup_siblingKeys_append_iff`: siblings, and whatever else stands beside them
  under a name of its own, are called differently exactly when the declared names are distinct and
  none of them is one of the names that are made up.
-/

namespace AbiTypings

/-! ## Declared names and placeholders -/

/-- The names that siblings are declared with. -/
def declaredNames (ps : List Param) : List String :=
  (ps.map Param.name).filter (· ≠ "")

/-- What those siblings are called that are declared without a name. -/
def placeholders (placeholder : String) (index : Nat) : List Param → List String
  | [] => []
  | p :: ps =>
    if p.name = "" then (placeholder ++ toString index) :: placeholders placeholder (index + 1) ps
    else placeholders placeholder (index + 1) ps

/-- What siblings are called, the first of which has position `index`. -/
def siblingKeys (placeholder : String) (index : Nat) : List Param → List String
  | [] => []
  | p :: ps => p.nameOr placeholder index :: siblingKeys placeholder (index + 1) ps

section Siblings

variable {placeholder : String} {index : Nat} {ps : List Param}

/-- What siblings are called is what they declare and what is made up for the others. -/
theorem siblingKeys_perm :
    (siblingKeys placeholder index ps).Perm
      (declaredNames ps ++ placeholders placeholder index ps) := by
  induction ps generalizing index with
  | nil => exact .nil
  | cons p ps ih =>
    by_cases hname : p.name = ""
    · have hdeclared : declaredNames (p :: ps) = declaredNames ps := by
        simp [declaredNames, hname]
      rw [siblingKeys, placeholders, if_pos hname, hdeclared, Param.nameOr, if_pos hname]
      -- the placeholder stands behind the declared names of the others
      exact (ih.cons _).trans List.perm_middle.symm
    · have hdeclared : declaredNames (p :: ps) = p.name :: declaredNames ps := by
        simp [declaredNames, hname]
      rw [siblingKeys, placeholders, if_neg hname, hdeclared, Param.nameOr, if_neg hname]
      exact ih.cons _

theorem exists_of_mem_placeholders {name : String}
    (hmem : name ∈ placeholders placeholder index ps) :
    ∃ n, index ≤ n ∧ name = placeholder ++ toString n := by
  induction ps generalizing index with
  | nil => exact absurd hmem List.not_mem_nil
  | cons p ps ih =>
    have hrest : name ∈ placeholders placeholder (index + 1) ps →
        ∃ n, index ≤ n ∧ name = placeholder ++ toString n := by
      intro hmem
      obtain ⟨n, hn, hname⟩ := ih hmem
      exact ⟨n, by omega, hname⟩
    rw [placeholders] at hmem
    split at hmem
    · obtain rfl | hmem := List.mem_cons.1 hmem
      · exact ⟨index, Nat.le_refl _, rfl⟩
      · exact hrest hmem
    · exact hrest hmem

/-- Names that are made up are distinct, as their positions are. -/
theorem nodup_placeholders : (placeholders placeholder index ps).Nodup := by
  induction ps generalizing index with
  | nil => exact List.nodup_nil
  | cons p ps ih =>
    rw [placeholders]
    split
    · refine List.nodup_cons.2 ⟨fun hmem => ?_, ih⟩
      obtain ⟨n, hn, hname⟩ := exists_of_mem_placeholders hmem
      have hsame : index = n := Registry.append_toString_injective placeholder hname
      omega
    · exact ih

end Siblings

/-! ## Fields -/

/-- The keys of fields that are reached by position, the first of which is `index`. -/
def positionKeys (index count : Nat) : List String :=
  (List.range' index count).map toString

section Fields

variable {ps : List Param} {types : List String}

/-- Where fields cannot be reached by position, their keys are what the siblings are called. -/
theorem keys_siblingFields (role : Role) (index : Nat) (h : types.length = ps.length) :
    (siblingFields false role index ps types).map Field.key =
      siblingKeys role.placeholder index ps := by
  induction ps generalizing index types with
  | nil =>
    rw [siblingFields, siblingKeys, List.map_nil]
    rintro _ _ _ _ ⟨⟩
  | cons p ps ih =>
    cases types with
    | nil => simp at h
    | cons type types =>
      rw [siblingFields, List.map_append, ih (index + 1) (by simpa using h)]
      rfl

/-- Where fields can be reached by position, the positions are keys as well. -/
theorem keys_siblingFields_aliased_perm (role : Role) (index : Nat)
    (h : types.length = ps.length) :
    ((siblingFields true role index ps types).map Field.key).Perm
      (siblingKeys role.placeholder index ps ++ positionKeys index ps.length) := by
  induction ps generalizing index types with
  | nil =>
    rw [siblingFields]
    · exact .nil
    · rintro _ _ _ _ ⟨⟩
  | cons p ps ih =>
    cases types with
    | nil => simp at h
    | cons type types =>
      have hrest := ih (index + 1) (by simpa using h)
      rw [siblingFields, List.map_append, siblingKeys, List.length_cons, positionKeys,
        List.range'_succ, List.map_cons]
      -- each position follows its sibling, and is moved behind the siblings that are left
      exact ((hrest.cons (toString index)).trans List.perm_middle.symm).cons _

/-- The keys of fields are what siblings are called, and their positions if there are aliases. -/
theorem keys_siblingFields_perm (aliases : Bool) (role : Role) (h : types.length = ps.length) :
    ((siblingFields aliases role 0 ps types).map Field.key).Perm
      (siblingKeys role.placeholder 0 ps ++ if aliases then positionKeys 0 ps.length else []) := by
  cases aliases with
  | false =>
    rw [keys_siblingFields role 0 h, if_neg Bool.false_ne_true, List.append_nil]
  | true => exact keys_siblingFields_aliased_perm role 0 h

end Fields

/-! ## Distinctness -/

section Distinct

variable {placeholder : String} {index : Nat} {ps : List Param}

/-- Siblings, and whatever stands beside them, are called differently exactly when they are declared
with distinct names, none of which is made up for another. -/
theorem nodup_siblingKeys_append_iff {others : List String} (hothers : others.Nodup)
    (hfree : ∀ name ∈ others, ∀ n : Nat, name ≠ placeholder ++ toString n) :
    (siblingKeys placeholder index ps ++ others).Nodup ↔
      (declaredNames ps).Nodup ∧
        (declaredNames ps).Disjoint (placeholders placeholder index ps ++ others) := by
  have hmadeUp : (placeholders placeholder index ps ++ others).Nodup := by
    refine List.Nodup.append nodup_placeholders hothers ?_
    intro name hmem hother
    obtain ⟨n, -, hname⟩ := exists_of_mem_placeholders hmem
    exact hfree name hother n hname
  rw [(siblingKeys_perm.append_right others).nodup_iff, List.append_assoc, List.nodup_append']
  exact ⟨fun h => ⟨h.1, h.2.2⟩, fun h => ⟨h.1, hmadeUp, h.2⟩⟩

end Distinct
end AbiTypings
