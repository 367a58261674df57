import AbiTypings.Proofs.Imports

/-!
# The names that a module exports are distinct

The registry keeps the names of records apart from each other, and knows nothing of the six fixed
types of a module.  That these never meet a record is a matter of how names end: the name of a
record ends as its role says, possibly with a number behind it, and none of the six does, whatever
they begin with.

* **Fixed types** — `ModuleNames.nodup_toList_startingWith`: names that begin alike and end
  differently are distinct.
* **Both** — `Role.Names.ne_fixedName`: the name of a record is no name of a fixed type.
-/

namespace AbiTypings

/-! ## Fixed types -/

/-- The fixed types of a module have distinct names, whatever these begin with. -/
theorem ModuleNames.nodup_toList_startingWith (start : String) :
    (ModuleNames.startingWith start).toList.Nodup := by
  rw [toList_startingWith]
  have hendings : fixedNames.Nodup := by decide
  exact hendings.map fun _ _ h => (String.append_right_inj start).1 h

/-! ## Both -/

/-- No ending of a fixed type is a part of the ending of a record, or the other way round. -/
theorem not_suffix_of_mem_fixedNames {ending : String} (h : ending ∈ fixedNames) (role : Role) :
    ¬ ending.toList <:+ role.ending.toList ∧ ¬ role.ending.toList <:+ ending.toList := by
  have hall : ∀ ending ∈ fixedNames, ∀ role ∈ Role.all,
      ¬ ending.toList <:+ role.ending.toList ∧ ¬ role.ending.toList <:+ ending.toList := by
    decide
  exact hall ending h role role.mem_all

/-- A fixed type has no number behind its name. -/
theorem rdropWhile_isDigit_fixedName {ending : String} (h : ending ∈ fixedNames) (start : String) :
    (start ++ ending).toList.rdropWhile Char.isDigit = (start ++ ending).toList := by
  have hall : ∀ ending ∈ fixedNames, ending.toList.getLast?.map Char.isDigit = some false := by
    decide
  obtain ⟨c, hlast, hdigit⟩ := Option.map_eq_some_iff.1 (hall ending h)
  rw [List.rdropWhile_eq_self_iff]
  intro hne
  have hc : (start ++ ending).toList.getLast? = some c := by
    rw [String.toList_append, List.getLast?_append, hlast]
    rfl
  rw [List.getLast?_eq_some_getLast hne, Option.some.injEq] at hc
  rw [hc, hdigit]
  exact Bool.false_ne_true

/-- The name of a record is not that of a fixed type. -/
theorem Role.Names.ne_fixedName {role : Role} {name start ending : String} (h : role.Names name)
    (hending : ending ∈ fixedNames) : name ≠ start ++ ending := by
  rintro rfl
  have hrecord := h.ending_suffix
  rw [rdropWhile_isDigit_fixedName hending] at hrecord
  have hfixed : ending.toList <:+ (start ++ ending).toList := by
    rw [String.toList_append]
    exact List.suffix_append _ _
  -- of two ends of one text, one is an end of the other
  obtain ⟨hnot, hnot'⟩ := not_suffix_of_mem_fixedNames hending role
  obtain hshort | hshort := List.suffix_or_suffix_of_suffix hfixed hrecord
  · exact hnot hshort
  · exact hnot' hshort

/-- **Exported names are distinct.**  The fixed types and the records of finished bindings have
distinct names, for any members, dialect and beginning; and they would for any other text that the
names of the fixed types began with, whatever becomes of it in camel case. -/
theorem Bindings.nodup_exportedNames {options : Options} {ms : List Member} {b : Bindings}
    (h : Bindings.ofMembers options ms = .ok b) :
    b.exportedNames.Nodup ∧
      ∀ start, ((ModuleNames.startingWith start).toList ++ b.records.map Record.name).Nodup := by
  have hall : ∀ start,
      ((ModuleNames.startingWith start).toList ++ b.records.map Record.name).Nodup := by
    intro start
    refine List.Nodup.append (ModuleNames.nodup_toList_startingWith start) (nodup_recordNames h) ?_
    intro name hfixed hrecord
    obtain ⟨ending, hending, rfl⟩ := ModuleNames.mem_toList_startingWith.1 hfixed
    obtain ⟨record, hmem, hname⟩ := List.mem_map.1 hrecord
    exact (names_of_mem_records h hmem).ne_fixedName hending hname
  refine ⟨?_, hall⟩
  obtain ⟨c, -, rfl⟩ := ofMembers_eq_ok.1 h
  exact hall _

/-- A contract called `Request` with a method `contract`, both of whose outputs are unnamed, and a
struct `Contract`. -/
def contractMembers : List Member :=
  [.function "contract" [] [⟨"", "bool", none, none, false⟩, ⟨"", "uint8", none, none, false⟩]
      (.ofMutability .view),
    .event "Contract"
      [⟨"", "tuple", some [⟨"", "bool", none, none, false⟩], some "struct Contract", true⟩] false]

theorem Bindings.nodup_exportedNames_contractMembers :
    ∃ b, Bindings.ofMembers ⟨.ethersV6, some "request", none⟩ contractMembers = .ok b ∧
      b.exportedNames.Nodup := by
  have hgood : ∀ visit ∈ contractMembers.flatMap Member.visits, ¬ visit.param.isBad := by
    decide
  obtain ⟨b, hb⟩ := exists_ofMembers ⟨.ethersV6, some "request", none⟩ hgood
  exact ⟨b, hb, (nodup_exportedNames hb).1⟩

end AbiTypings
