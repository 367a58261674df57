import AbiTypings.Param.Json
import AbiTypings.Proofs.JsonWriting
import AbiTypings.Proofs.SortedMembers

/-!
# Parameters written and read back

The JSON form of a parameter has its members in the order of their keys, so it is its own value, and
decoding it gives the parameter back, however deep its components are nested.  There are no numbers
in it, so that it has a text.
-/

namespace AbiTypings

open Json

namespace Param

mutual

/-- The members of a written parameter are in the order of their keys. -/
theorem sorted_toJson : ∀ p : Param, p.toJson.sorted = p.toJson
  | ⟨name, typeTag, none, internalType, indexed⟩ => by
    refine sorted_obj_of_ascending ?_ ?_
    · cases internalType with
      | none => exact @ascending_of_keys _ ["indexed", "name", "type"] rfl (by decide)
      | some s =>
        exact @ascending_of_keys _ ["indexed", "internalType", "name", "type"] rfl (by decide)
    · cases internalType <;> simp [Param.componentsToJson, sorted]
  | ⟨name, typeTag, some ps, internalType, indexed⟩ => by
    have hps := sortedItems_listToJson ps
    refine sorted_obj_of_ascending ?_ ?_
    · cases internalType with
      | none =>
        exact @ascending_of_keys _ ["components", "indexed", "name", "type"] rfl (by decide)
      | some s =>
        exact @ascending_of_keys _ ["components", "indexed", "internalType", "name", "type"] rfl
          (by decide)
    · cases internalType <;> simp [Param.componentsToJson, sorted, hps]

theorem sortedItems_listToJson : ∀ ps : List Param,
    sortedItems (Param.listToJson ps) = Param.listToJson ps
  | [] => rfl
  | p :: ps => by
    rw [Param.listToJson, sortedItems, sorted_toJson p, sortedItems_listToJson ps]

end

mutual

/-- A parameter is read back from its plain form. -/
theorem ofJson_toJson : ∀ p : Param, Param.ofJson p.toJson = .ok p
  | ⟨name, typeTag, none, internalType, indexed⟩ => by
    cases internalType <;> rfl
  | ⟨name, typeTag, some ps, internalType, indexed⟩ => by
    have hps := listOfJson_listToJson ps
    have hcomponents (acc : ParamMembers) :
        Param.visitMember acc "components" (.arr (Param.listToJson ps)) =
          .ok { acc with components := some ps } := by
      rw [Param.visitMember, hps]
      rfl
    cases internalType <;>
      simp only [Param.toJson, Param.componentsToJson, Param.ofJson, List.cons_append,
        List.nil_append, Param.visitMembers, hcomponents] <;>
      rfl

theorem listOfJson_listToJson : ∀ ps : List Param,
    Param.listOfJson (Param.listToJson ps) = .ok ps
  | [] => rfl
  | p :: ps => by
    rw [Param.listToJson, Param.listOfJson, ofJson_toJson p, listOfJson_listToJson ps]
    rfl

end

mutual

theorem numberless_toJson : ∀ p : Param, p.toJson.numberless
  | ⟨name, typeTag, none, internalType, indexed⟩ => by
    cases internalType <;> rfl
  | ⟨name, typeTag, some ps, internalType, indexed⟩ => by
    have hps := itemsNumberless_listToJson ps
    cases internalType <;>
      simp [Param.toJson, Param.componentsToJson, numberless, membersNumberless, hps]

theorem itemsNumberless_listToJson : ∀ ps : List Param, itemsNumberless (Param.listToJson ps)
  | [] => rfl
  | p :: ps => by
    simp [Param.listToJson, itemsNumberless, numberless_toJson p, itemsNumberless_listToJson ps]

end

end Param

end AbiTypings
