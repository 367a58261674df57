import AbiTypings.Proofs.Registering

/-!
# Registering the same record twice

Asking a second time for what was registered a moment ago should find it again.  For requests and
responses it does, because their records are found by shape.  A record of an event is found by its
name only, and the name that is looked up is the one asked for, not the one that was given: if the
record had to be renumbered, the second look-up meets whatever took the name, and another record of
the same shape is appended.

* **Found again** — `Registry.add_again`: whoever got the name asked for, or is not an event, gets
  the same answer from an unchanged registry.
* **Not found again** — `Registry.add_again_of_ne` and `Registry.add_again_fst_ne`: an event whose
  record was renumbered gets another record, with another name.
* **Which of the two** — `Registry.add_event_fst_eq_iff` reads it off the registry before, and
  `Registry.add_twice_iff` puts the three together.
-/

namespace AbiTypings
namespace Registry

variable {r : Registry} {candidate : String} {role : Role} {fields : List Field}

/-- What was registered under the name asked for, or is shared by shape, is found again. -/
theorem add_again (h : r.WellFormed)
    (hname : role = .event → (r.add candidate role fields).1 = candidate) :
    (r.add candidate role fields).2.add candidate role fields = r.add candidate role fields := by
  have hadded := wellFormed_add h candidate role fields
  have hmem := mem_records_add h candidate role fields
  exact add_of_mem hadded hmem rfl hname

/-- The record of an event that was renumbered is not found again: another one is appended. -/
theorem add_again_of_ne (h : r.WellFormed)
    (hname : (r.add candidate .event fields).1 ≠ candidate) :
    (r.add candidate .event fields).2.add candidate .event fields =
      (unusedName (r.add candidate .event fields).2.names candidate,
        (r.add candidate .event fields).2.push
          (unusedName (r.add candidate .event fields).2.names candidate) ⟨.event, fields⟩) := by
  refine add_of_forall_ne (wellFormed_add h candidate .event fields) ?_
  intro record hmem hshape
  refine ⟨rfl, fun hcandidate => ?_⟩
  obtain ⟨found, -, -, hfound, hadd⟩ | ⟨hnew, hadd⟩ := add_cases h candidate .event fields
  · -- a record that was shared had the name already
    rw [hadd] at hname
    exact hname (hfound rfl)
  · rw [hadd] at hmem hname
    obtain hold | hown := List.mem_append.1 hmem
    · exact (hnew record hold hshape).2 hcandidate
    · rw [List.mem_singleton.1 hown] at hcandidate
      exact hname hcandidate

/-- Its second name is not the first, which is taken by then. -/
theorem add_again_fst_ne (h : r.WellFormed)
    (hname : (r.add candidate .event fields).1 ≠ candidate) :
    ((r.add candidate .event fields).2.add candidate .event fields).1 ≠
      (r.add candidate .event fields).1 := by
  have htaken : (r.add candidate .event fields).1 ∈ (r.add candidate .event fields).2.names :=
    (wellFormed_add h candidate .event fields).mem_names_iff.2
      ⟨_, mem_records_add h candidate .event fields, rfl⟩
  intro hsame
  rw [add_again_of_ne h hname] at hsame
  exact unusedName_not_mem _ _ (hsame ▸ htaken)

/-- The record of an event gets the name it asks for exactly when no record of another shape has
that name. -/
theorem add_event_fst_eq_iff (h : r.WellFormed) :
    (r.add candidate .event fields).1 = candidate ↔
      ∀ record ∈ r.records, record.name = candidate → record.shape = ⟨.event, fields⟩ := by
  obtain ⟨found, hmem, hshape, hfound, hadd⟩ | ⟨hnew, hadd⟩ := add_cases h candidate .event fields
  · rw [hadd]
    refine ⟨fun _ record hrecord hname => ?_, fun _ => hfound rfl⟩
    rw [h.eq_of_name_eq hrecord hmem (hname.trans (hfound rfl).symm)]
    exact hshape
  · rw [hadd]
    constructor
    · intro hunused record hrecord hname
      have htaken : candidate ∈ r.names := h.mem_names_iff.2 ⟨record, hrecord, hname⟩
      have hfree : unusedName r.names candidate ∉ r.names := unusedName_not_mem _ _
      rw [show unusedName r.names candidate = candidate from hunused] at hfree
      exact absurd htaken hfree
    · intro hown
      refine unusedName_of_not_mem fun htaken => ?_
      obtain ⟨record, hrecord, hname⟩ := h.mem_names_iff.1 htaken
      exact (hnew record hrecord (hown record hrecord hname)).2 hname

/-- **Registering twice.**  In every registry that registrations lead to, let the same record be
asked for twice in a row.  The two answers are the same and the second leaves the records as they
are exactly when the record is not that of an event or got the name it asked for, and then the
second changes nothing at all.  An event's record gets that name exactly when no record of another
shape has it; otherwise the second answer is another name, of another record of the same shape. -/
theorem add_twice_iff (hreach : Registry.Reaches (fun _ _ => True) {} r) (candidate : String)
    (role : Role) (fields : List Field) :
    let first := r.add candidate role fields
    let second := first.2.add candidate role fields
    ((second.1 = first.1 ∧ second.2.records = first.2.records) ↔
        (role = .event → first.1 = candidate)) ∧
      ((role = .event → first.1 = candidate) → second = first) ∧
      (role = .event → (first.1 = candidate ↔
        ∀ record ∈ r.records, record.name = candidate → record.shape = ⟨role, fields⟩)) ∧
      (role = .event → first.1 ≠ candidate → second.1 ≠ first.1 ∧
        second.2.records = first.2.records ++ [⟨second.1, role, fields⟩]) := by
  intro first second
  have hwf : r.WellFormed := hreach.wellFormed wellFormed_empty
  have hagain : (role = .event → first.1 = candidate) → second = first := add_again hwf
  have hother : role = .event → first.1 ≠ candidate → second.1 ≠ first.1 ∧
      second.2.records = first.2.records ++ [⟨second.1, role, fields⟩] := by
    rintro rfl hname
    have hsecond : second = _ := add_again_of_ne hwf hname
    refine ⟨add_again_fst_ne hwf hname, ?_⟩
    rw [hsecond]
    rfl
  refine ⟨⟨?_, fun hname => ?_⟩, hagain, ?_, hother⟩
  · rintro ⟨hsame, -⟩ hevent
    by_contra hname
    exact (hother hevent hname).1 hsame
  · rw [hagain hname]
    exact ⟨rfl, rfl⟩
  · rintro rfl
    exact add_event_fst_eq_iff hwf

/-- A registry in which a struct has taken the name of the event it belongs to. -/
def structRegistry : Registry :=
  (Registry.add {} "DepositEventEmittedResponse" .event [⟨"amount", "string"⟩]).2

theorem reaches_structRegistry : Registry.Reaches (fun _ _ => True) {} structRegistry :=
  .single (.add trivial _)

theorem add_twice_iff_structRegistry :
    Registry.Reaches (fun _ _ => True) {} structRegistry ∧
      let first := structRegistry.add "DepositEventEmittedResponse" .event
        [⟨"deposit", "DepositEventEmittedResponse"⟩]
      let second := first.2.add "DepositEventEmittedResponse" .event
        [⟨"deposit", "DepositEventEmittedResponse"⟩]
      ((second.1 = first.1 ∧ second.2.records = first.2.records) ↔
        first.1 = "DepositEventEmittedResponse") := by
  have h := (add_twice_iff reaches_structRegistry "DepositEventEmittedResponse" .event
    [⟨"deposit", "DepositEventEmittedResponse"⟩]).1
  exact ⟨reaches_structRegistry, h.trans ⟨fun hname => hname rfl, fun hname _ => hname⟩⟩

/-- The struct has the name of the event, so the event's record is renumbered, and a second time
it is renumbered again. -/
theorem add_twice_grows :
    ∃ r first second, Registry.Reaches (fun _ _ => True) {} r ∧
      r.add "DepositEventEmittedResponse" .event
        [⟨"deposit", "DepositEventEmittedResponse"⟩] = first ∧
      first.2.add "DepositEventEmittedResponse" .event
        [⟨"deposit", "DepositEventEmittedResponse"⟩] = second ∧
      first.1 = "DepositEventEmittedResponse2" ∧ second.1 = "DepositEventEmittedResponse3" ∧
      second.2.records.length = first.2.records.length + 1 := by
  exact ⟨structRegistry, _, _, reaches_structRegistry, rfl, rfl, by decide, by decide, by decide⟩

end Registry
end AbiTypings
