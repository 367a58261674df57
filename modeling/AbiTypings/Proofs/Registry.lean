import Mathlib.Data.List.Nodup
import Mathlib.Data.List.Perm.Subperm
import Std.Data.String.ToNat
import AbiTypings.Registry

/-!
# The registry: what every state of it satisfies

A registry keeps its records three times over: as a list, as the list of their names, and as an
index of their shapes.  `Registry.WellFormed` says that the three agree, that no two records share a
name, and that no two records of requests or responses share a shape.  Registering a record keeps
all of it, whatever is asked for.

* **Names** — `unusedName_not_mem`: of one number more than there are names, one gives a new name,
  so a renumbered record never takes the name of another.
* **Sharing** — `shared?_eq_some_iff`: a record is shared exactly with one of the same shape, and
  for events also of the name asked for.
* **Registration** — `add_cases`: either nothing changes and the name of a shared record is
  returned, or one record of a new name is appended.  `wellFormed_add` says that the invariant is
  kept, and `mem_records_add` that the name returned is that of a record with exactly the role and
  fields asked for.
-/

namespace AbiTypings

/-- The shape of a record. -/
def Record.shape (record : Record) : Shape :=
  ⟨record.role, record.fields⟩

@[simp] theorem Record.shape_mk (name : String) (role : Role) (fields : List Field) :
    Record.shape ⟨name, role, fields⟩ = ⟨role, fields⟩ := rfl

namespace Registry

/-! ## Unused names -/

/-- Distinct numbers make distinct names of a candidate. -/
theorem append_toString_injective (candidate : String) :
    Function.Injective fun n : Nat => candidate ++ toString n := by
  intro m n h
  refine Nat.repr_injective (String.ext ?_)
  have h' : (candidate ++ toString m).toList = (candidate ++ toString n).toList := by
    rw [show candidate ++ toString m = candidate ++ toString n from h]
  simpa using h'

/-- Some number gives a name that is not taken: more numbers are tried than there are names, and
distinct numbers give distinct names. -/
theorem exists_number_not_mem (names : List String) (candidate : String) :
    ∃ n ∈ List.range' 2 (names.length + 1), candidate ++ toString n ∉ names := by
  by_contra! hall
  have hsub :
      (List.range' 2 (names.length + 1)).map (fun n => candidate ++ toString n) ⊆ names := by
    intro name hname
    obtain ⟨n, hn, rfl⟩ := List.mem_map.1 hname
    exact hall n hn
  have hnodup := (List.nodup_range' (s := 2) (n := names.length + 1)).map
    (append_toString_injective candidate)
  have hlen := (hnodup.subperm hsub).length_le
  rw [List.length_map, List.length_range'] at hlen
  omega

/-- The name chosen for a new record is not taken. -/
theorem unusedName_not_mem (names : List String) (candidate : String) :
    unusedName names candidate ∉ names := by
  unfold unusedName
  by_cases htaken : names.contains candidate
  · rw [if_pos htaken]
    split
    · rename_i n hn
      simpa using List.find?_some hn
    · rename_i hnone
      obtain ⟨n, hn, hfree⟩ := exists_number_not_mem names candidate
      have hmem := List.find?_eq_none.1 hnone n hn
      exact absurd (by simpa using hmem) hfree
  · rw [if_neg htaken]
    simpa using htaken

/-- The name chosen for a new record is the candidate, or the candidate and a number from two on. -/
theorem unusedName_eq (names : List String) (candidate : String) :
    unusedName names candidate = candidate ∨
      ∃ n, 2 ≤ n ∧ unusedName names candidate = candidate ++ toString n := by
  unfold unusedName
  split
  · split
    · rename_i n hn
      have hmem := List.mem_of_find?_eq_some hn
      exact Or.inr ⟨n, (List.mem_range'_1.1 hmem).1, rfl⟩
    · exact Or.inl rfl
  · exact Or.inl rfl

theorem unusedName_of_not_mem {names : List String} {candidate : String} (h : candidate ∉ names) :
    unusedName names candidate = candidate := by
  rw [unusedName, if_neg (by simpa using h)]

/-! ## The invariant -/

/-- The shapes of the records that are shared by shape, which are all but those of events. -/
def sharedShapes (records : List Record) : List Shape :=
  (records.filter (·.role ≠ .event)).map Record.shape

/-- What every registry satisfies. -/
structure WellFormed (r : Registry) : Prop where
  /-- The names are those of the records, in the same positions. -/
  names_eq : r.names = r.records.map Record.name
  names_nodup : r.names.Nodup
  /-- A shape is indexed by the position of the first record that has it. -/
  lookup_eq : ∀ shape, r.shapes.lookup shape = r.records.findIdx? (·.shape = shape)
  /-- No two records of requests, and no two of responses, have the same fields. -/
  sharedShapes_nodup : (sharedShapes r.records).Nodup

theorem wellFormed_empty : WellFormed {} where
  names_eq := rfl
  names_nodup := List.nodup_nil
  lookup_eq _ := rfl
  sharedShapes_nodup := List.nodup_nil

namespace WellFormed

variable {r : Registry}

/-- A name is taken just if a record has it. -/
theorem mem_names_iff (h : r.WellFormed) {name : String} :
    name ∈ r.names ↔ ∃ record ∈ r.records, record.name = name := by
  rw [h.names_eq, List.mem_map]

/-- A record is known by its name. -/
theorem eq_of_name_eq (h : r.WellFormed) {a b : Record} (ha : a ∈ r.records)
    (hb : b ∈ r.records) (hname : a.name = b.name) : a = b := by
  have hnodup : (r.records.map Record.name).Nodup := h.names_eq ▸ h.names_nodup
  exact List.inj_on_of_nodup_map hnodup ha hb hname

/-- Only the records of events can share a shape, so any other record is known by its shape. -/
theorem eq_of_shape_eq (h : r.WellFormed) {a b : Record} (ha : a ∈ r.records)
    (hb : b ∈ r.records) (hshape : a.shape = b.shape) (hrole : a.role ≠ .event) : a = b := by
  have hroles : a.role = b.role := congrArg Shape.role hshape
  have hrole' : b.role ≠ .event := hroles ▸ hrole
  exact List.inj_on_of_nodup_map h.sharedShapes_nodup
    (List.mem_filter.2 ⟨ha, by simpa using hrole⟩) (List.mem_filter.2 ⟨hb, by simpa using hrole'⟩)
    hshape

/-! ## Sharing -/

/-- Looking a name up finds the record of that name, if it has the given shape. -/
theorem sameName?_eq_some_iff (h : r.WellFormed) {candidate name : String} {shape : Shape} :
    r.sameName? candidate shape = some name ↔
      ∃ record ∈ r.records, record.name = name ∧ record.shape = shape ∧ name = candidate := by
  have hat : ∀ i : Nat, r.names[i]? = (r.records[i]?).map Record.name := by
    intro i
    rw [h.names_eq, List.getElem?_map]
  simp only [sameName?, Option.bind_eq_some_iff]
  constructor
  · rintro ⟨i, hi, record, hrecord, hsome⟩
    obtain ⟨hlt, hcandidate, -⟩ := List.idxOf?_eq_some_iff.1 hi
    have hname := hat i
    rw [List.getElem?_eq_getElem hlt, hcandidate, hrecord, Option.map_some] at hname
    split at hsome
    · rename_i hshape
      refine ⟨record, List.mem_of_getElem? hrecord, Option.some.inj hsome, ?_, ?_⟩
      · rw [Record.shape, hshape.1, hshape.2]
      · rw [← Option.some.inj hsome, ← Option.some.inj hname]
    · exact absurd hsome (by simp)
  · rintro ⟨record, hmem, rfl, rfl, rfl⟩
    have hcandidate : record.name ∈ r.names := h.mem_names_iff.2 ⟨record, hmem, rfl⟩
    obtain ⟨i, hi⟩ := Option.isSome_iff_exists.1 (List.isSome_idxOf?.2 hcandidate)
    obtain ⟨hlt, hname, -⟩ := List.idxOf?_eq_some_iff.1 hi
    have hfound := hat i
    rw [List.getElem?_eq_getElem hlt, hname] at hfound
    obtain ⟨other, hother, hnames⟩ := Option.map_eq_some_iff.1 hfound.symm
    have hsame : other = record := h.eq_of_name_eq (List.mem_of_getElem? hother) hmem hnames
    exact ⟨i, hi, record, hsame ▸ hother, by simp [Record.shape]⟩

/-- Looking a shape up finds the record of that shape, unless it belongs to an event. -/
theorem sameShape?_eq_some_iff (h : r.WellFormed) {name : String} {shape : Shape} :
    r.sameShape? shape = some name ↔
      ∃ record ∈ r.records, record.name = name ∧ record.shape = shape ∧ shape.role ≠ .event := by
  unfold sameShape?
  by_cases hevent : shape.role = .event
  · simp [hevent]
  · have hfind : ((r.shapes.lookup shape).bind fun i => (r.records[i]?).map (·.name)) =
        (r.records.find? (·.shape = shape)).map Record.name := by
      rw [h.lookup_eq, List.find?_eq_bind_findIdx?_getElem?, Option.map_bind]
      rfl
    rw [if_neg hevent, hfind, Option.map_eq_some_iff]
    constructor
    · rintro ⟨record, hrecord, rfl⟩
      exact ⟨record, List.mem_of_find?_eq_some hrecord, rfl,
        by simpa using List.find?_some hrecord, hevent⟩
    · rintro ⟨record, hmem, rfl, rfl, -⟩
      have hsome : (r.records.find? (·.shape = record.shape)).isSome :=
        List.find?_isSome.2 ⟨record, hmem, by simp⟩
      obtain ⟨other, hother⟩ := Option.isSome_iff_exists.1 hsome
      have hshape : other.shape = record.shape := by simpa using List.find?_some hother
      have hsame : record = other :=
        h.eq_of_shape_eq hmem (List.mem_of_find?_eq_some hother) hshape.symm hevent
      exact ⟨other, hother, by rw [hsame]⟩

/-- A record is shared with the one record of the same shape, which for events must also have the
name that is asked for. -/
theorem shared?_eq_some_iff (h : r.WellFormed) {candidate name : String} {shape : Shape} :
    r.shared? candidate shape = some name ↔
      ∃ record ∈ r.records, record.name = name ∧ record.shape = shape ∧
        (shape.role = .event → name = candidate) := by
  rw [shared?]
  constructor
  · intro hor
    cases hname : r.sameName? candidate shape with
    | some found =>
      rw [hname, Option.some_or] at hor
      obtain ⟨record, hmem, hfound, hshape, hcandidate⟩ := h.sameName?_eq_some_iff.1 hname
      have hsame : found = name := Option.some.inj hor
      exact ⟨record, hmem, hfound.trans hsame, hshape, fun _ => hsame ▸ hcandidate⟩
    | none =>
      rw [hname, Option.none_or] at hor
      obtain ⟨record, hmem, hfound, hshape, hrole⟩ := h.sameShape?_eq_some_iff.1 hor
      exact ⟨record, hmem, hfound, hshape, fun hevent => absurd hevent hrole⟩
  · rintro ⟨record, hmem, rfl, rfl, hcandidate⟩
    cases hname : r.sameName? candidate record.shape with
    | some found =>
      obtain ⟨other, hother, hfound, hshape, hfoundc⟩ := h.sameName?_eq_some_iff.1 hname
      rw [Option.some_or]
      by_cases hevent : record.shape.role = .event
      · rw [hcandidate hevent, hfoundc]
      · rw [h.eq_of_shape_eq hmem hother hshape.symm hevent, hfound]
    | none =>
      rw [Option.none_or, h.sameShape?_eq_some_iff]
      refine ⟨record, hmem, rfl, rfl, fun hevent => ?_⟩
      have hfound : r.sameName? candidate record.shape = some record.name :=
        h.sameName?_eq_some_iff.2 ⟨record, hmem, rfl, rfl, hcandidate hevent⟩
      exact absurd (hname.symm.trans hfound) (by simp)

/-! ## Registration -/

/-- Appending a record of a new name keeps the invariant, unless the record should have been
shared. -/
theorem push (h : r.WellFormed) {name : String} {shape : Shape} (hname : name ∉ r.names)
    (hshape : shape.role ≠ .event → ∀ record ∈ r.records, record.shape ≠ shape) :
    (r.push name shape).WellFormed where
  names_eq := by simp [Registry.push, h.names_eq]
  names_nodup := by
    simp only [Registry.push, List.nodup_append, h.names_nodup, List.nodup_singleton, true_and,
      List.mem_singleton]
    rintro other hother _ rfl rfl
    exact hname hother
  lookup_eq := by
    intro asked
    simp only [Registry.push, List.findIdx?_append, ← h.lookup_eq asked]
    cases hindex : r.shapes.lookup shape with
    | some i =>
      -- the shape is indexed already, so the new record is not the first that has it
      rw [Option.isSome_some, if_pos rfl]
      by_cases hasked : asked = shape
      · rw [hasked, hindex, Option.some_or]
      · simp [Ne.symm hasked]
    | none =>
      rw [Option.isSome_none, if_neg Bool.false_ne_true, List.lookup_append]
      by_cases hasked : asked = shape
      · simp [hasked, hindex]
      · have hbeq : (asked == shape) = false := by simpa using hasked
        simp [List.lookup_cons, hbeq, Ne.symm hasked]
  sharedShapes_nodup := by
    by_cases hevent : shape.role = .event
    · simpa [Registry.push, sharedShapes, List.filter_append, hevent] using h.sharedShapes_nodup
    · simp only [Registry.push, sharedShapes, List.filter_append, List.map_append]
      refine List.Nodup.append h.sharedShapes_nodup (by simp [hevent]) ?_
      intro other hother hnew
      obtain ⟨record, hrecord, rfl⟩ := List.mem_map.1 hother
      refine hshape hevent record (List.mem_of_mem_filter hrecord) ?_
      simpa [hevent] using hnew

end WellFormed

section Add

variable {r : Registry} {candidate : String} {role : Role} {fields : List Field}

/-- What is asked for is there already: its name is returned and nothing changes. -/
theorem add_of_mem (h : r.WellFormed) {record : Record} (hmem : record ∈ r.records)
    (hshape : record.shape = ⟨role, fields⟩) (hname : role = .event → record.name = candidate) :
    r.add candidate role fields = (record.name, r) := by
  have hshared := h.shared?_eq_some_iff.2 ⟨record, hmem, rfl, hshape, hname⟩
  simp only [add, hshared]

/-- What is asked for is not there yet: a record of a new name is appended. -/
theorem add_of_forall_ne (h : r.WellFormed)
    (hnew : ∀ record ∈ r.records, record.shape = ⟨role, fields⟩ →
      role = .event ∧ record.name ≠ candidate) :
    r.add candidate role fields =
      (unusedName r.names candidate, r.push (unusedName r.names candidate) ⟨role, fields⟩) := by
  have hshared : r.shared? candidate ⟨role, fields⟩ = none := by
    refine Option.eq_none_iff_forall_ne_some.2 fun name hname => ?_
    obtain ⟨record, hmem, rfl, hshape, hcandidate⟩ := h.shared?_eq_some_iff.1 hname
    obtain ⟨hevent, hne⟩ := hnew record hmem hshape
    exact hne (hcandidate hevent)
  simp only [add, hshared]

/-- Everything that registering a record can do. -/
theorem add_cases (h : r.WellFormed) (candidate : String) (role : Role) (fields : List Field) :
    (∃ record ∈ r.records, record.shape = ⟨role, fields⟩ ∧
        (role = .event → record.name = candidate) ∧
        r.add candidate role fields = (record.name, r)) ∨
      ((∀ record ∈ r.records, record.shape = ⟨role, fields⟩ →
          role = .event ∧ record.name ≠ candidate) ∧
        r.add candidate role fields =
          (unusedName r.names candidate,
            r.push (unusedName r.names candidate) ⟨role, fields⟩)) := by
  by_cases hshared : ∃ record ∈ r.records, record.shape = ⟨role, fields⟩ ∧
      (role = .event → record.name = candidate)
  · obtain ⟨record, hmem, hshape, hname⟩ := hshared
    exact Or.inl ⟨record, hmem, hshape, hname, add_of_mem h hmem hshape hname⟩
  · have hnew : ∀ record ∈ r.records, record.shape = ⟨role, fields⟩ →
        role = .event ∧ record.name ≠ candidate := by
      intro record hmem hshape
      by_contra hcan
      refine hshared ⟨record, hmem, hshape, fun hevent => ?_⟩
      by_contra hne
      exact hcan ⟨hevent, hne⟩
    exact Or.inr ⟨hnew, add_of_forall_ne h hnew⟩

theorem wellFormed_add (h : r.WellFormed) (candidate : String) (role : Role)
    (fields : List Field) : (r.add candidate role fields).2.WellFormed := by
  obtain ⟨record, -, -, -, hadd⟩ | ⟨hnew, hadd⟩ := add_cases h candidate role fields
  · rw [hadd]
    exact h
  · rw [hadd]
    exact h.push (unusedName_not_mem _ _) fun hrole record hmem hshape =>
      hrole (hnew record hmem hshape).1

/-- Registering a record leaves the records before it as they are. -/
theorem records_grow_add (h : r.WellFormed) (candidate : String) (role : Role)
    (fields : List Field) : r.records <+: (r.add candidate role fields).2.records := by
  obtain ⟨record, -, -, -, hadd⟩ | ⟨-, hadd⟩ := add_cases h candidate role fields
  · exact ⟨[], by rw [hadd, List.append_nil]⟩
  · rw [hadd]
    exact List.prefix_append _ _

/-- The name that is returned is that of a record with the role and fields asked for. -/
theorem mem_records_add (h : r.WellFormed) (candidate : String) (role : Role)
    (fields : List Field) :
    ⟨(r.add candidate role fields).1, role, fields⟩ ∈ (r.add candidate role fields).2.records := by
  obtain ⟨record, hmem, hshape, -, hadd⟩ | ⟨-, hadd⟩ := add_cases h candidate role fields
  · rw [hadd]
    obtain ⟨rfl, rfl⟩ : record.role = role ∧ record.fields = fields := by
      simpa [Record.shape] using hshape
    exact hmem
  · rw [hadd]
    simp [push]

end Add

end Registry
end AbiTypings
