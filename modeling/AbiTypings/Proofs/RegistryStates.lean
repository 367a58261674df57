import AbiTypings.Proofs.Registering

/-!
# The states of a registry

A registry looks records up by name and by shape, and both look-ups go through positions: the place
of a name in the list of names, and the place that the index of shapes holds for a shape.  This
module says what these positions are worth in every state that registrations and notes can lead to,
whatever is registered: they are in range, they lead to the record that is meant, and no later
step moves it.

* **Look-up** — `WellFormed.lookup_eq_some_iff`: a shape is indexed by the place of the first record
  that has it.  `WellFormed.exists_getElem?_of_idxOf?`: the place of a name is that of the record it
  belongs to.
* **Growth** — `Registry.Extends`: all that is there stays where it is.  `Step.extends` for one
  step, `Reaches.extends` for any number of them.
* **Names that were returned** — `Registry.Denotes`: looking a name up leads to a record of a given
  role and given fields.  `denotes_add` says this of a name that was just returned, and
  `Denotes.of_extends` keeps it.
* **All states** — `coherent_of_reaches` puts these together.
-/

namespace AbiTypings
namespace Registry

/-! ## Look-up -/

/-- A shape has its first record at a position. -/
def IsFirst (r : Registry) (shape : Shape) (i : Nat) : Prop :=
  (∃ record, r.records[i]? = some record ∧ record.shape = shape) ∧
    ∀ j < i, ∀ record, r.records[j]? = some record → record.shape ≠ shape

namespace WellFormed

variable {r : Registry}

/-- A shape is indexed by the position of the first record that has it. -/
theorem lookup_eq_some_iff (h : r.WellFormed) {shape : Shape} {i : Nat} :
    r.shapes.lookup shape = some i ↔ r.IsFirst shape i := by
  rw [h.lookup_eq, List.findIdx?_eq_some_iff_getElem]
  constructor
  · rintro ⟨hi, hshape, hbefore⟩
    refine ⟨⟨r.records[i], List.getElem?_eq_getElem hi, by simpa using hshape⟩, ?_⟩
    intro j hj record hrecord
    obtain ⟨hlt, rfl⟩ := List.getElem?_eq_some_iff.1 hrecord
    simpa using hbefore j hj
  · rintro ⟨⟨record, hrecord, hshape⟩, hbefore⟩
    obtain ⟨hi, rfl⟩ := List.getElem?_eq_some_iff.1 hrecord
    refine ⟨hi, by simpa using hshape, fun j hj => ?_⟩
    have hj' : j < r.records.length := Nat.lt_trans hj hi
    simpa using hbefore j hj r.records[j] (List.getElem?_eq_getElem hj')

/-- A shape is indexed exactly when some record has it. -/
theorem exists_lookup_iff (h : r.WellFormed) {shape : Shape} :
    (∃ i, r.shapes.lookup shape = some i) ↔ ∃ record ∈ r.records, record.shape = shape := by
  rw [h.lookup_eq, ← Option.isSome_iff_exists, List.findIdx?_isSome, List.any_eq_true]
  simp

/-- The position of a name is that of the record it belongs to. -/
theorem exists_getElem?_of_idxOf? (h : r.WellFormed) {name : String} {i : Nat}
    (hi : r.names.idxOf? name = some i) :
    ∃ record, r.records[i]? = some record ∧ record.name = name := by
  obtain ⟨hlt, hname, -⟩ := List.idxOf?_eq_some_iff.1 hi
  have hat : r.names[i]? = some name := by
    rw [List.getElem?_eq_getElem hlt, hname]
  rw [h.names_eq, List.getElem?_map] at hat
  exact Option.map_eq_some_iff.1 hat

/-- A record is found at one position only. -/
theorem eq_of_getElem? (h : r.WellFormed) {i j : Nat} {record : Record}
    (hi : r.records[i]? = some record) (hj : r.records[j]? = some record) : i = j := by
  have hnodup : r.records.Nodup := List.Nodup.of_map _ (h.names_eq ▸ h.names_nodup)
  obtain ⟨hlt, rfl⟩ := List.getElem?_eq_some_iff.1 hi
  exact (List.getElem?_inj hlt hnodup).1 (hi.trans hj.symm)

end WellFormed

/-! ## Growth -/

/-- From one state to a later one, everything stays where it is. -/
structure Extends (r s : Registry) : Prop where
  records : r.records <+: s.records
  names : r.names <+: s.names
  shapes : ∀ shape i, r.shapes.lookup shape = some i → s.shapes.lookup shape = some i
  methods : r.methods <+: s.methods
  events : r.events <+: s.events

variable {Asks : String → Role → Prop} {r s t : Registry}

theorem Extends.refl (r : Registry) : r.Extends r :=
  ⟨List.prefix_refl _, List.prefix_refl _, fun _ _ => id, List.prefix_refl _, List.prefix_refl _⟩

theorem Extends.trans (hrs : r.Extends s) (hst : s.Extends t) : r.Extends t where
  records := hrs.records.trans hst.records
  names := hrs.names.trans hst.names
  shapes shape i hi := hst.shapes shape i (hrs.shapes shape i hi)
  methods := hrs.methods.trans hst.methods
  events := hrs.events.trans hst.events

/-- Appending a record leaves everything where it is. -/
theorem extends_push (r : Registry) (name : String) (shape : Shape) :
    r.Extends (r.push name shape) where
  records := List.prefix_append _ _
  names := List.prefix_append _ _
  shapes asked i hi := by
    unfold push
    dsimp only
    split
    · exact hi
    · rw [List.lookup_append, hi, Option.some_or]
  methods := List.prefix_refl _
  events := List.prefix_refl _

theorem extends_add (h : r.WellFormed) (candidate : String) (role : Role) (fields : List Field) :
    r.Extends (r.add candidate role fields).2 := by
  obtain ⟨_, -, -, -, hadd⟩ | ⟨-, hadd⟩ := add_cases h candidate role fields
  · rw [hadd]
    exact .refl r
  · rw [hadd]
    exact extends_push r _ _

theorem Step.extends (hstep : Step Asks r s) (h : r.WellFormed) : r.Extends s := by
  cases hstep with
  | add _ fields => exact extends_add h _ _ fields
  | noteMethod name =>
    exact ⟨List.prefix_refl _, List.prefix_refl _, fun _ _ => id, List.prefix_append _ _,
      List.prefix_refl _⟩
  | noteEvent name =>
    exact ⟨List.prefix_refl _, List.prefix_refl _, fun _ _ => id, List.prefix_refl _,
      List.prefix_append _ _⟩

/-- Registrations only add. -/
theorem Reaches.extends (hreach : r.Reaches Asks s) (h : r.WellFormed) : r.Extends s := by
  have hboth : s.WellFormed ∧ r.Extends s := by
    refine hreach.invariant (P := fun t => t.WellFormed ∧ r.Extends t) ?_ ⟨h, .refl r⟩
    rintro t u hstep ⟨ht, hextends⟩
    exact ⟨ht.step hstep, hextends.trans (hstep.extends ht)⟩
  exact hboth.2

/-! ## Names that were returned -/

/-- Looking a name up leads to a record of the name, with the role and the fields of a shape. -/
def Denotes (r : Registry) (name : String) (shape : Shape) : Prop :=
  ∃ i, r.names.idxOf? name = some i ∧ r.records[i]? = some ⟨name, shape.role, shape.fields⟩

/-- The name that is returned denotes what was asked for, be it new or there already. -/
theorem denotes_add (h : r.WellFormed) (candidate : String) (role : Role) (fields : List Field) :
    (r.add candidate role fields).2.Denotes (r.add candidate role fields).1 ⟨role, fields⟩ := by
  have hadded := wellFormed_add h candidate role fields
  have hmem := mem_records_add h candidate role fields
  have hname : (r.add candidate role fields).1 ∈ (r.add candidate role fields).2.names :=
    hadded.mem_names_iff.2 ⟨_, hmem, rfl⟩
  obtain ⟨i, hi⟩ := Option.isSome_iff_exists.1 (List.isSome_idxOf?.2 hname)
  obtain ⟨record, hrecord, hrecordName⟩ := hadded.exists_getElem?_of_idxOf? hi
  have hsame := hadded.eq_of_name_eq (List.mem_of_getElem? hrecord) hmem hrecordName
  exact ⟨i, hi, hsame ▸ hrecord⟩

/-- What a name denotes does not change. -/
theorem Denotes.of_extends {name : String} {shape : Shape} (h : r.Denotes name shape)
    (hextends : r.Extends s) : s.Denotes name shape := by
  obtain ⟨i, hi, hrecord⟩ := h
  obtain ⟨names, hnames⟩ := hextends.names
  obtain ⟨records, hrecords⟩ := hextends.records
  have hlt : i < r.records.length := (List.getElem?_eq_some_iff.1 hrecord).1
  refine ⟨i, ?_, ?_⟩
  · rw [List.idxOf?] at hi ⊢
    rw [← hnames, List.findIdx?_append, hi, Option.some_or]
  · rw [← hrecords, List.getElem?_append_left hlt, hrecord]

/-! ## All states -/

/-- **What every state of a registry satisfies.**  Let any registrations and notes have led to a
registry.  Its names are those of its records, in the same positions, and distinct.  No two records
of requests, and no two of responses, have the same fields.  A shape is indexed exactly when some
record has it, and then by the position of the first one; so the position that a name or a shape is
looked up at is always that of a record.  Whatever follows, everything stays where it is, and a name
that was returned denotes a record of the role and the fields that it was returned for. -/
theorem coherent_of_reaches (hreach : Registry.Reaches (fun _ _ => True) {} r) :
    r.names = r.records.map Record.name ∧
      r.names.Nodup ∧
      (∀ (i j : Nat) (a b : Record), r.records[i]? = some a → r.records[j]? = some b →
        a.role = b.role → a.role ≠ .event → a.fields = b.fields → i = j) ∧
      (∀ shape, (∃ i, r.shapes.lookup shape = some i) ↔
        ∃ record ∈ r.records, record.shape = shape) ∧
      (∀ shape i, r.shapes.lookup shape = some i ↔ r.IsFirst shape i) ∧
      (∀ shape i, r.shapes.lookup shape = some i → i < r.records.length) ∧
      (∀ name i, r.names.idxOf? name = some i → i < r.records.length) ∧
      (∀ s, r.Reaches (fun _ _ => True) s → r.Extends s) ∧
      ∀ candidate role fields s,
        (r.add candidate role fields).2.Reaches (fun _ _ => True) s →
          s.Denotes (r.add candidate role fields).1 ⟨role, fields⟩ := by
  have h : r.WellFormed := hreach.wellFormed wellFormed_empty
  refine ⟨h.names_eq, h.names_nodup, ?_, fun _ => h.exists_lookup_iff,
    fun _ _ => h.lookup_eq_some_iff, ?_, ?_, fun _ hs => hs.extends h, ?_⟩
  · intro i j a b ha hb hrole hevent hfields
    have hshape : a.shape = b.shape := by
      rw [Record.shape, Record.shape, hrole, hfields]
    have hsame : a = b :=
      h.eq_of_shape_eq (List.mem_of_getElem? ha) (List.mem_of_getElem? hb) hshape hevent
    exact h.eq_of_getElem? ha (hsame ▸ hb)
  · intro shape i hi
    obtain ⟨⟨record, hrecord, -⟩, -⟩ := h.lookup_eq_some_iff.1 hi
    exact (List.getElem?_eq_some_iff.1 hrecord).1
  · intro name i hi
    obtain ⟨record, hrecord, -⟩ := h.exists_getElem?_of_idxOf? hi
    exact (List.getElem?_eq_some_iff.1 hrecord).1
  · intro candidate role fields s hs
    exact (denotes_add h candidate role fields).of_extends
      (hs.extends (wellFormed_add h candidate role fields))

/-- A registry in which the second of three records of one name was renumbered, the third has the
shape of the first, and an event was noted in between. -/
def infoRegistry : Registry :=
  let first := (Registry.add {} "InfoResponse" .response [⟨"a", "string"⟩]).2
  let second := (first.add "InfoResponse" .response [⟨"b", "string"⟩]).2.noteEvent "Informed"
  (second.add "InfoRequest" .response [⟨"a", "string"⟩]).2

theorem reaches_infoRegistry : Registry.Reaches (fun _ _ => True) {} infoRegistry :=
  .tail (.tail (.tail (.single (.add trivial _)) (.add trivial _)) (.noteEvent "Informed"))
    (.add trivial _)

theorem coherent_of_reaches_infoRegistry :
    Registry.Reaches (fun _ _ => True) {} infoRegistry ∧
      infoRegistry.names = ["InfoResponse", "InfoResponse2"] ∧
      infoRegistry.names = infoRegistry.records.map Record.name ∧
      infoRegistry.IsFirst ⟨.response, [⟨"b", "string"⟩]⟩ 1 ∧
      (infoRegistry.add "InfoRequest" .response [⟨"b", "string"⟩]).2.Denotes "InfoResponse2"
        ⟨.response, [⟨"b", "string"⟩]⟩ := by
  obtain ⟨hnames, -, -, -, hfirst, -, -, -, hdenotes⟩ := coherent_of_reaches reaches_infoRegistry
  have hindex : infoRegistry.shapes.lookup ⟨.response, [⟨"b", "string"⟩]⟩ = some 1 := by decide
  have hreturned : (infoRegistry.add "InfoRequest" .response [⟨"b", "string"⟩]).1 =
      "InfoResponse2" := by decide
  exact ⟨reaches_infoRegistry, by decide, hnames, (hfirst _ _).1 hindex,
    hreturned ▸ hdenotes "InfoRequest" .response [⟨"b", "string"⟩] _ (.refl _)⟩

end Registry
end AbiTypings
