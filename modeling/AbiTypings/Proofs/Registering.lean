import Mathlib.Logic.Relation
import AbiTypings.Proofs.Registry

/-!
# Computations on a registry

How a computation that registers records runs, and where it can lead the registry.

* **Running** — `run_bind` runs two computations one after the other, and `run_bind_eq_ok` says when
  the two succeed together.
* **Steps** — `Registry.Step` is one registration or one noted member, and `Registry.Reaches` any
  number of them.  The steps are restricted by what may be asked for, so that a computation that
  only ever asks for records of one role, or for names of one form, can be told from others.
  Whatever is reached is well-formed, and only appends to the records (`Reaches.wellFormed`,
  `Reaches.records_grow`).
* **Reach** — `Registering.Reaches`: a computation leads where such steps lead, whether it succeeds
  or fails.  `Reaches.bind` puts the reach of a computation together from that of its parts.
-/

namespace AbiTypings

variable {α β : Type}

namespace Registering

/-! ## Running -/

theorem run_modify (f : Registry → Registry) (r : Registry) :
    (modify f : Registering PUnit).run r = (.ok ⟨⟩, f r) := rfl

theorem run_bind (x : Registering α) (f : α → Registering β) (r : Registry) :
    (x >>= f).run r =
      match x.run r with
      | (.ok a, r') => (f a).run r'
      | (.error e, r') => (.error e, r') := by
  change (match x r with | (a, r') => ExceptT.bindCont f a r') = _
  rw [ExceptT.run]
  rcases x r with ⟨_ | a, r'⟩ <;> rfl

/-! ## Runs that succeed -/

theorem run_pure_eq_ok {a b : α} {r s : Registry} :
    (pure a : Registering α).run r = (.ok b, s) ↔ b = a ∧ s = r := by
  constructor
  · rintro ⟨⟩
    exact ⟨rfl, rfl⟩
  · rintro ⟨rfl, rfl⟩
    rfl

theorem run_ofExcept_eq_ok {result : Except Fault α} {a : α} {r s : Registry} :
    (ofExcept result).run r = (.ok a, s) ↔ result = .ok a ∧ s = r := by
  constructor
  · intro h
    exact ⟨congrArg Prod.fst h, (congrArg Prod.snd h).symm⟩
  · rintro ⟨rfl, rfl⟩
    rfl

theorem run_registerRecord_eq_ok {candidate name : String} {role : Role} {fields : List Field}
    {r s : Registry} :
    (registerRecord candidate role fields).run r = (.ok name, s) ↔
      name = (r.add candidate role fields).1 ∧ s = (r.add candidate role fields).2 := by
  constructor
  · rintro ⟨⟩
    exact ⟨rfl, rfl⟩
  · rintro ⟨rfl, rfl⟩
    rfl

theorem run_bind_of_ok {x : Registering α} {f : α → Registering β} {r r' : Registry} {a : α}
    (h : x.run r = (.ok a, r')) : (x >>= f).run r = (f a).run r' := by
  rw [run_bind, h]

/-- A run of two computations is a run of the first and then one of the second. -/
theorem run_bind_eq_ok {x : Registering α} {f : α → Registering β} {r s : Registry} {b : β} :
    (x >>= f).run r = (.ok b, s) ↔
      ∃ a r', x.run r = (.ok a, r') ∧ (f a).run r' = (.ok b, s) := by
  rw [run_bind]
  rcases x.run r with ⟨_ | a, r'⟩
  · constructor
    · rintro ⟨⟩
    · rintro ⟨_, _, ⟨⟩, _⟩
  · constructor
    · intro h
      exact ⟨a, r', rfl, h⟩
    · rintro ⟨_, _, ⟨⟩, h⟩
      exact h

end Registering

/-! ## Steps of a registry -/

namespace Registry

/-- One step: a record that may be asked for is registered, or a member is noted. -/
inductive Step (Asks : String → Role → Prop) (r : Registry) : Registry → Prop
  | add {candidate : String} {role : Role} (asks : Asks candidate role) (fields : List Field) :
      Step Asks r (r.add candidate role fields).2
  | noteMethod (name : String) : Step Asks r (r.noteMethod name)
  | noteEvent (name : String) : Step Asks r (r.noteEvent name)

/-- Any number of steps. -/
def Reaches (Asks : String → Role → Prop) : Registry → Registry → Prop :=
  Relation.ReflTransGen (Step Asks)

variable {Asks : String → Role → Prop} {r s t : Registry}

theorem WellFormed.noteMethod (h : r.WellFormed) {name : String} : (r.noteMethod name).WellFormed :=
  ⟨h.names_eq, h.names_nodup, h.lookup_eq, h.sharedShapes_nodup⟩

theorem WellFormed.noteEvent (h : r.WellFormed) {name : String} : (r.noteEvent name).WellFormed :=
  ⟨h.names_eq, h.names_nodup, h.lookup_eq, h.sharedShapes_nodup⟩

/-- Every step keeps a registry well-formed. -/
theorem WellFormed.step (h : r.WellFormed) (hstep : Step Asks r s) : s.WellFormed := by
  cases hstep with
  | add _ fields => exact wellFormed_add h _ _ fields
  | noteMethod => exact h.noteMethod
  | noteEvent => exact h.noteEvent

/-- Every step keeps the records that are there. -/
theorem Step.records_grow (hstep : Step Asks r s) (h : r.WellFormed) :
    r.records <+: s.records := by
  cases hstep with
  | add _ fields => exact records_grow_add h _ _ fields
  | noteMethod => exact List.prefix_refl _
  | noteEvent => exact List.prefix_refl _

namespace Reaches

theorem refl (r : Registry) : r.Reaches Asks r :=
  Relation.ReflTransGen.refl

theorem trans (hrs : r.Reaches Asks s) (hst : s.Reaches Asks t) : r.Reaches Asks t :=
  Relation.ReflTransGen.trans hrs hst

theorem single (hstep : Step Asks r s) : r.Reaches Asks s :=
  Relation.ReflTransGen.single hstep

/-- What every step keeps holds of whatever is reached. -/
theorem invariant {P : Registry → Prop} (hkeep : ∀ {r s}, Step Asks r s → P r → P s)
    (hreach : r.Reaches Asks s) (h : P r) : P s := by
  induction hreach with
  | refl => exact h
  | tail _ hstep ih => exact hkeep hstep ih

theorem mono {Asks' : String → Role → Prop}
    (himp : ∀ {candidate role}, Asks candidate role → Asks' candidate role)
    (hreach : r.Reaches Asks s) : r.Reaches Asks' s := by
  refine Relation.ReflTransGen.mono ?_ r s hreach
  intro _ _ hstep
  cases hstep with
  | add asks fields => exact .add (himp asks) fields
  | noteMethod name => exact .noteMethod name
  | noteEvent name => exact .noteEvent name

theorem wellFormed (hreach : r.Reaches Asks s) (h : r.WellFormed) : s.WellFormed :=
  hreach.invariant (fun hstep h => h.step hstep) h

/-- Records are only ever appended. -/
theorem records_grow (hreach : r.Reaches Asks s) (h : r.WellFormed) :
    r.records <+: s.records := by
  have hboth : s.WellFormed ∧ r.records <+: s.records := by
    refine hreach.invariant (P := fun t => t.WellFormed ∧ r.records <+: t.records) ?_
      ⟨h, List.prefix_refl _⟩
    rintro t u hstep ⟨ht, hgrow⟩
    exact ⟨ht.step hstep, hgrow.trans (hstep.records_grow ht)⟩
  exact hboth.2

end Reaches
end Registry

/-! ## Reach of a computation -/

/-- A computation leads where steps lead, whether it succeeds or fails. -/
def Registering.Reaches (Asks : String → Role → Prop) (x : Registering α) : Prop :=
  ∀ r : Registry, r.Reaches Asks (x.run r).2

namespace Registering

variable {Asks : String → Role → Prop}

theorem Reaches.of_run {x : Registering α} (h : x.Reaches Asks) {r s : Registry}
    {result : Except Fault α} (hrun : x.run r = (result, s)) : r.Reaches Asks s := by
  have hreach := h r
  rw [hrun] at hreach
  exact hreach

theorem reaches_pure (a : α) : (pure a : Registering α).Reaches Asks :=
  fun r => .refl r

theorem reaches_ofExcept (result : Except Fault α) : (ofExcept result).Reaches Asks :=
  fun r => .refl r

theorem reaches_noteMethod (name : String) :
    (modify (·.noteMethod name) : Registering PUnit).Reaches Asks :=
  fun _ => .single (.noteMethod name)

theorem reaches_noteEvent (name : String) :
    (modify (·.noteEvent name) : Registering PUnit).Reaches Asks :=
  fun _ => .single (.noteEvent name)

theorem reaches_registerRecord {candidate : String} {role : Role} (asks : Asks candidate role)
    (fields : List Field) : (registerRecord candidate role fields).Reaches Asks :=
  fun _ => .single (.add asks fields)

theorem Reaches.bind {x : Registering α} {f : α → Registering β} (hx : x.Reaches Asks)
    (hf : ∀ a, (f a).Reaches Asks) : (x >>= f).Reaches Asks := by
  intro r
  rw [run_bind]
  rcases hrun : x.run r with ⟨_ | a, r'⟩
  · exact hx.of_run hrun
  · exact (hx.of_run hrun).trans (hf a r')

end Registering

end AbiTypings
