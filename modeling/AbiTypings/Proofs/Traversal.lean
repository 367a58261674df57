import Mathlib.Data.List.Forall2

/-!
# Traversals of lists

Tags, members and documents are all read by going through a list, element by element, until one is
refused.  What such traversals give is said here for any elements: for those that may be refused
with a cause, for those that may be refused without one, and for lists whose elements are related
one by one.

* **Results** — `bind_eq_ok_iff`, `bind_eq_error_iff` and their neighbours take a single result
  apart.
* **Related lists** — `exists_forall₂_iff`: a list has a related one just if each of its elements
  has a related one.
* **Traversals** — `mapM_eq_ok_iff_forall₂` and `mapM_eq_some_iff_forall₂`: the results are those of
  the elements; `mapM_eq_error_iff`: the cause is that of the first element with one.
* **Elements on their own** — `exists_eq_ok_iff_singles`, `forall₂_singles_of_eq_ok`,
  `eq_error_iff_singles`: what a list gives, by what its elements give as lists of their own.
* **Separators** — `mem_intersperse_of_mem` and `mem_intersperse`: what is in a list with something
  put between its elements.
-/

namespace AbiTypings

/-! ## Results -/

section Results

variable {α β ε ε' : Type}

/-- One computation after another gives what the second gives on the result of the first. -/
theorem bind_eq_ok_iff {x : Except ε α} {f : α → Except ε β} {b : β} :
    x >>= f = .ok b ↔ ∃ a, x = .ok a ∧ f a = .ok b := by
  rcases x with e | a
  · exact ⟨nofun, nofun⟩
  · exact ⟨fun h => ⟨a, rfl, h⟩, fun ⟨_, ha, h⟩ => Except.ok.inj ha ▸ h⟩

/-- One computation after another is refused by the first, or by the second on its result. -/
theorem bind_eq_error_iff {x : Except ε α} {f : α → Except ε β} {e : ε} :
    x >>= f = .error e ↔ x = .error e ∨ ∃ a, x = .ok a ∧ f a = .error e := by
  rcases x with e' | a
  · exact ⟨fun h => .inl (congrArg _ (Except.error.inj h)),
      fun h => h.elim (fun h => congrArg _ (Except.error.inj h)) nofun⟩
  · exact ⟨fun h => .inr ⟨a, rfl, h⟩,
      fun h => h.elim nofun fun ⟨_, ha, h⟩ => Except.ok.inj ha ▸ h⟩

theorem map_eq_ok_iff {x : Except ε α} {f : α → β} {b : β} :
    x.map f = .ok b ↔ ∃ a, x = .ok a ∧ f a = b := by
  rcases x with e | a
  · exact ⟨nofun, nofun⟩
  · exact ⟨fun h => ⟨a, rfl, Except.ok.inj h⟩, fun ⟨_, ha, h⟩ => Except.ok.inj ha ▸ congrArg _ h⟩

variable {g : ε → ε'}

/-- What the cause of a refusal is turned into does not matter to what is accepted. -/
theorem mapError_eq_ok_iff {x : Except ε α} {a : α} : x.mapError g = .ok a ↔ x = .ok a := by
  rcases x with e | a'
  · exact ⟨nofun, nofun⟩
  · exact ⟨fun h => congrArg _ (Except.ok.inj h), fun h => congrArg _ (Except.ok.inj h)⟩

theorem mapError_eq_error_iff {x : Except ε α} {e' : ε'} :
    x.mapError g = .error e' ↔ ∃ e, x = .error e ∧ g e = e' := by
  rcases x with e | a
  · exact ⟨fun h => ⟨e, rfl, Except.error.inj h⟩,
      fun ⟨_, he, h⟩ => Except.error.inj he ▸ congrArg _ h⟩
  · exact ⟨nofun, nofun⟩

theorem mapError_mapError {ε'' : Type} {g' : ε' → ε''} (x : Except ε α) :
    (x.mapError g).mapError g' = x.mapError (g' ∘ g) := by
  cases x <;> rfl

end Results

/-! ## Related lists -/

/-- A list has a related one just if each of its elements has a related one. -/
theorem exists_forall₂_iff {α β : Type} {R : α → β → Prop} {as : List α} :
    (∃ bs, List.Forall₂ R as bs) ↔ ∀ a ∈ as, ∃ b, R a b := by
  induction as with
  | nil => exact iff_of_true ⟨[], .nil⟩ (List.forall_mem_nil _)
  | cons a as ih =>
    rw [List.forall_mem_cons, ← ih]
    constructor
    · rintro ⟨_, h⟩
      obtain ⟨b, bs, hb, hbs, -⟩ := List.forall₂_cons_left_iff.1 h
      exact ⟨⟨b, hb⟩, bs, hbs⟩
    · rintro ⟨⟨b, hb⟩, bs, hbs⟩
      exact ⟨b :: bs, .cons hb hbs⟩

/-! ## Traversals -/

/-- A list is accepted with the results of its elements. -/
theorem mapM_eq_some_iff_forall₂ {α β : Type} {f : α → Option β} {as : List α} {bs : List β} :
    as.mapM f = some bs ↔ List.Forall₂ (fun a b => f a = some b) as bs := by
  induction as generalizing bs with
  | nil => simp [eq_comm]
  | cons a as ih =>
    rw [List.mapM_cons, List.forall₂_cons_left_iff]
    simp only [Option.bind_eq_bind, Option.bind_eq_some_iff, ih, Option.pure_def,
      Option.some.injEq]
    constructor
    · rintro ⟨b, hb, bs', hbs', rfl⟩
      exact ⟨b, bs', hb, hbs', rfl⟩
    · rintro ⟨b, bs', hb, hbs', rfl⟩
      exact ⟨b, hb, bs', hbs', rfl⟩

section Traversals

variable {α β ε : Type} {f : α → Except ε β} {as : List α}

/-- A list is accepted with the results of its elements. -/
theorem mapM_eq_ok_iff_forall₂ {bs : List β} :
    as.mapM f = .ok bs ↔ List.Forall₂ (fun a b => f a = .ok b) as bs := by
  induction as generalizing bs with
  | nil =>
    rw [List.mapM_nil, List.forall₂_nil_left_iff]
    exact ⟨fun h => (Except.ok.inj h).symm, fun h => congrArg _ h.symm⟩
  | cons a as ih =>
    rw [List.mapM_cons, List.forall₂_cons_left_iff, bind_eq_ok_iff]
    constructor
    · rintro ⟨b, hb, h⟩
      obtain ⟨rest, hrest, h⟩ := bind_eq_ok_iff.1 h
      exact ⟨b, rest, hb, ih.1 hrest, (Except.ok.inj h).symm⟩
    · rintro ⟨b, rest, hb, hrest, rfl⟩
      exact ⟨b, hb, bind_eq_ok_iff.2 ⟨rest, ih.2 hrest, rfl⟩⟩

/-- A list has the fault of its first element with one. -/
theorem mapM_eq_error_iff {e : ε} :
    as.mapM f = .error e ↔ ∃ before a after, as = before ++ a :: after ∧
      (∀ a ∈ before, ∃ b, f a = .ok b) ∧ f a = .error e := by
  induction as with
  | nil =>
    refine ⟨nofun, ?_⟩
    rintro ⟨before, a, after, h, -⟩
    exact absurd h.symm (List.append_ne_nil_of_right_ne_nil before (List.cons_ne_nil a after))
  | cons a as ih =>
    have hrest (b : β) : (as.mapM f >>= fun bs => pure (b :: bs)) = .error e ↔
        as.mapM f = .error e := by
      rw [bind_eq_error_iff]
      exact or_iff_left nofun
    rw [List.mapM_cons, bind_eq_error_iff]
    simp only [hrest, ih]
    constructor
    · rintro (h | ⟨b, hb, before, a', after, rfl, hbefore, h⟩)
      · exact ⟨[], a, as, rfl, List.forall_mem_nil _, h⟩
      · exact ⟨a :: before, a', after, rfl, List.forall_mem_cons.2 ⟨⟨b, hb⟩, hbefore⟩, h⟩
    · rintro ⟨_ | ⟨first, before⟩, a', after, heq, hbefore, h⟩
      · obtain ⟨rfl, rfl⟩ := List.cons.inj heq
        exact .inl h
      · obtain ⟨rfl, rfl⟩ := List.cons.inj heq
        obtain ⟨⟨b, hb⟩, hbefore⟩ := List.forall_mem_cons.1 hbefore
        exact .inr ⟨b, hb, before, a', after, rfl, hbefore, h⟩

/-- A list of one element has one result. -/
theorem mapM_singleton_eq_ok_iff {a : α} {bs : List β} :
    [a].mapM f = .ok bs ↔ ∃ b, f a = .ok b ∧ bs = [b] := by
  rw [mapM_eq_ok_iff_forall₂, List.forall₂_cons_left_iff]
  simp only [List.forall₂_nil_left_iff]
  exact ⟨fun ⟨b, _, hb, hrest, hbs⟩ => ⟨b, hb, hrest ▸ hbs⟩,
    fun ⟨b, hb, hbs⟩ => ⟨b, [], hb, rfl, hbs⟩⟩

theorem mapM_singleton_eq_error_iff {a : α} {e : ε} : [a].mapM f = .error e ↔ f a = .error e := by
  rw [List.mapM_cons, List.mapM_nil, bind_eq_error_iff]
  exact or_iff_left nofun

/-! ## Elements on their own -/

variable {ε' : Type} {g : ε → ε'} {whole : Except ε' (List β)} {single : α → Except ε' (List β)}
  (hwhole : whole = (as.mapM f).mapError g)
  (hsingle : ∀ a ∈ as, single a = ([a].mapM f).mapError g)

include hsingle

/-- On its own, an element gives a list of its one result. -/
theorem single_eq_ok_iff {a : α} (ha : a ∈ as) {bs : List β} :
    single a = .ok bs ↔ ∃ b, f a = .ok b ∧ bs = [b] := by
  rw [hsingle a ha, mapError_eq_ok_iff, mapM_singleton_eq_ok_iff]

theorem exists_single_eq_ok_iff {a : α} (ha : a ∈ as) :
    (∃ bs, single a = .ok bs) ↔ ∃ b, f a = .ok b := by
  simp only [single_eq_ok_iff hsingle ha]
  exact ⟨fun ⟨_, b, hb, _⟩ => ⟨b, hb⟩, fun ⟨b, hb⟩ => ⟨[b], b, hb, rfl⟩⟩

include hwhole

/-- A list is accepted just if each of its elements is on its own. -/
theorem exists_eq_ok_iff_singles :
    (∃ bs, whole = .ok bs) ↔ ∀ a ∈ as, ∃ bs, single a = .ok bs := by
  simp only [hwhole, mapError_eq_ok_iff, mapM_eq_ok_iff_forall₂, exists_forall₂_iff]
  exact forall₂_congr fun a ha => (exists_single_eq_ok_iff hsingle ha).symm

/-- A list gives what its elements give on their own. -/
theorem forall₂_singles_of_eq_ok {bs : List β} (h : whole = .ok bs) :
    List.Forall₂ (fun a b => a ∈ as ∧ single a = .ok [b]) as bs := by
  rw [hwhole, mapError_eq_ok_iff, mapM_eq_ok_iff_forall₂] at h
  have hall := (List.forall₂_and_left as bs).2 ⟨fun a ha => ha, h⟩
  exact hall.imp fun a b h => ⟨h.1, (single_eq_ok_iff hsingle h.1).2 ⟨b, h.2, rfl⟩⟩

/-- A list is refused as the first of its elements that is refused on its own. -/
theorem eq_error_iff_singles {e : ε'} :
    whole = .error e ↔ ∃ before a after, as = before ++ a :: after ∧
      (∀ a ∈ before, ∃ bs, single a = .ok bs) ∧ single a = .error e := by
  have herror {a : α} (ha : a ∈ as) : single a = .error e ↔ ∃ cause, f a = .error cause ∧
      g cause = e := by
    rw [hsingle a ha, mapError_eq_error_iff]
    simp only [mapM_singleton_eq_error_iff]
  have hbefore {before after : List α} {a : α} (has : as = before ++ a :: after) :
      (∀ a ∈ before, ∃ bs, single a = .ok bs) ↔ ∀ a ∈ before, ∃ b, f a = .ok b := by
    refine forall₂_congr fun a' ha' => exists_single_eq_ok_iff hsingle ?_
    exact has ▸ List.mem_append_left _ ha'
  rw [hwhole, mapError_eq_error_iff]
  simp only [mapM_eq_error_iff]
  constructor
  · rintro ⟨cause, ⟨before, a, after, has, hok, ha⟩, hcause⟩
    have hmem : a ∈ as := has ▸ List.mem_append_right _ List.mem_cons_self
    exact ⟨before, a, after, has, (hbefore has).2 hok, (herror hmem).2 ⟨cause, ha, hcause⟩⟩
  · rintro ⟨before, a, after, has, hok, ha⟩
    have hmem : a ∈ as := has ▸ List.mem_append_right _ List.mem_cons_self
    obtain ⟨cause, hcause, hfault⟩ := (herror hmem).1 ha
    exact ⟨cause, ⟨before, a, after, has, (hbefore has).1 hok, hcause⟩, hfault⟩

end Traversals

/-! ## Separators -/

section Separators

variable {α : Type} {a sep : α}

/-- The elements of a list stay when something is put between them. -/
theorem mem_intersperse_of_mem : ∀ {as : List α}, a ∈ as → a ∈ as.intersperse sep
  | [], h => absurd h List.not_mem_nil
  | [_], h => h
  | b :: c :: as, h => by
    rw [List.intersperse_cons_cons]
    rcases List.mem_cons.1 h with rfl | h
    · exact List.mem_cons_self
    · exact List.mem_cons_of_mem _ (List.mem_cons_of_mem _ (mem_intersperse_of_mem h))

/-- Nothing but what is put between them comes to the elements of a list. -/
theorem mem_intersperse : ∀ {as : List α}, a ∈ as.intersperse sep → a = sep ∨ a ∈ as
  | [], h => absurd h List.not_mem_nil
  | [_], h => .inr h
  | b :: c :: as, h => by
    rw [List.intersperse_cons_cons, List.mem_cons, List.mem_cons] at h
    rcases h with rfl | rfl | h
    · exact .inr List.mem_cons_self
    · exact .inl rfl
    · exact (mem_intersperse h).imp_right (List.mem_cons_of_mem _)

end Separators

end AbiTypings
