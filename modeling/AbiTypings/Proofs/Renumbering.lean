import Mathlib.Algebra.Ring.Nat
import Mathlib.Order.Bounds.Basic
import AbiTypings.Proofs.Registering

/-!
# Renumbering

A record whose name is taken is renumbered: numbers are counted from two on until one gives a name
that is free.  Nothing bounds the count but the counter itself, which has 32 bits and moves on
before the name of its number is tried.  This module writes the count down step by step
(`Registry.Counts`) and says how it goes: it stops, because distinct numbers give distinct names and
only finitely many are taken; it stops at the least number that will do; and it stops long before
the counter is used up, unless there are as many records as the counter has numbers.

* **The least number** — `exists_isLeast_unusedName`: a name that is taken is renumbered with the
  least number from two on whose name is free, which is at most two more than there are names.
* **Counting** — `Counts.unique`: there is only one way for the count to go.  `counts_of_isLeast`:
  from any number, it goes through all numbers up to the first whose name is free.
* **Registration** — `add_renumbers` puts these together for every registry that registrations
  lead to.
-/

namespace AbiTypings
namespace Registry

/-! ## The least number -/

/-- The numbers, from a given one on, that make a candidate a name that is not taken. -/
def freeNumbers (names : List String) (candidate : String) (start : Nat) : Set Nat :=
  {n | start ≤ n ∧ candidate ++ toString n ∉ names}

/-- A name that is taken gets the least number that makes it one that is not, and no more numbers
are skipped than there are names. -/
theorem exists_isLeast_unusedName {names : List String} {candidate : String}
    (htaken : candidate ∈ names) :
    ∃ n, IsLeast (freeNumbers names candidate 2) n ∧ n ≤ names.length + 2 ∧
      unusedName names candidate = candidate ++ toString n := by
  obtain ⟨m, hm, hfree⟩ := exists_number_not_mem names candidate
  have hfound : ((List.range' 2 (names.length + 1)).find?
      fun n => !names.contains (candidate ++ toString n)).isSome :=
    List.find?_isSome.2 ⟨m, hm, by simpa using hfree⟩
  obtain ⟨n, hn⟩ := Option.isSome_iff_exists.1 hfound
  obtain ⟨hnfree, hmem, hbefore⟩ := List.find?_range'_eq_some.1 hn
  obtain ⟨htwo, hbound⟩ := List.mem_range'_1.1 hmem
  refine ⟨n, ⟨⟨htwo, by simpa using hnfree⟩, ?_⟩, by omega, ?_⟩
  · rintro k ⟨hk, hkfree⟩
    by_contra hlt
    have hktaken := hbefore k hk (by omega)
    exact hkfree (by simpa using hktaken)
  · rw [unusedName, if_pos (by simpa using htaken), hn]

/-! ## Counting -/

/-- How counting ends. -/
inductive CountEnd where
  /-- At a name that is free. -/
  | free (name : String)
  /-- At a number from which the counter cannot move on. -/
  | overflow
  deriving DecidableEq, Repr

/-- Counting from a number until its name is free: how many names are tried, and how it ends. The
counter moves on before the name of its number is tried, so the name of the last number never is. -/
inductive Counts (names : List String) (candidate : String) : Int32 → Nat → CountEnd → Prop
  | overflow : Counts names candidate Int32.maxValue 0 .overflow
  | free {n : Int32} (hn : n < Int32.maxValue) (hfree : candidate ++ toString n ∉ names) :
      Counts names candidate n 1 (.free (candidate ++ toString n))
  | taken {n : Int32} {tries : Nat} {last : CountEnd} (hn : n < Int32.maxValue)
      (htaken : candidate ++ toString n ∈ names)
      (hrest : Counts names candidate (n + 1) tries last) :
      Counts names candidate n (tries + 1) last

section Counting

variable {names : List String} {candidate : String}

/-- There is only one way for a count to go. -/
theorem Counts.unique {n : Int32} {tries tries' : Nat} {last last' : CountEnd}
    (h : Counts names candidate n tries last) (h' : Counts names candidate n tries' last') :
    tries' = tries ∧ last' = last := by
  induction h generalizing tries' with
  | overflow =>
    cases h' with
    | overflow => exact ⟨rfl, rfl⟩
    | free hn => exact absurd hn (by decide)
    | taken hn => exact absurd hn (by decide)
  | free hn hfree =>
    cases h' with
    | overflow => exact absurd hn (by decide)
    | free => exact ⟨rfl, rfl⟩
    | taken _ htaken => exact absurd htaken hfree
  | taken hn htaken hrest ih =>
    cases h' with
    | overflow => exact absurd hn (by decide)
    | free _ hfree => exact absurd htaken hfree
    | taken _ _ hrest' =>
      obtain ⟨rfl, rfl⟩ := ih hrest'
      exact ⟨rfl, rfl⟩

/-- A number below the last one is a number that the counter can move on from. -/
theorem ofNat_lt_maxValue {n : Nat} (h : n + 1 < 2 ^ 31) : Int32.ofNat n < Int32.maxValue := by
  rw [Int32.lt_iff_toInt_lt, Int32.toInt_ofNat_of_lt (by omega), Int32.toInt_maxValue]
  omega

/-- The counter writes its numbers as they are. -/
theorem toString_ofNat_int32 {n : Nat} (h : n < 2 ^ 31) :
    toString (Int32.ofNat n) = toString n := by
  have hvalue : (Int32.ofNat n).toInt = (n : Int) := Int32.toInt_ofNat_of_lt h
  change toString (Int32.ofNat n).toInt = toString n
  rw [hvalue]
  rfl

/-- Counting goes through the numbers whose names are taken, up to the first whose name is free. -/
theorem counts_of_taken {start k : Nat} (hk : start + k + 1 < 2 ^ 31)
    (htaken : ∀ m, start ≤ m → m < start + k → candidate ++ toString m ∈ names)
    (hfree : candidate ++ toString (start + k) ∉ names) :
    Counts names candidate (.ofNat start) (k + 1) (.free (candidate ++ toString (start + k))) := by
  induction k generalizing start with
  | zero =>
    rw [Nat.add_zero, ← toString_ofNat_int32 (by omega)] at hfree ⊢
    exact .free (ofNat_lt_maxValue hk) hfree
  | succ k ih =>
    have hfirst : candidate ++ toString start ∈ names := htaken start (by omega) (by omega)
    have hnext : start + (k + 1) = (start + 1) + k := by omega
    rw [hnext] at hfree hk htaken ⊢
    have hrest := ih hk (fun m hm hlt => htaken m (by omega) hlt) hfree
    rw [Int32.ofNat_add] at hrest
    rw [← toString_ofNat_int32 (by omega)] at hfirst
    exact .taken (ofNat_lt_maxValue (by omega)) hfirst hrest

/-- Counting from a number ends at the least number from there on whose name is free. -/
theorem counts_of_isLeast {start n : Nat} (hleast : IsLeast (freeNumbers names candidate start) n)
    (hn : n + 1 < 2 ^ 31) :
    Counts names candidate (.ofNat start) (n - start + 1) (.free (candidate ++ toString n)) := by
  obtain ⟨⟨hstart, hfree⟩, hlower⟩ := hleast
  obtain ⟨k, rfl⟩ := Nat.exists_eq_add_of_le hstart
  rw [Nat.add_sub_cancel_left]
  refine counts_of_taken hn (fun m hm hlt => ?_) hfree
  by_contra hmfree
  have hle := hlower ⟨hm, hmfree⟩
  omega

end Counting

/-! ## Registration -/

section Registration

variable {r : Registry} {candidate : String} {role : Role} {fields : List Field}

/-- **A name that is taken gets the least number that is free.**  In every registry that
registrations lead to, let a record be asked for that is shared neither by its name nor by its
shape.  It is appended under a name that was not taken: under the candidate, if that is free, and
otherwise under the candidate and the least number from two on that makes it a free name.  As long
as there are fewer records than the counter has numbers to try, counting up to that number can go
in one way only: it ends at this name, tries at most one name more than there are, and does not
overflow. -/
theorem add_renumbers (hreach : Registry.Reaches (fun _ _ => True) {} r)
    (hfew : r.records.length < 2 ^ 31 - 3)
    (hnew : ∀ record ∈ r.records, record.shape = ⟨role, fields⟩ →
      role = .event ∧ record.name ≠ candidate) :
    let name := (r.add candidate role fields).1
    (r.add candidate role fields).2.records = r.records ++ [⟨name, role, fields⟩] ∧
      name ∉ r.names ∧
      (candidate ∉ r.names → name = candidate) ∧
      (candidate ∈ r.names → ∃ n, IsLeast (freeNumbers r.names candidate 2) n ∧
        name = candidate ++ toString n ∧
        ∃ tries ≤ r.names.length + 1, ∀ k last,
          Counts r.names candidate 2 k last ↔ k = tries ∧ last = .free name) := by
  intro name
  have hwf : r.WellFormed := hreach.wellFormed wellFormed_empty
  have hadd := add_of_forall_ne hwf hnew
  have hname : name = unusedName r.names candidate := congrArg Prod.fst hadd
  have hlength : r.names.length = r.records.length := by
    rw [hwf.names_eq, List.length_map]
  refine ⟨?_, ?_, ?_, ?_⟩
  · rw [hname, hadd]
    rfl
  · rw [hname]
    exact unusedName_not_mem _ _
  · intro hfree
    rw [hname]
    exact unusedName_of_not_mem hfree
  · intro htaken
    obtain ⟨n, hleast, hbound, hunused⟩ := exists_isLeast_unusedName htaken
    have htwo : 2 ≤ n := hleast.1.1
    have hcounts : Counts r.names candidate 2 (n - 2 + 1) (.free name) := by
      rw [hname, hunused]
      exact counts_of_isLeast hleast (by omega)
    refine ⟨n, hleast, hname.trans hunused, n - 2 + 1, by omega, fun k last => ?_⟩
    constructor
    · exact hcounts.unique
    · rintro ⟨rfl, rfl⟩
      exact hcounts

/-- A registry in which the name that another record would be renumbered to was asked for by a
record of its own. -/
def pointRegistry : Registry :=
  let first := (Registry.add {} "PointResponse" .response [⟨"x", "string"⟩]).2
  let second := (first.add "PointResponse2" .response [⟨"y", "string"⟩]).2
  (second.add "PointResponse2" .response [⟨"z", "string"⟩]).2

theorem reaches_pointRegistry : Registry.Reaches (fun _ _ => True) {} pointRegistry :=
  .tail (.tail (.single (.add trivial _)) (.add trivial _)) (.add trivial _)

theorem add_renumbers_pointRegistry :
    Registry.Reaches (fun _ _ => True) {} pointRegistry ∧
      pointRegistry.names = ["PointResponse", "PointResponse2", "PointResponse22"] ∧
      let name := (pointRegistry.add "PointResponse" .request [⟨"x", "string"⟩]).1
      name = "PointResponse3" ∧
        ∃ n, IsLeast (freeNumbers pointRegistry.names "PointResponse" 2) n ∧
          name = "PointResponse" ++ toString n ∧
          ∃ tries ≤ 4, ∀ k last, Counts pointRegistry.names "PointResponse" 2 k last ↔
            k = tries ∧ last = .free name := by
  have hnew : ∀ record ∈ pointRegistry.records,
      record.shape = ⟨.request, [⟨"x", "string"⟩]⟩ →
        Role.request = .event ∧ record.name ≠ "PointResponse" := by decide
  have hfew : pointRegistry.records.length < 2 ^ 31 - 3 := by decide
  obtain ⟨-, -, -, htaken⟩ := add_renumbers reaches_pointRegistry hfew hnew
  exact ⟨reaches_pointRegistry, by decide, by decide, htaken (by decide)⟩

end Registration

end Registry
end AbiTypings
