import AbiTypings.Proofs.JsonReading

/-!
# What the reader takes

A text that is read spells a tree, and what is read is the value of that tree.  The reader is
followed from where it stands to the end of the text (`runs`), and what it passes on the way is
taken off the front of the text, one part of the format at a time.  An element of a list and the
value of a member are shorter than what they stand in, so one induction on the length carries all of
them.

* **Parts** — `exists_blanks`, `exists_of_runs_number`, `exists_of_runs_text`: the parts that are no
  containers.
* **Values** — `valueTaken`: a value, from the containers in it.
* **Documents** — `readChars_eq_some_iff`: what is read, and as what.
-/

namespace AbiTypings.Json

theorem Spells.append_blanks {text blanks : List Char} {j : Json} (h : Spells text j)
    (hblanks : Blanks blanks) : Spells (text ++ blanks) j :=
  @Spells.blanks [] text blanks j nofun hblanks h

namespace Reader

/-- The value at the end of the text. -/
def runs (r : Reader) (cs : List Char) : Option Json :=
  (cs.foldlM step r).bind finish

variable {v : Json} {frames : List Frame} {cs : List Char}

/-- A run is taken apart at its first character. -/
theorem runs_cons_eq_some {r : Reader} {c : Char} :
    runs r (c :: cs) = some v ↔ ∃ r', step r c = some r' ∧ runs r' cs = some v := by
  rw [runs, List.foldlM_cons, Option.bind_eq_bind, Option.bind_assoc, Option.bind_eq_some_iff]
  rfl

/-- The text may end only after a value, or after a number. -/
theorem exists_cons_of_runs {mode : Mode} (h : runs ⟨mode, frames⟩ cs = some v)
    (hdone : ∀ w, mode ≠ .done w) (hnumber : ∀ chars, mode ≠ .number chars) :
    ∃ c rest r, cs = c :: rest ∧ step ⟨mode, frames⟩ c = some r ∧ runs r rest = some v := by
  cases cs with
  | nil =>
    replace h : finish ⟨mode, frames⟩ = some v := h
    have hsettled : endNumber ⟨mode, frames⟩ = some ⟨mode, frames⟩ := endNumber_of_settled hnumber
    rw [finish, hsettled, Option.bind_some] at h
    split at h
    · rename_i w hmode
      exact absurd hmode (hdone w)
    · cases h
  | cons c rest =>
    obtain ⟨r, hstep, hruns⟩ := runs_cons_eq_some.1 h
    exact ⟨c, rest, r, rfl, hstep, hruns⟩

/-! ## Blanks -/

/-- Blanks are passed over, up to what is none. -/
theorem exists_blanks {r : Reader} (h : r.IsBetween) (hruns : runs r cs = some v) :
    ∃ blanks rest, cs = blanks ++ rest ∧ Blanks blanks ∧
      (∀ c, rest.head? = some c → isSpace c = false) ∧ runs r rest = some v := by
  induction cs with
  | nil => exact ⟨[], [], rfl, nofun, nofun, hruns⟩
  | cons c cs ih =>
    rcases hc : isSpace c with _ | _
    · refine ⟨[], c :: cs, rfl, nofun, fun d hd => ?_, hruns⟩
      obtain rfl := Option.some.inj hd
      exact hc
    · obtain ⟨r', hstep, hruns⟩ := runs_cons_eq_some.1 hruns
      rw [step_space h hc] at hstep
      obtain rfl := Option.some.inj hstep
      obtain ⟨blanks, rest, rfl, hblanks, hrest, hruns⟩ := ih hruns
      exact ⟨c :: blanks, rest, rfl, List.forall_mem_cons.2 ⟨hc, hblanks⟩, hrest, hruns⟩

/-- After blanks there is a character that goes on, unless the value is read. -/
theorem exists_blanks_cons {mode : Mode} (h : IsBetween ⟨mode, frames⟩)
    (hmode : ∀ w, mode ≠ .done w) (hruns : runs ⟨mode, frames⟩ cs = some v) :
    ∃ blanks c rest r, cs = blanks ++ c :: rest ∧ Blanks blanks ∧ isSpace c = false ∧
      step ⟨mode, frames⟩ c = some r ∧ runs r rest = some v := by
  obtain ⟨blanks, rest, rfl, hblanks, hspace, hrest⟩ := exists_blanks h hruns
  obtain ⟨c, rest, r, rfl, hstep, hruns⟩ := exists_cons_of_runs hrest hmode h.settled
  exact ⟨blanks, c, rest, r, rfl, hblanks, hspace c rfl, hstep, hruns⟩

/-- After the value, there are blanks only. -/
theorem eq_of_runs_done {w : Json} (h : runs ⟨.done w, frames⟩ cs = some v) :
    Blanks cs ∧ w = v := by
  have hbetween : IsBetween ⟨.done w, frames⟩ := trivial
  obtain ⟨blanks, _ | ⟨c, rest⟩, rfl, hblanks, hspace, hrest⟩ := exists_blanks hbetween h
  · rw [List.append_nil]
    exact ⟨hblanks, Option.some.inj hrest⟩
  · obtain ⟨r, hstep, -⟩ := runs_cons_eq_some.1 hrest
    have hc := hspace c rfl
    simp [step, stepPlain, hc] at hstep

/-! ## Words and numbers -/

/-- The rest of a word is next in what is read, and then the value of the word is delivered. -/
theorem exists_of_runs_word {d : Char} {rest : List Char} {w : Json}
    (h : runs ⟨.word (d :: rest) w, frames⟩ cs = some v) :
    ∃ tail, cs = d :: rest ++ tail ∧ runs (deliver w frames) tail = some v := by
  induction rest generalizing d cs with
  | nil =>
    obtain ⟨c, cs, r, rfl, hstep, hruns⟩ := exists_cons_of_runs h (by simp) (by simp)
    simp only [step, stepPlain] at hstep
    split at hstep
    · rename_i hc
      obtain rfl := Option.some.inj hstep
      exact ⟨cs, congrArg (· :: cs) hc, hruns⟩
    · cases hstep
  | cons d' rest ih =>
    obtain ⟨c, cs, r, rfl, hstep, hruns⟩ := exists_cons_of_runs h (by simp) (by simp)
    simp only [step, stepPlain] at hstep
    split at hstep
    · rename_i hc
      obtain rfl := Option.some.inj hstep
      obtain ⟨tail, rfl, htail⟩ := ih hruns
      exact ⟨tail, congrArg (· :: _) hc, htail⟩
    · cases hstep

/-- The rest of a number is next in what is read, and then the number is delivered. -/
theorem exists_of_runs_number {chars : List Char}
    (h : runs ⟨.number chars, frames⟩ cs = some v) :
    ∃ body j tail, cs = body ++ tail ∧ readNumber (chars.reverse ++ body) = some j ∧
      runs (deliver j frames) tail = some v := by
  have hend {chars cs : List Char} {r : Reader} (hr : endNumber ⟨.number chars, frames⟩ = some r)
      (hruns : runs r cs = some v) :
      ∃ body j tail, cs = body ++ tail ∧ readNumber (chars.reverse ++ body) = some j ∧
        runs (deliver j frames) tail = some v := by
    obtain ⟨j, hj, rfl⟩ := Option.map_eq_some_iff.1 hr
    exact ⟨[], j, cs, rfl, (List.append_nil chars.reverse).symm ▸ hj, hruns⟩
  induction cs generalizing chars with
  | nil =>
    replace h : finish ⟨.number chars, frames⟩ = some v := h
    rw [finish_eq_bind_endNumber] at h
    obtain ⟨r, hr, hruns⟩ := Option.bind_eq_some_iff.1 h
    exact hend hr hruns
  | cons c cs ih =>
    obtain ⟨r, hstep, hruns⟩ := runs_cons_eq_some.1 h
    rcases hc : isNumberChar c with _ | _
    · rw [step_eq_bind_endNumber hc] at hstep
      obtain ⟨r', hr', hstep⟩ := Option.bind_eq_some_iff.1 hstep
      exact hend hr' (runs_cons_eq_some.2 ⟨r, hstep, hruns⟩)
    · simp only [step, hc, if_true] at hstep
      obtain rfl := Option.some.inj hstep
      obtain ⟨body, j, tail, rfl, hj, hruns⟩ := ih hruns
      rw [List.reverse_cons, List.append_assoc] at hj
      exact ⟨c :: body, j, tail, rfl, hj, hruns⟩

/-! ## Strings -/

section Strings

variable {keyOf : Option (List (String × Json))} {chars : List Char}

theorem exists_of_runs_hex {left unit : Nat} {high : Option Nat}
    (h : runs ⟨.text keyOf chars (.hex left unit high), frames⟩ cs = some v) :
    ∃ d rest digit next, cs = d :: rest ∧ hexValue d = some digit ∧
      (if left = 1 then takeUnit chars (16 * unit + digit) high
        else some (chars, .hex (left - 1) (16 * unit + digit) high)) = some next ∧
      runs ⟨.text keyOf next.1 next.2, frames⟩ rest = some v := by
  obtain ⟨d, rest, r, rfl, hstep, hruns⟩ := exists_cons_of_runs h nofun nofun
  obtain ⟨next, hnext, rfl⟩ := Option.map_eq_some_iff.1 hstep
  obtain ⟨digit, hdigit, htake⟩ := Option.bind_eq_some_iff.1 hnext
  exact ⟨d, rest, digit, next, rfl, hdigit, htake, hruns⟩

/-- Four digits are a code unit that the string takes. -/
theorem exists_of_runs_unit {high : Option Nat}
    (h : runs ⟨.text keyOf chars (.hex 4 0 high), frames⟩ cs = some v) :
    ∃ d₁ d₂ d₃ d₄ rest unit next, cs = d₁ :: d₂ :: d₃ :: d₄ :: rest ∧
      hexUnit d₁ d₂ d₃ d₄ = some unit ∧ takeUnit chars unit high = some next ∧
      runs ⟨.text keyOf next.1 next.2, frames⟩ rest = some v := by
  obtain ⟨d₁, _, v₁, _, rfl, h₁, hnext, hruns⟩ := exists_of_runs_hex h
  obtain rfl := Option.some.inj hnext
  obtain ⟨d₂, _, v₂, _, rfl, h₂, hnext, hruns⟩ := exists_of_runs_hex hruns
  obtain rfl := Option.some.inj hnext
  obtain ⟨d₃, _, v₃, _, rfl, h₃, hnext, hruns⟩ := exists_of_runs_hex hruns
  obtain rfl := Option.some.inj hnext
  obtain ⟨d₄, rest, v₄, next, rfl, h₄, htake, hruns⟩ := exists_of_runs_hex hruns
  refine ⟨d₁, d₂, d₃, d₄, rest, _, next, rfl, ?_, htake, hruns⟩
  simp [hexUnit, h₁, h₂, h₃, h₄]

/-- After a high surrogate, the low one of the pair comes. -/
theorem exists_of_runs_low {high : Nat}
    (h : runs ⟨.text keyOf chars (.low high), frames⟩ cs = some v) :
    ∃ d₁ d₂ d₃ d₄ rest low, cs = '\\' :: 'u' :: d₁ :: d₂ :: d₃ :: d₄ :: rest ∧
      hexUnit d₁ d₂ d₃ d₄ = some low ∧ isLowSurrogate low = true ∧
      runs ⟨.text keyOf
        (Char.ofNat (0x10000 + (high - 0xD800) * 0x400 + (low - 0xDC00)) :: chars) .plain,
        frames⟩ rest = some v := by
  obtain ⟨c, rest, r, rfl, hstep, hruns⟩ := exists_cons_of_runs h nofun nofun
  obtain ⟨next, hslash, rfl⟩ := Option.map_eq_some_iff.1 hstep
  obtain ⟨rfl, hnext⟩ := Option.ite_none_right_eq_some.1 hslash
  obtain rfl := Option.some.inj hnext
  obtain ⟨c, rest, r, rfl, hstep, hruns⟩ := exists_cons_of_runs hruns nofun nofun
  obtain ⟨next, hunicode, rfl⟩ := Option.map_eq_some_iff.1 hstep
  obtain ⟨rfl, hnext⟩ := Option.ite_none_right_eq_some.1 hunicode
  obtain rfl := Option.some.inj hnext
  obtain ⟨d₁, d₂, d₃, d₄, rest, low, next, rfl, hunit, htake, hruns⟩ := exists_of_runs_unit hruns
  obtain ⟨hlow, hnext⟩ := Option.ite_none_right_eq_some.1 htake
  obtain rfl := Option.some.inj hnext
  exact ⟨d₁, d₂, d₃, d₄, rest, low, rfl, hunit, hlow, hruns⟩

/-- What follows a backslash is an escape, and stands for one character. -/
theorem exists_of_runs_escape (h : runs ⟨.text keyOf chars .backslash, frames⟩ cs = some v) :
    ∃ escaped c rest, cs = escaped ++ rest ∧
      (∀ {body s : List Char}, SpellsString body s →
        SpellsString ('\\' :: (escaped ++ body)) (c :: s)) ∧
      runs ⟨.text keyOf (c :: chars) .plain, frames⟩ rest = some v := by
  obtain ⟨e, rest, r, rfl, hstep, hruns⟩ := exists_cons_of_runs h nofun nofun
  obtain ⟨next, hnext, rfl⟩ := Option.map_eq_some_iff.1 hstep
  simp only [stepText] at hnext
  split at hnext
  · rename_i hunicode
    subst hunicode
    obtain rfl := Option.some.inj hnext
    obtain ⟨d₁, d₂, d₃, d₄, rest, unit, next, rfl, hunit, htake, hruns⟩ :=
      exists_of_runs_unit hruns
    simp only [takeUnit] at htake
    split at htake
    · rename_i hhigh
      obtain rfl := Option.some.inj htake
      obtain ⟨e₁, e₂, e₃, e₄, rest, low, rfl, hunit', hlow, hruns⟩ := exists_of_runs_low hruns
      exact ⟨['u', d₁, d₂, d₃, d₄, '\\', 'u', e₁, e₂, e₃, e₄], _, rest, rfl,
        fun hbody => .pair hunit hhigh hunit' hlow hbody, hruns⟩
    · rename_i hhigh
      split at htake
      · cases htake
      · rename_i hlow
        obtain rfl := Option.some.inj htake
        exact ⟨['u', d₁, d₂, d₃, d₄], _, rest, rfl,
          fun hbody => .unit hunit (eq_false_of_ne_true hhigh) (eq_false_of_ne_true hlow) hbody,
          hruns⟩
  · obtain ⟨c, hc, rfl⟩ := Option.map_eq_some_iff.1 hnext
    exact ⟨[e], c, rest, rfl, fun hbody => .short hc hbody, hruns⟩

/-- Inside a string, the reader takes the rest of the string and its closing quote. -/
theorem exists_of_runs_text (h : runs ⟨.text keyOf chars .plain, frames⟩ cs = some v) :
    ∃ body s tail, cs = body ++ '"' :: tail ∧ SpellsString body s ∧
      runs (endText frames keyOf (s.reverse ++ chars)) tail = some v := by
  induction hlength : cs.length using Nat.strong_induction_on generalizing cs chars with
  | _ n ih =>
    obtain ⟨c, rest, r, rfl, hstep, hruns⟩ := exists_cons_of_runs h nofun nofun
    simp only [step, stepPlain] at hstep
    split at hstep
    · rename_i hquote
      obtain rfl := Option.some.inj hstep
      exact ⟨[], [], rest, congrArg (· :: rest) hquote, .nil, hruns⟩
    · rename_i hquote
      obtain ⟨⟨taken, escape⟩, hnext, rfl⟩ := Option.map_eq_some_iff.1 hstep
      simp only [stepText] at hnext
      split at hnext
      · rename_i hescape
        subst hescape
        obtain ⟨rfl, rfl⟩ := Prod.mk.inj (Option.some.inj hnext)
        obtain ⟨escaped, c, rest, rfl, hspells, hrest⟩ := exists_of_runs_escape hruns
        have hshorter : rest.length < n := by
          rw [← hlength, List.length_cons, List.length_append]
          omega
        obtain ⟨body, s, tail, rfl, hbody, htail⟩ := ih _ hshorter hrest rfl
        refine ⟨'\\' :: (escaped ++ body), c :: s, tail, by simp, hspells hbody, ?_⟩
        rwa [List.reverse_cons, List.append_assoc]
      · rename_i hescape
        split at hnext
        · cases hnext
        · rename_i hcontrol
          obtain ⟨rfl, rfl⟩ := Prod.mk.inj (Option.some.inj hnext)
          obtain ⟨body, s, tail, rfl, hbody, htail⟩ := ih _ (by simp [← hlength]) hruns rfl
          refine ⟨c :: body, c :: s, tail, rfl,
            .plain hquote hescape (Nat.not_lt.1 hcontrol) hbody, ?_⟩
          rwa [List.reverse_cons, List.append_assoc]

end Strings

/-! ## Values -/

/-- A value that begins here is taken off the text. -/
def ValueTaken (cs : List Char) : Prop :=
  ∀ {frames : List Frame} {v : Json}, frames.length ≤ depthLimit →
    runs ⟨.value, frames⟩ cs = some v →
    ∃ text j tail, cs = text ++ tail ∧ Spells text j ∧ frames.length + j.depth ≤ depthLimit ∧
      runs (deliver j.sorted frames) tail = some v

section Containers

variable {n : Nat} (hvalue : ∀ cs : List Char, cs.length < n → ValueTaken cs)

include hvalue

/-- The elements of a list after those that were read. -/
theorem exists_of_runs_items (hframes : frames.length < depthLimit) {items : List Json}
    (hcs : cs.length < n) (h : runs ⟨.afterItem items, frames⟩ cs = some v) :
    ∃ (rest : List (List Char × Json)) (blanks tail : List Char),
      cs = blanks ++ (moreAndClose (rest.map (·.1)) ']' ++ tail) ∧ Blanks blanks ∧
      (∀ item ∈ rest, Spells item.1 item.2) ∧
      frames.length + 1 + itemsDepth (rest.map (·.2)) ≤ depthLimit ∧
      runs (deliver (.arr (items.reverse ++ sortedItems (rest.map (·.2)))) frames) tail =
        some v := by
  have hbetween (items : List Json) : IsBetween ⟨.afterItem items, frames⟩ := trivial
  induction hlength : cs.length using Nat.strong_induction_on generalizing cs items with
  | _ m ih =>
    obtain ⟨blanks, c, rest, r, rfl, hblanks, hspace, hstep, hruns⟩ :=
      exists_blanks_cons (hbetween items) nofun h
    simp only [step, stepPlain, hspace] at hstep
    rw [List.length_append, List.length_cons] at hlength hcs
    split at hstep
    · cases ‹false = true›
    split at hstep
    · rename_i hcomma
      subst hcomma
      obtain rfl := Option.some.inj hstep
      have hopen : (Frame.list items :: frames).length ≤ depthLimit := hframes
      obtain ⟨text, j, tail, rfl, htext, hdepth, htail⟩ := hvalue rest (by omega) hopen hruns
      rw [List.length_append] at hlength hcs
      obtain ⟨rest, blanks', tail, rfl, hblanks', hrest, hdepth', htail⟩ :=
        ih tail.length (by omega) (by omega) htail rfl
      refine ⟨(text ++ blanks', j) :: rest, blanks, tail, ?_, hblanks,
        List.forall_mem_cons.2 ⟨htext.append_blanks hblanks', hrest⟩, ?_, ?_⟩
      · simp [moreAndClose_cons]
      · rw [List.length_cons] at hdepth
        simp only [List.map_cons, itemsDepth]
        omega
      · rwa [List.reverse_cons, List.append_assoc] at htail
    split at hstep
    · rename_i hclose
      subst hclose
      obtain rfl := Option.some.inj hstep
      refine ⟨[], blanks, rest, rfl, hblanks, List.forall_mem_nil _, hframes, ?_⟩
      rwa [List.map_nil, sortedItems, List.append_nil]
    · cases hstep

/-- A member of an object, after the quote that its key begins with. -/
theorem exists_of_runs_member (hframes : frames.length < depthLimit)
    {members : List (String × Json)} (hcs : cs.length < n)
    (h : runs ⟨.text (some members) [] .plain, frames⟩ cs = some v) :
    ∃ (keyText valueText tail : List Char) (key : String) (j : Json),
      cs = keyText ++ ':' :: (valueText ++ tail) ∧
      (∀ {blanks : List Char}, Blanks blanks → SpellsKey (blanks ++ '"' :: keyText) key) ∧
      Spells valueText j ∧ frames.length + 1 + j.depth ≤ depthLimit ∧
      runs ⟨.afterMember (insert key j.sorted members), frames⟩ tail = some v := by
  obtain ⟨body, s, afterKey, rfl, hbody, hkey⟩ := exists_of_runs_text h
  rw [List.append_nil, endText, List.reverse_reverse] at hkey
  have hbetween : IsBetween ⟨.colon members (String.ofList s), frames⟩ := trivial
  obtain ⟨after, c, rest, r, rfl, hafter, hspace, hstep, hruns⟩ :=
    exists_blanks_cons hbetween (by simp) hkey
  simp only [step, stepPlain, hspace] at hstep
  split at hstep
  · cases ‹false = true›
  split at hstep
  · rename_i hcolon
    subst hcolon
    obtain rfl := Option.some.inj hstep
    have hopen : (Frame.object members (String.ofList s) :: frames).length ≤ depthLimit := hframes
    have hshorter : rest.length < n := by
      simp only [List.length_append, List.length_cons] at hcs
      omega
    obtain ⟨valueText, j, tail, rfl, hj, hdepth, htail⟩ := hvalue rest hshorter hopen hruns
    refine ⟨body ++ '"' :: after, valueText, tail, String.ofList s, j, by simp,
      fun hblanks => .mk hblanks hafter hbody, hj, hdepth, htail⟩
  · cases hstep

/-- The members of an object after those that were read. -/
theorem exists_of_runs_members (hframes : frames.length < depthLimit)
    {members : List (String × Json)} (hcs : cs.length < n)
    (h : runs ⟨.afterMember members, frames⟩ cs = some v) :
    ∃ (rest : List MemberText) (blanks tail : List Char),
      cs = blanks ++ (moreAndClose (rest.map MemberText.chars) '\x7d' ++ tail) ∧ Blanks blanks ∧
      (∀ m ∈ rest, SpellsKey m.keyText m.key ∧ Spells m.valueText m.tree) ∧
      frames.length + 1 + membersDepth (rest.map MemberText.member) ≤ depthLimit ∧
      runs (deliver (.obj (sortedMembers members (rest.map MemberText.member))) frames) tail =
        some v := by
  have hbetween (members : List (String × Json)) : IsBetween ⟨.afterMember members, frames⟩ :=
    trivial
  have hbetween' (members : List (String × Json)) : IsBetween ⟨.key members, frames⟩ := trivial
  induction hlength : cs.length using Nat.strong_induction_on generalizing cs members with
  | _ m ih =>
    obtain ⟨blanks, c, rest, r, rfl, hblanks, hspace, hstep, hruns⟩ :=
      exists_blanks_cons (hbetween members) nofun h
    simp only [step, stepPlain, hspace] at hstep
    rw [List.length_append, List.length_cons] at hlength hcs
    split at hstep
    · cases ‹false = true›
    split at hstep
    · rename_i hcomma
      subst hcomma
      obtain rfl := Option.some.inj hstep
      obtain ⟨before, c, rest, r, rfl, hbefore, hspace, hstep, hruns⟩ :=
        exists_blanks_cons (hbetween' members) (by simp) hruns
      simp only [step, stepPlain, hspace] at hstep
      split at hstep
      · cases ‹false = true›
      split at hstep
      · rename_i hquote
        subst hquote
        obtain rfl := Option.some.inj hstep
        rw [List.length_append, List.length_cons] at hlength hcs
        obtain ⟨keyText, valueText, tail, key, j, rfl, hkey, hj, hdepth, htail⟩ :=
          exists_of_runs_member hvalue hframes (by omega) hruns
        simp only [List.length_append, List.length_cons] at hlength hcs
        obtain ⟨rest, blanks', tail, rfl, hblanks', hrest, hdepth', htail⟩ :=
          ih tail.length (by omega) (by omega) htail rfl
        refine ⟨⟨before ++ '"' :: keyText, valueText ++ blanks', key, j⟩ :: rest, blanks, tail,
          ?_, hblanks, List.forall_mem_cons.2
            ⟨⟨hkey hbefore, hj.append_blanks hblanks'⟩, hrest⟩, ?_, htail⟩
        · simp [moreAndClose_cons, MemberText.chars]
        · simp only [List.map_cons, MemberText.member, membersDepth] at hdepth' ⊢
          omega
      · cases hstep
    split at hstep
    · rename_i hclose
      subst hclose
      obtain rfl := Option.some.inj hstep
      exact ⟨[], blanks, rest, rfl, hblanks, List.forall_mem_nil _, hframes, hruns⟩
    · cases hstep

end Containers

/-- A list, after its opening bracket. -/
theorem exists_of_runs_listStart (hvalue : ∀ ds : List Char, ds.length ≤ cs.length → ValueTaken ds)
    (hframes : frames.length < depthLimit) (h : runs ⟨.listStart, frames⟩ cs = some v) :
    ∃ text j tail, cs = text ++ tail ∧ Spells ('[' :: text) j ∧
      frames.length + j.depth ≤ depthLimit ∧ runs (deliver j.sorted frames) tail = some v := by
  have hbetween : IsBetween ⟨.listStart, frames⟩ := trivial
  obtain ⟨blanks, c, rest, r, rfl, hblanks, hspace, hstep, hruns⟩ :=
    exists_blanks_cons hbetween nofun h
  by_cases hclose : c = ']'
  · subst hclose
    obtain rfl := Option.some.inj hstep
    exact ⟨blanks ++ [']'], .arr [], rest, by simp, .emptyList hblanks, hframes, hruns⟩
  · rw [step_listStart hspace hclose] at hstep
    have hopen : (Frame.list [] :: frames).length ≤ depthLimit := hframes
    have hfirst : runs ⟨.value, .list [] :: frames⟩ (c :: rest) = some v :=
      runs_cons_eq_some.2 ⟨r, hstep, hruns⟩
    rw [List.length_append] at hvalue
    obtain ⟨text, j, tail, hrest, hj, hdepth, htail⟩ := hvalue _ (by omega) hopen hfirst
    have hshorter : ∀ ds : List Char, ds.length < tail.length + 1 → ValueTaken ds := by
      intro ds hds
      refine hvalue ds ?_
      rw [hrest, List.length_append]
      omega
    obtain ⟨items, blanks', tail, rfl, hblanks', hitems, hdepth', htail⟩ :=
      exists_of_runs_items hshorter hframes (Nat.lt_succ_self _) htail
    have hspells := @Spells.list (blanks ++ (text ++ blanks'), j) items
      (List.forall_mem_cons.2 ⟨.blanks hblanks hblanks' hj, hitems⟩)
    refine ⟨_, _, tail, ?_, hspells, ?_, htail⟩
    · simp [hrest]
    · rw [List.length_cons] at hdepth
      simp only [List.map_cons, Json.depth, itemsDepth]
      omega

/-- An object, after its opening brace. -/
theorem exists_of_runs_objectStart
    (hvalue : ∀ ds : List Char, ds.length ≤ cs.length → ValueTaken ds)
    (hframes : frames.length < depthLimit) (h : runs ⟨.objectStart, frames⟩ cs = some v) :
    ∃ text j tail, cs = text ++ tail ∧ Spells ('\x7b' :: text) j ∧
      frames.length + j.depth ≤ depthLimit ∧ runs (deliver j.sorted frames) tail = some v := by
  have hbetween : IsBetween ⟨.objectStart, frames⟩ := trivial
  obtain ⟨blanks, c, rest, r, rfl, hblanks, hspace, hstep, hruns⟩ :=
    exists_blanks_cons hbetween nofun h
  simp only [step, stepPlain, hspace] at hstep
  split at hstep
  · cases ‹false = true›
  split at hstep
  · rename_i hclose
    subst hclose
    obtain rfl := Option.some.inj hstep
    exact ⟨blanks ++ ['\x7d'], .obj [], rest, by simp, .emptyObject hblanks, hframes, hruns⟩
  split at hstep
  · rename_i hquote
    subst hquote
    obtain rfl := Option.some.inj hstep
    rw [List.length_append, List.length_cons] at hvalue
    have hshorter : ∀ ds : List Char, ds.length < rest.length + 1 → ValueTaken ds :=
      fun ds hds => hvalue ds (by omega)
    obtain ⟨keyText, valueText, tail, key, j, rfl, hkey, hj, hdepth, htail⟩ :=
      exists_of_runs_member hshorter hframes (Nat.lt_succ_self _) hruns
    have hlength : tail.length < (keyText ++ ':' :: (valueText ++ tail)).length + 1 := by
      simp only [List.length_append, List.length_cons]
      omega
    obtain ⟨ms, blanks', tail, rfl, hblanks', hms, hdepth', htail⟩ :=
      exists_of_runs_members hshorter hframes hlength htail
    let first : MemberText := ⟨blanks ++ '"' :: keyText, valueText ++ blanks', key, j⟩
    have hfirst : SpellsKey first.keyText first.key ∧ Spells first.valueText first.tree :=
      ⟨hkey hblanks, hj.append_blanks hblanks'⟩
    have hall : ∀ m ∈ first :: ms, SpellsKey m.keyText m.key ∧ Spells m.valueText m.tree :=
      List.forall_mem_cons.2 ⟨hfirst, hms⟩
    have hspells := Spells.object (fun m hm => (hall m hm).1) fun m hm => (hall m hm).2
    refine ⟨_, _, tail, ?_, hspells, ?_, htail⟩
    · simp [first, MemberText.chars]
    · simp only [first, List.map_cons, MemberText.member, Json.depth, membersDepth] at hdepth' ⊢
      omega
  · cases hstep

/-- **A value that is read spells a tree**, and what is read is the value of the tree. -/
theorem valueTaken (cs : List Char) : ValueTaken cs := by
  induction hlength : cs.length using Nat.strong_induction_on generalizing cs with
  | _ n ih =>
    intro frames v hframes h
    have hbetween : IsBetween ⟨.value, frames⟩ := trivial
    obtain ⟨blanks, c, rest, r, rfl, hblanks, hspace, hstep, hruns⟩ :=
      exists_blanks_cons hbetween nofun h
    rw [List.length_append, List.length_cons] at hlength
    have hshorter : ∀ ds : List Char, ds.length ≤ rest.length → ValueTaken ds :=
      fun ds hds => ih ds.length (by omega) ds rfl
    obtain ⟨text, j, tail, rfl, hj, hdepth, htail⟩ : ∃ text j tail, rest = text ++ tail ∧
        Spells (c :: text) j ∧ frames.length + j.depth ≤ depthLimit ∧
        runs (deliver j.sorted frames) tail = some v := by
      simp only [step, stepPlain, hspace] at hstep
      split at hstep
      · cases ‹false = true›
      unfold startValue at hstep
      split at hstep
      · obtain rfl := Option.some.inj hstep
        obtain ⟨body, s, tail, rfl, hbody, htail⟩ := exists_of_runs_text hruns
        rw [List.append_nil, endText, List.reverse_reverse] at htail
        exact ⟨body ++ ['"'], .str (String.ofList s), tail, by simp, .string hbody, hframes, htail⟩
      · obtain ⟨hopen, hr⟩ := Option.ite_none_right_eq_some.1 hstep
        obtain rfl := Option.some.inj hr
        exact exists_of_runs_listStart hshorter hopen hruns
      · obtain ⟨hopen, hr⟩ := Option.ite_none_right_eq_some.1 hstep
        obtain rfl := Option.some.inj hr
        exact exists_of_runs_objectStart hshorter hopen hruns
      · obtain rfl := Option.some.inj hstep
        obtain ⟨tail, rfl, htail⟩ := exists_of_runs_word hruns
        exact ⟨['r', 'u', 'e'], .bool true, tail, rfl, .true, hframes, htail⟩
      · obtain rfl := Option.some.inj hstep
        obtain ⟨tail, rfl, htail⟩ := exists_of_runs_word hruns
        exact ⟨['a', 'l', 's', 'e'], .bool false, tail, rfl, .false, hframes, htail⟩
      · obtain rfl := Option.some.inj hstep
        obtain ⟨tail, rfl, htail⟩ := exists_of_runs_word hruns
        exact ⟨['u', 'l', 'l'], .null, tail, rfl, .null, hframes, htail⟩
      · obtain ⟨-, hr⟩ := Option.ite_none_right_eq_some.1 hstep
        obtain rfl := Option.some.inj hr
        obtain ⟨body, j, tail, rfl, hj, htail⟩ := exists_of_runs_number hruns
        obtain ⟨hsorted, hdepth⟩ := sorted_of_readNumber hj
        refine ⟨body, j, tail, rfl, .number hj, ?_, hsorted.symm ▸ htail⟩
        rwa [hdepth]
    refine ⟨blanks ++ (c :: text), j, tail, by simp, ?_, hdepth, htail⟩
    have hspells := Spells.blanks hblanks (List.forall_mem_nil _) hj
    rwa [List.append_nil] at hspells

end Reader

/-! ## Documents -/

/-- **What is read** is the value of a tree that the text spells, if the tree does not nest too many
containers. -/
theorem readChars_eq_some_iff {cs : List Char} {v : Json} :
    readChars cs = some v ↔ ∃ j, Spells cs j ∧ j.depth ≤ depthLimit ∧ j.sorted = v := by
  constructor
  · intro h
    obtain ⟨text, j, tail, rfl, hj, hdepth, htail⟩ := Reader.valueTaken cs (Nat.zero_le _) h
    obtain ⟨hblanks, hv⟩ := Reader.eq_of_runs_done htail
    rw [List.length_nil, Nat.zero_add] at hdepth
    exact ⟨j, hj.append_blanks hblanks, hdepth, hv⟩
  · rintro ⟨j, hj, hdepth, rfl⟩
    rw [readChars_of_spells hj, if_pos hdepth]

end AbiTypings.Json
