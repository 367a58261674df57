import AbiTypings.Proofs.JsonTexts
import AbiTypings.Proofs.Numerals

/-!
# Reading JSON texts

The reader is followed through a text, part by part.  A number ends only at the character after it,
so what is followed is the reader to which that has already happened (`reads`); a text can then be
taken apart wherever no number is torn (`reads_append`).

* **Parts** — `reads_blanks`, `reads_string`, `reads_number`: what the reader does on the parts that
  are no containers.
* **Values** — `isRead_of_spells`: the text of a tree is read as the value of the tree, wherever it
  stands, unless this nests more containers than the reader allows.
* **Documents** — `readChars_of_spells`: the same for whole texts.
-/

namespace AbiTypings.Json

namespace Reader

/-! ## Following the reader -/

/-- The reader after a text at whose end a number ends. -/
def reads (cs : List Char) (reader : Reader) : Option Reader :=
  (cs.foldlM step reader).bind endNumber

/-- The reader is not in the middle of a number. -/
def Settled (reader : Reader) : Prop :=
  ∀ chars, reader.mode ≠ .number chars

theorem settled_deliver (value : Json) (frames : List Frame) : (deliver value frames).Settled := by
  intro chars
  rcases frames with _ | ⟨_ | _, frames⟩ <;> simp [deliver]

theorem endNumber_of_settled {r : Reader} (h : r.Settled) : endNumber r = some r := by
  unfold endNumber
  split
  · rename_i chars hmode
    exact absurd hmode (h chars)
  · rfl

theorem settled_of_endNumber {r t : Reader} (h : endNumber r = some t) : t.Settled := by
  unfold endNumber at h
  split at h
  · obtain ⟨value, -, rfl⟩ := Option.map_eq_some_iff.1 h
    exact settled_deliver value _
  · rename_i hmode
    obtain rfl := Option.some.inj h
    exact hmode

theorem step_of_settled {r : Reader} (h : r.Settled) (c : Char) :
    step r c = stepPlain r.mode r.frames c := by
  unfold step
  split
  · rename_i chars hmode
    exact absurd hmode (h chars)
  · rfl

/-- A number ends at a character that no number contains. -/
theorem step_eq_bind_endNumber {c : Char} (hc : isNumberChar c = false) (r : Reader) :
    step r c = (endNumber r).bind (step · c) := by
  rcases hend : endNumber r with _ | t
  · unfold step
    split
    · rw [hc, hend]
      rfl
    · rename_i hmode
      rw [endNumber_of_settled hmode] at hend
      cases hend
  · have ht := settled_of_endNumber hend
    rw [Option.bind_some, step_of_settled ht]
    unfold step
    split
    · rw [hc, hend]
      rfl
    · rename_i hmode
      rw [endNumber_of_settled hmode] at hend
      obtain rfl := Option.some.inj hend
      rfl

theorem reads_nil (r : Reader) : reads [] r = endNumber r := rfl

/-- What is read after a character is read by the reader that has taken it. -/
theorem reads_cons (c : Char) (cs : List Char) (r : Reader) :
    reads (c :: cs) r = (step r c).bind (reads cs) := by
  unfold reads
  rw [List.foldlM_cons, Option.bind_eq_bind, Option.bind_assoc]

/-- A text can be read in two parts where no number is torn apart. -/
theorem reads_append {cs ds : List Char} (h : ∀ c, ds.head? = some c → isNumberChar c = false)
    (r : Reader) : reads (cs ++ ds) r = (reads cs r).bind (reads ds) := by
  induction cs generalizing r with
  | nil =>
    rw [List.nil_append, reads_nil]
    cases ds with
    | nil =>
      rw [reads_nil]
      rcases hend : endNumber r with _ | t
      · rfl
      · exact (endNumber_of_settled (settled_of_endNumber hend)).symm
    | cons d ds =>
      rw [reads_cons, step_eq_bind_endNumber (h d rfl), Option.bind_assoc]
      rcases endNumber r with _ | t
      · rfl
      · exact (reads_cons d ds t).symm
  | cons c cs ih =>
    rw [List.cons_append, reads_cons, reads_cons, Option.bind_assoc]
    rcases step r c with _ | r'
    · rfl
    · exact ih r'

/-! ## Blanks, words and strings -/

/-- Blanks may stand here. -/
def IsBetween (reader : Reader) : Prop :=
  match reader.mode with
  | .text .. | .number _ | .word .. => False
  | _ => True

theorem isBetween_deliver (value : Json) (frames : List Frame) :
    (deliver value frames).IsBetween := by
  rcases frames with _ | ⟨_ | _, frames⟩ <;> trivial

theorem IsBetween.settled {r : Reader} (h : r.IsBetween) : r.Settled := by
  intro chars hmode
  unfold IsBetween at h
  rw [hmode] at h
  exact h

theorem step_space {r : Reader} (h : r.IsBetween) {c : Char} (hc : isSpace c) :
    step r c = some r := by
  rw [step_of_settled h.settled]
  obtain ⟨mode, frames⟩ := r
  cases mode <;> first | exact h.elim | simp [stepPlain, hc]

/-- Blanks are passed over. -/
theorem reads_blanks {r : Reader} (h : r.IsBetween) {blanks : List Char}
    (hblanks : Blanks blanks) (ds : List Char) : reads (blanks ++ ds) r = reads ds r := by
  induction blanks with
  | nil => rfl
  | cons c blanks ih =>
    rw [List.cons_append, reads_cons, step_space h (hblanks c List.mem_cons_self), Option.bind_some]
    exact ih fun d hd => hblanks d (List.mem_cons_of_mem c hd)

theorem isNumberChar_of_isSpace {c : Char} (h : isSpace c) : isNumberChar c = false := by
  unfold isSpace at h
  simp only [Bool.or_eq_true, beq_iff_eq] at h
  rcases h with ((rfl | rfl) | rfl) | rfl <;> decide

theorem reads_null (frames : List Frame) :
    reads "null".toList ⟨.value, frames⟩ = some (deliver .null frames) :=
  endNumber_of_settled (settled_deliver .null frames)

theorem reads_true (frames : List Frame) :
    reads "true".toList ⟨.value, frames⟩ = some (deliver (.bool true) frames) :=
  endNumber_of_settled (settled_deliver (.bool true) frames)

theorem reads_false (frames : List Frame) :
    reads "false".toList ⟨.value, frames⟩ = some (deliver (.bool false) frames) :=
  endNumber_of_settled (settled_deliver (.bool false) frames)

section Strings

variable (keyOf : Option (List (String × Json))) (chars : List Char) (frames : List Frame)

/-- A digit of a code unit is added to it, if more are to come. -/
theorem step_hexDigit {d : Char} {value left : Nat} (h : hexValue d = some value) (hleft : left ≠ 1)
    (unit : Nat) (high : Option Nat) :
    step ⟨.text keyOf chars (.hex left unit high), frames⟩ d =
      some ⟨.text keyOf chars (.hex (left - 1) (16 * unit + value) high), frames⟩ := by
  simp [step, stepPlain, stepText, h, hleft]

/-- With its last digit, a code unit is taken. -/
theorem step_lastHexDigit {d : Char} {value : Nat} (h : hexValue d = some value) (unit : Nat)
    (high : Option Nat) :
    step ⟨.text keyOf chars (.hex 1 unit high), frames⟩ d =
      (takeUnit chars (16 * unit + value) high).map fun taken =>
        ⟨.text keyOf taken.1 taken.2, frames⟩ := by
  simp [step, stepPlain, stepText, h]

/-- Four digits are read as a code unit, which the string takes or refuses. -/
theorem reads_hexUnit {d₁ d₂ d₃ d₄ : Char} {unit : Nat} (h : hexUnit d₁ d₂ d₃ d₄ = some unit)
    (high : Option Nat) (ds : List Char) :
    reads (d₁ :: d₂ :: d₃ :: d₄ :: ds) ⟨.text keyOf chars (.hex 4 0 high), frames⟩ =
      (takeUnit chars unit high).bind fun taken =>
        reads ds ⟨.text keyOf taken.1 taken.2, frames⟩ := by
  unfold hexUnit at h
  simp only [Option.bind_eq_bind, Option.bind_eq_some_iff] at h
  obtain ⟨v₁, h₁, v₂, h₂, v₃, h₃, v₄, h₄, hunit⟩ := h
  obtain rfl := Option.some.inj hunit
  rw [reads_cons, step_hexDigit _ _ _ h₁ (by decide), Option.bind_some, reads_cons,
    step_hexDigit _ _ _ h₂ (by decide), Option.bind_some, reads_cons,
    step_hexDigit _ _ _ h₃ (by decide), Option.bind_some, reads_cons, step_lastHexDigit _ _ _ h₄,
    Option.bind_map, Nat.mul_zero, Nat.zero_add]
  rfl

/-- A backslash, a letter and four digits are read as a code unit. -/
theorem reads_unit {d₁ d₂ d₃ d₄ : Char} {unit : Nat} (h : hexUnit d₁ d₂ d₃ d₄ = some unit)
    (ds : List Char) :
    reads ('\\' :: 'u' :: d₁ :: d₂ :: d₃ :: d₄ :: ds) ⟨.text keyOf chars .plain, frames⟩ =
      (takeUnit chars unit none).bind fun taken =>
        reads ds ⟨.text keyOf taken.1 taken.2, frames⟩ := by
  have hslash : step ⟨.text keyOf chars .plain, frames⟩ '\\' =
    some ⟨.text keyOf chars .backslash, frames⟩ := rfl
  have hunicode : step ⟨.text keyOf chars .backslash, frames⟩ 'u' =
    some ⟨.text keyOf chars (.hex 4 0 none), frames⟩ := rfl
  rw [reads_cons, hslash, Option.bind_some, reads_cons, hunicode, Option.bind_some,
    reads_hexUnit _ _ _ h]

/-- The same after a high surrogate. -/
theorem reads_lowUnit {d₁ d₂ d₃ d₄ : Char} {unit : Nat} (h : hexUnit d₁ d₂ d₃ d₄ = some unit)
    (high : Nat) (ds : List Char) :
    reads ('\\' :: 'u' :: d₁ :: d₂ :: d₃ :: d₄ :: ds)
        ⟨.text keyOf chars (.low high), frames⟩ =
      (takeUnit chars unit (some high)).bind fun taken =>
        reads ds ⟨.text keyOf taken.1 taken.2, frames⟩ := by
  have hslash : step ⟨.text keyOf chars (.low high), frames⟩ '\\' =
    some ⟨.text keyOf chars (.lowUnit high), frames⟩ := rfl
  have hunicode : step ⟨.text keyOf chars (.lowUnit high), frames⟩ 'u' =
    some ⟨.text keyOf chars (.hex 4 0 (some high)), frames⟩ := rfl
  rw [reads_cons, hslash, Option.bind_some, reads_cons, hunicode, Option.bind_some,
    reads_hexUnit _ _ _ h]

/-- A character that is neither quote, backslash nor control stands for itself. -/
theorem reads_plain {c : Char} (hquote : c ≠ '"') (hescape : c ≠ '\\')
    (hcontrol : 0x20 ≤ c.toNat) (ds : List Char) :
    reads (c :: ds) ⟨.text keyOf chars .plain, frames⟩ =
      reads ds ⟨.text keyOf (c :: chars) .plain, frames⟩ := by
  have hstep : step ⟨.text keyOf chars .plain, frames⟩ c =
      some ⟨.text keyOf (c :: chars) .plain, frames⟩ := by
    simp [step, stepPlain, stepText, hquote, hescape, Nat.not_lt.2 hcontrol]
  rw [reads_cons, hstep, Option.bind_some]

theorem ne_unicode_of_shortEscape {e c : Char} (h : shortEscape e = some c) : e ≠ 'u' := by
  rintro rfl
  cases h

/-- A short escape stands for its character. -/
theorem reads_short {e c : Char} (h : shortEscape e = some c) (ds : List Char) :
    reads ('\\' :: e :: ds) ⟨.text keyOf chars .plain, frames⟩ =
      reads ds ⟨.text keyOf (c :: chars) .plain, frames⟩ := by
  have hslash : step ⟨.text keyOf chars .plain, frames⟩ '\\' =
    some ⟨.text keyOf chars .backslash, frames⟩ := rfl
  have hstep : step ⟨.text keyOf chars .backslash, frames⟩ e =
      some ⟨.text keyOf (c :: chars) .plain, frames⟩ := by
    simp [step, stepPlain, stepText, ne_unicode_of_shortEscape h, h]
  rw [reads_cons, hslash, Option.bind_some, reads_cons, hstep, Option.bind_some]

/-- The inside of a string is read as the string that it spells. -/
theorem reads_string {cs s : List Char} (h : SpellsString cs s) (ds : List Char) :
    reads (cs ++ ds) ⟨.text keyOf chars .plain, frames⟩ =
      reads ds ⟨.text keyOf (s.reverse ++ chars) .plain, frames⟩ := by
  induction h generalizing chars with
  | nil => rfl
  | plain hquote hescape hcontrol rest ih =>
    rw [List.cons_append, reads_plain _ _ _ hquote hescape hcontrol, ih]
    simp
  | short h rest ih =>
    simp only [List.cons_append]
    rw [reads_short _ _ _ h, ih]
    simp
  | @unit d₁ d₂ d₃ d₄ unit cs s h hhigh hlow rest ih =>
    have htake : takeUnit chars unit none = some (Char.ofNat unit :: chars, .plain) := by
      simp [takeUnit, hhigh, hlow]
    simp only [List.cons_append]
    rw [reads_unit _ _ _ h, htake, Option.bind_some, ih]
    simp
  | @pair d₁ d₂ d₃ d₄ e₁ e₂ e₃ e₄ high low cs s h hhigh h' hlow rest ih =>
    have htake : takeUnit chars high none = some (chars, .low high) := by
      simp [takeUnit, hhigh]
    have htake' : takeUnit chars low (some high) =
        some (Char.ofNat (0x10000 + (high - 0xD800) * 0x400 + (low - 0xDC00)) :: chars,
          .plain) := by
      simp [takeUnit, hlow]
    simp only [List.cons_append]
    rw [reads_unit _ _ _ h, htake, Option.bind_some, reads_lowUnit _ _ _ h', htake',
      Option.bind_some, ih]
    simp

/-- A string ends at its second quote. -/
theorem reads_quoted {cs s : List Char} (h : SpellsString cs s) (ds : List Char) :
    reads (cs ++ '"' :: ds) ⟨.text keyOf [] .plain, frames⟩ =
      reads ds (endText frames keyOf s.reverse) := by
  rw [reads_string keyOf [] frames h, List.append_nil, reads_cons]
  rfl

end Strings

/-! ## Numbers -/

theorem isNumberChar_of_isDigit {c : Char} (h : c.isDigit) : isNumberChar c := by
  simp [isNumberChar, h]

/-- Digits and what stands after them are made of the characters of numbers if the latter is. -/
theorem isNumberChar_of_spanDigits {cs : List Char}
    (h : ∀ c ∈ (spanDigits cs).2, isNumberChar c) : ∀ c ∈ cs, isNumberChar c := by
  intro c hc
  rw [← List.takeWhile_append_dropWhile (p := Char.isDigit) (l := cs), List.mem_append] at hc
  rcases hc with hc | hc
  · exact isNumberChar_of_isDigit (allDigits_takeWhile cs c hc)
  · exact h c hc

theorem isNumberChar_of_readExponentDigits {cs : List Char} {n : Nat}
    (h : readExponentDigits cs = some n) : ∀ c ∈ cs, isNumberChar c := by
  unfold readExponentDigits at h
  split at h
  · cases h
  · rename_i hdigits
    simp only [Bool.or_eq_true, Bool.not_eq_true', not_or, Bool.not_eq_false, List.all_eq_true]
      at hdigits
    exact fun c hc => isNumberChar_of_isDigit (hdigits.2 c hc)

theorem isNumberChar_of_readExponent {cs : List Char} {e : Option Int}
    (h : readExponent cs = some e) : ∀ c ∈ cs, isNumberChar c := by
  unfold readExponent at h
  split at h
  · simp
  · rename_i c cs
    split at h
    · rename_i hletter
      have hc : isNumberChar c := by
        rcases hletter with rfl | rfl <;> decide
      split at h
      all_goals
        obtain ⟨_, hn, -⟩ := Option.map_eq_some_iff.1 h
        obtain ⟨n, hdigits, -⟩ := Option.bind_eq_some_iff.1 hn
        replace hdigits := isNumberChar_of_readExponentDigits hdigits
        simp only [List.forall_mem_cons]
      · exact ⟨hc, by decide, hdigits⟩
      · exact ⟨hc, by decide, hdigits⟩
      · exact ⟨hc, hdigits⟩
    · cases h

theorem isNumberChar_of_readFraction {cs digits rest : List Char}
    (h : readFraction cs = some (digits, rest)) (hrest : ∀ c ∈ rest, isNumberChar c) :
    ∀ c ∈ cs, isNumberChar c := by
  unfold readFraction at h
  split at h
  · dsimp only at h
    split at h
    · cases h
    · obtain ⟨-, rfl⟩ := Prod.mk.inj (Option.some.inj h)
      exact List.forall_mem_cons.2 ⟨by decide, isNumberChar_of_spanDigits hrest⟩
  · obtain ⟨-, rfl⟩ := Prod.mk.inj (Option.some.inj h)
    exact hrest

/-- A number begins with a digit and has only characters of numbers. -/
theorem isNumberChar_of_readUnsigned {cs : List Char} {negative : Bool} {n : NumberText}
    (h : readUnsigned negative cs = some n) :
    (∃ c rest, cs = c :: rest ∧ c.isDigit) ∧ ∀ c ∈ cs, isNumberChar c := by
  unfold readUnsigned at h
  dsimp only at h
  split at h
  · rename_i hwhole
    obtain ⟨⟨digits, rest⟩, hfraction, h⟩ := Option.bind_eq_some_iff.1 h
    obtain ⟨e, hexponent, -⟩ := Option.map_eq_some_iff.1 h
    refine ⟨?_, isNumberChar_of_spanDigits
      (isNumberChar_of_readFraction hfraction (isNumberChar_of_readExponent hexponent))⟩
    cases cs with
    | nil => cases hwhole
    | cons c cs =>
      refine ⟨c, cs, rfl, ?_⟩
      by_contra hc
      simp [spanDigits, hc, isWholePart] at hwhole
  · cases h

/-- A number is made of the characters of numbers, and begins with a sign or a digit. -/
theorem isNumberChar_of_readNumberText {cs : List Char} {n : NumberText}
    (h : readNumberText cs = some n) :
    (∃ c rest, cs = c :: rest ∧ (c = '-' ∨ c.isDigit)) ∧ ∀ c ∈ cs, isNumberChar c := by
  unfold readNumberText at h
  split at h
  · exact ⟨⟨_, _, rfl, .inl rfl⟩,
      List.forall_mem_cons.2 ⟨by decide, (isNumberChar_of_readUnsigned h).2⟩⟩
  · obtain ⟨⟨c, rest, rfl, hc⟩, hall⟩ := isNumberChar_of_readUnsigned h
    exact ⟨⟨c, rest, rfl, .inr hc⟩, hall⟩

/-- The value of a number is no container. -/
theorem sorted_of_readNumber {cs : List Char} {j : Json} (h : readNumber cs = some j) :
    j.sorted = j ∧ j.depth = 0 := by
  obtain ⟨n, -, hvalue⟩ := Option.bind_eq_some_iff.1 h
  have hreal (negative : Bool) (magnitude : Option Magnitude)
      (h : magnitude.map (fun magnitude => Json.real ⟨negative, magnitude⟩) = some j) :
      j.sorted = j ∧ j.depth = 0 := by
    obtain ⟨magnitude, -, rfl⟩ := Option.map_eq_some_iff.1 h
    exact ⟨rfl, rfl⟩
  unfold NumberText.value at hvalue
  dsimp only at hvalue
  split at hvalue
  · split at hvalue
    · obtain rfl := Option.some.inj hvalue
      exact ⟨rfl, rfl⟩
    · split at hvalue
      · obtain rfl := Option.some.inj hvalue
        exact ⟨rfl, rfl⟩
      · exact hreal _ _ hvalue
  · exact hreal _ _ hvalue

/-- Characters of numbers are gathered until another comes. -/
theorem foldlM_number {cs : List Char} (h : ∀ c ∈ cs, isNumberChar c) (chars : List Char)
    (frames : List Frame) :
    cs.foldlM step ⟨.number chars, frames⟩ = some ⟨.number (cs.reverse ++ chars), frames⟩ := by
  induction cs generalizing chars with
  | nil => rfl
  | cons c cs ih =>
    rw [List.forall_mem_cons] at h
    have hstep : step ⟨.number chars, frames⟩ c = some ⟨.number (c :: chars), frames⟩ := by
      simp [step, h.1]
    rw [List.foldlM_cons, hstep, Option.bind_eq_bind, Option.bind_some, ih h.2]
    simp

/-- A number is read to its end, where its value decides. -/
theorem reads_number {cs : List Char} {n : NumberText} (h : readNumberText cs = some n)
    (frames : List Frame) :
    reads cs ⟨.value, frames⟩ = (readNumber cs).map (deliver · frames) := by
  obtain ⟨⟨c, rest, rfl, hc⟩, hall⟩ := isNumberChar_of_readNumberText h
  have hfirst : c == '-' || c.isDigit := by simpa using hc
  have hne (d : Char) (hd : (d == '-' || d.isDigit) = false) : c ≠ d := by
    rintro rfl
    simp [hd] at hfirst
  have hstep : step ⟨.value, frames⟩ c = some ⟨.number [c], frames⟩ := by
    have hspace : isSpace c = false := by
      simp [isSpace, hne ' ' (by decide), hne '\t' (by decide), hne '\n' (by decide),
        hne '\r' (by decide)]
    have hstart : startValue frames c = some ⟨.number [c], frames⟩ := by
      unfold startValue
      split
      · exact absurd rfl (hne '"' (by decide))
      · exact absurd rfl (hne '[' (by decide))
      · exact absurd rfl (hne '\x7b' (by decide))
      · exact absurd rfl (hne 't' (by decide))
      · exact absurd rfl (hne 'f' (by decide))
      · exact absurd rfl (hne 'n' (by decide))
      · rw [if_pos hfirst]
    simp [step, stepPlain, hspace, hstart]
  rw [List.forall_mem_cons] at hall
  rw [reads_cons, hstep, Option.bind_some, reads, foldlM_number hall.2]
  simp [endNumber]

/-! ## Containers -/

/-- At the start of a list, a value is read like an element of it. -/
theorem step_listStart {c : Char} (hspace : isSpace c = false) (hend : c ≠ ']')
    (frames : List Frame) :
    step ⟨.listStart, frames⟩ c = step ⟨.value, .list [] :: frames⟩ c := by
  simp [step, stepPlain, hspace, hend]

theorem reads_listStart_blanks {before cs : List Char} {frames : List Frame}
    (hbefore : Blanks before)
    (h : reads cs ⟨.listStart, frames⟩ = reads cs ⟨.value, .list [] :: frames⟩) :
    reads (before ++ cs) ⟨.listStart, frames⟩ =
      reads (before ++ cs) ⟨.value, .list [] :: frames⟩ := by
  have hstart : IsBetween ⟨.listStart, frames⟩ := trivial
  have hvalue : IsBetween ⟨.value, .list [] :: frames⟩ := trivial
  rw [reads_blanks hstart hbefore, reads_blanks hvalue hbefore, h]

/-- After an opening bracket, a value is read as the first element. -/
theorem reads_listStart {cs : List Char} (h : IsText cs) (frames : List Frame) (ds : List Char) :
    reads (cs ++ ds) ⟨.listStart, frames⟩ = reads (cs ++ ds) ⟨.value, .list [] :: frames⟩ := by
  have hcons {c : Char} (cs : List Char) (hspace : isSpace c = false) (hend : c ≠ ']') :
      reads (c :: cs) ⟨.listStart, frames⟩ = reads (c :: cs) ⟨.value, .list [] :: frames⟩ := by
    rw [reads_cons, reads_cons, step_listStart hspace hend]
  induction h generalizing ds with
  | null | true | false => rfl
  | string | emptyObject | object => exact hcons _ (by decide) (by decide)
  | @number cs n h =>
    obtain ⟨⟨c, rest, rfl, hc⟩, hall⟩ := isNumberChar_of_readNumberText h
    have hnumber : isNumberChar c := hall c List.mem_cons_self
    refine hcons _ ?_ ?_
    · rw [← Bool.not_eq_true]
      intro hspace
      rw [isNumberChar_of_isSpace hspace] at hnumber
      cases hnumber
    · rintro rfl
      exact absurd hnumber (by decide)
  | list h hitems hread =>
    clear hitems hread
    induction h generalizing ds with
    | empty | items => exact hcons _ (by decide) (by decide)
    | @blanks before cs after texts hbefore hafter h ih =>
      rw [List.append_assoc, List.append_assoc]
      exact reads_listStart_blanks hbefore (ih (after ++ ds))
  | @blanks before cs after hbefore hafter h ih =>
    rw [List.append_assoc, List.append_assoc]
    exact reads_listStart_blanks hbefore (ih (after ++ ds))

/-- The text of a tree is read as its value, unless containers are nested too deep. -/
def IsRead (cs : List Char) (j : Json) : Prop :=
  ∀ frames : List Frame, frames.length ≤ depthLimit →
    reads cs ⟨.value, frames⟩ =
      if frames.length + j.depth ≤ depthLimit then some (deliver j.sorted frames) else none

/-- To be read, a value that is no container only has to be delivered. -/
theorem isRead_of_scalar {cs : List Char} {j : Json} (hsorted : j.sorted = j) (hdepth : j.depth = 0)
    (h : ∀ frames, reads cs ⟨.value, frames⟩ = some (deliver j frames)) : IsRead cs j := by
  intro frames hframes
  rw [h, hsorted, hdepth, Nat.add_zero, if_pos hframes]

theorem moreAndClose_cons (text : List Char) (texts : List (List Char)) (close : Char) :
    moreAndClose (text :: texts) close = ',' :: (text ++ moreAndClose texts close) := by
  simp [moreAndClose]

/-- Where a list goes on or ends, no number is torn apart. -/
theorem not_isNumberChar_of_head {texts : List (List Char)} {close c : Char}
    (hclose : isNumberChar close = false)
    (h : (moreAndClose texts close).head? = some c) : isNumberChar c = false := by
  cases texts with
  | nil =>
    obtain rfl := Option.some.inj h
    exact hclose
  | cons text texts =>
    obtain rfl := Option.some.inj h
    decide

/-- The elements of a list after those that were read. -/
theorem reads_items {rest : List (List Char × Json)}
    (hread : ∀ item ∈ rest, IsRead item.1 item.2) (items : List Json) {frames : List Frame}
    (hframes : frames.length < depthLimit) :
    reads (moreAndClose (rest.map (·.1)) ']') ⟨.afterItem items, frames⟩ =
      if frames.length + 1 + itemsDepth (rest.map (·.2)) ≤ depthLimit then
        some (deliver (.arr (items.reverse ++ sortedItems (rest.map (·.2)))) frames)
      else none := by
  induction rest generalizing items with
  | nil =>
    have hfits : frames.length + 1 + itemsDepth [] ≤ depthLimit := hframes
    rw [List.map_nil, List.map_nil, if_pos hfits, sortedItems, List.append_nil]
    exact endNumber_of_settled (settled_deliver _ frames)
  | cons item rest ih =>
    rw [List.forall_mem_cons] at hread
    have hcomma : step ⟨.afterItem items, frames⟩ ',' =
      some ⟨.value, .list items :: frames⟩ := rfl
    have hlength : (Frame.list items :: frames).length = frames.length + 1 := rfl
    have hdeliver : deliver item.2.sorted (.list items :: frames) =
      ⟨.afterItem (item.2.sorted :: items), frames⟩ := rfl
    rw [List.map_cons, List.map_cons, moreAndClose_cons, reads_cons, hcomma, Option.bind_some,
      reads_append fun c => not_isNumberChar_of_head (by decide),
      hread.1 (.list items :: frames) (hlength ▸ hframes), hlength, hdeliver, itemsDepth,
      sortedItems]
    split
    · rename_i hfits
      have hrest : frames.length + 1 + itemsDepth (rest.map (·.2)) ≤ depthLimit ↔
          frames.length + 1 + max item.2.depth (itemsDepth (rest.map (·.2))) ≤ depthLimit := by
        omega
      rw [Option.bind_some, ih hread.2, List.reverse_cons, List.append_assoc]
      simp only [hrest]
      rfl
    · rename_i hdeep
      rw [Option.bind_none, if_neg (by omega)]

/-- A list is read if each of its elements is. -/
theorem isRead_list {first : List Char × Json} {rest : List (List Char × Json)}
    (items : ∀ item ∈ first :: rest, Spells item.1 item.2)
    (hread : ∀ item ∈ first :: rest, IsRead item.1 item.2) :
    IsRead ('[' :: (first.1 ++ moreAndClose (rest.map (·.1)) ']'))
      (.arr ((first :: rest).map (·.2))) := by
  intro frames hframes
  rw [List.forall_mem_cons] at hread
  have henter : step ⟨.value, frames⟩ '[' = enter .listStart frames := rfl
  rw [reads_cons, henter, enter, depth, sorted, List.map_cons, itemsDepth, sortedItems]
  split
  · rename_i hopen
    have hlength : (Frame.list [] :: frames).length = frames.length + 1 := rfl
    have hdeliver : deliver first.2.sorted (.list [] :: frames) =
      ⟨.afterItem [first.2.sorted], frames⟩ := rfl
    rw [Option.bind_some, reads_listStart (items first List.mem_cons_self).isText,
      reads_append fun c => not_isNumberChar_of_head (by decide),
      hread.1 (.list [] :: frames) (hlength ▸ hopen), hlength, hdeliver]
    split
    · rename_i hfits
      have hrest : frames.length + 1 + itemsDepth (rest.map (·.2)) ≤ depthLimit ↔
          frames.length + (max first.2.depth (itemsDepth (rest.map (·.2))) + 1) ≤ depthLimit := by
        omega
      rw [Option.bind_some, reads_items hread.2 _ hopen]
      simp only [hrest]
      rfl
    · rename_i hdeep
      rw [Option.bind_none, if_neg (by omega)]
  · rename_i hclosed
    rw [Option.bind_none, if_neg (by omega)]

/-- A key is read up to its colon, at the start of an object or after a comma. -/
theorem reads_key {cs : List Char} {key : String} (h : SpellsKey cs key) {mode : Mode}
    {members : List (String × Json)}
    (hmode : mode = .key members ∨ mode = .objectStart ∧ members = []) (frames : List Frame)
    (ds : List Char) :
    reads (cs ++ ':' :: ds) ⟨mode, frames⟩ = reads ds ⟨.value, .object members key :: frames⟩ := by
  obtain ⟨hbefore, hafter, h⟩ := h
  have hbetween : IsBetween ⟨mode, frames⟩ := by
    rcases hmode with rfl | ⟨rfl, rfl⟩ <;> trivial
  have hquote : step ⟨mode, frames⟩ '"' = some ⟨.text (some members) [] .plain, frames⟩ := by
    rcases hmode with rfl | ⟨rfl, rfl⟩ <;> rfl
  have hcolon (key : String) : IsBetween ⟨.colon members key, frames⟩ := trivial
  simp only [List.append_assoc, List.cons_append]
  rw [reads_blanks hbetween hbefore, reads_cons, hquote, Option.bind_some, reads_quoted _ _ h,
    endText, reads_blanks (hcolon _) hafter, reads_cons, List.reverse_reverse]
  rfl

/-- A member of an object is read, up to where the object goes on or ends. -/
theorem reads_member {m : MemberText} (hkey : SpellsKey m.keyText m.key)
    (hread : IsRead m.valueText m.tree) {mode : Mode} {members : List (String × Json)}
    (hmode : mode = .key members ∨ mode = .objectStart ∧ members = []) {frames : List Frame}
    (hframes : frames.length < depthLimit) {ds : List Char}
    (hds : ∀ c, ds.head? = some c → isNumberChar c = false) :
    reads (m.chars ++ ds) ⟨mode, frames⟩ =
      if frames.length + 1 + m.tree.depth ≤ depthLimit then
        reads ds ⟨.afterMember (insert m.key m.tree.sorted members), frames⟩
      else none := by
  have hlength : (Frame.object members m.key :: frames).length = frames.length + 1 := rfl
  unfold MemberText.chars
  rw [List.append_assoc, List.cons_append, reads_key hkey hmode, reads_append hds,
    hread (.object members m.key :: frames) (hlength ▸ hframes), hlength]
  split <;> rfl

/-- The members of an object after those that were read. -/
theorem reads_members {rest : List MemberText}
    (hkeys : ∀ m ∈ rest, SpellsKey m.keyText m.key)
    (hread : ∀ m ∈ rest, IsRead m.valueText m.tree) (members : List (String × Json))
    {frames : List Frame} (hframes : frames.length < depthLimit) :
    reads (moreAndClose (rest.map MemberText.chars) '\x7d') ⟨.afterMember members, frames⟩ =
      if frames.length + 1 + membersDepth (rest.map MemberText.member) ≤ depthLimit then
        some (deliver (.obj (sortedMembers members (rest.map MemberText.member))) frames)
      else none := by
  induction rest generalizing members with
  | nil =>
    have hfits : frames.length + 1 + membersDepth [] ≤ depthLimit := hframes
    rw [List.map_nil, List.map_nil, if_pos hfits, sortedMembers]
    exact endNumber_of_settled (settled_deliver _ frames)
  | cons m rest ih =>
    rw [List.forall_mem_cons] at hkeys hread
    have hcomma : step ⟨.afterMember members, frames⟩ ',' = some ⟨.key members, frames⟩ := rfl
    rw [List.map_cons, List.map_cons, moreAndClose_cons, reads_cons, hcomma, Option.bind_some,
      reads_member hkeys.1 hread.1 (.inl rfl) hframes
        (fun c => not_isNumberChar_of_head (by decide)),
      ih hkeys.2 hread.2, MemberText.member, membersDepth, sortedMembers]
    split
    · have hrest : frames.length + 1 + membersDepth (rest.map MemberText.member) ≤ depthLimit ↔
          frames.length + 1 + max m.tree.depth (membersDepth (rest.map MemberText.member)) ≤
            depthLimit := by
        omega
      simp only [hrest]
    · rw [if_neg (by omega)]

theorem isRead_object {first : MemberText} {rest : List MemberText}
    (hkeys : ∀ m ∈ first :: rest, SpellsKey m.keyText m.key)
    (hread : ∀ m ∈ first :: rest, IsRead m.valueText m.tree) :
    IsRead ('\x7b' :: (first.chars ++ moreAndClose (rest.map MemberText.chars) '\x7d'))
      (.obj ((first :: rest).map MemberText.member)) := by
  intro frames hframes
  rw [List.forall_mem_cons] at hkeys hread
  have henter : step ⟨.value, frames⟩ '\x7b' = enter .objectStart frames := rfl
  rw [reads_cons, henter, enter, depth, sorted, List.map_cons, MemberText.member, membersDepth,
    sortedMembers]
  split
  · rename_i hopen
    rw [Option.bind_some, reads_member hkeys.1 hread.1 (.inr ⟨rfl, rfl⟩) hopen
      (fun c => not_isNumberChar_of_head (by decide)), reads_members hkeys.2 hread.2 _ hopen]
    split
    · have hrest : frames.length + 1 + membersDepth (rest.map MemberText.member) ≤ depthLimit ↔
          frames.length + (max first.tree.depth (membersDepth (rest.map MemberText.member)) + 1) ≤
            depthLimit := by
        omega
      simp only [hrest]
    · rw [if_neg (by omega)]
  · rw [Option.bind_none, if_neg (by omega)]

theorem isRead_emptyList {blanks : List Char} (h : Blanks blanks) :
    IsRead ('[' :: (blanks ++ [']'])) (.arr []) := by
  intro frames hframes
  have henter : step ⟨.value, frames⟩ '[' = enter .listStart frames := rfl
  have hstart : IsBetween ⟨.listStart, frames⟩ := trivial
  have hdepth : (Json.arr []).depth = 1 := rfl
  rw [reads_cons, henter, enter, hdepth]
  split
  · rw [Option.bind_some, reads_blanks hstart h, if_pos (by omega)]
    exact endNumber_of_settled (settled_deliver _ frames)
  · rw [Option.bind_none, if_neg (by omega)]

theorem isRead_emptyObject {blanks : List Char} (h : Blanks blanks) :
    IsRead ('\x7b' :: (blanks ++ ['\x7d'])) (.obj []) := by
  intro frames hframes
  have henter : step ⟨.value, frames⟩ '\x7b' = enter .objectStart frames := rfl
  have hstart : IsBetween ⟨.objectStart, frames⟩ := trivial
  have hdepth : (Json.obj []).depth = 1 := rfl
  rw [reads_cons, henter, enter, hdepth]
  split
  · rw [Option.bind_some, reads_blanks hstart h, if_pos (by omega)]
    exact endNumber_of_settled (settled_deliver _ frames)
  · rw [Option.bind_none, if_neg (by omega)]

/-- Every text of a tree is read as its value, unless containers are nested too deep. -/
theorem isRead_of_spells {cs : List Char} {j : Json} (h : Spells cs j) : IsRead cs j := by
  induction h with
  | null => exact isRead_of_scalar rfl rfl reads_null
  | true => exact isRead_of_scalar rfl rfl reads_true
  | false => exact isRead_of_scalar rfl rfl reads_false
  | number h =>
    obtain ⟨hsorted, hdepth⟩ := sorted_of_readNumber h
    obtain ⟨n, hn, -⟩ := Option.bind_eq_some_iff.1 h
    refine isRead_of_scalar hsorted hdepth fun frames => ?_
    rw [reads_number hn, h]
    rfl
  | @string cs s h =>
    refine isRead_of_scalar rfl rfl fun frames => ?_
    have hquote : step ⟨.value, frames⟩ '"' = some ⟨.text none [] .plain, frames⟩ := rfl
    rw [reads_cons, hquote, Option.bind_some, reads_quoted _ _ h, endText, List.reverse_reverse]
    exact endNumber_of_settled (settled_deliver _ frames)
  | emptyList h => exact isRead_emptyList h
  | list items hread => exact isRead_list items hread
  | emptyObject h => exact isRead_emptyObject h
  | object keys values hread => exact isRead_object keys hread
  | @blanks before cs after j hbefore hafter h hread =>
    intro frames hframes
    have hvalue : IsBetween ⟨.value, frames⟩ := trivial
    have hhead (c : Char) (hc : after.head? = some c) : isNumberChar c = false :=
      isNumberChar_of_isSpace (hafter c (List.mem_of_head? hc))
    have hdone := reads_blanks (isBetween_deliver j.sorted frames) hafter []
    rw [List.append_nil] at hdone
    rw [reads_blanks hvalue hbefore, reads_append hhead, hread frames hframes]
    split
    · rw [Option.bind_some, hdone]
      exact endNumber_of_settled (settled_deliver _ frames)
    · rfl

/-- The end of a text ends a number. -/
theorem finish_eq_bind_endNumber (r : Reader) : finish r = (endNumber r).bind finish := by
  rcases hend : endNumber r with _ | t
  · rw [finish, hend]
    rfl
  · have ht := endNumber_of_settled (settled_of_endNumber hend)
    rw [Option.bind_some, finish, finish, hend, ht]

end Reader

/-! ## Documents -/

theorem readChars_eq_bind_reads (cs : List Char) :
    readChars cs = (Reader.reads cs ⟨.value, []⟩).bind Reader.finish := by
  rw [readChars, Reader.reads, Option.bind_assoc]
  exact congrArg _ (funext Reader.finish_eq_bind_endNumber)

/-- **A text is read as the value of its tree**, unless more containers are nested in it than the
reader allows. -/
theorem readChars_of_spells {cs : List Char} {j : Json} (h : Spells cs j) :
    readChars cs = if j.depth ≤ depthLimit then some j.sorted else none := by
  have hread := Reader.isRead_of_spells h [] (Nat.zero_le _)
  rw [readChars_eq_bind_reads, hread, List.length_nil, Nat.zero_add]
  split <;> rfl

end AbiTypings.Json
