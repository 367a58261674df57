import AbiTypings.Proofs.JsonReading
import Mathlib.Data.List.Basic
import Mathlib.Tactic.Choose

/-!
# Texts that the reader refuses

Two things can be written for which the reader has no value: a number that is too large, and a
string in which half of a pair of surrogates stands alone.  A text of the format with such a part is
refused wherever it stands, and any other spells a tree (`spells_or_refused`).
-/

namespace AbiTypings.Json

namespace Reader

/-! ## Strings -/

/-- The reader does not get to the end of a string of which this is the rest. -/
def StringRefused (escape : Escape) (cs : List Char) : Prop :=
  ∀ (keyOf : Option (List (String × Json))) (chars : List Char) (frames : List Frame)
    (ds : List Char), reads (cs ++ '"' :: ds) ⟨.text keyOf chars escape, frames⟩ = none

/-- After a high surrogate, nothing but the backslash of the low one may come. -/
theorem stringRefused_of_head {high : Nat} {cs : List Char}
    (h : ∀ c, cs.head? = some c → c ≠ '\\') : StringRefused (.low high) cs := by
  intro keyOf chars frames ds
  have hstep {c : Char} (hc : c ≠ '\\') :
      step ⟨.text keyOf chars (.low high), frames⟩ c = none := by
    simp [step, stepPlain, stepText, hc]
  cases cs with
  | nil =>
    rw [List.nil_append, reads_cons, hstep (by decide)]
    rfl
  | cons c cs =>
    rw [List.cons_append, reads_cons, hstep (h c rfl)]
    rfl

theorem stringRefused_short {high : Nat} {e c : Char} (h : shortEscape e = some c)
    (cs : List Char) : StringRefused (.low high) ('\\' :: e :: cs) := by
  intro keyOf chars frames ds
  have hslash : step ⟨.text keyOf chars (.low high), frames⟩ '\\' =
    some ⟨.text keyOf chars (.lowUnit high), frames⟩ := rfl
  have hstep : step ⟨.text keyOf chars (.lowUnit high), frames⟩ e = none := by
    simp [step, stepPlain, stepText, ne_unicode_of_shortEscape h]
  rw [List.cons_append, List.cons_append, reads_cons, hslash, Option.bind_some, reads_cons, hstep]
  rfl

/-- A string of the format stands for characters, or is refused.  The second half says the same of
what follows a high surrogate. -/
theorem spellsString_or_refused {cs : List Char} (h : IsString cs) :
    ((∃ s, SpellsString cs s) ∨ StringRefused .plain cs) ∧
    ∀ {d₁ d₂ d₃ d₄ : Char} {high : Nat}, hexUnit d₁ d₂ d₃ d₄ = some high →
      isHighSurrogate high = true →
      (∃ s, SpellsString ('\\' :: 'u' :: d₁ :: d₂ :: d₃ :: d₄ :: cs) s) ∨
        StringRefused (.low high) cs := by
  induction h with
  | nil => exact ⟨.inl ⟨[], .nil⟩, fun _ _ => .inr (stringRefused_of_head nofun)⟩
  | @plain c cs hquote hescape hcontrol rest ih =>
    refine ⟨ih.1.imp (fun ⟨s, hs⟩ => ⟨c :: s, .plain hquote hescape hcontrol hs⟩) ?_,
      fun _ _ => .inr (stringRefused_of_head fun d hd => ?_)⟩
    · intro hrefused keyOf chars frames ds
      rw [List.cons_append, reads_plain _ _ _ hquote hescape hcontrol, hrefused]
    · obtain rfl := Option.some.inj hd
      exact hescape
  | @short e c cs h rest ih =>
    refine ⟨ih.1.imp (fun ⟨s, hs⟩ => ⟨c :: s, .short h hs⟩) ?_,
      fun _ _ => .inr (stringRefused_short h cs)⟩
    intro hrefused keyOf chars frames ds
    rw [List.cons_append, List.cons_append, reads_short _ _ _ h, hrefused]
  | @unit d₁ d₂ d₃ d₄ unit cs h rest ih =>
    constructor
    · rcases hhigh : isHighSurrogate unit with _ | _
      · rcases hlow : isLowSurrogate unit with _ | _
        · refine ih.1.imp (fun ⟨s, hs⟩ => ⟨_, .unit h hhigh hlow hs⟩) ?_
          intro hrefused keyOf chars frames ds
          have htake : takeUnit chars unit none = some (Char.ofNat unit :: chars, .plain) := by
            simp [takeUnit, hhigh, hlow]
          simp only [List.cons_append]
          rw [reads_unit _ _ _ h, htake, Option.bind_some, hrefused]
        · refine .inr fun keyOf chars frames ds => ?_
          have htake : takeUnit chars unit none = none := by
            simp [takeUnit, hhigh, hlow]
          simp only [List.cons_append]
          rw [reads_unit _ _ _ h, htake, Option.bind_none]
      · refine (ih.2 h hhigh).imp_right fun hrefused keyOf chars frames ds => ?_
        have htake : takeUnit chars unit none = some (chars, .low unit) := by
          simp [takeUnit, hhigh]
        simp only [List.cons_append]
        rw [reads_unit _ _ _ h, htake, Option.bind_some, hrefused]
    · intro e₁ e₂ e₃ e₄ high h' hhigh
      rcases hlow : isLowSurrogate unit with _ | _
      · refine .inr fun keyOf chars frames ds => ?_
        have htake : takeUnit chars unit (some high) = none := by
          simp [takeUnit, hlow]
        simp only [List.cons_append]
        rw [reads_lowUnit _ _ _ h, htake, Option.bind_none]
      · refine ih.1.imp (fun ⟨s, hs⟩ => ⟨_, .pair h' hhigh h hlow hs⟩) ?_
        intro hrefused keyOf chars frames ds
        have htake : takeUnit chars unit (some high) =
            some (Char.ofNat (0x10000 + (high - 0xD800) * 0x400 + (unit - 0xDC00)) :: chars,
              .plain) := by
          simp [takeUnit, hlow]
        simp only [List.cons_append]
        rw [reads_lowUnit _ _ _ h, htake, Option.bind_some, hrefused]

/-! ## Values -/

/-- The reader does not get past a value with this text. -/
def Refused (cs : List Char) : Prop :=
  ∀ frames : List Frame, reads cs ⟨.value, frames⟩ = none

theorem Refused.blanks {before cs after : List Char} (h : Refused cs) (hbefore : Blanks before)
    (hafter : Blanks after) : Refused (before ++ (cs ++ after)) := by
  intro frames
  have hvalue : IsBetween ⟨.value, frames⟩ := trivial
  have hhead (c : Char) (hc : after.head? = some c) : isNumberChar c = false :=
    isNumberChar_of_isSpace (hafter c (List.mem_of_head? hc))
  rw [reads_blanks hvalue hbefore, reads_append hhead, h frames, Option.bind_none]

/-- The elements of a list are not all read if one of them is refused. -/
theorem reads_items_refused {first : List Char} {rest : List (List Char)}
    (hread : ∀ cs ∈ first :: rest, (∃ j, Spells cs j) ∨ Refused cs)
    (hrefused : ∃ cs ∈ first :: rest, Refused cs) (items : List Json) {frames : List Frame}
    (hframes : frames.length < depthLimit) :
    reads (first ++ moreAndClose rest ']') ⟨.value, .list items :: frames⟩ = none := by
  have hlength (items : List Json) : (Frame.list items :: frames).length = frames.length + 1 := rfl
  have hhead {texts : List (List Char)} (c : Char) :
      (moreAndClose texts ']').head? = some c → isNumberChar c = false :=
    not_isNumberChar_of_head (by decide)
  induction rest generalizing first items with
  | nil =>
    obtain ⟨cs, hcs, h⟩ := hrefused
    obtain rfl := List.mem_singleton.1 hcs
    rw [reads_append hhead, h, Option.bind_none]
  | cons second rest ih =>
    rw [List.forall_mem_cons] at hread
    rw [reads_append hhead]
    rcases (List.exists_mem_cons_iff ..).1 hrefused with hfirst | hrest
    · rw [hfirst, Option.bind_none]
    · rcases hread.1 with ⟨j, hj⟩ | hfirst
      · have hcomma : step ⟨.afterItem (j.sorted :: items), frames⟩ ',' =
          some ⟨.value, .list (j.sorted :: items) :: frames⟩ := rfl
        rw [isRead_of_spells hj _ (hlength items ▸ hframes)]
        split
        · rw [Option.bind_some, deliver, moreAndClose_cons, reads_cons, hcomma, Option.bind_some]
          exact ih hread.2 hrest _
        · rfl
      · rw [hfirst, Option.bind_none]

/-- A list is refused if one of its elements is, whatever stands behind that. -/
theorem refused_of_listText {cs : List Char} {texts : List (List Char)} (h : ListText cs texts)
    (hitems : ∀ text ∈ texts, IsText text)
    (hread : ∀ text ∈ texts, (∃ j, Spells text j) ∨ Refused text)
    (hrefused : ∃ text ∈ texts, Refused text) : Refused cs := by
  induction h with
  | empty =>
    obtain ⟨text, hmem, -⟩ := hrefused
    cases hmem
  | items first rest =>
    intro frames
    have henter : step ⟨.value, frames⟩ '[' = enter .listStart frames := rfl
    rw [reads_cons, henter, enter]
    split
    · rename_i hopen
      rw [Option.bind_some, reads_listStart (hitems first List.mem_cons_self),
        reads_items_refused hread hrefused [] hopen]
    · rfl
  | blanks hbefore hafter _ ih => exact (ih hitems hread hrefused).blanks hbefore hafter

/-! ## Members -/

/-- A key spells a string or is refused wherever a key may stand. -/
theorem spellsKey_or_refused {cs : List Char} (h : IsKey cs) : (∃ key, SpellsKey cs key) ∨
    ∀ {mode : Mode} {members : List (String × Json)},
      mode = .key members ∨ mode = .objectStart ∧ members = [] →
      ∀ (frames : List Frame) (ds : List Char), reads (cs ++ ds) ⟨mode, frames⟩ = none := by
  obtain ⟨hbefore, hafter, h⟩ := h
  refine (spellsString_or_refused h).1.imp (fun ⟨s, hs⟩ => ⟨_, .mk hbefore hafter hs⟩) ?_
  intro hrefused mode members hmode frames ds
  have hbetween : IsBetween ⟨mode, frames⟩ := by
    rcases hmode with rfl | ⟨rfl, rfl⟩ <;> trivial
  have hquote : step ⟨mode, frames⟩ '"' = some ⟨.text (some members) [] .plain, frames⟩ := by
    rcases hmode with rfl | ⟨rfl, rfl⟩ <;> rfl
  simp only [List.append_assoc, List.cons_append]
  rw [reads_blanks hbetween hbefore, reads_cons, hquote, Option.bind_some, hrefused]

/-- The reader does not get past a member with this key and this value. -/
def MemberRefused (m : List Char × List Char) : Prop :=
  ∀ (mode : Mode) (members : List (String × Json)),
    mode = .key members ∨ mode = .objectStart ∧ members = [] →
    ∀ (frames : List Frame) (ds : List Char),
      (∀ c, ds.head? = some c → isNumberChar c = false) →
      reads (m.1 ++ ':' :: m.2 ++ ds) ⟨mode, frames⟩ = none

/-- A member whose key and value have their meaning. -/
def SpellsMember (m : List Char × List Char) : Prop :=
  (∃ key, SpellsKey m.1 key) ∧ ∃ j, Spells m.2 j

theorem spellsMember_or_refused {m : List Char × List Char} (hkey : IsKey m.1)
    (hvalue : (∃ j, Spells m.2 j) ∨ Refused m.2) : SpellsMember m ∨ MemberRefused m := by
  rcases spellsKey_or_refused hkey with hspells | hrefused
  · refine hvalue.imp (fun h => ⟨hspells, h⟩) fun hrefused mode members hmode frames ds hds => ?_
    obtain ⟨key, hspells⟩ := hspells
    rw [List.append_assoc, List.cons_append, reads_key hspells hmode, reads_append hds, hrefused,
      Option.bind_none]
  · refine .inr fun mode members hmode frames ds _ => ?_
    rw [List.append_assoc, hrefused hmode]

/-- The members of an object are not all read if one of them is refused. -/
theorem reads_members_refused {first : List Char × List Char} {rest : List (List Char × List Char)}
    (hread : ∀ m ∈ first :: rest, SpellsMember m ∨ MemberRefused m)
    (hrefused : ∃ m ∈ first :: rest, MemberRefused m) {mode : Mode} {members : List (String × Json)}
    (hmode : mode = .key members ∨ mode = .objectStart ∧ members = [])
    {frames : List Frame} (hframes : frames.length < depthLimit) :
    reads (first.1 ++ ':' :: first.2 ++ moreAndClose (rest.map fun m => m.1 ++ ':' :: m.2) '\x7d')
      ⟨mode, frames⟩ = none := by
  have hhead {texts : List (List Char)} (c : Char) :
      (moreAndClose texts '\x7d').head? = some c → isNumberChar c = false :=
    not_isNumberChar_of_head (by decide)
  induction rest generalizing first mode members with
  | nil =>
    obtain ⟨m, hm, h⟩ := hrefused
    obtain rfl := List.mem_singleton.1 hm
    exact h _ _ hmode frames _ hhead
  | cons second rest ih =>
    rw [List.forall_mem_cons] at hread
    rcases (List.exists_mem_cons_iff ..).1 hrefused with hfirst | hrest
    · exact hfirst _ _ hmode frames _ hhead
    · rcases hread.1 with ⟨⟨key, hkey⟩, j, hj⟩ | hfirst
      · have hmember := @reads_member ⟨first.1, first.2, key, j⟩ hkey (isRead_of_spells hj) _ _
          hmode _ hframes _ (@hhead ((second :: rest).map fun m => m.1 ++ ':' :: m.2))
        rw [MemberText.chars] at hmember
        have hcomma (members : List (String × Json)) : step ⟨.afterMember members, frames⟩ ',' =
          some ⟨.key members, frames⟩ := rfl
        rw [hmember]
        split
        · rw [List.map_cons, moreAndClose_cons, reads_cons, hcomma, Option.bind_some]
          exact ih hread.2 hrest (.inl rfl)
        · rfl
      · exact hfirst _ _ hmode frames _ hhead

/-! ## Texts -/

/-- A list of texts that spell trees spells the list of the trees. -/
theorem spells_of_listText {cs : List Char} {texts : List (List Char)} (h : ListText cs texts)
    {tree : List Char → Json} (htree : ∀ text ∈ texts, Spells text (tree text)) :
    Spells cs (.arr (texts.map tree)) := by
  induction h with
  | empty hblanks => exact .emptyList hblanks
  | items first rest =>
    have hlist := @Spells.list (first, tree first) (rest.map fun text => (text, tree text))
    simp only [List.forall_mem_cons, List.forall_mem_map, List.map_cons, List.map_map,
      Function.comp_def, List.map_id'] at hlist
    exact hlist (List.forall_mem_cons.1 htree)
  | blanks hbefore hafter _ ih => exact .blanks hbefore hafter (ih htree)

/-- **A text of the format spells a tree, or is refused.** -/
theorem spells_or_refused {cs : List Char} (h : IsText cs) : (∃ j, Spells cs j) ∨ Refused cs := by
  have : Nonempty Json := ⟨.null⟩
  induction h with
  | null => exact .inl ⟨_, .null⟩
  | true => exact .inl ⟨_, .true⟩
  | false => exact .inl ⟨_, .false⟩
  | @number cs n h =>
    rcases hvalue : readNumber cs with _ | j
    · refine .inr fun frames => ?_
      rw [reads_number h, hvalue]
      rfl
    · exact .inl ⟨j, .number hvalue⟩
  | string h =>
    refine (spellsString_or_refused h).1.imp (fun ⟨s, hs⟩ => ⟨_, .string hs⟩) ?_
    intro hrefused frames
    have hquote : step ⟨.value, frames⟩ '"' = some ⟨.text none [] .plain, frames⟩ := rfl
    rw [reads_cons, hquote, Option.bind_some, hrefused]
  | @list cs texts h hitems hread =>
    by_cases hspells : ∀ text ∈ texts, ∃ j, Spells text j
    · choose! tree htree using hspells
      exact .inl ⟨_, spells_of_listText h htree⟩
    · simp only [not_forall] at hspells
      obtain ⟨text, htext, hnot⟩ := hspells
      have hrefused := (hread text htext).resolve_left hnot
      exact .inr (refused_of_listText h hitems hread ⟨text, htext, hrefused⟩)
  | emptyObject h => exact .inl ⟨_, .emptyObject h⟩
  | @object first rest keys values hread =>
    have hmembers : ∀ m ∈ first :: rest, SpellsMember m ∨ MemberRefused m :=
      fun m hm => spellsMember_or_refused (keys m hm) (hread m hm)
    by_cases hspells : ∀ m ∈ first :: rest, SpellsMember m
    · have hkeys : ∀ m ∈ first :: rest, ∃ key, SpellsKey m.1 key := fun m hm => (hspells m hm).1
      have htrees : ∀ m ∈ first :: rest, ∃ j, Spells m.2 j := fun m hm => (hspells m hm).2
      choose! key hkey using hkeys
      choose! tree htree using htrees
      have hobject := @Spells.object ⟨first.1, first.2, key first, tree first⟩
        (rest.map fun m => ⟨m.1, m.2, key m, tree m⟩)
      simp only [List.forall_mem_cons, List.forall_mem_map, List.map_cons, List.map_map,
        Function.comp_def, MemberText.chars] at hobject
      exact .inl ⟨_, hobject (List.forall_mem_cons.1 hkey) (List.forall_mem_cons.1 htree)⟩
    · simp only [not_forall] at hspells
      obtain ⟨m, hm, hnot⟩ := hspells
      have hrefused := (hmembers m hm).resolve_left hnot
      refine .inr fun frames => ?_
      have henter : step ⟨.value, frames⟩ '\x7b' = enter .objectStart frames := rfl
      rw [reads_cons, henter, enter]
      split
      · rename_i hopen
        rw [Option.bind_some,
          reads_members_refused hmembers ⟨m, hm, hrefused⟩ (.inr ⟨rfl, rfl⟩) hopen]
      · rfl
  | blanks hbefore hafter _ ih =>
    obtain ⟨j, hj⟩ | hrefused := ih
    · exact .inl ⟨j, .blanks hbefore hafter hj⟩
    · exact .inr (hrefused.blanks hbefore hafter)

end Reader

/-- A text that is refused wherever it stands is refused on its own. -/
theorem readChars_of_refused {cs : List Char} (h : Reader.Refused cs) : readChars cs = none := by
  rw [readChars_eq_bind_reads, h, Option.bind_none]

end AbiTypings.Json
