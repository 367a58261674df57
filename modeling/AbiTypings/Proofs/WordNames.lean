import AbiTypings.Proofs.Imports
import AbiTypings.Proofs.RecordBodies
import AbiTypings.Proofs.TypeNames

/-!
# Names are words

Where the members of a document, their parameters and their structs are named by words, so is every
record: its name is put together from theirs, with a capital here and there, an ending and perhaps a
number.  The fixed types are named by words whatever they begin with, since putting a text in camel
case leaves letters and digits only.

* **Letters** — `isWordChar_of_mem_upper` and `isWordChar_of_mem_lower`: changing the case of a word
  character gives word characters.  Above ASCII this is checked run by run over the tables.
* **Camel case** — `isWord_upperCamelCase`.
* **Members** — `Member.givenNames` lists what a member, its parameters and their structs are
  called; `Member.isWord_of_mem_asks` is about the names that its records ask for.
* **Modules** — `Bindings.isWord_exportedNames`.
-/

namespace AbiTypings

/-! ## Letters -/

/-- Whether all characters that a run maps to are word characters. -/
def Text.ShiftedRun.keepsWords (run : Text.ShiftedRun) : Bool :=
  let first := (run.first + run.shift).toNat
  let last := (run.last + run.shift).toNat
  0 ≤ run.first + run.shift &&
    ((128 ≤ first && last < 0xD800) || (0xE000 ≤ first && last < 0x110000) ||
      (first == last && isWordChar (Char.ofNat first)))

theorem isWordChar_ofNat {n : Nat} (h : 128 ≤ n) (hvalid : n.isValidChar) :
    isWordChar (Char.ofNat n) := by
  have hnat : (Char.ofNat n).toNat = n := by
    rw [Char.ofNat, dif_pos hvalid]
    rfl
  simp [isWordChar, hnat, h]

theorem isWordChar_shiftBy {shifts : List Text.ShiftedRun}
    (hshifts : ∀ run ∈ shifts, run.keepsWords) {c : Char} (hc : isWordChar c) :
    isWordChar (Text.shiftBy shifts c) := by
  unfold Text.shiftBy
  split
  · rename_i run hrun
    have hkeeps := hshifts run (List.mem_of_find?_eq_some hrun)
    have hcontains := List.find?_some hrun
    simp only [Text.Run.contains, Bool.and_eq_true, decide_eq_true_eq] at hcontains
    obtain ⟨⟨hfirst, hlast⟩, -⟩ := hcontains
    simp only [Text.ShiftedRun.keepsWords, Bool.and_eq_true, Bool.or_eq_true, decide_eq_true_eq,
      beq_iff_eq] at hkeeps
    obtain ⟨hpos, (⟨hlow, hhigh⟩ | ⟨hlow, hhigh⟩) | ⟨hone, hword⟩⟩ := hkeeps
    · refine isWordChar_ofNat (by omega) (.inl (by omega))
    · refine isWordChar_ofNat (by omega) (.inr (by omega))
    · have hsame : (c.toNat + run.shift).toNat = (run.first + run.shift).toNat := by
        omega
      rw [hsame]
      exact hword
  · exact hc

theorem isWordChar_of_mem_mapCase {expansions : List (Nat × List Nat)}
    {shifts : List Text.ShiftedRun}
    (hexpansions : ∀ expansion ∈ expansions, ∀ n ∈ expansion.2, isWordChar (Char.ofNat n))
    (hshifts : ∀ run ∈ shifts, run.keepsWords) {c d : Char} (hc : isWordChar c)
    (hd : d ∈ Text.mapCase expansions shifts c) : isWordChar d := by
  unfold Text.mapCase at hd
  split at hd
  · rename_i codes hcodes
    obtain ⟨n, hn, rfl⟩ := List.mem_map.1 hd
    obtain ⟨before, after, hexpansion, -⟩ := List.lookup_eq_some_iff.1 hcodes
    exact hexpansions (c.toNat, codes) (by simp [hexpansion]) n hn
  · rw [List.mem_singleton.1 hd]
    exact isWordChar_shiftBy hshifts hc

/-- What holds of all ASCII characters. -/
theorem ascii_induction {P : Char → Prop} (h : ∀ n < 128, P (Char.ofNat n)) {c : Char}
    (hc : c.toNat < 128) : P c := by
  have hchar := h c.toNat hc
  rwa [Char.ofNat_toNat] at hchar

theorem isWordChar_of_mem_upper {c d : Char} (hc : isWordChar c) (hd : d ∈ Text.upper c) :
    isWordChar d := by
  unfold Text.upper at hd
  split at hd
  · rename_i hascii
    have hall : ∀ n < 128, isWordChar (Char.ofNat n) → isWordChar (Char.ofNat n).toUpper := by
      decide +kernel
    rw [List.mem_singleton.1 hd]
    exact ascii_induction (P := fun c => isWordChar c → isWordChar c.toUpper) hall hascii hc
  · exact isWordChar_of_mem_mapCase (by decide +kernel) (by decide +kernel) hc hd

theorem isWordChar_of_mem_lower {c d : Char} (hc : isWordChar c) (hd : d ∈ Text.lower c) :
    isWordChar d := by
  unfold Text.lower at hd
  split at hd
  · rename_i hascii
    have hall : ∀ n < 128, isWordChar (Char.ofNat n) → isWordChar (Char.ofNat n).toLower := by
      decide +kernel
    rw [List.mem_singleton.1 hd]
    exact ascii_induction (P := fun c => isWordChar c → isWordChar c.toLower) hall hascii hc
  · exact isWordChar_of_mem_mapCase (by decide +kernel) (by decide +kernel) hc hd

/-! ## Capitals -/

theorem isWord_capitalize {s : String} (h : IsWord s) : IsWord (Text.capitalize s) := by
  intro d hd
  rw [Text.capitalize, String.toList_ofList] at hd
  unfold IsWord at h
  cases hcs : s.toList with
  | nil =>
    rw [hcs] at hd
    exact absurd hd List.not_mem_nil
  | cons c cs =>
    rw [hcs] at h hd
    rcases List.mem_append.1 hd with hupper | hrest
    · exact isWordChar_of_mem_upper (h c List.mem_cons_self) hupper
    · exact h d (List.mem_cons_of_mem _ hrest)

/-! ## Upper camel case -/

theorem isAlphanumeric_of_mem_pieces {cs piece found : List Char}
    (hpiece : ∀ c ∈ piece, Text.isAlphanumeric c) (hfound : found ∈ Text.pieces piece cs) :
    ∀ c ∈ found, Text.isAlphanumeric c := by
  induction cs generalizing piece with
  | nil =>
    rw [Text.pieces, List.mem_singleton] at hfound
    subst hfound
    simpa using hpiece
  | cons c cs ih =>
    rw [Text.pieces] at hfound
    split at hfound
    · rename_i hc
      refine ih ?_ hfound
      simp only [List.forall_mem_cons]
      exact ⟨hc, hpiece⟩
    · rcases List.mem_cons.1 hfound with rfl | hrest
      · simpa using hpiece
      · exact ih (fun d hd => absurd hd List.not_mem_nil) hrest

/-- Cutting into words adds no characters. -/
theorem mem_of_mem_splitWords {mode : Text.WordCase} {word cs found : List Char}
    (hfound : found ∈ Text.splitWords mode word cs) : ∀ c ∈ found, c ∈ word ∨ c ∈ cs := by
  induction mode, word, cs using Text.splitWords.induct with
  | case1 mode word hword =>
    rw [Text.splitWords, if_pos hword] at hfound
    exact absurd hfound List.not_mem_nil
  | case2 mode word hword =>
    rw [Text.splitWords, if_neg hword, List.mem_singleton] at hfound
    subst hfound
    simp
  | case3 mode word c =>
    rw [Text.splitWords, List.mem_singleton] at hfound
    subst hfound
    intro d hd
    rw [List.mem_reverse, List.mem_cons] at hd
    simpa [or_comm] using hd
  | case4 mode word c d rest hcut ih =>
    rw [Text.splitWords, if_pos hcut] at hfound
    intro e he
    rcases List.mem_cons.1 hfound with rfl | hrest
    · rw [List.mem_reverse, List.mem_cons] at he
      simp only [List.mem_cons]
      tauto
    · have hmem := ih hrest e he
      simp only [List.mem_cons, List.not_mem_nil] at hmem ⊢
      tauto
  | case5 mode word c d rest hcut hcut' ih =>
    rw [Text.splitWords, if_neg hcut, if_pos hcut'] at hfound
    intro e he
    rcases List.mem_cons.1 hfound with rfl | hrest
    · exact .inl (List.mem_reverse.1 he)
    · have hmem := ih hrest e he
      simp only [List.mem_cons, List.not_mem_nil] at hmem ⊢
      tauto
  | case6 mode word c d rest hcut hcut' ih =>
    rw [Text.splitWords, if_neg hcut, if_neg hcut'] at hfound
    intro e he
    have hmem := ih hfound e he
    simp only [List.mem_cons] at hmem ⊢
    tauto

theorem isWordChar_of_mem_lowerTail {cs : List Char} (h : ∀ c ∈ cs, isWordChar c) :
    ∀ d ∈ Text.lowerTail cs, isWordChar d := by
  induction cs using Text.lowerTail.induct with
  | case1 => exact fun d hd => absurd hd List.not_mem_nil
  | case2 =>
    intro d hd
    rw [Text.lowerTail, if_pos rfl, List.mem_singleton] at hd
    rw [hd]
    decide
  | case3 c hc =>
    intro d hd
    rw [Text.lowerTail, if_neg hc] at hd
    exact isWordChar_of_mem_lower (h c List.mem_cons_self) hd
  | case4 c cs hcs ih =>
    intro d hd
    rw [Text.lowerTail, List.mem_append] at hd
    rcases hd with hfirst | hrest
    · exact isWordChar_of_mem_lower (h c List.mem_cons_self) hfirst
    · exact ih (fun e he => h e (List.mem_cons_of_mem _ he)) d hrest
    exact hcs

theorem isWordChar_of_mem_capitalWord {cs : List Char} (h : ∀ c ∈ cs, isWordChar c) :
    ∀ d ∈ Text.capitalWord cs, isWordChar d := by
  intro d hd
  cases cs with
  | nil => exact absurd hd List.not_mem_nil
  | cons c cs =>
    rcases List.mem_append.1 hd with hfirst | hrest
    · exact isWordChar_of_mem_upper (h c List.mem_cons_self) hfirst
    · exact isWordChar_of_mem_lowerTail (fun e he => h e (List.mem_cons_of_mem _ he)) d hrest

/-- Whatever is put in upper camel case becomes a word. -/
theorem isWord_upperCamelCase (s : String) : IsWord (Text.upperCamelCase s) := by
  intro d hd
  rw [Text.upperCamelCase, String.toList_ofList, List.mem_flatMap] at hd
  obtain ⟨word, hword, hd⟩ := hd
  obtain ⟨piece, hpiece, hword⟩ := List.mem_flatMap.1 hword
  refine isWordChar_of_mem_capitalWord (fun c hc => ?_) d hd
  have hmem : c ∈ piece := by
    simpa using mem_of_mem_splitWords hword c hc
  exact isWordChar_of_isAlphanumeric
    (isAlphanumeric_of_mem_pieces (fun e he => absurd he List.not_mem_nil) hpiece c hmem)

/-! ## Names of members -/

/-- The names that a parameter itself is given: its own, if it has one, and that of its struct. -/
def Param.ownNames (p : Param) : List String :=
  [p.name].filter (· ≠ "") ++ p.structName?.toList

mutual

/-- The names that a parameter and its components are given. -/
def Param.givenNames : Param → List String
  | ⟨name, typeTag, none, internalType, indexed⟩ =>
    Param.ownNames ⟨name, typeTag, none, internalType, indexed⟩
  | ⟨name, typeTag, some ps, internalType, indexed⟩ =>
    Param.ownNames ⟨name, typeTag, some ps, internalType, indexed⟩ ++ siblingNames ps

/-- The names that siblings and their components are given. -/
def siblingNames : List Param → List String
  | [] => []
  | p :: ps => p.givenNames ++ siblingNames ps

end

/-- The names that a member and its parameters are given. -/
def Member.givenNames : Member → List String
  | constructor inputs _ => siblingNames inputs
  | function name inputs outputs _ => name :: (siblingNames inputs ++ siblingNames outputs)
  | event name inputs _ => name :: siblingNames inputs
  | nonCallable .. => []

section Names

variable {role : Role} {scope : String}

theorem Param.ownNames_subset (p : Param) : p.ownNames ⊆ p.givenNames := by
  obtain ⟨name, typeTag, _ | ps, internalType, indexed⟩ := p
  · rw [givenNames]
    exact List.Subset.refl _
  · rw [givenNames]
    exact List.subset_append_left _ _

theorem Param.isWord_name {p : Param} (h : ∀ name ∈ p.givenNames, IsWord name) : IsWord p.name := by
  by_cases hname : p.name = ""
  · rw [hname]
    decide
  · exact h _ (p.ownNames_subset (by simp [ownNames, hname]))

theorem Param.isWord_structName {p : Param} (h : ∀ name ∈ p.givenNames, IsWord name) :
    ∀ name ∈ p.structName?, IsWord name := by
  intro name hname
  have hname : p.structName? = some name := hname
  exact h _ (p.ownNames_subset (by simp [ownNames, hname]))

theorem isWord_name_of_mem_siblings {ps : List Param} (h : ∀ name ∈ siblingNames ps, IsWord name) :
    ∀ p ∈ ps, IsWord p.name := by
  induction ps with
  | nil => exact fun p hp => absurd hp List.not_mem_nil
  | cons p ps ih =>
    rw [siblingNames, List.forall_mem_append] at h
    simp only [List.forall_mem_cons]
    exact ⟨p.isWord_name h.1, ih h.2⟩

theorem Role.isWord_placeholder (role : Role) : IsWord role.placeholder := by
  cases role <;> decide

theorem Role.isWord_ending (role : Role) : IsWord role.ending := by
  cases role <;> decide

/-- What a parameter is called is a word, whether it is named or not. -/
theorem Param.isWord_nameOr {p : Param} (h : IsWord p.name) (role : Role) (index : Nat) :
    IsWord (p.nameOr role.placeholder index) := by
  unfold nameOr
  split
  · exact isWord_append.2 ⟨role.isWord_placeholder, isWord_toString index⟩
  · exact h

/-- The record of a parameter asks for a word if all names it is made of are words. -/
theorem isWord_paramRecordName (hscope : IsWord scope) {p : Param}
    (h : ∀ name ∈ p.givenNames, IsWord name) {fieldName : String} (hfield : IsWord fieldName) :
    IsWord (paramRecordName scope p fieldName role) := by
  have hstruct := p.isWord_structName h
  unfold paramRecordName
  split
  · rename_i name hname
    exact isWord_append.2 ⟨isWord_capitalize (hstruct name hname), role.isWord_ending⟩
  · simp only [isWord_append]
    exact ⟨⟨isWord_capitalize hscope, isWord_capitalize hfield⟩, role.isWord_ending⟩

mutual

/-- The records of a parameter and its components ask for words if all their names are words. -/
theorem Param.isWord_of_mem_recordNames (hscope : IsWord scope) :
    ∀ (p : Param) (position : Position), (∀ name ∈ p.givenNames, IsWord name) →
      ∀ candidate ∈ p.recordNames scope role position, IsWord candidate
  | ⟨_, _, none, _, _⟩, _, _, candidate, hmem => by
    rw [Param.recordNames] at hmem
    exact absurd hmem List.not_mem_nil
  | ⟨name, typeTag, some ps, internalType, indexed⟩, position, h, candidate, hmem => by
    have hname := Param.isWord_nameOr (Param.isWord_name h) role position.index
    rw [Param.recordNames, List.mem_append, List.mem_singleton] at hmem
    obtain hcomponent | rfl := hmem
    · rw [Param.givenNames, List.forall_mem_append] at h
      exact isWord_of_mem_siblingRecordNames hscope ps position.component 0 h.2 candidate hcomponent
    · exact isWord_paramRecordName hscope h hname

theorem isWord_of_mem_siblingRecordNames (hscope : IsWord scope) :
    ∀ (ps : List Param) (positionOf : Nat → Position) (index : Nat),
      (∀ name ∈ siblingNames ps, IsWord name) →
        ∀ candidate ∈ siblingRecordNames scope role positionOf index ps, IsWord candidate
  | [], _, _, _, candidate, hmem => by
    rw [siblingRecordNames] at hmem
    exact absurd hmem List.not_mem_nil
  | p :: ps, positionOf, index, h, candidate, hmem => by
    rw [siblingNames, List.forall_mem_append] at h
    rw [siblingRecordNames, List.mem_append] at hmem
    obtain hfirst | hrest := hmem
    · exact p.isWord_of_mem_recordNames hscope (positionOf index) h.1 candidate hfirst
    · exact isWord_of_mem_siblingRecordNames hscope ps positionOf (index + 1) h.2 candidate hrest

end

mutual

theorem Param.isWord_of_mem_bodies : ∀ (p : Param), (∀ name ∈ p.givenNames, IsWord name) →
    ∀ body ∈ p.bodies role, ∀ p ∈ body.params, IsWord p.name
  | ⟨_, _, none, _, _⟩, _, body, hbody => by
    rw [Param.bodies] at hbody
    exact absurd hbody List.not_mem_nil
  | ⟨_, _, some ps, _, _⟩, h, body, hbody => by
    rw [Param.givenNames, List.forall_mem_append] at h
    rw [Param.bodies, List.mem_append, List.mem_singleton] at hbody
    obtain hcomponent | rfl := hbody
    · exact isWord_of_mem_siblingBodies ps h.2 body hcomponent
    · exact isWord_name_of_mem_siblings h.2

theorem isWord_of_mem_siblingBodies : ∀ (ps : List Param), (∀ name ∈ siblingNames ps, IsWord name) →
    ∀ body ∈ siblingBodies role ps, ∀ p ∈ body.params, IsWord p.name
  | [], _, body, hbody => by
    rw [siblingBodies] at hbody
    exact absurd hbody List.not_mem_nil
  | p :: ps, h, body, hbody => by
    rw [siblingNames, List.forall_mem_append] at h
    rw [siblingBodies, List.mem_append] at hbody
    obtain hfirst | hrest := hbody
    · exact p.isWord_of_mem_bodies h.1 body hfirst
    · exact isWord_of_mem_siblingBodies ps h.2 body hrest

end

/-- The outputs that are looked at are outputs. -/
theorem siblingNames_outputsVisited {outputs : List Param} {traits : CallTraits}
    (h : ∀ name ∈ siblingNames outputs, IsWord name) :
    ∀ name ∈ siblingNames (outputsVisited outputs traits), IsWord name := by
  unfold outputsVisited
  split
  · exact h
  · exact fun name hname => absurd hname List.not_mem_nil

/-- The records of members that are named by words ask for words. -/
theorem Member.isWord_of_mem_asks {m : Member} (h : ∀ name ∈ m.givenNames, IsWord name) :
    ∀ ask ∈ m.asks, IsWord ask.1 := by
  cases m with
  | constructor inputs traits =>
    have hscope : IsWord constructorScope := by decide
    simp only [asks, List.forall_mem_map]
    exact isWord_of_mem_siblingRecordNames hscope inputs _ 0 h
  | function name inputs outputs traits =>
    simp only [givenNames, List.forall_mem_cons, List.forall_mem_append] at h
    obtain ⟨hname, hinputs, houtputs⟩ := h
    have hown : IsWord (outputsRecordName name) :=
      isWord_append.2 ⟨isWord_capitalize hname, Role.response.isWord_ending⟩
    simp only [asks, outputsAsk, List.forall_mem_append, List.forall_mem_map]
    refine ⟨isWord_of_mem_siblingRecordNames hname inputs _ 0 hinputs,
      isWord_of_mem_siblingRecordNames hname _ _ 0 (siblingNames_outputsVisited houtputs), ?_⟩
    split
    · simpa using hown
    · exact List.forall_mem_nil _
  | event name inputs anonymous =>
    simp only [givenNames, List.forall_mem_cons] at h
    obtain ⟨hname, hinputs⟩ := h
    have hown : IsWord (eventRecordName name) :=
      isWord_append.2 ⟨isWord_capitalize hname, Role.event.isWord_ending⟩
    simp only [asks, eventAsks, List.forall_mem_append, List.forall_mem_map]
    refine ⟨isWord_of_mem_siblingRecordNames hname inputs _ 0 hinputs, ?_⟩
    split
    · exact List.forall_mem_nil _
    · simpa using hown
  | nonCallable kind name => exact List.forall_mem_nil _

theorem Member.isWord_of_mem_inputs {m : Member} (h : ∀ name ∈ m.givenNames, IsWord name) :
    ∀ p ∈ m.inputs, IsWord p.name := by
  refine isWord_name_of_mem_siblings fun name hname => h name ?_
  cases m with
  | constructor inputs traits => exact hname
  | function name inputs outputs traits =>
    exact List.mem_cons_of_mem _ (List.mem_append_left _ hname)
  | event name inputs anonymous => exact List.mem_cons_of_mem _ hname
  | nonCallable kind name => exact hname

/-- The siblings that make their records are named by words as well. -/
theorem Member.isWord_of_mem_bodies {m : Member} (h : ∀ name ∈ m.givenNames, IsWord name) :
    ∀ body ∈ m.bodies, ∀ p ∈ body.params, IsWord p.name := by
  cases m with
  | constructor inputs traits => exact isWord_of_mem_siblingBodies inputs h
  | function name inputs outputs traits =>
    simp only [givenNames, List.forall_mem_cons, List.forall_mem_append] at h
    obtain ⟨-, hinputs, houtputs⟩ := h
    simp only [bodies, outputBodies, List.forall_mem_append]
    refine ⟨isWord_of_mem_siblingBodies inputs hinputs,
      isWord_of_mem_siblingBodies _ (siblingNames_outputsVisited houtputs), ?_⟩
    split
    · simpa using isWord_name_of_mem_siblings houtputs
    · exact List.forall_mem_nil _
  | event name inputs anonymous =>
    simp only [givenNames, List.forall_mem_cons] at h
    obtain ⟨-, hinputs⟩ := h
    simp only [bodies, List.forall_mem_append]
    refine ⟨isWord_of_mem_siblingBodies inputs hinputs, ?_⟩
    split
    · exact List.forall_mem_nil _
    · simpa using isWord_name_of_mem_siblings hinputs
  | nonCallable kind name => exact List.forall_mem_nil _

end Names

/-! ## Names of records -/

/-- The records of members that are named by words are named by words. -/
theorem Bindings.isWord_recordNames {options : Options} {ms : List Member} {b : Bindings}
    (h : Bindings.ofMembers options ms = .ok b)
    (hnames : ∀ m ∈ ms, ∀ name ∈ m.givenNames, IsWord name) :
    ∀ record ∈ b.records, IsWord record.name := by
  intro record hrecord
  obtain ⟨candidate, hask, hnumbered⟩ := exists_ask_of_mem_records h hrecord
  obtain ⟨m, hm, hask⟩ := List.mem_flatMap.1 hask
  have hcandidate : IsWord candidate := m.isWord_of_mem_asks (hnames m hm) _ hask
  rcases hnumbered with hsame | ⟨n, -, hnumber⟩
  · rw [hsame]
    exact hcandidate
  · rw [hnumber]
    exact isWord_append.2 ⟨hcandidate, isWord_toString n⟩

/-- The fixed types of a module have words for names, whatever they are to begin with. -/
theorem Bindings.isWord_fixedNames {options : Options} {ms : List Member} {b : Bindings}
    (h : Bindings.ofMembers options ms = .ok b) : ∀ name ∈ b.names.toList, IsWord name := by
  have hnames : b.names = moduleNames options.start := by
    obtain ⟨c, -, rfl⟩ := ofMembers_eq_ok.1 h
    rfl
  have hfixed : ∀ ending ∈ fixedNames, IsWord ending := by decide
  have hstart : IsWord ((options.start.map Text.upperCamelCase).getD "") := by
    rcases options.start with _ | start
    · decide
    · exact isWord_upperCamelCase start
  intro name hname
  rw [hnames, moduleNames, ModuleNames.mem_toList_startingWith] at hname
  obtain ⟨ending, hending, rfl⟩ := hname
  exact isWord_append.2 ⟨hstart, hfixed ending hending⟩

/-- Everything that a module of such members exports is called by a word. -/
theorem Bindings.isWord_exportedNames {options : Options} {ms : List Member} {b : Bindings}
    (h : Bindings.ofMembers options ms = .ok b)
    (hnames : ∀ m ∈ ms, ∀ name ∈ m.givenNames, IsWord name) :
    ∀ name ∈ b.exportedNames, IsWord name := by
  simp only [exportedNames, List.forall_mem_append, List.forall_mem_map]
  exact ⟨isWord_fixedNames h, isWord_recordNames h hnames⟩

end AbiTypings
