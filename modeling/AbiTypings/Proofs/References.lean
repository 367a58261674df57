import AbiTypings.Proofs.BoundNames
import AbiTypings.Proofs.Closure
import AbiTypings.Proofs.ReadingTypings
import AbiTypings.Proofs.WordNames

/-!
# What typings refer to

The types in a module come from four places: the tokens that a dialect writes for elementary types,
the names of records, the types that a dialect wraps results and overrides in, and the numbers of
outputs.  This module follows each of them into the texts of fields, event filters and methods.  The
property `P` is left open: whatever holds of the names that a module has at hand holds of all that
its texts name.

* **Tokens** — `refers_arrayToken`, `refers_unionPart` and `Dialect.refers_elementary`.
* **Signatures** — `Field.refers_text`, `Method.Fits.refers_text` and
  `EventFilter.Fits.refers_text`: where keys are words, the text of a signature names the types that
  it is put together from.
* **Members** — `Member.fits_method` and `Member.fits_filter`: what a member is bound to fits, and
  `Bindings.Admits.refers_yields` says so of the record that siblings yield.
* **Bindings** — `Bindings.Admits.refers_texts` puts these together.
-/

namespace AbiTypings

/-! ## Tokens -/

/-- The types that every module has without importing them. -/
def builtinTypes : List String :=
  ["string", "number", "boolean", "bigint", "void", "Promise", "Error"]

/-- The types that a module of a dialect has at hand, whatever it is about: those that it imports,
and those that need no import. -/
def Dialect.knownTypes (dialect : Dialect) : List String :=
  builtinTypes ++ dialect.importedNames

section Tokens

variable {P : String → Prop} {dialect : Dialect}

/-- Brackets behind a token name no type. -/
theorem Refers.brackets {s : String} (h : Refers P s) (n : Nat) :
    Refers P (s ++ bracketPairs n) := by
  refine h.append_noWord fun c hc => ?_
  rcases mem_bracketPairs c hc with rfl | rfl <;> decide

theorem Refers.parens {s : String} (h : Refers P s) : Refers P ("(" ++ s ++ ")") :=
  (noWord_append (by decide) h).append_noWord (by decide)

theorem refers_arrayToken {base : String} (h : Refers P base) (dims : List Dimension) :
    Refers P (arrayToken base dims) := by
  unfold arrayToken
  rw [brackets_eq_bracketPairs]
  split
  · exact h.parens.brackets _
  · exact h.brackets _

theorem refers_unionPart {type : String} (h : Refers P type) : Refers P (unionPart type) := by
  unfold unionPart
  split
  · exact h.parens
  · exact h

/-- A dialect has the types at hand that it writes for elementary types. -/
theorem Dialect.refers_elementary {type : Elementary} {side : Side} {base : String}
    (h : type.token? dialect.profile side = some base) :
    Refers (· ∈ dialect.knownTypes) base := by
  have hall : ∀ base ∈ ["boolean", "string", dialect.profile.integerInput,
      dialect.profile.integerOutput, dialect.profile.bytesInput, dialect.profile.bytesOutput],
      Refers (· ∈ dialect.knownTypes) base := by
    cases dialect <;> decide +kernel
  refine hall base ?_
  cases type <;> cases side <;> simp_all [Elementary.token?]

end Tokens

/-! ## Signatures -/

/-- A property has all the names that a module of some bindings has at hand: of the types that its
dialect knows, of what it exports, which must be words, and numbers. -/
structure Bindings.Admits (b : Bindings) (P : String → Prop) : Prop where
  known : ∀ name ∈ b.dialect.knownTypes, P name
  exported : ∀ name ∈ b.exportedNames, IsWord name ∧ P name
  numeral : ∀ n : Nat, P (toString n)

section Signatures

variable {P : String → Prop} {b : Bindings}

theorem Bindings.Admits.refers_known (hP : b.Admits P) {s : String}
    (h : Refers (· ∈ b.dialect.knownTypes) s) : Refers P s :=
  h.mono hP.known

theorem Bindings.Admits.refers_builtin (hP : b.Admits P) {s : String}
    (h : Refers (· ∈ builtinTypes) s) : Refers P s :=
  hP.refers_known (h.mono fun _ => List.mem_append_left _)

/-- What stands before a label is a key and names no type. -/
theorem refers_labelled {key label type : String} (hkey : IsWord key) (hlabel : NoWord label)
    (hbegins : BeginsLabelled label) (htype : Refers P type) :
    Refers P (key ++ label ++ type) := by
  have hne : label ≠ "" := by
    rintro rfl
    exact absurd hbegins (by decide)
  exact (Refers.label hkey (.of_noWord hlabel) hbegins).append_of_ends htype
    (hlabel.endsApart.append hne key)

theorem Refers.entry {text : String} (h : Refers P text) : Refers P (text ++ ";") :=
  h.append_noWord (by decide)

theorem Field.refers_text {field : Field} (hkey : IsWord field.key) (htype : Refers P field.type) :
    Refers P field.text :=
  refers_labelled hkey (by decide) (by decide) htype

theorem refers_callName {name : String} (h : IsWord name) : Refers P (name ++ "(") :=
  .label h (.of_noWord (by decide)) (by decide)

/-- A call: its name, its parameters, and the type of what it returns. -/
theorem refers_call {name returns : String} {params : List String} (hname : Refers P (name ++ "("))
    (hparams : ∀ part ∈ params, Refers P part) (hreturns : Refers P returns) :
    Refers P (name ++ "(" ++ ", ".intercalate params ++ "): " ++ returns) := by
  have hjoined : Refers P (", ".intercalate params) := .intercalate (by decide) (by decide) hparams
  have hopen := hname.append_of_ends hjoined (EndsApart.append (by decide) (by decide) name)
  exact hopen.separated (by decide) (by decide) hreturns

/-! ### Methods -/

/-- The types in a method have a property, and its names are words. -/
structure Method.Fits (P : String → Prop) (method : Method) : Prop where
  name : IsWord method.name
  keys : ∀ key ∈ method.boundNames, IsWord key
  params : ∀ field ∈ method.params, Refers P field.type
  overrides : ∀ overrides ∈ method.overrides, Refers P overrides.type
  returns : Refers P method.returns

/-- A method refers to the types of its parameters and of what it returns. -/
theorem Method.Fits.refers_text {method : Method} (h : method.Fits P) : Refers P method.text := by
  have hkeys := h.keys
  simp only [Method.boundNames, List.forall_mem_append, List.forall_mem_map] at hkeys
  have hparams : ∀ text ∈
      method.params.map Field.text ++ method.overrides.toList.map Overrides.text,
      Refers P text := by
    simp only [List.forall_mem_append, List.forall_mem_map]
    refine ⟨fun field hmem => Field.refers_text (hkeys.1 field hmem) (h.params field hmem), ?_⟩
    intro overrides hmem
    exact refers_labelled (hkeys.2 overrides hmem) (by decide) (by decide)
      (h.overrides overrides (Option.mem_toList.1 hmem))
  unfold Method.text
  dsimp only
  split
  · have hquoted : Refers P ("'" ++ method.name ++ "'") := by
      rw [String.append_assoc]
      exact .noWord_append (by decide) (.label h.name (.of_noWord (by decide)) (by decide))
    exact refers_call (hquoted.append_noWord (by decide)) hparams h.returns
  · exact refers_call (refers_callName h.name) hparams h.returns

/-! ### Event filters -/

/-- The types in an event filter have a property, and its names are words. -/
structure EventFilter.Fits (P : String → Prop) (filter : EventFilter) : Prop where
  name : IsWord filter.name
  keys : ∀ p ∈ filter.params, IsWord p.name
  params : ∀ p ∈ filter.params, Refers P p.type
  style : ∀ type ∈ filter.style.strings, Refers P type

theorem EventParam.refers_filterText {p : EventParam} (hname : IsWord p.name)
    (htype : Refers P p.type) : Refers P p.filterText := by
  have hpart := refers_unionPart htype
  have hone : Refers P (p.name ++ "?: " ++ unionPart p.type) :=
    refers_labelled hname (by decide) (by decide) hpart
  have htwo : Refers P (p.name ++ "?: " ++ unionPart p.type ++ " | " ++ unionPart p.type) :=
    hone.separated (by decide) (by decide) hpart
  exact htwo.append_noWord (by decide)

theorem refers_filterObject {params : List EventParam}
    (h : ∀ p ∈ params, IsWord p.name ∧ Refers P p.type) : Refers P (filterObject params) := by
  unfold filterObject
  split
  · exact .of_noWord (by decide)
  · have hparts : ∀ text ∈ (params.filter (·.indexed)).map EventParam.filterText,
        Refers P text := by
      simp only [List.forall_mem_map]
      intro p hp
      obtain ⟨hname, htype⟩ := h p (List.mem_of_mem_filter hp)
      exact EventParam.refers_filterText hname htype
    have hjoined :
        Refers P ("; ".intercalate ((params.filter (·.indexed)).map EventParam.filterText)) :=
      .intercalate (by decide) (by decide) hparts
    exact (Refers.noWord_append (by decide) hjoined).append_noWord (by decide)

theorem EventFilter.Fits.refers_text {filter : EventFilter} (hP : b.Admits P) (h : filter.Fits P) :
    Refers P filter.text := by
  obtain ⟨name, params, style⟩ := filter
  obtain ⟨hname, hkeys, hparams, hstyle⟩ := h
  cases style with
  | positional returns =>
    have hparts : ∀ text ∈ params.map (fun p => p.name ++ ": " ++ p.type), Refers P text := by
      simp only [List.forall_mem_map]
      exact fun p hp => refers_labelled (hkeys p hp) (by decide) (by decide) (hparams p hp)
    exact refers_call (refers_callName hname) hparts (hstyle returns List.mem_cons_self)
  | optionsObject returns eventData =>
    simp only [FilterStyle.strings, List.forall_mem_cons] at hstyle
    have hobject := refers_filterObject fun p hp => ⟨hkeys p hp, hparams p hp⟩
    -- the parts that are always the same name types that need no import
    have hopen : Refers P (name ++ "(parameters: \x7b filter?: ") :=
      .label hname (hP.refers_builtin (by decide +kernel)) (by decide)
    have hfilter := hopen.append_of_ends hobject (EndsApart.append (by decide) (by decide) name)
    have hoptions := hfilter.append_of_begins
      (t := "; fromBlock?: number; toBlock?: 'latest' | number; topics?: string[] \x7d")
      (hP.refers_builtin (by decide +kernel)) (by decide)
    have hcallback := hoptions.append_of_begins (t := ", callback?: (error: Error, event: ")
      (hP.refers_builtin (by decide +kernel)) (by decide)
    have hdata := hcallback.append_of_ends hstyle.2.1 (EndsApart.append (by decide) (by decide) _)
    have hvoid := hdata.append_of_begins (t := ") => void): ")
      (hP.refers_builtin (by decide +kernel)) (by decide)
    exact hvoid.append_of_ends hstyle.1 (EndsApart.append (by decide) (by decide) _)

end Signatures

/-! ## Members -/

section Members

variable {P : String → Prop} {b : Bindings} {role : Role} {m : Member} {r s : Registry}

/-- Tokens of elementary types refer to types that a module may name. -/
theorem Bindings.Admits.refers_elementary (hP : b.Admits P) {token : String}
    (h : IsElementaryToken b.dialect.profile role token) : Refers P token := by
  obtain ⟨type, base, dims, htoken, rfl⟩ := h
  exact refers_arrayToken (hP.refers_known (Dialect.refers_elementary htoken)) dims

theorem Bindings.Admits.refers_record (hP : b.Admits P) {record : Record} (h : record ∈ b.records) :
    Refers P record.name := by
  have hexported : record.name ∈ b.exportedNames :=
    List.mem_append_right _ (List.mem_map.2 ⟨record, h, rfl⟩)
  obtain ⟨hword, hname⟩ := hP.exported _ hexported
  exact .of_isWord hword hname

theorem Bindings.Admits.refers_names (hP : b.Admits P) {token : String}
    (h : NamesRecord b.records role token) : Refers P token := by
  obtain ⟨record, hrecord, -, depth, rfl⟩ := h
  exact (hP.refers_record hrecord).brackets depth

/-- Tokens of siblings refer to types that a module may name. -/
theorem Bindings.Admits.refers_types (hP : b.Admits P) {ps : List Param} {types : List String}
    (h : WrittenAll b.dialect.profile role b.records ps types) : ∀ type ∈ types, Refers P type := by
  intro type htype
  rcases h.token_cases type htype with helementary | hnames
  · exact hP.refers_elementary helementary
  · exact hP.refers_names hnames

theorem Bindings.Admits.refers_result (hP : b.Admits P) {effect : CallEffect}
    {outputs : List Param} {result : Result}
    (h : WrittenResult b.dialect.profile b.records effect outputs result) :
    Refers P result.text := by
  have hvoid : Refers P Result.void.text := hP.refers_builtin (by decide)
  match outputs with
  | [] =>
    obtain rfl : result = .void := h
    exact hvoid
  | [output] =>
    obtain ⟨token, rfl, hwritten⟩ := h
    exact hP.refers_types (.cons hwritten .nil) token List.mem_cons_self
  | first :: second :: others =>
    unfold WrittenResult at h
    dsimp only at h
    split at h
    · obtain ⟨record, hrecord, rfl, -⟩ := h
      exact hP.refers_record hrecord
    · obtain rfl : result = .void := h
      exact hvoid

/-- What a call hands back that only reads is wrapped in a type that the dialect knows. -/
theorem Dialect.wrapResult_readOnly (dialect : Dialect) (result : Result) :
    ∃ wrapper, wrapResult dialect.profile .readOnly result = wrapper ++ result.text ++ ">" ∧
      EndsApart wrapper ∧ Refers (· ∈ dialect.knownTypes) wrapper := by
  cases dialect with
  | web3 => exact ⟨"MethodConstantReturnContext" ++ "<", rfl, by decide, by decide +kernel⟩
  | ethersV5 => exact ⟨"Promise<", rfl, by decide, by decide +kernel⟩
  | ethersV6 => exact ⟨"Promise<", rfl, by decide, by decide +kernel⟩

theorem Bindings.Admits.refers_wrapResult (hP : b.Admits P) (effect : CallEffect) {result : Result}
    (h : Refers P result.text) : Refers P (wrapResult b.dialect.profile effect result) := by
  by_cases heffect : effect = .readOnly
  · obtain ⟨wrapper, heq, hends, hknown⟩ := b.dialect.wrapResult_readOnly result
    rw [heffect, heq]
    have hopened := (hP.refers_known hknown).append_of_ends h hends
    exact hopened.append_noWord (by decide)
  · -- what is left is one text for each dialect and effect
    rw [wrapResult_of_ne heffect]
    refine hP.refers_known ?_
    cases b.dialect <;> cases effect <;> decide +kernel

theorem Bindings.Admits.refers_overrides (hP : b.Admits P) (effect : CallEffect) :
    ∀ overrides ∈ overridesOf b.dialect.profile effect, Refers P overrides.type := by
  have hall : ∀ overrides ∈ overridesOf b.dialect.profile effect,
      Refers (· ∈ b.dialect.knownTypes) overrides.type := by
    cases b.dialect <;> cases effect <;> decide +kernel
  exact fun overrides hmem => hP.refers_known (hall overrides hmem)

theorem Bindings.Admits.refers_filterStyle (hP : b.Admits P) :
    ∀ type ∈ b.dialect.profile.eventFilter.strings, Refers P type := by
  have hall : ∀ type ∈ b.dialect.profile.eventFilter.strings,
      Refers (· ∈ b.dialect.knownTypes) type := by
    cases b.dialect <;> decide +kernel
  exact fun type hmem => hP.refers_known (hall type hmem)

theorem isWord_siblingKeys {ps : List Param} (h : ∀ p ∈ ps, IsWord p.name) (role : Role)
    (index : Nat) : ∀ key ∈ siblingKeys role.placeholder index ps, IsWord key := by
  induction ps generalizing index with
  | nil => exact List.forall_mem_nil _
  | cons p ps ih =>
    rw [List.forall_mem_cons] at h
    rw [siblingKeys, List.forall_mem_cons]
    exact ⟨p.isWord_nameOr h.1 role index, ih h.2 (index + 1)⟩

theorem Dialect.isWord_overridesNames (dialect : Dialect) :
    ∀ name ∈ dialect.profile.overridesNames, IsWord name := by
  cases dialect <;> decide

/-- A method of the bindings refers to types that a module may name. -/
theorem Member.fits_method {action : Registering Method} {method : Method} (hP : b.Admits P)
    (hnames : ∀ name ∈ m.givenNames, IsWord name) (hr : r.WellFormed)
    (haction : m.method? b.dialect.profile = some action)
    (hrun : action.run r = (.ok method, s)) (hsub : s.records ⊆ b.records) : method.Fits P := by
  have hwritten := (m.writtenInMethod_of_run hr haction hrun).mono hsub
  have hkeys : ∀ key ∈ method.boundNames, IsWord key := by
    rw [m.boundNames_method haction hrun, List.forall_mem_append]
    exact ⟨isWord_siblingKeys (m.isWord_of_mem_inputs hnames) .request 0,
      b.dialect.isWord_overridesNames⟩
  cases m with
  | constructor inputs traits =>
    cases haction
    obtain ⟨params, -, rfl⟩ := Method.ofConstructor_eq_ok.1 hrun
    have hvoid : Refers P Result.void.text := hP.refers_builtin (by decide)
    have hconstructor : IsWord constructorName := by decide
    exact {
      name := hconstructor
      keys := hkeys
      params := List.forall_mem_map.1 (hP.refers_types hwritten.1)
      overrides := hP.refers_overrides _
      returns := hP.refers_wrapResult _ hvoid }
  | function name inputs outputs traits =>
    cases haction
    obtain ⟨params, t, result, -, hresult, rfl⟩ := Method.ofFunction_eq_ok.1 hrun
    obtain ⟨hinputs, -, result', hresult', hreturns⟩ := hwritten
    exact {
      name := hnames name List.mem_cons_self
      keys := hkeys
      params := List.forall_mem_map.1 (hP.refers_types hinputs)
      overrides := hP.refers_overrides _
      returns := hreturns ▸ hP.refers_wrapResult _ (hP.refers_result hresult') }
  | event name inputs anonymous => cases haction
  | nonCallable kind name => cases haction

theorem Member.fits_filter {action : Registering EventFilter} {filter : EventFilter}
    (hP : b.Admits P) (hnames : ∀ name ∈ m.givenNames, IsWord name) (hr : r.WellFormed)
    (haction : m.filter? b.dialect.profile = some action)
    (hrun : action.run r = (.ok filter, s)) (hsub : s.records ⊆ b.records) : filter.Fits P := by
  have hwritten := (m.writtenInFilter_of_run hr haction hrun).mono hsub
  have hkeys : ∀ key ∈ filter.boundNames, IsWord key := by
    rw [m.boundNames_filter haction hrun]
    exact isWord_siblingKeys (m.isWord_of_mem_inputs hnames) .request 0
  cases m with
  | event name inputs anonymous =>
    cases haction
    obtain ⟨fields, t, -, -, rfl⟩ := EventFilter.ofEvent_eq_ok.1 hrun
    exact {
      name := hnames name List.mem_cons_self
      keys := List.forall_mem_map.1 hkeys
      params := List.forall_mem_map.1 (hP.refers_types hwritten.1)
      style := hP.refers_filterStyle }
  | constructor inputs traits => cases haction
  | function name inputs outputs traits => cases haction
  | nonCallable kind name => cases haction

/-- The fields of a record that siblings yield. -/
theorem Bindings.Admits.refers_yields (hP : b.Admits P) {body : RecordBody} {record : Record}
    (h : body.Yields b.dialect.profile b.records record)
    (hcounted : body.counted → body.role = .response) (hnames : ∀ p ∈ body.params, IsWord p.name) :
    ∀ field ∈ record.fields, Refers P field.text := by
  have hkeys : ∀ key ∈ record.fields.map Field.key, IsWord key := by
    intro key hkey
    rw [(RecordBody.keys_perm h.makes).mem_iff, List.mem_append, RecordBody.otherKeys,
      List.mem_append] at hkey
    rcases hkey with hsibling | hposition | hlength
    · exact isWord_siblingKeys hnames body.role 0 key hsibling
    · split at hposition
      · obtain ⟨n, -, rfl⟩ := List.mem_map.1 hposition
        exact isWord_toString n
      · exact absurd hposition List.not_mem_nil
    · rw [RecordBody.mem_lengthKeys hlength]
      decide
  intro field hfield
  refine Field.refers_text (hkeys _ (List.mem_map_of_mem hfield)) ?_
  rcases h.field_cases hcounted hfield with helementary | ⟨-, -, n, rfl⟩ | hnamed
  · exact hP.refers_elementary helementary
  · exact .of_isWord (isWord_toString n) (hP.numeral n)
  · exact hP.refers_names hnamed

end Members

/-! ## Bindings -/

section Compiled

variable {P : String → Prop} {options : Options} {ms : List Member} {b : Bindings}

/-- **What bindings refer to.**  In the bindings of members that are named by words, every record,
filter and method names only such types as the module may name. -/
theorem Bindings.Admits.refers_texts (hP : b.Admits P)
    (h : Bindings.ofMembers options ms = .ok b)
    (hnames : ∀ m ∈ ms, ∀ name ∈ m.givenNames, IsWord name) :
    (∀ record ∈ b.records, ∀ field ∈ record.fields, Refers P field.text) ∧
      (∀ filter ∈ b.events, Refers P filter.text) ∧
        ∀ method ∈ b.methods, Refers P method.text := by
  have hdialect := dialect_eq h
  obtain ⟨hmethods, hfilters⟩ := forall₂_of_ofMembers
    (P := fun _ method => method.Fits P) (Q := fun _ filter => filter.Fits P) h
    (fun m hm action method r s haction hr hrun hsub =>
      m.fits_method hP (hnames m hm) hr (hdialect ▸ haction) hrun hsub)
    (fun m hm action filter r s haction hr hrun hsub =>
      m.fits_filter hP (hnames m hm) hr (hdialect ▸ haction) hrun hsub)
  refine ⟨fun record hrecord => ?_, fun filter hfilter => ?_, fun method hmethod => ?_⟩
  · obtain ⟨body, hbody, hyields⟩ := (yields_of_ofMembers h).1 record hrecord
    obtain ⟨m, hm, hbody⟩ := List.mem_flatMap.1 hbody
    rw [← hdialect] at hyields
    exact hP.refers_yields hyields (Member.role_of_counted hbody)
      (m.isWord_of_mem_bodies (hnames m hm) body hbody)
  · obtain ⟨m, hfits⟩ := exists_forall₂_iff.1 ⟨_, hfilters.flip⟩ filter hfilter
    exact hfits.refers_text hP
  · obtain ⟨m, hfits⟩ := exists_forall₂_iff.1 ⟨_, hmethods.flip⟩ method hmethod
    exact hfits.refers_text

end Compiled
end AbiTypings
