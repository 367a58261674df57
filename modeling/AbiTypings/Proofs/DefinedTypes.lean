import AbiTypings.Proofs.ReadingTypes
import AbiTypings.Proofs.References

/-!
# The types in a module are defined

A typings module names types that it imports, types that it exports, types that need no import, and
numbers.  Which types a dialect needs is decided by its tokens, its results, its overrides and its
event filters; what it imports is a list of its own, and so is what the companion module exports.
This module says that these agree.

* **Companions** — `mem_aliases_companionLines`: what a dialect imports from its companion module is
  exported there.
* **Modules** — `Bindings.types_defined` reads imports, exports and types from the lines of a
  module, for all members that are named by identifiers, in any dialect and style.
-/

namespace AbiTypings

open Layout

/-! ## Companions -/

section Companion

variable {dialect : Dialect} {library : Option String} {style : ModuleStyle}

/-- A companion module has the first line of each of its types. -/
theorem headLine_mem_companionLines {type : CompanionType} (h : type ∈ companionTypes dialect) :
    "export type " ++ type.name ++ " =" ++ " \x7b" ∈ companionLines dialect library style := by
  have hstep : Companion.typeStep type ∈ Companion.steps ⟨dialect, library, style.typeOnly⟩ := by
    rw [Companion.steps]
    refine List.mem_append_left _ (List.mem_append_right _ ?_)
    exact mem_intersperse_of_mem (List.mem_map_of_mem h)
  obtain ⟨entries, hlines⟩ := lines_typeStep style.indentation.unit type
  rw [companionLines_eq, List.mem_flatMap]
  refine ⟨_, hstep, ?_⟩
  rw [ModuleStyle.margin, hlines]
  exact List.mem_cons_self

theorem returnContext_mem_companionLines :
    "export type MethodReturnContext = MethodPayableReturnContext;" ∈
      companionLines .web3 library style := by
  rw [companionLines_eq, List.mem_flatMap]
  refine ⟨.line "export type MethodReturnContext = MethodPayableReturnContext;", ?_, ?_⟩
  · rw [Companion.steps, if_pos rfl]
    exact List.mem_append_right _ (List.mem_cons_of_mem _ List.mem_cons_self)
  · simp [Step.lines, Step.write, ModuleStyle.margin, line_at_left]

/-- What is imported from the companion module is exported by it. -/
theorem mem_aliases_companionLines (dialect : Dialect) (library : Option String)
    (style : ModuleStyle) :
    ∀ name ∈ dialect.companionNames,
      name ∈ (companionLines dialect library style).filterMap aliasName? := by
  have hall : ∀ name ∈ dialect.companionNames,
      (∃ type ∈ companionTypes dialect,
        aliasName? ("export type " ++ type.name ++ " =" ++ " \x7b") = some name) ∨
      (dialect = .web3 ∧ aliasName?
        "export type MethodReturnContext = MethodPayableReturnContext;" = some name) := by
    cases dialect <;> decide +kernel
  intro name hname
  rw [List.mem_filterMap]
  obtain ⟨type, htype, halias⟩ | ⟨rfl, halias⟩ := hall name hname
  · exact ⟨_, headLine_mem_companionLines htype, halias⟩
  · exact ⟨_, returnContext_mem_companionLines, halias⟩

end Companion

/-! ## Modules -/

section Modules

variable {options : Options} {ms : List Member} {b : Bindings}

/-- What the context stands for are types that are imported and exported. -/
theorem Bindings.Admits.refers_contextText {P : String → Prop} (hP : b.Admits P) :
    Refers P (contextText b) := by
  have hexported : ∀ name ∈ b.names.toList, Refers P name := by
    intro name hname
    obtain ⟨hword, hP⟩ := hP.exported name (List.mem_append_left _ hname)
    exact .of_isWord hword hP
  simp only [ModuleNames.toList, List.forall_mem_cons] at hexported
  obtain ⟨hcontract, -, hmethods, -, hevents, heventsContext, -⟩ := hexported
  have hnames : Refers P (", ".intercalate
      [b.names.contract, b.names.methodNames, b.names.eventsContext, b.names.events]) := by
    refine .intercalate (by decide) (by decide) ?_
    simp only [List.forall_mem_cons]
    exact ⟨hcontract, hmethods, heventsContext, hevents, List.forall_mem_nil _⟩
  have htype : Refers P ("= " ++ b.dialect.profile.contextType ++ "<") := by
    refine hP.refers_known ?_
    cases b.dialect <;> decide +kernel
  have hopen := htype.append_of_ends hnames (EndsApart.append (by decide) (by decide) _)
  exact hopen.append_noWord (by decide)

/-- **Every type in a module is defined.**  Let any members be bound, in any dialect and with any
options, that are named by identifiers, and let their module be written in any style.  A type that
its context, its fields, its event filters or its methods name is imported by the module, or is
exported by it, or needs no import, or is a number.  The last import is that of the companion
module; what it lists is exported by the companion module of the dialect, for whatever library and
in whatever style that one is written.  All other imports are from the client library and the module
of contexts. -/
theorem Bindings.types_defined (h : Bindings.ofMembers options ms = .ok b)
    (hnames : ∀ m ∈ ms, ∀ name ∈ m.givenNames, isIdentifier name) (style : ModuleStyle) :
    let unit := style.indentation.unit
    let lines := typingsLines b style
    typingsText b style = unlines lines ∧
      (∀ text ∈ readTypes unit lines, ∀ name ∈ typeNames text,
        (∃ i ∈ readImports lines, name ∈ i.names) ∨ name ∈ readExports unit lines ∨
          name ∈ builtinTypes ∨ ∃ n : Nat, name = toString n) ∧
      ∃ others companion, readImports lines = others ++ [companion] ∧
        (∀ i ∈ others, i.source = b.libraryModule ∨ i.source = contextModule) ∧
        companion.source = style.companionModule ∧
        ∀ library style',
          companionText options.dialect library style' =
            unlines (companionLines options.dialect library style') ∧
          companion.names ⊆
            (companionLines options.dialect library style').filterMap aliasName? := by
  intro unit lines
  have hdialect := dialect_eq h
  have hwords : ∀ m ∈ ms, ∀ name ∈ m.givenNames, IsWord name :=
    fun m hm name hname => isWord_of_isIdentifier (hnames m hm name hname)
  have hexported := isWord_exportedNames h hwords
  have hfixed := isWord_fixedNames h
  have hP : b.Admits fun name => (∃ i ∈ readImports lines, name ∈ i.names) ∨
      name ∈ readExports unit lines ∨ name ∈ builtinTypes ∨ ∃ n : Nat, name = toString n := {
    known := fun name hname => by
      rw [Dialect.knownTypes, List.mem_append, ← b.importedNames_eq style] at hname
      rcases hname with hbuiltin | himported
      · exact .inr (.inr (.inl hbuiltin))
      · rw [readImports_typingsLines, ← List.mem_flatMap]
        exact .inl himported
    exported := fun name hname =>
      ⟨hexported name hname, .inr (.inl (mem_readExports hfixed name hname))⟩
    numeral := fun n => .inr (.inr (.inr ⟨n, rfl⟩)) }
  obtain ⟨hrecords, hfilters, hmethods⟩ := hP.refers_texts h hwords
  obtain ⟨others, himports, hothers⟩ :=
    typingsImports_eq b.dialect b.libraryModule style.companionModule
  refine ⟨typingsText_eq b style, ?_, others, ⟨b.dialect.companionNames, style.companionModule⟩, ?_,
    hothers, rfl, fun library style' => ?_⟩
  · have hcontext : IsWord b.names.contractContext := hfixed _ (by simp [ModuleNames.toList])
    rw [readTypes_typingsLines hcontext]
    simp only [List.forall_mem_cons, List.forall_mem_append, List.forall_mem_flatMap,
      List.forall_mem_map]
    exact ⟨hP.refers_contextText, fun record hrecord field hfield =>
      (hrecords record hrecord field hfield).entry, fun filter hfilter =>
        (hfilters filter hfilter).entry, fun method hmethod => (hmethods method hmethod).entry⟩
  · rw [readImports_typingsLines]
    exact himports
  · rw [← hdialect]
    exact ⟨companionText_eq _ _ _, mem_aliases_companionLines _ _ _⟩

end Modules

/-- A function that takes a struct and returns two values, and an event. -/
def settleMembers : List Member :=
  [.function "settle"
    [⟨"order", "tuple", some [⟨"maker", "address", none, none, false⟩,
      ⟨"amounts", "uint256[]", none, none, false⟩], some "struct Market.Order", false⟩]
    [⟨"", "bool", none, none, false⟩, ⟨"paid", "uint256", none, none, false⟩]
    (.ofMutability .view),
    .event "Settled" [⟨"maker", "address", none, none, true⟩] false]

theorem Bindings.types_defined_settle :
    (∀ m ∈ settleMembers, ∀ name ∈ m.givenNames, isIdentifier name) ∧
      ∃ b, Bindings.ofMembers ⟨.ethersV6, none, none⟩ settleMembers = .ok b ∧
        "settle(order: OrderRequest, overrides?: ContractCallOverrides): Promise<SettleResponse>;" ∈
          readTypes "  " (typingsLines b {}) ∧
        ∀ text ∈ readTypes "  " (typingsLines b {}), ∀ name ∈ typeNames text,
          (∃ i ∈ readImports (typingsLines b {}), name ∈ i.names) ∨
            name ∈ readExports "  " (typingsLines b {}) ∨ name ∈ builtinTypes ∨
              ∃ n : Nat, name = toString n := by
  have hnames : ∀ m ∈ settleMembers, ∀ name ∈ m.givenNames, isIdentifier name := by
    decide +kernel
  obtain ⟨b, hb, hmethods⟩ :
      ∃ b, Bindings.ofMembers ⟨.ethersV6, none, none⟩ settleMembers = .ok b ∧
        b.methods.map Method.text = ["settle(order: OrderRequest, " ++
          "overrides?: ContractCallOverrides): Promise<SettleResponse>"] :=
    exists_of_toOption_map (by decide +kernel)
  have hcontext : IsWord b.names.contractContext :=
    isWord_fixedNames hb _ (by simp [ModuleNames.toList])
  have hread : ∀ text ∈ b.methods.map Method.text,
      text ++ ";" ∈ readTypes "  " (typingsLines b {}) := by
    have htypes : readTypes "  " (typingsLines b {}) = _ := readTypes_typingsLines hcontext
    rw [htypes, List.forall_mem_map]
    intro method hmethod
    refine List.mem_cons_of_mem _ (List.mem_append_right _ (List.mem_append_right _ ?_))
    exact List.mem_map.2 ⟨method, hmethod, rfl⟩
  rw [hmethods] at hread
  exact ⟨hnames, b, hb, hread _ List.mem_cons_self, (types_defined hb hnames {}).2.1⟩

end AbiTypings
