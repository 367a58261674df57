import Mathlib.Data.List.DropRight
import AbiTypings.Typings
import AbiTypings.Proofs.FirstFault
import AbiTypings.Proofs.RecordNames

/-!
# Names that are exported and imported

A typings module exports the names of its six fixed types and of its records, and imports names from
its client library and its companions.  The registry keeps the names of records apart from each
other only, so nothing in it stops a module from exporting a name that it imports.  Which names can
meet is a matter of how they end: every name that is exported ends in one of nine words, apart from
a number behind it, and few names that are imported do.

* **Endings** — `Role.Names.ending_suffix` for records, whatever was asked for, and
  `ModuleNames.mem_toList_startingWith` for the fixed types, whatever they begin with.
* **Imports** — `Dialect.responseImport?` is the one import of a dialect, if any, that ends like the
  name of a record, and `Web3ContractContext` is the only one that ends like a fixed type.
* **Meeting** — `Bindings.exported_and_imported_iff`: those two are all that can be exported and
  imported at once, the first when a record has that name and the second when the fixed types begin
  with `Web3`.
-/

namespace AbiTypings

/-! ## Endings of exported names -/

/-- Digits at the end of a text are dropped with those before them. -/
theorem rdropWhile_isDigit_append {cs digits : List Char} (h : ∀ c ∈ digits, c.isDigit) :
    (cs ++ digits).rdropWhile Char.isDigit = cs.rdropWhile Char.isDigit := by
  rw [List.rdropWhile, List.reverse_append, List.dropWhile_append_of_pos (by simpa using h),
    List.rdropWhile]

/-- The name of a record ends as its role says, apart from the number behind it. -/
theorem Role.Names.ending_suffix {role : Role} {name : String} (h : role.Names name) :
    role.ending.toList <:+ name.toList.rdropWhile Char.isDigit := by
  obtain ⟨_, ⟨start, rfl⟩, hname⟩ := h
  -- the last letter of an ending is not a digit, so nothing of a name without a number is dropped
  have hplain : (start ++ role.ending).toList.rdropWhile Char.isDigit =
      start.toList ++ role.ending.toList := by
    rw [String.toList_append, List.rdropWhile_eq_self_iff]
    intro hne
    rw [List.getLast_append_of_ne_nil _ (by cases role <;> decide)]
    cases role <;> exact Bool.false_ne_true
  obtain rfl | ⟨n, -, rfl⟩ := hname
  · rw [hplain]
    exact List.suffix_append _ _
  · rw [String.toList_append, rdropWhile_isDigit_append fun c hc => isDigit_of_mem_toString hc,
      hplain]
    exact List.suffix_append _ _

/-- All roles. -/
def Role.all : List Role := [request, response, event]

theorem Role.mem_all (role : Role) : role ∈ Role.all := by
  cases role <;> decide

/-- The names of the fixed types that begin with nothing. -/
def fixedNames : List String :=
  (ModuleNames.startingWith "").toList

theorem ModuleNames.toList_startingWith (start : String) :
    (ModuleNames.startingWith start).toList = fixedNames.map (start ++ ·) := by
  simp [fixedNames, toList, startingWith]

/-- The name of a fixed type is what all begin with and one of six endings. -/
theorem ModuleNames.mem_toList_startingWith {start name : String} :
    name ∈ (ModuleNames.startingWith start).toList ↔
      ∃ ending ∈ fixedNames, name = start ++ ending := by
  rw [toList_startingWith, List.mem_map]
  simp only [eq_comm]

/-! ## Imports -/

/-- The names that a dialect imports, from wherever. -/
def Dialect.importedNames (dialect : Dialect) : List String :=
  (typingsImports dialect "" "").flatMap Import.names

/-- The names that a dialect imports from its companion module. -/
def Dialect.companionNames : Dialect → List String
  | web3 => ["MethodPayableReturnContext", "MethodConstantReturnContext", "MethodReturnContext"]
  | ethersV5 | ethersV6 => ethersCompanionNames

/-- The import of the companion module comes last. All others are from the client library and the
module of contexts. -/
theorem typingsImports_eq (dialect : Dialect) (library companion : String) :
    ∃ others, typingsImports dialect library companion =
        others ++ [⟨dialect.companionNames, companion⟩] ∧
      ∀ i ∈ others, i.source = library ∨ i.source = contextModule := by
  cases dialect with
  | web3 => exact ⟨[_], rfl, by simp⟩
  | ethersV5 => exact ⟨[_, _], rfl, by simp⟩
  | ethersV6 => exact ⟨[_, _], rfl, by simp⟩

/-- The import of a dialect that ends like the name of a record. -/
def Dialect.responseImport? : Dialect → Option String
  | web3 => some "EventResponse"
  | ethersV5 => none
  | ethersV6 => some "ContractTransactionResponse"

/-- Of the imports of a dialect, no other can be the name of a record. -/
theorem Dialect.responseImport?_of_ending_suffix {dialect : Dialect} {role : Role} {name : String}
    (hmem : name ∈ dialect.importedNames)
    (hending : role.ending.toList <:+ name.toList.rdropWhile Char.isDigit) :
    dialect.responseImport? = some name := by
  have hall : ∀ name ∈ dialect.importedNames, ∀ role ∈ Role.all,
      role.ending.toList <:+ name.toList.rdropWhile Char.isDigit →
        dialect.responseImport? = some name := by
    cases dialect <;> decide +kernel
  exact hall name hmem role role.mem_all hending

/-- The import that is named like a response is one of the imports. -/
theorem Dialect.mem_importedNames_of_responseImport? {dialect : Dialect} {name : String}
    (h : dialect.responseImport? = some name) : name ∈ dialect.importedNames := by
  have hall : ∀ name ∈ dialect.responseImport?, name ∈ dialect.importedNames := by
    cases dialect <;> decide +kernel
  exact hall name h

/-- The import that ends like the name of a record is fit for a response, and for no other role. -/
theorem Dialect.asks_of_responseImport? {dialect : Dialect} {name : String}
    (h : dialect.responseImport? = some name) :
    Role.response.Asks name ∧ ∀ role : Role,
      role.ending.toList <:+ name.toList.rdropWhile Char.isDigit → role = .response := by
  have hroles : ∀ name ∈ dialect.responseImport?, ∀ role ∈ Role.all,
      role.ending.toList <:+ name.toList.rdropWhile Char.isDigit → role = .response := by
    cases dialect <;> decide +kernel
  refine ⟨?_, fun role => hroles name h role role.mem_all⟩
  cases dialect with
  | web3 => exact ⟨"Event", (Option.some.inj h).symm⟩
  | ethersV5 => cases h
  | ethersV6 => exact ⟨"ContractTransaction", (Option.some.inj h).symm⟩

/-- Of the imports of all dialects, one can be the name of a fixed type. -/
theorem Dialect.eq_web3_of_fixedName_suffix {dialect : Dialect} {start ending : String}
    (hmem : start ++ ending ∈ dialect.importedNames) (hending : ending ∈ fixedNames) :
    dialect = .web3 ∧ ending = "ContractContext" ∧ start = "Web3" := by
  have hall : ∀ name ∈ dialect.importedNames, ∀ ending ∈ fixedNames,
      ending.toList <:+ name.toList →
        dialect = .web3 ∧ ending = "ContractContext" ∧ name = "Web3ContractContext" := by
    cases dialect <;> decide +kernel
  have hsuffix : ending.toList <:+ (start ++ ending).toList := by
    rw [String.toList_append]
    exact List.suffix_append _ _
  obtain ⟨hdialect, rfl, hname⟩ := hall _ hmem ending hending hsuffix
  refine ⟨hdialect, rfl, ?_⟩
  have hlist : start.toList ++ "ContractContext".toList =
      "Web3".toList ++ "ContractContext".toList := by
    rw [← String.toList_append, hname]
    rfl
  exact String.toList_injective (List.append_cancel_right hlist)

/-! ## Meeting -/

/-- What a typings module exports: the names of its fixed types and of its records. -/
def Bindings.exportedNames (b : Bindings) : List String :=
  b.names.toList ++ b.records.map Record.name

/-- What the import lines at the head of a typings module list, one line for each import. -/
def Bindings.importedNames (b : Bindings) (style : ModuleStyle) : List String :=
  (b.imports style).flatMap Import.names

/-- What is imported does not depend on where it is imported from. -/
theorem Bindings.importedNames_eq (b : Bindings) (style : ModuleStyle) :
    b.importedNames style = b.dialect.importedNames := by
  unfold importedNames imports Dialect.importedNames
  cases b.dialect <;> rfl

section Meeting

variable {options : Options} {ms : List Member} {b : Bindings}

/-- Every record has a name that a member asks for, or such a name with a number. -/
theorem Bindings.exists_ask_of_mem_records (h : Bindings.ofMembers options ms = .ok b)
    {record : Record} (hmem : record ∈ b.records) :
    ∃ candidate, (candidate, record.role) ∈ ms.flatMap Member.asks ∧
      Numbered candidate record.name := by
  obtain ⟨c, hc, rfl⟩ := ofMembers_eq_ok.1 h
  have hreach : Registry.Reaches (fun candidate role => (candidate, role) ∈ ms.flatMap Member.asks)
      {} c.registry := Compilation.reaches_bindMembers (fun _ hask => hask) hc
  exact hreach.namedBy Registry.wellFormed_empty Registry.namedBy_empty record hmem

/-- A record that has the name of an import is one of a response, for which a member asks by that
very name. -/
theorem Bindings.mem_asks_of_responseImport? (h : Bindings.ofMembers options ms = .ok b)
    {record : Record} (hmem : record ∈ b.records)
    (himport : options.dialect.responseImport? = some record.name) :
    (record.name, Role.response) ∈ ms.flatMap Member.asks := by
  obtain ⟨candidate, hask, hnumbered⟩ := exists_ask_of_mem_records h hmem
  obtain ⟨hasks, hroles⟩ := Dialect.asks_of_responseImport? himport
  rw [hroles _ (names_of_mem_records h hmem).ending_suffix] at hask
  rw [hnumbered.eq_of_asks hasks]
  exact hask

/-- **What is exported and imported at once.**  Of the names that a typings module exports, in any
dialect and for any members, beginning and style, it imports at most two: `Web3ContractContext`,
exactly when the fixed types of a `web3` module begin with `Web3`; and, exactly when a record is
called that, `EventResponse` in `web3` modules and `ContractTransactionResponse` in those of the
newer ethers library.  A record is called that only if a member asks for the name, for a
response. -/
theorem Bindings.exported_and_imported_iff (h : Bindings.ofMembers options ms = .ok b)
    (style : ModuleStyle) :
    (∀ name, name ∈ b.exportedNames ∧ name ∈ b.importedNames style ↔
        (options.dialect = .web3 ∧ name = "Web3ContractContext" ∧
            (options.start.map Text.upperCamelCase).getD "" = "Web3") ∨
          (options.dialect.responseImport? = some name ∧
            ∃ record ∈ b.records, record.name = name)) ∧
      ∀ record ∈ b.records, options.dialect.responseImport? = some record.name →
        (record.name, Role.response) ∈ ms.flatMap Member.asks := by
  have hdialect : b.dialect = options.dialect := by
    obtain ⟨c, -, rfl⟩ := ofMembers_eq_ok.1 h
    rfl
  have hnames : b.names = moduleNames options.start := by
    obtain ⟨c, -, rfl⟩ := ofMembers_eq_ok.1 h
    rfl
  refine ⟨fun name => ?_, fun record hmem => mem_asks_of_responseImport? h hmem⟩
  rw [importedNames_eq, hdialect, exportedNames, hnames, moduleNames, List.mem_append,
    ModuleNames.mem_toList_startingWith, List.mem_map]
  constructor
  · rintro ⟨⟨ending, hending, rfl⟩ | ⟨record, hmem, rfl⟩, himported⟩
    · obtain ⟨hweb3, rfl, hstart⟩ := Dialect.eq_web3_of_fixedName_suffix himported hending
      exact Or.inl ⟨hweb3, by rw [hstart]; rfl, hstart⟩
    · have hending := (names_of_mem_records h hmem).ending_suffix
      exact Or.inr ⟨Dialect.responseImport?_of_ending_suffix himported hending, record, hmem, rfl⟩
  · rintro (⟨hweb3, rfl, hstart⟩ | ⟨himport, record, hmem, rfl⟩)
    · rw [hweb3, hstart]
      exact ⟨Or.inl ⟨"ContractContext", by decide, by decide⟩, by decide⟩
    · exact ⟨Or.inr ⟨record, hmem, rfl⟩, Dialect.mem_importedNames_of_responseImport? himport⟩

end Meeting

/-- A function that returns a struct called `Event`. -/
def latestMembers : List Member :=
  [.function "latest" []
    [⟨"", "tuple", some [⟨"day", "uint256", none, none, false⟩], some "struct Calendar.Event",
      false⟩]
    (.ofMutability .view)]

theorem Bindings.exported_and_imported_iff_latest :
    ∃ b, Bindings.ofMembers ⟨.web3, some "web3", none⟩ latestMembers = .ok b ∧
      ("Web3ContractContext" ∈ b.exportedNames ∧ "Web3ContractContext" ∈ b.importedNames {}) := by
  have hgood : ∀ visit ∈ latestMembers.flatMap Member.visits, ¬ visit.param.isBad := by
    decide
  obtain ⟨b, hb⟩ := exists_ofMembers ⟨.web3, some "web3", none⟩ hgood
  exact ⟨b, hb, ((exported_and_imported_iff hb {}).1 "Web3ContractContext").2
    (Or.inl ⟨rfl, rfl, by decide +kernel⟩)⟩

/-- The record of the struct has the name of the type that event filters return. -/
theorem Bindings.eventResponse_exported_and_imported :
    ∃ b, Bindings.ofMembers ⟨.web3, none, none⟩ latestMembers = .ok b ∧
      "EventResponse" ∈ b.exportedNames ∧ ∀ style, "EventResponse" ∈ b.importedNames style := by
  obtain ⟨b, hb, hnames⟩ : ∃ b, Bindings.ofMembers ⟨.web3, none, none⟩ latestMembers = .ok b ∧
      (b.dialect, b.records.map Record.name) = (.web3, ["EventResponse"]) :=
    exists_of_toOption_map (by decide +kernel)
  obtain ⟨hdialect, hrecords⟩ := Prod.mk.inj hnames
  refine ⟨b, hb, ?_, fun style => ?_⟩
  · rw [exportedNames, hrecords]
    exact List.mem_append_right _ (List.mem_singleton_self _)
  · rw [importedNames_eq, hdialect]
    decide

end AbiTypings
