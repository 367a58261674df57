import AbiTypings.Proofs.ReadingTypings
import AbiTypings.Proofs.TypeNames

/-!
# Reading imports, exports and types

Beside its interfaces, a typings module has a head: the lines of its imports, a blank line, and the
aliases.  The first alias is the type of the contract's context.  This module reads from lines what
they import, what they export, and where they name types; and it says what is read from the lines of
a typings module.

* **Imports** — `readImports_typingsLines`: the imports are read back, names and sources, whatever
  they are imported from.
* **Exports** — `mem_readExports`: whatever bindings export is found, if the fixed types are called
  by words.
* **Types** — `readTypes_typingsLines`: the texts with types are those of the context, of the fields
  of all records, and of all event filters and methods.
-/

namespace AbiTypings

/-! ## Reading imports -/

/-- Read an import line: the names between its braces, and the module between its quotes. -/
def readImport (line : String) : Import where
  names := typeNames
    (String.ofList ((line.toList.dropWhile (· ≠ '\x7b')).tail.takeWhile (· ≠ '\x7d')))
  source := String.ofList (line.toList.dropWhile (· ≠ '\'')).tail.dropLast.dropLast

/-- Read the imports of a module, which stand before its first blank line. -/
def readImports (lines : List String) : List Import :=
  (lines.takeWhile (· ≠ "")).map readImport

section Imports

/-- A text is cut where a character first stands. -/
theorem dropWhile_ne_append {c : Char} {before : List Char} (h : c ∉ before) (after : List Char) :
    (before ++ c :: after).dropWhile (· ≠ c) = c :: after := by
  have hbefore : ∀ d ∈ before, decide (d ≠ c) = true :=
    fun d hd => decide_eq_true fun heq => h (heq ▸ hd)
  rw [List.dropWhile_append_of_pos hbefore, List.dropWhile_cons_of_neg (by simp)]

theorem takeWhile_ne_append {c : Char} {before : List Char} (h : c ∉ before) (after : List Char) :
    (before ++ c :: after).takeWhile (· ≠ c) = before := by
  have hbefore : ∀ d ∈ before, decide (d ≠ c) = true :=
    fun d hd => decide_eq_true fun heq => h (heq ▸ hd)
  rw [List.takeWhile_append_of_pos hbefore, List.takeWhile_cons_of_neg (by simp), List.append_nil]

/-- An import of words is read back, whatever it is imported from. -/
theorem readImport_text {i : Import} (style : ModuleStyle) (h : ∀ name ∈ i.names, IsWord name)
    (hne : ∀ name ∈ i.names, name ≠ "") : readImport (i.text style.importKeyword) = i := by
  obtain ⟨names, source⟩ := i
  dsimp only at h hne
  have hnames := typeNames_commaSeparated h hne
  have hjoined : ∀ c ∈ (", ".intercalate names).toList, c ≠ '\x7d' ∧ c ≠ '\'' := by
    intro c hc
    rcases mem_commaSeparated hc with rfl | rfl | ⟨name, hname, hc⟩
    · decide
    · decide
    · have hword := h name hname c hc
      constructor <;>
        · rintro rfl
          exact absurd hword (by decide)
  generalize hjoin : ", ".intercalate names = joined at hnames hjoined
  have hkeyword : '\x7b' ∉ style.importKeyword.toList ∧ '\'' ∉ style.importKeyword.toList := by
    unfold ModuleStyle.importKeyword ModuleStyle.importWords
    split <;> decide
  -- the names stand between the first brace that is opened and the first that is closed
  have hbraces : (Import.text style.importKeyword ⟨names, source⟩).toList =
      (style.importKeyword ++ " ").toList ++ '\x7b' ::
        ((" " ++ joined ++ " ").toList ++ '\x7d' :: (" from '" ++ source ++ "';").toList) := by
    simp [Import.text, hjoin]
  have hopened : '\x7b' ∉ (style.importKeyword ++ " ").toList := by
    simpa using hkeyword.1
  have hclosed : '\x7d' ∉ (" " ++ joined ++ " ").toList := by
    simpa using fun hc => (hjoined _ hc).1 rfl
  -- the first quote is that of the module
  have hquotes : (Import.text style.importKeyword ⟨names, source⟩).toList =
      (style.importKeyword ++ " \x7b " ++ joined ++ " \x7d from ").toList ++ '\'' ::
        (source.toList ++ ['\'', ';']) := by
    simp [Import.text, hjoin]
  have hunquoted : '\'' ∉ (style.importKeyword ++ " \x7b " ++ joined ++ " \x7d from ").toList := by
    simpa using ⟨hkeyword.2, fun hc => (hjoined _ hc).2 rfl⟩
  have hends : (source.toList ++ ['\'', ';']).dropLast.dropLast = source.toList := by
    simp
  refine congrArg₂ Import.mk ?_ ?_
  · rw [hbraces, dropWhile_ne_append hopened, List.tail_cons, takeWhile_ne_append hclosed,
      String.ofList_toList, hnames]
  · rw [hquotes, dropWhile_ne_append hunquoted, List.tail_cons, hends, String.ofList_toList]

theorem isWord_of_mem_importedNames (dialect : Dialect) :
    ∀ name ∈ dialect.importedNames, IsWord name ∧ name ≠ "" := by
  cases dialect <;> decide +kernel

/-- The imports of a module are read back. -/
theorem readImports_typingsLines (b : Bindings) (style : ModuleStyle) :
    readImports (typingsLines b style) = b.imports style := by
  have hread : ∀ i ∈ b.imports style, readImport (i.text style.importKeyword) = i := by
    intro i hi
    have hwords : ∀ name ∈ i.names, IsWord name ∧ name ≠ "" := by
      intro name hname
      have hmem : name ∈ b.importedNames style := List.mem_flatMap.2 ⟨i, hi, hname⟩
      rw [b.importedNames_eq] at hmem
      exact isWord_of_mem_importedNames b.dialect name hmem
    exact readImport_text style (fun name hname => (hwords name hname).1)
      fun name hname => (hwords name hname).2
  have hne : ∀ line ∈ (b.imports style).map (Import.text style.importKeyword),
      decide (line ≠ "") = true := by
    simp [Import.text]
  have hmap : ((b.imports style).map (Import.text style.importKeyword)).map readImport =
      b.imports style := by
    rw [List.map_map]
    exact (List.map_congr_left hread).trans (List.map_id _)
  rw [readImports, typingsLines_eq, Bindings.headLines, List.append_assoc,
    List.takeWhile_append_of_pos hne, List.cons_append, List.takeWhile_cons_of_neg (by simp),
    List.append_nil, hmap]

end Imports

/-! ## Reading exports -/

/-- The name in the first line of a type alias. -/
def aliasName? (line : String) : Option String :=
  (line.toList.dropPrefix? "export type ".toList).map fun rest =>
    String.ofList (rest.takeWhile isWordChar)

/-- What the lines of a module export: the aliases before its interfaces, and the interfaces, whose
entries are indented by `unit`. -/
def readExports (unit : String) (lines : List String) : List String :=
  (lines.takeWhile fun line => (interfaceName? line).isNone).filterMap aliasName? ++
    (readInterfaces unit none lines).map Interface.name

section Exports

variable {b : Bindings} {style : ModuleStyle}

/-- The line of an alias is read as one of its name. -/
theorem aliasName?_eq {name line : String} (hname : IsWord name)
    (hline : ("export type " ++ name ++ " =").toList <+: line.toList) :
    aliasName? line = some name := by
  obtain ⟨rest, hrest⟩ := hline
  have hprefix : line.toList.dropPrefix? "export type ".toList =
      some (name.toList ++ (" =".toList ++ rest)) :=
    List.dropPrefix?_eq_some_iff.2 ⟨_, by simp [← hrest], beq_self_eq_true _⟩
  have hend : (" =".toList ++ rest).takeWhile isWordChar = [] :=
    List.takeWhile_cons_of_neg (by decide)
  rw [aliasName?, hprefix, Option.map_some, List.takeWhile_append_of_pos hname, hend,
    List.append_nil, String.ofList_toList]

theorem aliasName?_eq_none {line : String} (h : ¬"export type ".toList <+: line.toList) :
    aliasName? line = none := by
  unfold aliasName?
  rcases hprefix : line.toList.dropPrefix? "export type ".toList with _ | rest
  · rfl
  · obtain ⟨start, hline, hstart⟩ := List.dropPrefix?_eq_some_iff.1 hprefix
    rw [eq_of_beq hstart] at hline
    exact absurd ⟨rest, hline.symm⟩ h

theorem aliasName?_contextLine (h : IsWord b.names.contractContext) :
    aliasName? (contextLine b) = some b.names.contractContext := by
  refine aliasName?_eq h ?_
  unfold contextLine
  dsimp only
  simp [String.toList_append]

/-- Everything that bindings export is read off their module. -/
theorem mem_readExports (hwords : ∀ name ∈ b.names.toList, IsWord name) :
    ∀ name ∈ b.exportedNames,
      name ∈ readExports style.indentation.unit (typingsLines b style) := by
  have halias {name : String} {line : String} (hline : line ∈ b.headLines style)
      (hname : aliasName? line = some name) :
      name ∈ readExports style.indentation.unit (typingsLines b style) := by
    have hhead : ∀ line ∈ b.headLines style, (interfaceName? line).isNone := by
      intro line hline
      rw [interfaceName?_of_mem_headLines line hline]
      rfl
    rw [readExports, typingsLines_eq, List.takeWhile_append_of_pos hhead, List.filterMap_append]
    refine List.mem_append_left _ (List.mem_append_left _ ?_)
    exact List.mem_filterMap.2 ⟨line, hline, hname⟩
  have hinterface {i : Interface} (hi : i ∈ b.interfaces style.documented) :
      i.name ∈ readExports style.indentation.unit (typingsLines b style) := by
    rw [readExports, readInterfaces_typingsLines]
    exact List.mem_append_right _ (List.mem_map_of_mem hi)
  simp only [Bindings.exportedNames, ModuleNames.toList, List.forall_mem_append,
    List.forall_mem_cons, List.forall_mem_map] at hwords ⊢
  obtain ⟨-, hcontext, hmethods, hmap, hevents, -, -⟩ := hwords
  have hmethodsLine : aliasName? ("export type " ++ b.names.methodNames ++ " = " ++
      quotedUnion b.distinctMethodNames ++ ";") = some b.names.methodNames :=
    aliasName?_eq hmethods (by simp)
  have hmapLine : aliasName? ("export type " ++ b.names.methodNameMap ++ " =" ++ " \x7b") =
      some b.names.methodNameMap := aliasName?_eq hmap (by simp)
  have heventsLine : aliasName? ("export type " ++ b.names.events ++ " = " ++
      quotedUnion b.eventNames ++ ";") = some b.names.events := aliasName?_eq hevents (by simp)
  refine ⟨⟨?_, ?_, ?_, ?_, ?_, ?_, List.forall_mem_nil _⟩, fun record hrecord => ?_⟩
  · exact hinterface (i := b.contractInterface style.documented) (by simp [Bindings.interfaces])
  · exact halias (by simp [Bindings.headLines]) (aliasName?_contextLine hcontext)
  · exact halias (by simp [Bindings.headLines]) hmethodsLine
  · exact halias (by simp [Bindings.headLines]) hmapLine
  · exact halias (by simp [Bindings.headLines]) heventsLine
  · exact hinterface (i := b.eventsInterface) (by simp [Bindings.interfaces])
  · refine hinterface (i := record.interface) (List.mem_append_left _ ?_)
    exact List.mem_map_of_mem hrecord

end Exports

/-! ## Reading types -/

/-- What stands behind the name of a type alias. -/
def aliasedType (line : String) : String :=
  String.ofList (line.toList.dropWhile (· ≠ '='))

/-- The texts with types in the lines of a module: what the first alias, that of the context,
stands for, and the entries of the interfaces without their documentation. -/
def readTypes (unit : String) (lines : List String) : List String :=
  (lines.find? fun line => (aliasName? line).isSome).toList.map aliasedType ++
    (readInterfaces unit none lines).flatMap fun i =>
      (readEntries (.outside none) i.entries).map Prod.snd

section Types

variable {b : Bindings} {style : ModuleStyle}

/-- What the context of a contract stands for. -/
def contextText (b : Bindings) : String :=
  "= " ++ b.dialect.profile.contextType ++ "<" ++ ", ".intercalate
    [b.names.contract, b.names.methodNames, b.names.eventsContext, b.names.events] ++ ">;"

/-- The type of the contract's context is read back. -/
theorem aliasedType_contextLine (h : IsWord b.names.contractContext) :
    aliasedType (contextLine b) = contextText b := by
  have hline : (contextLine b).toList =
      ("export type " ++ b.names.contractContext ++ " ").toList ++ (contextText b).toList := by
    unfold contextLine contextText
    dsimp only
    simp
  have hbefore : '=' ∉ ("export type " ++ b.names.contractContext ++ " ").toList := by
    have hword : '=' ∉ b.names.contractContext.toList := fun hmem => absurd (h _ hmem) (by decide)
    simpa using hword
  obtain ⟨rest, hrest⟩ : ∃ rest, (contextText b).toList = '=' :: rest := by
    unfold contextText
    simp
  rw [aliasedType, hline, hrest, dropWhile_ne_append hbefore, ← hrest, String.ofList_toList]

theorem aliasName?_importText (i : Import) (style : ModuleStyle) :
    aliasName? (i.text style.importKeyword) = none := by
  obtain ⟨rest, hrest⟩ := begins_importText i style
  refine aliasName?_eq_none ?_
  simp [← hrest]

/-- The first alias of a module is that of the context. -/
theorem find?_alias_typingsLines (h : IsWord b.names.contractContext) :
    (typingsLines b style).find? (fun line => (aliasName? line).isSome) = some (contextLine b) := by
  have himports : ((b.imports style).map (Import.text style.importKeyword)).find?
      (fun line => (aliasName? line).isSome) = none := by
    rw [List.find?_eq_none, List.forall_mem_map]
    intro i _
    rw [aliasName?_importText]
    exact Bool.false_ne_true
  have hblank : aliasName? "" = none := aliasName?_eq_none (by decide)
  rw [typingsLines_eq, Bindings.headLines, List.append_assoc, List.find?_append, himports,
    Option.none_or, List.cons_append, List.find?_cons_of_neg (by simp [hblank]), List.cons_append,
    List.find?_cons_of_pos (by simp [aliasName?_contextLine h])]

/-- Entries that are not documented are read as they are. -/
theorem readEntries_of_ne {entries : List String} (h : ∀ entry ∈ entries, entry ≠ "/**") :
    readEntries (.outside none) entries = entries.map (none, ·) := by
  induction entries with
  | nil => rfl
  | cons entry entries ih =>
    rw [List.forall_mem_cons] at h
    rw [readEntries, if_neg h.1, ih h.2, List.map_cons]

/-- The types in a module are those of its context and of its entries. -/
theorem readTypes_typingsLines (h : IsWord b.names.contractContext) :
    readTypes style.indentation.unit (typingsLines b style) =
      contextText b ::
        ((b.records.flatMap fun record => record.fields.map fun field => field.text ++ ";") ++
          ((b.events.map fun filter => filter.text ++ ";") ++
            b.methods.map fun method => method.text ++ ";")) := by
  have hrecord (record : Record) : (readEntries (.outside none) record.interface.entries).map
      Prod.snd = record.fields.map fun field => field.text ++ ";" := by
    rw [Record.interface, readEntries_of_ne (List.forall_mem_map.2 fun field _ => entry_ne _),
      List.map_map]
    exact List.map_id _
  have hevents : (readEntries (.outside none) b.eventsInterface.entries).map Prod.snd =
      b.events.map fun filter => filter.text ++ ";" := by
    rw [Bindings.eventsInterface,
      readEntries_of_ne (List.forall_mem_map.2 fun filter _ => entry_ne _), List.map_map]
    exact List.map_id _
  have hmethods : (readEntries (.outside none)
      (b.contractInterface style.documented).entries).map Prod.snd =
        b.methods.map fun method => method.text ++ ";" := by
    rw [Bindings.contractInterface, readEntries_methodEntries, List.map_map]
    rfl
  rw [readTypes, find?_alias_typingsLines h, readInterfaces_typingsLines, Bindings.interfaces]
  simp only [Option.toList_some, List.map_singleton, aliasedType_contextLine h,
    List.flatMap_append, List.flatMap_map, hrecord, List.flatMap_cons, List.flatMap_nil, hevents,
    hmethods, List.append_nil, List.singleton_append]

end Types

end AbiTypings
