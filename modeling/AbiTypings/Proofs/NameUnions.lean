import Mathlib.Algebra.Ring.Nat
import AbiTypings.Proofs.ExportedNames
import AbiTypings.Proofs.ListedMembers
import AbiTypings.Proofs.ReadingTypes
import AbiTypings.Proofs.WordNames

/-!
# Unions of names

A typings module lists the names of its methods and the names of its events, each as a union of
quoted words.  Bindings hold both lists of names as they were noted, with a name once for each
method or event that has it.  On the way to the union of the methods all but the first of equal
names are dropped; on the way to the union of the events nothing is, so an overloaded event is
listed as often as it is declared.

* **Unions** — `ListsWords`: how a union of words is written.  `listsWords_iff`: of each list there
  is one union, and `eq_of_quotedUnion_eq`: it gets shorter with every word that is left out.
* **Repeated names** — `withoutRepeats_eq_self_iff` and its neighbours: what is left once repeated
  names are dropped.
* **Aliases** — `readAlias?` reads from lines what an alias stands for.
  `readAlias?_methodNames` and `readAlias?_events`: for the two aliases of names, that is a union.
* **Modules** — `Bindings.unions_list_names`, and a contract with an overloaded event after it.
-/

namespace AbiTypings

open Layout

/-! ## Unions -/

/-- A text that lists words: `never` for none, and otherwise the words in quotes, in order, with
bars between them. -/
inductive ListsWords : List String → String → Prop
  | none : ListsWords [] "never"
  | single (word : String) : ListsWords [word] ("'" ++ word ++ "'")
  | cons (word : String) {words : List String} {text : String} (hne : words ≠ [])
      (h : ListsWords words text) : ListsWords (word :: words) ("'" ++ word ++ "' | " ++ text)

theorem quotedUnion_cons (word : String) {words : List String} (hne : words ≠ []) :
    quotedUnion (word :: words) = "'" ++ word ++ "' | " ++ quotedUnion words := by
  obtain ⟨next, words, rfl⟩ := List.exists_cons_of_ne_nil hne
  have hbar : "' | " = "'" ++ " | " := by decide
  simp only [quotedUnion, List.isEmpty_cons, Bool.false_eq_true, if_false, List.map_cons,
    String.intercalate_cons_cons, hbar, String.append_assoc]

/-- A list of words is written as one union, and as no other text. -/
theorem listsWords_iff {words : List String} {text : String} :
    ListsWords words text ↔ text = quotedUnion words := by
  constructor
  · intro h
    induction h with
    | none => rfl
    | single word => simp [quotedUnion]
    | cons word hne _ ih => rw [quotedUnion_cons word hne, ih]
  · rintro rfl
    induction words with
    | nil => exact .none
    | cons word words ih =>
      by_cases hne : words = []
      · rw [hne]
        simpa [quotedUnion] using ListsWords.single word
      · rw [quotedUnion_cons word hne]
        exact .cons word hne ih

/-- Every word of a union has two quotes around it, and three characters before the next one. -/
theorem length_quotedUnion {words : List String} (hne : words ≠ []) :
    (quotedUnion words).length + 3 = (words.map fun word => word.length + 5).sum := by
  have hquote : "'".length = 1 := by decide
  have hbar : "' | ".length = 4 := by decide
  induction words with
  | nil => exact absurd rfl hne
  | cons word words ih =>
    by_cases hlast : words = []
    · rw [hlast]
      simp only [quotedUnion, List.isEmpty_cons, Bool.false_eq_true, if_false, List.map_cons,
        List.map_nil, String.intercalate_singleton, String.length_append, hquote, List.sum_cons,
        List.sum_nil]
      omega
    · have hrest := ih hlast
      rw [quotedUnion_cons word hlast, List.map_cons, List.sum_cons, ← hrest]
      simp only [String.length_append, hquote, hbar]
      omega

theorem quotedUnion_eq_never_iff {words : List String} :
    quotedUnion words = "never" ↔ words = [] := by
  constructor
  · intro h
    by_contra hne
    obtain ⟨word, rest, rfl⟩ := List.exists_cons_of_ne_nil hne
    have hhead := congrArg (fun s : String => s.toList.head?) h
    by_cases hlast : rest = []
    · rw [hlast] at hhead
      simp [quotedUnion] at hhead
    · rw [quotedUnion_cons word hlast] at hhead
      simp at hhead
  · rintro rfl
    rfl

/-- Of words that are left out, each is missing from the sum of the lengths. -/
theorem sum_length_le_of_sublist {shorter longer : List String} (hsub : shorter.Sublist longer) :
    (shorter.map fun word => word.length + 5).sum + longer.length ≤
      (longer.map fun word => word.length + 5).sum + shorter.length := by
  induction hsub with
  | slnil => exact Nat.le_refl _
  | cons word _ ih =>
    simp only [List.map_cons, List.sum_cons, List.length_cons]
    omega
  | cons_cons word _ ih =>
    simp only [List.map_cons, List.sum_cons, List.length_cons]
    omega

/-- A union gets shorter with every word that is left out. -/
theorem eq_of_quotedUnion_eq {shorter longer : List String} (hsub : shorter.Sublist longer)
    (h : quotedUnion shorter = quotedUnion longer) : shorter = longer := by
  by_cases hshorter : shorter = []
  · rw [hshorter] at h ⊢
    exact (quotedUnion_eq_never_iff.1 h.symm).symm
  · have hlonger : longer ≠ [] := by
      rintro rfl
      exact hshorter (List.sublist_nil.1 hsub)
    have hsum := sum_length_le_of_sublist hsub
    rw [← length_quotedUnion hshorter, ← length_quotedUnion hlonger, h] at hsum
    exact hsub.eq_of_length_le (by omega)

/-! ## Repeated names -/

/-- Dropping the names that were seen before is dropping repeats. -/
theorem firstOccurrences_nil (names : List String) :
    Bindings.firstOccurrences [] names = withoutRepeats names := by
  rw [firstOccurrences_eq, withoutRepeats]
  simp

theorem mem_withoutRepeats {names : List String} {name : String} :
    name ∈ withoutRepeats names ↔ name ∈ names := by
  rw [← firstOccurrences_nil, mem_firstOccurrences_iff]
  simp

theorem withoutRepeats_eq_nil_iff {names : List String} : withoutRepeats names = [] ↔ names = [] := by
  simp only [List.eq_nil_iff_forall_not_mem, mem_withoutRepeats]

theorem nodup_firstOccurrences (seen names : List String) :
    (Bindings.firstOccurrences seen names).Nodup := by
  induction names generalizing seen with
  | nil => exact List.nodup_nil
  | cons first rest ih =>
    rw [Bindings.firstOccurrences]
    split
    · exact ih seen
    · refine List.nodup_cons.2 ⟨fun hfirst => ?_, ih _⟩
      exact (mem_firstOccurrences_iff.1 hfirst).2 List.mem_cons_self

theorem nodup_withoutRepeats (names : List String) : (withoutRepeats names).Nodup := by
  rw [← firstOccurrences_nil]
  exact nodup_firstOccurrences [] names

theorem withoutRepeats_sublist (names : List String) : (withoutRepeats names).Sublist names := by
  have hfilter : (withoutRepeats names).Sublist (names.zipIdx.map Prod.fst) :=
    List.filter_sublist.map Prod.fst
  rwa [List.zipIdx_map_fst] at hfilter

/-- Nothing is dropped from distinct names, and from no others. -/
theorem withoutRepeats_eq_self_iff {names : List String} :
    withoutRepeats names = names ↔ names.Nodup := by
  constructor
  · intro h
    rw [← h]
    exact nodup_withoutRepeats names
  · intro hnodup
    have hperm : names.Subperm (withoutRepeats names) :=
      hnodup.subperm fun _ hname => mem_withoutRepeats.2 hname
    exact (withoutRepeats_sublist names).eq_of_length_le hperm.length_le

/-- The union of the names without repeats is that of the names only if there are no repeats. -/
theorem listsWords_withoutRepeats_iff {names : List String} {text : String}
    (h : ListsWords names text) : ListsWords (withoutRepeats names) text ↔ names.Nodup := by
  rw [listsWords_iff] at h
  rw [listsWords_iff, h, ← withoutRepeats_eq_self_iff]
  constructor
  · intro heq
    exact eq_of_quotedUnion_eq (withoutRepeats_sublist names) heq.symm
  · intro heq
    rw [heq]

/-! ## Aliases -/

/-- The line of an alias. -/
def aliasLine (name type : String) : String :=
  "export type " ++ name ++ " = " ++ type ++ ";"

/-- What the first alias of a name stands for: what its line says between the equality sign and the
semicolon. -/
def readAlias? (name : String) (lines : List String) : Option String :=
  (lines.find? fun line => aliasName? line = some name).map fun line =>
    String.ofList ((line.toList.dropWhile (· ≠ '=')).drop 2).dropLast

/-- An alias is read, unless one of the same name stands before it. -/
theorem readAlias?_append {name : String} {before : List String} (hname : IsWord name)
    (hbefore : ∀ line ∈ before, aliasName? line ≠ some name) (type : String)
    (after : List String) :
    readAlias? name (before ++ aliasLine name type :: after) = some type := by
  have hline : (aliasLine name type).toList =
      ("export type " ++ name ++ " ").toList ++ '=' :: (' ' :: type.toList ++ [';']) := by
    simp [aliasLine]
  have halias : aliasName? (aliasLine name type) = some name := aliasName?_eq hname (by
    simp [aliasLine])
  have hsign : '=' ∉ ("export type " ++ name ++ " ").toList := by
    have hword : '=' ∉ name.toList := fun hmem => absurd (hname _ hmem) (by decide)
    simpa using hword
  have hnone : before.find? (fun line => aliasName? line = some name) = none :=
    List.find?_eq_none.2 fun line hmem => by simpa using hbefore line hmem
  rw [readAlias?, List.find?_append, hnone, Option.none_or,
    List.find?_cons_of_pos (by simp [halias]), Option.map_some, hline, dropWhile_ne_append hsign]
  simp

theorem aliasName?_keyLine (indentation : Indentation) {line : String}
    (h : "[".toList <+: line.toList) : aliasName? (indentation.unit ++ line) = none :=
  aliasName?_eq_none (not_begins_keyLine indentation (by decide) h)

section Modules

variable {options : Options} {ms : List Member} {b : Bindings} {style : ModuleStyle}

/-- The first lines of a module are no alias but that of the context. -/
theorem aliasName?_ne_of_mem_firstLines (style : ModuleStyle) {name : String}
    (hcontext : IsWord b.names.contractContext) (hname : b.names.contractContext ≠ name) :
    ∀ line ∈ (b.imports style).map (Import.text style.importKeyword) ++ ["", contextLine b, ""],
      aliasName? line ≠ some name := by
  have hblank : aliasName? "" = none := aliasName?_eq_none (by decide)
  simp only [List.forall_mem_append, List.forall_mem_map, List.forall_mem_cons, hblank,
    aliasName?_contextLine hcontext, aliasName?_importText]
  simpa using hname

/-- The alias for the names of methods stands for the union of the distinct ones. -/
theorem readAlias?_methodNames (hwords : ∀ name ∈ b.names.toList, IsWord name)
    (hnodup : b.names.toList.Nodup) :
    readAlias? b.names.methodNames (typingsLines b style) =
      some (quotedUnion b.distinctMethodNames) := by
  simp only [ModuleNames.toList, List.forall_mem_cons] at hwords
  simp only [ModuleNames.toList, List.nodup_cons, List.mem_cons, not_or] at hnodup
  obtain ⟨-, hcontext, hmethods, -⟩ := hwords
  have hfirst := aliasName?_ne_of_mem_firstLines style hcontext hnodup.2.1.1
  have hread := readAlias?_append hmethods hfirst (quotedUnion b.distinctMethodNames)
  rw [typingsLines_eq, Bindings.headLines]
  simpa [aliasLine] using hread _

/-- The alias for the names of events stands for the union of all of them. -/
theorem readAlias?_events (hwords : ∀ name ∈ b.names.toList, IsWord name)
    (hnodup : b.names.toList.Nodup) :
    readAlias? b.names.events (typingsLines b style) = some (quotedUnion b.eventNames) := by
  simp only [ModuleNames.toList, List.forall_mem_cons] at hwords
  simp only [ModuleNames.toList, List.nodup_cons, List.mem_cons, not_or] at hnodup
  obtain ⟨-, hcontext, hmethods, hmap, hevents, -⟩ := hwords
  obtain ⟨-, ⟨-, -, hcontextNe, -⟩, ⟨-, hmethodsNe, -⟩, ⟨hmapNe, -⟩, -⟩ := hnodup
  have hfirst := aliasName?_ne_of_mem_firstLines style hcontext hcontextNe
  have hmethodsLine : aliasName? ("export type " ++ b.names.methodNames ++ " = " ++
      quotedUnion b.distinctMethodNames ++ ";") = some b.names.methodNames :=
    aliasName?_eq hmethods (by simp)
  have hmapLine : aliasName? ("export type " ++ b.names.methodNameMap ++ " =" ++ " \x7b") =
      some b.names.methodNameMap := aliasName?_eq hmap (by simp)
  have hkeyLine : aliasName? (style.indentation.unit ++
      ("[key in " ++ b.names.methodNames ++ "]: string;")) = none :=
    aliasName?_keyLine style.indentation (by simp)
  have hblank : aliasName? "" = none := aliasName?_eq_none (by decide)
  have hbrace : aliasName? "\x7d;" = none := aliasName?_eq_none (by decide)
  have hbefore : ∀ line ∈ (b.imports style).map (Import.text style.importKeyword) ++
      ["", contextLine b, ""] ++
      ["export type " ++ b.names.methodNames ++ " = " ++ quotedUnion b.distinctMethodNames ++ ";",
        "export type " ++ b.names.methodNameMap ++ " =" ++ " \x7b",
        style.indentation.unit ++ ("[key in " ++ b.names.methodNames ++ "]: string;"), "\x7d;", ""],
      aliasName? line ≠ some b.names.events := by
    rw [List.forall_mem_append]
    refine ⟨hfirst, ?_⟩
    simp only [List.forall_mem_cons, hmethodsLine, hmapLine, hkeyLine, hbrace, hblank]
    simpa using ⟨hmethodsNe, hmapNe⟩
  have hread := readAlias?_append hevents hbefore (quotedUnion b.eventNames)
  rw [typingsLines_eq, Bindings.headLines]
  simpa [aliasLine] using hread _

/-- **Unions of names.**  Let any members be bound, in any dialect and with any options, and let
their module be written in any style.  Its alias for the names of methods stands for the union of
the distinct names of the methods, each once and in the order in which they first occur, and for
`never` exactly when there are no methods.  Its alias for the names of events stands for the union
of the names of all events, in order, and for `never` exactly when there are no events; so that is
the union of their distinct names exactly when no event is overloaded. -/
theorem Bindings.unions_list_names (h : Bindings.ofMembers options ms = .ok b)
    (style : ModuleStyle) :
    let methodNames := b.methods.map Method.name
    let eventNames := b.events.map EventFilter.name
    let lines := typingsLines b style
    typingsText b style = unlines lines ∧
      (OneLined b style → readLines (typingsText b style) = lines) ∧
      (∃ methodUnion, readAlias? b.names.methodNames lines = some methodUnion ∧
        ListsWords (withoutRepeats methodNames) methodUnion ∧
        (withoutRepeats methodNames).Nodup ∧
        (∀ name, name ∈ withoutRepeats methodNames ↔ name ∈ methodNames) ∧
        (methodUnion = "never" ↔ b.methods = [])) ∧
      ∃ eventUnion, readAlias? b.names.events lines = some eventUnion ∧
        ListsWords eventNames eventUnion ∧
        (eventUnion = "never" ↔ b.events = []) ∧
        (ListsWords (withoutRepeats eventNames) eventUnion ↔ eventNames.Nodup) := by
  intro methodNames eventNames lines
  have hwords := isWord_fixedNames h
  obtain ⟨hnodup, hmethods, hevents⟩ : b.names.toList.Nodup ∧ b.methodNames = methodNames ∧
      b.eventNames = eventNames := by
    obtain ⟨c, hc, rfl⟩ := ofMembers_eq_ok.1 h
    have hagree := Compilation.namesAgree_bindMembers Compilation.namesAgree_empty hc
    exact ⟨ModuleNames.nodup_toList_startingWith _, hagree.methods, hagree.events⟩
  have hdistinct : b.distinctMethodNames = withoutRepeats methodNames := by
    rw [distinctMethodNames, firstOccurrences_nil, hmethods]
  have hmethodUnion : readAlias? b.names.methodNames lines =
      some (quotedUnion (withoutRepeats methodNames)) := by
    rw [← hdistinct]
    exact readAlias?_methodNames hwords hnodup
  have heventUnion : readAlias? b.names.events lines = some (quotedUnion eventNames) := by
    rw [← hevents]
    exact readAlias?_events hwords hnodup
  have hlisted : ListsWords eventNames (quotedUnion eventNames) := listsWords_iff.2 rfl
  refine ⟨rfl, fun hone => readLines_unlines (oneLine_typingsLines hone),
    ⟨_, hmethodUnion, listsWords_iff.2 rfl, nodup_withoutRepeats _, fun _ => mem_withoutRepeats,
      ?_⟩, _, heventUnion, hlisted, ?_, listsWords_withoutRepeats_iff hlisted⟩
  · rw [quotedUnion_eq_never_iff, withoutRepeats_eq_nil_iff]
    exact List.map_eq_nil_iff
  · rw [quotedUnion_eq_never_iff]
    exact List.map_eq_nil_iff

/-- Two functions and two events, each of the same name, around a function of another name. -/
def ledgerMembers : List Member :=
  [.function "move" [⟨"to", "address", none, none, false⟩] [] {},
    .event "Moved" [] false,
    .function "close" [] [] {},
    .event "Moved" [⟨"to", "address", none, none, false⟩] false,
    .function "move" [] [] {}]

theorem Bindings.unions_list_names_ledger :
    ∃ b, Bindings.ofMembers ⟨.web3, none, none⟩ ledgerMembers = .ok b ∧
      typingsText b {} = unlines (typingsLines b {}) ∧
      (∃ methodUnion, readAlias? "MethodNames" (typingsLines b {}) = some methodUnion ∧
        ListsWords ["move", "close"] methodUnion) ∧
      ∃ eventUnion, readAlias? "Events" (typingsLines b {}) = some eventUnion ∧
        ListsWords ["Moved", "Moved"] eventUnion ∧ ¬ListsWords ["Moved"] eventUnion := by
  obtain ⟨b, hb, hnames⟩ : ∃ b, Bindings.ofMembers ⟨.web3, none, none⟩ ledgerMembers = .ok b ∧
      (b.names, b.methods.map Method.name, b.events.map EventFilter.name) =
        (.startingWith "", ["move", "close", "move"], ["Moved", "Moved"]) :=
    exists_of_toOption_map (by decide +kernel)
  simp only [Prod.mk.injEq] at hnames
  obtain ⟨hfixed, hmethods, hevents⟩ := hnames
  have hdistinct : withoutRepeats ["move", "close", "move"] = ["move", "close"] := by decide
  have hdistinctEvents : withoutRepeats ["Moved", "Moved"] = ["Moved"] := by decide
  obtain ⟨htext, -, ⟨methodUnion, hmethodUnion, hlisted, -⟩, eventUnion, heventUnion, hall, -,
    hiff⟩ := unions_list_names hb {}
  rw [hmethods, hdistinct] at hlisted
  rw [hevents] at hall hiff
  rw [hdistinctEvents] at hiff
  rw [hfixed] at hmethodUnion heventUnion
  exact ⟨b, hb, htext, ⟨methodUnion, hmethodUnion, hlisted⟩, eventUnion, heventUnion, hall,
    fun honce => absurd (hiff.1 honce) (by decide)⟩

/-- An overloaded event is listed twice. -/
theorem Bindings.overloaded_event_repeated :
    ∃ b eventUnion, Bindings.ofMembers ⟨.web3, none, none⟩
        [.event "Moved" [] false, .event "Moved" [⟨"to", "address", none, none, false⟩] false] =
          .ok b ∧
      typingsText b {} = unlines (typingsLines b {}) ∧
      readAlias? b.names.events (typingsLines b {}) = some eventUnion ∧
      eventUnion = "'Moved' | 'Moved'" ∧
      ¬ListsWords (withoutRepeats (b.events.map EventFilter.name)) eventUnion := by
  obtain ⟨b, hb, hread⟩ : ∃ b, Bindings.ofMembers ⟨.web3, none, none⟩
      [.event "Moved" [] false, .event "Moved" [⟨"to", "address", none, none, false⟩] false] =
        .ok b ∧
      (readAlias? b.names.events (typingsLines b {}), b.events.map EventFilter.name) =
        (some "'Moved' | 'Moved'", ["Moved", "Moved"]) :=
    exists_of_toOption_map (by decide +kernel)
  rw [Prod.mk.injEq] at hread
  refine ⟨b, _, hb, rfl, hread.1, rfl, ?_⟩
  rw [hread.2, listsWords_iff]
  decide

end Modules

end AbiTypings
