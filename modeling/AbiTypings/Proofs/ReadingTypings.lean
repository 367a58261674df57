import Mathlib.Data.List.Basic
import AbiTypings.Proofs.Imports
import AbiTypings.Proofs.ModuleLines

/-!
# Reading typings back

The text of a typings module is read line by line.  An interface stands from the line with its name
to the next line that is nothing but a closing brace.  No entry can be mistaken for that line, as
every entry has at least two characters, and no line before the interfaces begins like one.  Among
the entries of the contract, the documentation of a method stands between its first line and its
last; these two are told from all others by their ends and by their third characters.

* **Lines** — `readLines_unlines`: lines without line feeds are read back.
* **Interfaces** — `readInterfaces_typingsLines`: the interfaces can be read off the lines that a
  module is written from, whatever these hold.
* **Documentation** — `readEntries_methodEntries`: so can the methods, with their documentation,
  off the entries of the contract.
* **Line feeds** — `oneLine_typingsLines`: if bindings and style hold no line feeds, neither do the
  lines of the module.
* **Texts** — `typingsText_read_back`: then everything is read back from the text of the module, and
  modules with the same text have the same entries.
-/

namespace AbiTypings

open Layout

/-! ## Lines -/

/-- Split characters into lines, each of which ends in a line feed or at the end. -/
def splitLines : List Char → List (List Char)
  | [] => []
  | c :: cs =>
    if c = '\n' then [] :: splitLines cs
    else
      match splitLines cs with
      | [] => [[c]]
      | line :: rest => (c :: line) :: rest

/-- The lines of a text. -/
def readLines (text : String) : List String :=
  (splitLines text.toList).map String.ofList

/-- A text without line feeds. -/
def OneLine (s : String) : Prop :=
  '\n' ∉ s.toList

instance (s : String) : Decidable (OneLine s) := inferInstanceAs (Decidable (_ ∉ _))

theorem splitLines_append {cs : List Char} (h : '\n' ∉ cs) (rest : List Char) :
    splitLines (cs ++ '\n' :: rest) = cs :: splitLines rest := by
  induction cs with
  | nil => simp [splitLines]
  | cons c cs ih =>
    rw [List.mem_cons, not_or] at h
    simp [splitLines, ih h.2, Ne.symm h.1]

/-- Lines that are written are read back. -/
theorem readLines_unlines {lines : List String} (h : ∀ line ∈ lines, OneLine line) :
    readLines (unlines lines) = lines := by
  induction lines with
  | nil => rfl
  | cons line lines ih =>
    have hfirst : OneLine line := h line List.mem_cons_self
    have hrest := ih fun l hl => h l (List.mem_cons_of_mem _ hl)
    have htext : (unlines (line :: lines)).toList =
        line.toList ++ '\n' :: (unlines lines).toList := by
      simp [unlines, String.toList_join]
    unfold readLines at hrest ⊢
    rw [htext, splitLines_append hfirst, List.map_cons, hrest, String.ofList_toList]

/-! ## Interfaces -/

/-- The name in the first line of an interface. -/
def interfaceName? (line : String) : Option String := do
  let rest ← line.toList.dropPrefix? "export interface ".toList
  let name ← rest.dropSuffix? " \x7b".toList
  return String.ofList name

/-- Read the interfaces among lines, where each entry is indented by `unit`. An interface that was
begun is given with the entries read so far. -/
def readInterfaces (unit : String) : Option Interface → List String → List Interface
  | _, [] => []
  | none, line :: rest =>
    readInterfaces unit ((interfaceName? line).map fun name => ⟨name, []⟩) rest
  | some i, line :: rest =>
    if line = "\x7d" then i :: readInterfaces unit none rest
    else
      let entry := String.ofList (line.toList.drop unit.length)
      readInterfaces unit (some { i with entries := i.entries ++ [entry] }) rest

/-- The first line of an interface is read as that of its name. -/
theorem interfaceName?_eq (name : String) :
    interfaceName? ("export interface " ++ name ++ " \x7b") = some name := by
  have hprefix : ("export interface " ++ name ++ " \x7b").toList.dropPrefix?
      "export interface ".toList = some (name.toList ++ " \x7b".toList) :=
    List.dropPrefix?_eq_some_iff.2 ⟨_, by simp, beq_self_eq_true _⟩
  have hsuffix : (name.toList ++ " \x7b".toList).dropSuffix? " \x7b".toList = some name.toList :=
    List.dropSuffix?_eq_some_iff.2 ⟨_, rfl, beq_self_eq_true _⟩
  simp only [interfaceName?, hprefix, Option.bind_eq_bind, Option.bind_some, hsuffix,
    String.ofList_toList, Option.pure_def]

theorem interfaceName?_eq_none {line : String} (h : ¬"export interface ".toList <+: line.toList) :
    interfaceName? line = none := by
  unfold interfaceName?
  rcases hprefix : line.toList.dropPrefix? "export interface ".toList with _ | rest
  · rfl
  · obtain ⟨start, hline, hstart⟩ := List.dropPrefix?_eq_some_iff.1 hprefix
    rw [eq_of_beq hstart] at hline
    exact absurd ⟨rest, hline.symm⟩ h

/-- Lines outside of interfaces are passed over. -/
theorem readInterfaces_append {unit : String} {lines : List String}
    (h : ∀ line ∈ lines, interfaceName? line = none) (rest : List String) :
    readInterfaces unit none (lines ++ rest) = readInterfaces unit none rest := by
  induction lines with
  | nil => rfl
  | cons line lines ih =>
    rw [List.cons_append, readInterfaces, h line List.mem_cons_self]
    exact ih fun l hl => h l (List.mem_cons_of_mem _ hl)

/-- Entries are gathered until the interface is closed. -/
theorem readInterfaces_entries {unit : String} {entries : List String}
    (h : ∀ entry ∈ entries, 2 ≤ entry.length) (name : String) (before rest : List String) :
    readInterfaces unit (some ⟨name, before⟩) (entries.map (unit ++ ·) ++ rest) =
      readInterfaces unit (some ⟨name, before ++ entries⟩) rest := by
  induction entries generalizing before with
  | nil => simp
  | cons entry entries ih =>
    have hne : unit ++ entry ≠ "\x7d" := by
      intro heq
      have hlength := congrArg String.length heq
      have hentry := h entry List.mem_cons_self
      have hbrace : "\x7d".length = 1 := by decide
      rw [String.length_append, hbrace] at hlength
      omega
    have hdrop : String.ofList ((unit ++ entry).toList.drop unit.length) = entry := by
      rw [String.toList_append, ← String.length_toList, List.drop_left, String.ofList_toList]
    rw [List.map_cons, List.cons_append, readInterfaces, if_neg hne, hdrop]
    dsimp only
    rw [ih (fun e he => h e (List.mem_cons_of_mem _ he)), List.append_assoc, List.singleton_append]

/-- An interface is read back, and reading goes on after it. -/
theorem readInterfaces_lines {unit : String} {i : Interface}
    (h : ∀ entry ∈ i.entries, 2 ≤ entry.length) (rest : List String) :
    readInterfaces unit none (i.lines unit ++ rest) = i :: readInterfaces unit none rest := by
  rw [Interface.lines, List.cons_append, List.cons_append, readInterfaces, interfaceName?_eq,
    Option.map_some, List.append_assoc, readInterfaces_entries h, List.nil_append,
    List.singleton_append, readInterfaces, if_pos rfl]

/-- Interfaces are read one after another. -/
theorem readInterfaces_flatMap {unit : String} {interfaces : List Interface}
    (h : ∀ i ∈ interfaces, ∀ entry ∈ i.entries, 2 ≤ entry.length) :
    readInterfaces unit none (interfaces.flatMap fun i => "" :: i.lines unit) = interfaces := by
  induction interfaces with
  | nil => rfl
  | cons i interfaces ih =>
    have hblank : interfaceName? "" = none := interfaceName?_eq_none (by decide)
    rw [List.flatMap_cons, List.cons_append, readInterfaces, hblank, Option.map_none,
      readInterfaces_lines (h i List.mem_cons_self),
      ih fun j hj => h j (List.mem_cons_of_mem _ hj)]

section Typings

variable {b : Bindings} {style : ModuleStyle}

/-- The first line of an interface does not begin in another way. -/
theorem interfaceName?_of_begins {s line : String} (hline : s.toList <+: line.toList)
    (hstart : ∀ rest, ¬"export interface ".toList <+: s.toList ++ rest) :
    interfaceName? line = none := by
  obtain ⟨rest, hrest⟩ := hline
  refine interfaceName?_eq_none ?_
  rw [← hrest]
  exact hstart rest

theorem begins_importText (i : Import) (style : ModuleStyle) :
    "import".toList <+: (i.text style.importKeyword).toList := by
  have hkeyword : "import".toList <+: style.importKeyword.toList := by
    unfold ModuleStyle.importKeyword ModuleStyle.importWords
    split <;> decide
  unfold Import.text
  simpa only [String.toList_append, List.append_assoc] using hkeyword.trans (List.prefix_append _ _)

theorem interfaceName?_importText (i : Import) (style : ModuleStyle) :
    interfaceName? (i.text style.importKeyword) = none :=
  interfaceName?_of_begins (begins_importText i style) (by simp)

/-- What a text begins with, it still begins with when more is written after it. -/
theorem begins_append {start line : String} (h : start.toList <+: line.toList) (more : String) :
    start.toList <+: (line ++ more).toList := by
  rw [String.toList_append]
  exact h.trans (List.prefix_append _ _)

theorem interfaceName?_typeAlias {line : String} (h : "export type ".toList <+: line.toList) :
    interfaceName? line = none :=
  interfaceName?_of_begins h (by simp)

/-- A unit of indentation is blank, so an indented bracket does not begin like a declaration. -/
theorem not_begins_keyLine (indentation : Indentation) {start line : String}
    (hstart : start.toList.head? = some 'e') (hline : "[".toList <+: line.toList) :
    ¬start.toList <+: (indentation.unit ++ line).toList := by
  obtain ⟨tail, htail⟩ := List.head?_eq_some_iff.1 hstart
  obtain ⟨rest, hrest⟩ := hline
  rw [String.toList_append, ← hrest, htail]
  cases indentation with
  | spaces count =>
    rcases hcount : count.toNat with _ | n
    · simp [Indentation.unit, hcount]
    · simp [Indentation.unit, hcount, List.replicate_succ]
  | tabs => simp [Indentation.unit]

theorem interfaceName?_keyLine (indentation : Indentation) {line : String}
    (h : "[".toList <+: line.toList) : interfaceName? (indentation.unit ++ line) = none :=
  interfaceName?_eq_none (not_begins_keyLine indentation (by decide) h)

theorem interfaceName?_contextLine (b : Bindings) : interfaceName? (contextLine b) = none := by
  refine interfaceName?_typeAlias ?_
  unfold contextLine
  dsimp only
  simp only [String.toList_append, List.append_assoc]
  exact List.prefix_append _ _

/-- No line before the interfaces is taken for the first line of one. -/
theorem interfaceName?_of_mem_headLines :
    ∀ line ∈ b.headLines style, interfaceName? line = none := by
  have hblank : interfaceName? "" = none := interfaceName?_eq_none (by decide)
  have hbrace : interfaceName? "\x7d;" = none := interfaceName?_eq_none (by decide)
  have halias (more : String) : "export type ".toList <+: ("export type " ++ more).toList :=
    begins_append List.prefix_rfl more
  have hkey (more : String) : "[".toList <+: ("[key in " ++ more).toList :=
    begins_append (by decide) more
  unfold Bindings.headLines
  simp only [List.forall_mem_append, List.forall_mem_map, List.forall_mem_cons]
  refine ⟨fun i _ => interfaceName?_importText i style, hblank, ?_, hblank, ?_, ?_, ?_, hbrace,
    hblank, ?_, List.forall_mem_nil _⟩
  · exact interfaceName?_contextLine b
  · exact interfaceName?_typeAlias (begins_append (begins_append (begins_append (halias _) _) _) _)
  · exact interfaceName?_typeAlias (begins_append (begins_append (halias _) _) _)
  · exact interfaceName?_keyLine _ (begins_append (hkey _) _)
  · exact interfaceName?_typeAlias (begins_append (begins_append (begins_append (halias _) _) _) _)

theorem two_le_length_entry {text : String} (h : text ≠ "") : 2 ≤ (text ++ ";").length := by
  have hpos : text.length ≠ 0 := by
    simpa using h
  have hend : ";".length = 1 := by decide
  rw [String.length_append, hend]
  omega

theorem Field.text_ne_empty (field : Field) : field.text ≠ "" := by
  simp [Field.text]

theorem EventFilter.text_ne_empty (filter : EventFilter) : filter.text ≠ "" := by
  unfold EventFilter.text
  split <;> simp

theorem Method.text_ne_empty (method : Method) : method.text ≠ "" := by
  simp [Method.text]

theorem two_le_length_methodEntries {documented : Bool} {method : Method} :
    ∀ entry ∈ methodEntries documented method, 2 ≤ entry.length := by
  have hdoc (line : String) : 2 ≤ (" * " ++ line).length := by
    have hstart : " * ".length = 3 := by decide
    rw [String.length_append, hstart]
    omega
  have hentry := two_le_length_entry method.text_ne_empty
  cases documented
  · simpa [methodEntries] using hentry
  · have hopen : 2 ≤ "/**".length := by decide
    have hclose : 2 ≤ " */".length := by decide
    simp only [methodEntries, if_true, List.forall_mem_append, List.forall_mem_cons,
      List.forall_mem_map]
    exact ⟨⟨⟨hopen, fun line _ => hdoc line⟩, hclose, by simp⟩, hentry, by simp⟩

/-- Every entry is longer than a closing brace. -/
theorem two_le_length_of_mem_interfaces {documented : Bool} :
    ∀ i ∈ b.interfaces documented, ∀ entry ∈ i.entries, 2 ≤ entry.length := by
  simp only [Bindings.interfaces, List.forall_mem_append, List.forall_mem_map,
    List.forall_mem_cons, Record.interface, Bindings.eventsInterface, Bindings.contractInterface,
    List.forall_mem_flatMap]
  exact ⟨fun record _ field _ => two_le_length_entry field.text_ne_empty,
    fun filter _ => two_le_length_entry filter.text_ne_empty,
    fun method _ => two_le_length_methodEntries, by simp⟩

/-- The interfaces of a typings module can be read off its lines, whatever they hold. -/
theorem readInterfaces_typingsLines (b : Bindings) (style : ModuleStyle) :
    readInterfaces style.indentation.unit none (typingsLines b style) =
      b.interfaces style.documented := by
  rw [typingsLines_eq, readInterfaces_append interfaceName?_of_mem_headLines,
    readInterfaces_flatMap two_le_length_of_mem_interfaces]

end Typings

/-! ## Documented entries -/

/-- Where a reader of entries is: at an entry with its documentation, or in a documentation. -/
inductive EntryState where
  | outside (docs : Option (List String))
  | inside (docs : List String)
  deriving DecidableEq, Repr

/-- Read entries with the lines of their documentation. -/
def readEntries : EntryState → List String → List (Option (List String) × String)
  | _, [] => []
  | .outside docs, line :: rest =>
    if line = "/**" then readEntries (.inside []) rest
    else (docs, line) :: readEntries (.outside none) rest
  | .inside docs, line :: rest =>
    if line = " */" then readEntries (.outside (some docs)) rest
    else readEntries (.inside (docs ++ [String.ofList (line.toList.drop 3)])) rest

/-- Lines of documentation are gathered until it is closed. -/
theorem readEntries_docs (docs before rest : List String) :
    readEntries (.inside before) (docs.map (" * " ++ ·) ++ rest) =
      readEntries (.inside (before ++ docs)) rest := by
  induction docs generalizing before with
  | nil => simp
  | cons doc docs ih =>
    have hne : " * " ++ doc ≠ " */" := by
      intro heq
      have hthird := congrArg (fun s : String => s.toList[2]?) heq
      simp at hthird
    have hdrop : String.ofList ((" * " ++ doc).toList.drop 3) = doc := by
      rw [String.toList_append]
      simp
    rw [List.map_cons, List.cons_append, readEntries, if_neg hne, hdrop, ih, List.append_assoc,
      List.singleton_append]

/-- An entry does not look like the first line of a documentation. -/
theorem entry_ne (text : String) : text ++ ";" ≠ "/**" := by
  intro heq
  have hlast := congrArg (fun s : String => s.toList.getLast?) heq
  simp at hlast

/-- The entries of methods are read back with their documentation. -/
theorem readEntries_methodEntries (documented : Bool) (methods : List Method) :
    readEntries (.outside none) (methods.flatMap (methodEntries documented)) =
      methods.map fun method =>
        (if documented then some method.docs.lines else none, method.text ++ ";") := by
  induction methods with
  | nil => rfl
  | cons method methods ih =>
    rw [List.flatMap_cons, List.map_cons, ← ih]
    cases documented
    · simp [methodEntries, readEntries, entry_ne]
    · simp [methodEntries, readEntries, entry_ne, readEntries_docs]

/-! ## Texts without line feeds -/

theorem oneLine_append {s s' : String} : OneLine (s ++ s') ↔ OneLine s ∧ OneLine s' := by
  simp [OneLine]

theorem OneLine.intercalate {s : String} {parts : List String} (hsep : OneLine s)
    (h : ∀ part ∈ parts, OneLine part) : OneLine (s.intercalate parts) := by
  induction parts with
  | nil => simp [OneLine]
  | cons part parts ih =>
    have hpart := h part List.mem_cons_self
    have hrest := ih fun p hp => h p (List.mem_cons_of_mem _ hp)
    cases parts with
    | nil => simpa using hpart
    | cons next parts =>
      rw [String.intercalate_cons_cons, oneLine_append, oneLine_append]
      exact ⟨⟨hpart, hsep⟩, hrest⟩

/-- The strings that a field holds. -/
def Field.strings (field : Field) : List String := [field.key, field.type]

/-- The strings that a record holds. -/
def Record.strings (record : Record) : List String :=
  record.name :: record.fields.flatMap Field.strings

/-- The strings that a style of event filters holds. -/
def FilterStyle.strings : FilterStyle → List String
  | positional returns => [returns]
  | optionsObject returns eventData => [returns, eventData]

/-- The strings that an event filter holds. -/
def EventFilter.strings (filter : EventFilter) : List String :=
  filter.name :: filter.style.strings ++ filter.params.flatMap fun p => [p.name, p.type]

/-- The strings that a method holds, its documentation included. -/
def Method.strings (method : Method) : List String :=
  method.name :: method.returns :: method.params.flatMap Field.strings ++
    method.overrides.toList.flatMap (fun overrides => [overrides.name, overrides.type]) ++
    method.docs.params.flatMap fun doc => [doc.name, doc.typeTag]

/-- All strings that bindings hold. -/
def Bindings.strings (b : Bindings) : List String :=
  b.library.toList ++ b.names.toList ++ b.methodNames ++ b.eventNames ++
    b.records.flatMap Record.strings ++ b.events.flatMap EventFilter.strings ++
    b.methods.flatMap Method.strings

theorem Field.oneLine_text {field : Field} (h : ∀ s ∈ field.strings, OneLine s) :
    OneLine field.text := by
  simp only [Field.strings, List.forall_mem_cons] at h
  simp +decide [Field.text, oneLine_append, h.1, h.2.1]

theorem oneLine_unionPart {type : String} (h : OneLine type) : OneLine (unionPart type) := by
  unfold unionPart
  split
  · simp +decide [oneLine_append, h]
  · exact h

theorem EventParam.oneLine_filterText {p : EventParam} (hname : OneLine p.name)
    (htype : OneLine p.type) : OneLine p.filterText := by
  have hpart := oneLine_unionPart htype
  simp +decide [EventParam.filterText, oneLine_append, hname, hpart]

theorem oneLine_filterObject {params : List EventParam}
    (h : ∀ p ∈ params, OneLine p.name ∧ OneLine p.type) : OneLine (filterObject params) := by
  unfold filterObject
  split
  · decide
  · have hparts : ∀ text ∈ (params.filter (·.indexed)).map EventParam.filterText, OneLine text := by
      rintro text htext
      obtain ⟨p, hp, rfl⟩ := List.mem_map.1 htext
      have hp := h p (List.mem_of_mem_filter hp)
      exact EventParam.oneLine_filterText hp.1 hp.2
    have hjoined := OneLine.intercalate (s := "; ") (by decide) hparts
    simp +decide [oneLine_append, hjoined]

theorem EventFilter.oneLine_text {filter : EventFilter} (h : ∀ s ∈ filter.strings, OneLine s) :
    OneLine filter.text := by
  obtain ⟨name, params, style⟩ := filter
  simp only [EventFilter.strings, List.forall_mem_cons, List.forall_mem_append,
    List.forall_mem_flatMap] at h
  obtain ⟨⟨hname, hstyle⟩, hparams⟩ := h
  have hparams : ∀ p ∈ params, OneLine p.name ∧ OneLine p.type := fun p hp => by
    simpa using hparams p hp
  cases style with
  | positional returns =>
    have hreturns : OneLine returns := hstyle returns List.mem_cons_self
    have hparts : ∀ text ∈ params.map (fun p => p.name ++ ": " ++ p.type), OneLine text := by
      rintro text htext
      obtain ⟨p, hp, rfl⟩ := List.mem_map.1 htext
      simp +decide [oneLine_append, hparams p hp]
    have hjoined := OneLine.intercalate (s := ", ") (by decide) hparts
    simp +decide [EventFilter.text, oneLine_append, hname, hjoined, hreturns]
  | optionsObject returns eventData =>
    have hobject := oneLine_filterObject hparams
    simp only [FilterStyle.strings, List.forall_mem_cons] at hstyle
    simp +decide [EventFilter.text, oneLine_append, hname, hobject, hstyle.1, hstyle.2.1]

theorem Overrides.oneLine_text {overrides : Overrides} (hname : OneLine overrides.name)
    (htype : OneLine overrides.type) : OneLine overrides.text := by
  simp +decide [Overrides.text, oneLine_append, hname, htype]

theorem Method.oneLine_text {method : Method} (h : ∀ s ∈ method.strings, OneLine s) :
    OneLine method.text := by
  simp only [Method.strings, List.forall_mem_cons, List.forall_mem_append,
    List.forall_mem_flatMap] at h
  obtain ⟨⟨⟨hname, hreturns, hparams⟩, hoverrides⟩, -⟩ := h
  have hparts : ∀ text ∈ method.params.map Field.text ++ method.overrides.toList.map Overrides.text,
      OneLine text := by
    simp only [List.forall_mem_append, List.forall_mem_map]
    refine ⟨fun field hfield => Field.oneLine_text (hparams field hfield), ?_⟩
    intro overrides hmem
    have hstrings := hoverrides overrides hmem
    exact Overrides.oneLine_text hstrings.1 hstrings.2.1
  have hjoined := OneLine.intercalate (s := ", ") (by decide) hparts
  unfold Method.text
  dsimp only
  split <;> simp +decide [oneLine_append, hname, hjoined, hreturns]

theorem oneLine_toString_bool (value : Bool) : OneLine (toString value) := by
  cases value <;> decide

theorem MethodDocs.oneLine_of_mem_lines {docs : MethodDocs}
    (h : ∀ doc ∈ docs.params, OneLine doc.name ∧ OneLine doc.typeTag) :
    ∀ line ∈ docs.lines, OneLine line := by
  have hmutability : OneLine ((docs.mutability.map Mutability.text).getD "undefined") := by
    rcases docs.mutability with _ | mutability
    · decide
    · cases mutability <;> decide
  have hkind : OneLine docs.kind.text := by
    cases docs.kind <;> decide
  have hdoc : ∀ doc ∈ docs.params, OneLine doc.text := by
    intro doc hdoc
    simp +decide [ParamDoc.text, oneLine_append, h doc hdoc, oneLine_toString_bool]
  simp only [MethodDocs.lines, List.forall_mem_append, List.forall_mem_cons, List.forall_mem_map]
  simp +decide [oneLine_append, oneLine_toString_bool, hmutability, hkind]
  exact hdoc

/-- What is left of names are those that were not seen before. -/
theorem mem_firstOccurrences_iff {seen names : List String} {name : String} :
    name ∈ Bindings.firstOccurrences seen names ↔ name ∈ names ∧ name ∉ seen := by
  induction names generalizing seen with
  | nil => simp [Bindings.firstOccurrences]
  | cons first rest ih =>
    rw [Bindings.firstOccurrences]
    by_cases hseen : first ∈ seen
    · have hfirst : name ∉ seen → name ≠ first := fun hname heq => hname (heq ▸ hseen)
      rw [if_pos (by simpa using hseen), ih, List.mem_cons]
      tauto
    · rw [if_neg (by simpa using hseen)]
      by_cases hname : name = first
      · simp [hname, hseen]
      · rw [List.mem_cons, ih, List.mem_cons, List.mem_cons]
        tauto

theorem oneLine_quotedUnion {words : List String} (h : ∀ word ∈ words, OneLine word) :
    OneLine (quotedUnion words) := by
  unfold quotedUnion
  split
  · decide
  · refine .intercalate (by decide) ?_
    intro quoted hquoted
    obtain ⟨word, hword, rfl⟩ := List.mem_map.1 hquoted
    simp +decide [oneLine_append, h word hword]

theorem Import.oneLine_text {i : Import} (style : ModuleStyle)
    (hnames : ∀ name ∈ i.names, OneLine name) (hsource : OneLine i.source) :
    OneLine (i.text style.importKeyword) := by
  have hkeyword : OneLine style.importKeyword := by
    unfold ModuleStyle.importKeyword ModuleStyle.importWords
    split <;> decide
  have hjoined := OneLine.intercalate (s := ", ") (by decide) hnames
  simp +decide [Import.text, oneLine_append, hkeyword, hjoined, hsource]

/-- No string of bindings and style has a line feed. -/
structure OneLined (b : Bindings) (style : ModuleStyle) : Prop where
  bindings : ∀ s ∈ b.strings, OneLine s
  style : OneLine style.companionModule

section Typings

variable {b : Bindings} {style : ModuleStyle}

/-- A typings module imports from three modules only. -/
theorem source_of_mem_typingsImports {dialect : Dialect} {library companion : String} {i : Import}
    (h : i ∈ typingsImports dialect library companion) :
    i.source = library ∨ i.source = contextModule ∨ i.source = companion := by
  obtain ⟨others, himports, hothers⟩ := typingsImports_eq dialect library companion
  rw [himports, List.mem_append, List.mem_singleton] at h
  rcases h with h | rfl
  · exact (hothers i h).imp_right .inl
  · exact .inr (.inr rfl)

theorem oneLine_imports (h : OneLined b style) :
    ∀ i ∈ b.imports style, OneLine (i.text style.importKeyword) := by
  intro i hi
  have hnames : ∀ name ∈ i.names, OneLine name := by
    intro name hname
    have hmem : name ∈ b.importedNames style := List.mem_flatMap.2 ⟨i, hi, hname⟩
    rw [Bindings.importedNames_eq] at hmem
    have hall : ∀ dialect ∈ Dialect.all, ∀ name ∈ dialect.importedNames, OneLine name := by
      decide +kernel
    exact hall b.dialect (by cases b.dialect <;> decide) name hmem
  have hlibrary : OneLine b.libraryModule := by
    unfold Bindings.libraryModule
    rcases hgiven : b.library with _ | source
    · cases b.dialect <;> decide
    · exact h.bindings source (by simp [Bindings.strings, hgiven])
  have hsource : OneLine i.source := by
    rcases source_of_mem_typingsImports hi with hs | hs | hs <;> rw [hs]
    · exact hlibrary
    · decide
    · exact h.style
  exact i.oneLine_text style hnames hsource

theorem OneLined.names (h : OneLined b style) : ∀ name ∈ b.names.toList, OneLine name := by
  intro name hname
  exact h.bindings name (by simp [Bindings.strings, hname])

theorem oneLine_contextLine (h : ∀ name ∈ b.names.toList, OneLine name) :
    OneLine (contextLine b) := by
  have htype : OneLine b.dialect.profile.contextType := by
    cases b.dialect <;> decide
  simp only [ModuleNames.toList, List.forall_mem_cons] at h
  obtain ⟨hcontract, hcontext, hmethods, -, hevents, heventsContext, -⟩ := h
  have hjoined : OneLine (", ".intercalate
      [b.names.contract, b.names.methodNames, b.names.eventsContext, b.names.events]) := by
    refine .intercalate (by decide) ?_
    simp only [List.forall_mem_cons]
    exact ⟨hcontract, hmethods, heventsContext, hevents, by simp⟩
  unfold contextLine
  dsimp only
  simp only [oneLine_append, hcontext, htype, hjoined, and_true]
  decide

theorem Indentation.oneLine_unit (indentation : Indentation) : OneLine indentation.unit := by
  cases indentation with
  | spaces count => simp [OneLine, Indentation.unit]
  | tabs => decide

/-- The lines before the interfaces have no line feeds. -/
theorem oneLine_headLines (h : OneLined b style) : ∀ line ∈ b.headLines style, OneLine line := by
  have hnames := h.names
  have hcontext := oneLine_contextLine hnames
  have hmethods : OneLine (quotedUnion b.distinctMethodNames) := by
    refine oneLine_quotedUnion fun name hname => h.bindings name ?_
    simp [Bindings.strings, (mem_firstOccurrences_iff.1 hname).1]
  have hevents : OneLine (quotedUnion b.eventNames) := by
    refine oneLine_quotedUnion fun name hname => h.bindings name ?_
    simp [Bindings.strings, hname]
  have hunit := style.indentation.oneLine_unit
  simp only [ModuleNames.toList, List.forall_mem_cons] at hnames
  obtain ⟨-, -, hmethodNames, hmap, heventNames, -⟩ := hnames
  unfold Bindings.headLines
  simp only [List.forall_mem_append, List.forall_mem_map, List.forall_mem_cons]
  refine ⟨oneLine_imports h, by decide, hcontext, by decide, ?_, ?_, ?_, by decide, by decide, ?_,
    by simp⟩
  · simp +decide [oneLine_append, hmethodNames, hmethods]
  · simp +decide [oneLine_append, hmap]
  · simp +decide [oneLine_append, hunit, hmethodNames]
  · simp +decide [oneLine_append, heventNames, hevents]

theorem oneLine_methodEntries {documented : Bool} {method : Method}
    (h : ∀ s ∈ method.strings, OneLine s) :
    ∀ entry ∈ methodEntries documented method, OneLine entry := by
  have htext : OneLine (method.text ++ ";") :=
    oneLine_append.2 ⟨method.oneLine_text h, by decide⟩
  cases documented
  · simpa [methodEntries] using htext
  · have hdocs : ∀ line ∈ method.docs.lines, OneLine line := by
      refine MethodDocs.oneLine_of_mem_lines fun doc hdoc => ⟨h _ ?_, h _ ?_⟩ <;>
        · simp only [Method.strings, List.mem_append, List.mem_flatMap]
          exact .inr ⟨doc, hdoc, by simp⟩
    simp only [methodEntries, if_true, List.forall_mem_append, List.forall_mem_cons,
      List.forall_mem_map]
    exact ⟨⟨⟨by decide, fun line hline => oneLine_append.2 ⟨by decide, hdocs line hline⟩⟩,
      by decide, by simp⟩, htext, by simp⟩

theorem oneLine_interfaces (h : OneLined b style) (documented : Bool) :
    ∀ i ∈ b.interfaces documented, OneLine i.name ∧ ∀ entry ∈ i.entries, OneLine entry := by
  have hnames := h.names
  have hstrings := h.bindings
  simp only [Bindings.strings, List.forall_mem_append, List.forall_mem_flatMap] at hstrings
  obtain ⟨⟨⟨-, hrecords⟩, hfilters⟩, hmethods⟩ := hstrings
  simp only [ModuleNames.toList, List.forall_mem_cons] at hnames
  obtain ⟨hcontract, -, -, -, -, heventsContext, -⟩ := hnames
  simp only [Bindings.interfaces, List.forall_mem_append, List.forall_mem_map,
    List.forall_mem_cons, Record.interface, Bindings.eventsInterface, Bindings.contractInterface,
    List.forall_mem_flatMap]
  refine ⟨fun record hrecord => ?_, ⟨heventsContext, fun filter hfilter => ?_⟩,
    ⟨hcontract, fun method hmethod => oneLine_methodEntries (hmethods method hmethod)⟩, by simp⟩
  · have hrecord := hrecords record hrecord
    simp only [Record.strings, List.forall_mem_cons, List.forall_mem_flatMap] at hrecord
    exact ⟨hrecord.1, fun field hfield =>
      oneLine_append.2 ⟨Field.oneLine_text (hrecord.2 field hfield), by decide⟩⟩
  · exact oneLine_append.2 ⟨EventFilter.oneLine_text (hfilters filter hfilter), by decide⟩

theorem Interface.oneLine_lines {i : Interface} {unit : String} (hunit : OneLine unit)
    (hname : OneLine i.name) (hentries : ∀ entry ∈ i.entries, OneLine entry) :
    ∀ line ∈ i.lines unit, OneLine line := by
  simp only [Interface.lines, List.forall_mem_cons, List.forall_mem_append, List.forall_mem_map]
  refine ⟨⟨?_, fun entry hentry => oneLine_append.2 ⟨hunit, hentries entry hentry⟩⟩, by decide,
    by simp⟩
  simp +decide [oneLine_append, hname]

/-- The lines of a typings module are lines. -/
theorem oneLine_typingsLines (h : OneLined b style) :
    ∀ line ∈ typingsLines b style, OneLine line := by
  rw [typingsLines_eq]
  simp only [List.forall_mem_append, List.forall_mem_flatMap, List.forall_mem_cons]
  refine ⟨oneLine_headLines h, fun i hi => ⟨by decide, ?_⟩⟩
  obtain ⟨hname, hentries⟩ := oneLine_interfaces h style.documented i hi
  exact Interface.oneLine_lines style.indentation.oneLine_unit hname hentries

end Typings

/-! ## Reading a module back -/

theorem endEntry_injective : Function.Injective fun text : String => text ++ ";" :=
  fun _ _ h => (String.append_left_inj _).1 h

/-- What interfaces have in common when they are the same lists of entries. -/
theorem texts_eq_of_interfaces_eq {b b' : Bindings} {documented : Bool}
    (h : b'.interfaces documented = b.interfaces documented) :
    b'.records.map Record.name = b.records.map Record.name ∧
      (b'.records.map fun record => record.fields.map Field.text) =
        (b.records.map fun record => record.fields.map Field.text) ∧
      b'.events.map EventFilter.text = b.events.map EventFilter.text ∧
      b'.methods.map Method.text = b.methods.map Method.text := by
  obtain ⟨hrecords, hfixed⟩ := List.append_inj' h rfl
  rw [List.cons.injEq, List.cons.injEq] at hfixed
  obtain ⟨hevents, hcontract, -⟩ := hfixed
  have hnames := congrArg (List.map Interface.name) hrecords
  have hfields := congrArg (List.map Interface.entries) hrecords
  have hfilters := congrArg Interface.entries hevents
  have hmethods :=
    congrArg (fun i => (readEntries (.outside none) i.entries).map Prod.snd) hcontract
  simp only [Bindings.contractInterface, readEntries_methodEntries, List.map_map] at hmethods
  rw [List.map_map, List.map_map] at hnames hfields
  refine ⟨hnames, ?_, ?_, ?_⟩
  · refine List.map_injective_iff.2 (List.map_injective_iff.2 endEntry_injective) ?_
    simpa [List.map_map, Function.comp_def, Record.interface] using hfields
  · refine List.map_injective_iff.2 endEntry_injective ?_
    rw [List.map_map, List.map_map]
    exact hfilters
  · refine List.map_injective_iff.2 endEntry_injective ?_
    rw [List.map_map, List.map_map]
    exact hmethods

/-- **A typings module is read back.**  From the lines of its text one reads the interfaces of the
records, of the events and of the contract, in this order, each with its entries in order; and from
the entries of the contract, the methods with their documentation.  So modules that read alike have
the same entries. -/
theorem typingsText_read_back (b : Bindings) (style : ModuleStyle) (h : OneLined b style) :
    (∃ entries,
      readInterfaces style.indentation.unit none (readLines (typingsText b style)) =
        (b.records.map fun record =>
            ⟨record.name, record.fields.map fun field => field.text ++ ";"⟩) ++
          [⟨b.names.eventsContext, b.events.map fun filter => filter.text ++ ";"⟩,
            ⟨b.names.contract, entries⟩] ∧
      readEntries (.outside none) entries =
        b.methods.map fun method =>
          (if style.documented then some method.docs.lines else none, method.text ++ ";")) ∧
    ∀ b', OneLined b' style → typingsText b' style = typingsText b style →
      b'.records.map Record.name = b.records.map Record.name ∧
      (b'.records.map fun record => record.fields.map Field.text) =
        (b.records.map fun record => record.fields.map Field.text) ∧
      b'.events.map EventFilter.text = b.events.map EventFilter.text ∧
      b'.methods.map Method.text = b.methods.map Method.text := by
  have hread {b : Bindings} (h : OneLined b style) :
      readInterfaces style.indentation.unit none (readLines (typingsText b style)) =
        b.interfaces style.documented := by
    rw [typingsText_eq, readLines_unlines (oneLine_typingsLines h), readInterfaces_typingsLines]
  refine ⟨⟨_, hread h, readEntries_methodEntries style.documented b.methods⟩, ?_⟩
  intro b' h' htext
  have hinterfaces : b'.interfaces style.documented = b.interfaces style.documented := by
    rw [← hread h', htext, hread h]
  exact texts_eq_of_interfaces_eq hinterfaces

/-- A contract with a record, an event and a method. -/
def moveBindings : Bindings where
  dialect := .ethersV5
  library := none
  names := .startingWith "Token"
  methodNames := ["move"]
  eventNames := ["Moved"]
  records := [⟨"PointRequest", .request, [⟨"x", "BigNumberish"⟩, ⟨"y", "BigNumberish"⟩]⟩]
  events := [⟨"Moved", [⟨"by", "string", true⟩], .positional "EventFilter"⟩]
  methods := [⟨"move", false, .mutating, [⟨"to", "PointRequest"⟩], none,
    "Promise<ContractTransaction>", ⟨.function, false, false, none, [⟨"to", "tuple", false⟩]⟩⟩]

theorem typingsText_read_back_move :
    OneLined moveBindings {} ∧ ∃ entries,
      readInterfaces "  " none (readLines (typingsText moveBindings {})) =
        [⟨"PointRequest", ["x: BigNumberish;", "y: BigNumberish;"]⟩,
          ⟨"TokenEventsContext", ["Moved(by: string): EventFilter;"]⟩, ⟨"TokenContract", entries⟩] ∧
      readEntries (.outside none) entries =
        [(some ["Payable: false", "Constant: false", "StateMutability: undefined",
            "Type: function", "@param to Type: tuple, Indexed: false"],
          "move(to: PointRequest): Promise<ContractTransaction>;")] := by
  have h : OneLined moveBindings {} := ⟨by decide +kernel, by decide⟩
  exact ⟨h, (typingsText_read_back moveBindings {} h).1⟩

end AbiTypings
