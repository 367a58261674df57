import AbiTypings.Modules
import AbiTypings.Proofs.Traversal

/-!
# The lines of modules

A layout is written step by step, and most steps leave the margin where it was (`Step.Steady`).  The
lines of steady steps are those of each step, one after the other, so the lines of a module can be
read off its layout.

* **Layouts** — `writeAll_of_steady` takes the lines of steady steps apart, and `lines_block` those
  of a block.
* **Typings** — `typingsLines_eq`: a typings module is a head of aliases and then one interface for
  each record, for the events, and for the contract (`Bindings.interfaces`).
* **Ends** — `typingsText_ne_companionText`: the two modules of a contract are never the same text.
-/

namespace AbiTypings

namespace Layout

/-! ## Layouts -/

variable {m : Margin} {steps : List Step}

/-- A step that leaves every margin as it is. -/
def Step.Steady (step : Step) : Prop :=
  ∀ m, (step.write m).2 = m

/-- The lines of a step at a margin. -/
def Step.lines (m : Margin) (step : Step) : List String :=
  (step.write m).1

/-- Steady steps are written one after the other, all at the same margin. -/
theorem writeAll_of_steady (h : ∀ step ∈ steps, step.Steady) (m : Margin) :
    writeAll m steps = (steps.flatMap (Step.lines m), m) := by
  induction steps with
  | nil => simp [writeAll]
  | cons step steps ih =>
    have hfirst := h step List.mem_cons_self m
    have hrest := ih fun s hs => h s (List.mem_cons_of_mem _ hs)
    simp only [writeAll, hfirst, hrest, List.flatMap_cons, Step.lines]

theorem steady_line (text : String) : (Step.line text).Steady := fun _ => rfl

theorem steady_blank : Step.blank.Steady := fun _ => rfl

theorem steady_doc (texts : List String) : (Step.doc texts).Steady := fun _ => rfl

/-- A block of steady steps is steady, as it goes back by the level that it goes on. -/
theorem steady_block (header closer : String) (h : ∀ step ∈ steps, step.Steady) :
    (Step.block header closer steps).Steady := by
  intro m
  simp [Step.write, writeAll_of_steady h, Margin.deeper, Margin.shallower]

/-- The lines of a block: its first line, those of its body one level further on, and its last. -/
theorem lines_block (header closer : String) (h : ∀ step ∈ steps, step.Steady) (m : Margin) :
    (Step.block header closer steps).lines m =
      m.line (header ++ " \x7b") :: steps.flatMap (Step.lines m.deeper) ++ [m.line closer] := by
  simp [Step.lines, Step.write, writeAll_of_steady h, Margin.deeper, Margin.shallower]

/-- At the left, lines begin with nothing. -/
theorem line_at_left (unit text : String) : (Margin.mk 0 unit).line text = text := by
  simp [Margin.line, Margin.text, Margin.times]

/-- One level deep, lines begin with the unit. -/
theorem line_one_deep (unit text : String) :
    (Margin.mk 0 unit).deeper.line text = unit ++ text := by
  simp [Margin.line, Margin.text, Margin.times, Margin.deeper]

/-- The lines of steps at the left that write one line each. -/
theorem flatMap_lines_map_line (unit : String) (texts : List String) :
    (texts.map Step.line).flatMap (Step.lines (Margin.mk 0 unit).deeper) =
      texts.map (unit ++ ·) := by
  induction texts with
  | nil => rfl
  | cons text texts ih =>
    rw [List.map_cons, List.flatMap_cons, ih]
    simp [Step.lines, Step.write, line_one_deep]

theorem unlines_concat (lines : List String) (last : String) :
    unlines (lines ++ [last]) = unlines lines ++ (last ++ "\n") := by
  simp [unlines, String.join_append]

end Layout

open Layout

/-! ## Typings -/

/-- An interface: its name, and its entries without their indentation. -/
structure Interface where
  name : String
  entries : List String
  deriving DecidableEq, Repr

/-- The lines of an interface at the left. -/
def Interface.lines (unit : String) (i : Interface) : List String :=
  ("export interface " ++ i.name ++ " \x7b") :: i.entries.map (unit ++ ·) ++ ["\x7d"]

/-- The entry of a method, after its documentation. -/
def methodEntries (documented : Bool) (method : Method) : List String :=
  (if documented then "/**" :: method.docs.lines.map (" * " ++ ·) ++ [" */"] else []) ++
    [method.text ++ ";"]

/-- The interface of a record has one entry for each field. -/
def Record.interface (record : Record) : Interface :=
  ⟨record.name, record.fields.map fun field => field.text ++ ";"⟩

namespace Bindings

/-- The interface of event filters has one entry for each event. -/
def eventsInterface (b : Bindings) : Interface :=
  ⟨b.names.eventsContext, b.events.map fun filter => filter.text ++ ";"⟩

/-- The interface of the contract has one entry for each method, documented or not. -/
def contractInterface (b : Bindings) (documented : Bool) : Interface :=
  ⟨b.names.contract, b.methods.flatMap (methodEntries documented)⟩

/-- The interfaces of a module, in order. -/
def interfaces (b : Bindings) (documented : Bool) : List Interface :=
  b.records.map Record.interface ++ [b.eventsInterface, b.contractInterface documented]

/-- The lines of a module before its interfaces. -/
def headLines (b : Bindings) (style : ModuleStyle) : List String :=
  (b.imports style).map (Import.text style.importKeyword) ++
    ["", contextLine b, "",
      "export type " ++ b.names.methodNames ++ " = " ++ quotedUnion b.distinctMethodNames ++ ";",
      "export type " ++ b.names.methodNameMap ++ " =" ++ " \x7b",
      style.indentation.unit ++ ("[key in " ++ b.names.methodNames ++ "]: string;"), "\x7d;", "",
      "export type " ++ b.names.events ++ " = " ++ quotedUnion b.eventNames ++ ";"]

end Bindings

/-- The lines of a typings module. -/
def typingsLines (b : Bindings) (style : ModuleStyle) : List String :=
  (writeAll style.margin (typingsSteps b style)).1

theorem typingsText_eq (b : Bindings) (style : ModuleStyle) :
    typingsText b style = unlines (typingsLines b style) := rfl

section Typings

variable {b : Bindings} {style : ModuleStyle}

theorem steady_interface {body : List Step} (name : String) (h : ∀ step ∈ body, step.Steady) :
    (Step.interface name body).Steady :=
  steady_block _ _ h

theorem steady_methodSteps (documented : Bool) (method : Method) :
    ∀ step ∈ methodSteps documented method, step.Steady := by
  cases documented <;> simp [methodSteps, steady_line, steady_doc]

theorem steady_lines (texts : List String) : ∀ step ∈ texts.map Step.line, step.Steady := by
  simp [steady_line]

theorem steady_recordStep (record : Record) : (recordStep record).Steady := by
  refine steady_interface _ ?_
  simp [steady_line]

theorem steady_eventsContextStep (b : Bindings) : (eventsContextStep b).Steady := by
  refine steady_interface _ ?_
  simp [steady_line]

theorem steady_contractStep (b : Bindings) (style : ModuleStyle) :
    (contractStep b style).Steady := by
  refine steady_interface _ fun step hstep => ?_
  obtain ⟨method, -, hmethod⟩ := List.mem_flatMap.1 hstep
  exact steady_methodSteps _ method step hmethod

theorem steady_methodNameSteps (b : Bindings) : ∀ step ∈ methodNameSteps b, step.Steady := by
  have halias : (Step.typeAlias b.names.methodNameMap
      [.line ("[key in " ++ b.names.methodNames ++ "]: string;")]).Steady :=
    steady_block _ _ (by simp [steady_line])
  simp [methodNameSteps, steady_line, halias]

theorem steady_typingsSteps (b : Bindings) (style : ModuleStyle) :
    ∀ step ∈ typingsSteps b style, step.Steady := by
  simp only [typingsSteps, headerSteps, eventNameSteps, List.forall_mem_append,
    List.forall_mem_flatMap, List.forall_mem_map]
  simpa [steady_line, steady_blank, steady_recordStep, steady_eventsContextStep,
    steady_contractStep] using steady_methodNameSteps b

theorem lines_interface {body : List Step} (name : String) (h : ∀ step ∈ body, step.Steady)
    (unit : String) :
    (Step.interface name body).lines (.mk 0 unit) =
      ("export interface " ++ name ++ " \x7b") ::
        body.flatMap (Step.lines (Margin.mk 0 unit).deeper) ++ ["\x7d"] := by
  unfold Step.interface Step.braces
  rw [lines_block _ _ h, line_at_left, line_at_left]

theorem flatMap_lines_methodSteps (documented : Bool) (unit : String) (method : Method) :
    (methodSteps documented method).flatMap (Step.lines (Margin.mk 0 unit).deeper) =
      (methodEntries documented method).map (unit ++ ·) := by
  cases documented <;>
    simp [methodSteps, methodEntries, Step.lines, Step.write, line_one_deep, Margin.doc]

/-- An interface of which every entry is a line. -/
theorem lines_interface_map_line (name unit : String) (texts : List String) :
    (Step.interface name (texts.map .line)).lines (.mk 0 unit) =
      Interface.lines unit ⟨name, texts⟩ := by
  rw [lines_interface _ (steady_lines texts), flatMap_lines_map_line, Interface.lines]

/-- A record is written as its interface. -/
theorem lines_recordStep (unit : String) (record : Record) :
    (recordStep record).lines (.mk 0 unit) = record.interface.lines unit := by
  have h := lines_interface_map_line record.name unit record.interface.entries
  rwa [Record.interface, List.map_map] at h

theorem lines_eventsContextStep (b : Bindings) (unit : String) :
    (eventsContextStep b).lines (.mk 0 unit) = b.eventsInterface.lines unit := by
  have h := lines_interface_map_line b.names.eventsContext unit b.eventsInterface.entries
  rwa [Bindings.eventsInterface, List.map_map] at h

theorem lines_contractStep (b : Bindings) (style : ModuleStyle) (unit : String) :
    (contractStep b style).lines (.mk 0 unit) =
      (b.contractInterface style.documented).lines unit := by
  have hsteady : ∀ step ∈ b.methods.flatMap (methodSteps style.documented), step.Steady :=
    List.forall_mem_flatMap.2 fun method _ => steady_methodSteps _ method
  unfold contractStep
  rw [lines_interface _ hsteady]
  simp [Bindings.contractInterface, Interface.lines, List.flatMap_assoc, List.map_flatMap,
    flatMap_lines_methodSteps]

theorem lines_typeAlias (name unit : String) (texts : List String) :
    (Step.typeAlias name (texts.map .line)).lines (.mk 0 unit) =
      ("export type " ++ name ++ " =" ++ " \x7b") :: texts.map (unit ++ ·) ++ ["\x7d;"] := by
  unfold Step.typeAlias
  rw [lines_block _ _ (steady_lines texts), flatMap_lines_map_line, line_at_left, line_at_left]

/-- **The lines of a typings module.**  After the head, each interface stands by itself, with a
blank line before it. -/
theorem typingsLines_eq (b : Bindings) (style : ModuleStyle) :
    typingsLines b style =
      b.headLines style ++ (b.interfaces style.documented).flatMap fun i =>
        "" :: i.lines style.indentation.unit := by
  have hline (text : String) :
      (Step.line text).lines (.mk 0 style.indentation.unit) = [text] := by
    simp [Step.lines, Step.write, line_at_left]
  have hblank : Step.blank.lines (.mk 0 style.indentation.unit) = [""] := rfl
  have hmap := lines_typeAlias b.names.methodNameMap style.indentation.unit
    ["[key in " ++ b.names.methodNames ++ "]: string;"]
  have hmargin : style.margin = .mk 0 style.indentation.unit := rfl
  unfold typingsLines
  rw [writeAll_of_steady (steady_typingsSteps b style), hmargin]
  simp only [List.map_cons, List.map_nil] at hmap
  simp [typingsSteps, headerSteps, methodNameSteps, eventNameSteps, Bindings.headLines,
    Bindings.interfaces, hline, hblank, hmap, lines_recordStep, lines_eventsContextStep,
    lines_contractStep, List.flatMap_assoc, List.flatMap_map, ← List.map_eq_flatMap]

end Typings

/-! ## Ends -/

/-- A typings module ends in the closing brace of the contract. -/
theorem exists_typingsText_eq (b : Bindings) (style : ModuleStyle) :
    ∃ before, typingsText b style = before ++ ("\x7d" ++ "\n") := by
  rw [typingsText_eq, typingsLines_eq, Bindings.interfaces]
  simp only [List.flatMap_append, List.flatMap_cons, List.flatMap_nil, List.append_nil,
    Interface.lines, ← List.append_assoc, ← List.cons_append]
  exact ⟨_, unlines_concat _ _⟩

/-! ### Companions -/

theorem steady_propertySteps (property : Property) :
    ∀ step ∈ Companion.propertySteps property, step.Steady := by
  obtain ⟨line, doc⟩ := property
  cases doc <;> simp [Companion.propertySteps, steady_line, steady_doc]

theorem steady_typeStep (type : CompanionType) : (Companion.typeStep type).Steady :=
  steady_block _ _ (List.forall_mem_flatMap.2 fun property _ => steady_propertySteps property)

theorem steady_companionSteps (companion : Companion) : ∀ step ∈ companion.steps, step.Steady := by
  have htypes : ∀ step ∈ ((companionTypes companion.dialect).map Companion.typeStep).intersperse
      .blank, step.Steady := by
    intro step hstep
    rcases mem_intersperse hstep with rfl | htype
    · exact steady_blank
    · obtain ⟨type, -, rfl⟩ := List.mem_map.1 htype
      exact steady_typeStep type
  have hlast : ∀ step ∈ (if companion.dialect = .web3 then
      [Step.blank, .line "export type MethodReturnContext = MethodPayableReturnContext;"]
      else []), step.Steady := by
    split <;> simp [steady_blank, steady_line]
  simp only [Companion.steps, List.forall_mem_append]
  refine ⟨⟨⟨steady_lines _, ?_⟩, htypes⟩, hlast⟩
  split <;> simp [steady_blank]

/-- The lines of a companion module. -/
def companionLines (dialect : Dialect) (library : Option String) (style : ModuleStyle) :
    List String :=
  (writeAll style.margin (Companion.steps ⟨dialect, library, style.typeOnly⟩)).1

theorem companionText_eq (dialect : Dialect) (library : Option String) (style : ModuleStyle) :
    companionText dialect library style = unlines (companionLines dialect library style) := rfl

/-- The lines of a companion module are those of its steps. -/
theorem companionLines_eq (dialect : Dialect) (library : Option String) (style : ModuleStyle) :
    companionLines dialect library style =
      (Companion.steps ⟨dialect, library, style.typeOnly⟩).flatMap (Step.lines style.margin) := by
  rw [companionLines, writeAll_of_steady (steady_companionSteps _)]

theorem lines_typeStep (unit : String) (type : CompanionType) :
    ∃ entries, (Companion.typeStep type).lines (.mk 0 unit) =
      ("export type " ++ type.name ++ " =" ++ " \x7b") :: entries ++ ["\x7d;"] := by
  unfold Companion.typeStep Step.typeAlias
  rw [lines_block _ _ (List.forall_mem_flatMap.2 fun property _ => steady_propertySteps property),
    line_at_left, line_at_left]
  exact ⟨_, rfl⟩

/-- The last step of a companion module ends in a semicolon. -/
theorem exists_getLast?_companionSteps (companion : Companion) (unit : String) :
    ∃ last lines text, companion.steps.getLast? = some last ∧
      last.lines (.mk 0 unit) = lines ++ [text ++ ";"] := by
  obtain ⟨dialect, library, typeOnly⟩ := companion
  have htype (type : CompanionType) : ∃ lines text,
      (Companion.typeStep type).lines (.mk 0 unit) = lines ++ [text ++ ";"] := by
    obtain ⟨entries, hlines⟩ := lines_typeStep unit type
    exact ⟨_, "\x7d", hlines⟩
  cases dialect with
  | web3 =>
    refine ⟨.line "export type MethodReturnContext = MethodPayableReturnContext;", [],
      "export type MethodReturnContext = MethodPayableReturnContext", rfl, ?_⟩
    simp [Step.lines, Step.write, line_at_left]
  | ethersV5 =>
    obtain ⟨lines, text, hlines⟩ := htype ((ethersTypes "BigNumber")[2])
    exact ⟨_, lines, text, rfl, hlines⟩
  | ethersV6 =>
    obtain ⟨lines, text, hlines⟩ := htype ((ethersTypes "bigint")[2])
    exact ⟨_, lines, text, rfl, hlines⟩

/-- A companion module ends in a semicolon. -/
theorem exists_companionText_eq (dialect : Dialect) (library : Option String)
    (style : ModuleStyle) :
    ∃ before, companionText dialect library style = before ++ (";" ++ "\n") := by
  obtain ⟨last, lines, text, hlast, hlines⟩ :=
    exists_getLast?_companionSteps ⟨dialect, library, style.typeOnly⟩ style.indentation.unit
  obtain ⟨front, hsteps⟩ := List.getLast?_eq_some_iff.1 hlast
  have hmargin : style.margin = .mk 0 style.indentation.unit := rfl
  rw [companionText_eq, companionLines_eq, hsteps, List.flatMap_append, List.flatMap_cons,
    List.flatMap_nil, List.append_nil, hmargin, hlines, ← List.append_assoc, unlines_concat]
  refine ⟨unlines (front.flatMap (Step.lines (.mk 0 style.indentation.unit)) ++ lines) ++ text, ?_⟩
  simp only [String.append_assoc]

/-- The two modules of a contract are different texts. -/
theorem typingsText_ne_companionText (b : Bindings) (style style' : ModuleStyle)
    (dialect : Dialect) (library : Option String) :
    typingsText b style ≠ companionText dialect library style' := by
  obtain ⟨before, htypings⟩ := exists_typingsText_eq b style
  obtain ⟨before', hcompanion⟩ := exists_companionText_eq dialect library style'
  intro h
  rw [htypings, hcompanion] at h
  have hend := congrArg (fun s => s.toList.reverse[1]?) h
  simp at hend

end AbiTypings
