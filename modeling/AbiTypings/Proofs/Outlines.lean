import AbiTypings.Proofs.ReadingTypings

/-!
# Outlines of layouts

How far a line is indented depends on the margin it is written at, and blocks change the margin
while they are written.  The outline of steps says the same without a margin: it lists their lines
from the first to the last, blank or with the number of blocks they stand inside of, and is read off
the tree of the steps.  Steps that only write, which are lines, blank lines, documentation and
blocks of such steps, are written as their outline says, and leave every margin as they found it.

* **Outlines** — `Step.outline` and `outlineAll`: the lines of a tree of steps, each with its depth.
* **Plain steps** — `Step.Plain`: steps that only write, and whose texts have no line feeds.
* **Writing** — `Step.write_of_plain` and `writeAll_of_plain`: by induction over the tree, at all
  margins at once, as a block is written at a deeper margin than it stands at.
* **Indentation** — `OutlineLine.written_deeper`: one level further on, a line has one more unit in
  front of it.  `writes_outline` puts these together.
-/

namespace AbiTypings.Layout

/-! ## Outlines -/

/-- A line as it stands among blocks, before it is written. -/
inductive OutlineLine where
  /-- A blank line. -/
  | blank
  /-- A text inside a number of blocks. -/
  | text (depth : Nat) (text : String)
  deriving DecidableEq, Repr

namespace OutlineLine

/-- A line with one more block around it. -/
def inBlock : OutlineLine → OutlineLine
  | blank => blank
  | text depth s => text (depth + 1) s

/-- What is written for a line: the unit of the margin once for each of its levels and each block
around the line, and then the text. A blank line is not indented. -/
def written (m : Margin) : OutlineLine → String
  | blank => ""
  | text depth s => Margin.times m.unit (m.level + depth) ++ s

/-- Put a unit in front of what was written for a line, unless the line is blank. -/
def indent (unit : String) : OutlineLine → String → String
  | blank, line => line
  | text _ _, line => unit ++ line

end OutlineLine

mutual

/-- The lines of a step, with the number of blocks of the step around each. -/
def Step.outline : Step → List OutlineLine
  | .line text => [.text 0 text]
  | .blank => [.blank]
  | .doc lines => .text 0 "/**" :: lines.map (fun line => .text 0 (" * " ++ line)) ++ [.text 0 " */"]
  | .block header closer body =>
    .text 0 (header ++ " \x7b") :: (outlineAll body).map .inBlock ++ [.text 0 closer]
  | .indent | .dedent | .reset => []

/-- The lines of steps, one step after another. -/
def outlineAll : List Step → List OutlineLine
  | [] => []
  | step :: steps => step.outline ++ outlineAll steps

end

mutual

/-- A step that only writes, of texts without line feeds. -/
def Step.Plain : Step → Prop
  | .line text => OneLine text
  | .blank => True
  | .doc lines => ∀ line ∈ lines, OneLine line
  | .block header closer body => OneLine header ∧ OneLine closer ∧ AllPlain body
  | .indent | .dedent | .reset => False

/-- All of the steps only write, and no text of theirs has a line feed. -/
def AllPlain : List Step → Prop
  | [] => True
  | step :: steps => step.Plain ∧ AllPlain steps

end

/-! ## Writing -/

/-- Inside a block, a line is written as it is outside at the deeper margin. -/
theorem OutlineLine.written_inBlock (m : Margin) (line : OutlineLine) :
    line.inBlock.written m = line.written m.deeper := by
  cases line with
  | blank => rfl
  | text depth s =>
    have hlevel : m.level + (depth + 1) = m.level + 1 + depth := by omega
    simp only [inBlock, written, Margin.deeper, hlevel]

/-- Outside of all blocks, a line is written as the margin has it. -/
theorem OutlineLine.written_text_zero (m : Margin) (s : String) :
    (OutlineLine.text 0 s).written m = m.line s := rfl

mutual

/-- A step is written as its outline says, and leaves the margin as it was. -/
theorem Step.write_of_plain : ∀ (step : Step), step.Plain → ∀ m,
    step.write m = (step.outline.map (OutlineLine.written m), m)
  | .line text, _, m => rfl
  | .blank, _, m => rfl
  | .doc lines, _, m => by
    simp [Step.write, Step.outline, Margin.doc, OutlineLine.written_text_zero]
  | .block header closer body, ⟨_, _, hplain⟩, m => by
    have hbody := writeAll_of_plain body hplain m.deeper
    -- The level is cut off at zero when a block ends, but not right after it was raised.
    have hdeeper : m.deeper.shallower = m := rfl
    simp only [Step.write, hbody, hdeeper, Step.outline, List.map_cons, List.map_append,
      List.map_map, Function.comp_def, OutlineLine.written_inBlock, OutlineLine.written_text_zero,
      List.map_nil]
  | .indent, h, _ | .dedent, h, _ | .reset, h, _ => False.elim h

/-- Steps are written as their outline says, and leave the margin as it was. -/
theorem writeAll_of_plain : ∀ (steps : List Step), AllPlain steps → ∀ m,
    writeAll m steps = ((outlineAll steps).map (OutlineLine.written m), m)
  | [], _, _ => rfl
  | step :: steps, ⟨hstep, hsteps⟩, m => by
    simp only [writeAll, step.write_of_plain hstep m, writeAll_of_plain steps hsteps m, outlineAll,
      List.map_append]

end

/-- What is written after other steps starts at the margin that these leave. -/
theorem writeAll_append (m : Margin) (steps more : List Step) :
    writeAll m (steps ++ more) =
      ((writeAll m steps).1 ++ (writeAll (writeAll m steps).2 more).1,
        (writeAll (writeAll m steps).2 more).2) := by
  induction steps generalizing m with
  | nil => rfl
  | cons step steps ih =>
    simp only [List.cons_append, writeAll, ih, List.append_assoc]

/-! ## Lines of the text -/

/-- The text of a line, without what it is indented by. -/
def OutlineLine.bare : OutlineLine → String
  | blank => ""
  | text _ s => s

theorem OutlineLine.bare_inBlock (line : OutlineLine) : line.inBlock.bare = line.bare := by
  cases line <;> rfl

mutual

theorem Step.oneLine_outline : ∀ (step : Step), step.Plain →
    ∀ line ∈ step.outline, OneLine line.bare
  | .line text, h => by
    rw [Step.outline]
    exact List.forall_mem_singleton.2 h
  | .blank, _ => by
    rw [Step.outline]
    exact List.forall_mem_singleton.2 (by decide)
  | .doc lines, h => by
    have hopen : OneLine "/**" := by decide
    have hclose : OneLine " */" := by decide
    have hlines : ∀ text ∈ lines, OneLine (" * " ++ text) :=
      fun text htext => oneLine_append.2 ⟨by decide, h text htext⟩
    simp only [Step.outline, List.forall_mem_append, List.forall_mem_cons, List.forall_mem_map]
    exact ⟨⟨hopen, hlines⟩, hclose, List.forall_mem_nil _⟩
  | .block header closer body, ⟨hheader, hcloser, hplain⟩ => by
    have hopen : OneLine (header ++ " \x7b") := oneLine_append.2 ⟨hheader, by decide⟩
    have hbody := oneLine_outlineAll body hplain
    simp only [Step.outline, List.forall_mem_append, List.forall_mem_cons, List.forall_mem_map,
      OutlineLine.bare_inBlock]
    exact ⟨⟨hopen, hbody⟩, hcloser, List.forall_mem_nil _⟩
  | .indent, h | .dedent, h | .reset, h => False.elim h

/-- No text in the outline of plain steps has a line feed. -/
theorem oneLine_outlineAll : ∀ (steps : List Step), AllPlain steps →
    ∀ line ∈ outlineAll steps, OneLine line.bare
  | [], _ => by
    rw [outlineAll]
    exact List.forall_mem_nil _
  | step :: steps, ⟨hstep, hsteps⟩ => by
    rw [outlineAll, List.forall_mem_append]
    exact ⟨step.oneLine_outline hstep, oneLine_outlineAll steps hsteps⟩

end

theorem oneLine_times {unit : String} (h : OneLine unit) (n : Nat) :
    OneLine (Margin.times unit n) := by
  induction n with
  | zero =>
    rw [Margin.times]
    decide
  | succ n ih => exact oneLine_append.2 ⟨h, ih⟩

/-- Neither the indentation nor the text of a line brings in a line feed. -/
theorem OutlineLine.oneLine_written {m : Margin} (hunit : OneLine m.unit) {line : OutlineLine}
    (h : OneLine line.bare) : OneLine (line.written m) := by
  cases line with
  | blank => exact h
  | text depth s => exact oneLine_append.2 ⟨oneLine_times hunit _, h⟩

/-! ## Indentation -/

/-- One level further on, a line has one more unit in front of it. -/
theorem OutlineLine.written_deeper (m : Margin) (line : OutlineLine) :
    line.written m.deeper = line.indent m.unit (line.written m) := by
  cases line with
  | blank => rfl
  | text depth s =>
    have hlevel : m.level + 1 + depth = m.level + depth + 1 := by omega
    simp only [written, indent, Margin.deeper, hlevel, Margin.times, String.append_assoc]

/-- **Steps are written as their outline says.**  Take steps that only write, blocks within blocks
to any depth, whose texts have no line feeds, and write them at any margin.  The margin after them
is the one before.  Each line has the unit of the margin in front of it once for each level and each
block around it, and blank lines have nothing; if the unit has no line feed either, these are the
lines of the text.  One level further on, the text is the same but for one more unit in front of
each line that is not blank.  What comes after such steps is written as if they were not there. -/
theorem writes_outline {steps : List Step} (h : AllPlain steps) (m : Margin) :
    let lines := (outlineAll steps).map (OutlineLine.written m)
    (writeAll m steps).2 = m ∧
      render m steps = unlines lines ∧
      (OneLine m.unit → readLines (render m steps) = lines) ∧
      render m.deeper steps =
        unlines (List.zipWith (OutlineLine.indent m.unit) (outlineAll steps) lines) ∧
      ∀ more, render m (steps ++ more) = render m steps ++ render m more ∧
        (writeAll m (steps ++ more)).2 = (writeAll m more).2 := by
  intro lines
  have hwrite (m : Margin) := writeAll_of_plain steps h m
  have hrender : render m steps = unlines lines := by
    rw [render, hwrite]
  refine ⟨by rw [hwrite], hrender, fun hunit => ?_, ?_, fun more => ⟨?_, ?_⟩⟩
  · rw [hrender]
    refine readLines_unlines (List.forall_mem_map.2 fun line hline => ?_)
    exact OutlineLine.oneLine_written hunit (oneLine_outlineAll steps h line hline)
  · rw [render, hwrite, List.zipWith_map_right, List.zipWith_self]
    exact congrArg unlines (List.map_congr_left fun line _ => line.written_deeper m)
  · rw [render, writeAll_append, hwrite, hrender]
    simp only [unlines, List.map_append, String.join_append, render, lines]
  · rw [writeAll_append, hwrite]

/-- An interface with a documented entry whose type is written as a block, and a blank line before
the next entry. -/
def nestedSteps : List Step :=
  [.interface "Account"
    [.doc ["Payable: false"], .block "limits:" "\x7d;" [.line "daily: string;"], .blank,
      .line "owner: string;"]]

theorem writes_outline_nestedSteps :
    AllPlain nestedSteps ∧
      readLines (render ⟨1, "\t"⟩ nestedSteps) =
        ["\texport interface Account \x7b", "\t\t/**", "\t\t * Payable: false", "\t\t */",
          "\t\tlimits: \x7b", "\t\t\tdaily: string;", "\t\t\x7d;", "", "\t\towner: string;",
          "\t\x7d"] ∧
      (writeAll ⟨1, "\t"⟩ nestedSteps).2 = ⟨1, "\t"⟩ := by
  have h : AllPlain nestedSteps := by
    simp +decide [nestedSteps, AllPlain, Step.Plain, Step.interface, Step.braces]
  obtain ⟨hmargin, -, hread, -⟩ := writes_outline h ⟨1, "\t"⟩
  exact ⟨h, (hread (by decide)).trans (by decide), hmargin⟩

end AbiTypings.Layout
