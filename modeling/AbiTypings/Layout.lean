/-!
# Layout

Text is laid out by steps: lines, blank lines, documentation blocks, and blocks whose body is one
level deeper than their first and last line. A step is written at a margin, which says how far lines
are indented, and leaves a margin for the next step; besides the blocks, which restore what they
change, there are steps that only move the margin.

Steps write lines (`Step.write`), and a text is those lines, each with a line feed after it
(`render`).
-/

namespace AbiTypings.Layout

/-- How far lines are indented: a number of levels, and the text that indents by one level. -/
structure Margin where
  level : Nat
  unit : String
  deriving DecidableEq, Repr

/-- A step of a layout. -/
inductive Step where
  | line (text : String)
  | blank
  /-- A documentation block of the given lines. -/
  | doc (lines : List String)
  | block (header closer : String) (body : List Step)
  /-- Go one level deeper. -/
  | indent
  /-- Go back one level, if there is one. -/
  | dedent
  /-- Start over at the left, with the usual unit. -/
  | reset
  deriving Inhabited

namespace Margin

/-- The usual margin: no indentation, and two blanks for each level. -/
def usual : Margin := ⟨0, "  "⟩

/-- A text some number of times. -/
def times (s : String) : Nat → String
  | 0 => ""
  | n + 1 => s ++ times s n

/-- What lines begin with. -/
def text (m : Margin) : String := times m.unit m.level

/-- The margin one level further on. -/
def deeper (m : Margin) : Margin := { m with level := m.level + 1 }

/-- The margin one level back; at the left it stays. -/
def shallower (m : Margin) : Margin := { m with level := m.level - 1 }

/-- An indented line. -/
def line (m : Margin) (text : String) : String := m.text ++ text

/-- The lines of a documentation block. -/
def doc (m : Margin) (lines : List String) : List String :=
  m.line "/**" :: lines.map (fun text => m.line (" * " ++ text)) ++ [m.line " */"]

end Margin

mutual

/-- The lines that a step writes at a margin, and the margin after it. -/
def Step.write (m : Margin) : Step → List String × Margin
  | .line text => ([m.line text], m)
  | .blank => ([""], m)
  | .doc lines => (m.doc lines, m)
  | .block header closer body =>
    let (lines, inner) := writeAll m.deeper body
    let outer := inner.shallower
    (m.line (header ++ " \x7b") :: lines ++ [outer.line closer], outer)
  | .indent => ([], m.deeper)
  | .dedent => ([], m.shallower)
  | .reset => ([], .usual)

/-- The lines that steps write one after another, and the margin after them. -/
def writeAll (m : Margin) : List Step → List String × Margin
  | [] => ([], m)
  | step :: steps =>
    let (lines, next) := step.write m
    let (more, last) := writeAll next steps
    (lines ++ more, last)

end

/-- Lines as a text. -/
def unlines (lines : List String) : String :=
  String.join (lines.map (· ++ "\n"))

/-- The text of a layout. -/
def render (m : Margin) (steps : List Step) : String :=
  unlines (writeAll m steps).1

/-- A block that ends in a brace. -/
def Step.braces (header : String) (body : List Step) : Step :=
  .block header "\x7d" body

/-- The block of a type alias. -/
def Step.typeAlias (name : String) (body : List Step) : Step :=
  .block ("export type " ++ name ++ " =") "\x7d;" body

/-- The block of an interface. -/
def Step.interface (name : String) (body : List Step) : Step :=
  .braces ("export interface " ++ name) body

end AbiTypings.Layout
