import Manuscript.Package.Runs

/-!
# Paragraphs of a package

The properties of a paragraph. `ParagraphLooks.content` lists them in the order that the
schema asks for, each once; a paragraph without properties has no element for them.
-/

namespace Manuscript.Package

open Manuscript.Document Manuscript.Xml

/-! ## Measures -/

/-- The space around the lines of a paragraph, as it is shown. -/
structure SpacingMarks where
  /-- The space above. -/
  before : Option Int := none
  /-- The space below. -/
  after : Option Int := none
  /-- The height of a line, and how it is meant. -/
  line : Option (Int × String) := none
  deriving DecidableEq, Repr

/-- A measure that may be left open. -/
def openMeasure (length : Value → Option Int) (range : Int → Option Int) (v : Value) :
    Except Fault (Option Int) :=
  match v with
  | .null => .ok none
  | v => do
    let n ← required (length v >>= range)
    return some (twentieths n)

/-- Whether a line rule counts lines. -/
def countsLines (rule : Value) : Bool := Value.sameKey rule (.text "auto")

/-- The height of a line: in lines, or else exactly. -/
def lineOf (line rule : Value) : Except Fault (Option (Int × String)) := do
  let (length, name) :=
    if countsLines rule then (lineLength?, "auto") else (length? perTwentieth, "exact")
  let height ← openMeasure length signed? line
  return height.map (·, name)

/-- The space around the lines, as it is shown. -/
def spacingOf (s : Spacing) : Except Fault SpacingMarks := do
  let before ← openMeasure (length? perTwentieth) unsigned? s.before
  let after ← openMeasure (length? perTwentieth) unsigned? s.after
  let line ← lineOf s.line s.lineRule
  return { before, after, line }

/-- The space that is said, and where it is left open, that of a preset. -/
def SpacingMarks.over (s preset : SpacingMarks) : SpacingMarks :=
  ⟨s.before.or preset.before, s.after.or preset.after, s.line.or preset.line⟩

/-- The attributes of the space around the lines. -/
def SpacingMarks.attributes (s : SpacingMarks) : List (String × String) :=
  (s.after.map fun n => ("w:after", toString n)).toList
    ++ (s.before.map fun n => ("w:before", toString n)).toList
    ++ (match s.line with
        | some (n, rule) => [("w:line", toString n), ("w:lineRule", rule)]
        | none => [])

/-- How far a paragraph is set in, as it is shown: all lines, and the first line to the
    left or to the right of the others. -/
structure IndentMarks where
  /-- All lines. -/
  left : Int
  /-- The first line, to the left. -/
  hanging : Option Int := none
  /-- The first line, to the right. -/
  first : Option Int := none
  deriving DecidableEq, Repr

/-- The attributes for how far a paragraph is set in. -/
def IndentMarks.attributes (i : IndentMarks) : List (String × String) :=
  (i.first.map fun n => ("w:firstLine", toString n)).toList
    ++ (i.hanging.map fun n => ("w:hanging", toString n)).toList
    ++ [("w:left", toString i.left)]

/-- How far a paragraph is set in, as it is shown. -/
def indentOf (i : Indent) : Except Fault IndentMarks := do
  let left ← required (signed? (i.left * perTwentieth))
  if i.hanging = 0 then return { left := twentieths left }
  else
    let far ← required (unsigned? (i.hanging.natAbs * perTwentieth : Nat))
    if i.hanging > 0 then return { left := twentieths left, hanging := some (twentieths far) }
    else return { left := twentieths left, first := some (twentieths far) }

/-! ## Borders -/

/-- Whether a text is a name of one part. -/
def isSimpleName (s : String) : Bool :=
  match simpleName? s.toList with
  | some (_, []) => true
  | _ => false

/-- The element of a border. -/
def borderTree (b : Border) : Except Fault Tree := do
  if !isSimpleName b.side then .error .side
  else
    let style ← legal? b.style
    let color ← legal? b.color
    return .leaf ("w:" ++ b.side)
      [("w:color", color), ("w:space", toString b.space), ("w:sz", toString b.size),
       ("w:val", style)]

/-! ## Properties -/

/-- The properties of a paragraph. -/
structure ParagraphLooks where
  /-- The style, by its identifier. -/
  style : Option String := none
  /-- Whether it stays in one piece, on the page of what follows. -/
  keeps : Bool := false
  /-- The level and the number of the list it is an item of. -/
  numbering : Option (Int × Int) := none
  /-- The line along one side. -/
  border : Option Tree := none
  /-- The colour behind it. -/
  shading : Option String := none
  /-- The space around its lines. -/
  spacing : SpacingMarks := {}
  /-- How far it is set in. -/
  indent : Option IndentMarks := none
  /-- The side that its text keeps to. -/
  alignment : Option String := none
  /-- The level in an outline. -/
  outline : Option Int := none

/-- The element for the item of a list. -/
def numberingTree (level number : Int) : Tree :=
  .element "w:numPr" [] [numberTree "w:ilvl" level, numberTree "w:numId" number]

/-- The properties of a paragraph, in the order of the schema. -/
def ParagraphLooks.content (l : ParagraphLooks) : List Tree :=
  (l.style.map (Tree.valued "w:pStyle" "w:val")).toList
    ++ (if l.keeps then [.leaf "w:keepNext" [], .leaf "w:keepLines" []] else [])
    ++ (l.numbering.map fun n => numberingTree n.1 n.2).toList
    ++ (l.border.map fun b => Tree.element "w:pBdr" [] [b]).toList
    ++ (l.shading.map fun fill =>
        Tree.leaf "w:shd" [("w:color", "auto"), ("w:fill", fill), ("w:val", "clear")]).toList
    ++ (if l.spacing.attributes.isEmpty then [] else [.leaf "w:spacing" l.spacing.attributes])
    ++ (l.indent.map fun i => Tree.leaf "w:ind" i.attributes).toList
    ++ (l.alignment.map (Tree.valued "w:jc" "w:val")).toList
    ++ (l.outline.map (numberTree "w:outlineLvl")).toList

/-- The element for the properties of a paragraph, if it has any. -/
def ParagraphLooks.trees (l : ParagraphLooks) : List Tree :=
  if l.content.isEmpty then [] else [.element "w:pPr" [] l.content]

/-- A paragraph. -/
def paragraphTree (l : ParagraphLooks) (runs : List Tree) : Tree :=
  .element "w:p" [] (l.trees ++ runs)

end Manuscript.Package
