import Manuscript.Package.Template
import Manuscript.Style.Config

/-!
# The styles of a package

The styles of the template take the looks of the configured style: running text and
three levels of heading. The style for code is added to them, under a name that no
other style has.
-/

namespace Manuscript.Package

open Manuscript.Document Manuscript.Style Manuscript.Xml

/-- A paragraph style: the looks of its paragraphs and of their text. -/
structure StyleLooks where
  /-- The looks of its paragraphs. -/
  paragraph : ParagraphLooks
  /-- The looks of their text. -/
  run : RunLooks

/-- The style for code. -/
structure CodeLooks where
  /-- Its name. -/
  name : String
  /-- Its looks. -/
  looks : StyleLooks

/-- The identifier of a style with a name. -/
def styleId (name : String) : String := String.ofList (name.toList.filter (· != ' '))

/-- The styles of a package that differ from the template. -/
structure Styles where
  /-- The looks of running text. -/
  normal : RunLooks
  /-- The looks of headings. -/
  headings : List (Level × StyleLooks)
  /-- The style for code. -/
  code : CodeLooks

/-- A switch that is given by a value: a truth value, or one that equals it. -/
def switchOf (v : Value) : Except Fault Bool :=
  if Value.sameKey v (.bool true) then .ok true
  else if Value.sameKey v (.bool false) then .ok false
  else .error .switch

/-- The looks of running text. -/
def normalLooks (c : Config) : Except Fault RunLooks := do
  let font ← fontOf c.font
  let size ← sizeOf c.size
  return { font, size := some size }

/-- The looks of a heading; what is left open stays as in the template. -/
def headingLooks (level : Level) (h : HeadingStyle) : Except Fault StyleLooks := do
  let run := Template.headingRun level.number
  let paragraph := Template.headingParagraph level.number
  let font ← fontOf h.font
  let size ← sizeOf h.size
  let bold ←
    match h.bold with
    | .null => .ok run.bold
    | v => (switchOf v).map some
  let color ←
    match h.color with
    | .null => .ok run.color
    | v => (colorOf v).map fun c => some [("w:val", c)]
  let spacing ← spacingOf h.spacing
  .ok
    ⟨{ paragraph with spacing := spacing.over paragraph.spacing },
      { run with font, bold, color, size := some size }⟩

/-- The style for code. -/
def codeLooks (c : CodeStyle) : Except Fault CodeLooks := do
  let name ← nameOf .style c.name
  if Template.styleNames.contains (Template.keptName name) then .error .style
  else
    let font ← fontOf c.font
    let size ← sizeOf c.size
    let spacing ← spacingOf c.spacing
    return ⟨name, { spacing }, { font, size := some size }⟩

/-- The styles of a package. -/
def stylesOf (c : Config) : Except Fault Styles := do
  let normal ← normalLooks c
  let headings ← Level.all.mapM fun l => do return (l, ← headingLooks l (c.headings.get l))
  let code ← codeLooks c.code
  return ⟨normal, headings, code⟩

/-- The element of the style for code. -/
def CodeLooks.tree (c : CodeLooks) : Tree :=
  .element "w:style"
    [("w:customStyle", "1"), ("w:styleId", styleId c.name), ("w:type", "paragraph")]
    (Tree.valued "w:name" "w:val" c.name :: Tree.valued "w:basedOn" "w:val" "Normal"
      :: c.looks.paragraph.trees ++ [c.looks.run.tree])

/-- The identifier of the style for code, for a paragraph in it. A name with a double
    quote cannot be looked up. -/
def CodeLooks.find? (c : CodeLooks) : Except Fault String :=
  if c.name.toList.contains '\x22' then .error .style else .ok (styleId c.name)

end Manuscript.Package
