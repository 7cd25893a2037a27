import Manuscript.Log
import Manuscript.Package.Numbering
import Manuscript.Package.Styles
import Manuscript.Package.Tables

/-!
# Putting a package together

A document becomes a package: its blocks the body, one element for each, its lists
numbers, the configured style the styles, and its data the properties that packages
have.

* `blockTree`: the element of a block, given the lists seen so far;
* `bodyOf`: the elements of some blocks;
* `assemble`: the package of a document.
-/

namespace Manuscript.Package

open Manuscript.Document Manuscript.Log Manuscript.Style Manuscript.Xml

/-! ## The body -/

/-- The identifier of the style of headings of a level. The style for code may have the
    name of one that the template lacks. -/
def headingStyle? (code : CodeLooks) (level : Int) : Option String :=
  (Template.headingStyle? level).or
    (if code.name = "Heading " ++ toString level then some (styleId code.name) else none)

/-- The element of a heading. -/
def headingTree (code : CodeLooks) (level : Int) (text : String) (spacing : Spacing) :
    Except Fault Tree :=
  match headingStyle? code level with
  | none => .error .style
  | some style => do
    let runs ← if text.isEmpty then pure [] else (textRun [] text).map ([·])
    let spacing ← spacingOf spacing
    return paragraphTree { style := some style, spacing } runs

/-- What may be said of a paragraph that holds runs. -/
def runsParagraph (looks : ParagraphLooks) (runs : List Run) (spacing : Spacing)
    (indent : Option Indent) (border : Option Border) : Except Fault Tree := do
  let trees ← runTrees runs
  let spacing ← spacingOf spacing
  let indent ← indent.mapM indentOf
  let border ← border.mapM borderTree
  return paragraphTree { looks with spacing, indent, border } trees

/-- The element of code. -/
def codeTree (code : CodeLooks) (text : String) (font size : Value) (spacing : Spacing)
    (shading : Option String) : Except Fault Tree := do
  let style ← code.find?
  let content ← textContent text
  let font ← fontOf font
  let size ← sizeOf size
  let spacing ← spacingOf spacing
  let shading ← (shading.filter fun s => !s.isEmpty).mapM legal?
  let looks : RunLooks := { font, size := some size }
  return paragraphTree { style := some style, shading, spacing }
    [.element "w:r" [] (looks.tree :: content)]

/-- The element of a block, and the lists seen after it. -/
def blockTree (code : CodeLooks) (lists : Lists) : Block → Except Fault (Tree × Lists)
  | .heading level text spacing => do return (← headingTree code level text spacing, lists)
  | .paragraph runs spacing indent border => do
    return (← runsParagraph {} runs spacing indent border, lists)
  | .listItem runs true level list start spacing indent => do
    let level ← required (signed? level)
    let (number, lists) ← lists.number list start
    let looks : ParagraphLooks := { numbering := some (level, number) }
    return (← runsParagraph looks runs spacing indent none, lists)
  | .listItem runs false _ _ _ spacing indent => do
    let looks : ParagraphLooks := { style := some Template.bulletStyle }
    return (← runsParagraph looks runs spacing indent none, lists)
  | .code text font size spacing shading _ => do
    return (← codeTree code text font size spacing shading, lists)
  | .spacer spacing => do return (← runsParagraph {} [] spacing none none, lists)
  | .rule border spacing => do return (← runsParagraph {} [] spacing none (some border), lists)
  | .table rows columns width borders margins => do
    return (← tableTree rows columns width borders margins, lists)
  | .unknown => .error .unknownBlock

/-- The elements of some blocks, and the lists seen after them. -/
def bodyOf (code : CodeLooks) : Lists → List Block → Except Fault (List Tree × Lists)
  | lists, [] => .ok ([], lists)
  | lists, b :: rest => do
    let (tree, lists) ← blockTree code lists b
    let (trees, lists) ← bodyOf code lists rest
    return (tree :: trees, lists)

/-! ## Properties -/

/-- What a package says about its document. -/
structure Properties where
  /-- The title. -/
  title : String := ""
  /-- The author. -/
  author : String := Template.author
  /-- The subject. -/
  subject : String := ""
  /-- The keywords. -/
  keywords : String := ""
  deriving DecidableEq, Repr

/-- A value as one text: the members of a sequence with commas between them. -/
def propertyText : Value → String
  | .list items | .tuple items => ", ".intercalate (items.map Value.written)
  | v => v.written

/-- The longest text that a package can say about its document. -/
def longestProperty : Nat := 255

/-- What a package says under a key, or what it says without data. -/
def propertyOf (data : Value.Entries) (key otherwise : String) : Except Fault String :=
  match Value.lookup key data with
  | none | some .null => .ok otherwise
  | some v =>
    if !v.isWritable then .error .length
    else
      let text := propertyText v
      if text.length > longestProperty then .error .length else legal? text

/-- What a package says about its document. -/
def propertiesOf (data : Value.Entries) : Except Fault Properties := do
  let preset : Properties := {}
  let title ← propertyOf data "title" preset.title
  let author ← propertyOf data "author" preset.author
  let subject ← propertyOf data "subject" preset.subject
  let keywords ← propertyOf data "keywords" preset.keywords
  return { title, author, subject, keywords }

end Manuscript.Package

namespace Manuscript

/-! ## Packages -/

/-- A package, as far as it differs from the template. -/
structure Package where
  /-- The elements of the body. -/
  body : List Xml.Tree
  /-- The styles. -/
  styles : Package.Styles
  /-- The form of the numbered lists. -/
  form : Xml.Tree
  /-- The numbered lists. -/
  lists : Package.Lists
  /-- What is said about the document. -/
  properties : Package.Properties

namespace Package

open Manuscript.Log Manuscript.Style

/-- The package of a document. -/
def assemble (c : Config) (d : Document) : Except Fault Package := do
  let styles ← stylesOf c
  let properties ← propertiesOf d.metadata
  let (body, lists) ← bodyOf styles.code [] d.blocks
  return { body, styles, form := formTree c.numbering, lists, properties }

/-- The notice for a document that has been put together, or could not be. -/
def assemblyNotice (d : Document) : Except Fault Package → Notice
  | .ok _ => .generated d.blocks.length
  | .error _ => .assemblyFailed

end Package

end Manuscript
