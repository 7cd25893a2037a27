import Manuscript.Package.Paragraphs

/-!
# The template

Every package starts from one template. It has paragraph styles for nine levels of
heading and for bulleted lists, it has lists with numbers of its own, and it names an
author.
-/

namespace Manuscript.Package.Template

open Manuscript.Package

/-- The accents that the styles for tables come in. -/
def accents : List String :=
  ["", " Accent 1", " Accent 2", " Accent 3", " Accent 4", " Accent 5", " Accent 6"]

/-- The styles for tables that come in all accents. -/
def tableStyles : List String :=
  ["Light Shading", "Light List", "Light Grid", "Medium Shading 1", "Medium Shading 2",
   "Medium List 1", "Medium List 2", "Medium Grid 1", "Medium Grid 2", "Medium Grid 3", "Dark List",
   "Colorful Shading", "Colorful List", "Colorful Grid"]

/-- The levels of heading, as texts. -/
def headingLevels : List String := ["1", "2", "3", "4", "5", "6", "7", "8", "9"]

/-- The names of all styles. -/
def styleNames : List String :=
  ["Normal", "Default Paragraph Font", "Normal Table", "No List", "header", "Header Char", "footer",
   "Footer Char", "No Spacing", "Title", "Title Char", "Subtitle", "Subtitle Char",
   "List Paragraph", "Body Text", "Body Text Char", "Body Text 2", "Body Text 2 Char",
   "Body Text 3", "Body Text 3 Char", "List", "List 2", "List 3", "List Bullet", "List Bullet 2",
   "List Bullet 3", "List Number", "List Number 2", "List Number 3", "List Continue",
   "List Continue 2", "List Continue 3", "macro", "Macro Text Char", "Quote", "Quote Char",
   "caption", "Strong", "Emphasis", "Intense Quote", "Intense Quote Char", "Subtle Emphasis",
   "Intense Emphasis", "Subtle Reference", "Intense Reference", "Book Title", "TOC Heading",
   "Table Grid"]
    ++ headingLevels.map ("heading " ++ ·)
    ++ headingLevels.map ("Heading " ++ · ++ " Char")
    ++ tableStyles.flatMap fun s => accents.map (s ++ ·)

/-- The name that a style is kept under: some names differ in the first letter from
    those that users see. -/
def keptName (name : String) : String :=
  let shown :=
    [("Caption", "caption"), ("Header", "header"), ("Footer", "footer")]
      ++ headingLevels.map fun l => ("Heading " ++ l, "heading " ++ l)
  ((shown.find? fun e => e.1 == name).map (·.2)).getD name

/-- The identifier of the template's style of headings of a level. -/
def headingStyle? (level : Int) : Option String :=
  if 1 ≤ level && level ≤ 9 then some ("Heading" ++ toString level) else none

/-- The identifier of the style of bulleted lists. -/
def bulletStyle : String := "ListBullet"

/-- The looks of the paragraphs of a heading. -/
def headingParagraph (level : Nat) : ParagraphLooks :=
  { keeps := true
    spacing := { before := some (if level = 1 then 480 else 200), after := some 0 }
    outline := some (level - 1 : Nat) }

/-- The colour of a heading, as attributes. -/
def headingColor (level : Nat) : List (String × String) :=
  if level = 1 then
    [("w:themeColor", "accent1"), ("w:themeShade", "BF"), ("w:val", "365F91")]
  else [("w:themeColor", "accent1"), ("w:val", "4F81BD")]

/-- The looks of the text of a heading. -/
def headingRun (level : Nat) : RunLooks :=
  { bold := some true
    otherBold := true
    color := some (headingColor level)
    otherSize := if level = 1 then some 28 else if level = 2 then some 26 else none }

/-- The numbers of the lists. -/
def listNumbers : List Nat := [1, 2, 3, 4, 5, 6, 7, 8, 9]

/-- The numbers of the forms of list. -/
def listForms : List Nat := [0, 1, 2, 3, 4, 5, 6, 7, 8]

/-- The author that the template names. -/
def author : String := "python-docx"

/-- The width of the text on a page, in units of length. -/
def textWidth : Nat := 5486400

end Manuscript.Package.Template
