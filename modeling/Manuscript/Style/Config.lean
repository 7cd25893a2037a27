import Manuscript.Document.Block

/-!
# Style

The looks of a document: fonts, sizes and colours, the presets of the three levels of
heading, of numbers and of code. `Config.standard` is the style without overrides.
-/

namespace Manuscript.Style

open Manuscript.Document

/-- A level of heading that has a preset. -/
inductive Level where
  | one
  | two
  | three
  deriving DecidableEq, Repr

namespace Level

/-- The levels, from the highest to the lowest. -/
def all : List Level := [one, two, three]

/-- The number of a level. -/
def number : Level → Nat
  | one => 1
  | two => 2
  | three => 3

/-- The level with a number. -/
def ofInt? (n : Int) : Option Level := all.find? fun l => (l.number : Int) == n

end Level

/-- The looks of a heading. -/
structure HeadingStyle where
  /-- The size in points. -/
  size : Value
  /-- The space around its lines. -/
  spacing : Spacing
  /-- The name of the font. -/
  font : Value := .text "Arial"
  /-- Whether it is set in bold type. -/
  bold : Value := .bool true
  /-- The colour, in hexadecimal digits. -/
  color : Value := .text "000000"
  deriving Inhabited

/-- The looks of the numbers of lists. -/
structure NumberingStyle where
  /-- The form of the numbers. -/
  format : String := "decimal"
  /-- What is written, with the number's place in it. -/
  text : String := "%1."
  /-- The side that numbers keep to. -/
  alignment : String := "start"
  /-- How far an item is set in, in twentieths of a point. -/
  indentLeft : Int := 720
  /-- How far the number stands to its left. -/
  indentHanging : Int := 360
  deriving DecidableEq, Repr, Inhabited

/-- The height of a line of text, in 240ths. -/
def lineHeight : Value := .int 300

/-- The looks of code. -/
structure CodeStyle where
  /-- The name of the paragraph style. -/
  name : Value := .text "Code Style"
  /-- The name of the font. -/
  font : Value := .text "Courier New"
  /-- The size in points. -/
  size : Value := .int 10
  /-- The space around its lines. -/
  spacing : Spacing := { before := .int 80, after := .int 80, line := lineHeight }
  deriving Inhabited

/-- The looks of the headings with a preset. -/
structure Headings where
  /-- The first level. -/
  one : HeadingStyle
  /-- The second level. -/
  two : HeadingStyle
  /-- The third level. -/
  three : HeadingStyle
  deriving Inhabited

namespace Headings

/-- The looks of a level. -/
def get (h : Headings) : Level → HeadingStyle
  | .one => h.one
  | .two => h.two
  | .three => h.three

/-- Replaces the looks of a level. -/
def set (h : Headings) (l : Level) (s : HeadingStyle) : Headings :=
  match l with
  | .one => { h with one := s }
  | .two => { h with two := s }
  | .three => { h with three := s }

/-- A level has the looks it was given last. -/
@[simp] theorem get_set (h : Headings) (l m : Level) (s : HeadingStyle) :
    (h.set l s).get m = if m = l then s else h.get m := by
  cases l <;> cases m <;> simp [get, set]

end Headings

/-- The looks of headings without overrides. -/
def standardHeadings : Headings where
  one := { size := .int 16, spacing := { before := .int 200, after := .int 100, line := lineHeight } }
  two := { size := .int 14, spacing := { before := .int 160, after := .int 80, line := lineHeight } }
  three := { size := .int 12, spacing := { before := .int 120, after := .int 60, line := lineHeight } }

/-- The looks of a document. -/
structure Config where
  /-- The font of running text. -/
  font : Value := .text "Arial"
  /-- The size of running text in points. -/
  size : Value := .int 12
  /-- The font of code within text, and of formulas that stay as they are. -/
  monoFont : Value := .text "Courier New"
  /-- The colour of formulas that stay as they are. -/
  fallbackColor : Value := .text "0066CC"
  /-- The looks of headings. -/
  headings : Headings := standardHeadings
  /-- The looks of the numbers of lists. -/
  numbering : NumberingStyle := {}
  /-- The looks of code. -/
  code : CodeStyle := {}
  deriving Inhabited

/-- The style without overrides. -/
def Config.standard : Config := {}

end Manuscript.Style
