import Manuscript.Inline.Span
import Manuscript.Value.Basic
import Manuscript.Xml.Tree

/-!
# Blocks

The units of a document, from top to bottom: what a token becomes before it is laid
out in a package. Measures and fonts come from the style, which may hold any value;
whether a value can be used is settled when the package is put together.
-/

namespace Manuscript.Document

/-! ## Runs -/

/-- Text with its looks. -/
structure StyledText where
  /-- The text. -/
  text : String
  /-- The name of the font. -/
  font : Value
  /-- The size in points. -/
  size : Value
  /-- Whether it is set in bold type. -/
  bold : Bool := false
  /-- Whether it is set in italic type. -/
  italic : Bool := false
  /-- The colour, in hexadecimal digits. -/
  color : Value := .null
  /-- Whether it stands for a formula that was not converted. -/
  fallback : Bool := false
  deriving Inhabited

/-- A formula in the markup of the package. -/
structure MathObject where
  /-- The element that holds the formula. -/
  element : Xml.Tree
  /-- The formula as it was given. -/
  latex : String
  /-- Whether it is set on its own. -/
  display : Bool
  deriving Inhabited

/-- What a run shows. -/
inductive Content where
  /-- Text with its looks. -/
  | styled (t : StyledText)
  /-- A formula. -/
  | math (m : MathObject)
  /-- Text without looks, which no package can show. -/
  | bare (s : String)
  deriving Inhabited

/-- A piece of inline content. -/
structure Run where
  /-- What the piece is. -/
  kind : Inline.Kind
  /-- Its source, with its delimiters. -/
  raw : String
  /-- What it shows. -/
  content : Content
  deriving Inhabited

/-! ## Measures -/

/-- The space around the lines of a paragraph. -/
structure Spacing where
  /-- The space above, in twentieths of a point. -/
  before : Value := .null
  /-- The space below, in twentieths of a point. -/
  after : Value := .null
  /-- The height of a line: in 240ths of a line, or in twentieths of a point. -/
  line : Value := .null
  /-- Which of both it is: `auto` counts lines. -/
  lineRule : Value := .text "auto"
  deriving Inhabited

/-- How far a paragraph is set in, in twentieths of a point. -/
structure Indent where
  /-- All lines. -/
  left : Int := 0
  /-- The first line, to the left of the others. -/
  hanging : Int := 0
  deriving DecidableEq, Repr, Inhabited

/-- A line along one side. -/
structure Border where
  /-- The side. -/
  side : String
  /-- The colour, in hexadecimal digits. -/
  color : String
  /-- The width, in eighths of a point. -/
  size : Int
  /-- The distance to the text, in points. -/
  space : Int := 0
  /-- The form of the line. -/
  style : String := "single"
  deriving DecidableEq, Repr, Inhabited

/-! ## Tables -/

/-- A cell of a table. -/
structure Cell where
  /-- What it shows. -/
  runs : List Run
  /-- Its width, in percent of the table. -/
  width : Int
  /-- The margins at the top, at the bottom, on the left and on the right. -/
  margins : List Int
  /-- The space around its lines. -/
  spacing : Spacing := {}
  /-- The side that its text keeps to. -/
  align : Option String := none
  deriving Inhabited

/-- A row of a table. -/
structure Row where
  /-- The cells, from left to right. -/
  cells : List Cell
  /-- Whether it heads the table. -/
  header : Bool := false
  /-- The least height, in twentieths of a point. -/
  minHeight : Option Int := none
  deriving Inhabited

/-! ## Blocks -/

/-- A unit of a document. -/
inductive Block where
  /-- A paragraph. -/
  | paragraph (runs : List Run) (spacing : Spacing) (indent : Option Indent)
      (border : Option Border)
  /-- A heading. -/
  | heading (level : Int) (text : String) (spacing : Spacing)
  /-- An item of a list; the items of one ordered list share a number. -/
  | listItem (runs : List Run) (ordered : Bool) (level list start : Int) (spacing : Spacing)
      (indent : Option Indent)
  /-- Code. -/
  | code (text : String) (font size : Value) (spacing : Spacing) (shading : Option String)
      (language : Option String)
  /-- An empty paragraph between blocks. -/
  | spacer (spacing : Spacing)
  /-- A line across the page. -/
  | rule (border : Border) (spacing : Spacing)
  /-- A table: its rows, the number and the width of its columns, the lines around and
      between its cells, and their margins. -/
  | table (rows : List Row) (columns width : Int) (borders : List Border) (margins : List Int)
  /-- A unit of no kind. -/
  | unknown
  deriving Inhabited

/-- Whether a block only makes space. -/
def Block.isSpacer : Block → Bool
  | spacer _ => true
  | _ => false

end Manuscript.Document

namespace Manuscript

/-- A document: its blocks, and the data about it. -/
structure Document where
  /-- The blocks, from top to bottom. -/
  blocks : List Document.Block
  /-- The data about the document. -/
  metadata : Value.Entries := []

end Manuscript
