import Manuscript.Package.Paragraphs
import Manuscript.Package.Template

/-!
# Tables of a package

A table has a grid of so many columns; every row of it has that many cells. A cell of
the grid that a block says nothing of has an equal share of the width of the text, and
an empty paragraph. Cells of a block beyond the grid are left out.
-/

namespace Manuscript.Package

open Manuscript.Document Manuscript.Xml

/-- The sides of a border around cells, in the order of the schema. -/
def sides : List String := ["top", "left", "bottom", "right", "insideH", "insideV"]

/-- The place of a side. -/
def sideRank? (side : String) : Option Nat := sides.findIdx? (· == side)

/-- Borders in the order of their sides; borders of one side stay in their order. -/
def sortedBorders (borders : List Border) : Except Fault (List Border) := do
  let ranked ← borders.mapM fun b =>
    match sideRank? b.side with
    | some rank => Except.ok (rank, b)
    | none => Except.error Fault.side
  return (ranked.mergeSort fun a b => a.1 ≤ b.1).map (·.2)

/-- The element of some borders. -/
def bordersTree (name : String) (borders : List Border) : Except Fault Tree := do
  let trees ← (← sortedBorders borders).mapM borderTree
  return .element name [] trees

/-- The element of a margin. -/
def marginTree (side : String) (width : Int) : Tree :=
  .leaf ("w:" ++ side) [("w:type", "dxa"), ("w:w", toString width)]

/-- The element of four margins, given from top to bottom and from left to right. -/
def marginsTree (name : String) (margins : List Int) : Except Fault Tree :=
  match margins with
  | [top, bottom, left, right] =>
    .ok (.element name []
      [marginTree "top" top, marginTree "left" left, marginTree "bottom" bottom,
       marginTree "right" right])
  | _ => .error .margins

/-- An element for a width in percent, counted in fiftieths. -/
def percentTree (name : String) (percent : Int) : Tree :=
  .leaf name [("w:type", "pct"), ("w:w", toString (percent * 50))]

/-- The sides that the text of a cell can keep to. -/
def alignments : List String := ["left", "center", "right"]

/-- The element of a cell. -/
def cellTree (borders : List Border) (c : Cell) : Except Fault Tree := do
  let borders ← bordersTree "w:tcBorders" borders
  let margins ← marginsTree "w:tcMar" c.margins
  let runs ← runTrees c.runs
  let spacing ← spacingOf c.spacing
  return .element "w:tc" []
    [.element "w:tcPr" []
      [percentTree "w:tcW" c.width, borders, margins, .valued "w:vAlign" "w:val" "center"],
     paragraphTree { spacing, alignment := c.align.filter alignments.contains } runs]

/-- The element of a cell that no block says anything of, among so many columns. -/
def emptyCell (columns : Nat) : Tree :=
  .element "w:tc" []
    [.element "w:tcPr" []
      [.leaf "w:tcW"
        [("w:type", "dxa"), ("w:w", toString (twentieths (Template.textWidth / columns : Nat)))]],
     .element "w:p" [] []]

/-- The cells of a row of the grid. -/
def rowCells (borders : List Border) (columns : Nat) (cells : List Cell) :
    Except Fault (List Tree) := do
  let given ← (cells.take columns).mapM (cellTree borders)
  return given ++ List.replicate (columns - given.length) (emptyCell columns)

/-- The space that stands where a grid without columns would have them. -/
def gap (columns : Nat) : List Tree := if columns = 0 then [.text "\n  "] else []

/-- The properties of a row. -/
def rowProperties (r : Row) : Except Fault (List Tree) := do
  let height ←
    match r.minHeight with
    | none => .ok []
    | some n => do
      let length ← required (unsigned? (n * perTwentieth))
      .ok [Tree.leaf "w:trHeight"
        [("w:hRule", "atLeast"), ("w:val", toString (twentieths length))]]
  let content := height ++ (if r.header then [Tree.leaf "w:tblHeader" []] else [])
  return if content.isEmpty then [] else [.element "w:trPr" [] content]

/-- The element of a row. -/
def rowTree (borders : List Border) (columns : Nat) (r : Row) : Except Fault Tree := do
  let properties ← rowProperties r
  let cells ← rowCells borders columns r.cells
  return .element "w:tr" [] (gap columns ++ properties ++ cells)

/-- The properties of a table. -/
def tableProperties (borders : List Border) (margins : List Int) : Except Fault Tree := do
  let borders ← bordersTree "w:tblBorders" borders
  let margins ← marginsTree "w:tblCellMar" margins
  return .element "w:tblPr" []
    [percentTree "w:tblW" 100, borders, .valued "w:tblLayout" "w:type" "fixed", margins,
     .leaf "w:tblLook"
      [("w:firstColumn", "1"), ("w:firstRow", "1"), ("w:lastColumn", "0"), ("w:lastRow", "0"),
       ("w:noHBand", "0"), ("w:noVBand", "1"), ("w:val", "04A0")]]

/-- The grid of a table. -/
def gridTree (columns : Nat) (width : Int) : Tree :=
  .element "w:tblGrid" []
    (gap columns ++ List.replicate columns (.valued "w:gridCol" "w:w" (toString (width * 100))))

/-- The element of a table. -/
def tableTree (rows : List Row) (columns width : Int) (borders : List Border)
    (margins : List Int) : Except Fault Tree := do
  let properties ← tableProperties borders margins
  let trees ← rows.mapM (rowTree borders columns.toNat)
  return .element "w:tbl" [] (properties :: gridTree columns.toNat width :: trees)

end Manuscript.Package
