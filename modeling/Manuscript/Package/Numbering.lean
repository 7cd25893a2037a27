import Manuscript.Package.Paragraphs
import Manuscript.Package.Template
import Manuscript.Style.Config

/-!
# The numbers of lists

Every ordered list of a document gets a number of its own in the package, where it is
told to start: the first number not in use, in the order in which the lists first appear.
All refer to one form of list, which is added to those of the template under a number above
theirs.
-/

namespace Manuscript.Package

open Manuscript.Style Manuscript.Xml

/-- A number above some others, zero if there are none. -/
def numberAbove (ns : List Nat) : Nat := ns.foldr (fun n above => Nat.max (n + 1) above) 0

/-- The number of the form of list that is added. -/
def addedForm : Nat := numberAbove Template.listForms

/-- The first number from one on that is not in use. -/
def firstUnused (used : List Nat) : Nat :=
  ((List.range' 1 (used.length + 1)).find? fun n => !used.contains n).getD (used.length + 1)

/-- The numbers in use when some lists have been added to those of the template. -/
def inUse : (added : Nat) → List Nat
  | 0 => Template.listNumbers
  | n + 1 =>
    let used := inUse n
    used ++ [firstUnused used]

/-- The ordered lists seen so far, with the numbers they start at. -/
abbrev Lists := List (Int × Int)

namespace Lists

/-- The place of a list among those seen. -/
def place? (lists : Lists) (list : Int) : Option Nat := lists.findIdx? fun l => l.1 == list

/-- The number of the list at a place. -/
def numberAt (place : Nat) : Nat := firstUnused (inUse place)

/-- The number of a list, and the lists with it among them. The start is that of the
    first item seen. -/
def number (lists : Lists) (list start : Int) : Except Fault (Int × Lists) :=
  match lists.place? list with
  | some place => .ok (numberAt place, lists)
  | none => do
    let start ← required (signed? start)
    return (numberAt lists.length, lists ++ [(list, start)])

/-- The element of a list with a number and a start. -/
def tree (number : Nat) (start : Int) : Tree :=
  .element "w:num" [("w:numId", toString number)]
    [numberTree "w:abstractNumId" addedForm,
     .element "w:lvlOverride" [("w:ilvl", "0")] [numberTree "w:startOverride" start]]

/-- The elements of all lists. -/
def trees (lists : Lists) : List Tree :=
  lists.zipIdx.map fun (l, place) => tree (numberAt place) l.2

end Lists

/-- The side that numbers keep to, as it is named in the package. -/
def numberSide (alignment : String) : String := if alignment = "start" then "left" else alignment

/-- The form of the lists that are added. -/
def formTree (s : NumberingStyle) : Tree :=
  .element "w:abstractNum" [("w:abstractNumId", toString addedForm)]
    [.element "w:lvl" [("w:ilvl", "0")]
      [.valued "w:start" "w:val" "1", .valued "w:numFmt" "w:val" s.format,
       .valued "w:lvlText" "w:val" s.text, .valued "w:lvlJc" "w:val" (numberSide s.alignment),
       .element "w:pPr" []
        [.leaf "w:ind"
          [("w:hanging", toString s.indentHanging), ("w:left", toString s.indentLeft)]]]]

end Manuscript.Package
