import Manuscript.Markdown.Block
import Manuscript.Text.Blank

/-!
# Tables

The rows of a table are cut at their bars. A bar after a backslash belongs to its
cell, without the backslash. The second line of a table is made of hyphens, which
colons align, and tells how many columns there are.
-/

namespace Manuscript.Markdown

open Manuscript.Text

/-- Puts a character before the first cell. -/
def consToCell (c : Char) : List (List Char) → List (List Char)
  | [] => [[c]]
  | l :: ls => (c :: l) :: ls

/-- Cuts a row at its bars. -/
def cells : List Char → List (List Char)
  | [] => [[]]
  | '\x5c' :: '|' :: cs => consToCell '|' (cells cs)
  | c :: cs => if c = '|' then [] :: cells cs else consToCell c (cells cs)

/-- The cells of a row, without the empty ones that bars at its ends make, each
    trimmed. -/
def rowCells (ink : List Char) : List String :=
  let all := cells (trimSpacing ink)
  let all := if all.head? == some [] then all.drop 1 else all
  let all := if all.getLast? == some [] then all.dropLast else all
  all.map fun c => String.ofList (trimSpacing c)

/-- Cuts a text at its bars, whatever stands before them. -/
def splitBars : List Char → List (List Char)
  | [] => [[]]
  | c :: cs => if c = '|' then [] :: splitBars cs else consToCell c (splitBars cs)

/-- The alignment that hyphens and colons give: none where there is no colon. -/
def alignment? (cs : List Char) : Option (Option Alignment) :=
  let left := cs.head? == some ':'
  let right := cs.getLast? == some ':'
  let body := if left then cs.drop 1 else cs
  let body := if right then body.dropLast else body
  if body.isEmpty || !body.all (· == '-') then none
  else
    some <|
      match left, right with
      | true, true => some .center
      | false, true => some .right
      | true, false => some .left
      | false, false => none

/-- The alignments of the columns between bars; the first and the last text may be
    blank, and then give no column. -/
def columnAlignments : List (List Char) → Bool → Option (List (Option Alignment))
  | [], _ => some []
  | c :: cs, first =>
    let c := trimSpacing c
    if c.isEmpty then
      if first || cs.isEmpty then columnAlignments cs false else none
    else
      match alignment? c with
      | none => none
      | some a => (columnAlignments cs false).map (a :: ·)

/-- The alignments that the second line of a table gives. It starts with a hyphen, a
    colon or a bar; a hyphen with space after it would make a list. -/
def delimiters? (ink : List Char) : Option (List (Option Alignment)) :=
  let isMark (c : Char) : Bool := c == '|' || c == '-' || c == ':'
  let isBlankChar (c : Char) : Bool := c == ' ' || c == '\t'
  match ink with
  | a :: b :: rest =>
    if !isMark a || !(isMark b || isBlankChar b) || (a == '-' && isBlankChar b)
        || !rest.all fun c => isMark c || isBlankChar c then none
    else columnAlignments (splitBars ink) true
  | _ => none

/-- The header of a table: its cells with their alignments. There are as many cells as
    the second line gives columns, at least one, and a bar stands in the first line. -/
def tableHeader? (header delimiters : List Char) :
    Option (List (String × Option Alignment)) :=
  match delimiters? delimiters with
  | none => none
  | some aligns =>
    if !header.contains '|' then none
    else
      let names := rowCells header
      if names.isEmpty || names.length != aligns.length then none
      else some (names.zip aligns)

/-- A row of a table with so many columns: missing cells are empty, surplus ones are
    dropped. -/
def fitRow (columns : Nat) (row : List String) : List String :=
  (row ++ List.replicate columns "").take columns

end Manuscript.Markdown
