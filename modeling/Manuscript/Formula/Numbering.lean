import Manuscript.Formula.Command
import Manuscript.Formula.Expression.Basic

/-!
# Numbers of rows

In some environments every row of cells has a number, which is one more than that of the
row that ended before it, in the whole formula. A row may ask for none, and an empty row
at the end has none.

* `Expression.numberedAll`: a row of expressions in which the rows of those environments
  end in their numbers.
-/

namespace Manuscript.Formula

/-- The words that end a row. -/
def rowEnds : List String := ["\\\\", "\\cr"]

/-- The words for lines and spaces in a table, which are no content of a cell. -/
def ruleWords : List String := ["\\hline", "\\hdashline", "\\hfil"]

/-- The words that ask for no number. -/
def unnumberedWords : List String := ["\\nonumber", "\\notag"]

/-- What has been seen of a row of cells. -/
structure RowSeen where
  /-- Whether the current cell is in an even column. -/
  isEven : Bool := false
  /-- Whether the current cell has content. -/
  hasContent : Bool := false
  /-- Whether the row asks for no number. -/
  isUnnumbered : Bool := false

/-- What has been seen of a row after one more word. -/
def RowSeen.after (r : RowSeen) (w : String) : RowSeen :=
  if w == "&" then { r with isEven := !r.isEven, hasContent := !r.isEven }
  else if unnumberedWords.contains w then { r with isUnnumbered := true }
  else if ruleWords.contains w then r
  else { r with hasContent := true }

namespace Expression

/-- The number of a row, as it stands at its end. -/
def rowNumber (n : Nat) : Expression := texted "\\number" (.word (toString n))

/-- The number that ends a row, unless it asks for none, and the next number. -/
def ending (r : RowSeen) (n : Nat) : List Expression × Nat :=
  if r.isUnnumbered then ([], n) else ([rowNumber n], n + 1)

mutual

/-- An expression with numbers from `n` on, and the next number. -/
def numbered (n : Nat) : Expression → Expression × Nat
  | group content => let (es, n) := numberedAll n content; (group es, n)
  | applied command arguments =>
    let (es, n) :=
      if numberedCommands.contains command then numberedRows n {} arguments
      else numberedAll n arguments
    (applied command es, n)
  | mixed pieces => let (es, n) := numberedAll n pieces; (mixed es, n)
  | between l r parts => let (es, n) := numberedAll n parts; (between l r es, n)
  | scripted script stacking parts =>
    let (es, n) := numberedAll n parts
    (scripted script stacking es, n)
  | fenced opening content => let (es, n) := numberedAll n content; (fenced opening es, n)
  | saying name value e => let (e, n) := numbered n e; (saying name value e, n)
  | e => (e, n)

/-- Some expressions with numbers from `n` on, and the next number. -/
def numberedAll (n : Nat) : List Expression → List Expression × Nat
  | [] => ([], n)
  | e :: rest =>
    let (e, n) := numbered n e
    let (rest, n) := numberedAll n rest
    (e :: rest, n)

/-- Rows of cells with numbers from `n` on, and the next number. -/
def numberedRows (n : Nat) (r : RowSeen) : List Expression → List Expression × Nat
  | [] => if r.hasContent then ending r n else ([], n)
  | e :: rest =>
    let (inner, n) := numbered n e
    if rowEnds.contains e.head then
      let (number, n) := ending r n
      let (rest, n) := numberedRows n {} rest
      (number ++ inner :: rest, n)
    else
      let (rest, n) := numberedRows n (r.after e.head) rest
      (inner :: rest, n)

end

end Expression

end Manuscript.Formula
