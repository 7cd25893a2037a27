import Manuscript.Markdown.Line
import Manuscript.Text.Blank

/-!
# How blocks open

What the ink of a line says about the block that starts on it: fences, thematic
breaks, list markers, headings and their underlines. All of these need a line that is
not indented as code; the caller checks that.
-/

namespace Manuscript.Markdown

open Manuscript.Text

/-! ## Fences -/

/-- The fence that code stands between. -/
structure Fence where
  /-- The character it is made of. -/
  mark : Char
  /-- How often it stands. -/
  length : Nat
  /-- What follows it on the opening line. -/
  info : List Char
  deriving Repr

/-- The fence that opens with some ink: three backticks or tildes at least. What
    follows backticks has none. -/
def fence? (ink : List Char) : Option Fence :=
  match ink with
  | [] => none
  | c :: _ =>
    if c = '~' || c = '\x60' then
      let length := (ink.takeWhile (· == c)).length
      let info := ink.dropWhile (· == c)
      if length < 3 || (c = '\x60' && info.contains c) then none
      else some ⟨c, length, info⟩
    else none

/-- Whether some ink closes a fence: the same character at least as often, and then
    only space. -/
def Fence.closedBy (f : Fence) (ink : List Char) : Bool :=
  (ink.takeWhile (· == f.mark)).length ≥ f.length && (ink.dropWhile (· == f.mark)).all isSpace

/-! ## Thematic breaks -/

/-- Whether some ink is a thematic break: three or more of the same character out of
    `*`, `-` and `_`, with any space between. -/
def isRule (ink : List Char) : Bool :=
  match ink with
  | [] => false
  | c :: _ =>
    (c == '*' || c == '-' || c == '_') && ink.all (fun d => d == c || isSpace d)
      && ink.count c ≥ 3

/-! ## List markers -/

/-- The marker of a list item. -/
structure Marker where
  /-- The number, if the list is ordered. -/
  number : Option Nat
  /-- The last character: all items of a list have the same one. -/
  sign : Char
  /-- How many characters the marker has. -/
  length : Nat
  deriving DecidableEq, Repr

/-- The value of decimal digits. -/
def digitsValue (ds : List Char) : Nat := ds.foldl (fun n d => 10 * n + (d.toNat - 48)) 0

/-- The marker that some ink starts with: up to nine digits and a point or a
    parenthesis, or a bullet; nothing or a space must follow. -/
def marker? (ink : List Char) : Option Marker :=
  let digits := ink.takeWhile Char.isDigit
  let opens (rest : List Char) : Bool := rest.head?.all isSpace
  match ink.dropWhile Char.isDigit with
  | c :: rest =>
    if digits.isEmpty then
      if (c == '*' || c == '-' || c == '+') && opens rest then some ⟨none, c, 1⟩ else none
    else if digits.length ≤ 9 && (c == '.' || c == ')') && opens rest then
      some ⟨some (digitsValue digits), c, digits.length + 1⟩
    else none
  | [] => none

/-! ## Headings -/

/-- The ink of a heading without the signs that close it: they stand at the end, after
    a space. -/
def unclosed (cs : List Char) : List Char :=
  let body := dropEndWhile isSpace cs
  let bare := dropEndWhile (· == '#') body
  if bare.getLast?.any isSpace then bare else body

/-- The depth and the text of the heading that some ink is: one to six signs, then
    nothing or a space. -/
def heading? (ink : List Char) : Option (Nat × List Char) :=
  let depth := (ink.takeWhile (· == '#')).length
  let rest := ink.dropWhile (· == '#')
  if depth == 0 || depth > 6 || !rest.head?.all isSpace then none
  else some (depth, trimSpacing (unclosed rest))

/-- The depth of the heading that some ink underlines: equals signs or hyphens, then
    only space. -/
def underline? (ink : List Char) : Option Nat :=
  match ink with
  | [] => none
  | c :: _ =>
    if (c == '=' || c == '-') && (ink.dropWhile (· == c)).all isSpace then
      some (if c == '=' then 1 else 2)
    else none

end Manuscript.Markdown
