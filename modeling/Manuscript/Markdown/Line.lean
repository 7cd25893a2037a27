import Manuscript.Text.Lines

/-!
# Source lines

The lines of a Markdown text as the containers around them see them. A block quote
takes its marker off a line, a list item counts its marker as indentation; what is
left keeps track of *columns*, for a tab reaches to the next column that four
divides, counted from the start of the whole line.

* `sourceLines`: the lines of a text;
* `Line.cut`: a line without the indentation of the block it belongs to;
* `Line.unquoted`: a line without the marker of a block quote.
-/

namespace Manuscript.Markdown

open Manuscript.Text

/-- A line inside its containers. -/
structure Line where
  /-- The characters that the containers leave, without the end of the line. -/
  chars : List Char
  /-- How many of them are indentation. -/
  shift : Nat
  /-- The columns that the indentation takes. A line that a paragraph inside a block
      quote takes in, though it has no marker, is at column `-1`. -/
  width : Int
  /-- The column, in the whole line, at which the characters start. -/
  origin : Nat
  /-- Whether a line feed ends the line. -/
  ended : Bool
  deriving Repr

/-- A space or a tab. -/
def isSpace (c : Char) : Bool := c == ' ' || c == '\t'

/-- The column after a space or a tab at column `col` of characters that start at
    column `origin`. -/
def columnAfter (origin col : Nat) (c : Char) : Nat :=
  if c == '\t' then col + (4 - (col + origin) % 4) else col + 1

/-- The column after some spaces and tabs. -/
def columnsAfter (origin col : Nat) (cs : List Char) : Nat := cs.foldl (columnAfter origin) col

namespace Line

/-- A line outside the text. -/
def nowhere : Line := ⟨[], 0, 0, 0, false⟩

/-- The line with the given characters. -/
def ofChars (chars : List Char) (ended : Bool) : Line :=
  let blanks := chars.takeWhile isSpace
  ⟨chars, blanks.length, columnsAfter 0 0 blanks, 0, ended⟩

/-- What follows the indentation. -/
def ink (l : Line) : List Char := l.chars.drop l.shift

/-- Nothing follows the indentation. -/
def isEmpty (l : Line) : Bool := l.ink.isEmpty

/-- Whether the line is indented so far that it can only be code, in a block at column
    `indent`. -/
def isCode (indent : Nat) (l : Line) : Bool := l.width - indent ≥ 4

/-- The characters after `indent` columns of indentation, spaces replacing the part of
    a tab that reaches further. `pos` and `col` tell how far the cut has come. -/
def cutFrom (l : Line) (indent : Nat) : List Char → (pos col : Nat) → List Char
  | [], _, col => List.replicate (col - indent) ' '
  | c :: cs, pos, col =>
    if col < indent then
      if isSpace c then cutFrom l indent cs (pos + 1) (columnAfter l.origin col c)
      else if pos < l.shift then cutFrom l indent cs (pos + 1) (col + 1)
      else c :: cs
    else List.replicate (col - indent) ' ' ++ c :: cs

/-- The characters after `indent` columns of indentation. -/
def cut (indent : Nat) (l : Line) : List Char := l.cutFrom indent l.chars 0 0

/-- The line inside a block quote: without the marker at its start, and without one
    space after it. A tab after the marker gives that space and keeps its other
    columns. -/
def unquoted (l : Line) : Line :=
  let col := l.width.toNat + 1
  let after := l.ink.drop 1
  let (body, start, spaced, kept) : List Char × Nat × Bool × Bool :=
    match after with
    | ' ' :: rest => (rest, col + 1, true, false)
    | '\t' :: rest =>
      if (l.origin + col) % 4 == 3 then (rest, col + 1, true, false)
      else (after, col, true, true)
    | _ => (after, col, false, false)
  let blanks := body.takeWhile isSpace
  let reached := columnsAfter (l.origin + if kept then 1 else 0) start blanks
  { chars := body
    shift := blanks.length
    width := (reached : Int) - start
    origin := l.width.toNat + 1 + if spaced then 1 else 0
    ended := l.ended }

/-- The line as the paragraph before it takes it in. -/
def lazy (l : Line) : Line := { l with width := -1 }

end Line

/-- Cuts a text at its line feeds; each line knows whether one ended it. -/
def rawLines : List Char → List (List Char × Bool)
  | [] => []
  | '\n' :: cs => ([], true) :: rawLines cs
  | c :: cs =>
    match rawLines cs with
    | [] => [([c], false)]
    | (l, ended) :: rest => (c :: l, ended) :: rest

/-- A last line of spaces and tabs that no line feed ends does not count. -/
def counts (l : List Char × Bool) : Bool := l.2 || !l.1.all isSpace

/-- The text that blocks are read from: each end of a line is one line feed, and a
    character that stands for nothing is replaced. -/
def normalize (cs : List Char) : List Char :=
  (unifyBreaks cs).map fun c => if c = '\x00' then '\ufffd' else c

/-- The source lines of a normalized text. -/
def sourceLines (cs : List Char) : List Line :=
  ((rawLines cs).filter counts).map fun l => Line.ofChars l.1 l.2

end Manuscript.Markdown
