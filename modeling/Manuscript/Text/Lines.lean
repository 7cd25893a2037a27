/-!
# Lines

Two readings of a text as lines.

* `unifyBreaks` makes every line feed, carriage return and pair of both one line
  feed: a *source line* ends at these only.
* `visualLines` cuts at every character that a display breaks a line at, which are
  eight more. No line stands after the last break.

A line is *hollow* when it holds blanks only.
-/

namespace Manuscript.Text

/-- The text with each carriage return, and each pair of carriage return and line
    feed, made one line feed. -/
def unifyBreaks : List Char → List Char
  | [] => []
  | '\r' :: '\n' :: cs => '\n' :: unifyBreaks cs
  | '\r' :: cs => '\n' :: unifyBreaks cs
  | c :: cs => c :: unifyBreaks cs

/-- A character that a display breaks a line at. -/
def isBreak (c : Char) : Bool :=
  let n := c.toNat
  (10 ≤ n && n ≤ 13) || (28 ≤ n && n ≤ 30) || n == 0x85 || n == 0x2028 || n == 0x2029

/-- Puts a character before the first line, which it opens if there is none. -/
def consToFirst (c : Char) : List (List Char) → List (List Char)
  | [] => [[c]]
  | l :: ls => (c :: l) :: ls

/-- The lines of a text as a display shows them, without their breaks; a carriage
    return and the line feed after it are one break. -/
def visualLines : List Char → List (List Char)
  | [] => []
  | '\r' :: '\n' :: cs => [] :: visualLines cs
  | c :: cs => if isBreak c then [] :: visualLines cs else consToFirst c (visualLines cs)

end Manuscript.Text
