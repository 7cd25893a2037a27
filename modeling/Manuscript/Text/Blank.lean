/-!
# Blank characters

A *blank* is a character that only makes space: the white space of the Unicode
character database together with the four separators of the control range. Text
is *blank* when all its characters are, and trimming takes blanks off the ends.
-/

namespace Manuscript.Text

/-- A character that only makes space. -/
def isBlank (c : Char) : Bool :=
  let n := c.toNat
  (9 ≤ n && n ≤ 13) || (28 ≤ n && n ≤ 32) || n == 0x85 || n == 0xa0 || n == 0x1680
    || (0x2000 ≤ n && n ≤ 0x200a) || n == 0x2028 || n == 0x2029 || n == 0x202f
    || n == 0x205f || n == 0x3000

/-- A text that holds blanks only, such as the empty one. -/
def allBlank (cs : List Char) : Bool := cs.all isBlank

/-- The text without the longest run at its end whose characters satisfy `p`. -/
def dropEndWhile (p : Char → Bool) (cs : List Char) : List Char :=
  (cs.reverse.dropWhile p).reverse

/-- The text without the blanks at its start. -/
def trimStart (cs : List Char) : List Char := cs.dropWhile isBlank

/-- The text without the blanks at its end. -/
def trimEnd (cs : List Char) : List Char := dropEndWhile isBlank cs

/-- The text without the blanks at both ends. -/
def trim (cs : List Char) : List Char := trimEnd (trimStart cs)

/-- A blank that sets text apart: all but the separators of the control range and the
    character for a next line. -/
def isSpacing (c : Char) : Bool :=
  isBlank c && !(28 ≤ c.toNat && c.toNat ≤ 31) && c.toNat != 0x85

/-- The text without the spacing at both ends. -/
def trimSpacing (cs : List Char) : List Char := dropEndWhile isSpacing (cs.dropWhile isSpacing)

/-- The string without the blanks at both ends. -/
def trimmed (s : String) : String := String.ofList (trim s.toList)

/-- The string without the line feeds at its end. -/
def chomped (s : String) : String := String.ofList (dropEndWhile (· == '\n') s.toList)

end Manuscript.Text
