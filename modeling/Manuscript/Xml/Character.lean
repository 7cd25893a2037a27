import Manuscript.Xml.Tree

/-!
# Characters of markup

Space, line ends, characters that are given by their numbers, and the names that elements
and attributes of a fragment may have.
-/

namespace Manuscript.Xml

/-- A character that separates the parts of a tag. -/
def isSpace (c : Char) : Bool := c == ' ' || c == '\t' || c == '\n' || c == '\r'

/-- The text with carriage returns, and pairs of carriage return and line feed, made
    line feeds. -/
def unifyEnds : List Char → List Char
  | [] => []
  | '\r' :: '\n' :: cs => '\n' :: unifyEnds cs
  | '\r' :: cs => '\n' :: unifyEnds cs
  | c :: cs => c :: unifyEnds cs

/-- The value of a hexadecimal digit. -/
def hexValue? (c : Char) : Option Nat :=
  if c.isDigit then some (c.toNat - '0'.toNat)
  else if 'a' ≤ c && c ≤ 'f' then some (c.toNat - 'a'.toNat + 10)
  else if 'A' ≤ c && c ≤ 'F' then some (c.toNat - 'A'.toNat + 10)
  else none

/-- Reads digits of a base. -/
def number? (base : Nat) (cs : List Char) : Option Nat :=
  if cs.isEmpty then none
  else cs.foldlM (fun n c => (hexValue? c).bind fun d => if d < base then some (n * base + d) else none) 0

/-- The character with a number, if it may stand in markup. -/
def character? (n : Nat) : Option Char :=
  if h : n.isValidChar then
    let c := Char.ofNatAux n h
    if isLegal c then some c else none
  else none

/-- The character of an entity that every text of markup knows. -/
def standardEntity? (name : List Char) : Option Char :=
  match String.ofList name with
  | "amp" => some '&'
  | "lt" => some '<'
  | "gt" => some '>'
  | "quot" => some '\x22'
  | "apos" => some '\x27'
  | _ => none

/-! ## Names -/

/-- Whether a character is in one of some ranges of numbers. -/
def isWithin (ranges : List (Nat × Nat)) (c : Char) : Bool :=
  ranges.any fun (low, high) => low ≤ c.toNat && c.toNat ≤ high

/-- A character that a name may start with. -/
def isNameStart (c : Char) : Bool :=
  c.isAlpha || c == '_' || isWithin
    [(0xc0, 0xd6), (0xd8, 0xf6), (0xf8, 0x2ff), (0x370, 0x37d), (0x37f, 0x1fff), (0x200c, 0x200d),
     (0x2070, 0x218f), (0x2c00, 0x2fef), (0x3001, 0xd7ff), (0xf900, 0xfdcf), (0xfdf0, 0xfffd),
     (0x10000, 0xeffff)] c

/-- A character that a name may go on with. -/
def isNamePart (c : Char) : Bool :=
  isNameStart c || c.isDigit || c == '-' || c == '.' || isWithin
    [(0xb7, 0xb7), (0x300, 0x36f), (0x203f, 0x2040)] c

/-- A name without a colon off the front of a text. -/
def simpleName? (cs : List Char) : Option (List Char × List Char) :=
  match cs with
  | [] => none
  | c :: rest =>
    if isNameStart c then some (c :: rest.takeWhile isNamePart, rest.dropWhile isNamePart)
    else none

/-- A name off the front of a text; one colon may stand between its parts. -/
def name? (cs : List Char) : Option (String × List Char) := do
  let (first, rest) ← simpleName? cs
  match rest with
  | ':' :: tail =>
    let (second, rest) ← simpleName? tail
    if rest.head? == some ':' then none
    else some (String.ofList (first ++ ':' :: second), rest)
  | _ => some (String.ofList first, rest)

end Manuscript.Xml
