import Manuscript.Document.Block
import Manuscript.Package.Fault
import Manuscript.Package.Measure
import Manuscript.Xml.Character

/-!
# Runs of a package

Text is kept in pieces: a tab and a break are elements of their own, and a carriage
return is a break like a line feed. What stands between is literal, with its space
kept if it begins or ends with a blank.

* `Piece.ofText`: the pieces of a text, `Piece.toText` the text of pieces;
* `RunLooks`: the properties of a run, which `RunLooks.content` lists in the order
  that the schema asks for.
-/

namespace Manuscript.Package

open Manuscript.Document Manuscript.Text Manuscript.Xml

/-! ## Text -/

/-- A piece of text. -/
inductive Piece where
  | literal (cs : List Char)
  | tab
  | line
  deriving DecidableEq, Repr

namespace Piece

/-- Puts a character before some pieces. -/
def cons (c : Char) : List Piece → List Piece
  | literal cs :: rest => literal (c :: cs) :: rest
  | rest => literal [c] :: rest

/-- The pieces of a text. -/
def ofText : List Char → List Piece
  | [] => []
  | c :: cs =>
    if c = '\t' then tab :: ofText cs
    else if c = '\n' || c = '\r' then line :: ofText cs
    else cons c (ofText cs)

/-- The text of some pieces. -/
def toText : List Piece → List Char
  | [] => []
  | literal cs :: rest => cs ++ toText rest
  | tab :: rest => '\t' :: toText rest
  | line :: rest => '\n' :: toText rest

/-- The text of pieces with a character before them. -/
@[simp] theorem toText_cons (c : Char) (ps : List Piece) : toText (cons c ps) = c :: toText ps := by
  cases ps with
  | nil => rfl
  | cons p ps => cases p <;> rfl

/-- Whether a text begins or ends with a blank. -/
def isPadded (cs : List Char) : Bool := cs.head?.any isBlank || cs.getLast?.any isBlank

/-- The element of a piece. -/
def tree : Piece → Tree
  | literal cs =>
    .element "w:t" (if isPadded cs then [("xml:space", "preserve")] else [])
      [.text (String.ofList cs)]
  | tab => .leaf "w:tab" []
  | line => .leaf "w:br" []

end Piece

/-- A text that may stand in a package. -/
def legal? (s : String) : Except Fault String :=
  if isLegalText s then .ok s else .error .character

/-- The elements of a text. -/
def textContent (s : String) : Except Fault (List Tree) := do
  let s ← legal? s
  return (Piece.ofText s.toList).map Piece.tree

/-! ## Looks -/

/-- A name that must be a text. -/
def nameOf (fault : Fault) : Value → Except Fault String
  | .text s => legal? s
  | _ => .error fault

/-- The name of a font; without one, the font stays open. -/
def fontOf : Value → Except Fault (Option String)
  | .null => .ok none
  | v => (nameOf .font v).map some

/-- A measure that must be one. -/
def required (m : Option Int) : Except Fault Int :=
  match m with
  | some n => .ok n
  | none => .error .measure

/-- A size of type, in half points. -/
def sizeOf (v : Value) : Except Fault Int := do
  let length ← required (length? perPoint v >>= unsigned?)
  return halfPoints length

/-- The digits of a number in base sixteen, with single underscores between them. -/
def hexDigits? : List Char → Nat → Option Nat
  | [], n => some n
  | '_' :: c :: cs, n => (hexValue c).bind fun d => hexDigits? cs (16 * n + d)
  | c :: cs, n => (hexValue c).bind fun d => hexDigits? cs (16 * n + d)
where
  /-- The value of a digit; decimal digits may be of any script. -/
  hexValue (c : Char) : Option Nat := (Xml.hexValue? c).or (digit? c)

/-- The digits of a number in base sixteen, after a mark of the base if there is one. -/
def unmarked? : List Char → Option Nat
  | '0' :: x :: cs =>
    if x = 'x' || x = 'X' then
      match cs with
      | '_' :: c :: rest | c :: rest => if c = '_' then none else hexDigits? (c :: rest) 0
      | [] => none
    else hexDigits? ('0' :: x :: cs) 0
  | '_' :: _ => none
  | [] => none
  | cs => hexDigits? cs 0

/-- One part of a colour. -/
def channel? (cs : List Char) : Option Nat :=
  let value :=
    match trim cs with
    | '-' :: ds => (unmarked? ds).bind fun n => if n = 0 then some 0 else none
    | '+' :: ds => unmarked? ds
    | ds => unmarked? ds
  value.bind fun n => if n < 256 then some n else none

/-- The two digits of a part of a colour. -/
def channelWritten (n : Nat) : String :=
  String.ofList ((Text.hexDigits 2 n).map Char.toUpper)

/-- A colour from the characters that name its three parts: two, two and the rest. -/
def color? (cs : List Char) : Option String := do
  let red ← channel? (cs.take 2)
  let green ← channel? ((cs.drop 2).take 2)
  let blue ← channel? (cs.drop 4)
  return channelWritten red ++ channelWritten green ++ channelWritten blue

/-- The colour that a value names. -/
def colorOf (v : Value) : Except Fault String :=
  let named :=
    match v with
    | .text s => color? s.toList
    | .bytes bs => color? (bs.map fun b => Char.ofNat b.toNat)
    | _ => none
  match named with
  | some s => .ok s
  | none => .error .color

/-- The properties of a run. -/
structure RunLooks where
  /-- The font. -/
  font : Option String := none
  /-- Whether it is bold; left open if not said. -/
  bold : Option Bool := none
  /-- Whether it is bold in scripts of their own rules. -/
  otherBold : Bool := false
  /-- Whether it is italic; left open if not said. -/
  italic : Option Bool := none
  /-- The colour, as attributes. -/
  color : Option (List (String × String)) := none
  /-- The size, in half points. -/
  size : Option Int := none
  /-- The size in scripts of their own rules. -/
  otherSize : Option Int := none

/-- A switch that is on or off. -/
def switchTree (name : String) (on : Bool) : Tree :=
  .leaf name (if on then [] else [("w:val", "0")])

/-- An element that holds a number. -/
def numberTree (name : String) (n : Int) : Tree := .valued name "w:val" (toString n)

/-- The properties of a run, in the order of the schema. -/
def RunLooks.content (l : RunLooks) : List Tree :=
  (l.font.map fun f => Tree.leaf "w:rFonts" [("w:ascii", f), ("w:hAnsi", f)]).toList
    ++ (l.bold.map (switchTree "w:b")).toList
    ++ (if l.otherBold then [switchTree "w:bCs" true] else [])
    ++ (l.italic.map (switchTree "w:i")).toList
    ++ (l.color.map (Tree.leaf "w:color")).toList
    ++ (l.size.map (numberTree "w:sz")).toList
    ++ (l.otherSize.map (numberTree "w:szCs")).toList

/-- The element for the properties of a run. -/
def RunLooks.tree (l : RunLooks) : Tree := .element "w:rPr" [] l.content

/-- The colour of a run of text: none if the value says nothing. -/
def inkOf (v : Value) : Except Fault (Option (List (String × String))) :=
  if v.isTruthy then (colorOf v).map fun c => some [("w:val", c)] else .ok none

/-- The properties of a run of text. -/
def looksOf (t : StyledText) : Except Fault RunLooks := do
  let font ← fontOf t.font
  let size ← sizeOf t.size
  let color ← inkOf t.color
  return { font, bold := some t.bold, italic := some t.italic, color, size := some size }

/-- A run of text with its properties. -/
def textRun (properties : List Tree) (s : String) : Except Fault Tree := do
  return .element "w:r" [] (properties ++ (← textContent s))

/-- The element of a formula, in one of its own when it is set on its own. -/
def mathTree (m : MathObject) : Tree :=
  if m.display then .element "m:oMathPara" [] [m.element] else m.element

/-- The element of a run. -/
def runTree (r : Run) : Except Fault Tree :=
  match r.content with
  | .styled t => do textRun [(← looksOf t).tree] t.text
  | .math m => .ok (mathTree m)
  | .bare _ => .error .bareContent

/-- The elements of some runs. -/
def runTrees (rs : List Run) : Except Fault (List Tree) := rs.mapM runTree

end Manuscript.Package
