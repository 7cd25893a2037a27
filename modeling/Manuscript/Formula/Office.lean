import Manuscript.Text.Blank
import Manuscript.Xml.Tree

/-!
# Formulas in the package

Mathematical markup becomes the markup that the package has for formulas.

* `officeElement`: a formula, from the element that holds its markup.
* A row is read from left to right (`assembled`): fences that grow pair and hold what is
  between them, and a large operator with limits holds the rest of its row.
* `Markup.written`: the text of the markup. A mark that stretches over or under its base
  has no form in it that can be read (`Markup.stretched`).
-/

namespace Manuscript.Formula

open Manuscript.Xml

/-! ## Markup -/

/-- Markup of the package. -/
inductive Markup where
  /-- An element and what is in it. -/
  | element (name : String) (content : List Markup)
  /-- An element with a value. -/
  | valued (name value : String)
  /-- Text. -/
  | text (s : String)
  /-- A base with a mark that stretches over it, or under it. -/
  | stretched (mark : String) (isAbove : Bool) (base : List Markup)
  deriving Inhabited, Repr

namespace Markup

/-- The start of an element. -/
def startTag (name : String) : String := "<m:" ++ name ++ ">"

/-- The end of an element. -/
def endTag (name : String) : String := "</m:" ++ name ++ ">"

/-- An element with a value, as it is written. -/
def valueWritten (name value : String) : String :=
  "<m:" ++ name ++ " m:val=\"" ++ escapedText value ++ "\"/>"

mutual

/-- The text of some markup. The properties of a mark that stretches end like the element
    that they stand in, and so do not pair. -/
def written : Markup → String
  | element name content => startTag name ++ writtenAll content ++ endTag name
  | valued name value => valueWritten name value
  | text s => escapedText s
  | stretched mark isAbove base =>
    startTag "groupChr" ++ startTag "groupChrPr" ++ valueWritten "chr" mark
      ++ valueWritten "pos" (if isAbove then "top" else "bot") ++ endTag "groupChr"
      ++ startTag "e" ++ writtenAll base ++ endTag "e" ++ endTag "groupChr"

/-- The text of some markup, one part after the other. -/
def writtenAll : List Markup → String
  | [] => ""
  | m :: rest => m.written ++ writtenAll rest

end

/-- How many parts an element has. -/
def width : Markup → Nat
  | element _ content => content.length
  | _ => 0

/-- The text of a run. -/
def runText (s : String) : Markup := element "t" (if s.isEmpty then [] else [text s])

/-- A run with some properties. -/
def run (properties : List Markup) (s : String) : Markup :=
  element "r" [element "rPr" properties, runText s]

/-- A run without properties or text. -/
def emptyRun : Markup := element "r" [runText ""]

/-- Some markup in a box. -/
def box (content : List Markup) : Markup := element "box" [element "e" content]

/-- An element with empty cells at its end, so many that it has a given width. -/
def padded (width : Nat) : Markup → Markup
  | element name content =>
    element name (content ++ List.replicate (width - content.length) (element "e" [box []]))
  | m => m

/-- Some markup in fences. -/
def delimited (opening closing : String) (content : List Markup) : Markup :=
  element "d"
    [element "dPr" [valued "begChr" opening, valued "endChr" closing],
      element "e" [box content]]

end Markup

open Markup

/-- Why a layout has no form in the package. -/
inductive OfficeFault where
  /-- An element has too many parts. -/
  | tooMany (name : String)
  /-- An element has too few parts. -/
  | tooFew (name : String)
  deriving DecidableEq, Repr

/-- A fault in words. -/
def OfficeFault.message : OfficeFault → String
  | tooMany name => "Too large number of children for " ++ name
  | tooFew name => "Too small number of children for " ++ name

/-- What becomes of a layout. -/
abbrev Office := Except OfficeFault

/-! ## Tokens -/

/-- The styles of the variants of letters. -/
def styleVariants : List (String × String) :=
  [("normal", "p"), ("bold", "b"), ("italic", "i"), ("bold-italic", "bi")]

/-- The variants of letters that are scripts of their own. -/
def scriptVariants : List String :=
  ["double-struck", "script", "fraktur", "sans-serif", "monospace"]

/-- The value of an attribute of an element. -/
def attribute? (t : Tree) (name : String) : Option String :=
  (t.attributes.find? fun a => a.1 == name).map (·.2)

/-- The text in an element. -/
def tokenText (t : Tree) : String :=
  String.join (t.content.map fun c =>
    match c with
    | .text s => s
    | _ => "")

/-- The style of a token by itself: a single letter is slanted. -/
def ownStyle (name : String) (t : Tree) : Markup :=
  let isSingle := (Text.trim (tokenText t).toList).length == 1
  valued "sty" (if name == "mi" && isSingle then "i" else "p")

/-- The properties of the run for a token. Text is no mathematics. -/
def tokenProperties (name : String) (t : Tree) : List Markup :=
  let variant := (attribute? t "mathvariant").getD ""
  match styleVariants.find? fun v => v.1 == variant with
  | some (_, style) => [valued "sty" style]
  | none =>
    if scriptVariants.contains variant then [valued "scr" variant, ownStyle name t]
    else if name == "mtext" then [element "nor" []]
    else [ownStyle name t]

/-- The run for a token. -/
def tokenRun (name : String) (t : Tree) : Markup := run (tokenProperties name t) (tokenText t)

/-! ## Fences -/

/-- What a fence does in its row. -/
inductive Role where
  /-- It opens. -/
  | opens
  /-- It closes. -/
  | closes
  /-- It closes what is open, or else opens. -/
  | turns
  deriving DecidableEq, Repr

/-- A fence. -/
structure Fence where
  /-- Its mark. -/
  mark : String
  /-- What it does, if that is said. -/
  role? : Option Role := none

/-- What a fence can do, by its mark, the preferred role first; nothing for what is a
    fence only if that is said. -/
def rolesOf (mark : String) : List Role :=
  if ["(", "[", "\x7b", "⌈", "⌊", "⟨", "⟦", "⟪", "⟮"].contains mark then [.opens]
  else if [")", "]", "\x7d", "⌉", "⌋", "⟩", "⟧", "⟫", "⟯"].contains mark then [.closes]
  else if mark == "|" then [.turns, .closes, .opens]
  else if mark == "‖" then [.closes, .opens]
  else []

/-- What a fence does at a place of its row: what is said, or what its place asks for if
    its mark can do that. -/
def Fence.roleAt (f : Fence) (isFirst isLast : Bool) : Role :=
  let place : Role := if isFirst then .opens else if isLast then .closes else .turns
  match f.role?, rolesOf f.mark with
  | some role, _ => role
  | none, [] => place
  | none, role :: roles => if (role :: roles).contains place then place else role

/-! ## Rows -/

/-- What a part of a row is. -/
inductive Piece where
  /-- Markup that stands by itself. -/
  | plain (content : List Markup)
  /-- A fence, and what it is where it is none. -/
  | fence (f : Fence) (alone : List Markup)
  /-- A large operator with its limits, and what it is where nothing follows it. -/
  | large (head alone : List Markup)

/-- Something open that the rest of a row goes into. -/
inductive Holder where
  /-- A fence. -/
  | fence (opening : String)
  /-- A large operator with its limits, and what it is where nothing follows it. -/
  | large (head alone : List Markup)

/-- What a holder makes of its content, with a closing mark if it is a fence. -/
def Holder.holding (h : Holder) (mark : String) (content : List Markup) : List Markup :=
  match h with
  | fence opening => [delimited opening mark content]
  | large head alone =>
    if content.isEmpty then alone else [element "nary" (head ++ [element "e" content])]

/-- The holders that are open, the innermost first, each with what stands before it, the
    last part first. -/
abbrev Holders := List (Holder × List Markup)

/-- Closes the innermost fence, and the operators in it: what the row then holds outside
    of it, the last part first, and the holders that stay open. -/
def Holders.closeFence? (mark : String) (content : List Markup) :
    Holders → Option (List Markup × Holders)
  | [] => none
  | (.fence opening, before) :: hs =>
    some (((Holder.fence opening).holding mark content.reverse).reverse ++ before, hs)
  | (.large head alone, before) :: hs =>
    let made := (Holder.large head alone).holding "" content.reverse
    Holders.closeFence? mark (made.reverse ++ before) hs

/-- Closes all holders: what the row then holds. -/
def Holders.closeAll (content : List Markup) : Holders → List Markup
  | [] => content.reverse
  | (h, before) :: hs => Holders.closeAll ((h.holding "" content.reverse).reverse ++ before) hs

/-- The markup for the pieces of a row, after some markup, the last part first, in some
    holders. A fence that closes and has no partner ends the row. -/
def assembledIn : (isFirst : Bool) → List Piece → List Markup → Holders → List Markup
  | _, [], content, hs => hs.closeAll content
  | _, .plain ms :: rest, content, hs => assembledIn false rest (ms.reverse ++ content) hs
  | _, .large head alone :: rest, content, hs =>
    assembledIn false rest [] ((.large head alone, content) :: hs)
  | isFirst, .fence f _ :: rest, content, hs =>
    match f.roleAt isFirst rest.isEmpty, hs.closeFence? f.mark content with
    | .opens, _ | .turns, none => assembledIn false rest [] ((.fence f.mark, content) :: hs)
    | .closes, some (content, hs) | .turns, some (content, hs) =>
      assembledIn false rest content hs
    | .closes, none => hs.closeAll content

/-- The markup for a piece that has no neighbours. -/
def Piece.alone : Piece → List Markup
  | plain content => content
  | fence _ alone => alone
  | large _ alone => alone

/-- The markup for the pieces of a row. -/
def assembled : List Piece → List Markup
  | [p] => p.alone
  | ps => assembledIn true ps [] []

/-! ## Operators -/

/-- What is said of the place of a fence. -/
def Role.ofForm? : String → Option Role
  | "prefix" => some .opens
  | "postfix" => some .closes
  | "infix" => some .turns
  | _ => none

/-- An operator as a piece: a fence unless it keeps its size. -/
def operatorPiece (t : Tree) : Piece :=
  let mark := tokenText t
  let run := [tokenRun "mo" t]
  let isFence := attribute? t "fence" == some "true" || !(rolesOf mark).isEmpty
  let isSteady := attribute? t "stretchy" == some "false" || attribute? t "fence" == some "false"
  if isFence && !isSteady then .fence ⟨mark, (attribute? t "form").bind Role.ofForm?⟩ run
  else .plain run

/-- Whether a character is an integral, which takes limits beside it. -/
def isIntegral (c : Char) : Bool := 0x222b ≤ c.toNat && c.toNat ≤ 0x2233

/-- Whether a character is a large operator. -/
def isLarge (c : Char) : Bool :=
  isIntegral c || (0x220f ≤ c.toNat && c.toNat ≤ 0x2211)
    || (0x22c0 ≤ c.toNat && c.toNat ≤ 0x22c3) || (0x2a00 ≤ c.toNat && c.toNat ≤ 0x2a1e)

/-- The large operator that an element is. -/
def largeOperator? (t : Tree) : Option Char :=
  if t.name? == some "mo" && attribute? t "largeop" != some "false" then
    match (tokenText t).toList with
    | [c] => if isLarge c then some c else none
    | _ => none
  else none

/-- Whether the limits of an operator move under and over it. -/
def hasMovingLimits (t : Tree) (c : Char) : Bool :=
  match attribute? t "movablelimits" with
  | some said => said == "true"
  | none => !isIntegral c

/-- What stands before the operand of a large operator. -/
def largeHead (c : Char) (isStacked : Bool) (below above : List Markup) : List Markup :=
  [element "naryPr"
      [valued "chr" c.toString, valued "limLoc" (if isStacked then "undOvr" else "subSup")],
    element "sub" below, element "sup" above]

/-- The arrows that turn or bend, and do not stretch. -/
def bentArrows : List Nat := [0x21af, 0x21b4, 0x21b5, 0x21b6, 0x21b7, 0x21b8, 0x21ba, 0x21bb]

/-- Whether a mark stretches over or under a base unless something else is said. -/
def isStretching (mark : String) : Bool :=
  match mark.toList with
  | [c] =>
    "~¯ˇˉˍ˜˷‾⎴⎵⏜⏝⏞⏟⏠⏡".toList.contains c
      || (0x2190 ≤ c.toNat && c.toNat ≤ 0x21ff && !bentArrows.contains c.toNat)
  | _ => false

/-- Whether an element is a mark that stretches. -/
def stretches (t : Tree) : Bool :=
  t.name? == some "mo" &&
    match attribute? t "stretchy" with
    | some said => said == "true"
    | none => isStretching (tokenText t)

/-! ## Layouts -/

/-- The elements that have a fixed number of parts. -/
def partCounts : List (String × Nat) :=
  [("mfrac", 2), ("mroot", 2), ("msub", 2), ("msup", 2), ("msubsup", 3), ("munder", 2),
   ("mover", 2), ("munderover", 3)]

/-- Checks the number of the parts of an element. -/
def checkParts (name : String) (count : Nat) : Office Unit :=
  match partCounts.find? fun c => c.1 == name with
  | some (_, n) =>
    if count < n then .error (.tooFew name)
    else if n < count then .error (.tooMany name)
    else .ok ()
  | none => .ok ()

/-- A base with a limit below. -/
def withLimitBelow (base below : List Markup) : Markup :=
  element "limLow" [element "e" base, element "lim" below]

/-- A base with a limit above. -/
def withLimitAbove (base above : List Markup) : Markup :=
  element "limUpp" [element "e" base, element "lim" above]

/-- A base with scripts, which have names. -/
def withScripts (name : String) (base : List Markup) (scripts : List (String × List Markup)) :
    Markup :=
  element name (element "e" base :: scripts.map fun s => element s.1 s.2)

/-- The lower and the upper script of an element with parts. -/
def scriptsOf (name : String) (scripts : List (List Markup)) : List Markup × List Markup :=
  match name, scripts with
  | "msub", [below] | "munder", [below] => (below, [])
  | "msup", [above] | "mover", [above] => ([], above)
  | _, [below, above] => (below, above)
  | _, _ => ([], [])

/-- A base with scripts beside it, or limits. -/
def scriptMarkup (name : String) (base : List Markup) (mark? : Option String)
    (below above : List Markup) : Markup :=
  match name, mark? with
  | "msub", _ => withScripts "sSub" base [("sub", below)]
  | "msup", _ => withScripts "sSup" base [("sup", above)]
  | "msubsup", _ => withScripts "sSubSup" base [("sub", below), ("sup", above)]
  | "munder", some mark => .stretched mark false base
  | "mover", some mark => .stretched mark true base
  | "munder", none => withLimitBelow base below
  | "mover", none => withLimitAbove base above
  | _, _ => withLimitBelow [withLimitAbove base above] below

/-- The piece for a base with scripts: a large operator holds what follows it. -/
def scriptPiece (name : String) (elements : List Tree) (base : List Markup)
    (scripts : List (List Markup)) : Piece :=
  let (below, above) := scriptsOf name scripts
  let mark? := (elements[1]?.filter stretches).map tokenText
  let alone := [scriptMarkup name base mark? below above]
  match elements.head?.bind fun t => (largeOperator? t).map (t, ·) with
  | some (t, c) =>
    let isStacked := ["munder", "mover", "munderover"].contains name || hasMovingLimits t c
    .large (largeHead c isStacked below above) alone
  | none => .plain alone

/-- The elements for a base with scripts. -/
def scriptNames : List String := ["msub", "msup", "msubsup", "munder", "mover", "munderover"]

/-- The piece for an element whose parts have become pieces. -/
def pieceOf (name : String) (t : Tree) (pieces : List Piece) : Office Piece := do
  checkParts name pieces.length
  let row := assembled pieces
  match name, pieces.map Piece.alone with
  | "mfrac", [above, below] =>
    return .plain [element "f" [element "num" above, element "den" below]]
  | "mroot", [base, degree] =>
    return .plain [element "rad" [element "deg" degree, element "e" base]]
  | "msqrt", _ => return .plain [element "rad" [element "e" [box row]]]
  | "mphantom", _ =>
    return .plain [element "phant" [element "phantPr" [valued "show" "0"], element "e" [box row]]]
  | "menclose", _ => return .plain [element "borderBox" [element "e" [box row]]]
  | "mtable", _ =>
    let width := (row.map Markup.width).foldl max 0
    return .plain [element "m" (row.map (padded width))]
  | "mtr", _ => return .plain [element "mr" row]
  | "mtd", _ => return .plain [element "e" [box row]]
  | "mspace", _ => return .plain [emptyRun]
  | "mo", _ => return operatorPiece t
  | "mi", _ | "mn", _ | "mtext", _ => return .plain [tokenRun name t]
  | "math", _ => return .plain [element "oMath" row]
  | "mrow", _ =>
    match pieces with
    | [.fence f alone] => return .fence f [box alone]
    | _ => return .plain [box row]
  | _, base :: scripts =>
    if scriptNames.contains name then
      return scriptPiece name (t.content.filter Tree.isElement) base scripts
    else return .plain [box row]
  | _, [] => return .plain [box row]

mutual

/-- The piece for an element. -/
def officePiece : Tree → Office Piece
  | .element name attributes content => do
    pieceOf name (.element name attributes content) (← officePieces content)
  | .text _ | .remark _ => .ok (.plain [])

/-- The pieces for the elements among some trees. -/
def officePieces : List Tree → Office (List Piece)
  | [] => .ok []
  | .element name attributes content :: rest => do
    let piece ← officePiece (.element name attributes content)
    let pieces ← officePieces rest
    .ok (piece :: pieces)
  | _ :: rest => officePieces rest

end

/-- A formula as markup of the package. -/
def officeElement (t : Tree) : Office (List Markup) := (officePiece t).map Piece.alone

end Manuscript.Formula
