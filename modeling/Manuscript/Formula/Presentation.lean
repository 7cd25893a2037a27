import Manuscript.Formula.Expression
import Manuscript.Formula.Numbering
import Manuscript.Text.Quoted

/-!
# Presentation of expressions

How a formula is laid out, as mathematical markup: rows, fractions, roots, scripts,
tables, and the tokens in them, which are letters, numbers, operators and text.

* `Expression.laidOut`: the layout of an expression in the letters of some font.
* `Layout.markup`: the markup of a layout.

A character that a formula calls is written so that it is that character in the markup;
a word of the formula is written as it stands, so that a `&` in it may be no markup.
-/

namespace Manuscript.Formula

/-- A layout. -/
inductive Layout where
  /-- An element: its name, its attributes and what is in it. -/
  | element (name : String) (attributes : List (String × String)) (content : List Layout)
  /-- Text, as it is written in markup. -/
  | written (s : String)
  deriving Inhabited, Repr

namespace Layout

/-- The value of an attribute, as it is written in markup: markup in it stays. -/
def attributeText (s : String) : String :=
  String.join (s.toList.map fun c =>
    if c == '\x22' then "&quot;"
    else if c == '\n' then "&#10;"
    else if c == '\r' then "&#13;"
    else if c == '\t' then "&#09;"
    else c.toString)

/-- An attribute, as it is written in markup. -/
def attributeWritten (a : String × String) : String :=
  " " ++ a.1 ++ "=\"" ++ attributeText a.2 ++ "\""

mutual

/-- The markup of a layout. -/
def markup : Layout → String
  | element name attributes content =>
    let tag := name ++ String.join (attributes.map attributeWritten)
    let inner := markupAll content
    if inner.isEmpty then "<" ++ tag ++ " />" else "<" ++ tag ++ ">" ++ inner ++ "</" ++ name ++ ">"
  | written s => s

/-- The markup of some layouts, one after the other. -/
def markupAll : List Layout → String
  | [] => ""
  | l :: rest => l.markup ++ markupAll rest

end

/-- A character by its number, with five digits at least. -/
def reference (c : Char) : String :=
  "&#x" ++ String.ofList ((Text.hexDigits 5 c.toNat).map Char.toUpper) ++ ";"

/-- A character, written in markup. -/
def character (c : Char) : Layout := written (reference c)

/-- An element without attributes. -/
def plain (name : String) (content : List Layout) : Layout := element name [] content

/-- A space of some width. -/
def space (width : String) : Layout := element "mspace" [("width", width)] []

/-- A mark as an operator. -/
def mark (c : Char) (attributes : List (String × String)) : Layout :=
  element "mo" attributes [character c]

/-- A mark that keeps its size. -/
def steadyMark (c : Char) : Layout := mark c [("stretchy", "false")]

/-- Some layouts in a style. -/
def inStyle (display : String) (level : String) (ls : List Layout) : Layout :=
  element "mstyle" [("displaystyle", display), ("scriptlevel", level)] ls

/-- A layout of which one more thing is said. -/
def saying (name value : String) : Layout → Layout
  | element tag attributes content =>
    element tag (attributes.filter (fun a => a.1 != name) ++ [(name, value)]) content
  | written s => written s

end Layout

open Layout

/-! ## Fonts -/

/-- The parts of a formula that a font treats differently. -/
inductive Part where
  | letter
  | number
  | operator
  | fence
  | text
  deriving DecidableEq, Repr

/-- The variant of letters in which a font sets a part, if it sets it at all. -/
abbrev Font := Part → Option String

/-- A font that sets nothing. -/
def Font.unset : Font := fun _ => none

/-- A font that sets letters only. -/
def Font.letters (variant : String) : Font := fun p => if p = .letter then some variant else none

/-- A font that sets all but fences. -/
def Font.all (variant : String) : Font := fun p => if p = .fence then none else some variant

/-- The fonts of commands with an argument. -/
def fonts : List (String × Font) :=
  [("\\Bbb", .all "double-struck"),
   ("\\boldsymbol", fun p =>
     match p with
     | .letter => some "bold-italic"
     | .text => none
     | _ => some "bold"),
   ("\\mathbb", .all "double-struck"), ("\\mathbf", .all "bold"), ("\\mathcal", .all "script"),
   ("\\mathfrak", .all "fraktur"), ("\\mathit", .all "italic"), ("\\mathnormal", .letters "normal"),
   ("\\mathrm", .letters "normal"),
   ("\\mathscr", .all "script"), ("\\mathsf", .letters "sans-serif"), ("\\mathtt", .all "monospace"),
   ("\\mit", fun p => if p = .fence || p = .letter then none else some "italic"),
   ("\\oldstyle", .all "normal"), ("\\scr", .all "script"), ("\\tt", .all "monospace")]

/-- The fonts of commands that set the rest of their group. -/
def switchingFonts : List (String × Font) :=
  [("\\rm", .letters "normal"), ("\\bf", .letters "bold"), ("\\it", .letters "italic"),
   ("\\sf", .letters "sans-serif"), ("\\tt", .letters "monospace"), ("\\cal", .all "script"),
   ("\\frak", .all "fraktur")]

/-- The attribute for a variant. -/
def Font.attributes (font : Font) (p : Part) : List (String × String) :=
  (font p).toList.map ("mathvariant", ·)

/-! ## Words -/

/-- The words that are operators, besides those whose character is among the arrows and
    the mathematical operators. -/
def operatorWords : List String :=
  ["+", "-", "*", "/", "(", ")", "=", ",", "?", "[", "]", "|", "\\|", "!", "\\\x7b", "\\\x7d", ">",
   "<", ".", "\\ast", "\\bigotimes", "\\cdot", "\\centerdot", "\\div", "\\dots", "\\dotsc",
   "\\dotso", "\\gt", "\\ldotp", "\\lt", "\\lvert", "\\lVert", "\\lvertneqq", "\\ngeqq",
   "\\omicron", "\\rvert", "\\rVert", "\\S", "\\smallfrown", "\\smallint", "\\smallsmile",
   "\\surd", "\\times", "\\varsubsetneqq", "\\varsupsetneqq"]

/-- The words for fences that keep their size. -/
def steadyFences : List String := ["(", ")", "[", "]", "|", "\\|", "\\\x7b", "\\\x7d"]

/-- Whether a character is an arrow or a mathematical operator. -/
def isOperatorCharacter (c : Char) : Bool :=
  (0x2190 ≤ c.toNat && c.toNat ≤ 0x21ff) || (0x2200 ≤ c.toNat && c.toNat ≤ 0x22ff)

/-- The operators that are spelled out and may have limits. -/
def limitWords : List String := ["\\lim", "\\sup", "\\inf", "\\max", "\\min"]

/-- Other operators that are spelled out, with their text; a narrow space parts two
    words. -/
def spelledOperators : List (String × String) :=
  let narrow := "&#x02006;"
  [("\\det", "det"), ("\\gcd", "gcd"), ("\\intop", reference '∫'), ("\\Pr", "Pr"),
   ("\\injlim", "inj" ++ narrow ++ "lim"), ("\\liminf", "lim" ++ narrow ++ "inf"),
   ("\\limsup", "lim" ++ narrow ++ "sup"), ("\\projlim", "proj" ++ narrow ++ "lim"),
   ("\\varinjlim", "inj" ++ narrow ++ "lim"), ("\\varliminf", "lim" ++ narrow ++ "inf"),
   ("\\varlimsup", "lim" ++ narrow ++ "sup"), ("\\varprojlim", "proj" ++ narrow ++ "lim")]

/-- The functions that are spelled out. -/
def functionNames : List String :=
  ["\\arccos", "\\arcctg", "\\arcsin", "\\arctan", "\\arctg", "\\ch", "\\cos", "\\cosec",
   "\\cosh", "\\cot", "\\cotg", "\\coth", "\\csc", "\\ctg", "\\cth", "\\deg", "\\dim",
   "\\exp", "\\hom", "\\ker", "\\ln", "\\lg", "\\log", "\\sec", "\\sh", "\\sin", "\\sinh",
   "\\tan", "\\tanh", "\\tg", "\\th"]

/-- The commands for a space, with what is said of it. -/
def spaceCommands : List (String × String × String) :=
  [("\\:", "width", "0.222em"), ("\\,", "width", "0.167em"), ("\\\\", "linebreak", "newline"),
   ("\\enspace", "width", "0.5em"), ("\\!", "width", "negativethinmathspace"),
   ("\\>", "width", "0.222em"), ("\\negthinspace", "width", "negativethinmathspace"),
   ("\\negmedspace", "width", "negativemediummathspace"),
   ("\\negthickspace", "width", "negativethickmathspace"),
   ("\\thinspace", "width", "thinmathspace"), ("\\thickspace", "width", "thickmathspace"),
   ("\\qquad", "width", "2em"), ("\\quad", "width", "1em"), ("\\;", "width", "0.278em")]

/-- The words for a space that is a character. -/
def solidSpaces : List String := ["\\ ", "~", "\\nobreakspace", "\\space"]

/-- The character of a space that does not break. -/
def solidSpace : Char := '\u00a0'

/-- A text with its spaces as characters that do not break. -/
def solid (s : String) : String :=
  String.join (s.toList.map fun c => if c == ' ' then reference solidSpace else c.toString)

/-- What a word calls, or the word as it stands. -/
def wordLayout (w : String) : Layout :=
  match symbol? w with
  | some c => character c
  | none => written w

/-- The layout of a lexeme as a part of another. -/
def Lexeme.layout : Lexeme → Layout
  | word w => wordLayout w
  | called c => character c

/-- The text of a lexeme, as it is written in markup. -/
def Lexeme.text : Lexeme → String
  | word w => w
  | called c => reference c

/-- What is said of an operator that is a word, besides its font. -/
def operatorAttributes (w : String) : List (String × String) :=
  (if w == "\\|" then [("fence", "false")] else [])
    ++ (if w == "\\smallint" then [("largeop", "false")] else [])
    ++ (if steadyFences.contains w then [("stretchy", "false")] else [])

/-- The text of a word that spells an operator out: what stands in its braces. -/
def spelledText (w : String) : String :=
  String.ofList ((w.toList.dropWhile (· != '\x7b')).drop 1).dropLast

/-- The layout of a word that is a token. -/
def tokenOf (font : Font) (w : String) : Layout :=
  let cs := w.toList
  if cs.head?.any isDigit then element "mn" (font.attributes .number) [written w]
  else if operatorWords.contains w then
    let p : Part := if steadyFences.contains w then .fence else .operator
    element "mo" (operatorAttributes w ++ font.attributes p) [wordLayout w]
  else
    match symbol? w with
    | some c =>
      let name := if isOperatorCharacter c then "mo" else "mi"
      let p : Part := if isOperatorCharacter c then .operator else .letter
      element name (font.attributes p) [character c]
    | none =>
      if solidSpaces.contains w then
        element "mtext" (font.attributes .text) [character solidSpace]
      else if w == "\\not" then element "mpadded" [("width", "0")] [plain "mtext" [character '⧸']]
      else if "\\operatorname".toList.isPrefixOf cs then plain "mo" [written (spelledText w)]
      else
        let text := if functionNames.contains w then String.ofList (cs.drop 1) else w
        element "mi" (font.attributes .letter) [written text]

/-- Three dots between two integral signs. -/
def dottedIntegral : Layout :=
  plain "mrow" (['∫', '⋯', '∫'].map fun c => plain "mo" [character c])

/-- The names of typesetting systems, of which some letters are lowered and raised. -/
def systemName (font : Font) (withLa : Bool) : Layout :=
  let letter (s : String) := element "mi" (font.attributes .letter) [written s]
  let raised (s : String) :=
    element "mpadded" [("height", "+.21ex"), ("depth", "-.21ex"), ("voffset", "+.21ex")]
      [inStyle "false" "1" [plain "mrow" [letter s]]]
  let lowered (s : String) :=
    element "mpadded" [("height", "-.5ex"), ("depth", "+.5ex"), ("voffset", "-.5ex")]
      [plain "mrow" [letter s]]
  let la := [letter "L", space "-.325em", raised "A", space "-.17em"]
  plain "mrow" ((if withLa then la else [])
    ++ [letter "T", space "-.14em", lowered "E", space "-.115em", letter "X"])

/-- A space of the height of a bracket, and of no width. -/
def strut : Layout := element "mpadded" [("width", "0")] [plain "mphantom" [steadyMark '(']]

/-- The layout of a word. -/
def wordToken (font : Font) (w : String) : List Layout :=
  match spaceCommands.find? fun c => c.1 == w with
  | some (_, name, value) => [element "mspace" [(name, value)] []]
  | none =>
    if w == "\\limits" then [plain "munderover" []]
    else if limitWords.contains w then [plain "mo" [written (String.ofList (w.toList.drop 1))]]
    else if w == "\\bmod" then [plain "mo" [written "mod"]]
    else if w == "\\idotsint" then [dottedIntegral]
    else if w == "\\LaTeX" || w == "\\TeX" then [systemName font (w == "\\LaTeX")]
    else if w == "\\strut" || w == "\\mathstrut" then [strut]
    else
      match spelledOperators.find? fun o => o.1 == w with
      | some o => [element "mo" (("movablelimits", "true") :: font.attributes .operator) [written o.2]]
      | none => [tokenOf font w]

/-! ## Commands -/

/-- The marks that commands put over or under their argument, with what is said about
    them. -/
def diacritics : List (String × String × Char × List (String × String)) :=
  let grows := [("stretchy", "true")]
  let keeps := [("stretchy", "false")]
  let isAccent := [("accent", "true")]
  [("\\acute", "mover", '´', []), ("\\bar", "mover", '¯', grows), ("\\breve", "mover", '˘', []),
   ("\\check", "mover", 'ˇ', []), ("\\dot", "mover", '˙', []), ("\\ddot", "mover", '¨', []),
   ("\\dddot", "mover", '\u20db', []), ("\\ddddot", "mover", '\u20dc', []),
   ("\\grave", "mover", '\x60', []), ("\\hat", "mover", '^', keeps), ("\\mathring", "mover", '˚', []),
   ("\\overbrace", "mover", '⏞', []), ("\\overbracket", "mover", '⎴', []),
   ("\\overleftarrow", "mover", '←', []), ("\\overleftrightarrow", "mover", '↔', []),
   ("\\overline", "mover", '―', isAccent), ("\\overparen", "mover", '⏜', []),
   ("\\overrightarrow", "mover", '→', []), ("\\tilde", "mover", '~', keeps),
   ("\\underbar", "munder", '¯', grows), ("\\underbrace", "munder", '⏟', []),
   ("\\underbracket", "munder", '⎵', []), ("\\underleftarrow", "munder", '←', []),
   ("\\underleftrightarrow", "munder", '↔', []), ("\\underline", "munder", '―', isAccent),
   ("\\underparen", "munder", '⏝', []), ("\\underrightarrow", "munder", '→', []),
   ("\\vec", "mover", '→', grows), ("\\widecheck", "mover", 'ˇ', []),
   ("\\widehat", "mover", '^', []), ("\\widetilde", "mover", '~', [])]

/-- The fences that matrices stand between. -/
def matrixFences : List (String × Char × Char) :=
  [("\\pmatrix", '(', ')'), ("\\bmatrix", '[', ']'), ("\\Bmatrix", '\x7b', '\x7d'),
   ("\\vmatrix", '|', '|'), ("\\Vmatrix", '‖', '‖')]

/-- What is said of the tables that commands make. -/
def tableAttributes : List (String × List (String × String)) :=
  [("\\displaylines", [("rowspacing", "0.5em"), ("columnspacing", "1em"), ("displaystyle", "true")]),
   ("\\smallmatrix", [("rowspacing", "0.1em"), ("columnspacing", "0.3333em")]),
   ("\\split", [("displaystyle", "true"), ("columnspacing", "0em"), ("rowspacing", "3pt")]),
   ("\\align", [("displaystyle", "true"), ("rowspacing", "3pt")]),
   ("\\align*", [("displaystyle", "true"), ("rowspacing", "3pt")])]

/-- The commands that draw a line around or through their argument, with its name. -/
def enclosures : List (String × String) :=
  [("\\boxed", "box"), ("\\cancel", "updiagonalstrike"), ("\\bcancel", "downdiagonalstrike"),
   ("\\xcancel", "updiagonalstrike downdiagonalstrike"), ("\\sout", "horizontalstrike")]

/-- What is said of a style or a size that a word calls for. -/
def styleAttributes? (w : String) : Option (List (String × String)) :=
  match styles.find? fun s => s.1 == w with
  | some s => some s.2
  | none => (sizes.find? fun s => s.1 == w).map fun s => [("mathsize", s.2)]

/-- A layout between two fences of one size, each of which may be missing. -/
def sizedBetween (size : String) (opening closing : Option Char) (l : Layout) : List Layout :=
  let fence (c : Char) := mark c [("minsize", size), ("maxsize", size)]
  (opening.toList.map fence) ++ l :: closing.toList.map fence

/-- The mark of a fence; a point stands for none. -/
def fenceMark (l : Lexeme) : List Layout :=
  if l == .word "." then [] else [l.layout]

/-- A fence that grows with what it stands at. -/
def growingFence (form : String) (l : Lexeme) : Layout :=
  element "mo" [("stretchy", "true"), ("fence", "true"), ("form", form)] (fenceMark l)

/-- The name of the element for scripts at a base. -/
def scriptName (script : Script) (stacking : Stacking) (base : Expression) : String :=
  match script, stacking with
  | .above, .limits | .above, .braceOver => "mover"
  | .below, .limits | .below, .braceUnder => "munder"
  | .above, _ => "msup"
  | .below, _ => "msub"
  | .both, .beside => if base.head == "\\gcd" then "munderover" else "msubsup"
  | .both, _ => "munderover"

/-- The variant of the letters of a command with a text. -/
def textVariant (command : String) : List (String × String) :=
  match command with
  | "\\textbf" => [("mathvariant", "bold")]
  | "\\textit" | "\\emph" => [("mathvariant", "italic")]
  | "\\textsf" => [("mathvariant", "sans-serif")]
  | "\\texttt" | "\\verb" => [("mathvariant", "monospace")]
  | _ => []

/-- A fence in the middle of an expression between fences. -/
def middleFence (l : Lexeme) : Layout :=
  let bar :=
    match l with
    | .word w => (symbol? w).elim (written "&#xNone;") character
    | .called _ => written "&#xNone;"
  let sides := [("lspace", "0.05em"), ("rspace", "0.05em")]
  element "mo" (("stretchy", "true") :: ("fence", "true") :: sides) [bar]

/-- The layout of a command with a text. -/
def textedLayout (font : Font) (command : String) (l : Lexeme) : Layout :=
  let variant := if (font .text).isSome then font.attributes .text else textVariant command
  let text (s : String) := element "mtext" variant [written s]
  let body := text (solid l.text)
  let sized (size : String) := [("minsize", size), ("maxsize", size)]
  match growingCommands.find? fun c => c.1 == command with
  | some (_, size) => element "mo" (sized size) [written (solid l.text)]
  | none =>
    match fenceCommands.find? fun c => c.1 == command with
    | some (_, size) =>
      element "mo" (("stretchy", "true") :: ("fence", "true") :: sized size) [written (solid l.text)]
    | none =>
      match command with
      | "\\middle" => middleFence l
      | "\\fbox" => element "menclose" [("notation", "box")] [body]
      | "\\mbox" => inStyle "false" "0" [body]
      | "\\tag" => text ("(" ++ solid l.text ++ ")")
      | "\\llap" | "\\rlap" | "\\clap" => element "mpadded" [("width", "0")] [body]
      | _ => body

/-! ## Tables -/

/-- A part of the content of a table. -/
inductive CellPart where
  /-- The end of a cell. -/
  | cell
  /-- The end of a row. -/
  | row
  /-- A line, a space at the side of a cell, or a wish. -/
  | nothing
  /-- The number of a row, which has a cell of its own. -/
  | number (s : String)
  /-- Content. -/
  | content (ls : List Layout)

/-- The part that a word is. -/
def CellPart.ofWord? (w : String) : Option CellPart :=
  if w == "&" then some .cell
  else if rowEnds.contains w then some .row
  else if ruleWords.contains w || unnumberedWords.contains w then some .nothing
  else none

/-- A table that is being laid out. -/
structure Table where
  /-- The rows before the current one, the last one first. -/
  rows : List Layout := []
  /-- The cells before the current one, the last one first. -/
  cells : List Layout := []
  /-- The content of the current cell. -/
  content : List Layout := []

/-- The current row with its last cell. -/
def Table.row (t : Table) : Layout :=
  plain "mtr" ((plain "mtd" t.content :: t.cells).reverse)

/-- A table with one more part. Where columns come in pairs of which the second one
    leans to the first, a cell of a second column starts with an empty letter. -/
def Table.add (paired : Bool) (t : Table) : CellPart → Table
  | .cell =>
    let cells := plain "mtd" t.content :: t.cells
    { t with cells, content := if paired && cells.length % 2 == 1 then [plain "mi" []] else [] }
  | .row => ⟨t.row :: t.rows, [], []⟩
  | .nothing => t
  | .number n =>
    ⟨t.rows, plain "mtd" t.content :: t.cells, [plain "mtext" [written ("(" ++ n ++ ")")]]⟩
  | .content ls => { t with content := t.content ++ ls }

/-- The rows of a table of some parts. A last row whose last cell is empty is left out. -/
def rowsOf (paired : Bool) (parts : List CellPart) : List Layout :=
  let t := parts.foldl (Table.add paired) {}
  (if t.content.isEmpty then t.rows else t.row :: t.rows).reverse

/-- The commands for tables of which columns come in pairs. -/
def pairedCommands : List String := ["\\split", "\\align", "\\align*"]

/-- The layout of a table that is made by a command. -/
def gridLayout (command : String) (parts : List CellPart) : List Layout :=
  let attributes := (tableAttributes.find? fun a => a.1 == command).elim [] (·.2)
  let table := element "mtable" attributes (rowsOf (pairedCommands.contains command) parts)
  if command == "\\substack" || command == "\\smallmatrix" then
    [element "mstyle" [("scriptlevel", "1")] [table]]
  else if command == "\\cases" then
    [plain "mrow" [growingFence "prefix" (.called '\x7b'), table]]
  else
    match matrixFences.find? fun f => f.1 == command with
    | some (_, opening, closing) => [mark opening [], table, mark closing []]
    | none => [table]

/-! ## Expressions -/

/-- The layout of a command with arguments that have been laid out: all together, and
    each for itself. -/
def appliedLayout (command : String) (all : List Layout)
    (each : List (List Layout)) : List Layout :=
  let ruled := plain "mfrac" all
  let unruled := element "mfrac" [("linethickness", "0")] all
  let padded (attributes : List (String × String)) := [element "mpadded" attributes all]
  match command with
  | "\\frac" => [ruled]
  | "\\dfrac" => [inStyle "true" "0" [ruled]]
  | "\\tfrac" => [inStyle "false" "0" [ruled]]
  | "\\cfrac" => [plain "mfrac" (each.map (inStyle "false" "0"))]
  | "\\binom" => sizedBetween "2.047em" '(' ')' unruled
  | "\\dbinom" => [inStyle "true" "0" (sizedBetween "2.047em" '(' ')' unruled)]
  | "\\tbinom" => [inStyle "false" "0" (sizedBetween "1.2em" '(' ')' unruled)]
  | "\\sqrt" => [plain "msqrt" all]
  | "\\root" => [plain "mroot" all]
  | "\\overset" | "\\stackrel" => [plain "mover" all]
  | "\\underset" => [plain "munder" all]
  | "\\phantom" => [plain "mphantom" all]
  | "\\hphantom" =>
    [element "mpadded" [("height", "0"), ("depth", "0")] [plain "mphantom" all]]
  | "\\vphantom" => [element "mpadded" [("width", "0")] [plain "mphantom" all]]
  | "\\mathclap" | "\\mathllap" | "\\mathrlap" => padded [("width", "0")]
  | "\\smash" => padded [("height", "0"), ("depth", "0")]
  | "\\vcenter" | "\\raise" | "\\lower" | "\\moveleft" | "\\moveright" => padded []
  | "\\rule" => [plain "mspace" []]
  | "\\color" => [plain "mstyle" all]
  | "\\href" => [plain "mtext" all]
  | "\\mathchoice" => all
  | "\\bra" => [plain "mrow" (steadyMark '⟨' :: all ++ [steadyMark '∣'])]
  | "\\ket" => [plain "mrow" (steadyMark '∣' :: all ++ [steadyMark '⟩'])]
  | "\\braket" => [plain "mrow" (steadyMark '⟨' :: all ++ [steadyMark '⟩'])]
  | "\\sideset" =>
    match each with
    | [left, right] =>
      let gap := element "mstyle" [("scriptlevel", "0")] [space "-0.167em"]
      [plain "mrow" (left ++ gap :: right)]
    | _ => [plain "mrow" all]
  | "\\skew" => plain "mrow" (all.take 1) :: all.drop 1
  | "\\mod" => [space "1em", plain "mi" [written "mod"], space "0.333em"] ++ all
  | "\\pmod" =>
    [space "1em", mark '(' [], plain "mi" [written "mod"], space "0.333em"] ++ all ++ [mark ')' []]
  | "\\pod" => [space "1em", mark '(' [], plain "mi" []] ++ all ++ [mark ')' []]
  | _ =>
    match labelledArrows.find? command with
    | some c => [arrow c]
    | none =>
      if widthCommands.contains command then [plain "mspace" []]
      else
        match enclosures.find? fun e => e.1 == command with
        | some (_, line) => [element "menclose" [("notation", line)] all]
        | none =>
          match diacritics.find? fun d => d.1 == command with
          | some (_, name, c, said) => [plain name (all ++ [mark c said])]
          | none => if isTransparent command then all else [plain "mrow" all]
where
  /-- An arrow with something under or over it. -/
  arrow (c : Char) : Layout :=
    let room := [("width", "+0.833em"), ("lspace", "0.556em"), ("voffset", "-.2em"), ("height", "-.2em")]
    plain (if each.length == 2 then "munderover" else "mover")
      (element "mstyle" [("scriptlevel", "0")] [plain "mo" [character c]] ::
        each.map fun ls => element "mpadded" room (ls ++ [element "mspace" [("depth", ".25em")] []]))
  /-- Whether a command leaves nothing but its arguments. -/
  isTransparent (command : String) : Bool :=
    (fonts.any fun f => f.1 == command) || "\\math".toList.isPrefixOf command.toList

/-- The font of the arguments of a command. -/
def argumentFont (font : Font) (command : String) : Font :=
  if command == "$" then .unset
  else
    match fonts.find? fun f => f.1 == command with
    | some f => f.2
    | none => font

/-- The font of what follows an expression in its group. -/
def fontAfter (font : Font) (e : Expression) : Font :=
  match switchingFonts.find? fun f => f.1 == e.head with
  | some f => f.2
  | none => font

/-- Whether an expression sets the font of what follows it. -/
def switchesFont : Expression → Bool
  | .lexeme (.word w) => switchingFonts.any fun f => f.1 == w
  | _ => false

/-- What is said of the rest of a group that an expression sets in a style. -/
def style? : Expression → Option (List (String × String))
  | .lexeme (.word w) => styleAttributes? w
  | _ => none

namespace Expression

mutual

/-- The layout of an expression. -/
def laidOut (font : Font) : Expression → List Layout
  | lexeme (.word w) => wordToken font w
  | lexeme (.called c) => [element "mi" (font.attributes .letter) [character c]]
  | absent => [element "mi" (font.attributes .letter) []]
  | group content => [plain "mrow" (rowLaidOut font content)]
  | applied command arguments =>
    if gridCommands.contains command then gridLayout command (partsOf arguments)
    else
      let inner := argumentFont font command
      appliedLayout command (rowLaidOut inner arguments) (eachLaidOut inner arguments)
  | texted command text => [textedLayout font command text]
  | mixed pieces => [inStyle "false" "0" (rowLaidOut font pieces)]
  | between l r parts => sizedBetween "2.047em" l r (plain "mfrac" (rowLaidOut font parts))
  | scripted script stacking parts =>
    [plain (scriptName script stacking (parts.head?.getD absent)) (rowLaidOut font parts)]
  | fenced l content => [plain "mrow" (growingFence "prefix" l :: rowLaidOut font content)]
  | closing l => [growingFence "postfix" l]
  | saying name value e =>
    match laidOut font e with
    | l :: rest => l.saying name value :: rest
    | [] => []

/-- The layout of a row. -/
def rowLaidOut (font : Font) : List Expression → List Layout
  | [] => []
  | e :: rest =>
    match style? e with
    | some said => [element "mstyle" said (rowLaidOut font rest)]
    | none =>
      if switchesFont e then rowLaidOut (fontAfter font e) rest
      else laidOut font e ++ rowLaidOut font rest

/-- The layouts of some expressions, each for itself. -/
def eachLaidOut (font : Font) : List Expression → List (List Layout)
  | [] => []
  | e :: rest => laidOut font e :: eachLaidOut font rest

/-- The content of a table as parts. -/
def partsOf : List Expression → List CellPart
  | [] => []
  | e :: rest =>
    let alone :=
      match style? e with
      | some said => [element "mstyle" said []]
      | none => if switchesFont e then [] else laidOut .unset e
    let part :=
      match e with
      | texted "\\number" n => .number n.text
      | e => (CellPart.ofWord? e.head).getD (.content alone)
    part :: partsOf rest

end

end Expression

/-- The markup of a formula: its expressions are one row, in which the rows of some
    tables are numbered from one on. -/
def presented (es : List Expression) : String :=
  (element "math" [("xmlns", "http://www.w3.org/1998/Math/MathML"), ("display", "inline")]
    [plain "mrow" (Expression.rowLaidOut .unset (Expression.numberedAll 1 es).1)]).markup

end Manuscript.Formula
