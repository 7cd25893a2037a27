import Manuscript.Formula.Command
import Manuscript.Formula.Expression.Basic

/-!
# Expressions of a formula

The expressions of a formula are read from its lexemes: commands take their arguments,
scripts what they stand at, groups and environments what is in them.

* `Expression.readAll`: the expressions of a row of lexemes.
-/

namespace Manuscript.Formula

/-- The lexeme that ends a row of expressions; none for a row that ends with the
    formula. -/
abbrev Stop := Option Lexeme

/-- What is read from some lexemes. -/
abbrev Reading := Except SourceFault

/-- Something read, and the lexemes that are left. -/
abbrev Rest (α : Type) := α × List Lexeme

/-- Reads a row of expressions up to a lexeme, or so many of them; zero stands for any
    number. -/
abbrev RowReader := Stop → (count : Nat) → List Lexeme → Reading (Rest (List Expression))

/-- What becomes of the row that is being read, its last expression first. -/
inductive Step where
  /-- It goes on, unless it is long enough. -/
  | next (row : List Expression) (rest : List Lexeme)
  /-- It goes on. -/
  | onward (row : List Expression) (rest : List Lexeme)
  /-- It ends. -/
  | last (row : List Expression) (rest : List Lexeme)

namespace Expression

/-- Whether an expression is the lexeme that ends a row. -/
def ends (stop : Stop) : Expression → Bool
  | lexeme l => some l == stop
  | closing _ => stop == some (.word "\\right")
  | _ => false

/-- A row without the lexeme that ends it, and that lexeme. -/
def splitEnd (stop : Stop) (row : List Expression) : List Expression × Option Expression :=
  match row.getLast? with
  | some e => if e.ends stop then (row.dropLast, some e) else (row, none)
  | none => (row, none)

/-- The first of some lexemes. -/
def take? : List Lexeme → Reading (Rest Lexeme)
  | [] => .error .endsEarly
  | l :: rest => .ok (l, rest)

/-! ## Prime marks -/

/-- A single prime mark. -/
def primeMark : Char := '′'

/-- The words for one to four prime marks. -/
def primeWords : List String := ["\\prime", "\\dprime", "\\trprime", "\\qprime"]

/-- The expression for some prime marks. -/
def primes (count : Nat) : Expression :=
  ofWord ((primeWords[count - 1]?).getD (String.ofList (List.replicate count primeMark)))

/-- How many prime marks an expression stands for, if it stands for some. -/
def primeCount? : Expression → Option Nat
  | lexeme (.word w) =>
    match primeWords.idxOf? w with
    | some i => some (i + 1)
    | none => if w.length > 4 && w.toList.all (· == primeMark) then some w.length else none
  | _ => none

/-- A base with one more prime mark. -/
def primed (base : Expression) : Reading Expression :=
  match base with
  | scripted .above _ (b :: mark :: _) =>
    match primeCount? mark with
    | some n => .ok (scripted .above .beside [b, primes (n + 1)])
    | none => .error .secondAbove
  | scripted .below stacking parts => .ok (scripted .both stacking (parts ++ [primes 1]))
  | scripted .both stacking [b, below, mark] =>
    match primeCount? mark with
    | some n => .ok (scripted .both stacking [b, below, primes (n + 1)])
    | none => .ok (scripted .above .beside [base, primes 1])
  | base => .ok (scripted .above .beside [base, primes 1])

/-! ## Texts with formulas -/

/-- A text cut at its dollar signs, but for those after a backslash. The parts are texts
    and formulas by turns; the last one is left out if it is empty. -/
def cutAtDollars : (part : List Char) → List Char → List (List Char)
  | part, [] => if part.isEmpty then [] else [part.reverse]
  | part, '\x5c' :: '$' :: cs => cutAtDollars ('$' :: '\x5c' :: part) cs
  | part, '$' :: cs => part.reverse :: cutAtDollars [] cs
  | part, '\x5c' :: '\x5c' :: cs => cutAtDollars part ('\x5c' :: cs)
  | part, ['\x5c'] => cutAtDollars part []
  | part, c :: cs => cutAtDollars (c :: part) cs

section

variable (row : RowReader)

/-- The first expression of a row. -/
def first (stop : Stop) (ls : List Lexeme) : Reading (Rest Expression) := do
  match ← row stop 1 ls with
  | (e :: _, rest) => .ok (e, rest)
  | ([], _) => .error .noArgument

/-- What follows brackets, if there are some, and else the next expression. -/
def afterBrackets (stop : Stop) (ls : List Lexeme) : Reading (Rest (List Expression)) := do
  let (parts, rest) ← row stop 1 ls
  if !parts.head?.any (·.isWord "[") then return (parts, rest)
  let (_, rest) ← row (some (.word "]")) 0 rest
  row stop 1 rest

/-- A length, which may stand in braces. -/
def lengthAt (stop : Stop) (ls : List Lexeme) : Reading (Rest String) := do
  let (e, rest) ← first row stop ls
  match e.lengthWord? with
  | some w => .ok (w, rest)
  | none => .error .noArgument

/-! ## Scripts -/

/-- The base of a script when a command asks for limits, with how they are stacked. -/
def limitsOf : List Expression → Reading (Expression × List Expression)
  | base :: done => if base.isCommand then .ok (base, done) else .error .limitsOfNothing
  | [] => .error .limitsOfNothing

/-- How the scripts of a base are stacked. -/
def stackingAt (base : Expression) : Stacking :=
  if base.head == "\\overbrace" then .braceOver
  else if base.head == "\\underbrace" then .braceUnder
  else .beside

/-- A script at the last expression of a row. -/
def withScript (script : Script) (stop : Stop) (done : List Expression) (rest : List Lexeme) :
    Reading Step := do
  let (base, done) :=
    match done with
    | [] => (absent, [])
    | base :: done => (base, done)
  let limits := base.isWord "\\limits"
  let (base, done) ←
    if limits || base.isWord "\\nolimits" then limitsOf done else .ok (base, done)
  match script, base with
  | .below, scripted .below _ _ => if limits then plain limits base done else .error .secondBelow
  | .above, scripted .above stacking (b :: mark :: _) =>
    if mark.isWord "\\prime" then do
      let (parts, rest) ← row stop 1 rest
      .ok (.next (scripted .above stacking [b, group (mark :: parts)] :: done) rest)
    else if limits then plain limits base done
    else .error .secondAbove
  | .below, scripted .above stacking (b :: above) => do
    let (parts, rest) ← row stop 1 rest
    .ok (.next (scripted .both stacking (b :: parts ++ above.take 1) :: done) rest)
  | .above, scripted .below stacking parts => do
    let (above, rest) ← row stop 1 rest
    .ok (.next (scripted .both stacking (parts ++ above) :: done) rest)
  | _, base => plain limits base done
where
  /-- The script at a base that has none. -/
  plain (limits : Bool) (base : Expression) (done : List Expression) : Reading Step :=
    match row stop 1 rest with
    | .ok (parts, rest) =>
      let own := stackingAt base
      let stacking := if own == .beside && limits then .limits else own
      .ok (.next (scripted script stacking (base :: parts) :: done) rest)
    | .error .nothingLeft => .error .noScript
    | .error fault => .error fault

/-! ## Arguments -/

/-- What follows a command for a root: its degree in brackets, if there is one, and the
    expression under the root. -/
def radical (ls : List Lexeme) : Reading (Rest Expression) := do
  let (e, rest) ← first row none ls
  if !e.isWord "[" then return (applied "\\sqrt" [e], rest)
  let (degree, rest) ← row (some (.word "]")) 0 rest
  let (e, rest) ← first row none rest
  match degree.dropLast with
  | [] => .ok (applied "\\sqrt" [e], rest)
  | degree => .ok (applied "\\root" [e, ofRow degree], rest)

/-- What follows a command for a root of a degree that is given first. -/
def degreeRadical (ls : List Lexeme) : Reading (Rest Expression) := do
  let (degree, rest) ← row (some (.word "\\of")) 0 ls
  let (e, rest) ← first row none rest
  .ok (applied "\\root" [e, ofRow degree.dropLast], rest)

/-- What follows an arrow with something on it: what is under the arrow in brackets, if
    there is something, and what is over it. -/
def labelled (command : String) (stop : Stop) (ls : List Lexeme) : Reading (Rest Expression) := do
  let (parts, rest) ← row stop 1 ls
  if !parts.head?.any (·.isWord "[") then return (applied command parts, rest)
  let (under, rest) ← row (some (.word "]")) 0 rest
  let (above, rest) ← row stop 1 rest
  .ok (applied command (group under.dropLast :: above), rest)

/-- What follows a stroke through the next expression. -/
def struck (stop : Stop) (done : List Expression) (ls : List Lexeme) : Reading Step :=
  let stroke := ofWord "\\not"
  match first row stop ls with
  | .error .nothingLeft => .ok (.next (stroke :: done) ls)
  | .error fault => .error fault
  | .ok (e, rest) =>
    match e.head.toList with
    | '\x5c' :: name =>
      let word := String.ofList ('\x5c' :: 'n' :: name)
      if (symbol? word).isSome then .ok (.onward (ofWord word :: done) rest)
      else .ok (.onward (e :: stroke :: done) rest)
    | _ => .ok (.onward (e :: stroke :: done) rest)

/-- Four expressions, of which one is chosen by the style of the formula: the second one,
    without its braces. -/
def chosen (stop : Stop) (ls : List Lexeme) : Reading (Rest Expression) := do
  let (parts, rest) ← row stop 4 ls
  match parts with
  | [_, group content, _, _] => .ok (applied "\\mathchoice" content, rest)
  | [_, e, _, _] => .ok (e, rest)
  | parts => .error (.fewArguments 4 parts.length)

/-- The scripts in a group at one side of an operator, with the base they are given. -/
def sideScripts (base : Expression) : Expression → Reading Expression
  | group [] => .ok (group [base])
  | group (scripted script _ parts :: _) =>
    if parts.length == 2 || parts.length == 3 then
      .ok (scripted script .beside (base :: parts.drop 1))
    else .error .noSideScripts
  | _ => .error .noSideScripts

/-- What follows a command for scripts at both sides of an operator. -/
def sided (command : String) (stop : Stop) (ls : List Lexeme) : Reading (Rest Expression) := do
  match ← row stop 3 ls with
  | ([left, right, operator], rest) =>
    let left ← sideScripts (applied "\\vphantom" [operator]) left
    let right ← sideScripts operator right
    .ok (applied command [left, right], rest)
  | (parts, _) => .error (.fewArguments 3 parts.length)

/-- A space of some width. -/
def space (width : String) : Expression := saying "width" width (applied "\\mkern" [])

/-- An expression whose parts are one group with a space at its end. -/
def widened (width : String) (e : Expression) : Reading Expression :=
  let inner (parts : List Expression) : List Expression := [group (parts ++ [space width])]
  match e with
  | group content => .ok (group (inner content))
  | applied command arguments => .ok (applied command (inner arguments))
  | scripted script _ parts => .ok (scripted script .beside (inner parts))
  | between _ _ parts => .ok (applied "\\frac" (inner parts))
  | fenced _ content => .ok (fenced (.word ".") (inner content))
  | _ => .error .noParts

/-- The width of so many eighteenths of an em, in thousandths of an em. -/
def skewWidth (n : Nat) : String :=
  let thousandths := 555 * n / 10
  let digits := toString (thousandths % 1000)
  toString (thousandths / 1000) ++ "." ++ "".pushn '0' (3 - digits.length) ++ digits ++ "em"

/-- What follows a command that shifts an accent. -/
def skewed (command : String) (stop : Stop) (ls : List Lexeme) : Reading (Rest Expression) := do
  match ← row stop 2 ls with
  | ([by_, e], rest) =>
    match by_.lengthWord?.bind fun w => Text.readNat? w.toList with
    | some n =>
      let width := skewWidth n
      .ok (applied command [← widened width e, space ("-" ++ width)], rest)
    | none => .error .noSkew
  | (parts, _) => .error (.fewArguments 2 parts.length)

/-! ## Environments -/

/-- Whether an expression stands for a column of a known kind. -/
def isColumn (e : Expression) : Bool :=
  ["", "l", "c", "r", "|", "lc", "cr", "lcr", "r|", "cr|", "lcr|"].contains e.head

/-- The content of an environment without the kinds of its columns. -/
def withoutColumns : List Expression → Reading (List Expression)
  | group columns :: rest => .ok (if columns.all isColumn then rest else group columns :: rest)
  | e :: rest =>
    if e.isWord "[" then
      if (rest.takeWhile fun c => !c.isWord "]").all isColumn then
        .ok ((rest.dropWhile fun c => !c.isWord "]").drop 1)
      else .error .unknownColumn
    else .ok (e :: rest)
  | [] => .ok []

/-- What follows the start of an environment. -/
def environment (start : String) (ls : List Lexeme) : Reading (Rest Expression) := do
  let name := String.ofList (((start.toList.dropWhile (· != '\x7b')).drop 1).dropLast)
  let stop : Stop := some (.word ("\\end\x7b" ++ name ++ "\x7d"))
  let (content, rest) ← row stop 0 ls
  match splitEnd stop content with
  | (_, none) => .error .unfinishedEnvironment
  | (content, some _) => .ok (applied ("\\" ++ name) (← withoutColumns content), rest)

/-! ## Rests of groups -/

/-- What follows a command whose content is the rest of its group. -/
def restOfGroup (stop : Stop) (ls : List Lexeme) :
    Reading (Rest (List Expression × Option Expression)) := do
  let (content, rest) ← row stop 0 ls
  .ok (splitEnd stop content, rest)

/-- The fence that a character stands for; a point stands for none. -/
def fence? (c : Char) : Option Char := if c == '.' then none else some c

/-- Two fences that are given as lexemes, a backslash before them set aside. -/
def givenFences (ls : List Lexeme) : Reading (Rest (Option Char × Option Char)) := do
  let (l, rest) ← take? ls
  let (r, rest) ← take? rest
  match named l ++ named r with
  | c :: d :: _ => .ok ((fence? c, fence? d), rest)
  | _ => .ok ((none, none), rest)
where
  /-- The characters of a lexeme after its backslashes. -/
  named : Lexeme → List Char
    | .word w => w.toList.dropWhile (· == '\x5c')
    | .called c => [c]

/-- The fences that a dividing command takes. -/
def fencesOf (fencing : Fencing) (ls : List Lexeme) :
    Reading (Rest (Option (Option Char × Option Char))) :=
  match fencing with
  | .bare => .ok (none, ls)
  | .fixed l r => .ok (some (some l, some r), ls)
  | .given => (givenFences ls).map fun (fences, rest) => (some fences, rest)

/-- A fraction of what stands before and after a command in its group. -/
def divided (command : String) (fencing : Fencing) (stop : Stop) (done : List Expression)
    (ls : List Lexeme) : Reading Step := do
  let (fences, ls) ← fencesOf fencing ls
  let isRuled := command == "\\above" || command == "\\abovewithdelims"
  let (_, ls) ← if isRuled then lengthAt row stop ls else .ok ("", ls)
  let ((below, sibling), rest) ← restOfGroup row stop ls
  let mayLack := command == "\\brace" || command == "\\brack"
  if below.isEmpty && !mayLack then .error .noDenominator
  else if done.isEmpty && !mayLack then .error .noNumerator
  else
    let parts := [ofRow done.reverse, ofRow below]
    let e :=
      match fences with
      | none => applied "\\frac" parts
      | some (l, r) => between l r parts
    .ok (.last (sibling.toList ++ [e]) rest)

/-- The style of a fraction that is given by a digit. -/
def styleOf (e : Expression) : Reading String :=
  match e.lengthWord? with
  | none => .error .noArgument
  | some w =>
    match ["0", "1", "2", "3"].idxOf? w with
    | some i => .ok ((styles[i]?).elim "" (·.1))
    | none => .error .unknownStyle

/-- A fraction of which fences, thickness and style are given. The row ends with it. -/
def general (stop : Stop) (done : List Expression) (ls : List Lexeme) : Reading Step := do
  let ((l, r), ls) ← givenFences ls
  match ← row stop 2 ls with
  | ([thickness, style], rest) =>
    if thickness.lengthWord?.isNone then throw .noArgument
    let style ← styleOf style
    let (parts, rest) ← row stop 2 rest
    .ok (.last (between l r parts :: ofWord style :: done) rest)
  | (parts, _) => .error (.fewArguments 2 parts.length)

/-- Rows of cells that are the rest of their group. -/
def grid (command : String) (stop : Stop) (done : List Expression) (ls : List Lexeme) :
    Reading Step := do
  let ((content, sibling), rest) ← restOfGroup row stop ls
  let content :=
    match content with
    | [group (e :: more)] => e :: more
    | content => content
  let e := applied command content
  match sibling with
  | some s => .ok (.last (s :: e :: done) rest)
  | none => .ok (.next (e :: done) rest)

/-- What follows an opening fence. -/
def fencedFrom (ls : List Lexeme) : Reading (Rest Expression) := do
  let (opening, rest) ← take? ls
  let stop : Stop := some (.word "\\right")
  let (content, rest) ← row stop 0 rest
  match splitEnd stop content with
  | (_, none) => .error .unpairedFence
  | (_, some _) => .ok (fenced opening content, rest)

/-! ## Texts -/

/-- A text that may hold formulas between dollar signs. -/
def mixedText (text : Lexeme) : Reading Expression := do
  let pieces ← pieces false (cutAtDollars [] text.source.toList)
  .ok (mixed (if pieces.isEmpty then [texted "\\hbox" (.word "")] else pieces))
where
  /-- The pieces of a text, of which the first one is a formula or not. -/
  pieces (isFormula : Bool) : List (List Char) → Reading (List Expression)
    | [] => .ok []
    | cs :: more => do
      let piece ←
        if isFormula then
          (row none 0 (lexemes cs)).map fun (content, _) => applied "$" content
        else .ok (texted "\\hbox" (.word (String.ofList cs)))
      .ok (piece :: (← pieces (!isFormula) more))

/-- What follows a command with a text. -/
def withText (command : String) (ls : List Lexeme) : Reading (Rest Expression) := do
  let (text, rest) ← take? ls
  if command == "\\hbox" then .ok (← mixedText row text, rest)
  else if command == "\\unicode" then .ok (ofWord ("&#" ++ text.source ++ ";"), rest)
  else .ok (texted command text, rest)

/-! ## Steps -/

/-- A word that takes something and is no command for a group. -/
def argued? (w : String) (stop : Stop) (rest : List Lexeme) :
    Option (Reading (Rest Expression)) :=
  if binaryCommands.contains w then some do
    let (parts, rest) ← row stop 2 rest
    .ok (applied w (if stackingCommands.contains w then parts.reverse else parts), rest)
  else if w == "\\mathchoice" then some (chosen row stop rest)
  else if w == "\\mathstrut" then some (.ok (ofWord w, rest))
  else if unaryCommands.contains w || "\\math".toList.isPrefixOf w.toList then some do
    let (parts, rest) ← row stop 1 rest
    .ok (applied w parts, rest)
  else if (labelledArrows.find? w).isSome then some (labelled row w stop rest)
  else if widthCommands.contains w then some do
    let (width, rest) ← lengthAt row stop rest
    .ok (saying "width" width (applied w []), rest)
  else if shiftingCommands.contains w then some do
    let (_, rest) ← lengthAt row stop rest
    let (parts, rest) ← row stop 1 rest
    .ok (applied w parts, rest)
  else if w == "\\smash" then some do
    let (parts, rest) ← afterBrackets row stop rest
    .ok (applied w parts, rest)
  else if w == "\\rule" then some do
    let (_, rest) ← afterBrackets row stop rest
    let (_, rest) ← row stop 1 rest
    .ok (applied w [], rest)
  else if w == "\\sideset" then some (sided row w stop rest)
  else if w == "\\skew" then some (skewed row w stop rest)
  else if w == "\\sqrt" then some (radical row rest)
  else if w == "\\root" then some (degreeRadical row rest)
  else if w == "\\href" then some do
    let (text, rest) ← take? rest
    let (parts, rest) ← row stop 1 rest
    .ok (saying "href" text.source (applied w parts), rest)
  else if ((growingCommands ++ fenceCommands).any fun c => c.1 == w) || wordCommands.contains w
      || w == "\\hbox" || w == "\\unicode" then
    some (withText row w rest)
  else
    (sayingCommands.find? fun c => c.1 == w).map fun c => do
      let (text, rest) ← take? rest
      let (e, rest) ← first row stop rest
      .ok (saying c.2 text.source e, rest)

/-- A word that does not end the row it stands in. -/
def ofCommand (w : String) (stop : Stop) (done : List Expression) (rest : List Lexeme) :
    Reading Step := do
  let isFenced := stop == some (.word "\\right")
  let add (r : Reading (Rest Expression)) : Reading Step := do
    let (e, rest) ← r
    .ok (.next (e :: done) rest)
  if w == "\\right" || (w == "\\middle" && !isFenced) then .error .unpairedFence
  else if w == "\\left" then add (fencedFrom row rest)
  else if w == "\x7b" then
    let stop : Stop := some (.word "\x7d")
    add do
      let (content, rest) ← row stop 0 rest
      .ok (group (splitEnd stop content).1, rest)
  else if w == "_" then withScript row .below stop done rest
  else if w == "^" then withScript row .above stop done rest
  else if w == "'" then
    match done with
    | [] => add ((primed absent).map (·, rest))
    | base :: done => .ok (.next ((← primed base) :: done) rest)
  else if w == "\\not" then struck row stop done rest
  else if degreeCommands.contains w then
    let (_, rest) ← row stop 1 rest
    .ok (.onward done rest)
  else if w == "\\color" then
    let (text, rest) ← take? rest
    let ((content, sibling), rest) ← restOfGroup row stop rest
    let e := saying "mathcolor" text.source (applied w content)
    .ok (.last (sibling.toList ++ e :: done) rest)
  else if w == "\\genfrac" then general row stop done rest
  else if gridCommands.contains w then grid row w stop done rest
  else if "\\begin".toList.isPrefixOf w.toList then add (environment row w rest)
  else
    match argued? row w stop rest with
    | some r => add r
    | none =>
      match dividingCommands.find? fun d => d.1 == w with
      | some d => divided row w d.2 stop done rest
      | none => .ok (.next (ofWord w :: done) rest)

/-- What a lexeme does to the row it stands in. -/
def step (stop : Stop) (done : List Expression) (l : Lexeme) (rest : List Lexeme) :
    Reading Step :=
  if stop == some l then
    if l == .word "\\right" then do
      let (fence, rest) ← take? rest
      .ok (.last (closing fence :: done) rest)
    else .ok (.last (lexeme l :: done) rest)
  else
    match l with
    | .called _ => .ok (.next (lexeme l :: done) rest)
    | .word w => ofCommand row w stop done rest

end

/-- Reads on a row, for at most `fuel` lexemes. -/
def readOn : (fuel : Nat) → Stop → (count : Nat) → List Expression → List Lexeme →
    Reading (Rest (List Expression))
  | 0, _, _, done, rest => .ok (done.reverse, rest)
  | _, _, _, done, [] => .ok (done.reverse, [])
  | fuel + 1, stop, count, done, l :: rest => do
    let row : RowReader := fun stop count ls =>
      if ls.isEmpty then .error .nothingLeft else readOn fuel stop count [] ls
    match ← step row stop done l rest with
    | .next done rest =>
      if count != 0 && count ≤ done.length then .ok (done.reverse, rest)
      else readOn fuel stop count done rest
    | .onward done rest => readOn fuel stop count done rest
    | .last done rest => .ok (done.reverse, rest)

/-- The expressions of some lexemes. The lexemes that a text among them may hold are
    counted by its characters. -/
def readAll (ls : List Lexeme) : Reading (List Expression) :=
  if ls.isEmpty then .error .nothingLeft
  else (readOn (ls.foldr (fun l n => l.source.length + 1 + n) 0) none 0 [] ls).map (·.1)

end Expression

end Manuscript.Formula
