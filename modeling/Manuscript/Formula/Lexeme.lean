import Manuscript.Formula.Symbol
import Manuscript.Text.Digits

/-!
# Lexemes of a formula

A formula is a row of *lexemes*: characters, numbers, lengths, commands and the braced
texts of some commands. Remarks, from a percent sign to the end of the line, and
blanks between lexemes are none.

* `lexemes`: the lexemes of a formula. At every place the first of the `forms` that
  fits is taken.
* A letter in a named alphabet, such as `\mathbb{R}`, is one lexeme: the character
  it calls.
-/

namespace Manuscript.Formula

open Manuscript.Text

/-- A lexeme. -/
inductive Lexeme where
  /-- A word, as it stands in the formula. -/
  | word (s : String)
  /-- A character that is called by name. -/
  | called (c : Char)
  deriving DecidableEq, Repr

/-- A lexeme as the source of a formula. -/
def Lexeme.source : Lexeme → String
  | word s => s
  | called c => c.toString

/-- What is read at a place: some words, and the rest of the formula. -/
abbrev Form := List Char → Option (List (List Char) × List Char)

/-! ## Parts of forms -/

/-- Whether a character is a decimal digit. -/
def isDigit (c : Char) : Bool := (digit? c).isSome

/-- The longest run of characters of a kind at the front, if there is one, and what
    follows it. -/
def run? (p : Char → Bool) (cs : List Char) : Option (List Char × List Char) :=
  let run := cs.takeWhile p
  if run.isEmpty then none else some (run, cs.dropWhile p)

/-- A number at the front, with a fraction or without. -/
def numeral? (cs : List Char) : Option (List Char × List Char) := do
  let (whole, rest) ← run? isDigit cs
  match rest with
  | '.' :: tail =>
    match run? isDigit tail with
    | some (fraction, rest) => some (whole ++ '.' :: fraction, rest)
    | none => some (whole, rest)
  | _ => some (whole, rest)

/-- The units of length. -/
def units : List (List Char) :=
  ["in", "mm", "cm", "pt", "em", "ex", "pc", "bp", "dd", "cc", "sp", "mu"].map String.toList

/-- The unit at the front, after some blanks, together with them. -/
def unit? (cs : List Char) : Option (List Char × List Char) :=
  let blanks := cs.takeWhile isBlank
  let rest := cs.dropWhile isBlank
  if units.contains (rest.take 2) then some (blanks ++ rest.take 2, rest.drop 2) else none

/-- A command at the front, without its backslash. -/
def commandName? : List Char → Option (List Char × List Char)
  | '\x5c' :: cs => run? Char.isAlpha cs
  | _ => none

/-- A command at the front, with the star after it, if there is one. -/
def starredName? (cs : List Char) : Option (List Char × List Char) :=
  (commandName? cs).map fun (name, rest) =>
    match rest with
    | '*' :: rest => (name ++ ['*'], rest)
    | _ => (name, rest)

/-- What stands in braces at the front, after some blanks: all characters are of a
    kind. The blanks are kept. -/
def braced? (p : Char → Bool) (cs : List Char) : Option (List Char × List Char × List Char) :=
  match cs.dropWhile isBlank with
  | '\x7b' :: rest =>
    match rest.dropWhile p with
    | '\x7d' :: tail => some (cs.takeWhile isBlank, rest.takeWhile p, tail)
    | _ => none
  | _ => none

/-- A command with the braces that follow it, as one word. -/
def joined (name blanks body : List Char) : List Char :=
  '\x5c' :: name ++ blanks ++ '\x7b' :: body ++ ['\x7d']

/-! ## Forms -/

namespace Form

/-- A percent sign and the rest of its line. -/
def remark : Form
  | '%' :: cs => some ([], cs.dropWhile (· != '\n'))
  | _ => none

/-- The mark of a script and one digit. -/
def scriptDigit : Form
  | m :: d :: cs => if (m == '_' || m == '^') && isDigit d then some ([[m], [d]], cs) else none
  | _ => none

/-- A number with a unit. -/
def length : Form := fun cs => do
  let sign := if cs.head? == some '-' then ['-'] else []
  let (number, rest) ← numeral? (cs.drop sign.length)
  let (unit, rest) ← unit? rest
  some ([sign ++ number ++ unit], rest)

/-- A number. -/
def numeral : Form := fun cs => (numeral? cs).map fun (n, rest) => ([n], rest)

/-- A point, with the digits after it. -/
def point : Form
  | '.' :: cs => some (['.' :: cs.takeWhile isDigit], cs.dropWhile isDigit)
  | _ => none

/-- A backslash and a character that it gives a meaning, or takes one from. -/
def escaped : Form
  | '\x5c' :: c :: cs =>
    if isBlank c || "\\[]\x7b\x7d!,:>;|_%#$&".toList.contains c then some ([['\x5c', c]], cs)
    else none
  | _ => none

/-- The start or the end of an environment, with its name. -/
def environment : Form := fun cs => do
  let (name, rest) ← commandName? cs
  if name != "begin".toList && name != "end".toList then none
  let (blanks, body, rest) ← braced? (fun c => c.isAlpha || c == '*') rest
  let letters := if body.getLast? == some '*' then body.dropLast else body
  if letters.isEmpty || letters.contains '*' then none
  some ([joined name blanks body], rest)

/-- The commands for an operator that is spelled out. -/
def spellingCommands : List String :=
  ["operatorname", "operatorname*", "operatornamewithlimits"]

/-- An operator that is spelled out. -/
def spelledOperator : Form := fun cs => do
  let (name, rest) ← starredName? cs
  if !spellingCommands.contains (String.ofList name) then none
  let (blanks, body, rest) ← braced? (fun c => c.isAlpha || c == '*' || isBlank c) rest
  if body.isEmpty then none
  some ([joined name blanks body], rest)

/-- The commands whose argument is not a formula. -/
def textCommands : List String :=
  ["class", "clap", "color", "cssId", "emph", "fbox", "hbox", "href", "llap", "mbox", "rlap",
   "style", "tag", "tag*", "text", "textbf", "textit", "textmd", "textnormal", "textrm", "textsf",
   "texttt", "textup", "unicode"]

/-- A command and the text that is its argument. -/
def textCommand : Form := fun cs => do
  let (name, rest) ← starredName? cs
  if !textCommands.contains (String.ofList name) then none
  let (_, body, rest) ← braced? (· != '\x7d') rest
  some (['\x5c' :: name, body], rest)

/-- A command and the text after it between two like marks. -/
def quotation : Form := fun cs => do
  let (name, rest) ← commandName? cs
  if name != "verb".toList then none
  match rest with
  | m :: rest =>
    if isBlank m || m == '*' then none
    match rest.dropWhile (· != m) with
    | _ :: tail => some (['\x5c' :: name, rest.takeWhile (· != m)], tail)
    | [] => none
  | [] => none

/-- Whether a character can be a part of a fraction by itself. -/
def isPart (c : Char) : Bool := c == '.' || isDigit c

/-- The commands for a fraction. -/
def fractionCommands : List String := ["frac", "cfrac", "dfrac", "tfrac"]

/-- A fraction of single digits. -/
def digitFraction : Form := fun cs => do
  let (name, rest) ← commandName? cs
  if !fractionCommands.contains (String.ofList name) then none
  match rest.dropWhile isBlank with
  | c :: rest =>
    if !isPart c then none
    match rest.dropWhile isBlank with
    | d :: tail =>
      if isPart d then some (['\x5c' :: name, [c], [d]], tail) else some (['\x5c' :: name, [c]], rest)
    | [] => some (['\x5c' :: name, [c]], rest)
  | [] => none

/-- The name of an alphabet and a letter. -/
def alphabetLetter : Form := fun cs => do
  let (name, rest) ← commandName? cs
  if !"math".toList.isPrefixOf name || name.length == 4 || !name.all Char.isLower then none
  match rest with
  | '\x7b' :: c :: '\x7d' :: rest =>
    if c.isAlpha then some (['\x5c' :: name, ['\x7b'], [c], ['\x7d']], rest) else none
  | _ => none

/-- A command. -/
def command : Form := fun cs => (commandName? cs).map fun (name, rest) => (['\x5c' :: name], rest)

/-- Any character but a blank. -/
def ink : Form
  | c :: cs => if isBlank c then none else some ([[c]], cs)
  | [] => none

end Form

open Form in
/-- All forms. -/
def forms : List Form :=
  [remark, scriptDigit, length, numeral, point, escaped, environment, spelledOperator, textCommand,
   quotation, digitFraction, alphabetLetter, command, ink]

/-! ## Lexemes -/

/-- The character that some words call together, which start with the name of an
    alphabet. -/
def calledBy? (words : List (List Char)) : Option Char :=
  match words with
  | ['\x5c' :: 'm' :: 'a' :: 't' :: 'h' :: name, ['\x7b'], [c], ['\x7d']] =>
    letterIn? (String.ofList name) c
  | ['\x5c' :: 'm' :: 'a' :: 't' :: 'h' :: name] => called? (String.ofList ("math".toList ++ name))
  | _ => none

/-- Whether a word is a length without a sign. -/
def isLength (word : List Char) : Bool :=
  ((numeral? word).bind fun (_, rest) => unit? rest).any fun (_, rest) => rest.isEmpty

/-- A word as a lexeme: a length without a sign has no spaces in it, nor has the name of
    an environment or a spelled operator. -/
def lexemeOf (word : List Char) : Lexeme :=
  let squeezed := isLength word
    || ["\\begin", "\\end", "\\operatorname"].any fun s => s.toList.isPrefixOf word
  .word (String.ofList (if squeezed then word.filter (· != ' ') else word))

/-- The lexemes that some words make. A word that starts like a remark ends them. -/
def lexemesOf (words : List (List Char)) : List Lexeme :=
  match calledBy? words with
  | some c => [.called c]
  | none => (words.takeWhile fun w => w.head? != some '%').map lexemeOf

/-- The lexemes of a formula of at most `fuel` characters. -/
def lexemesWithin : (fuel : Nat) → List Char → List Lexeme
  | 0, _ => []
  | _, [] => []
  | fuel + 1, c :: cs =>
    match forms.findSome? fun form => form (c :: cs) with
    | some (words, rest) => lexemesOf words ++ lexemesWithin fuel rest
    | none => lexemesWithin fuel cs

/-- The lexemes of a formula. -/
def lexemes (cs : List Char) : List Lexeme := lexemesWithin cs.length cs

end Manuscript.Formula
