import Manuscript.Formula.Lexeme

/-!
# Expressions

What a formula is made of: lexemes, groups, commands with their arguments, fractions,
scripts and fences.

* `Expression`: an expression, and `Expression.head`: the word it is known by.
* `SourceFault`: what can be wrong with the lexemes of a formula.
-/

namespace Manuscript.Formula

/-- Where scripts stand. -/
inductive Script where
  /-- One below. -/
  | below
  /-- One above. -/
  | above
  /-- One below and one above. -/
  | both
  deriving DecidableEq, Repr

/-- What makes scripts stand under and over their base rather than beside it. -/
inductive Stacking where
  /-- Nothing does. -/
  | beside
  /-- A command that says so. -/
  | limits
  /-- A base with a brace over it. -/
  | braceOver
  /-- A base with a brace under it. -/
  | braceUnder
  deriving DecidableEq, Repr

/-- An expression. -/
inductive Expression where
  /-- A lexeme that stands for itself. -/
  | lexeme (l : Lexeme)
  /-- Nothing, where a script has no base. -/
  | absent
  /-- A group in braces. -/
  | group (content : List Expression)
  /-- A command with its arguments, or an environment with its content. -/
  | applied (command : String) (arguments : List Expression)
  /-- A command with a text. -/
  | texted (command : String) (text : Lexeme)
  /-- A text with formulas in it. -/
  | mixed (pieces : List Expression)
  /-- A fraction between two fences, each of which may be missing. -/
  | between (opening closing : Option Char) (parts : List Expression)
  /-- Scripts with their base, which comes first; the lower script comes before the
      upper one. -/
  | scripted (script : Script) (stacking : Stacking) (parts : List Expression)
  /-- An expression in fences that grow with it; the closing one is its last part. -/
  | fenced (opening : Lexeme) (content : List Expression)
  /-- A closing fence. -/
  | closing (fence : Lexeme)
  /-- An expression of which something is said, with its name and its value. -/
  | saying (name value : String) (e : Expression)
  deriving Repr, Inhabited

namespace Expression

/-- A word that stands for itself. -/
def ofWord (s : String) : Expression := lexeme (.word s)

/-- Whether an expression is a given word. -/
def isWord (s : String) : Expression → Bool
  | lexeme (.word w) => w == s
  | _ => false

/-- One expression for a row. -/
def ofRow : List Expression → Expression
  | [e] => e
  | row => group row

/-- The word that an expression is known by: a lexeme itself, the command of what has
    one, and marks for what has none. -/
def head : Expression → String
  | lexeme (.word w) => w
  | lexeme (.called _) => "&#"
  | absent => ""
  | applied c _ => c
  | texted c _ => c
  | mixed _ => "\\hbox"
  | between _ _ _ => "\\frac"
  | fenced _ _ => "\\left"
  | closing _ => "\\right"
  | group _ => "\x7b\x7d"
  | scripted .below _ _ => "_"
  | scripted .above _ _ => "^"
  | scripted .both _ _ => "_^"
  | saying _ _ e => e.head

/-- Whether an expression is a command, or known by one. -/
def isCommand (e : Expression) : Bool := e.head.toList.head? == some '\x5c'

/-- The word of a length, which may stand in braces. -/
def lengthWord? : Expression → Option String
  | group [] => none
  | group (e :: _) => some e.head
  | e => some e.head

end Expression

/-- What is wrong with the lexemes of a formula. -/
inductive SourceFault where
  /-- Something is expected where the formula ends. -/
  | nothingLeft
  /-- A lexeme is expected where the formula ends. -/
  | endsEarly
  /-- A script is missing. -/
  | noScript
  /-- A second lower script. -/
  | secondBelow
  /-- A second upper script. -/
  | secondAbove
  /-- A fence without its partner. -/
  | unpairedFence
  /-- An environment without its end. -/
  | unfinishedEnvironment
  /-- Columns of an unknown kind. -/
  | unknownColumn
  /-- Limits without an operator. -/
  | limitsOfNothing
  /-- A fraction with nothing above its line. -/
  | noNumerator
  /-- A fraction with nothing below its line. -/
  | noDenominator
  /-- An argument is missing. -/
  | noArgument
  /-- Fewer arguments than wanted. -/
  | fewArguments (wanted got : Nat)
  /-- An accent is skewed by what is no number. -/
  | noSkew
  /-- What is skewed has no parts. -/
  | noParts
  /-- A fraction in an unknown style. -/
  | unknownStyle
  /-- Scripts beside an operator that are none. -/
  | noSideScripts
  deriving DecidableEq, Repr

/-- A fault by its name, or in words. -/
def SourceFault.words : SourceFault → String
  | nothingLeft => "NoAvailableTokensError"
  | endsEarly => "StopIteration"
  | noScript => "MissingSuperScriptOrSubscriptError"
  | secondBelow => "DoubleSubscriptsError"
  | secondAbove => "DoubleSuperscriptsError"
  | unpairedFence => "ExtraLeftOrMissingRightError"
  | unfinishedEnvironment => "MissingEndError"
  | unknownColumn => "InvalidAlignmentError"
  | limitsOfNothing => "LimitsMustFollowMathOperatorError"
  | noNumerator => "NumeratorNotFoundError"
  | noDenominator => "DenominatorNotFoundError"
  | noArgument => "tuple index out of range"
  | fewArguments wanted got =>
    "not enough values to unpack (expected " ++ toString wanted ++ ", got " ++ toString got ++ ")"
  | noSkew => "InvalidWidthError"
  | noParts => "Value after * must be an iterable, not NoneType"
  | unknownStyle => "InvalidStyleForGenfracError"
  | noSideScripts => "AssertionError"

end Manuscript.Formula
