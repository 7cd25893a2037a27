import Manuscript.Formula.Symbol.Alphabet
import Manuscript.Formula.Symbol.Arrow
import Manuscript.Formula.Symbol.Extended
import Manuscript.Formula.Symbol.Letter
import Manuscript.Formula.Symbol.Mark
import Manuscript.Formula.Symbol.Operator
import Manuscript.Formula.Symbol.Shape

/-!
# Symbols

Characters that a formula calls by a command, such as `\alpha`, or by another
character: the hyphen stands for the minus sign.

* `called?`: the character that a command calls.
* `symbol?`: the character that a word of a formula calls.
-/

namespace Manuscript.Formula

/-- All tables. -/
def Symbols.all : List Symbols :=
  [escaped, marks, letters, arrows, longArrows, otherArrows, operators, relations, furtherMarks,
   furtherOperators, furtherRelations, technical, shapes, signs, brackets]

/-- The character that a command calls, given without its backslash. -/
def called? (name : String) : Option Char :=
  (Symbols.all.findSome? fun t => t.find? name) <|> lettered? name

/-- The character that a single character stands for. -/
def meant? (c : Char) : Option Char :=
  if c == '-' then some '−'
  else if "+*/()=,?|!<>.:;@[]".toList.contains c then some c
  else none

/-- The character that a word of a formula calls. -/
def symbol? (word : String) : Option Char :=
  match word.toList with
  | '\x5c' :: c :: name => called? (String.ofList (c :: name))
  | [c] => meant? c
  | _ => none

end Manuscript.Formula
