import Manuscript.Formula.Symbol.Basic

/-!
# Marks

The marks of a keyboard, which a command calls where they have a meaning of their own
in a formula, and the marks of running text.
-/

namespace Manuscript.Formula.Symbols

/-- Marks that have a meaning of their own, after a backslash. -/
def escaped : Symbols :=
  [("#", '#'), ("$", '$'), ("%", '%'), ("&", '&'), ("_", '_'), ("\x7b", '\x7b'), ("\x7d", '\x7d'),
   ("|", '‖')]

/-- Marks by their names. -/
def marks : Symbols :=
  [("exclam", '!'), ("octothorpe", '#'), ("mathdollar", '$'), ("percent", '%'),
   ("ampersand", '&'), ("And", '&'), ("binampersand", '&'), ("lparen", '('), ("rparen", ')'),
   ("ast", '*'), ("plus", '+'), ("comma", ','), ("period", '.'), ("ldotp", '.'),
   ("mathslash", '/'), ("slash", '/'), ("mathcolon", ':'), ("colon", ':'), ("semicolon", ';'),
   ("less", '<'), ("lt", '<'), ("equal", '='), ("greater", '>'), ("gt", '>'), ("question", '?'),
   ("atsign", '@'), ("lbrack", '['), ("backslash", '\x5c'), ("rbrack", ']'), ("lbrace", '\x7b'),
   ("vert", '|'), ("lvert", '|'), ("rvert", '|'), ("rbrace", '\x7d'), ("cent", '¢'),
   ("pounds", '£'), ("sterling", '£'), ("yen", '¥'), ("S", '§'), ("neg", '¬'), ("lnot", '¬'),
   ("circledR", '®'), ("degree", '°'), ("pm", '±'), ("cdot", '·'), ("cdotp", '·'), ("times", '×'),
   ("eth", 'ð'), ("div", '÷'), ("horizbar", '―'), ("Vert", '‖'), ("lVert", '‖'), ("rVert", '‖'),
   ("twolowline", '‗'), ("dagger", '†'), ("ddagger", '‡'), ("bullet", '•'), ("smblkcircle", '•'),
   ("enleadertwodots", '‥'), ("ldots", '…'), ("unicodeellipsis", '…'), ("dots", '…'),
   ("dotsc", '…'), ("dotso", '…'), ("prime", '′'), ("dprime", '″'), ("trprime", '‴'),
   ("backprime", '‵'), ("backdprime", '‶'), ("backtrprime", '‷'), ("caretinsert", '‸'),
   ("Exclam", '‼'), ("tieconcat", '⁀'), ("hyphenbullet", '⁃'), ("fracslash", '⁄'),
   ("Question", '⁇'), ("closure", '⁐'), ("qprime", '⁗'), ("medspace", '\u205f'), ("euro", '€')]

end Manuscript.Formula.Symbols
