import Manuscript.Formula.Symbol.Basic

/-!
# Commands

The commands of a formula by what they take: arguments, a text, a width, or the rest of
their group. Commands are given with their backslash.
-/

namespace Manuscript.Formula

/-- The commands with two arguments. -/
def binaryCommands : List String :=
  ["\\binom", "\\cfrac", "\\dbinom", "\\dfrac", "\\frac", "\\overset", "\\stackrel", "\\tbinom",
   "\\tfrac", "\\underset"]

/-- The commands whose first argument stands over or under the second one. -/
def stackingCommands : List String := ["\\overset", "\\stackrel", "\\underset"]

/-- The commands with one argument, besides those that name an alphabet. -/
def unaryCommands : List String :=
  ["\\acute", "\\bar", "\\Bbb", "\\bcancel", "\\boldsymbol", "\\boxed", "\\bra", "\\braket",
   "\\breve", "\\cancel", "\\check", "\\dot", "\\ddot", "\\dddot", "\\ddddot", "\\grave", "\\hat",
   "\\hphantom", "\\ket", "\\mathring", "\\mit", "\\mod", "\\oldstyle", "\\overbrace",
   "\\overbracket", "\\overleftarrow", "\\overleftrightarrow", "\\overline", "\\overparen",
   "\\overrightarrow", "\\phantom", "\\pmod", "\\pod", "\\scr", "\\sout", "\\tilde", "\\tt",
   "\\underbar", "\\underbrace", "\\underbracket", "\\underleftarrow", "\\underline",
   "\\underparen", "\\underrightarrow", "\\underleftrightarrow", "\\vcenter", "\\vec",
   "\\vphantom", "\\widecheck", "\\widehat", "\\widetilde", "\\xcancel"]

/-- The arrows that have something on them. -/
def labelledArrows : Symbols :=
  [("\\xleftarrow", '←'), ("\\xrightarrow", '→'), ("\\xleftrightarrow", '↔'),
   ("\\xLeftarrow", '⇐'), ("\\xRightarrow", '⇒'), ("\\xLeftrightarrow", '⇔'),
   ("\\xhookleftarrow", '↩'), ("\\xhookrightarrow", '↪'), ("\\xmapsto", '↦'),
   ("\\xleftharpoonup", '↼'), ("\\xleftharpoondown", '↽'), ("\\xrightharpoonup", '⇀'),
   ("\\xrightharpoondown", '⇁'), ("\\xleftrightharpoons", '⇋'), ("\\xrightleftharpoons", '⇌'),
   ("\\xtwoheadleftarrow", '↞'), ("\\xtwoheadrightarrow", '↠'), ("\\xlongequal", '='),
   ("\\xtofrom", '⇄')]

/-- The commands that make a mark grow by so much, with its least size. -/
def growingCommands : List (String × String) :=
  [("\\Bigg", "2.470em"), ("\\bigg", "2.047em"), ("\\Big", "1.623em"), ("\\big", "1.2em")]

/-- The commands that make a fence grow by so much, with its least size. -/
def fenceCommands : List (String × String) :=
  growingCommands.flatMap fun c => ["l", "m", "r"].map fun side => (c.1 ++ side, c.2)

/-- The commands with a text. -/
def wordCommands : List String :=
  ["\\clap", "\\emph", "\\fbox", "\\llap", "\\mbox", "\\middle", "\\rlap", "\\tag", "\\tag*",
   "\\text", "\\textbf", "\\textit", "\\textmd", "\\textnormal", "\\textrm", "\\textsf", "\\texttt",
   "\\textup", "\\verb"]

/-- The commands that say something about the next expression, with what they say. -/
def sayingCommands : List (String × String) :=
  [("\\class", "class"), ("\\cssId", "id"), ("\\style", "style")]

/-- The commands for a space of a given width. -/
def widthCommands : List String :=
  ["\\hskip", "\\hspace", "\\kern", "\\mkern", "\\mskip", "\\mspace"]

/-- The commands that shift an expression by a given length. -/
def shiftingCommands : List String := ["\\lower", "\\moveleft", "\\moveright", "\\raise"]

/-- The commands that place the degree of a root. -/
def degreeCommands : List String := ["\\leftroot", "\\uproot"]

/-- The environments in which rows are numbered. -/
def numberedCommands : List String := ["\\align"]

/-- The commands and environments whose content is rows of cells. -/
def gridCommands : List String :=
  ["\\matrix", "\\matrix*", "\\pmatrix", "\\pmatrix*", "\\bmatrix", "\\bmatrix*", "\\Bmatrix",
   "\\Bmatrix*", "\\vmatrix", "\\vmatrix*", "\\Vmatrix", "\\Vmatrix*", "\\array", "\\substack",
   "\\cases", "\\displaylines", "\\eqalign", "\\eqalignno", "\\leqalignno", "\\smallmatrix",
   "\\split", "\\align", "\\align*"]

/-- What stands around the fraction that a command makes of its group. -/
inductive Fencing where
  /-- Nothing. -/
  | bare
  /-- Two fences of the command. -/
  | fixed (opening closing : Char)
  /-- Two fences that follow the command. -/
  | given
  deriving DecidableEq, Repr

/-- The commands that make a fraction of what stands before and after them in their
    group, with the fences around it. -/
def dividingCommands : List (String × Fencing) :=
  [("\\above", .bare), ("\\atop", .bare), ("\\over", .bare), ("\\brace", .fixed '\x7b' '\x7d'),
   ("\\brack", .fixed '[' ']'), ("\\choose", .fixed '(' ')'), ("\\abovewithdelims", .given),
   ("\\atopwithdelims", .given)]

/-- The styles in which a formula is set, with what is said for them. -/
def styles : List (String × List (String × String)) :=
  [("\\displaystyle", [("displaystyle", "true"), ("scriptlevel", "0")]),
   ("\\textstyle", [("displaystyle", "false"), ("scriptlevel", "0")]),
   ("\\scriptstyle", [("displaystyle", "false"), ("scriptlevel", "1")]),
   ("\\scriptscriptstyle", [("displaystyle", "false"), ("scriptlevel", "2")])]

/-- The sizes in which a formula is set. -/
def sizes : List (String × String) :=
  [("\\Huge", "2.49em"), ("\\huge", "2.07em"), ("\\LARGE", "1.73em"), ("\\Large", "1.44em"),
   ("\\large", "1.2em"), ("\\normalsize", "1em"), ("\\small", "0.85em"),
   ("\\footnotesize", "0.8em"), ("\\scriptsize", "0.7em"), ("\\Tiny", "0.6em"), ("\\tiny", "0.5em")]

end Manuscript.Formula
