/-!
# Tables of symbols

A table of symbols gives the characters that commands of a formula call, each command by
its name without the backslash. A name stands in one table, and there once.

* `Symbols.find?`: the character for a name.
-/

namespace Manuscript.Formula

/-- Names of commands and the characters they call. -/
abbrev Symbols := List (String × Char)

/-- The character that a name calls. -/
def Symbols.find? (t : Symbols) (name : String) : Option Char :=
  (List.find? (fun e => e.1 == name) t).map (·.2)

end Manuscript.Formula
