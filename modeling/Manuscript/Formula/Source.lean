import Manuscript.Text.Blank

/-!
# The source of a formula

Two things are done with a formula before any conversion.

* `braceFault?`: its braces must pair. A backslash takes away the meaning of the
  character after it, of a backslash too.
* `uprightText`: `\text` with a braced argument becomes `\mathrm`, in one pass from
  left to right. The argument is what stands before the first closing brace, and is
  not empty.
-/

namespace Manuscript.Formula

/-! ## Braces -/

/-- What is wrong with the braces of a formula. -/
inductive BraceFault where
  /-- A brace closes that was not opened. -/
  | unopened
  /-- A brace that was opened is not closed. -/
  | unclosed
  deriving DecidableEq, Repr

/-- What is wrong with the braces of a text inside `depth` open ones. -/
def braceFaultAt : (depth : Nat) → List Char → Option BraceFault
  | 0, [] => none
  | _ + 1, [] => some .unclosed
  | depth, ['\x5c'] => if depth = 0 then none else some .unclosed
  | depth, '\x5c' :: _ :: cs => braceFaultAt depth cs
  | depth, '\x7b' :: cs => braceFaultAt (depth + 1) cs
  | 0, '\x7d' :: _ => some .unopened
  | depth + 1, '\x7d' :: cs => braceFaultAt depth cs
  | depth, _ :: cs => braceFaultAt depth cs

/-- What is wrong with the braces of a formula. -/
def braceFault? (cs : List Char) : Option BraceFault := braceFaultAt 0 cs

/-! ## Text in formulas -/

/-- What opens text in a formula. -/
def textMark : List Char := "\\text\x7b".toList

/-- What opens upright letters in a formula. -/
def uprightMark : List Char := "\\mathrm\x7b".toList

/-- The rest of a text after a given start. -/
def after? : List Char → List Char → Option (List Char)
  | [], cs => some cs
  | m :: ms, c :: cs => if m = c then after? ms cs else none
  | _ :: _, [] => none

/-- The argument of a text command at the start of a formula, and what follows its
    closing brace. -/
def textArgument? (cs : List Char) : Option (List Char × List Char) :=
  (after? textMark cs).bind fun opened =>
    let body := opened.takeWhile (· != '\x7d')
    match opened.dropWhile (· != '\x7d') with
    | _ :: rest => if body.isEmpty then none else some (body, rest)
    | [] => none

/-- The formula with its text as upright letters, for a formula of at most `fuel`
    characters. -/
def uprightWithin : (fuel : Nat) → List Char → List Char
  | 0, cs => cs
  | _, [] => []
  | fuel + 1, c :: cs =>
    match textArgument? (c :: cs) with
    | some (body, rest) => uprightMark ++ body ++ '\x7d' :: uprightWithin fuel rest
    | none => c :: uprightWithin fuel cs

/-- The formula with its text as upright letters. -/
def uprightText (cs : List Char) : List Char := uprightWithin cs.length cs

end Manuscript.Formula
