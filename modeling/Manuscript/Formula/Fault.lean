import Manuscript.Text.Quoted
import Manuscript.Xml.Fault
import Manuscript.Xml.Fragment

/-!
# Why a formula is not converted

A formula is rejected for a reason; the engine may not start; and a step may do what the
checks around it do not reckon with. `Reason.message` gives a reason in words, and
`Fault.message` a fault.
-/

namespace Manuscript.Formula

/-- Why a formula is rejected. -/
inductive Reason where
  /-- It is blank. -/
  | empty
  /-- A brace closes that was not opened. -/
  | unopenedBrace
  /-- A brace that was opened is not closed. -/
  | unclosedBrace
  /-- A step of the conversion failed, with these words. -/
  | step (words : String)
  /-- The first step did not give markup. -/
  | notMarkup (fault : Xml.Fault)
  /-- A command that no step knows. -/
  | unsupported (command : String)
  /-- The second step did not give markup. -/
  | notOfficeMarkup (fault : Xml.FragmentFault)
  /-- The second step gave a text that cannot be encoded. -/
  | unencodable
  /-- Nothing came out of the conversion. -/
  | noContent
  deriving DecidableEq, Repr

/-- A reason in words. -/
def Reason.message : Reason → String
  | empty => "empty formula"
  | unopenedBrace => "unexpected closing brace"
  | unclosedBrace => "unbalanced braces"
  | step words => words
  | notMarkup fault => "converter produced invalid MathML: " ++ fault.message
  | unsupported command => "unsupported command " ++ command
  | notOfficeMarkup fault => fault.message
  | unencodable => "converter produced text that cannot be encoded"
  | noContent => "converter produced an empty math object"

/-- What gets past the checks around the steps. -/
inductive Escape where
  /-- The first step gave nothing at all. -/
  | noMarkup
  /-- The first step gave a text that cannot be encoded. -/
  | unencodable
  /-- A step failed in a way that the guard around it lets pass. -/
  | unguarded
  deriving DecidableEq, Repr, Inhabited

/-- What gets past the checks, in words. -/
def Escape.message : Escape → String
  | noMarkup => "converter produced nothing"
  | unencodable => "converter produced text that cannot be encoded"
  | unguarded => "converter failed past its guard"

/-- What can go wrong with a formula. -/
inductive Fault where
  /-- A formula is rejected. -/
  | rejected (latex : String) (reason : Reason)
  /-- The engine does not start: it rejects the formula it tries itself with. -/
  | notStarted (reason : Reason)
  /-- A step gets past the checks around it. -/
  | escaped (escape : Escape)
  deriving DecidableEq, Repr, Inhabited

/-- A fault in words. -/
def Fault.message : Fault → String
  | rejected latex reason => "Cannot convert formula " ++ Text.quoted latex ++ ": " ++ reason.message
  | notStarted reason => "Math engine failed its start-up probe: " ++ reason.message
  | escaped escape => escape.message

end Manuscript.Formula
