import Manuscript.Formula.Bridge
import Manuscript.Formula.Office
import Manuscript.Formula.Presentation

/-!
# The standard conversion

The two steps that formulas go through unless others are given: `markupOf` reads the
source of a formula and lays it out, and `officeOf` turns its markup into that of the
package. They keep no state, and the second one needs no named characters, as the
markup of the first calls none.
-/

namespace Manuscript.Formula

/-- The markup of a formula. -/
def markupOf (source : String) : Answer :=
  match Expression.readAll (lexemes source.toList) with
  | .ok es => .text (presented es)
  | .error fault => .failed fault.words

/-- The markup of the package for the markup of a formula. -/
def officeOf (markup : String) : Answer :=
  match Xml.document? markup with
  | .error fault => .failed fault.message
  | .ok root =>
    match officeElement root with
    | .ok ms => .text (Markup.writtenAll ms)
    | .error fault => .failed fault.message

/-- The standard steps. -/
def standard : Converters Unit where
  toMarkup source s := (markupOf source, s)
  toOffice markup _ s := (officeOf markup, s)

end Manuscript.Formula
