import Manuscript.Value.Basic

/-!
# Why no package can be put together

Values of a style or a block may not suit the package. What exactly does not suit is
known here, but only what is not supported at all is said.
-/

namespace Manuscript.Package

/-- Why no package can be put together. -/
inductive Fault where
  /-- A block is of no kind. -/
  | unknownBlock
  /-- A run holds text without looks. -/
  | bareContent
  /-- A measure is none, or out of range. -/
  | measure
  /-- The name of a font is no text. -/
  | font
  /-- A switch is neither on nor off. -/
  | switch
  /-- A colour is not three hexadecimal numbers. -/
  | color
  /-- The name of a style is no text, or there is no such style, or it is taken. -/
  | style
  /-- A border is on no side. -/
  | side
  /-- There are not four margins. -/
  | margins
  /-- A text has a character that cannot stand in a package. -/
  | character
  /-- A text about the document is too long, or cannot be written. -/
  | length
  deriving DecidableEq, Repr, Inhabited

/-- What is said of a fault. -/
def Fault.message : Fault → String
  | unknownBlock => "Failed to assemble document: Unsupported block: Block"
  | bareContent => "Failed to assemble document: Unsupported run content: str"
  | _ => "Failed to assemble document"

end Manuscript.Package
