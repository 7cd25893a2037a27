import Manuscript.Xml.Tree

/-!
# Faults of markup documents

What is wrong with a text that is no markup document, and at which line and column. Lines
are counted from one and columns from zero. A column holds one character.
-/

namespace Manuscript.Xml

/-- What is wrong. -/
inductive Flaw where
  /-- A part of the prolog stands where it may not. -/
  | misplaced
  /-- The text ends before its element does. -/
  | noElement
  /-- A character stands where it may not. -/
  | badToken
  /-- The text ends inside a tag or the like. -/
  | unclosedToken
  /-- The text ends inside a literal section. -/
  | unclosedSection
  /-- A closing tag has another name than the element it should close. -/
  | mismatchedTag
  /-- An attribute is given twice. -/
  | duplicateAttribute
  /-- Something follows the document's element. -/
  | trailing
  /-- A parameter is referred to where it may not be. -/
  | parameterReference
  /-- An entity is not declared. -/
  | undefinedEntity
  /-- An entity is not known, but may be declared elsewhere. -/
  | unknownEntity (name : String)
  /-- An entity is declared outside the document. -/
  | distantEntity
  /-- An entity lies inside itself. -/
  | recursiveEntity
  /-- An entity holds part of an element only. -/
  | brokenEntity
  /-- An entity is no text. -/
  | binaryEntity
  /-- The value of an attribute refers to an entity outside the document. -/
  | distantInValue
  /-- Entities make the document much longer. -/
  | amplified
  /-- No character has the number. -/
  | badCharacter
  /-- A declaration of markup does not stand at the start. -/
  | lateDeclaration
  /-- A declaration of markup does not have the form of one. -/
  | badDeclaration
  /-- A public identifier has other characters than it may. -/
  | publicIdentifier
  /-- A prefix is not declared. -/
  | unboundPrefix
  /-- A prefix is declared to stand for nothing. -/
  | emptiedPrefix
  /-- The prefix of markup itself stands for something else. -/
  | markupPrefix
  /-- The prefix of declarations is declared. -/
  | declarationPrefix
  /-- A prefix stands for a namespace that it may not stand for. -/
  | reservedNamespace
  /-- A namespace has a character that it may not have. -/
  | badNamespace
  deriving DecidableEq, Repr

/-- What is said of a flaw. -/
def Flaw.message : Flaw → String
  | misplaced | badNamespace => "syntax error"
  | noElement => "no element found"
  | badToken => "not well-formed (invalid token)"
  | unclosedToken => "unclosed token"
  | unclosedSection => "unclosed CDATA section"
  | mismatchedTag => "mismatched tag"
  | duplicateAttribute => "duplicate attribute"
  | trailing => "junk after document element"
  | parameterReference => "illegal parameter entity reference"
  | undefinedEntity => "undefined entity"
  | unknownEntity name => "undefined entity &" ++ name ++ ";"
  | distantEntity => "entity declared in parameter entity"
  | recursiveEntity => "recursive entity reference"
  | brokenEntity => "asynchronous entity"
  | binaryEntity => "reference to binary entity"
  | distantInValue => "reference to external entity in attribute"
  | amplified => "limit on input amplification factor (from DTD and entities) breached"
  | badCharacter => "reference to invalid character number"
  | lateDeclaration => "XML or text declaration not at start of entity"
  | badDeclaration => "XML declaration not well-formed"
  | publicIdentifier => "illegal character(s) in public id"
  | unboundPrefix => "unbound prefix"
  | emptiedPrefix => "must not undeclare prefix"
  | markupPrefix => "reserved prefix (xml) must not be undeclared or bound to another namespace name"
  | declarationPrefix => "reserved prefix (xmlns) must not be declared or undeclared"
  | reservedNamespace => "prefix must not be bound to one of the reserved namespace names"

/-- A flaw, and the number of characters from its place to the end of the text. -/
structure Stop where
  /-- What is wrong. -/
  flaw : Flaw
  /-- The number of characters from there on. -/
  left : Nat
  deriving DecidableEq, Repr

/-- A flaw and its place. -/
structure Fault where
  /-- What is wrong. -/
  flaw : Flaw
  /-- The line. -/
  line : Nat
  /-- The column. -/
  column : Nat
  deriving DecidableEq, Repr

/-- The line and column after some characters. -/
def placeAfter : List Char → (line column : Nat) → Nat × Nat
  | [], line, column => (line, column)
  | '\r' :: '\n' :: cs, line, _ => placeAfter cs (line + 1) 0
  | c :: cs, line, column =>
    if c == '\n' || c == '\r' then placeAfter cs (line + 1) 0 else placeAfter cs line (column + 1)

/-- The fault of a text with a flaw. -/
def Fault.ofStop (text : List Char) (s : Stop) : Fault :=
  let (line, column) := placeAfter (text.take (text.length - s.left)) 1 0
  ⟨s.flaw, line, column⟩

/-- What is said of a fault. -/
def Fault.message (f : Fault) : String :=
  f.flaw.message ++ ": line " ++ toString f.line ++ ", column " ++ toString f.column

end Manuscript.Xml
