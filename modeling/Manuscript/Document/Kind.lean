/-!
# Kinds of token

The kinds that the tokens of a text come in, and their names in listings and log
records.
-/

namespace Manuscript.Document

/-- What a token stands for. -/
inductive Kind where
  | heading
  | paragraph
  | list
  | blockquote
  | code
  | rule
  | table
  | space
  | other
  deriving DecidableEq, Repr

/-- The name of a kind. -/
def Kind.name : Kind → String
  | heading => "heading"
  | paragraph => "paragraph"
  | list => "list"
  | blockquote => "blockquote"
  | code => "code"
  | rule => "hr"
  | table => "table"
  | space => "space"
  | other => "other"

end Manuscript.Document
