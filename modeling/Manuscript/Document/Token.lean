import Manuscript.Document.Kind

/-!
# Tokens

The units that a text is composed in: its blocks from top to bottom, with lists
flattened into their items and blank lines between blocks as units of their own.
-/

namespace Manuscript.Document

/-- A unit of a text. -/
inductive Token where
  /-- A heading; its depth should be from 1 to 6. -/
  | heading (depth : Int) (text : String)
  /-- A paragraph. -/
  | paragraph (text : String)
  /-- A list, with the items of the lists inside it among its own. -/
  | list (ordered : Bool) (items : List String) (start : Int)
  /-- A block quote. -/
  | blockquote (tokens : List Token)
  /-- Code, and the language it is marked with. -/
  | code (text : String) (language : Option String)
  /-- A thematic break. -/
  | rule
  /-- A table; rows may have any number of cells. -/
  | table (header : List String) (rows : List (List String)) (align : List (Option String))
  /-- Blank lines between blocks. -/
  | space (lines : Int)
  /-- What has no place in a document. -/
  | other (type raw : String)
  /-- A unit of no kind that composing knows. -/
  | unknown
  deriving Inhabited

/-- The kind of a unit. -/
def Token.kind : Token → Kind
  | heading _ _ => .heading
  | paragraph _ => .paragraph
  | list _ _ _ => .list
  | blockquote _ => .blockquote
  | code _ _ => .code
  | rule => .rule
  | table _ _ _ => .table
  | space _ => .space
  | other _ _ | unknown => .other

/-- Blank lines are no block. -/
def Token.isSpace : Token → Bool
  | space _ => true
  | _ => false

end Manuscript.Document
