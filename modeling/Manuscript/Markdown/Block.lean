/-!
# Blocks

A Markdown text is a forest of blocks: lists and block quotes hold blocks, all others
hold text. Each block knows the source line it starts on.
-/

namespace Manuscript.Markdown

/-- How the cells of a table column are set. -/
inductive Alignment where
  | left
  | center
  | right
  deriving DecidableEq, Repr

/-- The name of an alignment. -/
def Alignment.name : Alignment → String
  | left => "left"
  | center => "center"
  | right => "right"

/-- A block and the line it starts on. -/
inductive Block where
  /-- A heading of depth 1 to 6. -/
  | heading (line depth : Nat) (text : String)
  /-- A paragraph. -/
  | paragraph (line : Nat) (text : String)
  /-- A list: ordered from a number on, or not ordered. Each item holds blocks. -/
  | list (line : Nat) (start : Option Nat) (items : List (List Block))
  /-- A block quote. -/
  | quote (line : Nat) (body : List Block)
  /-- Code between fences; `info` stands after the opening fence. -/
  | fence (line : Nat) (info text : String)
  /-- Code by indentation. -/
  | indented (line : Nat) (text : String)
  /-- A thematic break. -/
  | rule (line : Nat)
  /-- A table; each header cell with the alignment of its column. -/
  | table (line : Nat) (header : List (String × Option Alignment)) (rows : List (List String))
  /-- Markup of another language, as it stands. -/
  | html (line : Nat) (raw : String)
  /-- Data before the text. -/
  | frontMatter (line : Nat) (text : String)
  deriving Inhabited

/-- The line a block starts on. -/
def Block.line : Block → Nat
  | heading l _ _ | paragraph l _ | list l _ _ | quote l _ | fence l _ _ | indented l _
  | rule l | table l _ _ | html l _ | frontMatter l _ => l

end Manuscript.Markdown
