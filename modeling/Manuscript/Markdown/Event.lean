import Manuscript.Markdown.Block

/-!
# Events

A forest of blocks as a stream: each block opens, shows its content and closes, and
the events of the blocks inside it stand between. A paragraph or a heading holds one
inline text; a table holds a head and, if it has rows, a body; these hold rows, and
rows hold cells of one inline text each.
-/

namespace Manuscript.Markdown

/-- What encloses other events. -/
inductive Part where
  | heading
  | paragraph
  | bulletList
  | orderedList
  | item
  | quote
  | table
  | head
  | body
  | row
  | headerCell
  | cell
  deriving DecidableEq, Repr

/-- The name of a part in listings. -/
def Part.name : Part → String
  | heading => "heading"
  | paragraph => "paragraph"
  | bulletList => "bullet_list"
  | orderedList => "ordered_list"
  | item => "list_item"
  | quote => "blockquote"
  | table => "table"
  | head => "thead"
  | body => "tbody"
  | row => "tr"
  | headerCell => "th"
  | cell => "td"

/-- A step of the stream. Blocks give the line they start on. -/
inductive Event where
  /-- A part opens. Headings have a depth, ordered lists a first number unless it is
      one, and cells that are aligned a style. -/
  | enter (part : Part) (line depth : Nat) (start : Option Nat) (style : Option String)
  /-- A part closes. -/
  | leave (part : Part)
  /-- Inline text. -/
  | inline (text : String)
  /-- Code between fences. -/
  | fence (line : Nat) (info text : String)
  /-- Code by indentation. -/
  | indented (line : Nat) (text : String)
  /-- A thematic break. -/
  | rule (line : Nat)
  /-- Markup of another language. -/
  | html (line : Nat) (raw : String)
  /-- Data before the text. -/
  | frontMatter (text : String)
  deriving DecidableEq, Repr

namespace Event

/-- The name of an event in listings. -/
def name : Event → String
  | enter part _ _ _ _ => part.name ++ "_open"
  | leave part => part.name ++ "_close"
  | inline _ => "inline"
  | fence _ _ _ => "fence"
  | indented _ _ => "code_block"
  | rule _ => "hr"
  | html _ _ => "html_block"
  | frontMatter _ => "front_matter"

/-- The text that an event carries. -/
def content : Event → String
  | inline text | fence _ _ text | indented _ text | html _ text | frontMatter text => text
  | enter _ _ _ _ _ | leave _ | rule _ => ""

/-- The line that an event gives. -/
def line? : Event → Option Nat
  | enter _ line _ _ _ | fence line _ _ | indented line _ | rule line | html line _ => some line
  | leave _ | inline _ | frontMatter _ => none

/-- How many parts are open after an event, over those before it. -/
def nesting : Event → Int
  | enter _ _ _ _ _ => 1
  | leave _ => -1
  | _ => 0

/-- The style that aligns a cell. -/
def alignStyle (a : Alignment) : String := "text-align:" ++ a.name

/-- A part opens on a line, with nothing more to say. -/
def opens (part : Part) (line : Nat) : Event := enter part line 0 none none

/-- The events of a part that holds one text. -/
def around (opening : Event) (part : Part) (text : String) : List Event :=
  [opening, inline text, leave part]

/-- The events of a cell. -/
def ofCell (part : Part) (line : Nat) (text : String) (align : Option Alignment) : List Event :=
  around (enter part line 0 none (align.map alignStyle)) part text

/-- The events of the cells in a row of the body; those beyond the last column are not
    aligned. -/
def ofCells (line : Nat) : (aligns : List (Option Alignment)) → List String → List Event
  | _, [] => []
  | aligns, text :: rest =>
    ofCell .cell line text aligns.head?.join ++ ofCells line aligns.tail rest

/-- The events of the rows of a table. -/
def ofRows (line : Nat) (aligns : List (Option Alignment)) : List (List String) → List Event
  | [] => []
  | cells :: rest =>
    opens .row line :: ofCells line aligns cells ++ leave .row :: ofRows line aligns rest

/-- The events of a table. -/
def ofTable (line : Nat) (header : List (String × Option Alignment)) (rows : List (List String)) :
    List Event :=
  opens .table line :: opens .head line :: opens .row line
    :: header.flatMap (fun (text, align) => ofCell .headerCell line text align)
    ++ leave .row :: leave .head
    :: (if rows.isEmpty then []
        else opens .body line :: ofRows line (header.map (·.2)) rows ++ [leave .body])
    ++ [leave .table]

mutual

/-- The events of a block. -/
def ofBlock : Block → List Event
  | .heading line depth text =>
    around (enter .heading line depth none none) .heading text
  | .paragraph line text => around (opens .paragraph line) .paragraph text
  | .list line none items => opens .bulletList line :: ofItems line items ++ [leave .bulletList]
  | .list line (some n) items =>
    enter .orderedList line 0 (if n = 1 then none else some n) none
      :: ofItems line items ++ [leave .orderedList]
  | .quote line body => opens .quote line :: ofBlocks body ++ [leave .quote]
  | .fence line info text => [fence line info text]
  | .indented line text => [indented line text]
  | .rule line => [rule line]
  | .table line header rows => ofTable line header rows
  | .html line raw => [html line raw]
  | .frontMatter _ text => [frontMatter text]

/-- The events of blocks, one after the other. -/
def ofBlocks : List Block → List Event
  | [] => []
  | b :: rest => ofBlock b ++ ofBlocks rest

/-- The events of the items of a list. -/
def ofItems (line : Nat) : List (List Block) → List Event
  | [] => []
  | body :: rest => opens .item line :: ofBlocks body ++ leave .item :: ofItems line rest

end

end Event

end Manuscript.Markdown
