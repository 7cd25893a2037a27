import Manuscript.Document.Spacing
import Manuscript.Document.Token
import Manuscript.Inline.Format

/-!
# Composition

Tokens become blocks, from top to bottom. Each token is composed on its own; only the
spacers between blocks and the numbers of ordered lists depend on what came before. A
composition may go on with more tokens later: the numbers of its lists are not used
again, not even those of a call that failed.

* `composeToken`: the blocks of one token;
* `compose`: the blocks of a list of tokens, with the spacers between them.
-/

namespace Manuscript.Document

open Manuscript.Formula Manuscript.Inline Manuscript.Style

/-! ## Looks -/

/-- The measures of a heading. -/
def headingSpacing : Spacing := { before := .int 200, after := .int 100 }

/-- The measures of a paragraph. -/
def paragraphSpacing : Spacing := { before := .int 60, after := .int 60, line := lineHeight }

/-- The measures of the first item of a list. -/
def firstItemSpacing : Spacing := { before := .int 80, after := .int 40, line := lineHeight }

/-- The measures of the other items of a list. -/
def itemSpacing : Spacing := { before := .int 40, after := .int 40, line := lineHeight }

/-- How far an item is set in. -/
def itemIndent : Indent := { left := 720, hanging := 360 }

/-- How far a quotation is set in. -/
def quoteIndent : Indent := { left := 720 }

/-- The line beside a quotation. -/
def quoteBorder : Border := { side := "left", color := "AAAAAA", size := 15, space := 15 }

/-- The line of a thematic break. -/
def ruleBorder : Border := { side := "bottom", color := "AAAAAA", size := 1, space := 1 }

/-- The measures of a thematic break. -/
def ruleSpacing : Spacing := { before := .int 120, after := .int 120 }

/-- The colour behind code. -/
def codeShading : String := "F5F5F5"

/-- A line of a table. -/
def tableBorder (side color : String) (size : Int) : Border := { side, color, size }

/-- The lines around and between the cells of a table. -/
def tableBorders : List Border :=
  [tableBorder "top" "000000" 10, tableBorder "bottom" "000000" 10,
   tableBorder "left" "000000" 10, tableBorder "right" "000000" 10,
   tableBorder "insideH" "666666" 6, tableBorder "insideV" "666666" 6]

/-- The margins of a table. -/
def tableMargins : List Int := [200, 200, 0, 0]

/-- The looks of the cells in a row. -/
structure CellLooks where
  /-- The margins at the top, at the bottom, on the left and on the right. -/
  margins : List Int
  /-- The space around the lines. -/
  spacing : Spacing

/-- The looks of the cells in the head of a table. -/
def headerLooks : CellLooks :=
  ⟨[150, 150, 150, 150], { before := .int 120, after := .int 120 }⟩

/-- The looks of the other cells. -/
def dataLooks : CellLooks :=
  ⟨[120, 120, 150, 150], { before := .int 100, after := .int 100 }⟩

/-! ## Composing -/

/-- Why tokens have no blocks. -/
inductive Fault where
  /-- A table has no cell in its head. -/
  | headless
  /-- A token is of no kind. -/
  | unknownToken
  /-- A formula could be neither converted nor rejected. -/
  | formula (fault : Formula.Fault)
  deriving DecidableEq, Repr, Inhabited

/-- A composition under way. -/
structure Composition (σ : Type) where
  /-- The number of ordered lists so far. -/
  lists : Nat := 0
  /-- The state of the bridge. -/
  bridge : σ

variable {σ : Type}

/-- An activity of the bridge within a composition. -/
def onBridge {α : Type} (w : Work σ Formula.Fault α) : Work (Composition σ) Fault α := fun t =>
  let o := w t.bridge
  ⟨o.result.mapError .formula, o.notices, { t with bridge := o.state }⟩

theorem onBridge_ok {α : Type} {w : Work σ Formula.Fault α} {t : Composition σ} {a : α}
    {said : List Log.Notice} {s : σ} (h : w t.bridge = ⟨.ok a, said, s⟩) :
    onBridge w t = ⟨.ok a, said, { t with bridge := s }⟩ := by
  simp only [onBridge, h]
  rfl

/-- Takes the number of the next ordered list; other lists have the number zero. -/
def nextList (ordered : Bool) : Work (Composition σ) Fault Int := do
  if ordered then
    let t ← Work.state
    Work.put { t with lists := t.lists + 1 }
    return t.lists + 1
  else return 0

/-- A list cut or filled to a length. -/
def fitTo {α : Type} (size : Nat) (filler : α) (xs : List α) : List α :=
  (xs ++ List.replicate size filler).take size

@[simp] theorem length_fitTo {α : Type} (size : Nat) (filler : α) (xs : List α) :
    (fitTo size filler xs).length = size := by
  simp [fitTo]

theorem fitTo_eq {α : Type} (size : Nat) (filler : α) (xs : List α) :
    fitTo size filler xs = xs.take size ++ List.replicate (size - xs.length) filler := by
  rw [fitTo, List.take_append, List.take_replicate, Nat.min_eq_left (Nat.sub_le _ _)]

/-- The depth of a heading, brought into range. -/
def clampDepth (depth : Int) : Int := min 6 (max 1 depth)

section

variable (bridge : Bridge σ) (config : Config)

/-- The runs of a text. -/
def runsOf (text : String) : Work (Composition σ) Fault (List Run) :=
  onBridge (format bridge config text)

/-- The block of a heading. -/
def headingBlock (depth : Int) (text : String) : Work (Composition σ) Fault Block := do
  let level := clampDepth depth
  if level != depth then Work.tell (.clamped depth level)
  return .heading level text headingSpacing

/-- The blocks of the items of a list. -/
def itemBlocks (ordered : Bool) (list start : Int) :
    (spacing : Spacing) → List String → Work (Composition σ) Fault (List Block)
  | _, [] => return []
  | spacing, item :: rest => do
    let runs ← runsOf bridge config item
    let blocks ← itemBlocks ordered list start itemSpacing rest
    return .listItem runs ordered 0 list start spacing (some itemIndent) :: blocks

/-- The blocks of a list. -/
def listBlocks (ordered : Bool) (items : List String) (start : Int) :
    Work (Composition σ) Fault (List Block) := do
  let list ← nextList ordered
  itemBlocks bridge config ordered list start firstItemSpacing items

/-- The blocks of a quotation: one for each of its own paragraphs. -/
def quoteBlocks : List Token → Work (Composition σ) Fault (List Block)
  | [] => return []
  | .paragraph text :: rest => do
    let runs ← runsOf bridge config text
    let blocks ← quoteBlocks rest
    return .paragraph runs paragraphSpacing (some quoteIndent) (some quoteBorder) :: blocks
  | token :: rest => do
    Work.tell (.leftOutOfQuote token.kind)
    quoteBlocks rest

/-- The block of code. -/
def codeBlock (text : String) (language : Option String) : Block :=
  .code text config.code.font config.code.size config.code.spacing (some codeShading) language

/-- The cells of a row, each with its alignment. -/
def cellsOf (width : Int) (looks : CellLooks) (texts : List (String × Option String)) :
    Work (Composition σ) Fault (List Cell) :=
  Work.forEach
    (fun (text, align) => do
      let runs ← runsOf bridge config text
      return { runs, width, margins := looks.margins, spacing := looks.spacing, align })
    texts

/-- The rows of a table after its head; `number` is that of the first of them. -/
def dataRows (columns : Nat) (width : Int) (align : List (Option String)) :
    (number : Nat) → List (List String) → Work (Composition σ) Fault (List Row)
  | _, [] => return []
  | number, row :: rest => do
    if row.length != columns then Work.tell (.ragged number row.length columns)
    let cells ← cellsOf bridge config width dataLooks ((fitTo columns "" row).zip align)
    let rows ← dataRows columns width align (number + 1) rest
    return { cells, minHeight := some 400 } :: rows

/-- The block of a table. -/
def tableBlock (header : List String) (rows : List (List String)) (align : List (Option String)) :
    Work (Composition σ) Fault Block := do
  let columns := header.length
  if columns = 0 then Work.fail .headless
  else
    let width : Int := (100 / columns : Nat)
    let align := fitTo columns none align
    let head ← cellsOf bridge config width headerLooks (header.zip align)
    let rows ← dataRows bridge config columns width align 1 rows
    return .table ({ cells := head, header := true, minHeight := some 600 } :: rows) columns width
      tableBorders tableMargins

/-- The blocks of a token. -/
def composeToken : Token → Work (Composition σ) Fault (List Block)
  | .heading depth text => return [← headingBlock depth text]
  | .paragraph text =>
    return [.paragraph (← runsOf bridge config text) paragraphSpacing none none]
  | .list ordered items start => listBlocks bridge config ordered items start
  | .blockquote tokens => quoteBlocks bridge config tokens
  | .code text language => return [codeBlock config text language]
  | .rule => return [.rule ruleBorder ruleSpacing]
  | .table header rows align => return [← tableBlock bridge config header rows align]
  | .space _ => return []
  | .other type _ => do
    Work.tell (.unhandled type)
    return []
  | .unknown => Work.fail .unknownToken

/-- The blocks of tokens, after the kinds that a coordinator has seen. -/
def composeFrom (c : Coordinator) : List Token → Work (Composition σ) Fault (List Block)
  | [] => return []
  | token :: rest => do
    Work.tell (.composing token.kind)
    let (spacer, seen) := c.observe token.kind.name
    let blocks ← composeToken bridge config token
    let more ← composeFrom seen rest
    return (spacer.map Block.spacer).toList ++ blocks ++ more

/-- The blocks of tokens. -/
def compose (tokens : List Token) : Work (Composition σ) Fault (List Block) :=
  composeFrom bridge config {} tokens

end

end Manuscript.Document
