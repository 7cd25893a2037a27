import Manuscript.Document.Token
import Manuscript.Log
import Manuscript.Markdown.Event
import Manuscript.Text.Blank

/-!
# Reading events

How a stream of events makes tokens, one per block. A list becomes one token: the
items of lists inside it stand among its own, each after the item it is in. The text
of an item is what its paragraphs and its code hold, also inside block quotes, one
under the other; other parts of an item are left out, with a notice. Between two
blocks stands a token for the blank lines above the second, where there are source
lines to count.

A reader starts at a place in the stream and tells the place it has come to
(`Passage`). It has no answer if it needs an event beyond the end of the stream.

* `Reading.items`, `Reading.tableFrom`: the items of a list and the cells of a table;
* `Reading.blocks`: the tokens of the blocks from a place on.
-/

namespace Manuscript.Markdown

open Manuscript.Document Manuscript.Log Manuscript.Text

namespace Reading

/-- What is read of a stream. -/
structure Passage (α : Type) where
  /-- What it says. -/
  value : α
  /-- The notices on the way. -/
  said : List Notice
  /-- The place of the event after it. -/
  next : Nat

/-! ## Blank lines -/

/-- The number of blank lines right above a line. -/
def blankAbove (lines : List (List Char)) (line : Nat) : Nat :=
  ((lines.take line).reverse.takeWhile allBlank).length

/-- Blank lines after a heading or a thematic break belong to it. -/
def takesBlanks : Kind → Bool
  | .heading | .rule => true
  | _ => false

/-- The token for so many blank lines. -/
def spaceOf (count : Nat) : List Token := if count = 0 then [] else [.space count]

/-- The token for the blank lines above a block, given the source lines, the kind of the
    block before it and the line it starts on, as far as there are any. -/
def spaceBefore (lines : Option (List (List Char))) (before : Option Kind) (line : Option Nat) :
    List Token :=
  match lines, before, line with
  | some lines, some kind, some line =>
    if takesBlanks kind then [] else spaceOf (blankAbove lines line)
  | _, _, _ => []

/-! ## Tables -/

/-- The side that some characters start with. -/
def sideAt? (cs : List Char) : Option String :=
  ["left", "center", "right"].find? fun side => side.toList.isPrefixOf cs

/-- The side that a style sets the text of a cell to: the first that it gives. -/
def sideIn? : List Char → Option String
  | [] => none
  | c :: cs =>
    ((("text-align:".toList.isPrefixOf? (c :: cs)).map trimStart).bind sideAt?).or (sideIn? cs)

/-- The alignment of a cell with some style. -/
def alignOf (style : Option String) : Option String := style.bind fun s => sideIn? s.toList

variable (events : Array Event)

/-- The text of the event at a place. -/
def contentAt (i : Nat) : Option String := events[i]?.map Event.content

/-- Reads the cells of the head of a table up to its end, each with its alignment. -/
def headCells : (fuel i : Nat) → Option (List (String × Option String) × Nat)
  | 0, _ => none
  | fuel + 1, i =>
    match events[i]? with
    | none => none
    | some (.leave .head) => some ([], i + 1)
    | some (.enter .headerCell _ _ _ style) => do
      let text ← contentAt events (i + 1)
      let (cells, last) ← headCells fuel (i + 3)
      some ((trimmed text, alignOf style) :: cells, last)
    | some _ => headCells fuel (i + 1)

/-- Reads the cells of a row up to its end. -/
def rowCells : (fuel i : Nat) → Option (List String × Nat)
  | 0, _ => none
  | fuel + 1, i =>
    match events[i]? with
    | none => none
    | some (.leave .row) => some ([], i + 1)
    | some (.enter .cell _ _ _ _) | some (.enter .headerCell _ _ _ _) => do
      let text ← contentAt events (i + 1)
      let (cells, last) ← rowCells fuel (i + 3)
      some (trimmed text :: cells, last)
    | some _ => rowCells fuel (i + 1)

/-- Reads the rows of the body of a table up to its end. -/
def bodyRows : (fuel i : Nat) → Option (List (List String) × Nat)
  | 0, _ => none
  | fuel + 1, i =>
    match events[i]? with
    | none => none
    | some (.leave .body) => some ([], i + 1)
    | some (.enter .row _ _ _ _) => do
      let (row, next) ← rowCells events fuel (i + 1)
      let (rows, last) ← bodyRows fuel next
      some (row :: rows, last)
    | some _ => bodyRows fuel (i + 1)

/-- The cells of a table. -/
structure Grid where
  /-- The cells of the head, each with its alignment. -/
  header : List (String × Option String) := []
  /-- The rows of the body. -/
  rows : List (List String) := []

/-- The token of a table. -/
def Grid.token (g : Grid) : Token := .table (g.header.map (·.1)) g.rows (g.header.map (·.2))

/-- Reads the cells of a table up to its end. -/
def tableFrom : (fuel i : Nat) → Option (Grid × Nat)
  | 0, _ => none
  | fuel + 1, i =>
    match events[i]? with
    | none | some (.leave .table) => some ({}, i + 1)
    | some (.enter .head _ _ _ _) => do
      let (cells, next) ← headCells events fuel (i + 1)
      let (grid, last) ← tableFrom fuel next
      some ({ grid with header := cells ++ grid.header }, last)
    | some (.enter .body _ _ _ _) => do
      let (rows, next) ← bodyRows events fuel (i + 1)
      let (grid, last) ← tableFrom fuel next
      some ({ grid with rows := rows ++ grid.rows }, last)
    | some _ => tableFrom fuel (i + 1)

/-! ## Lists -/

/-- The place after the event that closes the part of which `depth` are open. -/
def pastClose : (fuel i : Nat) → (depth : Int) → Nat
  | 0, i, _ => i
  | fuel + 1, i, depth =>
    match events[i]? with
    | none => i
    | some e => if depth + e.nesting = 0 then i + 1 else pastClose fuel (i + 1) (depth + e.nesting)

/-- What an item holds: the pieces of its own text, and the items of the lists inside
    it. -/
structure Item where
  /-- The pieces of text, from top to bottom. -/
  pieces : List String := []
  /-- The items of the lists inside. -/
  inner : List String := []

/-- The texts of an item and of the items inside it. -/
def Item.texts (i : Item) : List String := "\n".intercalate i.pieces :: i.inner

/-- An item with more after it. -/
def Item.append (a b : Item) : Item := ⟨a.pieces ++ b.pieces, a.inner ++ b.inner⟩

instance : Append Item := ⟨Item.append⟩

/-- What is read of an item after a part of it. -/
def Passage.after (part : Item) (said : List Notice) (p : Passage Item) : Passage Item :=
  ⟨part ++ p.value, said ++ p.said, p.next⟩

mutual

/-- Reads the items of a list up to its end; `list` is the kind of list. -/
def items (list : Part) : (fuel i : Nat) → Option (Passage (List String))
  | 0, _ => none
  | fuel + 1, i =>
    match events[i]? with
    | none => some ⟨[], [], i + 1⟩
    | some (.enter .item _ _ _ _) => do
      let item ← itemFrom fuel (i + 1)
      let others ← items list fuel item.next
      some ⟨item.value.texts ++ others.value, item.said ++ others.said, others.next⟩
    | some e => if e = .leave list then some ⟨[], [], i + 1⟩ else items list fuel (i + 1)

/-- Reads what an item holds up to its end. -/
def itemFrom : (fuel i : Nat) → Option (Passage Item)
  | 0, _ => none
  | fuel + 1, i =>
    match events[i]? with
    | none | some (.leave .item) => some ⟨{}, [], i + 1⟩
    | some (.enter .paragraph _ _ _ _) => do
      let text ← contentAt events (i + 1)
      (itemFrom fuel (i + 3)).map (Passage.after { pieces := [text] } [])
    | some (.enter .bulletList _ _ _ _) => do
      let list ← items .bulletList fuel (i + 1)
      (itemFrom fuel list.next).map (Passage.after { inner := list.value } list.said)
    | some (.enter .orderedList _ _ _ _) => do
      let list ← items .orderedList fuel (i + 1)
      (itemFrom fuel list.next).map (Passage.after { inner := list.value } list.said)
    | some (.fence _ _ text) | some (.indented _ text) =>
      (itemFrom fuel (i + 1)).map (Passage.after { pieces := [chomped text] } [.codeInItem])
    | some (.enter .quote _ _ _ _) =>
      -- The paragraphs inside are read as those of the item.
      (itemFrom fuel (i + 1)).map (Passage.after {} [.quoteInItem])
    | some (.enter part line depth start style) =>
      let e := Event.enter part line depth start style
      (itemFrom fuel (pastClose events fuel i 0)).map (Passage.after {} [.leftOutOfItem e.name])
    | some (.leave _) => itemFrom fuel (i + 1)
    | some e => (itemFrom fuel (i + 1)).map (Passage.after {} [.leftOutOfItem e.name])

end

/-! ## Blocks -/

/-- The language that code is marked with. -/
def language (info : String) : Option String :=
  let info := trimmed info
  if info.isEmpty then none else some info

/-- The number that an ordered list starts with. -/
def firstNumber : Option Nat → Int
  | none | some 0 => 1
  | some n => n

/-- Reads the block that an event at a place begins, if it begins one; `quoted` reads
    the blocks of a quotation. -/
def blockAt (quoted : Nat → Option (Passage (List Token))) (fuel i : Nat) :
    Event → Option (Passage (Option Token))
  | .frontMatter _ | .leave _ => some ⟨none, [], i + 1⟩
  | .enter .heading _ depth _ _ =>
    (contentAt events (i + 1)).map fun text => ⟨some (.heading depth (trimmed text)), [], i + 3⟩
  | .enter .paragraph _ _ _ _ =>
    (contentAt events (i + 1)).map fun text => ⟨some (.paragraph text), [], i + 3⟩
  | .enter .bulletList _ _ _ _ =>
    (items events .bulletList fuel (i + 1)).map fun p =>
      ⟨some (.list false p.value 1), p.said, p.next⟩
  | .enter .orderedList _ _ start _ =>
    (items events .orderedList fuel (i + 1)).map fun p =>
      ⟨some (.list true p.value (firstNumber start)), p.said, p.next⟩
  | .enter .quote _ _ _ _ =>
    (quoted (i + 1)).map fun p => ⟨some (.blockquote p.value), p.said, p.next + 1⟩
  | .enter .table _ _ _ _ =>
    (tableFrom events fuel (i + 1)).map fun (grid, next) => ⟨some grid.token, [], next⟩
  | .fence _ info text => some ⟨some (.code (chomped text) (language info)), [], i + 1⟩
  | .indented _ text => some ⟨some (.code (chomped text) none), [], i + 1⟩
  | .rule _ => some ⟨some .rule, [], i + 1⟩
  | e => some ⟨some (.other e.name e.content), [], i + 1⟩

/-- The kind of the last block with a line, after an event and what it begins. -/
def kindAfter (before : Option Kind) (e : Event) (token : Option Token) : Option Kind :=
  match e.line?, token with
  | some _, some t => some t.kind
  | _, _ => before

/-- Reads blocks up to the end of the stream, or to the end of the part `stop` that they
    are in. If there are source lines, tokens for blank lines stand between the blocks;
    `before` is the kind of the block before them. -/
def blocks : (fuel : Nat) → (stop : Option Part) → (lines : Option (List (List Char))) →
    (i : Nat) → (before : Option Kind) → Option (Passage (List Token))
  | 0, _, _, _, _ => none
  | fuel + 1, stop, lines, i, before =>
    match events[i]? with
    | none => some ⟨[], [], i⟩
    | some e =>
      if stop.map Event.leave = some e then some ⟨[], [], i⟩
      else do
        let block ← blockAt events (fun j => blocks fuel (some .quote) none j none) fuel i e
        let more ← blocks fuel stop lines block.next (kindAfter before e block.value)
        let here := match block.value with
          | none => []
          | some token => spaceBefore lines before e.line? ++ [token]
        some ⟨here ++ more.value, block.said ++ more.said, more.next⟩

/-- Reads the blocks of a stream from its start to its end. -/
def stream (lines : Option (List (List Char))) : Option (Passage (List Token)) :=
  blocks events (events.size + 1) none lines 0 none

end Reading

end Manuscript.Markdown
