import Manuscript.Markdown.Block
import Manuscript.Markdown.Html
import Manuscript.Markdown.Opening
import Manuscript.Markdown.Reference
import Manuscript.Markdown.Table

/-!
# Block structure

How the lines of a text make a forest of blocks. A `Region` is what a container
leaves of the lines: their indentation, and where its blocks stand. The blocks of a
region are read one after the other; at each line the first kind of block that can
start there does. A list item or a block quote is read as a region of its own.

* `Region.blocks`: the blocks of a region, and the line after them;
* `Region.interrupts`: the starts of blocks that end a paragraph or its likes without
  an empty line;
* `Block.ofText`: the blocks of a text.

Containers nest at most `maxLevel` deep; further content is left out.
-/

namespace Manuscript.Markdown

open Manuscript.Text

/-- The lines of a text inside a container. -/
structure Region where
  /-- All lines, those of the container without what it takes off. -/
  lines : Array Line
  /-- The line that no paragraph goes beyond. -/
  limit : Nat
  /-- The column at which blocks stand. -/
  indent : Nat
  /-- The column of the list around the region, if there is one. -/
  listIndent : Option Nat
  /-- How deep the region lies. -/
  level : Nat
  /-- Whether the text starts with a hyphen, as one with front matter does. -/
  hyphenFirst : Bool

/-- The depth at which content is left out. -/
def maxLevel : Nat := 20

/-- What another block may interrupt. -/
inductive Interrupted where
  | paragraph
  | reference
  | quote
  | list
  deriving DecidableEq, Repr

namespace Region

/-- The line with a number; beyond the text it is empty. -/
def line (r : Region) (i : Nat) : Line := r.lines.getD i Line.nowhere

/-- Whether the line is indented as code. -/
def isCode (r : Region) (i : Nat) : Bool := (r.line i).isCode r.indent

/-- Whether the line is empty. -/
def isEmpty (r : Region) (i : Nat) : Bool := (r.line i).isEmpty

/-- Whether the line stands to the left of the region. -/
def isOutdented (r : Region) (i : Nat) : Bool := (r.line i).width < r.indent

/-- The text of the lines from `first` up to `last`, without `indent` columns of
    indentation, and without the end of the last line. -/
def text (r : Region) (indent first last : Nat) : List Char :=
  let cut (i : Nat) : List Char := (r.line i).cut indent
  ['\n'].intercalate ((List.range' first (last - first)).map cut)

/-- The same text with the end of the last line, if it has one. -/
def fullText (r : Region) (indent first last : Nat) : List Char :=
  r.text indent first last ++
    if first < last && (r.line (last - 1)).ended then ['\n'] else []

/-- The first line from `i` on that is not empty, of those before the limit. -/
def skipEmpty (r : Region) : (fuel i : Nat) → Nat
  | 0, i => i
  | fuel + 1, i => if i < r.limit && r.isEmpty i then skipEmpty r fuel (i + 1) else i

/-! ## Starts of blocks -/

/-- The header of a table that starts on a line, of those before `stop`. -/
def tableAt? (r : Region) (i stop : Nat) : Option (List (String × Option Alignment)) :=
  if i + 2 > stop || r.isOutdented (i + 1) || r.isCode (i + 1) || r.isCode i then none
  else tableHeader? (r.line i).ink (r.line (i + 1)).ink

/-- The marker of a list that starts on a line. A line inside a list but to the left
    of its items, and far to the right of the list's own column, starts none. -/
def listAt? (r : Region) (i : Nat) : Option Marker :=
  let width := (r.line i).width
  if r.isCode i || (r.listIndent.any fun column => width - column ≥ 4 && width < r.indent) then none
  else marker? (r.line i).ink

/-- Whether a list that starts on a line may end a paragraph: it starts with an item
    that is not empty, and with the number one if it is ordered. -/
def listInterrupts (r : Region) (m : Marker) (i : Nat) : Bool :=
  r.isOutdented i || (m.number.all (· == 1)
    && !((r.line i).ink.drop m.length).all isSpace)

/-- Whether a block starts on a line that ends what stands before it. -/
def interrupts (r : Region) (what : Interrupted) (i stop : Nat) : Bool :=
  let l := r.line i
  let plain := !r.isCode i
  let inText := what == .paragraph || what == .reference
  (inText && (r.tableAt? i stop).isSome)
    || (plain && ((fence? l.ink).isSome || l.ink.head? == some '>' || isRule l.ink))
    || (what != .list && (r.listAt? i).any fun m => what != .paragraph || r.listInterrupts m i)
    || (what != .list && plain &&
      ((HtmlStart.ofInk? l.ink).any HtmlStart.interrupts || (heading? l.ink).isSome))

/-! ## Blocks without blocks inside -/

/-- The line after the paragraph whose lines so far end before `i`. -/
def paragraphEnd (r : Region) : (fuel i : Nat) → Nat
  | 0, i => i
  | fuel + 1, i =>
    if i ≥ r.limit || r.isEmpty i then i
    else if r.isCode i || (r.line i).width < 0 then paragraphEnd r fuel (i + 1)
    else if r.interrupts .paragraph i r.limit then i
    else paragraphEnd r fuel (i + 1)

/-- The line that underlines a heading, and the heading's depth, if the lines from `i`
    on are a paragraph that ends with such a line. -/
def underlineFrom (r : Region) (stop : Nat) : (fuel i : Nat) → Option (Nat × Nat)
  | 0, _ => none
  | fuel + 1, i =>
    if i ≥ stop || r.isEmpty i then none
    else if r.isCode i then underlineFrom r stop fuel (i + 1)
    else
      match if r.isOutdented i then none else underline? (r.line i).ink with
      | some depth => some (i, depth)
      | none =>
        if (r.line i).width < 0 then underlineFrom r stop fuel (i + 1)
        else if r.interrupts .paragraph i stop then none
        else underlineFrom r stop fuel (i + 1)

/-- The lines that a definition may take after its first one, from `i` on. -/
def definitionLines (r : Region) : (fuel i : Nat) → List (List Char)
  | 0, _ => []
  | fuel + 1, i =>
    let l := r.line i
    if i ≥ r.limit || l.isEmpty then []
    else if r.isCode i || l.width < 0 || !r.interrupts .reference i r.limit then
      (l.ink ++ if l.ended then ['\n'] else []) :: definitionLines r fuel (i + 1)
    else []

/-- The line after the code by indentation whose lines so far end before `i`; the last
    line of code so far ends before `last`. -/
def codeEnd (r : Region) (stop : Nat) : (fuel i last : Nat) → Nat
  | 0, _, last => last
  | fuel + 1, i, last =>
    if i ≥ stop then last
    else if r.isEmpty i then codeEnd r stop fuel (i + 1) last
    else if r.isCode i then codeEnd r stop fuel (i + 1) (i + 1)
    else last

/-- The line at which fenced code ends, and whether a fence closes it there. A last
    line without ink that no line feed ends, as a block quote may leave one, is not
    code. -/
def fenceEnd (r : Region) (f : Fence) (stop : Nat) : (fuel i : Nat) → Nat × Bool
  | 0, i => (i, false)
  | fuel + 1, i =>
    if i ≥ stop || (r.isEmpty i && !(r.line i).ended) then (i, false)
    else if !r.isEmpty i && r.isOutdented i then (i, false)
    else if !r.isCode i && f.closedBy (r.line i).ink then (i, true)
    else fenceEnd r f stop fuel (i + 1)

/-- The line after a block of HTML whose lines so far end before `i`. -/
def htmlEnd (r : Region) (s : HtmlStart) (stop : Nat) : (fuel i : Nat) → Nat
  | 0, i => i
  | fuel + 1, i =>
    if i ≥ stop || (r.isOutdented i && !r.isEmpty i) then i
    else if s.endsAt (r.line i).ink then (if r.isEmpty i then i else i + 1)
    else htmlEnd r s stop fuel (i + 1)

/-- The rows of a table from line `i` on, and the line after them. `filled` counts the
    cells added to rows that have too few, less those that rows have too many. -/
def tableRows (r : Region) (columns stop : Nat) :
    (fuel i : Nat) → (filled : Int) → List (List String) × Nat
  | 0, i, _ => ([], i)
  | fuel + 1, i, filled =>
    let ink := (r.line i).ink
    if i ≥ stop || r.isOutdented i || r.interrupts .quote i stop || ink.all isSpacing || r.isCode i then
      ([], i)
    else
      let row := rowCells ink
      let filled := filled + columns - row.length
      if filled > 65536 then ([], i)
      else
        let (rows, last) := tableRows r columns stop fuel (i + 1) filled
        (fitRow columns row :: rows, last)

/-! ## Front matter -/

/-- Whether a line is three points and then only space. -/
def isPoints (l : Line) : Bool :=
  l.chars.take 3 == ['.', '.', '.'] && (l.chars.drop 3).all isSpace

/-- Whether a line is as many hyphens as opened the front matter, or more, not indented as
    code, and then only space. -/
def isClosingRule (r : Region) (length i : Nat) : Bool :=
  let ink := (r.line i).ink
  let hyphens := (ink.takeWhile (· == '-')).length
  !r.isCode i && hyphens ≥ length && (ink.drop hyphens).all isSpace

/-- The line at which front matter that `length` hyphens opened ends, and the line after
    it: points or hyphens end it, and so does the end of the list item that it is in. -/
def frontMatterEnd? (r : Region) (length stop : Nat) : (fuel i : Nat) → Option (Nat × Nat)
  | 0, _ => none
  | fuel + 1, i =>
    if i ≥ stop then none
    else if isPoints (r.line i) then some (i, i + 1)
    else if r.isOutdented i && !r.isEmpty i then some (i, i)
    else if r.isClosingRule length i then some (i, i + 1)
    else frontMatterEnd? r length stop fuel (i + 1)

/-- The front matter that starts on a line, and the line after it: it opens the text
    with three hyphens or more, perhaps in a list, and ends. -/
def frontMatterAt? (r : Region) (i stop : Nat) : Option (Block × Nat) :=
  let hyphens := ((r.line i).ink.takeWhile (· == '-')).length
  if i != 0 || !r.hyphenFirst || hyphens < 3 then none
  else
    (r.frontMatterEnd? hyphens stop stop 1).map fun (last, next) =>
      let data := (List.range' 1 (last - 1)).map fun n => (r.line n).chars
      (.frontMatter 0 (String.ofList (['\n'].intercalate data)), next)

/-! ## Containers -/

/-- The region inside a block quote that starts on a line, and the line after its
    lines. The quote goes on with lines that have its marker, and with lines that
    nothing else starts on, as long as the line before is not empty; those can only
    continue a paragraph. -/
def quoteLines (r : Region) (stop : Nat) :
    (fuel i : Nat) → (lines : Array Line) → (afterEmpty : Bool) → Region × Nat
  | 0, i, lines, _ => ({ r with lines }, i)
  | fuel + 1, i, lines, afterEmpty =>
    let l := r.line i
    if i ≥ stop || l.isEmpty then ({ r with lines }, i)
    else if l.ink.head? == some '>' && !r.isOutdented i then
      let inner := l.unquoted
      quoteLines r stop fuel (i + 1) (lines.setIfInBounds i inner) inner.isEmpty
    else if afterEmpty then ({ r with lines }, i)
    else if { r with lines }.interrupts .quote i stop then ({ r with lines, limit := i }, i)
    else quoteLines r stop fuel (i + 1) (lines.setIfInBounds i l.lazy) afterEmpty

/-- Reads the blocks of a region from one line up to another: the blocks, and the
    line reached. -/
abbrev Reader := Region → Nat → Nat → List Block × Nat

/-- The block quote that starts on a line. -/
def quoteAt (nested : Reader) (r : Region) (i stop : Nat) : Block × Nat :=
  let first := (r.line i).unquoted
  let (inner, last) :=
    quoteLines r stop (stop - i) (i + 1) (r.lines.setIfInBounds i first) first.isEmpty
  let (body, next) := nested { inner with indent := 0, level := r.level + 1 } i last
  (.quote i body, next)

/-- The region of a list item that starts on a line with a marker. Blocks stand where
    the text of the item starts; if that is empty, or indented as code, they stand one
    column after the marker. -/
def itemRegion (r : Region) (m : Marker) (i : Nat) : Region × Bool :=
  let l := r.line i
  let after := l.ink.drop m.length
  let blanks := after.takeWhile isSpace
  let start := l.width.toNat + m.length
  let reached := columnsAfter l.origin start blanks
  let isBare := (after.drop blanks.length).isEmpty
  let gap := if isBare || reached - start > 4 then 1 else reached - start
  let first := { l with shift := l.shift + m.length + blanks.length, width := reached }
  ({ r with
    lines := r.lines.setIfInBounds i first
    listIndent := some r.indent
    indent := start + gap
    level := r.level + 2 }, isBare)

/-- The items of a list from the line with a marker on, and the line after them. An
    item without text on its line that an empty line follows has no blocks. -/
def itemsFrom (nested : Reader) (r : Region) (stop : Nat) :
    (fuel : Nat) → Marker → (i : Nat) → List (List Block) × Nat
  | 0, _, i => ([], i)
  | fuel + 1, m, i =>
    let (inner, isBare) := r.itemRegion m i
    let (body, next) :=
      if isBare && inner.isEmpty (i + 1) then ([], min (i + 2) stop) else nested inner i stop
    let goesOn : Option Marker :=
      if next ≥ stop || r.isOutdented next || r.isCode next || r.interrupts .list next stop then none
      else (marker? (r.line next).ink).filter fun n =>
        n.number.isSome == m.number.isSome && n.sign == m.sign
    match goesOn with
    | some n =>
      let (items, last) := itemsFrom nested r stop fuel n next
      (body :: items, last)
    | none => ([body], next)

/-! ## All blocks -/

/-- The block that starts on a line, and the line after it. Link reference definitions
    take lines but are no blocks. -/
def blockAt (nested : Reader) (r : Region) (i stop : Nat) : Option Block × Nat :=
  let l := r.line i
  let fuel := r.limit + stop - i
  let plain := !r.isCode i
  if let some (data, last) := r.frontMatterAt? i stop then (some data, last)
  else if let some header := r.tableAt? i stop then
    let (rows, last) := r.tableRows header.length stop fuel (i + 2) 0
    (some (.table i header rows), last)
  else if r.isCode i then
    let last := r.codeEnd stop fuel (i + 1) (i + 1)
    (some (.indented i (String.ofList (r.text (r.indent + 4) i last ++ ['\n']))), last)
  else if let some f := fence? l.ink then
    let (last, closed) := r.fenceEnd f stop fuel (i + 1)
    let text := r.fullText l.width.toNat (i + 1) last
    (some (.fence i (String.ofList f.info) (String.ofList text)), if closed then last + 1 else last)
  else if l.ink.head? == some '>' then
    let (b, last) := quoteAt nested r i stop
    (some b, last)
  else if isRule l.ink then (some (.rule i), i + 1)
  else if let some m := r.listAt? i then
    let (items, last) := itemsFrom nested r stop fuel m i
    (some (.list i m.number items), last)
  else if let some taken :=
      definition? (l.ink ++ if l.ended then ['\n'] else []) (r.definitionLines fuel (i + 1)) then
    (none, i + 1 + taken)
  else if let some s := HtmlStart.ofInk? l.ink then
    let last := if s.endsAt l.ink then i + 1 else r.htmlEnd s stop fuel (i + 1)
    (some (.html i (String.ofList (r.fullText r.indent i last))), last)
  else if let some (depth, text) := if plain then heading? l.ink else none then
    (some (.heading i depth (String.ofList text)), i + 1)
  else if let some (last, depth) := r.underlineFrom stop fuel (i + 1) then
    (some (.heading i depth (String.ofList (trimSpacing (r.text r.indent i last)))), last + 1)
  else
    let last := r.paragraphEnd fuel (i + 1)
    (some (.paragraph i (String.ofList (trimSpacing (r.text r.indent i last)))), last)

/-- The blocks of a region from a line on. -/
def blocksFrom (nested : Reader) (r : Region) (stop : Nat) : (fuel i : Nat) → List Block × Nat
  | 0, i => ([], i)
  | fuel + 1, i =>
    if i ≥ stop then ([], i)
    else
      let i := r.skipEmpty (r.limit - i) i
      if i ≥ stop || r.isOutdented i then ([], i)
      else if r.level ≥ maxLevel then ([], stop)
      else
        let (block, next) := blockAt nested r i stop
        let next := if next < stop && r.isEmpty next then next + 1 else next
        let (blocks, last) := blocksFrom nested r stop fuel next
        (block.toList ++ blocks, last)

/-- The blocks of a region, for regions that lie `depth` levels above the deepest. -/
def blocksWithin : (depth : Nat) → Reader
  | 0, _, _, stop => ([], stop)
  | depth + 1, r, i, stop => blocksFrom (blocksWithin depth) r stop (stop - i + 1) i

/-- The blocks of a region from one line up to another, and the line reached. -/
def blocks : Reader := blocksWithin (maxLevel + 1)

end Region

/-- The blocks of some lines. -/
def Block.ofLines (lines : List Line) : List Block :=
  let hyphenFirst := lines.head?.any fun l => l.chars.head? == some '-'
  let r : Region := ⟨lines.toArray, lines.length, 0, none, 0, hyphenFirst⟩
  (r.blocks 0 lines.length).1

/-- The blocks of a text. -/
def Block.ofText (text : List Char) : List Block := Block.ofLines (sourceLines (normalize text))

end Manuscript.Markdown
