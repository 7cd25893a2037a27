import Manuscript.Proofs.Document.InStep
import Manuscript.Proofs.Markdown.Ordered

/-!
# Characters of blocks

Reading a text makes up no characters but spaces, for the part of a tab that reaches
beyond a marker, line feeds between lines, and the one that stands for characters that
stand for nothing. So any property of characters that these have, and all characters of a
text, holds of all that the blocks of the text show, and of the texts of its tokens.

* `Line.Has`, `Region.Has`: the property of the lines that blocks are read from;
* `Block.Shows`: the property of what a block shows;
* `shows_of_mem_ofText`, `has_of_mem_sources`: whole texts, and their tokens.
-/

namespace Manuscript.Markdown

open Manuscript.Document Manuscript.Text

/-! ## Parts of a text -/

theorem mem_of_mem_dropEndWhile {p : Char → Bool} {cs : List Char} {c : Char}
    (h : c ∈ dropEndWhile p cs) : c ∈ cs :=
  List.mem_reverse.1 (List.dropWhile_subset p (List.mem_reverse.1 h))

theorem mem_of_mem_trim {cs : List Char} {c : Char} (h : c ∈ trim cs) : c ∈ cs :=
  List.dropWhile_subset _ (mem_of_mem_dropEndWhile h)

theorem mem_of_mem_trimSpacing {cs : List Char} {c : Char} (h : c ∈ trimSpacing cs) : c ∈ cs :=
  List.dropWhile_subset _ (mem_of_mem_dropEndWhile h)

/-- What is put together of parts has their characters and those between them. -/
theorem mem_intercalate {sep : List Char} {parts : List (List Char)} {c : Char}
    (h : c ∈ sep.intercalate parts) : c ∈ sep ∨ ∃ part ∈ parts, c ∈ part := by
  induction parts with
  | nil => cases h
  | cons part rest ih =>
    cases rest with
    | nil => exact .inr ⟨part, List.mem_cons_self, by simpa [List.intercalate] using h⟩
    | cons next rest =>
      rw [List.intercalate_cons_cons, List.mem_append, List.mem_append] at h
      rcases h with (h | h) | h
      · exact .inr ⟨part, List.mem_cons_self, h⟩
      · exact .inl h
      · exact (ih h).imp_right fun ⟨part, hpart, hc⟩ => ⟨part, List.mem_cons_of_mem _ hpart, hc⟩

theorem mem_consToCell {d c : Char} {ls : List (List Char)} {l : List Char}
    (hl : l ∈ consToCell d ls) (hc : c ∈ l) : c = d ∨ ∃ l' ∈ ls, c ∈ l' := by
  cases ls with
  | nil =>
    obtain rfl := List.mem_singleton.1 hl
    exact .inl (List.mem_singleton.1 hc)
  | cons first rest =>
    rcases List.mem_cons.1 hl with rfl | hl
    · rcases List.mem_cons.1 hc with rfl | hc
      · exact .inl rfl
      · exact .inr ⟨first, List.mem_cons_self, hc⟩
    · exact .inr ⟨l, List.mem_cons_of_mem _ hl, hc⟩

/-- The cells of a row are parts of it. -/
theorem mem_of_mem_cells {cs : List Char} {cell : List Char} {c : Char} (hcell : cell ∈ cells cs)
    (hc : c ∈ cell) : c ∈ cs := by
  fun_induction cells cs generalizing cell with
  | case1 =>
    obtain rfl := List.mem_singleton.1 hcell
    cases hc
  | case2 cs ih =>
    rcases mem_consToCell hcell hc with rfl | ⟨l, hl, hc⟩
    · exact List.mem_cons_of_mem _ List.mem_cons_self
    · exact List.mem_cons_of_mem _ (List.mem_cons_of_mem _ (ih hl hc))
  | case3 cs h ih =>
    rcases List.mem_cons.1 hcell with rfl | hcell
    · cases hc
    · exact List.mem_cons_of_mem _ (ih hcell hc)
  | case4 d cs h hbar ih =>
    rcases mem_consToCell hcell hc with rfl | ⟨l, hl, hc⟩
    · exact List.mem_cons_self
    · exact List.mem_cons_of_mem _ (ih hl hc)

theorem mem_of_mem_rowCells {ink : List Char} {cell : String} {c : Char}
    (hcell : cell ∈ rowCells ink) (hc : c ∈ cell.toList) : c ∈ ink := by
  obtain ⟨l, hl, rfl⟩ := List.mem_map.1 hcell
  rw [String.toList_ofList] at hc
  -- Neither an empty cell in front nor one at the end is missed.
  have hfront {ls : List (List Char)} :
      l ∈ (if ls.head? == some [] then ls.drop 1 else ls) → l ∈ ls := by
    split
    · exact List.mem_of_mem_drop
    · exact id
  have hback {ls : List (List Char)} :
      l ∈ (if ls.getLast? == some [] then ls.dropLast else ls) → l ∈ ls := by
    split
    · exact fun h => List.dropLast_subset _ h
    · exact id
  exact mem_of_mem_trimSpacing (mem_of_mem_cells (hfront (hback hl)) (mem_of_mem_trimSpacing hc))

/-- What stands after a fence is a part of its line. -/
theorem mem_of_mem_info {ink : List Char} {f : Fence} (hf : fence? ink = some f) {c : Char}
    (hc : c ∈ f.info) : c ∈ ink := by
  cases ink with
  | nil => cases hf
  | cons d ds =>
    simp only [fence?] at hf
    split at hf
    · split at hf
      · cases hf
      · cases hf
        have hrest : c ∈ (d :: ds).dropWhile (· == d) := hc
        exact List.dropWhile_subset _ hrest
    · cases hf

theorem mem_of_mem_unclosed {cs : List Char} {c : Char} (h : c ∈ unclosed cs) : c ∈ cs := by
  unfold unclosed at h
  dsimp only at h
  split at h
  · exact mem_of_mem_dropEndWhile (mem_of_mem_dropEndWhile h)
  · exact mem_of_mem_dropEndWhile h

/-- The text of a heading is a part of its line. -/
theorem mem_of_mem_heading {ink text : List Char} {depth : Nat}
    (hheading : heading? ink = some (depth, text)) {c : Char} (hc : c ∈ text) : c ∈ ink := by
  simp only [heading?] at hheading
  split at hheading
  · cases hheading
  · cases hheading
    exact List.dropWhile_subset (· == '#') (mem_of_mem_unclosed (mem_of_mem_trimSpacing hc))

/-! ## Lines -/

variable {P : Char → Prop}

/-- All characters of a line have a property. -/
def Line.Has (P : Char → Prop) (l : Line) : Prop := ∀ c ∈ l.chars, P c

namespace Line.Has

variable {l : Line}

theorem nowhere : Line.nowhere.Has P := fun _ h => absurd h List.not_mem_nil

theorem ink (h : l.Has P) : ∀ c ∈ l.ink, P c := fun c hc => h c (List.mem_of_mem_drop hc)

theorem cutFrom (hspace : P ' ') {indent : Nat} {cs : List Char} {pos col : Nat}
    (h : ∀ c ∈ cs, P c) : ∀ c ∈ l.cutFrom indent cs pos col, P c := by
  have hpad {n : Nat} {c : Char} (hc : c ∈ List.replicate n ' ') : P c :=
    List.eq_of_mem_replicate hc ▸ hspace
  induction cs generalizing pos col with
  | nil => exact fun c hc => hpad hc
  | cons d cs ih =>
    have hrest {pos col : Nat} : ∀ c ∈ l.cutFrom indent cs pos col, P c :=
      ih fun c hc => h c (List.mem_cons_of_mem _ hc)
    rw [Line.cutFrom]
    split
    · split
      · exact hrest
      · split
        · exact hrest
        · exact h
    -- A tab that reaches beyond the indent leaves spaces.
    · intro c hc
      exact (List.mem_append.1 hc).elim hpad (h c)

theorem cut (hspace : P ' ') (h : l.Has P) (indent : Nat) : ∀ c ∈ l.cut indent, P c :=
  cutFrom hspace h

/-- Without its marker a line of a block quote has the characters after it. -/
theorem unquoted (h : l.Has P) : l.unquoted.Has P := by
  have hafter : ∀ c ∈ l.ink.drop 1, P c := fun c hc => h.ink c (List.mem_of_mem_drop hc)
  have hrest {d : Char} {rest : List Char} (heq : l.ink.drop 1 = d :: rest) : ∀ c ∈ rest, P c :=
    fun c hc => hafter c (heq ▸ List.mem_cons_of_mem d hc)
  unfold Line.unquoted
  dsimp only
  split
  · next heq => exact hrest heq
  · next heq =>
    split
    · exact hrest heq
    · exact hafter
  · exact hafter

theorem lazy (h : l.Has P) : l.lazy.Has P := h

end Line.Has

/-! ## Blocks without blocks inside -/

/-- All that a block shows has a property of characters. -/
inductive Block.Shows (P : Char → Prop) : Block → Prop where
  | heading {line depth : Nat} {text : String} (h : ∀ c ∈ text.toList, P c) :
    Shows P (.heading line depth text)
  | paragraph {line : Nat} {text : String} (h : ∀ c ∈ text.toList, P c) :
    Shows P (.paragraph line text)
  | list {line : Nat} {start : Option Nat} {items : List (List Block)}
      (h : ∀ body ∈ items, ∀ b ∈ body, Shows P b) : Shows P (.list line start items)
  | quote {line : Nat} {body : List Block} (h : ∀ b ∈ body, Shows P b) : Shows P (.quote line body)
  | fence {line : Nat} {info text : String} (hinfo : ∀ c ∈ info.toList, P c)
      (h : ∀ c ∈ text.toList, P c) : Shows P (.fence line info text)
  | indented {line : Nat} {text : String} (h : ∀ c ∈ text.toList, P c) :
    Shows P (.indented line text)
  | rule {line : Nat} : Shows P (.rule line)
  | table {line : Nat} {header : List (String × Option Alignment)} {rows : List (List String)}
      (hheader : ∀ cell ∈ header, ∀ c ∈ cell.1.toList, P c)
      (hrows : ∀ row ∈ rows, ∀ cell ∈ row, ∀ c ∈ cell.toList, P c) :
    Shows P (.table line header rows)
  | html {line : Nat} {raw : String} (h : ∀ c ∈ raw.toList, P c) : Shows P (.html line raw)
  | frontMatter {line : Nat} {text : String} (h : ∀ c ∈ text.toList, P c) :
    Shows P (.frontMatter line text)

theorem forall_mem_ofList {cs : List Char} (h : ∀ c ∈ cs, P c) :
    ∀ c ∈ (String.ofList cs).toList, P c := by
  rwa [String.toList_ofList]

/-- All characters of the lines of a region have a property. -/
def Region.Has (P : Char → Prop) (r : Region) : Prop := ∀ i, (r.line i).Has P

namespace Region.Has

variable {r : Region}

/-- Only the lines of a region matter. -/
theorem of_lines {r' : Region} (h : r.Has P) (hlines : r'.lines = r.lines) : r'.Has P := fun i => by
  rw [line, hlines]
  exact h i

/-- Another line in the place of one. -/
theorem set (h : r.Has P) {l : Line} (hl : l.Has P) (i : Nat) :
    Has P { r with lines := r.lines.setIfInBounds i l } := by
  intro j
  have hj := h j
  simp only [line, Array.getD_eq_getD_getElem?, Array.getElem?_setIfInBounds] at hj ⊢
  split
  · split
    · exact hl
    · exact Line.Has.nowhere
  · exact hj

section

variable (hspace : P ' ') (hbreak : P '\n') (h : r.Has P)

include hspace hbreak h

theorem text (indent first last : Nat) : ∀ c ∈ r.text indent first last, P c := by
  intro c hc
  rcases mem_intercalate hc with hc | ⟨part, hpart, hc⟩
  · exact List.mem_singleton.1 hc ▸ hbreak
  · obtain ⟨i, -, rfl⟩ := List.mem_map.1 hpart
    exact (h i).cut hspace indent c hc

theorem fullText (indent first last : Nat) : ∀ c ∈ r.fullText indent first last, P c := by
  intro c hc
  rcases List.mem_append.1 hc with hc | hc
  · exact h.text hspace hbreak indent first last c hc
  · split at hc
    · exact List.mem_singleton.1 hc ▸ hbreak
    · cases hc

end

/-- The head of a table shows cells of its line. -/
theorem tableAt? (h : r.Has P) {i stop : Nat} {header : List (String × Option Alignment)}
    (hheader : r.tableAt? i stop = some header) :
    ∀ cell ∈ header, ∀ c ∈ cell.1.toList, P c := by
  intro cell hcell c hc
  simp only [Region.tableAt?, tableHeader?] at hheader
  split at hheader
  · cases hheader
  · split at hheader
    · cases hheader
    · split at hheader
      · cases hheader
      · split at hheader
        · cases hheader
        · cases hheader
          exact (h i).ink c (mem_of_mem_rowCells (List.of_mem_zip hcell).1 hc)

theorem tableRows (h : r.Has P) (columns stop fuel i : Nat) (filled : Int) :
    ∀ row ∈ (r.tableRows columns stop fuel i filled).1, ∀ cell ∈ row, ∀ c ∈ cell.toList, P c := by
  induction fuel generalizing i filled with
  | zero => exact fun row hrow => absurd hrow List.not_mem_nil
  | succ fuel ih =>
    rw [Region.tableRows]
    dsimp only
    split
    · exact fun row hrow => absurd hrow List.not_mem_nil
    · split
      · exact fun row hrow => absurd hrow List.not_mem_nil
      · refine List.forall_mem_cons.2 ⟨fun cell hcell c hc => ?_, ih _ _⟩
        -- Cells that a row lacks are put in, without characters.
        rcases List.mem_append.1 (List.mem_of_mem_take hcell) with hmem | hmem
        · exact (h i).ink c (mem_of_mem_rowCells hmem hc)
        · rw [List.eq_of_mem_replicate hmem] at hc
          cases hc

theorem frontMatterAt? (hbreak : P '\n') (h : r.Has P) {i stop last : Nat} {b : Block}
    (hb : r.frontMatterAt? i stop = some (b, last)) : b.Shows P := by
  simp only [Region.frontMatterAt?] at hb
  split at hb
  · cases hb
  · obtain ⟨⟨end', next⟩, -, heq⟩ := Option.map_eq_some_iff.1 hb
    cases heq
    refine .frontMatter (forall_mem_ofList fun c hc => ?_)
    rcases mem_intercalate hc with hc | ⟨part, hpart, hc⟩
    · exact List.mem_singleton.1 hc ▸ hbreak
    · obtain ⟨n, -, rfl⟩ := List.mem_map.1 hpart
      exact h n c hc

/-! ## Containers -/

theorem quoteLines (h : r.Has P) (stop fuel i : Nat) {lines : Array Line}
    (hlines : Has P { r with lines }) (afterEmpty : Bool) :
    (r.quoteLines stop fuel i lines afterEmpty).1.Has P := by
  induction fuel generalizing i lines afterEmpty with
  | zero => exact hlines
  | succ fuel ih =>
    rw [Region.quoteLines]
    dsimp only
    split
    · exact hlines
    · split
      · exact ih (i + 1) (hlines.set (h i).unquoted i) _
      · split
        · exact hlines
        · split
          · exact hlines
          · exact ih (i + 1) (hlines.set (h i).lazy i) _

theorem itemRegion (h : r.Has P) (m : Marker) (i : Nat) : (r.itemRegion m i).1.Has P := by
  have hfirst (shift : Nat) (width : Int) : Line.Has P { r.line i with shift, width } := h i
  exact (h.set (hfirst _ _) i).of_lines rfl

/-- A reader gives blocks that show no more than the lines that it reads. -/
abbrev Reads (P : Char → Prop) (nested : Reader) : Prop :=
  ∀ r : Region, r.Has P → ∀ i stop, ∀ b ∈ (nested r i stop).1, b.Shows P

theorem quoteAt {nested : Reader} (hnested : Reads P nested) (h : r.Has P) (i stop : Nat) :
    (quoteAt nested r i stop).1.Shows P := by
  have hinner := quoteLines h stop (stop - i) (i + 1) (h.set (h i).unquoted i)
    (r.line i).unquoted.isEmpty
  refine .quote (hnested _ ?_ _ _)
  exact hinner.of_lines rfl

theorem itemsFrom {nested : Reader} (hnested : Reads P nested) (h : r.Has P) (stop fuel : Nat)
    (m : Marker) (i : Nat) :
    ∀ body ∈ (itemsFrom nested r stop fuel m i).1, ∀ b ∈ body, b.Shows P := by
  induction fuel generalizing m i with
  | zero => exact fun body hbody => absurd hbody List.not_mem_nil
  | succ fuel ih =>
    have hbody : ∀ b ∈ (if (r.itemRegion m i).2 && (r.itemRegion m i).1.isEmpty (i + 1) then
        ([], min (i + 2) stop) else nested (r.itemRegion m i).1 i stop).1, b.Shows P := by
      split
      · exact fun b hb => absurd hb List.not_mem_nil
      · exact hnested _ (h.itemRegion m i) i stop
    rw [Region.itemsFrom]
    dsimp only
    split
    · exact List.forall_mem_cons.2 ⟨hbody, ih _ _⟩
    · exact List.forall_mem_singleton.2 hbody

section

variable (hspace : P ' ') (hbreak : P '\n')

include hspace hbreak

theorem blockAt {nested : Reader} (hnested : Reads P nested) (h : r.Has P) (i stop : Nat) :
    ∀ b ∈ (blockAt nested r i stop).1, b.Shows P := by
  have hink := (h i).ink
  rw [Region.blockAt]
  dsimp only
  -- One case for each kind of block, in the order in which they are tried.
  split
  · next hdata => exact fun b hb => Option.mem_some.1 hb ▸ frontMatterAt? hbreak h hdata
  split
  · next header hheader =>
    exact fun b hb => Option.mem_some.1 hb ▸
      .table (tableAt? h hheader) (tableRows h _ stop _ _ 0)
  split
  · refine fun b hb => Option.mem_some.1 hb ▸ .indented (forall_mem_ofList fun c hc => ?_)
    exact (List.mem_append.1 hc).elim (text hspace hbreak h _ _ _ c)
      fun hc => List.mem_singleton.1 hc ▸ hbreak
  split
  · next f hf =>
    exact fun b hb => Option.mem_some.1 hb ▸
      .fence (forall_mem_ofList fun c hc => hink c (mem_of_mem_info hf hc))
        (forall_mem_ofList (fullText hspace hbreak h _ _ _))
  split
  · exact fun b hb => Option.mem_some.1 hb ▸ quoteAt hnested h i stop
  split
  · exact fun b hb => Option.mem_some.1 hb ▸ .rule
  split
  · next m hm =>
    exact fun b hb => Option.mem_some.1 hb ▸ .list (itemsFrom hnested h stop _ m i)
  split
  · exact fun b hb => nomatch hb
  split
  · exact fun b hb => Option.mem_some.1 hb ▸
      .html (forall_mem_ofList (fullText hspace hbreak h _ _ _))
  split
  · next depth title htitle =>
    split at htitle
    · exact fun b hb => Option.mem_some.1 hb ▸
        .heading (forall_mem_ofList fun c hc => hink c (mem_of_mem_heading htitle hc))
    · cases htitle
  split
  · exact fun b hb => Option.mem_some.1 hb ▸
      .heading (forall_mem_ofList fun c hc =>
        text hspace hbreak h _ _ _ c (mem_of_mem_trimSpacing hc))
  · exact fun b hb => Option.mem_some.1 hb ▸
      .paragraph (forall_mem_ofList fun c hc =>
        text hspace hbreak h _ _ _ c (mem_of_mem_trimSpacing hc))

theorem blocksFrom {nested : Reader} (hnested : Reads P nested) (h : r.Has P)
    (stop fuel i : Nat) : ∀ b ∈ (blocksFrom nested r stop fuel i).1, b.Shows P := by
  induction fuel generalizing i with
  | zero => exact fun b hb => absurd hb List.not_mem_nil
  | succ fuel ih =>
    intro b hb
    obtain ⟨j, -, hj⟩ := exists_of_mem_blocksFrom hb
    exact blockAt hspace hbreak hnested h j stop b hj

theorem blocksWithin (depth : Nat) : Reads P (blocksWithin depth) := by
  -- Blocks in containers are read by the reader of the depth below.
  induction depth with
  | zero => exact fun _ _ _ _ _ hb => absurd hb List.not_mem_nil
  | succ depth ih => exact fun r h i stop => blocksFrom hspace hbreak ih h stop _ i

end

end Region.Has

/-! ## Whole texts -/

section

variable (hbreak : P '\n') (hfilled : P '\ufffd') {text : List Char} (h : ∀ c ∈ text, P c)

include hbreak hfilled h

theorem has_of_mem_sourceLines : ∀ l ∈ sourceLines (normalize text), l.Has P := by
  intro l hl c hc
  obtain ⟨raw, hraw, rfl⟩ := List.mem_map.1 hl
  obtain ⟨d, hd, rfl⟩ := List.mem_map.1 (mem_rawLines (List.mem_filter.1 hraw).1 hc).1
  split
  · exact hfilled
  · rcases mem_unifyBreaks hd with rfl | ⟨hd, -⟩
    · exact hbreak
    · exact h d hd

/-- All that the blocks of a text show has a property if the characters of the text have it. -/
theorem shows_of_mem_ofText (hspace : P ' ') : ∀ b ∈ Block.ofText text, b.Shows P := by
  refine Region.Has.blocksWithin hspace hbreak _ _ (fun i => ?_) 0 _
  rw [Region.line, Array.getD_eq_getD_getElem?, List.getElem?_toArray]
  cases hline : (sourceLines (normalize text))[i]? with
  | none => exact Line.Has.nowhere
  | some l => exact has_of_mem_sourceLines hbreak hfilled h l (List.mem_of_getElem? hline)

end

/-! ## Tokens -/

/-- All characters of the texts of an item have a property. -/
structure Reading.Item.Has (P : Char → Prop) (item : Reading.Item) : Prop where
  pieces : ∀ piece ∈ item.pieces, ∀ c ∈ piece.toList, P c
  inner : ∀ text ∈ item.inner, ∀ c ∈ text.toList, P c

namespace Reading.Item.Has

theorem empty : Has P {} :=
  ⟨fun _ h => absurd h List.not_mem_nil, fun _ h => absurd h List.not_mem_nil⟩

theorem piece {text : String} (h : ∀ c ∈ text.toList, P c) : Has P { pieces := [text] } :=
  ⟨List.forall_mem_singleton.2 h, fun _ h => absurd h List.not_mem_nil⟩

theorem append {a b : Reading.Item} (ha : Has P a) (hb : Has P b) : Has P (a ++ b) :=
  ⟨fun piece h => (List.mem_append.1 h).elim (ha.pieces piece) (hb.pieces piece),
    fun text h => (List.mem_append.1 h).elim (ha.inner text) (hb.inner text)⟩

theorem texts (hbreak : P '\n') {item : Reading.Item} (h : Has P item) :
    ∀ text ∈ item.texts, ∀ c ∈ text.toList, P c := by
  refine List.forall_mem_cons.2 ⟨fun c hc => ?_, h.inner⟩
  rw [String.toList_intercalate] at hc
  rcases mem_intercalate hc with hc | ⟨part, hpart, hc⟩
  · exact List.mem_singleton.1 hc ▸ hbreak
  · obtain ⟨piece, hpiece, rfl⟩ := List.mem_map.1 hpart
    exact h.pieces piece hpiece c hc

end Reading.Item.Has

theorem forall_mem_chomped {s : String} (h : ∀ c ∈ s.toList, P c) :
    ∀ c ∈ (chomped s).toList, P c :=
  forall_mem_ofList fun c hc => h c (mem_of_mem_dropEndWhile hc)

theorem forall_mem_trimmed {s : String} (h : ∀ c ∈ s.toList, P c) :
    ∀ c ∈ (trimmed s).toList, P c :=
  forall_mem_ofList fun c hc => h c (mem_of_mem_trim hc)

mutual

/-- What a block adds to an item is what it shows. -/
theorem Block.Shows.inItem (hbreak : P '\n') : ∀ {b : Block}, b.Shows P → b.inItem.Has P
  | .paragraph _ _, .paragraph h => .piece h
  | .fence _ _ _, .fence _ h => .piece (forall_mem_chomped h)
  | .indented _ _, .indented h => .piece (forall_mem_chomped h)
  | .list _ _ _, .list h => ⟨fun _ h => absurd h List.not_mem_nil, has_itemTexts hbreak h⟩
  | .quote _ _, .quote h => has_inItemOf hbreak h
  | .heading _ _ _, _ | .rule _, _ | .table _ _ _, _ | .html _ _, _ | .frontMatter _ _, _ => .empty

theorem has_inItemOf (hbreak : P '\n') :
    ∀ {bs : List Block}, (∀ b ∈ bs, b.Shows P) → (inItemOf bs).Has P
  | [], _ => .empty
  | _ :: _, h =>
    have ⟨hb, hrest⟩ := List.forall_mem_cons.1 h
    (hb.inItem hbreak).append (has_inItemOf hbreak hrest)

/-- The texts of items are what the blocks in them show. -/
theorem has_itemTexts (hbreak : P '\n') :
    ∀ {items : List (List Block)}, (∀ body ∈ items, ∀ b ∈ body, b.Shows P) →
      ∀ text ∈ itemTexts items, ∀ c ∈ text.toList, P c
  | [], _ => fun _ h => absurd h List.not_mem_nil
  | _ :: _, h => fun text htext =>
    have ⟨hbody, hrest⟩ := List.forall_mem_cons.1 h
    (List.mem_append.1 htext).elim ((has_inItemOf hbreak hbody).texts hbreak text)
      (has_itemTexts hbreak hrest text)

end

theorem Block.eq_paragraph_of_token? {b : Block} {text : String}
    (h : b.token? = some (.paragraph text)) : ∃ line, b = .paragraph line text := by
  cases b with
  | paragraph line text' =>
    cases h
    exact ⟨line, rfl⟩
  | list line start items => cases start <;> cases h
  | _ => cases h

/-- The texts of a token are what its block shows. -/
theorem Block.Shows.sources (hbreak : P '\n') {b : Block} (h : b.Shows P) {token : Token}
    (htoken : b.token? = some token) : ∀ text ∈ token.sources, ∀ c ∈ text.toList, P c := by
  cases h with
  | paragraph h =>
    cases htoken
    exact List.forall_mem_singleton.2 h
  | @list line start items h =>
    cases start <;> cases htoken <;> exact has_itemTexts hbreak h
  | quote h =>
    cases htoken
    intro text htext
    obtain ⟨inner, hinner, hparagraph⟩ := List.mem_filterMap.1 htext
    obtain ⟨b, hb, hb'⟩ := mem_blockTokens hinner
    rw [Token.eq_paragraph_of_paragraph? hparagraph] at hb'
    obtain ⟨line, rfl⟩ := Block.eq_paragraph_of_token? hb'
    obtain _ | h := h _ hb
    exact h
  | table hheader hrows =>
    cases htoken
    intro text htext
    rcases List.mem_append.1 htext with htext | htext
    · obtain ⟨cell, hcell, rfl⟩ := List.mem_map.1 htext
      exact forall_mem_trimmed (hheader cell hcell)
    · obtain ⟨row, hrow, htext⟩ := List.mem_flatten.1 htext
      obtain ⟨cells, hcells, rfl⟩ := List.mem_map.1 hrow
      obtain ⟨cell, hcell, rfl⟩ := List.mem_map.1 htext
      exact forall_mem_trimmed (hrows cells hcells cell hcell)
  | frontMatter h => cases htoken
  | _ =>
    cases htoken
    exact fun _ h => absurd h List.not_mem_nil

/-- The texts of the tokens of a text have a property if the characters of the text have it. -/
theorem has_of_mem_sources (hspace : P ' ') (hbreak : P '\n') (hfilled : P '\ufffd')
    {text : List Char} (h : ∀ c ∈ text, P c) {stream : Stream}
    (hstream : (tokenize text).1 = .ok stream) {token : Token} (htoken : token ∈ stream.tokens)
    {source : String} (hsource : source ∈ token.sources) : ∀ c ∈ source.toList, P c := by
  cases hspaces : token.isSpace with
  | true =>
    cases token with
    | space lines => cases hsource
    | _ => cases hspaces
  | false =>
    have hmem : token ∈ stream.tokens.filter (!·.isSpace) :=
      List.mem_filter.2 ⟨htoken, by rw [hspaces]; rfl⟩
    rw [filter_tokenize hstream] at hmem
    obtain ⟨b, hb, htoken⟩ := mem_blockTokens hmem
    exact (shows_of_mem_ofText hbreak hfilled h hspace b hb).sources hbreak htoken source hsource

end Manuscript.Markdown
