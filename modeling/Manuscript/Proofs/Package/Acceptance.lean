import Manuscript.Document.Compose
import Manuscript.Package.Assembly
import Manuscript.Proofs.Document.Locality
import Manuscript.Proofs.Inline.Cut
import Manuscript.Proofs.Package.Borders

/-!
# Acceptance

No token of a known kind fails on its way into a package (`exists_package`). Whatever the
composition gives in the standard style can be shown: its texts are parts of those of the
token, and its measures, borders and fonts are those of the style or are fixed. So each
function of the composition succeeds with blocks that have an element (`Succeeds`,
`Block.IsShown`), as long as the bridge converts or rejects what it is asked for.
-/

namespace Manuscript.Package

open Manuscript.Document Manuscript.Formula Manuscript.Inline Manuscript.Style Manuscript.Success
  Manuscript.Xml

/-! ## What can be shown -/

/-- A token that can be shown: its texts have only characters that may stand in a package, a
    table has cells in its head, and an ordered list starts at a number that fits. What a
    block quote has besides paragraphs of its own is left out, and may be anything. -/
def IsShownToken : Token → Prop
  | .heading _ text | .paragraph text | .code text _ => isLegalText text = true
  | .list ordered items start =>
    (∀ item ∈ items, isLegalText item = true)
      ∧ (ordered = true → 0 ≤ start ∧ start < 0x80000000)
  | .blockquote tokens => ∀ text, .paragraph text ∈ tokens → isLegalText text = true
  | .table header rows _ =>
    header ≠ [] ∧ (∀ text ∈ header, isLegalText text = true)
      ∧ ∀ row ∈ rows, ∀ text ∈ row, isLegalText text = true
  | .rule | .space _ | .other _ _ => True
  | .unknown => False

/-- There is an element for a run. -/
def IsShownRun (r : Run) : Prop := ∃ t, runTree r = .ok t

/-- There is an element for a cell, between the lines of a table. -/
def IsShownCell (c : Cell) : Prop := ∃ t, cellTree tableBorders c = .ok t

/-- There is an element for a row, in a grid of any size. -/
def IsShownRow (r : Row) : Prop := ∀ columns, ∃ t, rowTree tableBorders columns r = .ok t

/-- There is an element for a block, after any lists. -/
def IsShownBlock (code : CodeLooks) (b : Block) : Prop :=
  ∀ lists, ∃ t lists', blockTree code lists b = .ok (t, lists')

/-! ## Runs -/

theorem isLegalText_iff {s : String} : isLegalText s = true ↔ ∀ c ∈ s.toList, isLegal c = true := by
  rw [isLegalText, List.all_eq_true]

/-- The segments of a text are parts of it. -/
theorem mem_of_mem_splitRuns {text : List Char} {seg : Segment} (h : seg ∈ splitRuns text) {c : Char}
    (hc : c ∈ seg.raw) : c ∈ text := by
  rw [← (isCut_segments text).flatMap_raw]
  exact List.mem_flatMap.2 ⟨seg, List.mem_of_mem_filter h, hc⟩

theorem mem_of_mem_inner {seg : Segment} {c : Char} (h : c ∈ seg.inner) : c ∈ seg.raw :=
  List.mem_of_mem_drop (List.mem_of_mem_take h)

theorem isLegalText_onOneLine {cs : List Char} (h : ∀ c ∈ cs, isLegal c = true) :
    isLegalText (onOneLine cs) = true := by
  rw [isLegalText_iff, onOneLine, String.toList_ofList, List.forall_mem_map]
  intro c hc
  split
  · rfl
  · exact h c hc

theorem exists_textRun {s : String} (h : isLegalText s = true) (properties : List Tree) :
    ∃ t, textRun properties s = .ok t := by
  simp only [textRun, textContent, legal?, h, if_true]
  exact ⟨_, rfl⟩

theorem exists_looks (seg : Segment) :
    (∃ looks, looksOf (styledText .standard seg) = .ok looks)
      ∧ ∃ looks, looksOf (fallbackText .standard seg) = .ok looks := by
  rcases seg with ⟨kind, raw⟩
  cases kind <;> exact ⟨exists_eq_ok rfl, exists_eq_ok rfl⟩

theorem isShownRun_styled {text : StyledText} (hlooks : ∃ looks, looksOf text = .ok looks)
    (hlegal : isLegalText text.text = true) (kind : Inline.Kind) (raw : String) :
    IsShownRun ⟨kind, raw, .styled text⟩ := by
  obtain ⟨looks, hlooks⟩ := hlooks
  obtain ⟨t, ht⟩ := exists_textRun hlegal [looks.tree]
  exact ⟨t, bind_eq_ok_iff.2 ⟨looks, hlooks, ht⟩⟩

/-- A segment of legal text is shown, whatever is answered to the call for it. -/
theorem isShownRun_runOf {seg : Segment} (h : ∀ c ∈ seg.raw, isLegal c = true)
    (a : Except Formula.Fault MathObject) : IsShownRun (runOf .standard seg a) := by
  have hraw : isLegalText (fallbackText .standard seg).text = true := by
    rw [isLegalText_iff, fallbackText, String.toList_ofList]
    exact h
  have hinner : isLegalText (styledText .standard seg).text = true :=
    isLegalText_onOneLine fun c hc => h c (mem_of_mem_inner hc)
  obtain ⟨hstyled, hfallback⟩ := exists_looks seg
  -- Only a formula that is converted is shown otherwise than by text of the segment.
  unfold runOf
  cases hmath : seg.kind.isMath with
  | false => exact isShownRun_styled hstyled hinner _ _
  | true =>
    cases a with
    | ok m => exact ⟨mathTree m, rfl⟩
    | error e => exact isShownRun_styled hfallback hraw _ _

theorem exists_runTrees {runs : List Run} (h : ∀ r ∈ runs, IsShownRun r) :
    ∃ trees, runTrees runs = .ok trees :=
  exists_mapM_eq_ok h

/-! ## Measures and borders -/

/-- The measures that composed blocks have. -/
def spacings : List Document.Spacing :=
  [headingSpacing, paragraphSpacing, firstItemSpacing, itemSpacing, ruleSpacing, spacerSpacing,
    headerLooks.spacing, dataLooks.spacing, Config.standard.code.spacing]

theorem exists_spacing {s : Document.Spacing} (h : s ∈ spacings) : ∃ marks, spacingOf s = .ok marks :=
  exists_eq_ok ((by decide +kernel : ∀ s ∈ spacings, (spacingOf s).isOk = true) s h)

theorem exists_bordersTree {borders : List Border} (name : String)
    (h : ∀ b ∈ borders, (sideRank? b.side).isSome = true ∧ (borderTree b).isOk = true) :
    ∃ t, bordersTree name borders = .ok t := by
  obtain ⟨sorted, hsorted, hmem⟩ := exists_sortedBorders fun b hb => (h b hb).1
  obtain ⟨trees, htrees⟩ : ∃ trees, sorted.mapM borderTree = .ok trees :=
    exists_mapM_eq_ok fun b hb => exists_eq_ok (h b (hmem b hb)).2
  exact ⟨.element name [] trees, bind_eq_ok_iff.2 ⟨sorted, hsorted, bind_eq_ok_iff.2 ⟨trees, htrees, rfl⟩⟩⟩

theorem exists_tableBorders (name : String) : ∃ t, bordersTree name tableBorders = .ok t :=
  exists_bordersTree name (by decide +kernel)

/-! ## Blocks -/

section

variable {code : CodeLooks} {runs : List Run}

theorem exists_runsParagraph {spacing : Document.Spacing} {indent : Option Indent}
    {border : Option Border} (looks : ParagraphLooks) (hruns : ∀ r ∈ runs, IsShownRun r)
    (hspacing : spacing ∈ spacings)
    (hindent : ∀ i ∈ indent, (indentOf i).isOk = true)
    (hborder : ∀ b ∈ border, (borderTree b).isOk = true) :
    ∃ t, runsParagraph looks runs spacing indent border = .ok t := by
  obtain ⟨trees, htrees⟩ := exists_runTrees hruns
  obtain ⟨marks, hmarks⟩ := exists_spacing hspacing
  obtain ⟨indent', hindent'⟩ : ∃ i, indent.mapM indentOf = .ok i := by
    cases indent with
    | none => exact ⟨none, rfl⟩
    | some i =>
      obtain ⟨marks, hmarks⟩ := exists_eq_ok (hindent i rfl)
      exact ⟨some marks, congrArg (Except.map some) hmarks⟩
  obtain ⟨border', hborder'⟩ : ∃ b, border.mapM borderTree = .ok b := by
    cases border with
    | none => exact ⟨none, rfl⟩
    | some b =>
      obtain ⟨tree, htree⟩ := exists_eq_ok (hborder b rfl)
      exact ⟨some tree, congrArg (Except.map some) htree⟩
  simp only [runsParagraph, htrees, hmarks, hindent', hborder']
  exact ⟨_, rfl⟩

theorem isShownBlock_paragraph {spacing : Document.Spacing} {indent : Option Indent}
    {border : Option Border} (hruns : ∀ r ∈ runs, IsShownRun r) (hspacing : spacing ∈ spacings)
    (hindent : ∀ i ∈ indent, (indentOf i).isOk = true)
    (hborder : ∀ b ∈ border, (borderTree b).isOk = true) :
    IsShownBlock code (.paragraph runs spacing indent border) := by
  intro lists
  obtain ⟨t, ht⟩ := exists_runsParagraph {} hruns hspacing hindent hborder
  exact ⟨t, lists, by simp only [blockTree, ht]; rfl⟩

/-- A heading of a level that the template has a style for. -/
theorem isShownBlock_heading {level : Int} {text : String} (hlevel : 1 ≤ level ∧ level ≤ 9)
    (htext : isLegalText text = true) : IsShownBlock code (.heading level text headingSpacing) := by
  intro lists
  have hstyle : headingStyle? code level = some ("Heading" ++ toString level) := by
    simp [headingStyle?, Template.headingStyle?, hlevel]
  obtain ⟨marks, hmarks⟩ := exists_spacing (s := headingSpacing) (by simp [spacings])
  obtain ⟨run, hrun⟩ := exists_textRun htext []
  cases hempty : text.isEmpty with
  | true =>
    simp only [blockTree, headingTree, hstyle, hempty, hmarks]
    exact ⟨_, _, rfl⟩
  | false =>
    simp only [blockTree, headingTree, hstyle, hempty, hmarks, hrun]
    exact ⟨_, _, rfl⟩

/-- A list gets its number again, or a new one if it can start where it should. -/
theorem exists_number (list : Int) {start : Int} (h : 0 ≤ start ∧ start < 0x80000000) (lists : Lists) :
    ∃ n lists', lists.number list start = .ok (n, lists') := by
  unfold Lists.number
  cases lists.place? list with
  | some place => exact ⟨_, _, rfl⟩
  | none =>
    have hsigned : signed? start = some start := by
      have hlow : -0x80000000 ≤ start := by omega
      simp [signed?, hlow, h.2]
    simp only [hsigned]
    exact ⟨_, _, rfl⟩

theorem isShownBlock_listItem {ordered : Bool} {list start : Int} {spacing : Document.Spacing}
    (hruns : ∀ r ∈ runs, IsShownRun r) (hspacing : spacing ∈ spacings)
    (hstart : ordered = true → 0 ≤ start ∧ start < 0x80000000) :
    IsShownBlock code (.listItem runs ordered 0 list start spacing (some itemIndent)) := by
  intro lists
  have hparagraph (looks : ParagraphLooks) :
      ∃ t, runsParagraph looks runs spacing (some itemIndent) none = .ok t :=
    exists_runsParagraph looks hruns hspacing (by decide +kernel) (by simp)
  cases ordered with
  | true =>
    obtain ⟨n, lists', hn⟩ := exists_number list (hstart rfl) lists
    obtain ⟨t, ht⟩ := hparagraph { numbering := some (0, n) }
    refine ⟨t, lists', ?_⟩
    simp only [blockTree, bind_eq_ok_iff, pure_eq_ok_iff]
    exact ⟨0, rfl, (n, lists'), hn, t, ht, rfl⟩
  | false =>
    obtain ⟨t, ht⟩ := hparagraph { style := some Template.bulletStyle }
    exact ⟨t, lists, bind_eq_ok_iff.2 ⟨t, ht, rfl⟩⟩

theorem isShownBlock_code (hcode : ∃ id, code.find? = .ok id) {text : String}
    (htext : isLegalText text = true) (language : Option String) :
    IsShownBlock code (codeBlock .standard text language) := by
  intro lists
  obtain ⟨id, hid⟩ := hcode
  obtain ⟨marks, hmarks⟩ := exists_spacing (s := Config.standard.code.spacing) (by simp [spacings])
  obtain ⟨font, hfont⟩ := exists_eq_ok (x := fontOf Config.standard.code.font) rfl
  obtain ⟨size, hsize⟩ := exists_eq_ok (x := sizeOf Config.standard.code.size) rfl
  simp only [blockTree, codeBlock, codeTree, textContent, legal?, htext, if_true, hid, hmarks,
    hfont, hsize]
  exact ⟨_, _, rfl⟩

theorem isShownBlock_spacer : IsShownBlock code (.spacer spacerSpacing) := by
  intro lists
  obtain ⟨t, ht⟩ : ∃ t, runsParagraph {} [] spacerSpacing none none = .ok t :=
    exists_runsParagraph {} (by simp) (by simp [spacings]) (by simp) (by simp)
  exact ⟨t, lists, bind_eq_ok_iff.2 ⟨t, ht, rfl⟩⟩

theorem isShownBlock_rule : IsShownBlock code (.rule ruleBorder ruleSpacing) := by
  intro lists
  obtain ⟨t, ht⟩ : ∃ t, runsParagraph {} [] ruleSpacing none (some ruleBorder) = .ok t :=
    exists_runsParagraph {} (by simp) (by simp [spacings]) (by simp) (by decide +kernel)
  exact ⟨t, lists, bind_eq_ok_iff.2 ⟨t, ht, rfl⟩⟩

theorem isShownCell_mk {looks : CellLooks} (hlooks : looks ∈ [headerLooks, dataLooks])
    (hruns : ∀ r ∈ runs, IsShownRun r) (width : Int) (align : Option String) :
    IsShownCell { runs, width, margins := looks.margins, spacing := looks.spacing, align } := by
  obtain ⟨trees, htrees⟩ := exists_runTrees hruns
  obtain ⟨borders, hborders⟩ := exists_tableBorders "w:tcBorders"
  obtain ⟨margins, hmargins⟩ : ∃ t, marginsTree "w:tcMar" looks.margins = .ok t :=
    exists_eq_ok ((by decide : ∀ l ∈ [headerLooks, dataLooks],
      (marginsTree "w:tcMar" l.margins).isOk = true) looks hlooks)
  obtain ⟨marks, hmarks⟩ := exists_spacing (s := looks.spacing) (by
    simp only [List.mem_cons, List.not_mem_nil, or_false] at hlooks
    rcases hlooks with rfl | rfl <;> simp [spacings])
  simp only [IsShownCell, cellTree, htrees, hborders, hmargins, hmarks]
  exact ⟨_, rfl⟩

theorem isShownRow_mk {cells : List Cell} (hcells : ∀ c ∈ cells, IsShownCell c) (header : Bool)
    (height : Int) (hheight : height ∈ [400, 600]) :
    IsShownRow { cells, header, minHeight := some height } := by
  intro columns
  obtain ⟨given, hgiven⟩ : ∃ given, (cells.take columns).mapM (cellTree tableBorders) = .ok given :=
    exists_mapM_eq_ok fun c hc => hcells c (List.mem_of_mem_take hc)
  obtain ⟨length, hlength⟩ : ∃ n, required (unsigned? (height * perTwentieth)) = .ok n :=
    exists_eq_ok ((by decide : ∀ n ∈ [400, 600],
      (required (unsigned? (n * perTwentieth))).isOk = true) height hheight)
  simp only [rowTree, rowProperties, rowCells, hgiven, hlength]
  exact ⟨_, rfl⟩

theorem isShownBlock_table {rows : List Row} (hrows : ∀ r ∈ rows, IsShownRow r)
    (columns width : Int) :
    IsShownBlock code (.table rows columns width tableBorders tableMargins) := by
  intro lists
  obtain ⟨trees, htrees⟩ : ∃ trees, rows.mapM (rowTree tableBorders columns.toNat) = .ok trees :=
    exists_mapM_eq_ok fun r hr => hrows r hr columns.toNat
  obtain ⟨borders, hborders⟩ := exists_tableBorders "w:tblBorders"
  obtain ⟨margins, hmargins⟩ := exists_eq_ok (x := marginsTree "w:tblCellMar" tableMargins) rfl
  simp only [blockTree, tableTree, tableProperties, htrees, hborders, hmargins]
  exact ⟨_, _, rfl⟩

end

/-! ## Composing -/

section

variable {σ : Type} {b : Bridge σ} {s : σ}

/-- After calls of the bridge, an activity succeeds and has made such calls only; what it gives
    has a property. -/
abbrev Succeeds {α : Type} (b : Bridge σ) (s : σ) (w : Work (Composition σ) Document.Fault α)
    (P : α → Prop) : Prop :=
  Work.Keeps (fun t => ∃ calls, t.bridge = b.after s calls) False w P

variable {code : CodeLooks} (h : b.IsTame s)

include h

theorem runsOf_succeeds {text : String} (htext : isLegalText text = true) :
    Succeeds b s (runsOf b .standard text) fun runs => ∀ r ∈ runs, IsShownRun r := by
  rintro t ⟨calls, ht⟩
  obtain ⟨said, hsaid⟩ := format_eq h .standard calls text
  rw [← ht] at hsaid
  refine .of_ok (onBridge_ok hsaid) ⟨⟨_, rfl⟩, ?_⟩
  have hsegs : ∀ seg ∈ splitRuns text.toList, ∀ c ∈ seg.raw, isLegal c = true :=
    fun seg hseg c hc => isLegalText_iff.1 htext c (mem_of_mem_splitRuns hseg hc)
  -- The induction is on the segments; whatever calls were made before, each is answered.
  generalize splitRuns text.toList = segs at hsegs
  clear hsaid ht
  induction segs generalizing calls with
  | nil => simp [resolve]
  | cons seg rest ih =>
    obtain ⟨hseg, hrest⟩ := List.forall_mem_cons.1 hsegs
    exact List.forall_mem_cons.2 ⟨isShownRun_runOf hseg _, ih _ hrest⟩

theorem itemBlocks_succeeds {ordered : Bool} {start : Int} {items : List String}
    (hitems : ∀ item ∈ items, isLegalText item = true)
    (hstart : ordered = true → 0 ≤ start ∧ start < 0x80000000) (list : Int)
    {spacing : Document.Spacing} (hspacing : spacing ∈ [firstItemSpacing, itemSpacing]) :
    Succeeds b s (itemBlocks b .standard ordered list start spacing items) fun blocks =>
      ∀ block ∈ blocks, IsShownBlock code block := by
  induction items generalizing spacing with
  | nil => exact .pure (by simp)
  | cons item rest ih =>
    obtain ⟨hitem, hrest⟩ := List.forall_mem_cons.1 hitems
    -- The first item has measures of its own, and the others those of `itemSpacing`.
    have hmem : spacing ∈ spacings := by
      simp only [List.mem_cons, List.not_mem_nil, or_false] at hspacing
      rcases hspacing with rfl | rfl <;> simp [spacings]
    refine (runsOf_succeeds h hitem).bind fun runs hruns => ?_
    refine (ih hrest (by simp)).bind fun blocks hblocks => .pure ?_
    exact List.forall_mem_cons.2 ⟨isShownBlock_listItem hruns hmem hstart, hblocks⟩

theorem quoteBlocks_succeeds {tokens : List Token}
    (htokens : ∀ text, .paragraph text ∈ tokens → isLegalText text = true) :
    Succeeds b s (quoteBlocks b .standard tokens) fun blocks =>
      ∀ block ∈ blocks, IsShownBlock code block := by
  induction tokens with
  | nil => exact .pure (by simp)
  | cons token rest ih =>
    have hrest := ih fun text htext => htokens text (List.mem_cons_of_mem _ htext)
    -- What is no paragraph is told of and left out.
    cases token with
    | paragraph text =>
      refine (runsOf_succeeds h (htokens text List.mem_cons_self)).bind fun runs hruns => ?_
      refine hrest.bind fun blocks hblocks => .pure (List.forall_mem_cons.2 ⟨?_, hblocks⟩)
      exact isShownBlock_paragraph hruns (by simp [spacings]) (by decide +kernel)
        (by decide +kernel)
    | _ => exact (Work.Keeps.tell _).bind fun _ _ => hrest

theorem cellsOf_succeeds {looks : CellLooks} (hlooks : looks ∈ [headerLooks, dataLooks]) (width : Int)
    {texts : List String} (htexts : ∀ text ∈ texts, isLegalText text = true)
    (align : List (Option String)) :
    Succeeds b s (cellsOf b .standard width looks (texts.zip align)) fun cells =>
      ∀ c ∈ cells, IsShownCell c := by
  refine .forEach fun ⟨text, side⟩ hmem => ?_
  refine (runsOf_succeeds h (htexts text (List.of_mem_zip hmem).1)).bind fun runs hruns => ?_
  exact .pure (isShownCell_mk hlooks hruns width side)

omit h in
theorem isLegalText_of_mem_fitTo {texts : List String} (h : ∀ text ∈ texts, isLegalText text = true)
    (size : Nat) : ∀ text ∈ fitTo size "" texts, isLegalText text = true := by
  intro text hmem
  rcases List.mem_append.1 (List.mem_of_mem_take hmem) with hmem | hmem
  · exact h text hmem
  · rw [List.eq_of_mem_replicate hmem]
    rfl

theorem dataRows_succeeds {rows : List (List String)}
    (hrows : ∀ row ∈ rows, ∀ text ∈ row, isLegalText text = true) (columns : Nat) (width : Int)
    (align : List (Option String)) (number : Nat) :
    Succeeds b s (dataRows b .standard columns width align number rows) fun rows =>
      ∀ r ∈ rows, IsShownRow r := by
  induction rows generalizing number with
  | nil => exact .pure (by simp)
  | cons row rest ih =>
    obtain ⟨hrow, hrest⟩ := List.forall_mem_cons.1 hrows
    have hlooks : dataLooks ∈ [headerLooks, dataLooks] := by simp
    have hcells := (cellsOf_succeeds h hlooks width (isLegalText_of_mem_fitTo hrow columns) align).bind
      fun cells hcells => (ih hrest (number + 1)).bind fun rows hrows =>
        Work.Keeps.pure (P := fun rows => ∀ r ∈ rows, IsShownRow r)
          (List.forall_mem_cons.2 ⟨isShownRow_mk hcells false 400 (by simp), hrows⟩)
    unfold dataRows
    by_cases hragged : (row.length != columns) = true
    · simp only [hragged, if_true]
      exact (Work.Keeps.tell _).bind fun _ _ => hcells
    · simp only [hragged]
      exact hcells

theorem tableBlock_succeeds {header : List String} {rows : List (List String)}
    (hcolumns : header ≠ []) (hheader : ∀ text ∈ header, isLegalText text = true)
    (hrows : ∀ row ∈ rows, ∀ text ∈ row, isLegalText text = true) (align : List (Option String)) :
    Succeeds b s (tableBlock b .standard header rows align) (IsShownBlock code) := by
  have hlength : header.length ≠ 0 := by simpa using hcolumns
  simp only [tableBlock, hlength, if_false]
  refine (cellsOf_succeeds h (by simp) _ hheader _).bind fun head hhead => ?_
  refine (dataRows_succeeds h hrows _ _ _ _).bind fun rows hrows => .pure ?_
  exact isShownBlock_table (List.forall_mem_cons.2 ⟨isShownRow_mk hhead true 600 (by simp), hrows⟩) _ _

omit h in
theorem headingBlock_succeeds (depth : Int) {text : String} (htext : isLegalText text = true) :
    Succeeds b s (headingBlock depth text) (IsShownBlock code) := by
  have hlevel : 1 ≤ clampDepth depth ∧ clampDepth depth ≤ 9 := by
    unfold clampDepth
    omega
  unfold headingBlock
  by_cases hdepth : (clampDepth depth != depth) = true
  · simp only [hdepth, if_true]
    exact (Work.Keeps.tell _).bind fun _ _ => .pure (isShownBlock_heading hlevel htext)
  · simp only [hdepth]
    exact .pure (isShownBlock_heading hlevel htext)

omit h in
theorem nextList_succeeds (ordered : Bool) : Succeeds b s (nextList ordered) fun _ => True := by
  intro t ht
  cases ordered with
  | true => exact .of_ok rfl ⟨ht, trivial⟩
  | false => exact .of_ok rfl ⟨ht, trivial⟩

/-- A token that can be shown is composed to blocks that are shown. -/
theorem composeToken_succeeds (hcode : ∃ id, code.find? = .ok id) {token : Token}
    (htoken : IsShownToken token) :
    Succeeds b s (composeToken b .standard token) fun blocks =>
      ∀ block ∈ blocks, IsShownBlock code block := by
  cases token with
  | heading depth text =>
    exact (headingBlock_succeeds depth htoken).bind fun block hblock => .pure (by simpa using hblock)
  | paragraph text =>
    refine (runsOf_succeeds h htoken).bind fun runs hruns => .pure ?_
    exact List.forall_mem_singleton.2
      (isShownBlock_paragraph hruns (by simp [spacings]) (by simp) (by simp))
  | list ordered items start =>
    refine (nextList_succeeds ordered).bind fun list _ => ?_
    exact itemBlocks_succeeds h htoken.1 htoken.2 list (by simp)
  | blockquote tokens => exact quoteBlocks_succeeds h htoken
  | code text language =>
    exact .pure (List.forall_mem_singleton.2 (isShownBlock_code hcode htoken language))
  | rule => exact .pure (List.forall_mem_singleton.2 isShownBlock_rule)
  | table header rows align =>
    obtain ⟨hcolumns, hheader, hrows⟩ := htoken
    exact (tableBlock_succeeds h hcolumns hheader hrows align).bind fun block hblock =>
      .pure (by simpa using hblock)
  | space lines => exact .pure (by simp)
  | other type raw => exact (Work.Keeps.tell _).bind fun _ _ => .pure (by simp)
  | unknown => exact htoken.elim

theorem composeFrom_succeeds (hcode : ∃ id, code.find? = .ok id) {tokens : List Token}
    (htokens : ∀ token ∈ tokens, IsShownToken token) (c : Coordinator) :
    Succeeds b s (composeFrom b .standard c tokens) fun blocks =>
      ∀ block ∈ blocks, IsShownBlock code block := by
  induction tokens generalizing c with
  | nil => exact .pure (by simp)
  | cons token rest ih =>
    obtain ⟨htoken, hrest⟩ := List.forall_mem_cons.1 htokens
    refine (Work.Keeps.tell _).bind fun _ _ => ?_
    refine (composeToken_succeeds h hcode htoken).bind fun blocks hblocks => ?_
    refine (ih hrest _).bind fun more hmore => .pure ?_
    refine List.forall_mem_append.2 ⟨List.forall_mem_append.2 ⟨fun block hblock => ?_, hblocks⟩, hmore⟩
    -- The only measures that a coordinator gives to a spacer are those of every spacer.
    obtain ⟨spacing, hspacing, rfl⟩ := Option.map_eq_some_iff.1 (Option.mem_toList.1 hblock)
    obtain rfl : spacing = spacerSpacing := by
      split at hspacing
      · exact (Option.some.inj hspacing).symm
      · cases hspacing
    exact isShownBlock_spacer

end

/-! ## Packages -/

/-- Blocks that are shown make a body. -/
theorem exists_bodyOf {code : CodeLooks} {blocks : List Block}
    (h : ∀ block ∈ blocks, IsShownBlock code block) (lists : Lists) :
    ∃ trees lists', bodyOf code lists blocks = .ok (trees, lists') := by
  induction blocks generalizing lists with
  | nil => exact ⟨[], lists, rfl⟩
  | cons block rest ih =>
    obtain ⟨hblock, hrest⟩ := List.forall_mem_cons.1 h
    obtain ⟨t, lists', ht⟩ := hblock lists
    obtain ⟨trees, lists'', htrees⟩ := ih hrest lists'
    refine ⟨t :: trees, lists'', ?_⟩
    simp only [bodyOf, bind_eq_ok_iff, pure_eq_ok_iff]
    exact ⟨(t, lists'), ht, (trees, lists''), htrees, rfl⟩

/-- The standard style gives the styles of a package, and code finds its own among them. -/
theorem exists_styles : ∃ styles, stylesOf .standard = .ok styles ∧ ∃ id, styles.code.find? = .ok id := by
  have hfound : (stylesOf .standard >>= fun styles => styles.code.find?).isOk = true := by
    decide +kernel
  obtain ⟨id, hid⟩ := exists_eq_ok hfound
  obtain ⟨styles, hstyles, hfind⟩ := bind_eq_ok_iff.1 hid
  exact ⟨styles, hstyles, id, hfind⟩

/-- Tokens that can be shown are composed, whatever lists and formulas there were before, and
    a package can be put together from their blocks. -/
theorem exists_package {σ : Type} (b : Bridge σ) (s : σ) (h : b.IsTame s) (lists : Nat)
    (tokens : List Token) (htokens : ∀ token ∈ tokens, IsShownToken token) :
    ∃ blocks said t, compose b .standard tokens { lists, bridge := s } = ⟨.ok blocks, said, t⟩
      ∧ ∃ p, assemble .standard ⟨blocks, []⟩ = .ok p := by
  obtain ⟨styles, hstyles, hcode⟩ := exists_styles
  obtain ⟨blocks, said, t, hrun, hblocks⟩ :=
    (composeFrom_succeeds h hcode htokens {}).exists_ok (s := { lists, bridge := s }) ⟨[], rfl⟩
  obtain ⟨trees, lists', hbody⟩ := exists_bodyOf hblocks []
  refine ⟨blocks, said, t, hrun, ?_⟩
  simp only [assemble, bind_eq_ok_iff, pure_eq_ok_iff]
  exact ⟨_, styles, hstyles, {}, rfl, (trees, lists'), hbody, rfl⟩

/-- All kinds of tokens, one of each in a block quote that is in another. -/
theorem exists_package_sample :
    let quoted : List Token :=
      [.heading 9 "a", .paragraph "b\t*c* $x$", .list true ["d"] 0, .code "e" none, .rule,
        .table [] [["f"]] [], .space 1, .other "html" "<br>", .blockquote []]
    let tokens : List Token :=
      [.heading (-3) "", .paragraph "$$y$$", .list true ["g", "h"] 0x7fffffff, .list false ["i"] 1,
        .blockquote (.blockquote quoted :: quoted), .code "j\r\n" (some "k"), .rule,
        .table ["l", "m"] [["n"], ["o", "p", "q"]] [some "center"], .space 2, .other "html" "<hr>"]
    ∃ blocks said t, compose (rejecting "x") .standard tokens { bridge := () } = ⟨.ok blocks, said, t⟩
      ∧ ∃ p, assemble .standard ⟨blocks, []⟩ = .ok p := by
  intro quoted tokens
  refine exists_package _ _ (isTame_rejecting "x") 0 tokens ?_
  simp [tokens, quoted, IsShownToken, isLegalText, isLegal]

end Manuscript.Package
