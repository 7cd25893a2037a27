import Manuscript.Proofs.Document.Grid
import Manuscript.Proofs.Package.Acceptance
import Manuscript.Proofs.Package.Content

/-!
# Tables in a package

A table of a package has an element for each column, one for each row and in it one for each
cell, in the order of the document. A cell holds one paragraph, which keeps to a side if the
cell does and the side has a name in the package; only the first row repeats as a head.

* `ShowsGrid`: the element of a table, down to its paragraphs;
* `table_kept`: a table from its token to its element.
-/

namespace Manuscript.Package

open Manuscript.Document Manuscript.Formula Manuscript.Style Manuscript.Success Manuscript.Work
  Manuscript.Xml

/-! ## Elements -/

/-- An element shows a cell: it holds one paragraph, which shows the runs of the cell after
    properties that name a side for it or do not. -/
structure ShowsPlace (c : Cell) (tc : Tree) : Prop where
  name : tc.name? = some "w:tc"
  paragraph : ∃ properties content,
    childrenNamed "w:p" tc = [.element "w:p" [] (properties ++ content)]
      ∧ List.Forall₂ Shows c.runs content
      ∧ (properties = [] ∨ ∃ looks, properties = [.element "w:pPr" [] looks])
      ∧ properties.flatMap (childrenNamed "w:jc")
        = ((c.align.filter alignments.contains).map (Tree.valued "w:jc" "w:val")).toList

/-- An element shows a row: it has one element for each cell, and one more if the row is a
    head. -/
structure ShowsLine (r : Row) (tr : Tree) : Prop where
  name : tr.name? = some "w:tr"
  cells : List.Forall₂ ShowsPlace r.cells (childrenNamed "w:tc" tr)
  head : (childrenNamed "w:trPr" tr).flatMap (childrenNamed "w:tblHeader")
    = if r.header then [.leaf "w:tblHeader" []] else []

/-- An element shows a table: it has one element for each column and for each row. -/
structure ShowsGrid (columns : Nat) (rows : List Row) (t : Tree) : Prop where
  name : t.name? = some "w:tbl"
  columns : ∃ grid, childrenNamed "w:tblGrid" t = [grid]
    ∧ (childrenNamed "w:gridCol" grid).length = columns
  rows : List.Forall₂ ShowsLine rows (childrenNamed "w:tr" t)

/-- An optional element of another name is not found. -/
theorem filter_map_toList {α : Type} {p : Tree → Bool} {f : α → Tree} (h : ∀ a, p (f a) = false)
    (o : Option α) : (o.map f).toList.filter p = [] := by
  cases o with
  | none => rfl
  | some a => simp [h a]

/-- The side of a paragraph is among its properties. -/
theorem childrenNamed_jc (l : ParagraphLooks) :
    l.trees.flatMap (childrenNamed "w:jc")
      = (l.alignment.map (Tree.valued "w:jc" "w:val")).toList := by
  have hkeeps : (if l.keeps then [Tree.leaf "w:keepNext" [], Tree.leaf "w:keepLines" []]
      else []).filter (fun c => c.name? == some "w:jc") = [] := by
    cases l.keeps <;> rfl
  have hspacing : (if l.spacing.attributes.isEmpty then []
      else [Tree.leaf "w:spacing" l.spacing.attributes]).filter
        (fun c => c.name? == some "w:jc") = [] := by
    split <;> rfl
  have hside : (l.alignment.map (Tree.valued "w:jc" "w:val")).toList.filter
      (fun c => c.name? == some "w:jc")
        = (l.alignment.map (Tree.valued "w:jc" "w:val")).toList := by
    cases l.alignment <;> rfl
  have hcontent : l.content.filter (fun c => c.name? == some "w:jc")
      = (l.alignment.map (Tree.valued "w:jc" "w:val")).toList := by
    simp only [ParagraphLooks.content, List.filter_append, hkeeps, hspacing, hside]
    rw [filter_map_toList fun _ => rfl, filter_map_toList fun _ => rfl,
      filter_map_toList fun _ => rfl, filter_map_toList fun _ => rfl,
      filter_map_toList fun _ => rfl, filter_map_toList fun _ => rfl]
    simp
  rw [← hcontent, ParagraphLooks.trees]
  split
  · next h =>
    rw [List.isEmpty_iff.1 h]
    rfl
  · exact List.flatMap_singleton _ _

theorem showsPlace_of_cellTree {borders : List Border} {c : Cell} {t : Tree}
    (h : cellTree borders c = .ok t) : ShowsPlace c t := by
  simp only [cellTree, bind_eq_ok_iff, pure_eq_ok_iff] at h
  obtain ⟨borders, _, margins, _, runs, hruns, spacing, _, rfl⟩ := h
  refine ⟨rfl, _, runs, rfl, forall₂_shows hruns, ?_, childrenNamed_jc _⟩
  unfold ParagraphLooks.trees
  split
  · exact .inl rfl
  · exact .inr ⟨_, rfl⟩

/-- Between elements of other names, those of a name are all that have it. -/
theorem childrenNamed_between {name tag : String} (before : List Tree) {named : List Tree}
    (after : List Tree) (hbefore : ∀ c ∈ before, c.name? ≠ some name)
    (hnamed : ∀ c ∈ named, c.name? = some name) (hafter : ∀ c ∈ after, c.name? ≠ some name) :
    childrenNamed name (.element tag [] (before ++ named ++ after)) = named := by
  rw [childrenNamed, Tree.content, List.filter_append, List.filter_append,
    List.filter_eq_nil_iff.2 fun c hc => by simpa using hbefore c hc,
    List.filter_eq_self.2 fun c hc => by simpa using hnamed c hc,
    List.filter_eq_nil_iff.2 fun c hc => by simpa using hafter c hc, List.nil_append,
    List.append_nil]

/-- The space in a grid without columns is no element. -/
theorem name?_gap_ne {columns : Nat} (name : String) : ∀ c ∈ gap columns, c.name? ≠ some name := by
  unfold gap
  split
  · exact List.forall_mem_singleton.2 nofun
  · exact List.forall_mem_nil _

/-- The head of a row is among its properties. -/
theorem childrenNamed_tblHeader {r : Row} {trees : List Tree} (h : rowProperties r = .ok trees) :
    trees.flatMap (childrenNamed "w:tblHeader")
      = if r.header then [.leaf "w:tblHeader" []] else [] := by
  rcases r with ⟨cells, header, _ | height⟩
  · simp only [rowProperties, bind_eq_ok_iff, pure_eq_ok_iff] at h
    obtain ⟨height, hheight, rfl⟩ := h
    cases hheight
    cases header <;> rfl
  · simp only [rowProperties, bind_eq_ok_iff, pure_eq_ok_iff] at h
    obtain ⟨length, -, height, hheight, rfl⟩ := h
    cases hheight
    cases header <;> rfl

/-- A row that fills the grid has one element for each of its cells. -/
theorem showsLine_of_rowTree {borders : List Border} {columns : Nat} {r : Row} {t : Tree}
    (hlength : r.cells.length = columns) (h : rowTree borders columns r = .ok t) :
    ShowsLine r t := by
  simp only [rowTree, rowCells, bind_eq_ok_iff, pure_eq_ok_iff] at h
  obtain ⟨properties, hproperties, _, ⟨given, hgiven, rfl⟩, rfl⟩ := h
  rw [List.take_of_length_le hlength.le] at hgiven
  have hcells := (mapM_eq_ok_iff.1 hgiven).imp fun _ _ h => showsPlace_of_cellTree h
  have hfull : columns - given.length = 0 := by
    rw [← hcells.length_eq, hlength, Nat.sub_self]
  rw [hfull, List.replicate_zero, List.append_nil]
  have hnames : ∀ t ∈ given, t.name? = some "w:tc" :=
    forall_of_mapM hgiven fun _ _ h => (showsPlace_of_cellTree h).name
  have hproperties' : ∀ c ∈ properties, c.name? = some "w:trPr" := by
    rcases rowProperties_eq hproperties with rfl | ⟨content, rfl⟩
    · exact List.forall_mem_nil _
    · exact List.forall_mem_singleton.2 rfl
  refine ⟨rfl, ?_, ?_⟩
  · rw [childrenNamed_append _ (fun c hc => ?_) hnames]
    · exact hcells
    · rcases List.mem_append.1 hc with hc | hc
      · exact name?_gap_ne _ c hc
      · rw [hproperties' c hc]
        decide
  · rw [childrenNamed_between (gap columns) given (name?_gap_ne _) hproperties' fun c hc => ?_]
    · exact childrenNamed_tblHeader hproperties
    · rw [hnames c hc]
      decide

theorem length_gridCol (columns : Nat) (width : Int) :
    (childrenNamed "w:gridCol" (gridTree columns width)).length = columns := by
  rw [gridTree, childrenNamed_append _ (name?_gap_ne _) fun c hc => ?_]
  · exact List.length_replicate
  · rw [List.eq_of_mem_replicate hc]
    rfl

theorem showsGrid_of_tableTree {rows : List Row} {columns : Nat} {width : Int}
    {borders : List Border} {margins : List Int} {t : Tree}
    (hlength : ∀ r ∈ rows, r.cells.length = columns)
    (h : tableTree rows columns width borders margins = .ok t) : ShowsGrid columns rows t := by
  simp only [tableTree, Int.toNat_natCast, bind_eq_ok_iff, pure_eq_ok_iff] at h
  obtain ⟨properties, hproperties, trees, htrees, rfl⟩ := h
  have hname : properties.name? = some "w:tblPr" := by
    simp only [tableProperties, bind_eq_ok_iff, pure_eq_ok_iff] at hproperties
    obtain ⟨borders', -, margins', -, rfl⟩ := hproperties
    rfl
  have hlines : List.Forall₂ ShowsLine rows trees :=
    ((List.forall₂_and_left _ _).2 ⟨hlength, mapM_eq_ok_iff.1 htrees⟩).imp
      fun _ _ h => showsLine_of_rowTree h.1 h.2
  have hnames : ∀ t ∈ trees, t.name? = some "w:tr" :=
    forall_of_mapM htrees fun _ _ h => (showsRow_of_rowTree h).2
  have hchildren : childrenNamed "w:tr"
      (.element "w:tbl" [] (properties :: gridTree columns width :: trees)) = trees := by
    refine childrenNamed_append [properties, gridTree columns width] ?_ hnames
    refine List.forall_mem_cons.2 ⟨?_, List.forall_mem_singleton.2 ?_⟩
    · rw [hname]
      decide
    · exact fun hgrid => absurd (Option.some.inj hgrid) (by decide)
  refine ⟨rfl, ⟨gridTree columns width, ?_, length_gridCol columns width⟩, ?_⟩
  · refine childrenNamed_between [properties] trees ?_ (List.forall_mem_singleton.2 rfl) ?_
    · rw [List.forall_mem_singleton, hname]
      decide
    · intro c hc
      rw [hnames c hc]
      decide
  · rw [hchildren]
    exact hlines

/-- The element that a package has in the place of a table. -/
theorem showsGrid_of_assemble {c : Config} {d : Document} {p : Package} (h : assemble c d = .ok p)
    {i : Nat} {rows : List Row} {columns : Nat} {width : Int} {borders : List Border}
    {margins : List Int} (hblock : d.blocks[i]? = some (.table rows columns width borders margins))
    (hlength : ∀ r ∈ rows, r.cells.length = columns) :
    ∃ t, p.body[i]? = some t ∧ ShowsGrid columns rows t := by
  simp only [assemble, bind_eq_ok_iff, pure_eq_ok_iff] at h
  obtain ⟨styles, _, properties, _, ⟨body, lists⟩, hbody, rfl⟩ := h
  have hblocks := forall₂_of_bodyOf hbody
  obtain ⟨hi, hget⟩ := List.getElem?_eq_some_iff.1 hblock
  have hi' : i < body.length := hblocks.length_eq ▸ hi
  obtain ⟨l, l', ht⟩ := hblocks.get hi hi'
  rw [List.get_eq_getElem, List.get_eq_getElem, hget] at ht
  simp only [blockTree, bind_eq_ok_iff, pure_eq_ok_iff, Prod.mk.injEq] at ht
  obtain ⟨t, ht, heq, -⟩ := ht
  refine ⟨t, ?_, showsGrid_of_tableTree hlength ht⟩
  rw [List.getElem?_eq_getElem hi', heq]

/-! ## Composed tables -/

theorem isShownRow_gridRow {line : List (List Run)}
    (h : ∀ runs ∈ line, ∀ r ∈ runs, IsShownRun r) (columns : Nat) (align : List (Option String))
    (header : Bool) : IsShownRow (gridRow columns align header line) := by
  have hruns : ∀ runs ∈ fitTo columns [] line, ∀ r ∈ runs, IsShownRun r := by
    intro runs hruns r hr
    rcases List.mem_append.1 (List.mem_of_mem_take hruns) with hmem | hmem
    · exact h runs hmem r hr
    · rw [List.eq_of_mem_replicate hmem] at hr
      cases hr
  have hcells {looks : CellLooks} (hlooks : looks ∈ [headerLooks, dataLooks]) (width : Int)
      (align : List (Option String)) :
      ∀ c ∈ gridCells width looks align (fitTo columns [] line), IsShownCell c := by
    intro c hc
    rw [gridCells, ← List.map_uncurry_zip_eq_zipWith] at hc
    obtain ⟨⟨runs, side⟩, hmem, rfl⟩ := List.mem_map.1 hc
    exact isShownCell_mk hlooks (hruns runs (List.of_mem_zip hmem).1) width side
  cases header with
  | true => exact isShownRow_mk (hcells (by simp) _ _) true 600 (by simp)
  | false => exact isShownRow_mk (hcells (by simp) _ _) false 400 (by simp)

/-- Composed rows are shown if the runs in them are. -/
theorem isShownBlock_gridRows {lines : List (List (List Run))}
    (h : ∀ line ∈ lines, ∀ runs ∈ line, ∀ r ∈ runs, IsShownRun r) (columns : Nat)
    (align : List (Option String)) (code : CodeLooks) (width : Int) :
    IsShownBlock code
      (.table (gridRows columns align lines) columns width tableBorders tableMargins) := by
  refine isShownBlock_table ?_ _ _
  cases lines with
  | nil => exact List.forall_mem_nil _
  | cons head rest =>
    obtain ⟨hhead, hrest⟩ := List.forall_mem_cons.1 h
    refine List.forall_mem_cons.2 ⟨isShownRow_gridRow hhead columns align true, ?_⟩
    exact List.forall_mem_map.2 fun line hline =>
      isShownRow_gridRow (hrest line hline) columns align false

/-- The block of a table keeps the grid of its texts: each row has one cell for each column,
    which shows the text in its place, if there is one, and keeps to the side that the column is
    given, if any. It can be shown if all the runs in it can, and in any package with such a
    block its element has the same grid, cell by cell. -/
structure KeepsGrid {σ : Type} (b : Bridge σ) (config : Config) (columns : Nat)
    (texts : List (List String)) (align : List (Option String)) (lines : List (List (List Run)))
    (made : List Row) (block : Block) : Prop where
  isTable : block = .table made columns (100 / columns : Nat) tableBorders tableMargins
  formats : List.Forall₂ (fun row line => List.Forall₂ (IsFormat b config) (row.take columns) line)
    texts lines
  length : made.length = texts.length
  grid : IsGrid columns align lines made
  shown : (∀ line ∈ lines, ∀ runs ∈ line, ∀ r ∈ runs, IsShownRun r) →
    ∀ code, IsShownBlock code block
  element : ∀ {c : Config} {d : Document} {p : Package} {i : Nat}, assemble c d = .ok p →
    d.blocks[i]? = some block → ∃ tree, p.body[i]? = some tree ∧ ShowsGrid columns made tree

theorem keepsGrid_gridRows {σ : Type} {b : Bridge σ} {config : Config} {columns : Nat}
    {texts : List (List String)} {lines : List (List (List Run))}
    (h : List.Forall₂ (fun row line => List.Forall₂ (IsFormat b config) (row.take columns) line)
      texts lines) (align : List (Option String)) :
    KeepsGrid b config columns texts align lines (gridRows columns align lines)
      (.table (gridRows columns align lines) columns (100 / columns : Nat) tableBorders
        tableMargins) := by
  have hgrid := isGrid_gridRows columns align lines
  refine ⟨rfl, h, hgrid.length.trans h.length_eq.symm, hgrid,
    fun hruns code => isShownBlock_gridRows hruns columns align code _,
    fun hp hblock => showsGrid_of_assemble hp hblock fun r hr => ?_⟩
  obtain ⟨k, hk⟩ := List.mem_iff_getElem?.1 hr
  exact (hgrid.row hk).1

/-- A table from its token to its element, which is the same where it is composed alone. Without
    a cell in its head it fails. Otherwise its texts are formatted row by row, as far as they have
    a place in the grid, and it fails with a fault of that or becomes one block that keeps the
    grid. -/
theorem table_kept {σ : Type} (b : Bridge σ) (config : Config) (header : List String)
    (rows : List (List String)) (align : List (Option String)) (t : Composition σ) :
    let n := header.length
    let o := composeToken b config (.table header rows align) t
    let alone := compose b config [.table header rows align] t
    alone.result = o.result ∧ alone.state = o.state ∧
    (n = 0 → o = ⟨.error .headless, [], t⟩) ∧
    (1 ≤ n →
      let formatted := linesOf b config n (header :: rows) t
      n * (100 / n) ≤ 100 ∧ 100 < n * (100 / n + 1) ∧ o.state = formatted.state ∧
      ((∃ fault, formatted.result = .error fault ∧ o.result = .error fault) ∨
        ∃ lines made block, formatted.result = .ok lines ∧ o.result = .ok [block] ∧
          KeepsGrid b config n (header :: rows) align lines made block)) := by
  intro n o alone
  obtain ⟨halone, hleft⟩ := compose_singleton_mirrors b config (.table header rows align) t
  rw [Except.map_id] at halone
  refine ⟨halone, hleft, fun hn => ?_, fun hn => ?_⟩
  · obtain rfl := List.length_eq_zero_iff.1 hn
    rfl
  · intro formatted
    have hne : header ≠ [] := List.length_pos_iff.1 hn
    obtain ⟨hresult, hstate⟩ := composeToken_table_mirrors b config hne rows align t
    refine ⟨Nat.mul_div_le 100 n, Nat.lt_mul_div_succ 100 hn, hstate, ?_⟩
    rcases hlines : linesOf b config n (header :: rows) t with ⟨fault | lines, said, s⟩
    · rw [hlines] at hresult
      exact .inl ⟨fault, congrArg Outcome.result hlines, hresult⟩
    · rw [hlines] at hresult
      exact .inr ⟨lines, _, _, congrArg Outcome.result hlines, hresult,
        keepsGrid_gridRows ((linesOf_gives b config n _).of_run hlines) align⟩

/-- A row that is too short and one that is too long, and a side for the first column alone. -/
theorem table_kept_ragged :
    let rows := [["c"], ["$d$", "e", "f"]]
    ∃ lines made block,
      (composeToken (rejecting "x") .standard (.table ["a", "b"] rows [some "center"])
        ⟨0, ()⟩).result = .ok [block]
      ∧ KeepsGrid (rejecting "x") .standard 2 (["a", "b"] :: rows) [some "center"] lines made
        block := by
  intro rows
  obtain ⟨-, -, -, hkept⟩ :=
    table_kept (rejecting "x") .standard ["a", "b"] rows [some "center"] ⟨0, ()⟩
  obtain ⟨-, -, -, ⟨fault, -, hfault⟩ | ⟨lines, made, block, -, hblock, hkeeps⟩⟩ :=
    hkept (by decide)
  · have hok : (composeToken (rejecting "x") .standard (.table ["a", "b"] rows [some "center"])
        ⟨0, ()⟩).result.isOk = true := by decide +kernel
    rw [hfault] at hok
    cases hok
  · exact ⟨lines, made, block, hblock, hkeeps⟩

end Manuscript.Package
