import Manuscript.Document.Compose
import Manuscript.Proofs.Package.Body

/-!
# The content of a package

A package shows what its document says, and in the same order: each block is one element
of the body, and each run of a paragraph or of a cell one element after the properties of
the paragraph (`content_kept`). The text of a run is read off its elements (`shownText`),
with each carriage return as a line feed; a formula is found as it is.
-/

namespace Manuscript.Package

open Manuscript.Document Manuscript.Style Manuscript.Success Manuscript.Text Manuscript.Xml

/-! ## Reading text -/

/-- The characters that a part of a run shows. -/
def shownChars : Tree → List Char
  | .element "w:t" _ content => content.flatMap fun
    | .text s => s.toList
    | _ => []
  | .element "w:tab" _ _ => ['\t']
  | .element "w:br" _ _ => ['\n']
  | _ => []

/-- The text that a run shows. -/
def shownText (run : Tree) : List Char := run.content.flatMap shownChars

/-- A text with carriage returns made line feeds. -/
def withLineFeeds (s : String) : List Char := s.toList.map fun c => if c = '\r' then '\n' else c

/-- A run shows a text, and keeps the blanks that a piece of it begins or ends with. -/
structure ShowsText (s : String) (run : Tree) : Prop where
  name : run.name? = some "w:r"
  text : shownText run = withLineFeeds s
  blanks : ∀ part ∈ run.content, part.name? = some "w:t" →
    (∃ b cs, isBlank b = true ∧ (shownChars part = b :: cs ∨ shownChars part = cs ++ [b])) →
      ("xml:space", "preserve") ∈ part.attributes

namespace Piece

theorem toText_ofText (cs : List Char) :
    toText (ofText cs) = cs.map fun c => if c = '\r' then '\n' else c := by
  induction cs with
  | nil => rfl
  | cons c cs ih =>
    rw [ofText, List.map_cons]
    by_cases htab : c = '\t'
    · subst htab
      rw [if_pos rfl, toText, ih]
      rfl
    · rw [if_neg htab]
      by_cases hline : (c = '\n' || c = '\r') = true
      · rw [if_pos hline, toText, ih]
        simp only [Bool.or_eq_true, decide_eq_true_eq] at hline
        rcases hline with rfl | rfl <;> rfl
      · rw [if_neg hline, toText_cons, ih]
        simp only [Bool.or_eq_true, decide_eq_true_eq, not_or] at hline
        rw [if_neg hline.2]

theorem shownChars_tree (p : Piece) : shownChars p.tree = toText [p] := by
  cases p with
  | literal cs => simp [tree, shownChars, toText]
  | tab => rfl
  | line => rfl

theorem flatMap_shownChars (ps : List Piece) :
    (ps.map tree).flatMap shownChars = toText ps := by
  induction ps with
  | nil => rfl
  | cons p ps ih =>
    rw [List.map_cons, List.flatMap_cons, ih, shownChars_tree]
    cases p <;> simp [toText]

/-- A piece with a blank at its start or at its end keeps it. -/
theorem preserve_mem {p : Piece} (hname : p.tree.name? = some "w:t") {b : Char} {cs : List Char}
    (hb : isBlank b = true) (h : shownChars p.tree = b :: cs ∨ shownChars p.tree = cs ++ [b]) :
    ("xml:space", "preserve") ∈ p.tree.attributes := by
  cases p with
  | literal ds =>
    rw [shownChars_tree, toText, toText, List.append_nil] at h
    have hpadded : isPadded ds = true := by
      rcases h with rfl | rfl <;> simp [isPadded, hb]
    simp [tree, Tree.attributes, hpadded]
  | tab => exact absurd hname (by decide)
  | line => exact absurd hname (by decide)

end Piece

/-- The elements of a text, after the looks of the run if it has any, show the text. -/
theorem showsText_of_textContent {s : String} {content : List Tree} (looks : Option RunLooks)
    (h : textContent s = .ok content) :
    ShowsText s (.element "w:r" [] ((looks.map RunLooks.tree).toList ++ content)) := by
  simp only [textContent, legal?, bind_eq_ok_iff, pure_eq_ok_iff] at h
  obtain ⟨s', hs, rfl⟩ := h
  -- A text that may stand in a package is not changed, and the looks show none.
  obtain rfl : s' = s := by
    split at hs
    · exact (Except.ok.inj hs).symm
    · cases hs
  have hlooks : (looks.map RunLooks.tree).toList.flatMap shownChars = [] := by
    cases looks <;> rfl
  refine ⟨rfl, ?_, fun part hpart hname ⟨b, cs, hb, h⟩ => ?_⟩
  · rw [shownText, Tree.content, List.flatMap_append, hlooks, List.nil_append,
      Piece.flatMap_shownChars, Piece.toText_ofText]
    rfl
  · rcases List.mem_append.1 hpart with hpart | hpart
    · obtain ⟨l, -, rfl⟩ := Option.map_eq_some_iff.1 (Option.mem_toList.1 hpart)
      exact absurd (Option.some.inj hname) (by decide)
    · obtain ⟨p, -, rfl⟩ := List.mem_map.1 hpart
      exact Piece.preserve_mem hname hb h

/-! ## Paragraphs -/

/-- An element shows a run: a formula is there as it is, in an element of its own if it is
    set on its own. -/
def Shows (r : Run) (t : Tree) : Prop :=
  match r.content with
  | .math m => t = if m.display then .element "m:oMathPara" [] [m.element] else m.element
  | .styled s => ShowsText s.text t
  | .bare _ => False

/-- A paragraph with some content after its properties, if it has any. -/
def IsParagraph (p : Tree) (content : List Tree) : Prop :=
  ∃ properties, p = .element "w:p" [] (properties ++ content)
    ∧ (properties = [] ∨ ∃ ps, properties = [.element "w:pPr" [] ps])

/-- A paragraph shows some runs, each by one element. -/
def ShowsRuns (runs : List Run) (p : Tree) : Prop :=
  ∃ content, IsParagraph p content ∧ List.Forall₂ Shows runs content

theorem isParagraph_paragraphTree (looks : ParagraphLooks) (content : List Tree) :
    IsParagraph (paragraphTree looks content) content := by
  refine ⟨looks.trees, rfl, ?_⟩
  unfold ParagraphLooks.trees
  split
  · exact .inl rfl
  · exact .inr ⟨_, rfl⟩

theorem shows_of_runTree {r : Run} {t : Tree} (h : runTree r = .ok t) : Shows r t := by
  unfold runTree at h
  unfold Shows
  cases hr : r.content with
  | styled s =>
    simp only [hr, textRun, bind_eq_ok_iff, pure_eq_ok_iff] at h
    obtain ⟨looks, _, content, hcontent, rfl⟩ := h
    exact showsText_of_textContent (some looks) hcontent
  | math m =>
    rw [hr] at h
    exact (Except.ok.inj h).symm
  | bare s =>
    rw [hr] at h
    cases h

theorem forall₂_shows {runs : List Run} {trees : List Tree} (h : runTrees runs = .ok trees) :
    List.Forall₂ Shows runs trees :=
  (mapM_eq_ok_iff.1 h).imp fun _ _ => shows_of_runTree

theorem showsRuns_of_runsParagraph {looks : ParagraphLooks} {runs : List Run} {spacing : Document.Spacing}
    {indent : Option Indent} {border : Option Border} {tree : Tree}
    (h : runsParagraph looks runs spacing indent border = .ok tree) : ShowsRuns runs tree := by
  obtain ⟨shown, spacing, indent, border, hshown, rfl⟩ := exists_of_runsParagraph h
  exact ⟨shown, isParagraph_paragraphTree _ _, forall₂_shows hshown⟩

/-- A paragraph made without runs has no content. -/
theorem isParagraph_of_runsParagraph {looks : ParagraphLooks} {spacing : Document.Spacing}
    {indent : Option Indent} {border : Option Border} {tree : Tree}
    (h : runsParagraph looks [] spacing indent border = .ok tree) : IsParagraph tree [] := by
  obtain ⟨content, hparagraph, hshows⟩ := showsRuns_of_runsParagraph h
  rwa [List.forall₂_nil_left_iff.1 hshows] at hparagraph

/-! ## Tables -/

/-- The elements with a name in the content of a tree. -/
def childrenNamed (name : String) (t : Tree) : List Tree :=
  t.content.filter fun c => c.name? == some name

/-- A cell shows some runs in its one paragraph. -/
def ShowsCell (runs : List Run) (cell : Tree) : Prop :=
  ∃ p, childrenNamed "w:p" cell = [p] ∧ ShowsRuns runs p

/-- A row of a grid shows the cells that there is place for; others have no content. -/
def ShowsRow (columns : Nat) (r : Row) (row : Tree) : Prop :=
  List.Forall₂ ShowsCell (fitTo columns [] (r.cells.map Cell.runs)) (childrenNamed "w:tc" row)

theorem showsCell_of_cellTree {borders : List Border} {c : Cell} {t : Tree}
    (h : cellTree borders c = .ok t) : ShowsCell c.runs t := by
  simp only [cellTree, bind_eq_ok_iff, pure_eq_ok_iff] at h
  obtain ⟨borders, _, margins, _, runs, hruns, spacing, _, rfl⟩ := h
  exact ⟨_, rfl, runs, isParagraph_paragraphTree _ _, forall₂_shows hruns⟩

theorem showsCell_emptyCell (columns : Nat) : ShowsCell [] (emptyCell columns) :=
  ⟨_, rfl, [], ⟨[], rfl, .inl rfl⟩, .nil⟩

/-- After elements of other names, those of a name are all that have it. -/
theorem childrenNamed_append {name tag : String} (before : List Tree) {after : List Tree}
    (hbefore : ∀ c ∈ before, c.name? ≠ some name) (hafter : ∀ c ∈ after, c.name? = some name) :
    childrenNamed name (.element tag [] (before ++ after)) = after := by
  rw [childrenNamed, Tree.content, List.filter_append,
    List.filter_eq_nil_iff.2 fun c hc => by simpa using hbefore c hc,
    List.filter_eq_self.2 fun c hc => by simpa using hafter c hc, List.nil_append]

theorem forall₂_rowCells {borders : List Border} {columns : Nat} {cells : List Cell}
    {trees : List Tree} (h : rowCells borders columns cells = .ok trees) :
    List.Forall₂ ShowsCell (fitTo columns [] (cells.map Cell.runs)) trees
      ∧ ∀ t ∈ trees, t.name? = some "w:tc" := by
  simp only [rowCells, bind_eq_ok_iff, pure_eq_ok_iff] at h
  obtain ⟨given, hgiven, rfl⟩ := h
  have hcells := mapM_eq_ok_iff.1 hgiven
  have hlength := hcells.length_eq
  rw [List.length_take] at hlength
  constructor
  · -- The grid has room for `columns` cells: those given, and then empty ones.
    have hrest : columns - (cells.map Cell.runs).length = columns - given.length := by
      rw [List.length_map]
      omega
    rw [fitTo_eq, ← List.map_take, hrest]
    refine List.rel_append ?_ ?_
    · exact List.forall₂_map_left_iff.2 (hcells.imp fun _ _ => showsCell_of_cellTree)
    · induction columns - given.length with
      | zero => exact .nil
      | succ n ih => exact .cons (showsCell_emptyCell columns) ih
  · refine List.forall_mem_append.2 ⟨forall_of_mapM hgiven fun c t h => ?_, fun t ht => ?_⟩
    · simp only [cellTree, bind_eq_ok_iff, pure_eq_ok_iff] at h
      obtain ⟨_, _, _, _, _, _, _, _, rfl⟩ := h
      rfl
    · rw [List.eq_of_mem_replicate ht]
      rfl

/-- The properties of a row are one element, if there are any. -/
theorem rowProperties_eq {r : Row} {trees : List Tree} (h : rowProperties r = .ok trees) :
    trees = [] ∨ ∃ content, trees = [.element "w:trPr" [] content] := by
  have hone (content : List Tree) :
      (if content.isEmpty then [] else [Tree.element "w:trPr" [] content]) = []
        ∨ ∃ content', (if content.isEmpty then [] else [Tree.element "w:trPr" [] content])
          = [.element "w:trPr" [] content'] := by
    split
    · exact .inl rfl
    · exact .inr ⟨content, rfl⟩
  rcases r with ⟨cells, header, _ | height⟩
  · simp only [rowProperties, bind_eq_ok_iff, pure_eq_ok_iff] at h
    obtain ⟨height, -, rfl⟩ := h
    exact hone _
  · simp only [rowProperties, bind_eq_ok_iff, pure_eq_ok_iff] at h
    obtain ⟨length, -, height, -, rfl⟩ := h
    exact hone _

theorem showsRow_of_rowTree {borders : List Border} {columns : Nat} {r : Row} {t : Tree}
    (h : rowTree borders columns r = .ok t) : ShowsRow columns r t ∧ t.name? = some "w:tr" := by
  simp only [rowTree, bind_eq_ok_iff, pure_eq_ok_iff] at h
  obtain ⟨properties, hproperties, cells, hcells, rfl⟩ := h
  obtain ⟨hshows, hnames⟩ := forall₂_rowCells hcells
  refine ⟨?_, rfl⟩
  rw [ShowsRow, childrenNamed_append _ (fun c hc => ?_) hnames]
  · exact hshows
  · -- Before the cells stand a gap, which is text, and the properties of the row.
    rcases List.mem_append.1 hc with hc | hc
    · unfold gap at hc
      split at hc
      · rw [List.mem_singleton.1 hc]
        decide
      · cases hc
    · rcases rowProperties_eq hproperties with rfl | ⟨content, rfl⟩
      · cases hc
      · rw [List.mem_singleton.1 hc]
        exact fun hname => absurd (Option.some.inj hname) (by decide)

/-- An element shows a block. -/
def ShowsBlock : Block → Tree → Prop
  | .paragraph runs _ _ _, t | .listItem runs _ _ _ _ _ _, t => ShowsRuns runs t
  | .heading _ text _, t =>
    if text = "" then IsParagraph t [] else ∃ run, IsParagraph t [run] ∧ ShowsText text run
  | .code text _ _ _ _ _, t => ∃ run, IsParagraph t [run] ∧ ShowsText text run
  | .spacer _, t | .rule _ _, t => IsParagraph t []
  | .table rows columns _ _ _, t =>
    List.Forall₂ (ShowsRow columns.toNat) rows (childrenNamed "w:tr" t)
  | .unknown, _ => False

theorem forall₂_showsRow {rows : List Row} {columns width : Int} {borders : List Border}
    {margins : List Int} {t : Tree} (h : tableTree rows columns width borders margins = .ok t) :
    List.Forall₂ (ShowsRow columns.toNat) rows (childrenNamed "w:tr" t) := by
  simp only [tableTree, bind_eq_ok_iff, pure_eq_ok_iff] at h
  obtain ⟨properties, hproperties, trees, htrees, rfl⟩ := h
  have hname : properties.name? = some "w:tblPr" := by
    simp only [tableProperties, bind_eq_ok_iff, pure_eq_ok_iff] at hproperties
    obtain ⟨borders', -, margins', -, rfl⟩ := hproperties
    rfl
  have hchildren : childrenNamed "w:tr"
      (.element "w:tbl" [] (properties :: gridTree columns.toNat width :: trees)) = trees := by
    refine childrenNamed_append [properties, gridTree columns.toNat width] ?_
      (forall_of_mapM htrees fun _ _ h => (showsRow_of_rowTree h).2)
    refine List.forall_mem_cons.2 ⟨?_, List.forall_mem_cons.2 ⟨?_, List.forall_mem_nil _⟩⟩
    · rw [hname]
      decide
    · exact fun hgrid => absurd (Option.some.inj hgrid) (by decide)
  rw [hchildren]
  exact (mapM_eq_ok_iff.1 htrees).imp fun _ _ h => (showsRow_of_rowTree h).1

/-- An element shows the heading that it is made from. -/
theorem showsHeading {code : CodeLooks} {level : Int} {text : String} {spacing : Document.Spacing}
    {t : Tree} (h : headingTree code level text spacing = .ok t) :
    if text = "" then IsParagraph t [] else ∃ run, IsParagraph t [run] ∧ ShowsText text run := by
  unfold headingTree at h
  cases hstyle : headingStyle? code level with
  | none =>
    rw [hstyle] at h
    cases h
  | some style =>
    -- A heading without text has no run, not even an empty one.
    by_cases htext : text = ""
    · have hempty : text.isEmpty = true := by simpa using htext
      simp only [hstyle, hempty, if_true, bind_eq_ok_iff, pure_eq_ok_iff] at h
      obtain ⟨runs, rfl, spacing, -, rfl⟩ := h
      rw [if_pos htext]
      exact isParagraph_paragraphTree _ _
    · have hempty : text.isEmpty = false := by simpa using htext
      simp only [hstyle, hempty, Bool.false_eq_true, if_false, textRun, bind_eq_ok_iff,
        pure_eq_ok_iff, map_eq_ok_iff] at h
      obtain ⟨runs, ⟨run, ⟨content, hcontent, rfl⟩, rfl⟩, spacing, -, rfl⟩ := h
      rw [if_neg htext]
      exact ⟨_, isParagraph_paragraphTree _ _, showsText_of_textContent none hcontent⟩

/-- An element shows the code that it is made from. -/
theorem showsCode {code : CodeLooks} {text : String} {font size : Value}
    {spacing : Document.Spacing} {shading : Option String} {t : Tree}
    (h : codeTree code text font size spacing shading = .ok t) :
    ∃ run, IsParagraph t [run] ∧ ShowsText text run := by
  simp only [codeTree, bind_eq_ok_iff, pure_eq_ok_iff] at h
  obtain ⟨style, -, content, hcontent, font, -, size, -, spacing, -, shading, -, rfl⟩ := h
  exact ⟨_, isParagraph_paragraphTree _ _, showsText_of_textContent (some _) hcontent⟩

/-- An element shows the block that it is made from. -/
theorem showsBlock_of_blockTree {code : CodeLooks} {lists lists' : Lists} {b : Block} {t : Tree}
    (h : blockTree code lists b = .ok (t, lists')) : ShowsBlock b t := by
  cases b with
  | paragraph runs spacing indent border =>
    simp only [blockTree, bind_eq_ok_iff, pure_eq_ok_iff, Prod.mk.injEq] at h
    obtain ⟨t, ht, rfl, -⟩ := h
    exact showsRuns_of_runsParagraph ht
  | heading level text spacing =>
    simp only [blockTree, bind_eq_ok_iff, pure_eq_ok_iff, Prod.mk.injEq] at h
    obtain ⟨t, ht, rfl, -⟩ := h
    exact showsHeading ht
  | listItem runs ordered level list start spacing indent =>
    cases ordered with
    | true =>
      simp only [blockTree, bind_eq_ok_iff, pure_eq_ok_iff, Prod.mk.injEq] at h
      obtain ⟨level, -, ⟨number, lists⟩, -, t, ht, rfl, -⟩ := h
      exact showsRuns_of_runsParagraph ht
    | false =>
      simp only [blockTree, bind_eq_ok_iff, pure_eq_ok_iff, Prod.mk.injEq] at h
      obtain ⟨t, ht, rfl, -⟩ := h
      exact showsRuns_of_runsParagraph ht
  | code text font size spacing shading language =>
    simp only [blockTree, bind_eq_ok_iff, pure_eq_ok_iff, Prod.mk.injEq] at h
    obtain ⟨t, ht, rfl, -⟩ := h
    exact showsCode ht
  | spacer spacing =>
    simp only [blockTree, bind_eq_ok_iff, pure_eq_ok_iff, Prod.mk.injEq] at h
    obtain ⟨t, ht, rfl, -⟩ := h
    exact isParagraph_of_runsParagraph ht
  | rule border spacing =>
    simp only [blockTree, bind_eq_ok_iff, pure_eq_ok_iff, Prod.mk.injEq] at h
    obtain ⟨t, ht, rfl, -⟩ := h
    exact isParagraph_of_runsParagraph ht
  | table rows columns width borders margins =>
    simp only [blockTree, bind_eq_ok_iff, pure_eq_ok_iff, Prod.mk.injEq] at h
    obtain ⟨t, ht, rfl, -⟩ := h
    exact forall₂_showsRow ht
  | unknown => cases h

/-- A package shows its document: one element for each block, in order. -/
theorem content_kept (c : Config) (d : Document) (p : Package) (h : assemble c d = .ok p) :
    List.Forall₂ ShowsBlock d.blocks p.body := by
  simp only [assemble, bind_eq_ok_iff, pure_eq_ok_iff] at h
  obtain ⟨styles, _, properties, _, ⟨body, lists⟩, hbody, rfl⟩ := h
  exact (forall₂_of_bodyOf hbody).imp fun _ _ ⟨_, _, h⟩ => showsBlock_of_blockTree h

/-- Text with blanks around it and breaks in it, a formula after text, and a table with rows
    that are too short and too long. -/
def sampleBlocks : List Block :=
  let text (s : String) : Run :=
    ⟨.plain, s, .styled { text := s, font := .text "Arial", size := .int 12 }⟩
  let formula : Run := ⟨.displayMath, "$$x$$", .math ⟨.leaf "m:oMath" [], "x", true⟩⟩
  let cell (s : String) : Cell := ⟨[text s], 50, [0, 0, 0, 0], {}, none⟩
  [.heading 1 "" {}, .heading 2 "a\tb" {},
    .paragraph [text " a\r\nb\t", formula, text ""] {} none none,
    .listItem [formula, text "c"] true 0 1 4 {} none, .spacer {},
    .code "  d\n\te" .null (.int 9) {} none none,
    .table [⟨[cell "f"], true, none⟩, ⟨[cell "g", cell "h ", cell "i"], false, none⟩] 2 50 []
      [0, 0, 0, 0]]

theorem content_kept_sample :
    ∃ p, assemble .standard ⟨sampleBlocks, []⟩ = .ok p
      ∧ List.Forall₂ ShowsBlock sampleBlocks p.body := by
  obtain ⟨p, hp⟩ := exists_eq_ok (x := assemble .standard ⟨sampleBlocks, []⟩) (by decide +kernel)
  exact ⟨p, hp, content_kept _ _ _ hp⟩

end Manuscript.Package
