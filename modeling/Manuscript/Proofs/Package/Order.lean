import Manuscript.Proofs.Document.Locality
import Manuscript.Proofs.Package.Body
import Manuscript.Proofs.Package.Borders
import Manuscript.Proofs.Package.Insertion

/-!
# Schema order

The elements of a body hold what the schema of packages lets them hold, in its order: some
kinds of elements at most once each, one after the other (`Shape.once`), and after them any
number of elements of other kinds (`Shape.more`). Formulas are given and stay as they are, so
that nothing is said about what is in them.

* `Through`: a property of an element and of all elements in it, formulas left out;
* `InOrder`: an element holds what the schema lets it hold;
* `Edged`: the lines of a table are its borders, side by side;
* `placed_of_inOrder`: the properties of an element in order can be put in one at a time;
* `stands_of_blockTree`: both properties, through the element of a block, from one lemma for
  each function that makes a part of it;
* `inOrder_of_assemble`: the same for all elements of a body.
-/

namespace Manuscript.Document

/-- The borders of a table. -/
def Block.borders : Block → List Border
  | table _ _ _ borders _ => borders
  | _ => []

end Manuscript.Document

namespace Manuscript.Package

open Manuscript.Document Manuscript.Style Manuscript.Success Manuscript.Xml

/-! ## The schema -/

/-- What an element may hold. -/
structure Shape where
  /-- Kinds of elements that stand there at most once each, in this order. -/
  once : List String
  /-- Kinds of elements that follow, any number of times. -/
  more : List String := []

/-- What an element may hold, as far as bodies make use of it. An element that sets a border
    around a paragraph holds a line along one side, and has no shape of its own. -/
def shapeOf : String → Option Shape
  | "w:p" => some { once := ["w:pPr"], more := ["w:r"] }
  | "w:pPr" =>
    some { once := ["w:pStyle", "w:numPr", "w:pBdr", "w:shd", "w:spacing", "w:ind", "w:jc"] }
  | "w:numPr" => some { once := ["w:ilvl", "w:numId"] }
  | "w:pBdr" => none
  | "w:r" => some { once := ["w:rPr"], more := ["w:t", "w:tab", "w:br"] }
  | "w:rPr" => some { once := ["w:rFonts", "w:b", "w:i", "w:color", "w:sz"] }
  | "w:tbl" => some { once := ["w:tblPr", "w:tblGrid"], more := ["w:tr"] }
  | "w:tblPr" =>
    some { once :=
      ["w:tblStyle", "w:tblW", "w:tblBorders", "w:tblLayout", "w:tblCellMar", "w:tblLook"] }
  | "w:tblGrid" => some { once := [], more := ["w:gridCol"] }
  | "w:tr" => some { once := ["w:trPr"], more := ["w:tc"] }
  | "w:trPr" => some { once := ["w:trHeight", "w:tblHeader"] }
  | "w:tc" => some { once := ["w:tcPr"], more := ["w:p"] }
  | "w:tcPr" => some { once := ["w:tcW", "w:tcBorders", "w:tcMar", "w:vAlign"] }
  | "w:tblBorders" | "w:tcBorders" => some { once := [], more := sides.map ("w:" ++ ·) }
  | "w:tblCellMar" | "w:tcMar" => some { once := ["w:top", "w:left", "w:bottom", "w:right"] }
  | _ => some { once := [] }

/-! ## Order -/

/-- A property of a tree and of all that is in it, but for formulas in paragraphs. -/
inductive Through (formula P : Tree → Prop) : Tree → Prop where
  /-- Text holds nothing. -/
  | text (s : String) : Through formula P (.text s)
  /-- A remark holds nothing. -/
  | remark (s : String) : Through formula P (.remark s)
  /-- An element has the property, and so has what it holds. -/
  | element {name : String} {attributes : List (String × String)} {content : List Tree}
      (here : P (.element name attributes content))
      (within : ∀ t ∈ content, ¬ (name = "w:p" ∧ formula t) → Through formula P t) :
      Through formula P (.element name attributes content)

/-- An element holds what the schema lets it hold, and a paragraph may hold formulas among
    its runs. -/
def InOrder (formula : Tree → Prop) : Tree → Prop
  | .element name _ content =>
    match shapeOf name with
    | some shape => ∃ head tail, content = head ++ tail ∧ OnceIn shape.once head ∧
        ∀ t ∈ tail, name = "w:p" ∧ formula t ∨ ∀ n, t.name? = some n → n ∈ shape.more
    | none => content.length ≤ 1
  | _ => True

/-- The element around the lines of a table or of a cell holds the edges of some borders, side
    by side. -/
def Edged (borders : List Border) (t : Tree) : Prop :=
  t.name? = some "w:tblBorders" ∨ t.name? = some "w:tcBorders" →
    t.content = (bySide borders).map edge ∧ (bySide borders).Perm borders

theorem Through.mono {formula P Q : Tree → Prop} (h : ∀ t, P t → Q t) {t : Tree}
    (ht : Through formula P t) : Through formula Q t := by
  induction ht with
  | text s => exact .text s
  | remark s => exact .remark s
  | element here within ih => exact .element (h _ here) ih

/-- A tree is in order, and its lines are some borders. -/
abbrev Stands (formula : Tree → Prop) (borders : List Border) : Tree → Prop :=
  Through formula fun t => InOrder formula t ∧ Edged borders t

/-- An element of a kind, and it stands in order. -/
abbrev StandsAs (formula : Tree → Prop) (borders : List Border) (name : String) (t : Tree) : Prop :=
  t.name? = some name ∧ Stands formula borders t

/-! ## Insertion -/

/-- Properties of paragraphs, tables and cells hold some of the kinds that the schema has for
    them, and nothing else. -/
theorem shapeOf_of_propertyKinds {name : String} {kinds : List String}
    (h : propertyKinds name = some kinds) :
    ∃ shape, shapeOf name = some shape ∧ shape.once.Sublist kinds ∧ shape.more = [] ∧
      name ≠ "w:p" := by
  unfold propertyKinds at h
  split at h
  case h_4 => cases h
  all_goals
    obtain rfl := Option.some.inj h
    exact ⟨_, rfl, by decide, rfl, by decide⟩

/-- An element in order can be put together in any order. -/
theorem placed_of_inOrder {formula : Tree → Prop} {t : Tree} (h : InOrder formula t) :
    Placed t := by
  cases t with
  | element name attributes content =>
    intro hproperties
    obtain ⟨kinds, hkinds⟩ := Option.isSome_iff_exists.1 hproperties
    obtain ⟨shape, hshape, honce, hmore, hname⟩ := shapeOf_of_propertyKinds hkinds
    simp only [InOrder, hshape, hmore] at h
    obtain ⟨head, tail, rfl, hhead, htail⟩ := h
    have hnone : tail.filterMap Tree.name? = [] := by
      refine List.filterMap_eq_nil_iff.2 fun t ht => ?_
      refine Option.eq_none_iff_forall_not_mem.2 fun n hn => ?_
      rcases htail t ht with ⟨hp, -⟩ | hmem
      · exact hname hp
      · exact List.not_mem_nil (hmem n hn)
    have hall : OnceIn kinds (head ++ tail) := by
      rw [OnceIn, List.filterMap_append, hnone, List.append_nil]
      exact hhead.trans honce
    have hplaced : Placed (.element name attributes (head ++ tail)) := placed_of_onceIn hkinds hall
    exact hplaced hproperties
  | _ => trivial

/-! ## Elements -/

section

variable {formula : Tree → Prop} {borders : List Border} {name : String}
  {attributes : List (String × String)}

theorem inOrder_leaf (name : String) (attributes : List (String × String)) :
    InOrder formula (.leaf name attributes) := by
  simp only [Tree.leaf, InOrder]
  split
  · exact ⟨[], [], rfl, List.nil_sublist _, by simp⟩
  · exact Nat.zero_le _

/-- Elements other than those around the lines of tables and cells. -/
abbrev IsNoFrame (name : String) : Prop := name ≠ "w:tblBorders" ∧ name ≠ "w:tcBorders"

theorem edged_of_isNoFrame {content : List Tree} (h : IsNoFrame name) :
    Edged borders (.element name attributes content) := by
  rintro (hname | hname)
  · exact absurd (Option.some.inj hname) h.1
  · exact absurd (Option.some.inj hname) h.2

/-- An element that holds nothing. -/
theorem stands_leaf (h : IsNoFrame name) : Stands formula borders (.leaf name attributes) :=
  .element ⟨inOrder_leaf _ _, edged_of_isNoFrame h⟩ fun _ ht => nomatch ht

/-- An element that holds elements of some kinds once, and then elements of other kinds. -/
theorem stands_element {shape : Shape} {head tail : List Tree} (h : IsNoFrame name)
    (hshape : shapeOf name = some shape) (honce : OnceIn shape.once head)
    (hhead : ∀ t ∈ head, Stands formula borders t)
    (htail : ∀ t ∈ tail, name = "w:p" ∧ formula t ∨
      (∀ n, t.name? = some n → n ∈ shape.more) ∧ Stands formula borders t) :
    Stands formula borders (.element name attributes (head ++ tail)) := by
  refine .element ⟨?_, edged_of_isNoFrame h⟩ fun t ht hformula => ?_
  · simp only [InOrder, hshape]
    exact ⟨head, tail, rfl, honce, fun t ht => (htail t ht).imp_right And.left⟩
  · rcases List.mem_append.1 ht with ht | ht
    · exact hhead t ht
    · exact ((htail t ht).resolve_left hformula).2

/-- An element that holds elements of some kinds once, and nothing else. -/
theorem stands_closed {shape : Shape} {content : List Tree} (h : IsNoFrame name)
    (hshape : shapeOf name = some shape) (honce : OnceIn shape.once content)
    (hcontent : ∀ t ∈ content, Stands formula borders t) :
    Stands formula borders (.element name attributes content) := by
  rw [← List.append_nil content]
  exact stands_element h hshape honce hcontent fun _ ht => nomatch ht

theorem forall_mem_optional {α : Type} {P : Tree → Prop} {f : α → Tree} {o : Option α}
    (h : ∀ a, o = some a → P (f a)) : ∀ t ∈ (o.map f).toList, P t := by
  cases o with
  | none => exact List.forall_mem_nil _
  | some a => exact List.forall_mem_singleton.2 (h a rfl)

theorem forall_mem_ite {P : Tree → Prop} {p : Prop} [Decidable p] {ts us : List Tree}
    (ht : ∀ t ∈ ts, P t) (hu : ∀ t ∈ us, P t) : ∀ t ∈ if p then ts else us, P t := by
  split
  · exact ht
  · exact hu

/-- An element may stand among any number of its kind. -/
theorem StandsAs.among {t : Tree} (h : StandsAs formula borders name t) {names : List String}
    (hname : name ∈ names) :
    (∀ n, t.name? = some n → n ∈ names) ∧ Stands formula borders t :=
  ⟨fun _ hn => Option.some.inj (h.1.symm.trans hn) ▸ hname, h.2⟩

/-! ## Paragraphs -/

/-- All formulas among some runs are told from other elements. -/
abbrev Tells (formula : Tree → Prop) (runs : List Run) : Prop :=
  ∀ r ∈ runs, ∀ m, r.content = .math m → formula (mathTree m)

/-- A formula, or a run that is in order. -/
def IsPiece (formula : Tree → Prop) (borders : List Border) (t : Tree) : Prop :=
  formula t ∨ StandsAs formula borders "w:r" t

theorem stands_numberingTree (level number : Int) :
    Stands formula borders (numberingTree level number) := by
  refine stands_closed (by decide) rfl (List.Sublist.refl _) fun t ht => ?_
  rcases List.mem_pair.1 ht with rfl | rfl
  · exact stands_leaf (by decide)
  · exact stands_leaf (by decide)

/-- The line along one side of a paragraph. -/
theorem stands_line {t : Tree} (h : Stands formula borders t) :
    Stands formula borders (.element "w:pBdr" [] [t]) :=
  .element ⟨Nat.le_refl 1, edged_of_isNoFrame (by decide)⟩
    fun _ ht _ => List.mem_singleton.1 ht ▸ h

/-- The properties of a paragraph of a body, each at most once and in order. -/
theorem onceIn_content {l : ParagraphLooks} (hkeeps : l.keeps = false)
    (houtline : l.outline = none) :
    OnceIn ["w:pStyle", "w:numPr", "w:pBdr", "w:shd", "w:spacing", "w:ind", "w:jc"] l.content := by
  have h : OnceIn (["w:pStyle"] ++ [] ++ ["w:numPr"] ++ ["w:pBdr"] ++ ["w:shd"] ++ ["w:spacing"]
      ++ ["w:ind"] ++ ["w:jc"] ++ []) l.content :=
    ((((((((OnceIn.optional (fun _ => rfl) _).append (hkeeps ▸ .nil)).append
      (.optional (fun _ => rfl) _)).append (.optional (fun _ => rfl) _)).append
      (.optional (fun _ => rfl) _)).append (.ite .nil (.singleton rfl))).append
      (.optional (fun _ => rfl) _)).append (.optional (fun _ => rfl) _)).append (houtline ▸ .nil)
  exact h

/-- The properties of a paragraph hold nothing but for its number and its border. -/
theorem content_cases {l : ParagraphLooks} : ∀ t ∈ l.content,
    (∃ name attributes, IsNoFrame name ∧ t = .leaf name attributes)
      ∨ (∃ level number, t = numberingTree level number)
      ∨ ∃ line, l.border = some line ∧ t = .element "w:pBdr" [] [line] := by
  simp only [ParagraphLooks.content, List.forall_mem_append]
  refine ⟨⟨⟨⟨⟨⟨⟨⟨?_, ?_⟩, ?_⟩, ?_⟩, ?_⟩, ?_⟩, ?_⟩, ?_⟩, ?_⟩
  · exact forall_mem_optional fun _ _ => .inl ⟨_, _, by decide, rfl⟩
  · exact forall_mem_ite (List.forall_mem_cons.2 ⟨.inl ⟨_, _, by decide, rfl⟩,
      List.forall_mem_singleton.2 (.inl ⟨_, _, by decide, rfl⟩)⟩) (List.forall_mem_nil _)
  · exact forall_mem_optional fun _ _ => .inr (.inl ⟨_, _, rfl⟩)
  · exact forall_mem_optional fun line hline => .inr (.inr ⟨line, hline, rfl⟩)
  · exact forall_mem_optional fun _ _ => .inl ⟨_, _, by decide, rfl⟩
  · exact forall_mem_ite (List.forall_mem_nil _)
      (List.forall_mem_singleton.2 (.inl ⟨_, _, by decide, rfl⟩))
  · exact forall_mem_optional fun _ _ => .inl ⟨_, _, by decide, rfl⟩
  · exact forall_mem_optional fun _ _ => .inl ⟨_, _, by decide, rfl⟩
  · exact forall_mem_optional fun _ _ => .inl ⟨_, _, by decide, rfl⟩

/-- The properties of a paragraph of a body. -/
theorem stands_properties {l : ParagraphLooks} (hkeeps : l.keeps = false)
    (houtline : l.outline = none) (hborder : ∀ t, l.border = some t → Stands formula borders t) :
    Stands formula borders (.element "w:pPr" [] l.content) := by
  refine stands_closed (by decide) rfl (onceIn_content hkeeps houtline) fun t ht => ?_
  rcases content_cases t ht with ⟨name, attributes, hname, rfl⟩ | ⟨level, number, rfl⟩
    | ⟨line, hline, rfl⟩
  · exact stands_leaf hname
  · exact stands_numberingTree level number
  · exact stands_line (hborder line hline)

/-- A paragraph of pieces. -/
theorem stands_paragraph {l : ParagraphLooks} (hkeeps : l.keeps = false)
    (houtline : l.outline = none) (hborder : ∀ t, l.border = some t → Stands formula borders t)
    {pieces : List Tree} (hpieces : ∀ t ∈ pieces, IsPiece formula borders t) :
    StandsAs formula borders "w:p" (paragraphTree l pieces) := by
  refine ⟨rfl, stands_element (by decide) rfl (.ite .nil (.singleton rfl)) ?_ fun t ht => ?_⟩
  · exact forall_mem_ite (List.forall_mem_nil _)
      (List.forall_mem_singleton.2 (stands_properties hkeeps houtline hborder))
  · rcases hpieces t ht with hformula | hrun
    · exact .inl ⟨rfl, hformula⟩
    · exact .inr (hrun.among (List.mem_singleton_self _))

/-! ## Runs -/

theorem stands_looks {l : RunLooks} (hbold : l.otherBold = false) (hsize : l.otherSize = none) :
    Stands formula borders l.tree := by
  refine stands_closed (by decide) rfl ?_ ?_
  · have h : OnceIn (["w:rFonts"] ++ ["w:b"] ++ ["w:i"] ++ ["w:color"] ++ ["w:sz"]) l.content := by
      simp only [RunLooks.content, hbold, hsize, Bool.false_eq_true, if_false, Option.map_none,
        Option.toList_none, List.append_nil]
      exact ((((OnceIn.optional (fun _ => rfl) _).append (.optional (fun _ => rfl) _)).append
        (.optional (fun _ => rfl) _)).append (.optional (fun _ => rfl) _)).append
        (.optional (fun _ => rfl) _)
    exact h
  · simp only [RunLooks.content, hbold, hsize, List.forall_mem_append]
    refine ⟨⟨⟨⟨⟨⟨?_, ?_⟩, ?_⟩, ?_⟩, ?_⟩, ?_⟩, ?_⟩
    · exact forall_mem_optional fun _ _ => stands_leaf (by decide)
    · exact forall_mem_optional fun _ _ => stands_leaf (by decide)
    · exact List.forall_mem_nil _
    · exact forall_mem_optional fun _ _ => stands_leaf (by decide)
    · exact forall_mem_optional fun _ _ => stands_leaf (by decide)
    · exact forall_mem_optional fun _ _ => stands_leaf (by decide)
    · exact List.forall_mem_nil _

theorem stands_piece (p : Piece) : Stands formula borders p.tree := by
  cases p with
  | literal cs =>
    exact stands_closed (by decide) rfl .nil fun t ht => List.mem_singleton.1 ht ▸ .text _
  | tab => exact stands_leaf (by decide)
  | line => exact stands_leaf (by decide)

/-- A run of text, with its looks before the text if it has some. -/
theorem stands_run {s : String} {content : List Tree} (looks : Option RunLooks)
    (hlooks : ∀ l, looks = some l → l.otherBold = false ∧ l.otherSize = none)
    (h : textContent s = .ok content) :
    Stands formula borders (.element "w:r" [] ((looks.map RunLooks.tree).toList ++ content)) := by
  simp only [textContent, bind_eq_ok_iff, pure_eq_ok_iff] at h
  obtain ⟨_, -, rfl⟩ := h
  refine stands_element (by decide) rfl (.optional (fun _ => rfl) looks) ?_ fun t ht => ?_
  · exact forall_mem_optional fun l hl => stands_looks (hlooks l hl).1 (hlooks l hl).2
  · obtain ⟨p, -, rfl⟩ := List.mem_map.1 ht
    refine .inr ⟨fun n hn => ?_, stands_piece p⟩
    cases p <;> cases hn <;> decide

/-- The element of a run is its formula, or a run in order. -/
theorem isPiece_of_runTree {r : Run} {t : Tree} (h : runTree r = .ok t)
    (hformula : ∀ m, r.content = .math m → formula (mathTree m)) : IsPiece formula borders t := by
  unfold runTree at h
  cases hcontent : r.content with
  | styled s =>
    simp only [hcontent, looksOf, textRun, bind_eq_ok_iff, pure_eq_ok_iff] at h
    obtain ⟨_, ⟨font, -, size, -, color, -, rfl⟩, content, htext, rfl⟩ := h
    exact .inr ⟨rfl, stands_run (some _) (fun l hl => Option.some.inj hl ▸ ⟨rfl, rfl⟩) htext⟩
  | math m =>
    simp only [hcontent] at h
    obtain rfl := Except.ok.inj h
    exact .inl (hformula m hcontent)
  | bare s =>
    rw [hcontent] at h
    cases h

theorem isPiece_of_runTrees {runs : List Run} {trees : List Tree} (h : runTrees runs = .ok trees)
    (hformula : Tells formula runs) :
    ∀ t ∈ trees, IsPiece formula borders t := fun _ ht =>
  have ⟨r, hr, hrun⟩ := exists_of_mem_mapM h ht
  isPiece_of_runTree hrun (hformula r hr)

/-! ## Tables -/

theorem stands_edge (b : Border) (h : b.side ∈ sides) : Stands formula borders (edge b) := by
  refine stands_leaf ?_
  generalize b.side = side at h
  revert side
  decide

/-- The element around the lines of a table or of a cell. -/
theorem stands_bordersTree {t : Tree} (hname : name = "w:tblBorders" ∨ name = "w:tcBorders")
    (h : bordersTree name borders = .ok t) : StandsAs formula borders name t := by
  obtain ⟨rfl, hperm⟩ := bordersTree_eq h
  have hshape : shapeOf name = some { once := [], more := sides.map ("w:" ++ ·) } := by
    rcases hname with rfl | rfl <;> rfl
  refine ⟨rfl, .element ⟨?_, fun _ => ⟨rfl, hperm⟩⟩ fun t ht _ => ?_⟩
  · simp only [InOrder, hshape]
    refine ⟨[], _, rfl, .nil, fun t ht => .inr fun n hn => ?_⟩
    obtain ⟨b, hb, rfl⟩ := List.mem_map.1 ht
    rw [← Option.some.inj hn]
    exact List.mem_map_of_mem (mem_sides_of_mem_bySide hb)
  · obtain ⟨b, hb, rfl⟩ := List.mem_map.1 ht
    exact stands_edge b (mem_sides_of_mem_bySide hb)

/-- The element of four margins. -/
theorem stands_marginsTree {margins : List Int} {t : Tree}
    (hname : name = "w:tblCellMar" ∨ name = "w:tcMar") (h : marginsTree name margins = .ok t) :
    StandsAs formula borders name t := by
  unfold marginsTree at h
  split at h
  · obtain rfl := Except.ok.inj h
    have hshape : shapeOf name = some { once := ["w:top", "w:left", "w:bottom", "w:right"] } := by
      rcases hname with rfl | rfl <;> rfl
    have hframe : IsNoFrame name := by rcases hname with rfl | rfl <;> decide
    refine ⟨rfl, stands_closed hframe hshape (List.Sublist.refl _) ?_⟩
    simp only [List.forall_mem_cons]
    exact ⟨stands_leaf (by decide), stands_leaf (by decide), stands_leaf (by decide),
      stands_leaf (by decide), List.forall_mem_nil _⟩
  · cases h

/-- The properties of a table. -/
theorem stands_tableProperties {margins : List Int} {t : Tree}
    (h : tableProperties borders margins = .ok t) : StandsAs formula borders "w:tblPr" t := by
  simp only [tableProperties, bind_eq_ok_iff, pure_eq_ok_iff] at h
  obtain ⟨lines, hlines, space, hspace, rfl⟩ := h
  have hlines : StandsAs formula borders "w:tblBorders" lines :=
    stands_bordersTree (.inl rfl) hlines
  have hspace : StandsAs formula borders "w:tblCellMar" space :=
    stands_marginsTree (.inl rfl) hspace
  refine ⟨rfl, stands_closed (by decide) rfl ?_ ?_⟩
  · -- All kinds but the first, the style of a table, are there.
    simp only [OnceIn, List.filterMap_cons, hlines.1, hspace.1]
    exact List.sublist_cons_self "w:tblStyle" _
  · simp only [List.forall_mem_cons]
    exact ⟨stands_leaf (by decide), hlines.2, stands_leaf (by decide), hspace.2,
      stands_leaf (by decide), List.forall_mem_nil _⟩

/-- A cell holds its properties and a paragraph. -/
theorem stands_cell {properties paragraph : Tree}
    (hproperties : StandsAs formula borders "w:tcPr" properties)
    (hparagraph : StandsAs formula borders "w:p" paragraph) :
    StandsAs formula borders "w:tc" (.element "w:tc" [] [properties, paragraph]) := by
  refine ⟨rfl, ?_⟩
  rw [← List.singleton_append]
  exact stands_element (by decide) rfl (.singleton hproperties.1)
    (List.forall_mem_singleton.2 hproperties.2)
    (List.forall_mem_singleton.2 (.inr (hparagraph.among (List.mem_singleton_self _))))

/-- A cell that a block says something of. -/
theorem stands_cellTree {c : Cell} {t : Tree} (h : cellTree borders c = .ok t)
    (hformula : Tells formula c.runs) :
    StandsAs formula borders "w:tc" t := by
  simp only [cellTree, bind_eq_ok_iff, pure_eq_ok_iff] at h
  obtain ⟨lines, hlines, space, hspace, runs, hruns, spacing, -, rfl⟩ := h
  have hlines : StandsAs formula borders "w:tcBorders" lines := stands_bordersTree (.inr rfl) hlines
  have hspace : StandsAs formula borders "w:tcMar" space := stands_marginsTree (.inr rfl) hspace
  refine stands_cell ⟨rfl, stands_closed (by decide) rfl ?_ ?_⟩
    (stands_paragraph rfl rfl (by rintro _ ⟨⟩) (isPiece_of_runTrees hruns hformula))
  · simp only [OnceIn, List.filterMap_cons, hlines.1, hspace.1]
    exact List.Sublist.refl _
  · simp only [List.forall_mem_cons]
    exact ⟨stands_leaf (by decide), hlines.2, hspace.2, stands_leaf (by decide),
      List.forall_mem_nil _⟩

/-- A cell that a block says nothing of. -/
theorem stands_emptyCell (columns : Nat) : StandsAs formula borders "w:tc" (emptyCell columns) := by
  refine stands_cell ⟨rfl, stands_closed (by decide) rfl ?_ ?_⟩
    ⟨rfl, stands_closed (by decide) rfl .nil (List.forall_mem_nil _)⟩
  · exact List.singleton_sublist.2 List.mem_cons_self
  · exact List.forall_mem_singleton.2 (stands_leaf (by decide))

/-- The properties of a row, if it has any. -/
theorem stands_rowProperties {r : Row} {trees : List Tree} (h : rowProperties r = .ok trees) :
    OnceIn ["w:trPr"] trees ∧ ∀ t ∈ trees, Stands formula borders t := by
  obtain ⟨height, hheight, rfl⟩ : ∃ height : List Tree,
      (OnceIn ["w:trHeight"] height ∧ ∀ t ∈ height, Stands formula borders t) ∧
      trees = (let content := height ++ if r.header then [Tree.leaf "w:tblHeader" []] else []
        if content.isEmpty then [] else [.element "w:trPr" [] content]) := by
    rcases r with ⟨cells, header, _ | n⟩
    · simp only [rowProperties, bind_eq_ok_iff, pure_eq_ok_iff] at h
      obtain ⟨height, hheight, rfl⟩ := h
      obtain rfl := Except.ok.inj hheight
      exact ⟨[], ⟨.nil, List.forall_mem_nil _⟩, rfl⟩
    · simp only [rowProperties, bind_eq_ok_iff, pure_eq_ok_iff] at h
      obtain ⟨length, -, height, hheight, rfl⟩ := h
      obtain rfl := Except.ok.inj hheight
      exact ⟨_, ⟨.singleton rfl, List.forall_mem_singleton.2 (stands_leaf (by decide))⟩, rfl⟩
  have hheader : OnceIn ["w:tblHeader"] (if r.header then [Tree.leaf "w:tblHeader" []] else []) :=
    .ite (.singleton rfl) .nil
  refine ⟨.ite .nil (.singleton rfl), forall_mem_ite (List.forall_mem_nil _) ?_⟩
  refine List.forall_mem_singleton.2 (stands_closed (by decide) rfl (hheight.1.append hheader) ?_)
  exact List.forall_mem_append.2 ⟨hheight.2, forall_mem_ite
    (List.forall_mem_singleton.2 (stands_leaf (by decide))) (List.forall_mem_nil _)⟩

/-- Where a gap stands, it is text. -/
theorem onceIn_gap (columns : Nat) : OnceIn [] (gap columns) := .ite (List.Sublist.refl _) .nil

theorem stands_gap (columns : Nat) : ∀ t ∈ gap columns, Stands formula borders t :=
  forall_mem_ite (List.forall_mem_singleton.2 (.text _)) (List.forall_mem_nil _)

/-- A row holds a gap, its properties, if it has any, and its cells. -/
theorem stands_rowTree {columns : Nat} {r : Row} {t : Tree} (h : rowTree borders columns r = .ok t)
    (hformula : ∀ c ∈ r.cells, Tells formula c.runs) :
    StandsAs formula borders "w:tr" t := by
  simp only [rowTree, rowCells, bind_eq_ok_iff, pure_eq_ok_iff] at h
  obtain ⟨properties, hproperties, cells, ⟨given, hgiven, rfl⟩, rfl⟩ := h
  obtain ⟨honce, hproperties⟩ : OnceIn ["w:trPr"] properties ∧
    ∀ t ∈ properties, Stands formula borders t := stands_rowProperties hproperties
  refine ⟨rfl, stands_element (by decide) rfl ((onceIn_gap columns).append honce) ?_ fun t ht => ?_⟩
  · exact List.forall_mem_append.2 ⟨stands_gap columns, hproperties⟩
  · have hcell : StandsAs formula borders "w:tc" t := by
      rcases List.mem_append.1 ht with ht | ht
      · obtain ⟨c, hc, hcell⟩ := exists_of_mem_mapM hgiven ht
        exact stands_cellTree hcell (hformula c (List.mem_of_mem_take hc))
      · rw [List.eq_of_mem_replicate ht]
        exact stands_emptyCell columns
    exact .inr (hcell.among (List.mem_singleton_self _))

theorem stands_gridTree (columns : Nat) (width : Int) :
    StandsAs formula borders "w:tblGrid" (gridTree columns width) := by
  have hcolumn : StandsAs formula borders "w:gridCol"
      (.valued "w:gridCol" "w:w" (toString (width * 100))) := ⟨rfl, stands_leaf (by decide)⟩
  refine ⟨rfl, stands_element (by decide) rfl (onceIn_gap columns) (stands_gap columns)
    fun t ht => ?_⟩
  rw [List.eq_of_mem_replicate ht]
  exact .inr (hcolumn.among (List.mem_singleton_self _))

theorem stands_tableTree {rows : List Row} {columns width : Int} {margins : List Int} {t : Tree}
    (h : tableTree rows columns width borders margins = .ok t)
    (hformula : ∀ r ∈ rows, ∀ c ∈ r.cells, Tells formula c.runs) :
    StandsAs formula borders "w:tbl" t := by
  simp only [tableTree, bind_eq_ok_iff, pure_eq_ok_iff] at h
  obtain ⟨properties, hproperties, trees, htrees, rfl⟩ := h
  have hproperties : StandsAs formula borders "w:tblPr" properties :=
    stands_tableProperties hproperties
  have hgrid : StandsAs formula borders "w:tblGrid" (gridTree columns.toNat width) :=
    stands_gridTree _ _
  have hstands : Stands formula borders
      (.element "w:tbl" [] ([properties] ++ [gridTree columns.toNat width] ++ trees)) := by
    refine stands_element (by decide) rfl ((OnceIn.singleton hproperties.1).append
      (.singleton hgrid.1)) ?_ fun t ht => ?_
    · exact List.forall_mem_cons.2 ⟨hproperties.2, List.forall_mem_singleton.2 hgrid.2⟩
    · obtain ⟨r, hr, hrow⟩ := exists_of_mem_mapM htrees ht
      have hrow : StandsAs formula borders "w:tr" t := stands_rowTree hrow (hformula r hr)
      exact .inr (hrow.among (List.mem_singleton_self _))
  exact ⟨rfl, hstands⟩

end

/-! ## Blocks -/

/-- A tree is a formula of a block. -/
def IsFormulaOf (b : Block) (t : Tree) : Prop :=
  ∃ run ∈ b.runs, ∃ m, run.content = .math m ∧ t = mathTree m

section

variable {formula : Tree → Prop}

/-- The line of a paragraph may have any name, which says nothing outside of tables. -/
theorem stands_borderTree {b : Border} {t : Tree} (h : borderTree b = .ok t) :
    Stands formula [] t := by
  rw [borderTree_eq h]
  exact .element ⟨inOrder_leaf _ _, fun _ => ⟨rfl, List.Perm.refl _⟩⟩ fun _ ht => nomatch ht

theorem stands_runsParagraph {looks : ParagraphLooks} {runs : List Run} {spacing : Document.Spacing}
    {indent : Option Indent} {border : Option Border} {t : Tree} (hkeeps : looks.keeps = false)
    (houtline : looks.outline = none)
    (h : runsParagraph looks runs spacing indent border = .ok t)
    (hformula : Tells formula runs) :
    StandsAs formula [] "w:p" t := by
  simp only [runsParagraph, bind_eq_ok_iff, pure_eq_ok_iff] at h
  obtain ⟨trees, htrees, marks, -, indent, -, line, hline, rfl⟩ := h
  refine stands_paragraph (l := { looks with spacing := marks, indent, border := line }) hkeeps
    houtline (fun t ht => ?_) (isPiece_of_runTrees htrees hformula)
  obtain rfl : line = some t := ht
  cases border with
  | none => cases hline
  | some b =>
    have hline : (borderTree b).map some = .ok (some t) := hline
    obtain ⟨_, hb, ht⟩ := map_eq_ok_iff.1 hline
    obtain rfl := Option.some.inj ht
    exact stands_borderTree hb

theorem stands_headingTree {code : CodeLooks} {level : Int} {text : String}
    {spacing : Document.Spacing} {t : Tree} (h : headingTree code level text spacing = .ok t) :
    StandsAs formula [] "w:p" t := by
  unfold headingTree at h
  cases hstyle : headingStyle? code level with
  | none =>
    rw [hstyle] at h
    cases h
  | some style =>
    by_cases htext : text.isEmpty = true
    · simp only [hstyle, htext, if_true, bind_eq_ok_iff, pure_eq_ok_iff] at h
      obtain ⟨runs, rfl, marks, -, rfl⟩ := h
      exact stands_paragraph rfl rfl (by rintro _ ⟨⟩) (List.forall_mem_nil _)
    · simp only [hstyle, htext, Bool.false_eq_true, if_false, textRun, bind_eq_ok_iff,
        pure_eq_ok_iff, map_eq_ok_iff] at h
      obtain ⟨runs, ⟨run, ⟨content, hcontent, rfl⟩, rfl⟩, marks, -, rfl⟩ := h
      have hrun : StandsAs formula [] "w:r" (.element "w:r" [] ([] ++ content)) :=
        ⟨rfl, stands_run none (by rintro _ ⟨⟩) hcontent⟩
      exact stands_paragraph rfl rfl (by rintro _ ⟨⟩) (List.forall_mem_singleton.2 (.inr hrun))

theorem stands_codeTree {code : CodeLooks} {text : String} {font size : Value}
    {spacing : Document.Spacing} {shading : Option String} {t : Tree}
    (h : codeTree code text font size spacing shading = .ok t) :
    StandsAs formula [] "w:p" t := by
  simp only [codeTree, bind_eq_ok_iff, pure_eq_ok_iff] at h
  obtain ⟨style, -, content, hcontent, font, -, size, -, marks, -, shading, -, rfl⟩ := h
  refine stands_paragraph rfl rfl (by rintro _ ⟨⟩) (List.forall_mem_singleton.2 (.inr ⟨rfl, ?_⟩))
  exact stands_run (some _) (fun l hl => Option.some.inj hl ▸ ⟨rfl, rfl⟩) hcontent

end

/-- The element of a block stands in order: a table, or a paragraph. -/
theorem stands_of_blockTree {code : CodeLooks} {lists lists' : Lists} {b : Block} {t : Tree}
    (h : blockTree code lists b = .ok (t, lists')) :
    StandsAs (IsFormulaOf b) b.borders "w:p" t ∨ StandsAs (IsFormulaOf b) b.borders "w:tbl" t := by
  cases b with
  | paragraph runs spacing indent border =>
    simp only [blockTree, bind_eq_ok_iff, pure_eq_ok_iff, Prod.mk.injEq] at h
    obtain ⟨t, ht, rfl, -⟩ := h
    exact .inl (stands_runsParagraph rfl rfl ht fun r hr m hm => ⟨r, hr, m, hm, rfl⟩)
  | heading level text spacing =>
    simp only [blockTree, bind_eq_ok_iff, pure_eq_ok_iff, Prod.mk.injEq] at h
    obtain ⟨t, ht, rfl, -⟩ := h
    exact .inl (stands_headingTree ht)
  | listItem runs ordered level list start spacing indent =>
    cases ordered with
    | true =>
      simp only [blockTree, bind_eq_ok_iff, pure_eq_ok_iff, Prod.mk.injEq] at h
      obtain ⟨level, -, ⟨number, lists⟩, -, t, ht, rfl, -⟩ := h
      exact .inl (stands_runsParagraph rfl rfl ht fun r hr m hm => ⟨r, hr, m, hm, rfl⟩)
    | false =>
      simp only [blockTree, bind_eq_ok_iff, pure_eq_ok_iff, Prod.mk.injEq] at h
      obtain ⟨t, ht, rfl, -⟩ := h
      exact .inl (stands_runsParagraph rfl rfl ht fun r hr m hm => ⟨r, hr, m, hm, rfl⟩)
  | code text font size spacing shading language =>
    simp only [blockTree, bind_eq_ok_iff, pure_eq_ok_iff, Prod.mk.injEq] at h
    obtain ⟨t, ht, rfl, -⟩ := h
    exact .inl (stands_codeTree ht)
  | spacer spacing =>
    simp only [blockTree, bind_eq_ok_iff, pure_eq_ok_iff, Prod.mk.injEq] at h
    obtain ⟨t, ht, rfl, -⟩ := h
    exact .inl (stands_runsParagraph rfl rfl ht (List.forall_mem_nil _))
  | rule border spacing =>
    simp only [blockTree, bind_eq_ok_iff, pure_eq_ok_iff, Prod.mk.injEq] at h
    obtain ⟨t, ht, rfl, -⟩ := h
    exact .inl (stands_runsParagraph rfl rfl ht (List.forall_mem_nil _))
  | table rows columns width borders margins =>
    simp only [blockTree, bind_eq_ok_iff, pure_eq_ok_iff, Prod.mk.injEq] at h
    obtain ⟨t, ht, rfl, -⟩ := h
    refine .inr (stands_tableTree ht fun row hrow c hc r hr m hm => ⟨r, ?_, m, hm, rfl⟩)
    exact List.mem_flatMap.2 ⟨row, hrow, List.mem_flatMap.2 ⟨c, hc, hr⟩⟩
  | unknown => cases h

/-- The elements of a body are paragraphs and tables. Each holds what the schema lets it hold, in
    the order of the schema, and so does all that is in it but the formulas of its block; the
    lines of a table and of its cells are its borders, side by side; and the properties of
    paragraphs, tables and cells come to this order in whatever order they are put in. -/
theorem inOrder_of_assemble (c : Config) (d : Document) (p : Package) (h : assemble c d = .ok p) :
    List.Forall₂ (fun b t => (t.name? = some "w:p" ∨ t.name? = some "w:tbl") ∧
      Through (IsFormulaOf b)
        (fun x => InOrder (IsFormulaOf b) x ∧ Edged b.borders x ∧ Placed x) t)
      d.blocks p.body := by
  simp only [assemble, bind_eq_ok_iff, pure_eq_ok_iff] at h
  obtain ⟨styles, _, properties, _, ⟨body, lists⟩, hbody, rfl⟩ := h
  refine (forall₂_of_bodyOf hbody).imp fun b t ⟨_, _, hb⟩ => ?_
  have hplaced (x : Tree) (hx : InOrder (IsFormulaOf b) x ∧ Edged b.borders x) :
      InOrder (IsFormulaOf b) x ∧ Edged b.borders x ∧ Placed x :=
    ⟨hx.1, hx.2, placed_of_inOrder hx.1⟩
  rcases stands_of_blockTree hb with ht | ht
  · exact ⟨.inl ht.1, ht.2.mono hplaced⟩
  · exact ⟨.inr ht.1, ht.2.mono hplaced⟩

/-- Lines along all sides, in another order than that of the schema, and two along one side. -/
def sampleLines : List Border :=
  [("insideV", 6), ("bottom", 10), ("left", 10), ("top", 10), ("left", 4), ("insideH", 6),
    ("right", 10)].map fun (side, size) => { side, color := "000000", size }

/-- A quotation with a line on its left, code with a colour behind it, an item of a list, and a
    line across the page. -/
def sampleParagraphs : List Block :=
  let looks : StyledText := { text := "a", font := .text "Arial", size := .int 12, bold := true }
  let text : Run := ⟨.bold, "**a**", .styled looks⟩
  let formula : Run := ⟨.inlineMath, "$x$", .math ⟨.leaf "m:oMath" [], "x", false⟩⟩
  let line (side : String) : Border := { side, color := "AAAAAA", size := 1 }
  [.paragraph [formula, text] { before := .int 60 } (some ⟨720, 360⟩) (some (line "left")),
    .code "x" (.text "Courier New") (.int 10) { after := .int 80 } (some "F5F5F5") none,
    .listItem [text] true 0 1 1 { after := .int 40 } (some ⟨720, 360⟩),
    .rule (line "bottom") { before := .int 120 }]

/-- A row with one cell less than the table has columns. -/
def sampleRow : Row :=
  let looks : StyledText := { text := "b", font := .null, size := .int 12, italic := true }
  let text : Run := ⟨.italic, "*b*", .styled looks⟩
  ⟨[⟨[text], 50, [120, 120, 150, 150], { before := .int 100 }, some "center"⟩], true, some 600⟩

theorem inOrder_of_assemble_sample :
    let blocks := sampleParagraphs ++ [.table [sampleRow] 2 50 sampleLines [200, 200, 0, 0]]
    ∃ p, assemble .standard ⟨blocks, []⟩ = .ok p ∧
      List.Forall₂ (fun b t => (t.name? = some "w:p" ∨ t.name? = some "w:tbl") ∧
        Through (IsFormulaOf b)
          (fun x => InOrder (IsFormulaOf b) x ∧ Edged b.borders x ∧ Placed x) t)
        blocks p.body := by
  intro blocks
  obtain ⟨sorted, hsorted, -⟩ :=
    exists_sortedBorders (by decide : ∀ b ∈ sampleLines, (sideRank? b.side).isSome = true)
  obtain rfl := (sortedBorders_eq hsorted).1
  -- The table is computed but for the sorting of its borders, of which the outcome is known.
  have htable : (tableTree [sampleRow] 2 50 sampleLines [200, 200, 0, 0]).isOk = true := by
    have hcells : sampleRow.cells.take (Int.toNat 2) = sampleRow.cells := rfl
    simp only [tableTree, tableProperties, bordersTree, hsorted, rowTree, rowCells, hcells,
      List.mapM_cons, List.mapM_nil]
    simp only [sampleRow, cellTree, bordersTree, hsorted, List.mapM_cons, List.mapM_nil]
    decide +kernel
  obtain ⟨table, htable⟩ := exists_eq_ok htable
  obtain ⟨⟨trees, lists⟩, hparagraphs⟩ :=
    exists_eq_ok (x := stylesOf .standard >>= fun styles => bodyOf styles.code [] sampleParagraphs)
      (by decide +kernel)
  obtain ⟨styles, hstyles, hparagraphs⟩ := bind_eq_ok_iff.1 hparagraphs
  have hlast : bodyOf styles.code lists [.table [sampleRow] 2 50 sampleLines [200, 200, 0, 0]]
      = .ok ([table], lists) := by
    simp only [bodyOf, blockTree, htable]
    rfl
  have hbody : bodyOf styles.code [] blocks = .ok (trees ++ [table], lists) :=
    (bodyOf_append _ _).2 ⟨trees, lists, [table], hparagraphs, hlast, rfl⟩
  obtain ⟨p, hp⟩ : ∃ p, assemble .standard ⟨blocks, []⟩ = .ok p := by
    simp only [assemble, bind_eq_ok_iff, pure_eq_ok_iff]
    exact ⟨_, styles, hstyles, {}, rfl, _, hbody, rfl⟩
  exact ⟨p, hp, inOrder_of_assemble _ _ _ hp⟩

end Manuscript.Package
