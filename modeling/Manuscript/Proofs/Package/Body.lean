import Manuscript.Package.Assembly
import Manuscript.Proofs.Success

/-!
# The body of a package

What can be read off the elements of a body, and how the body is made: one element for
each block, in order (`bodyOf_append`, `forall₂_of_bodyOf`), the blocks that follow after
the lists that are known by then.
-/

namespace Manuscript.Xml.Tree

/-! ## Reading -/

/-- The first element with a name in the content of a tree. -/
def child? (name : String) (t : Tree) : Option Tree := t.content.find? fun c => c.name? == some name

/-- The element that a path of names leads to. -/
def under? : List String → Tree → Option Tree
  | [], t => some t
  | name :: rest, t => (t.child? name).bind (under? rest)

/-- The value of an attribute. -/
def attribute? (key : String) (t : Tree) : Option String :=
  (t.attributes.find? fun a => a.1 == key).map (·.2)

/-- An optional element is found if it is there and is looked for. -/
theorem find?_map_toList {α : Type} (p : Tree → Bool) (f : α → Tree) (o : Option α) :
    (o.map f).toList.find? p = o.bind fun a => if p (f a) then some (f a) else none := by
  cases o with
  | none => rfl
  | some a => cases h : p (f a) <;> simp [h]

end Manuscript.Xml.Tree

namespace Manuscript.Package

open Manuscript.Document Manuscript.Style Manuscript.Success Manuscript.Xml

/-- The number of the list that a paragraph is an item of. -/
def itemNumber? (paragraph : Tree) : Option String :=
  (paragraph.under? ["w:pPr", "w:numPr", "w:numId"]).bind (Tree.attribute? "w:val")

/-! ## Paragraphs -/

theorem find?_numPr (l : ParagraphLooks) :
    l.content.find? (fun c => c.name? == some "w:numPr")
      = l.numbering.map fun n => numberingTree n.1 n.2 := by
  have hkeeps : (if l.keeps then [Tree.leaf "w:keepNext" [], Tree.leaf "w:keepLines" []] else []).find?
      (fun c => c.name? == some "w:numPr") = none := by
    cases l.keeps <;> rfl
  have hspacing : (if l.spacing.attributes.isEmpty then []
      else [Tree.leaf "w:spacing" l.spacing.attributes]).find?
        (fun c => c.name? == some "w:numPr") = none := by
    split <;> rfl
  simp only [ParagraphLooks.content, List.find?_append, hkeeps, hspacing, Tree.find?_map_toList]
  simp only [Tree.valued, Tree.leaf, numberTree, numberingTree, Tree.name?]
  cases l.numbering <;> simp

/-- A paragraph with properties bears the number that they give. -/
theorem itemNumber?_paragraphTree {l : ParagraphLooks} (h : l.content ≠ []) (runs : List Tree) :
    itemNumber? (paragraphTree l runs) = l.numbering.map fun n => toString n.2 := by
  have hprops : (paragraphTree l runs).child? "w:pPr" = some (.element "w:pPr" [] l.content) := by
    have hempty : l.content.isEmpty = false := by simpa using h
    simp [paragraphTree, ParagraphLooks.trees, hempty, Tree.child?, Tree.content, Tree.name?]
  have hnum : (Tree.element "w:pPr" [] l.content).child? "w:numPr"
      = l.numbering.map fun n => numberingTree n.1 n.2 := find?_numPr l
  rw [itemNumber?, Tree.under?, hprops, Option.bind_some, Tree.under?, hnum]
  cases l.numbering <;> rfl

/-! ## Blocks -/

variable {code : CodeLooks} {lists lists' : Lists} {trees : List Tree}

/-- A paragraph that holds runs has the properties that are asked for, and measures. -/
theorem exists_of_runsParagraph {looks : ParagraphLooks} {runs : List Run} {spacing : Document.Spacing}
    {indent : Option Indent} {border : Option Border} {tree : Tree}
    (h : runsParagraph looks runs spacing indent border = .ok tree) :
    ∃ shown spacing indent border, runTrees runs = .ok shown
      ∧ tree = paragraphTree { looks with spacing, indent, border } shown := by
  simp only [runsParagraph, bind_eq_ok_iff, pure_eq_ok_iff] at h
  obtain ⟨shown, hshown, spacing, _, indent, _, border, _, rfl⟩ := h
  exact ⟨shown, spacing, indent, border, hshown, rfl⟩

/-- An element that is given with the lists that were there. -/
theorem withLists_eq_ok_iff {x : Except Fault Tree} {tree : Tree} :
    (do return (← x, lists) : Except Fault (Tree × Lists)) = .ok (tree, lists')
      ↔ x = .ok tree ∧ lists' = lists := by
  simp only [bind_eq_ok_iff, pure_eq_ok_iff, Prod.mk.injEq]
  constructor
  · rintro ⟨_, hx, rfl, rfl⟩
    exact ⟨hx, rfl⟩
  · rintro ⟨hx, rfl⟩
    exact ⟨tree, hx, rfl, rfl⟩

/-- The blocks of a body give one element each, in order. -/
theorem forall₂_of_bodyOf {blocks : List Block} (h : bodyOf code lists blocks = .ok (trees, lists')) :
    List.Forall₂ (fun b tree => ∃ l l', blockTree code l b = .ok (tree, l')) blocks trees := by
  induction blocks generalizing lists trees with
  | nil =>
    obtain ⟨rfl, rfl⟩ := Prod.mk.inj (Except.ok.inj h)
    exact .nil
  | cons b rest ih =>
    simp only [bodyOf, bind_eq_ok_iff, pure_eq_ok_iff] at h
    obtain ⟨⟨tree, l⟩, hb, ⟨more, l'⟩, hrest, heq⟩ := h
    obtain ⟨rfl, rfl⟩ := Prod.mk.inj heq
    exact .cons ⟨lists, l, hb⟩ (ih hrest)

/-- Each element of a body is that of some block. -/
theorem exists_of_mem_bodyOf {blocks : List Block} {x : Tree}
    (h : bodyOf code lists blocks = .ok (trees, lists')) (hx : x ∈ trees) :
    ∃ b ∈ blocks, ∃ l l', blockTree code l b = .ok (x, l') := by
  have hblocks := forall₂_of_bodyOf h
  clear h
  induction hblocks with
  | nil => cases hx
  | cons hb _ ih =>
    rcases List.mem_cons.1 hx with rfl | hx
    · exact ⟨_, List.mem_cons_self, hb⟩
    · obtain ⟨b, hmem, hb⟩ := ih hx
      exact ⟨b, List.mem_cons_of_mem _ hmem, hb⟩

/-- More blocks follow after the lists that those before them have left. -/
theorem bodyOf_append (as bs : List Block) :
    bodyOf code lists (as ++ bs) = .ok (trees, lists') ↔
      ∃ ta l tb, bodyOf code lists as = .ok (ta, l) ∧ bodyOf code l bs = .ok (tb, lists')
        ∧ trees = ta ++ tb := by
  induction as generalizing lists trees with
  | nil =>
    constructor
    · exact fun h => ⟨[], lists, trees, rfl, h, rfl⟩
    · rintro ⟨ta, l, tb, h, htb, rfl⟩
      obtain ⟨rfl, rfl⟩ := Prod.mk.inj (Except.ok.inj h)
      exact htb
  | cons a as ih =>
    simp only [List.cons_append, bodyOf, bind_eq_ok_iff, pure_eq_ok_iff]
    constructor
    · rintro ⟨⟨tree, l⟩, ha, ⟨more, l'⟩, hmore, heq⟩
      obtain ⟨rfl, rfl⟩ := Prod.mk.inj heq
      obtain ⟨ta, m, tb, hta, htb, rfl⟩ := ih.1 hmore
      exact ⟨tree :: ta, m, tb, ⟨(tree, l), ha, (ta, m), hta, rfl⟩, htb, rfl⟩
    · rintro ⟨ta, m, tb, ⟨⟨tree, l⟩, ha, ⟨more, l'⟩, hmore, heq⟩, htb, rfl⟩
      obtain ⟨rfl, rfl⟩ := Prod.mk.inj heq
      exact ⟨(tree, l), ha, (more ++ tb, lists'), ih.2 ⟨more, _, tb, hmore, htb, rfl⟩, rfl⟩

end Manuscript.Package
