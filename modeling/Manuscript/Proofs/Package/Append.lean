import Manuscript.Proofs.Package.Numbering

/-!
# Packages of more blocks

Blocks come into a package one after the other, each as one element. All that a block finds
of those before it are the numbers of their ordered lists: it adds to these if it is an item
of a list that is not among them (`number_cases`), and its element bears a number
(`item_of_blockTree`). Nothing else about it depends on what was there (`other_of_blockTree`).

So the elements of some blocks after others are known from the numbers that their lists
get. They are compared over two states of the numbering that are *coupled*: the lists of
the blocks get numbers in a relation, and the states stay coupled.

* `bodyOf_of_couples`: the elements of blocks over coupled states of the numbering;
* `extends_assemble`: the package of blocks and more blocks, next to that of the former.
-/

namespace Manuscript.Document

/-- The name of the element of a block. -/
def Block.elementName : Block → String
  | table .. => "w:tbl"
  | _ => "w:p"

/-- The ordered lists that some blocks are items of. -/
def listsOf (blocks : List Block) : List Int :=
  blocks.filterMap fun b => b.order?.map (·.1)

theorem mem_listsOf {blocks : List Block} {b : Block} {list start : Int} (hb : b ∈ blocks)
    (h : b.order? = some (list, start)) : list ∈ listsOf blocks :=
  List.mem_filterMap.2 ⟨b, hb, by rw [h]; rfl⟩

end Manuscript.Document

namespace Manuscript.Package

open Manuscript.Document Manuscript.Style Manuscript.Success Manuscript.Xml

variable {code : CodeLooks} {lists lists' : Lists} {list start : Int} {b : Block} {t : Tree}

/-! ## Elements that differ in a number -/

/-- Two paragraphs are items of lists with numbers in a relation, and alike otherwise. -/
def IsRenumbered (R : Int → Int → Prop) (t t' : Tree) : Prop :=
  ∃ (looks : ParagraphLooks) (level n n' : Int) (runs : List Tree), R n n'
    ∧ t = paragraphTree { looks with numbering := some (level, n) } runs
    ∧ t' = paragraphTree { looks with numbering := some (level, n') } runs

/-- Two elements of a block are alike, but for the number that an item of an ordered list bears. -/
def Renumbers (R : Int → Int → Prop) (b : Block) (t t' : Tree) : Prop :=
  match b.order? with
  | some _ => IsRenumbered R t t'
  | none => t = t'

/-- The elements of some blocks are alike two by two, but for numbers. -/
inductive RenumbersAll (R : Int → Int → Prop) : List Block → List Tree → List Tree → Prop where
  | nil : RenumbersAll R [] [] []
  | cons {b : Block} {t t' : Tree} {bs : List Block} {ts ts' : List Tree}
      (head : Renumbers R b t t') (tail : RenumbersAll R bs ts ts') :
    RenumbersAll R (b :: bs) (t :: ts) (t' :: ts')

theorem renumbers_of_order? {R : Int → Int → Prop} {t' : Tree}
    (hb : b.order? = some (list, start)) :
    Renumbers R b t t' ↔ IsRenumbered R t t' := by
  rw [Renumbers, hb]

theorem renumbers_refl {R : Int → Int → Prop} (hb : b.order? = none) : Renumbers R b t t := by
  rw [Renumbers, hb]

/-- Elements with the same numbers are the same. -/
theorem eq_of_renumbersAll {bs : List Block} {ts ts' : List Tree}
    (h : RenumbersAll Eq bs ts ts') : ts = ts' := by
  induction h with
  | nil => rfl
  | @cons b t t' _ _ _ head _ ih =>
    suffices t = t' by rw [this, ih]
    unfold Renumbers at head
    split at head
    · obtain ⟨looks, level, n, _, runs, rfl, rfl, rfl⟩ := head
      rfl
    · exact head

/-! ## One block -/

/-- The element of an item of an ordered list depends on what was there by its number. -/
theorem item_of_blockTree (hb : b.order? = some (list, start))
    (h : blockTree code lists b = .ok (t, lists')) :
    ∃ (looks : ParagraphLooks) (level n : Int) (runs : List Tree),
      lists.number list start = .ok (n, lists')
        ∧ t = paragraphTree { looks with numbering := some (level, n) } runs
        ∧ ∀ l n' l', Lists.number l list start = .ok (n', l') → blockTree code l b
            = .ok (paragraphTree { looks with numbering := some (level, n') } runs, l') := by
  unfold Block.order? at hb
  split at hb
  case h_2 => cases hb
  case h_1 runs level list' start' spacing indent =>
    obtain ⟨rfl, rfl⟩ := Prod.mk.inj (Option.some.inj hb)
    simp only [blockTree, runsParagraph, bind_eq_ok_iff, pure_eq_ok_iff] at h ⊢
    obtain ⟨level, hlevel, ⟨n, l⟩, hn, _, ⟨shown, hshown, marks, hmarks, indent, hindent, border,
      hborder, rfl⟩, heq⟩ := h
    obtain ⟨rfl, rfl⟩ := Prod.mk.inj heq
    exact ⟨{ spacing := marks, indent, border }, level, n, shown, hn, rfl, fun l n' l' hn' =>
      ⟨level, hlevel, (n', l'), hn', _, ⟨shown, hshown, marks, hmarks, indent, hindent, border,
        hborder, rfl⟩, rfl⟩⟩

/-- The elements of other blocks do not depend on what was there. -/
theorem other_of_blockTree (hb : b.order? = none) (h : blockTree code lists b = .ok (t, lists'))
    (l : Lists) : blockTree code l b = .ok (t, l) := by
  cases b with
  | listItem runs ordered => cases ordered with
    | true => cases hb
    | false => exact withLists_eq_ok_iff.2 ⟨(withLists_eq_ok_iff.1 h).1, rfl⟩
  | unknown => cases h
  | _ => exact withLists_eq_ok_iff.2 ⟨(withLists_eq_ok_iff.1 h).1, rfl⟩

theorem name?_runsParagraph {looks : ParagraphLooks} {runs : List Run}
    {spacing : Document.Spacing} {indent : Option Indent} {border : Option Border}
    (h : runsParagraph looks runs spacing indent border = .ok t) : t.name? = some "w:p" := by
  obtain ⟨_, _, _, _, _, rfl⟩ := exists_of_runsParagraph h
  rfl

/-- An element has the name that is its block's. -/
theorem name?_of_blockTree (h : blockTree code lists b = .ok (t, lists')) :
    t.name? = some b.elementName := by
  cases b with
  | paragraph | spacer | rule => exact name?_runsParagraph (withLists_eq_ok_iff.1 h).1
  | heading level text spacing =>
    have ht := (withLists_eq_ok_iff.1 h).1
    simp only [headingTree] at ht
    split at ht
    · cases ht
    · split at ht <;> simp only [bind_eq_ok_iff, pure_eq_ok_iff] at ht
      all_goals
        obtain ⟨_, _, _, _, rfl⟩ := ht
        rfl
  | listItem runs ordered level list start spacing indent => cases ordered with
    | true =>
      obtain ⟨_, _, _, _, _, rfl, _⟩ := item_of_blockTree rfl h
      rfl
    | false => exact name?_runsParagraph (withLists_eq_ok_iff.1 h).1
  | code text font size spacing shading language =>
    have ht := (withLists_eq_ok_iff.1 h).1
    simp only [codeTree, bind_eq_ok_iff, pure_eq_ok_iff] at ht
    obtain ⟨_, _, _, _, _, _, _, _, _, _, _, _, rfl⟩ := ht
    rfl
  | table rows columns width borders margins =>
    have ht := (withLists_eq_ok_iff.1 h).1
    simp only [tableTree, bind_eq_ok_iff, pure_eq_ok_iff] at ht
    obtain ⟨_, _, _, _, rfl⟩ := ht
    rfl
  | unknown => cases h

/-- The lists that are known after a block: they go on from those before, with the list of the
    block if it is an item of one. -/
theorem lists_after_blockTree (h : blockTree code lists b = .ok (t, lists')) :
    lists <+: lists' ∧ ∀ l ∈ lists', l ∈ lists ∨ b.order? = some l := by
  cases hb : b.order? with
  | none =>
    obtain rfl := lists_of_blockTree hb h
    exact ⟨List.prefix_refl _, fun l hl => .inl hl⟩
  | some order =>
    obtain ⟨list, start⟩ := order
    obtain ⟨_, _, n, _, hn, -⟩ := item_of_blockTree hb h
    rcases Lists.number_cases hn with ⟨_, _, _, rfl⟩ | ⟨_, _, rfl, _⟩
    · exact ⟨List.prefix_refl _, fun l hl => .inl hl⟩
    · refine ⟨List.prefix_append _ _, fun l hl => ?_⟩
      rcases List.mem_append.1 hl with hl | hl
      · exact .inl hl
      · exact .inr (by rw [List.mem_singleton.1 hl])

/-! ## Blocks one after the other -/

theorem lists_after_bodyOf {blocks : List Block} {trees : List Tree}
    (h : bodyOf code lists blocks = .ok (trees, lists')) :
    lists <+: lists' ∧ ∀ l ∈ lists', l ∈ lists ∨ ∃ b ∈ blocks, b.order? = some l := by
  induction blocks generalizing lists trees with
  | nil =>
    obtain ⟨rfl, rfl⟩ := Prod.mk.inj (Except.ok.inj h)
    exact ⟨List.prefix_refl _, fun l hl => .inl hl⟩
  | cons b rest ih =>
    simp only [bodyOf, bind_eq_ok_iff, pure_eq_ok_iff] at h
    obtain ⟨⟨tree, l⟩, hb, ⟨more, l'⟩, hrest, heq⟩ := h
    obtain ⟨rfl, rfl⟩ := Prod.mk.inj heq
    obtain ⟨hgoes, hfrom⟩ := lists_after_blockTree hb
    obtain ⟨hgoes', hfrom'⟩ := ih hrest
    refine ⟨hgoes.trans hgoes', fun x hx => ?_⟩
    rcases hfrom' x hx with hx | ⟨b', hb', horder⟩
    · exact (hfrom x hx).imp id fun horder => ⟨b, List.mem_cons_self, horder⟩
    · exact .inr ⟨b', List.mem_cons_of_mem _ hb', horder⟩

/-- Two states of the numbering are coupled for some blocks: whatever number a list of theirs
    gets in the one, it gets a number in the other, these are in a relation, and the states are
    still coupled. -/
def Couples (I : Lists → Lists → Prop) (R : Int → Int → Prop) (blocks : List Block) : Prop :=
  ∀ b ∈ blocks, ∀ list start, b.order? = some (list, start) →
    ∀ l m, I l m → ∀ n l', l.number list start = .ok (n, l') →
      ∃ n' m', m.number list start = .ok (n', m') ∧ R n n' ∧ I l' m'

/-- Over coupled states, blocks have elements that are alike but for numbers. -/
theorem bodyOf_of_couples {I : Lists → Lists → Prop} {R : Int → Int → Prop} {blocks : List Block}
    (hcouples : Couples I R blocks) {l l' m : Lists} {trees : List Tree} (hI : I l m)
    (h : bodyOf code l blocks = .ok (trees, l')) :
    ∃ trees' m', bodyOf code m blocks = .ok (trees', m') ∧ RenumbersAll R blocks trees trees'
      ∧ I l' m' := by
  induction blocks generalizing l m trees with
  | nil =>
    obtain ⟨rfl, rfl⟩ := Prod.mk.inj (Except.ok.inj h)
    exact ⟨[], m, rfl, .nil, hI⟩
  | cons b rest ih =>
    simp only [bodyOf, bind_eq_ok_iff, pure_eq_ok_iff] at h
    obtain ⟨⟨t, l₁⟩, hb, ⟨more, l₂⟩, hrest, heq⟩ := h
    obtain ⟨rfl, rfl⟩ := Prod.mk.inj heq
    -- Only an item of an ordered list looks at the state, and changes it.
    have hhead : ∃ t' m₁, blockTree code m b = .ok (t', m₁) ∧ Renumbers R b t t' ∧ I l₁ m₁ := by
      cases horder : b.order? with
      | none =>
        obtain rfl := lists_of_blockTree horder hb
        exact ⟨t, m, other_of_blockTree horder hb m, renumbers_refl horder, hI⟩
      | some order =>
        obtain ⟨list, start⟩ := order
        obtain ⟨looks, level, n, runs, hn, rfl, hall⟩ := item_of_blockTree horder hb
        obtain ⟨n', m₁, hn', hR, hI'⟩ :=
          hcouples b List.mem_cons_self list start horder l m hI n l₁ hn
        exact ⟨_, m₁, hall m n' m₁ hn', (renumbers_of_order? horder).2
          ⟨looks, level, n, n', runs, hR, rfl, rfl⟩, hI'⟩
    obtain ⟨t', m₁, hb', hhead, hI'⟩ := hhead
    obtain ⟨more', m₂, hrest', htail, hI''⟩ :=
      ih (fun b hb => hcouples b (List.mem_cons_of_mem _ hb)) hI' hrest
    refine ⟨t' :: more', m₂, ?_, .cons hhead htail, hI''⟩
    simp only [bodyOf, bind_eq_ok_iff, pure_eq_ok_iff]
    exact ⟨(t', m₁), hb', (more', m₂), hrest', rfl⟩

/-- Over any two states, blocks have elements that are alike but for numbers. -/
theorem renumbersAll_of_bodyOf {blocks : List Block} {l l' m m' : Lists} {trees trees' : List Tree}
    (h : bodyOf code l blocks = .ok (trees, l')) (h' : bodyOf code m blocks = .ok (trees', m')) :
    RenumbersAll (fun _ _ => True) blocks trees trees' := by
  induction blocks generalizing l m trees trees' with
  | nil =>
    obtain ⟨rfl, rfl⟩ := Prod.mk.inj (Except.ok.inj h)
    obtain ⟨rfl, rfl⟩ := Prod.mk.inj (Except.ok.inj h')
    exact .nil
  | cons b rest ih =>
    simp only [bodyOf, bind_eq_ok_iff, pure_eq_ok_iff] at h h'
    obtain ⟨⟨t, l₁⟩, hb, ⟨more, l₂⟩, hrest, heq⟩ := h
    obtain ⟨rfl, rfl⟩ := Prod.mk.inj heq
    obtain ⟨⟨t', m₁⟩, hb', ⟨more', m₂⟩, hrest', heq⟩ := h'
    obtain ⟨rfl, rfl⟩ := Prod.mk.inj heq
    refine .cons ?_ (ih hrest hrest')
    cases horder : b.order? with
    | none =>
      cases (other_of_blockTree horder hb m).symm.trans hb'
      exact renumbers_refl horder
    | some order =>
      obtain ⟨list, start⟩ := order
      obtain ⟨looks, level, n, runs, -, rfl, hall⟩ := item_of_blockTree horder hb
      obtain ⟨_, _, n', _, hn', -, -⟩ := item_of_blockTree horder hb'
      cases (hall m n' m₁ hn').symm.trans hb'
      exact (renumbers_of_order? horder).2 ⟨looks, level, n, n', runs, trivial, rfl, rfl⟩

/-! ## Coupled states -/

theorem Lists.place?_eq (lists : Lists) (list : Int) :
    lists.place? list = (lists.map (·.1)).findIdx? (· == list) := by
  rw [place?, List.findIdx?_map]
  rfl

/-- States with the same lists are coupled, wherever these start: they give the same numbers. -/
theorem couples_same (blocks : List Block) :
    Couples (fun l m => l.map (·.1) = m.map (·.1)) Eq blocks := by
  intro b _ list start _ l m hsame n l' hn
  have hplace : l.place? list = m.place? list := by
    rw [Lists.place?_eq, Lists.place?_eq, hsame]
  rcases Lists.number_cases hn with ⟨place, hl, rfl, rfl⟩ | ⟨hl, rfl, rfl, hfresh⟩
  · refine ⟨_, m, ?_, rfl, hsame⟩
    simp only [Lists.number, hplace.symm.trans hl]
  · have hlength : l.length = m.length := by simpa using congrArg List.length hsame
    refine ⟨_, _, hfresh m (hplace.symm.trans hl), by rw [hlength], ?_⟩
    simp only [List.map_append, hsame]

/-- States of which the one goes on from lists that no block is an item of, and the other starts
    without lists, are coupled: the numbers are greater by so many in the one. -/
theorem couples_apart {blocks : List Block} {before : Lists}
    (hbefore : ∀ b ∈ blocks, ∀ list start, b.order? = some (list, start) →
      ∀ l ∈ before, l.1 ≠ list) :
    Couples (fun l m => l = before ++ m) (fun n n' => n = n' + before.length) blocks := by
  rintro b hb list start horder _ m rfl n l' hn
  have hnone : before.place? list = none :=
    Lists.place?_eq_none (hbefore b hb list start horder)
  -- The list is not among those before, so that its place is after them.
  have hplace : Lists.place? (before ++ m) list
      = (m.place? list).map (· + before.length) := by
    rw [Lists.place?, List.findIdx?_append, show before.findIdx? _ = none from hnone]
    rfl
  rcases Lists.number_cases hn with ⟨place, hl, rfl, rfl⟩ | ⟨hl, rfl, rfl, hfresh⟩
  · rw [hplace] at hl
    obtain ⟨place', hplace', rfl⟩ := Option.map_eq_some_iff.1 hl
    refine ⟨Lists.numberAt place', m, by simp only [Lists.number, hplace'], ?_, rfl⟩
    simp only [Lists.numberAt_eq]
    omega
  · rw [hplace, Option.map_eq_none_iff] at hl
    refine ⟨_, _, hfresh m hl, ?_, List.append_assoc _ _ _⟩
    simp only [Lists.numberAt_eq, List.length_append]
    omega

/-! ## Packages -/

/-- A package is made of its parts. -/
theorem assemble_eq_ok_iff {c : Config} {data : Value.Entries} {blocks : List Block} {p : Package} :
    assemble c ⟨blocks, data⟩ = .ok p ↔
      stylesOf c = .ok p.styles ∧ propertiesOf data = .ok p.properties
        ∧ bodyOf p.styles.code [] blocks = .ok (p.body, p.lists)
        ∧ p.form = formTree c.numbering := by
  simp only [assemble, bind_eq_ok_iff, pure_eq_ok_iff]
  constructor
  · rintro ⟨styles, hstyles, properties, hproperties, ⟨body, lists⟩, hbody, rfl⟩
    exact ⟨hstyles, hproperties, hbody, rfl⟩
  · rcases p with ⟨body, styles, form, lists, properties⟩
    rintro ⟨hstyles, hproperties, hbody, rfl⟩
    exact ⟨styles, hstyles, properties, hproperties, (body, lists), hbody, rfl⟩

theorem trees_prefix {l m : Lists} (h : l <+: m) : l.trees <+: m.trees := by
  obtain ⟨more, rfl⟩ := h
  rw [Lists.trees, Lists.trees, List.zipIdx_append, List.map_append]
  exact List.prefix_append _ _

theorem names_of_bodyOf {blocks : List Block} {trees : List Tree}
    (h : bodyOf code lists blocks = .ok (trees, lists')) :
    trees.map Tree.name? = blocks.map fun b => some b.elementName := by
  have hblocks := forall₂_of_bodyOf h
  clear h
  induction hblocks with
  | nil => rfl
  | cons hb _ ih =>
    obtain ⟨l, l', hb⟩ := hb
    rw [List.map_cons, List.map_cons, name?_of_blockTree hb, ih]

/-- What the package `p` of some blocks and more blocks is, next to the package `q` of the former.
    The elements of the latter are `more`. -/
structure Extends (c : Config) (data : Value.Entries) (as bs : List Block) (q p : Package)
    (more : List Tree) : Prop where
  /-- The body goes on. -/
  body : p.body = q.body ++ more
  /-- It has one element for each block, in order. -/
  names : p.body.map Tree.name? = (as ++ bs).map fun b => some b.elementName
  /-- The lists go on. -/
  lists : q.lists.trees <+: p.lists.trees
  /-- After any blocks with the same lists, those that follow have the same elements. -/
  same : ∀ as' data' q', assemble c ⟨as', data'⟩ = .ok q' →
    q'.lists.map (·.1) = q.lists.map (·.1) →
      ∃ p', assemble c ⟨as' ++ bs, data'⟩ = .ok p' ∧ p'.body = q'.body ++ more
  /-- After any blocks at all, they have elements that differ in the numbers of lists only. -/
  others : ∀ as' data' p', assemble c ⟨as' ++ bs, data'⟩ = .ok p' →
    ∃ q' more', assemble c ⟨as', data'⟩ = .ok q' ∧ p'.body = q'.body ++ more'
      ∧ RenumbersAll (fun _ _ => True) bs more more'
  /-- If they share no list with those before them then their elements are those that they have
      alone, with numbers that are greater by the number of the lists before them. -/
  apart : (listsOf as).Disjoint (listsOf bs) →
    ∃ r, assemble c ⟨bs, data⟩ = .ok r ∧ p.lists = q.lists ++ r.lists
      ∧ RenumbersAll (fun n n' => n = n' + q.lists.length) bs more r.body

/-- The package of a body over the styles that it was made with. -/
theorem assemble_of_bodyOf {c : Config} {data : Value.Entries} {as bs : List Block} {p : Package}
    (h : assemble c ⟨as, data⟩ = .ok p) {trees : List Tree}
    (hbody : bodyOf p.styles.code [] bs = .ok (trees, lists)) :
    assemble c ⟨bs, data⟩ = .ok { p with body := trees, lists } := by
  obtain ⟨hstyles, hproperties, -, hform⟩ := assemble_eq_ok_iff.1 h
  exact assemble_eq_ok_iff.2 ⟨hstyles, hproperties, hbody, hform⟩

theorem bodyOf_of_assemble {c : Config} {data : Value.Entries} {blocks : List Block} {p : Package}
    (h : assemble c ⟨blocks, data⟩ = .ok p) :
    bodyOf p.styles.code [] blocks = .ok (p.body, p.lists) :=
  (assemble_eq_ok_iff.1 h).2.2.1

/-- Packages that are put together alike have the same styles. -/
theorem styles_eq {c : Config} {data data' : Value.Entries} {as bs : List Block} {p q : Package}
    (h : assemble c ⟨as, data⟩ = .ok p) (h' : assemble c ⟨bs, data'⟩ = .ok q) :
    p.styles = q.styles :=
  Except.ok.inj ((assemble_eq_ok_iff.1 h).1.symm.trans (assemble_eq_ok_iff.1 h').1)

/-- A package of blocks and more blocks is the package of the former with elements and lists at its
    end. What is added depends on the former by the numbers of their lists alone. -/
theorem extends_assemble (c : Config) (data : Value.Entries) (as bs : List Block) (p : Package)
    (h : assemble c ⟨as ++ bs, data⟩ = .ok p) :
    ∃ q more, assemble c ⟨as, data⟩ = .ok q ∧ Extends c data as bs q p more := by
  have hbody := bodyOf_of_assemble h
  obtain ⟨former, l, more, hformer, hmore, hsplit⟩ := (bodyOf_append as bs).1 hbody
  refine ⟨{ p with body := former, lists := l }, more, assemble_of_bodyOf h hformer, ?_⟩
  refine ⟨hsplit, names_of_bodyOf hbody, trees_prefix (lists_after_bodyOf hmore).1, ?_, ?_, ?_⟩
  · intro as' data' q' hq' hsame
    obtain ⟨more', m, hmore', heq, -⟩ := bodyOf_of_couples (couples_same bs) hsame.symm hmore
    obtain rfl := eq_of_renumbersAll heq
    have hbody' : bodyOf q'.styles.code [] (as' ++ bs) = .ok (q'.body ++ more, m) := by
      refine (bodyOf_append as' bs).2 ⟨_, _, _, bodyOf_of_assemble hq', ?_, rfl⟩
      rwa [← styles_eq h hq']
    exact ⟨_, assemble_of_bodyOf hq' hbody', rfl⟩
  · intro as' data' p' hp'
    obtain ⟨former', l', more', hformer', hmore', hsplit'⟩ :=
      (bodyOf_append as' bs).1 (bodyOf_of_assemble hp')
    refine ⟨_, more', assemble_of_bodyOf hp' hformer', hsplit', ?_⟩
    rw [← styles_eq h hp'] at hmore'
    exact renumbersAll_of_bodyOf hmore hmore'
  · intro hapart
    -- What is known after the former are lists of theirs, since nothing is known before them.
    have hbefore : ∀ b ∈ bs, ∀ list start, b.order? = some (list, start) → ∀ x ∈ l, x.1 ≠ list := by
      rintro b hb list start horder x hx rfl
      rcases (lists_after_bodyOf hformer).2 x hx with hnil | ⟨a, ha, ha'⟩
      · cases hnil
      · exact hapart (mem_listsOf ha ha') (mem_listsOf hb horder)
    obtain ⟨alone, m, halone, hnumbers, hlists⟩ :=
      bodyOf_of_couples (couples_apart hbefore) (List.append_nil l).symm hmore
    exact ⟨_, assemble_of_bodyOf h halone, hlists, hnumbers⟩

/-- Blocks of which the lists are apart from those of the blocks before: two items of one list after
    the item of another, with a table between them. -/
theorem extends_assemble_sample :
    let item (list start : Int) : Block := .listItem [] true 0 list start {} none
    let as : List Block := [.heading 1 "a" {}, item 0 4, .spacer {}]
    let bs : List Block := [item 1 1, .table [] 1 100 [] [0, 0, 0, 0], item 1 1]
    ∃ p q r more, assemble .standard ⟨as ++ bs, []⟩ = .ok p ∧ assemble .standard ⟨as, []⟩ = .ok q
      ∧ assemble .standard ⟨bs, []⟩ = .ok r ∧ p.body = q.body ++ more
      ∧ RenumbersAll (fun n n' => n = n' + q.lists.length) bs more r.body := by
  intro item as bs
  obtain ⟨p, hp⟩ := exists_eq_ok (x := assemble .standard ⟨as ++ bs, []⟩) (by decide +kernel)
  obtain ⟨q, more, hq, hextends⟩ := extends_assemble .standard [] as bs p hp
  have has : listsOf as = [0] := rfl
  have hbs : listsOf bs = [1, 1] := rfl
  obtain ⟨r, hr, -, hnumbers⟩ := hextends.apart (by simp [has, hbs])
  exact ⟨p, q, r, more, hp, hq, hr, hextends.body, hnumbers⟩

end Manuscript.Package
