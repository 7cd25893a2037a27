import Manuscript.Proofs.Document.Locality
import Manuscript.Proofs.Document.Shares
import Manuscript.Proofs.Package.Body
import Mathlib.Data.List.Nodup
import Mathlib.Data.List.Perm.Subperm
import Mathlib.Data.List.SplitLengths

/-!
# The numbers of lists in a package

Each ordered list of a document has a number of its own, which its items bear and under
which the package says where it starts. A list is a token; its items stand in the body
where its share does (`portions`). What is known of a package is put together in
`IsNumbered`; `isNumbered_of_calls` states it for the blocks of any calls, one after the
other on one composition.

A number is found by the list's own (`Lists.number`), so that lists must not share one:
those of a composition increase (`InTurn`). At the first item of a list its number is new
to the package (`number_of_fresh`), at the others it is known (`number_of_known`).
-/

namespace Manuscript.Package

open Manuscript.Document Manuscript.Formula Manuscript.Style Manuscript.Success Manuscript.Xml

/-! ## Numbers not in use -/

theorem lt_numberAbove {n : Nat} {ns : List Nat} (h : n ∈ ns) : n < numberAbove ns := by
  induction ns with
  | nil => cases h
  | cons m ns ih =>
    have hle : m + 1 ≤ numberAbove (m :: ns) := Nat.le_max_left _ _
    have hrest : numberAbove ns ≤ numberAbove (m :: ns) := Nat.le_max_right _ _
    rcases List.mem_cons.1 h with rfl | hmem
    · exact hle
    · exact Nat.lt_of_lt_of_le (ih hmem) hrest

theorem numberAbove_not_mem (ns : List Nat) : numberAbove ns ∉ ns :=
  fun h => Nat.lt_irrefl _ (lt_numberAbove h)

/-- A number that is chosen is not in use: one more are looked at than are in use. -/
theorem firstUnused_not_mem (used : List Nat) : firstUnused used ∉ used := by
  unfold firstUnused
  cases hfind : (List.range' 1 (used.length + 1)).find? fun n => !used.contains n with
  | some n => simpa using List.find?_some hfind
  | none =>
    have hsubset : List.range' 1 (used.length + 1) ⊆ used := fun n hn => by
      simpa using List.find?_eq_none.1 hfind n hn
    have hle := (List.subperm_of_subset (List.nodup_range' 1) hsubset).length_le
    rw [List.length_range'] at hle
    omega

theorem firstUnused_range' (n : Nat) : firstUnused (List.range' 1 n) = n + 1 := by
  have hfind : (List.range' 1 (n + 1)).find? (fun m => !(List.range' 1 n).contains m)
      = some (n + 1) := by
    rw [List.find?_range'_eq_some]
    simp only [Bool.not_not, Bool.not_eq_true', List.contains_eq_mem, decide_eq_true_eq,
      decide_eq_false_iff_not, List.mem_range'_1]
    exact ⟨by omega, by omega, fun j hj hlt => by omega⟩
  rw [firstUnused, List.length_range', hfind, Option.getD_some]

/-- The numbers of the template are the first ones, so that those in use are. -/
theorem inUse_eq (added : Nat) :
    inUse added = List.range' 1 (Template.listNumbers.length + added) := by
  induction added with
  | zero => decide
  | succ n ih =>
    rw [inUse, ih, firstUnused_range', ← Nat.add_assoc, List.range'_concat]
    simp [Nat.add_comm]

theorem listNumbers_subset_inUse (added : Nat) : Template.listNumbers ⊆ inUse added := by
  induction added with
  | zero => exact List.Subset.refl _
  | succ n ih => exact List.Subset.trans ih (List.subset_append_left _ _)

namespace Lists

theorem numberAt_not_mem (place : Nat) : numberAt place ∉ Template.listNumbers :=
  fun h => firstUnused_not_mem _ (listNumbers_subset_inUse place h)

/-- The numbers of lists go on from those of the template. -/
theorem numberAt_eq (place : Nat) :
    numberAt place = Template.listNumbers.length + place + 1 := by
  rw [numberAt, inUse_eq, firstUnused_range']

end Lists

/-! ## Elements of lists -/

/-- The number of a list. -/
def numberOf? (num : Tree) : Option String := num.attribute? "w:numId"

/-- The form that a list refers to. -/
def formOf? (num : Tree) : Option String :=
  (num.child? "w:abstractNumId").bind (Tree.attribute? "w:val")

/-- Where a list starts on the first level. -/
def startOf? (num : Tree) : Option String :=
  ((num.content.find? fun c =>
    c.name? == some "w:lvlOverride" && c.attribute? "w:ilvl" == some "0").bind
      (Tree.child? "w:startOverride")).bind (Tree.attribute? "w:val")

/-- The number of a form of list. -/
def formNumber? (form : Tree) : Option String := form.attribute? "w:abstractNumId"

namespace Lists

theorem getElem?_trees (lists : Lists) (place : Nat) :
    lists.trees[place]? = lists[place]?.map fun l => tree (numberAt place) l.2 := by
  simp [trees, List.getElem?_zipIdx, Function.comp_def]

variable {lists lists' : Lists} {list start start' n : Int}

theorem place?_eq_none (h : ∀ l ∈ lists, l.1 ≠ list) : lists.place? list = none :=
  List.findIdx?_eq_none_iff.2 fun l hl => by simpa using h l hl

/-- A list that is known keeps its number, and one that is not is added if its start can be
    written, which has nothing to do with the others. -/
theorem number_cases (h : lists.number list start = .ok (n, lists')) :
    (∃ place, lists.place? list = some place ∧ n = numberAt place ∧ lists' = lists) ∨
      (lists.place? list = none ∧ n = numberAt lists.length ∧ lists' = lists ++ [(list, start)] ∧
        ∀ l : Lists, l.place? list = none →
          l.number list start = .ok (numberAt l.length, l ++ [(list, start)])) := by
  cases hplace : lists.place? list with
  | some place =>
    simp only [number, hplace] at h
    obtain ⟨rfl, rfl⟩ := Prod.mk.inj (Except.ok.inj h)
    exact .inl ⟨place, rfl, rfl, rfl⟩
  | none =>
    simp only [number, hplace, bind_eq_ok_iff, pure_eq_ok_iff] at h
    obtain ⟨s, hs, heq⟩ := h
    obtain rfl : s = start := by
      unfold signed? at hs
      split at hs
      · exact (Except.ok.inj hs).symm
      · cases hs
    obtain ⟨rfl, rfl⟩ := Prod.mk.inj heq
    refine .inr ⟨rfl, rfl, rfl, fun l hl => ?_⟩
    simp only [number, hl, hs]
    rfl

/-- A list that is not known gets the next number. -/
theorem number_of_fresh (h : ∀ l ∈ lists, l.1 ≠ list)
    (hn : lists.number list start = .ok (n, lists')) :
    n = numberAt lists.length ∧ lists' = lists ++ [(list, start)] := by
  rcases number_cases hn with ⟨place, hplace, -⟩ | ⟨-, hn, hlists, -⟩
  · cases (place?_eq_none h).symm.trans hplace
  · exact ⟨hn, hlists⟩

/-- A list that is known keeps its number. -/
theorem number_of_known (h : ∀ l ∈ lists, l.1 ≠ list) :
    number (lists ++ [(list, start')]) list start
      = .ok (numberAt lists.length, lists ++ [(list, start')]) := by
  have hplace : place? (lists ++ [(list, start')]) list = some lists.length := by
    have hnone : lists.findIdx? (fun l => l.1 == list) = none := place?_eq_none h
    simp [place?, List.findIdx?_append, hnone]
  rw [number, hplace]

end Lists

/-! ## Items -/

section

variable {code : CodeLooks} {lists lists' : Lists} {list start : Int} {b : Block} {tree : Tree}

/-- The element of an item of an ordered list bears the number of the list. -/
theorem number_of_blockTree (hb : b.IsItem true list start)
    (h : blockTree code lists b = .ok (tree, lists')) :
    ∃ n, lists.number list start = .ok (n, lists') ∧ itemNumber? tree = some (toString n) := by
  obtain ⟨runs, spacing, indent, rfl⟩ := hb
  simp only [blockTree, bind_eq_ok_iff, pure_eq_ok_iff] at h
  obtain ⟨level, _, ⟨n, l⟩, hn, t, ht, heq⟩ := h
  obtain ⟨rfl, rfl⟩ := Prod.mk.inj heq
  obtain ⟨shown, spacing, indent, border, _, rfl⟩ := exists_of_runsParagraph ht
  refine ⟨n, hn, ?_⟩
  rw [itemNumber?_paragraphTree (by simp [ParagraphLooks.content])]
  rfl

/-- The element of an item of a bulleted list bears no number. -/
theorem itemNumber?_of_bullet (hb : b.IsItem false list start)
    (h : blockTree code lists b = .ok (tree, lists')) : itemNumber? tree = none := by
  obtain ⟨runs, spacing, indent, rfl⟩ := hb
  simp only [blockTree, bind_eq_ok_iff, pure_eq_ok_iff] at h
  obtain ⟨t, ht, heq⟩ := h
  obtain ⟨rfl, rfl⟩ := Prod.mk.inj heq
  obtain ⟨shown, spacing, indent, border, _, rfl⟩ := exists_of_runsParagraph ht
  rw [itemNumber?_paragraphTree (by simp [ParagraphLooks.content])]
  rfl

/-- Other blocks leave the lists as they are. -/
theorem lists_of_blockTree (hb : b.order? = none)
    (h : blockTree code lists b = .ok (tree, lists')) : lists' = lists := by
  cases b with
  | listItem runs ordered => cases ordered with
    | true => cases hb
    | false => exact (withLists_eq_ok_iff.1 h).2
  | unknown => cases h
  | _ => exact (withLists_eq_ok_iff.1 h).2

theorem lists_of_bodyOf {blocks : List Block} {trees : List Tree}
    (hblocks : ∀ b ∈ blocks, b.order? = none)
    (h : bodyOf code lists blocks = .ok (trees, lists')) : lists' = lists := by
  induction blocks generalizing lists trees with
  | nil => exact (Prod.mk.inj (Except.ok.inj h)).2.symm
  | cons b rest ih =>
    simp only [bodyOf, bind_eq_ok_iff, pure_eq_ok_iff] at h
    obtain ⟨⟨tree, l⟩, hb, ⟨more, l'⟩, hrest, heq⟩ := h
    obtain ⟨rfl, rfl⟩ := Prod.mk.inj heq
    obtain rfl := lists_of_blockTree (hblocks b List.mem_cons_self) hb
    exact ih (fun b hb => hblocks b (List.mem_cons_of_mem _ hb)) hrest

/-- The items of a list that is known bear its number. -/
theorem bodyOf_knownItems {blocks : List Block} {trees : List Tree} {start' : Int}
    (hfresh : ∀ l ∈ lists, l.1 ≠ list) (hblocks : ∀ b ∈ blocks, b.IsItem true list start)
    (h : bodyOf code (lists ++ [(list, start')]) blocks = .ok (trees, lists')) :
    lists' = lists ++ [(list, start')]
      ∧ ∀ x ∈ trees, itemNumber? x = some (toString (Lists.numberAt lists.length)) := by
  induction blocks generalizing trees with
  | nil =>
    obtain ⟨rfl, rfl⟩ := Prod.mk.inj (Except.ok.inj h)
    exact ⟨rfl, by simp⟩
  | cons b rest ih =>
    simp only [bodyOf, bind_eq_ok_iff, pure_eq_ok_iff] at h
    obtain ⟨⟨tree, l⟩, hb, ⟨more, l'⟩, hrest, heq⟩ := h
    obtain ⟨rfl, rfl⟩ := Prod.mk.inj heq
    obtain ⟨n, hn, htree⟩ := number_of_blockTree (hblocks b List.mem_cons_self) hb
    -- The list is the last of those known, so that the item adds none.
    rw [Lists.number_of_known hfresh] at hn
    obtain ⟨rfl, rfl⟩ := Prod.mk.inj (Except.ok.inj hn)
    obtain ⟨hl, hmore⟩ := ih (fun b hb => hblocks b (List.mem_cons_of_mem _ hb)) hrest
    exact ⟨hl, List.forall_mem_cons.2 ⟨htree, hmore⟩⟩

/-- The items of a list that is not known bear the next number, and the list is known after
    them if there are any. -/
theorem bodyOf_items {blocks : List Block} {trees : List Tree}
    (hfresh : ∀ l ∈ lists, l.1 ≠ list) (hblocks : ∀ b ∈ blocks, b.IsItem true list start)
    (h : bodyOf code lists blocks = .ok (trees, lists')) :
    lists' = (if blocks = [] then lists else lists ++ [(list, start)])
      ∧ ∀ x ∈ trees, itemNumber? x = some (toString (Lists.numberAt lists.length)) := by
  cases blocks with
  | nil =>
    obtain ⟨rfl, rfl⟩ := Prod.mk.inj (Except.ok.inj h)
    exact ⟨rfl, by simp⟩
  | cons b rest =>
    simp only [bodyOf, bind_eq_ok_iff, pure_eq_ok_iff] at h
    obtain ⟨⟨tree, l⟩, hb, ⟨more, l'⟩, hrest, heq⟩ := h
    obtain ⟨rfl, rfl⟩ := Prod.mk.inj heq
    obtain ⟨n, hn, htree⟩ := number_of_blockTree (hblocks b List.mem_cons_self) hb
    -- The first item makes the list known, and the others find it.
    obtain ⟨rfl, rfl⟩ := Lists.number_of_fresh hfresh hn
    obtain ⟨hl, hmore⟩ := bodyOf_knownItems hfresh
      (fun b hb => hblocks b (List.mem_cons_of_mem _ hb)) hrest
    exact ⟨by simpa using hl, List.forall_mem_cons.2 ⟨htree, hmore⟩⟩

end

/-! ## Shares -/

/-- The elements of a body, share by share. -/
def portions (shares : List Share) (body : List Tree) : List (List Tree) :=
  (shares.map fun s => s.blocks.length).splitLengths body

/-- How many ordered lists with items are among the first shares. -/
def placeOf (shares : List Share) (k : Nat) : Nat :=
  (shares.take k).countP fun s => s.token.isNumbered

theorem placeOf_cons (s : Share) (shares : List Share) (k : Nat) :
    placeOf (s :: shares) (k + 1) = placeOf shares k + if s.token.isNumbered then 1 else 0 := by
  rw [placeOf, List.take_succ_cons, List.countP_cons]
  rfl

/-- Of two ordered lists with items, the later one has a later place. -/
theorem placeOf_lt {shares : List Share} {k l : Nat} {s : Share} (hs : shares[k]? = some s)
    (hn : s.token.isNumbered = true) (hkl : k < l) : placeOf shares k < placeOf shares l := by
  have hstep : placeOf shares (k + 1) = placeOf shares k + 1 := by
    rw [placeOf, List.take_add_one, hs, List.countP_append]
    simp [placeOf, hn]
  have hle : placeOf shares (k + 1) ≤ placeOf shares l :=
    ((List.take_prefix_take_left hkl).sublist).countP_le
  omega

/-- Where the ordered lists start, the one with a place starts at its place. -/
theorem getElem?_starts {shares : List Share} {k : Nat} {s : Share} {start : Int}
    (hs : shares[k]? = some s) (hstart : s.token.start? = some start) :
    (shares.filterMap fun s => s.token.start?)[placeOf shares k]? = some start := by
  induction shares generalizing k with
  | nil => cases hs
  | cons s' rest ih =>
    cases k with
    | zero =>
      obtain rfl := Option.some.inj hs
      simp [placeOf, hstart]
    | succ k =>
      have hrest := ih hs
      rw [placeOf_cons, Token.isNumbered]
      cases h : s'.token.start? with
      | none => simpa [List.filterMap_cons, h] using hrest
      | some start' => simpa [List.filterMap_cons, h] using hrest

/-- The elements of the share of a list at a place among the ordered lists: one for each
    item, with the number of the place if the list is ordered. -/
structure Bears (place : Nat) (s : Share) (part : List Tree) : Prop where
  ordered : ∀ items start, s.token = .list true items start →
    part.length = items.length
      ∧ ∀ x ∈ part, itemNumber? x = some (toString (Lists.numberAt place))
  bulleted : ∀ items start, s.token = .list false items start →
    part.length = items.length ∧ ∀ x ∈ part, itemNumber? x = none

section

variable {code : CodeLooks} {lists lists' : Lists} {trees : List Tree}

/-- The elements of a share, when the numbers of the lists known so far are taken. -/
theorem bears_of_takes {n n' : Nat} {s : Share} (h : s.Takes n n') (hl : ∀ l ∈ lists, l.1 ≤ n)
    (hbody : bodyOf code lists s.blocks = .ok (trees, lists')) :
    Bears lists.length s trees
      ∧ (∃ number, lists' = lists ++ (s.token.start?.map fun start => (number, start)).toList)
      ∧ ∀ l ∈ lists', l.1 ≤ n' := by
  have hlength := (forall₂_of_bodyOf hbody).length_eq
  cases h with
  | @ordered items start token count each next =>
    -- The number `n'` is above those of all lists known, so that none of them is this list.
    obtain ⟨hlists, htrees⟩ := bodyOf_items (fun l hmem => by have := hl l hmem; omega) each hbody
    refine ⟨⟨?_, ?_⟩, ⟨n', ?_⟩, ?_⟩
    · intro items' start' htoken
      obtain ⟨-, rfl, rfl⟩ := Token.list.inj (token.symm.trans htoken)
      exact ⟨by omega, htrees⟩
    · intro items' start' htoken
      cases (Token.list.inj (token.symm.trans htoken)).1
    · rw [hlists, token]
      cases items with
      | nil => rw [if_pos (List.eq_nil_of_length_eq_zero count)]; simp [Token.start?]
      | cons item rest =>
        rw [if_neg fun hnil => by simp [hnil] at count]
        rfl
    · intro l hmem
      rw [hlists] at hmem
      have hcase : l ∈ lists ∨ l = ((n' : Int), start) := by
        split at hmem
        · exact .inl hmem
        · simpa using hmem
      rcases hcase with hmem | rfl
      · have := hl l hmem
        omega
      · exact Int.le_refl _
  | @bulleted items start token count each next =>
    obtain rfl : lists' = lists := lists_of_bodyOf (fun b hb => by
      obtain ⟨runs, spacing, indent, rfl⟩ := each b hb
      rfl) hbody
    refine ⟨⟨?_, ?_⟩, ⟨0, by simp [token, Token.start?]⟩, next ▸ hl⟩
    · intro items' start' htoken
      cases (Token.list.inj (token.symm.trans htoken)).1
    · intro items' start' htoken
      obtain ⟨-, rfl, rfl⟩ := Token.list.inj (token.symm.trans htoken)
      refine ⟨by omega, fun x hx => ?_⟩
      obtain ⟨b, hb, l, l', hblock⟩ := exists_of_mem_bodyOf hbody hx
      exact itemNumber?_of_bullet (each b hb) hblock
  | other token each next =>
    obtain rfl : lists' = lists := lists_of_bodyOf each hbody
    have hstart : s.token.start? = none := by
      cases ht : s.token with
      | list => exact absurd (by rw [ht]; rfl) token
      | _ => rfl
    refine ⟨⟨?_, ?_⟩, ⟨0, by simp [hstart]⟩, next ▸ hl⟩
    · exact fun items start htoken => absurd (by rw [htoken]; rfl) token
    · exact fun items start htoken => absurd (by rw [htoken]; rfl) token

theorem portions_cons {s : Share} {shares : List Share} {part trees : List Tree}
    (h : part.length = s.blocks.length) :
    portions (s :: shares) (part ++ trees) = part :: portions shares trees := by
  rw [portions, List.map_cons, List.splitLengths_cons, ← h, List.take_left, List.drop_left]
  rfl

/-- The elements of shares in turn bear numbers in turn. -/
theorem bears_of_inTurn {n : Nat} {shares : List Share} (h : InTurn n shares)
    (hl : ∀ l ∈ lists, l.1 ≤ n)
    (hbody : bodyOf code lists (shares.flatMap Share.blocks) = .ok (trees, lists')) :
    lists'.map (·.2) = lists.map (·.2) ++ shares.filterMap (fun s => s.token.start?)
      ∧ ∀ k s part, shares[k]? = some s → (portions shares trees)[k]? = some part →
        Bears (lists.length + placeOf shares k) s part := by
  induction h generalizing lists trees with
  | nil =>
    obtain ⟨rfl, rfl⟩ := Prod.mk.inj (Except.ok.inj hbody)
    exact ⟨by simp, fun k s part hs => by simp at hs⟩
  | @cons n m m' s rest le takes next ih =>
    rw [List.flatMap_cons, bodyOf_append] at hbody
    obtain ⟨part, l, more, hpart, hmore, rfl⟩ := hbody
    obtain ⟨hbears, ⟨number, hnumber⟩, hl'⟩ :=
      bears_of_takes takes (fun x hx => Int.le_trans (hl x hx) (by omega)) hpart
    -- The invariant of the induction: numbers known so far are at most those taken so far.
    obtain ⟨hstarts, hrest⟩ := ih hl' hmore
    refine ⟨?_, fun k s' part' hs' hpart' => ?_⟩
    · rw [hstarts, hnumber]
      cases hs : s.token.start? <;> simp [hs]
    · rw [portions_cons (forall₂_of_bodyOf hpart).length_eq.symm] at hpart'
      cases k with
      | zero =>
        obtain rfl := Option.some.inj hs'
        obtain rfl := Option.some.inj hpart'
        exact hbears
      | succ k =>
        have hlength : l.length = lists.length + if s.token.isNumbered then 1 else 0 := by
          rw [hnumber, Token.isNumbered]
          cases s.token.start? <;> simp
        have := hrest k s' part' hs' hpart'
        rwa [hlength, Nat.add_right_comm, Nat.add_assoc, ← placeOf_cons] at this

end

/-! ## Packages -/

/-- An element of a body is that of an item of a list: of the token with a number, which is
    a list with a start. -/
def IsItemOf (shares : List Share) (body : List Tree) (k : Nat) (ordered : Bool) (start : Int)
    (x : Tree) : Prop :=
  ∃ items part, (shares.map Share.token)[k]? = some (.list ordered items start)
    ∧ (portions shares body)[k]? = some part ∧ x ∈ part

/-- A package numbers the lists among some shares, of which its body is made. -/
structure IsNumbered (shares : List Share) (p : Package) : Prop where
  /-- The body is made of the elements of the shares, -/
  flatten_portions : (portions shares p.body).flatten = p.body
  /-- and a list has one element for each item. -/
  length_items : ∀ (k : Nat) (ordered : Bool) (items : List String) (start : Int)
    (part : List Tree), (shares.map Share.token)[k]? = some (.list ordered items start) →
      (portions shares p.body)[k]? = some part → part.length = items.length
  /-- Items of ordered lists bear the same number exactly if they are of the same list. -/
  same_number_iff : ∀ (k l : Nat) (start start' : Int) (x y : Tree),
    IsItemOf shares p.body k true start x → IsItemOf shares p.body l true start' y →
      (itemNumber? x = itemNumber? y ↔ k = l)
  /-- Items of bulleted lists bear none. -/
  itemNumber?_bullet : ∀ (k : Nat) (start : Int) (x : Tree),
    IsItemOf shares p.body k false start x → itemNumber? x = none
  /-- The package knows the ordered lists with items, in order, and where they start. -/
  starts : p.lists.trees.map startOf?
    = (shares.filterMap fun s => s.token.start?).map fun start => some (toString start)
  /-- What the items of such a list bear is the number that it is known under. -/
  number : ∀ (k : Nat) (start : Int) (x : Tree), IsItemOf shares p.body k true start x →
    ∃ num, p.lists.trees[placeOf shares k]? = some num ∧ startOf? num = some (toString start)
      ∧ itemNumber? x = numberOf? num
  /-- The numbers differ from each other -/
  nodup : (p.lists.trees.map numberOf?).Nodup
  /-- and from those of the template. -/
  number_not_mem : ∀ num ∈ p.lists.trees,
    ∃ n : Nat, numberOf? num = some (toString n) ∧ n ∉ Template.listNumbers
  /-- All lists refer to the form that is added, -/
  form : ∀ num ∈ p.lists.trees, formOf? num = formNumber? p.form
  /-- which is none of the template. -/
  form_not_mem : ∃ n : Nat, formNumber? p.form = some (toString n) ∧ n ∉ Template.listForms

/-- Numbers of different places are written differently. -/
theorem toString_numberAt_inj {m n : Nat} :
    toString (Lists.numberAt m) = toString (Lists.numberAt n) ↔ m = n := by
  refine ⟨fun h => ?_, congrArg fun n => toString (Lists.numberAt n)⟩
  have hread := congrArg (fun s : String => Nat.ofDigitChars 10 s.toList 0) h
  simp only [Nat.toString_eq_ofList_toDigits, String.toList_ofList, Nat.ofDigitChars_ten_toDigits,
    Lists.numberAt_eq] at hread
  omega

namespace Lists

theorem map_startOf?_trees (lists : Lists) :
    lists.trees.map startOf? = (lists.map (·.2)).map fun start => some (toString start) := by
  conv_rhs => rw [← List.zipIdx_map_fst 0 lists, List.map_map, List.map_map]
  rw [trees, List.map_map]
  rfl

theorem map_numberOf?_trees (lists : Lists) :
    lists.trees.map numberOf?
      = (List.range' 0 lists.length).map fun place => some (toString (numberAt place)) := by
  rw [trees, List.map_map, ← List.zipIdx_map_snd, List.map_map]
  rfl

theorem mem_trees {lists : Lists} {num : Tree} (h : num ∈ lists.trees) :
    ∃ place start, num = tree (numberAt place) start := by
  obtain ⟨place, hplace⟩ := List.mem_iff_getElem?.1 h
  rw [getElem?_trees] at hplace
  obtain ⟨l, -, rfl⟩ := Option.map_eq_some_iff.1 hplace
  exact ⟨place, l.2, rfl⟩

theorem nodup_numbers (lists : Lists) : (lists.trees.map numberOf?).Nodup := by
  rw [map_numberOf?_trees]
  refine List.Nodup.map (fun m n h => ?_) (List.nodup_range' 1)
  exact toString_numberAt_inj.1 (Option.some.inj h)

end Lists

/-- A package whose body is made of shares in turn numbers their lists. -/
theorem isNumbered_of_inTurn {c : Config} {data : Value.Entries} {p : Package} {n : Nat}
    {shares : List Share} (h : InTurn n shares)
    (hp : assemble c ⟨shares.flatMap Share.blocks, data⟩ = .ok p) : IsNumbered shares p := by
  simp only [assemble, bind_eq_ok_iff, pure_eq_ok_iff] at hp
  obtain ⟨styles, _, properties, _, ⟨body, lists⟩, hbody, rfl⟩ := hp
  obtain ⟨hstarts, hbears⟩ := bears_of_inTurn h (by simp) hbody
  rw [List.map_nil, List.nil_append] at hstarts
  -- What is known of the share that an item is in, and of its place.
  have hitem {k : Nat} {ordered : Bool} {start : Int} {x : Tree}
      (hx : IsItemOf shares body k ordered start x) :
      ∃ s items part, shares[k]? = some s ∧ s.token = .list ordered items start
        ∧ Bears (placeOf shares k) s part ∧ x ∈ part := by
    obtain ⟨items, part, htoken, hpart, hmem⟩ := hx
    rw [List.getElem?_map] at htoken
    obtain ⟨s, hs, htoken⟩ := Option.map_eq_some_iff.1 htoken
    have hb := hbears k s part hs hpart
    rw [List.length_nil, Nat.zero_add] at hb
    exact ⟨s, items, part, hs, htoken, hb, hmem⟩
  have hordered {k : Nat} {start : Int} {x : Tree} (hx : IsItemOf shares body k true start x) :
      ∃ s, shares[k]? = some s ∧ s.token.start? = some start
        ∧ itemNumber? x = some (toString (Lists.numberAt (placeOf shares k))) := by
    obtain ⟨s, items, part, hs, htoken, hb, hmem⟩ := hitem hx
    obtain ⟨hlength, hnumber⟩ := hb.ordered _ _ htoken
    refine ⟨s, hs, ?_, hnumber x hmem⟩
    cases items with
    | nil => exact absurd (List.length_pos_of_mem hmem) (by simp [hlength])
    | cons item rest => rw [htoken, Token.start?]
  have hsum : body.length ≤ (shares.map fun s => s.blocks.length).sum := by
    rw [← (forall₂_of_bodyOf hbody).length_eq, List.length_flatMap]
  constructor
  case flatten_portions => exact List.flatten_splitLengths _ _ hsum
  case length_items =>
    intro k ordered items start part htoken hpart
    rw [List.getElem?_map] at htoken
    obtain ⟨s, hs, htoken⟩ := Option.map_eq_some_iff.1 htoken
    have hb := hbears k s part hs hpart
    cases ordered with
    | true => exact (hb.ordered _ _ htoken).1
    | false => exact (hb.bulleted _ _ htoken).1
  case same_number_iff =>
    intro k l start start' x y hx hy
    obtain ⟨s, hs, hnumbered, hbx⟩ := hordered hx
    obtain ⟨s', hs', hnumbered', hby⟩ := hordered hy
    rw [hbx, hby, Option.some_inj, toString_numberAt_inj]
    refine ⟨fun heq => ?_, fun heq => by rw [heq]⟩
    rcases Nat.lt_trichotomy k l with hlt | heq | hlt
    · exact absurd (placeOf_lt hs (by simp [Token.isNumbered, hnumbered]) hlt) (by omega)
    · exact heq
    · exact absurd (placeOf_lt hs' (by simp [Token.isNumbered, hnumbered']) hlt) (by omega)
  case itemNumber?_bullet =>
    intro k start x hx
    obtain ⟨s, items, part, hs, htoken, hb, hmem⟩ := hitem hx
    exact (hb.bulleted _ _ htoken).2 x hmem
  case starts => rw [← hstarts, Lists.map_startOf?_trees]
  case number =>
    intro k start x hx
    obtain ⟨s, hs, hstart, hbx⟩ := hordered hx
    have hat := getElem?_starts hs hstart
    rw [← hstarts, List.getElem?_map] at hat
    obtain ⟨l, hl, rfl⟩ := Option.map_eq_some_iff.1 hat
    refine ⟨Lists.tree (Lists.numberAt (placeOf shares k)) l.2, ?_, rfl, hbx⟩
    rw [Lists.getElem?_trees, hl]
    rfl
  case nodup => exact lists.nodup_numbers
  case number_not_mem =>
    intro num hnum
    obtain ⟨place, start, rfl⟩ := Lists.mem_trees hnum
    exact ⟨Lists.numberAt place, rfl, Lists.numberAt_not_mem place⟩
  case form =>
    intro num hnum
    obtain ⟨place, start, rfl⟩ := Lists.mem_trees hnum
    rfl
  case form_not_mem => exact ⟨addedForm, rfl, numberAbove_not_mem _⟩

/-- The blocks of calls one after the other on one composition, some of which may fail, make
    a package that numbers their lists. -/
theorem isNumbered_of_calls {σ : Type} (bridge : Bridge σ) (config c : Config)
    (calls : List (List Token)) (s : σ) (data : Value.Entries) (p : Package)
    (h : assemble c ⟨blocksOfCalls bridge config calls { bridge := s }, data⟩ = .ok p) :
    (sharesOfCalls bridge config calls { bridge := s }).flatMap Share.blocks
        = blocksOfCalls bridge config calls { bridge := s }
      ∧ (sharesOfCalls bridge config calls { bridge := s }).map Share.token
        = tokensOfCalls bridge config calls { bridge := s }
      ∧ IsNumbered (sharesOfCalls bridge config calls { bridge := s }) p := by
  have hblocks := flatMap_sharesOfCalls bridge config calls { bridge := s }
  refine ⟨hblocks, map_token_sharesOfCalls bridge config calls _, ?_⟩
  rw [← hblocks] at h
  exact isNumbered_of_inTurn (inTurn_sharesOfCalls bridge config calls _) h

/-- Two calls, the first of which fails after the items of a list. -/
theorem isNumbered_twoCalls :
    let calls : List (List Token) :=
      [[.list true ["a"] 3, .unknown],
        [.list true ["b $x$", "c"] 7, .list false ["d"] 1, .list true [] 5, .list true ["e"] 0]]
    ∃ p, assemble .standard
        ⟨blocksOfCalls (rejecting "x") .standard calls { bridge := () }, []⟩ = .ok p
      ∧ IsNumbered (sharesOfCalls (rejecting "x") .standard calls { bridge := () }) p := by
  intro calls
  obtain ⟨p, hp⟩ := exists_eq_ok (x := assemble .standard
    ⟨blocksOfCalls (rejecting "x") .standard calls { bridge := () }, []⟩) rfl
  exact ⟨p, hp, (isNumbered_of_calls _ _ _ _ _ _ _ hp).2.2⟩

end Manuscript.Package
