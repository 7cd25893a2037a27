import Manuscript.Proofs.Markdown.Recovery
import Mathlib.Logic.Basic

/-!
# Texts of the items of a list

A list becomes one token, whose items are those of the list and of all lists inside it. Which
text stands in which item is told here by a walk through the events of the list that knows
no tree and no place to come back to (`pieces`): it numbers the items as they open, keeps the
parts that are open, and gives each piece of text to the innermost open item.

The reader of lists, which follows the nesting of the events, gathers the texts and the items
inside an item apart and passes what it leaves out as a whole. It comes to the same: for any
well-nested events (`IsNested`), the items stand in the order in which they open, one for each
opening, and the text of each is the pieces that are its own (`items_of_isNested`).
-/

namespace Manuscript.Markdown

open Manuscript.Log Manuscript.Text

/-! ## Nesting -/

/-- The parts of a table. -/
def Part.isOfTable : Part → Bool
  | head | body | row | headerCell | cell => true
  | _ => false

/-- What stands inside a table: its parts, one inside the other, and inline text. -/
inductive IsTableContent : List Event → Prop
  | nil : IsTableContent []
  | text {text : String} {rest : List Event} :
    IsTableContent rest → IsTableContent (.inline text :: rest)
  | part {part : Part} {line depth : Nat} {start : Option Nat} {style : Option String}
      {es rest : List Event} :
    part.isOfTable = true → IsTableContent es → IsTableContent rest →
    IsTableContent (.enter part line depth start style :: es ++ .leave part :: rest)

/-- The events of a block that is no part of any item: a heading, a table, or a block of one
    event that is no code. -/
inductive IsLeftOut : List Event → Prop
  | heading {line depth : Nat} {start : Option Nat} {style : Option String} (text : String) :
    IsLeftOut (Event.around (.enter .heading line depth start style) .heading text)
  | table {line depth : Nat} {start : Option Nat} {style : Option String} {es : List Event} :
    IsTableContent es → IsLeftOut (.enter .table line depth start style :: es ++ [.leave .table])
  | aside {e : Event} : e.isAside = true → IsLeftOut [e]

/-- What events are well nested as. -/
inductive Nest where
  /-- One block. -/
  | block
  /-- Blocks, one after the other. -/
  | blocks
  /-- The items of a list. -/
  | items
  deriving DecidableEq

/-- Events are well nested: lists hold items, items and block quotes hold blocks, and all that
    opens closes. What else the events tell does not matter. -/
inductive IsNested : Nest → List Event → Prop
  | paragraph {line depth : Nat} {start : Option Nat} {style : Option String} (text : String) :
    IsNested .block (Event.around (.enter .paragraph line depth start style) .paragraph text)
  | fence {line : Nat} (info text : String) : IsNested .block [.fence line info text]
  | indented {line : Nat} (text : String) : IsNested .block [.indented line text]
  | leftOut {es : List Event} : IsLeftOut es → IsNested .block es
  | quote {line depth : Nat} {start : Option Nat} {style : Option String} {es : List Event} :
    IsNested .blocks es →
    IsNested .block (.enter .quote line depth start style :: es ++ [.leave .quote])
  | list {part : Part} {line depth : Nat} {start : Option Nat} {style : Option String}
      {es : List Event} :
    part = .bulletList ∨ part = .orderedList → IsNested .items es →
    IsNested .block (.enter part line depth start style :: es ++ [.leave part])
  | noBlocks : IsNested .blocks []
  | blocks {es rest : List Event} :
    IsNested .block es → IsNested .blocks rest → IsNested .blocks (es ++ rest)
  | noItems : IsNested .items []
  | items {line depth : Nat} {start : Option Nat} {style : Option String}
      {es rest : List Event} :
    IsNested .blocks es → IsNested .items rest →
    IsNested .items (.enter .item line depth start style :: es ++ .leave .item :: rest)

/-! ## Forests -/

namespace IsTableContent

variable {es fs : List Event} {part : Part} {line : Nat}

theorem append (h : IsTableContent es) (h' : IsTableContent fs) : IsTableContent (es ++ fs) := by
  induction h with
  | nil => exact h'
  | text _ ih => exact .text ih
  | part hpart hes _ _ ih =>
    rw [List.append_assoc, List.cons_append]
    exact .part hpart hes ih

theorem enclosed (hpart : part.isOfTable = true) (h : IsTableContent es) :
    IsTableContent (.opens part line :: es ++ [.leave part]) :=
  .part hpart h .nil

theorem ofCell (hpart : part.isOfTable = true) (line : Nat) (text : String)
    (align : Option Alignment) : IsTableContent (Event.ofCell part line text align) :=
  .part hpart (.text .nil) .nil

theorem headerEvents (line : Nat) (header : List (String × Option Alignment)) :
    IsTableContent (Reading.headerEvents line header) := by
  induction header with
  | nil => exact .nil
  | cons cell header ih => exact (ofCell rfl line cell.1 cell.2).append ih

theorem ofCells (line : Nat) (aligns : List (Option Alignment)) (row : List String) :
    IsTableContent (Event.ofCells line aligns row) := by
  induction row generalizing aligns with
  | nil => exact .nil
  | cons text row ih => exact (ofCell rfl line text _).append (ih _)

theorem ofRows (line : Nat) (aligns : List (Option Alignment)) (rows : List (List String)) :
    IsTableContent (Event.ofRows line aligns rows) := by
  induction rows with
  | nil => exact .nil
  | cons row rows ih => exact .part rfl (ofCells line aligns row) ih

/-- The inside of a table is that of one. -/
theorem ofTable (line : Nat) (header : List (String × Option Alignment))
    (aligns : List (Option Alignment)) (rows : List (List String)) :
    IsTableContent (Reading.headEvents line header ++ Reading.bodyEvents line aligns rows) := by
  refine (enclosed rfl (enclosed rfl (headerEvents line header))).append ?_
  unfold Reading.bodyEvents
  split
  · exact .nil
  · exact enclosed rfl (ofRows line aligns rows)

end IsTableContent

mutual

/-- The events of blocks are well nested. -/
theorem isNested_ofBlock : ∀ b : Block, IsNested .block (Event.ofBlock b)
  | .paragraph _ text => .paragraph text
  | .heading _ _ text => .leftOut (.heading text)
  | .table line header rows => by
    rw [Event.ofBlock, Reading.ofTable_eq]
    exact .leftOut (.table (.ofTable line header (header.map (·.2)) rows))
  | .list line none its => .list (.inl rfl) (isNested_ofItems line its)
  | .list line (some _) its => .list (.inr rfl) (isNested_ofItems line its)
  | .quote _ body => .quote (isNested_ofBlocks body)
  | .fence _ info text => .fence info text
  | .indented _ text => .indented text
  | .rule _ => .leftOut (.aside rfl)
  | .html _ _ => .leftOut (.aside rfl)
  | .frontMatter _ _ => .leftOut (.aside rfl)

theorem isNested_ofBlocks : ∀ bs : List Block, IsNested .blocks (Event.ofBlocks bs)
  | [] => .noBlocks
  | b :: rest => .blocks (isNested_ofBlock b) (isNested_ofBlocks rest)

theorem isNested_ofItems (line : Nat) : ∀ its : List (List Block),
    IsNested .items (Event.ofItems line its)
  | [] => .noItems
  | body :: rest => .items (isNested_ofBlocks body) (isNested_ofItems line rest)

end

/-! ## Pieces and their items -/

/-- A part that is open, and how many items had opened before it: the number of the part, if
    it is an item. -/
structure Opened where
  /-- The part. -/
  part : Part
  /-- The number of items before it. -/
  items : Nat

/-- The number of the innermost item among open parts, the innermost of which comes first. -/
def innermost (opened : List Opened) : Option Nat :=
  (opened.find? (·.part == .item)).map (·.items)

/-- How many items open with a part. -/
def newItems (part : Part) : Nat := if part = .item then 1 else 0

/-- The pieces of text among some events, each with the number of the innermost item around
    it: the texts of paragraphs, and code without the line feeds at its end. `count` items
    have opened before, and the parts `opened` are open. -/
def pieces : (count : Nat) → (opened : List Opened) → List Event → List (Option Nat × String)
  | _, _, [] => []
  | n, o, .enter part _ _ _ _ :: es => pieces (n + newItems part) (⟨part, n⟩ :: o) es
  | n, o, .leave _ :: es => pieces n o.tail es
  | n, o, .inline text :: es =>
    (if o.head?.any (·.part == .paragraph) then [(innermost o, text)] else []) ++ pieces n o es
  | n, o, .fence _ _ text :: es | n, o, .indented _ text :: es =>
    (innermost o, chomped text) :: pieces n o es
  | n, o, .rule _ :: es | n, o, .html _ _ :: es | n, o, .frontMatter _ :: es => pieces n o es

/-- The texts of the pieces that belong to an item. -/
def textsOf (item : Option Nat) (ps : List (Option Nat × String)) : List String :=
  (ps.filter (·.1 == item)).map (·.2)

/-- Whether an event opens an item. -/
def Event.opensItem : Event → Bool
  | .enter part _ _ _ _ => part == .item
  | _ => false

/-- How often an item opens among some events. -/
def openings (es : List Event) : Nat := es.countP Event.opensItem

section

variable {n : Nat} {o : List Opened} {es fs : List Event} {part : Part} {line depth : Nat}
  {start : Option Nat} {style : Option String}

theorem innermost_item (n : Nat) (o : List Opened) : innermost (⟨.item, n⟩ :: o) = some n := rfl

theorem innermost_of_ne (hpart : part ≠ .item) (n : Nat) (o : List Opened) :
    innermost (⟨part, n⟩ :: o) = innermost o := by
  rw [innermost, List.find?_cons_of_neg (by simpa using hpart), innermost]

theorem textsOf_append (item : Option Nat) (ps qs : List (Option Nat × String)) :
    textsOf item (ps ++ qs) = textsOf item ps ++ textsOf item qs := by
  rw [textsOf, List.filter_append, List.map_append, textsOf, textsOf]

theorem textsOf_eq_nil {item : Option Nat} {ps : List (Option Nat × String)}
    (h : ∀ q ∈ ps, q.1 ≠ item) : textsOf item ps = [] := by
  rw [textsOf, List.map_eq_nil_iff, List.filter_eq_nil_iff]
  intro q hq
  rw [beq_iff_eq]
  exact h q hq

theorem openings_append (es fs : List Event) : openings (es ++ fs) = openings es + openings fs :=
  List.countP_append

theorem openings_enclosed :
    openings (.enter part line depth start style :: es ++ [.leave part])
      = openings es + newItems part := by
  rw [List.cons_append, openings, List.countP_cons, ← openings, openings_append, newItems]
  simp [openings, Event.opensItem]

end

/-! ## Parts of a walk -/

/-- A walk through some events and those after them comes out of the first with the same parts
    open. -/
def Splits (es : List Event) : Prop :=
  ∀ (n : Nat) (o : List Opened) (fs : List Event),
    pieces n o (es ++ fs) = pieces n o es ++ pieces (n + openings es) o fs

namespace Splits

variable {es fs : List Event} {part : Part} {line depth : Nat} {start : Option Nat}
  {style : Option String}

theorem nil : Splits [] := fun _ _ _ => rfl

theorem append (h : Splits es) (h' : Splits fs) : Splits (es ++ fs) := by
  intro n o gs
  rw [List.append_assoc, h n o, h' _ o, h n o, openings_append, List.append_assoc, Nat.add_assoc]

/-- A part closes what it has opened. -/
theorem pieces_enclosed (h : Splits es) (n : Nat) (o : List Opened) (fs : List Event) :
    pieces n o (.enter part line depth start style :: es ++ [.leave part] ++ fs)
      = pieces (n + newItems part) (⟨part, n⟩ :: o) es
        ++ pieces (n + newItems part + openings es) o fs := by
  rw [List.append_assoc, List.cons_append, pieces, h _ _ _, List.singleton_append, pieces,
    List.tail_cons]

theorem pieces_part (h : Splits es) (n : Nat) (o : List Opened) :
    pieces n o (.enter part line depth start style :: es ++ [.leave part])
      = pieces (n + newItems part) (⟨part, n⟩ :: o) es := by
  rw [← List.append_nil (Event.enter part line depth start style :: es ++ [Event.leave part]),
    h.pieces_enclosed, pieces, List.append_nil]

theorem enclosed (h : Splits es) :
    Splits (.enter part line depth start style :: es ++ [.leave part]) := by
  intro n o fs
  rw [h.pieces_enclosed, h.pieces_part, openings_enclosed, Nat.add_assoc n,
    Nat.add_comm (newItems part)]

/-- An event at which nothing opens or closes. -/
theorem single {e : Event} (he : e.nesting = 0) : Splits [e] := by
  intro n o fs
  cases e with
  | enter => cases he
  | leave => cases he
  | inline text => simp [pieces, openings, Event.opensItem]
  | _ => rfl

end Splits

/-- The items that are open have numbers below those of items to come. -/
def IsFresh (n : Nat) (o : List Opened) : Prop := ∀ m ∈ innermost o, m < n

theorem IsFresh.add {n : Nat} {o : List Opened} (h : IsFresh n o) (k : Nat) :
    IsFresh (n + k) o :=
  fun m hm => Nat.lt_add_right k (h m hm)

/-- What a walk through some events gives to the item around them and to those that open among
    them. -/
structure Describes (es : List Event) (part : Reading.Item) : Prop where
  splits : Splits es
  own : ∀ n o, IsFresh n o → textsOf (innermost o) (pieces n o es) = part.pieces
  inner : ∀ n o, IsFresh n o → part.inner = (List.range (openings es)).map fun k =>
    "\n".intercalate (textsOf (some (n + k)) (pieces n o es))
  owned : ∀ n o, ∀ q ∈ pieces n o es,
    q.1 = innermost o ∨ ∃ k < openings es, q.1 = some (n + k)

namespace Describes

open Reading (Item)

variable {es fs : List Event} {a b : Item} {part : Part} {line depth : Nat} {start : Option Nat}
  {style : Option String}

/-- Events without items, the pieces of which all belong to the item around them. -/
theorem of_pieces {texts : List String} (hs : Splits es) (hopen : openings es = 0)
    (h : ∀ n o, pieces n o es = texts.map fun text => (innermost o, text)) :
    Describes es { pieces := texts } where
  splits := hs
  own n o _ := by
    rw [h n o, textsOf, List.filter_map, List.map_map, List.filter_eq_self.2]
    · exact List.map_id texts
    · exact fun text _ => beq_self_eq_true _
  inner n o _ := by
    rw [hopen]
    rfl
  owned n o q hq := by
    rw [h n o] at hq
    obtain ⟨text, -, rfl⟩ := List.mem_map.1 hq
    exact .inl rfl

theorem nil : Describes [] {} := of_pieces .nil rfl fun _ _ => rfl

/-- Blocks one after the other: no item that opens in one of them has a piece in another. -/
theorem append (h : Describes es a) (h' : Describes fs b) : Describes (es ++ fs) (a ++ b) where
  splits := h.splits.append h'.splits
  own n o hfresh := by
    rw [h.splits n o fs, textsOf_append, h.own n o hfresh,
      h'.own _ o (hfresh.add _)]
    rfl
  inner n o hfresh := by
    have hinner : (a ++ b).inner = a.inner ++ b.inner := rfl
    rw [hinner, openings_append, List.range_add, List.map_append, List.map_map, h.inner n o hfresh,
      h'.inner _ o (hfresh.add _), h.splits n o fs]
    refine congrArg₂ (· ++ ·) (List.map_congr_left fun k hk => ?_)
      (List.map_congr_left fun k _ => ?_)
    · -- What comes later belongs to other items.
      have hlater : textsOf (some (n + k)) (pieces (n + openings es) o fs) = [] := by
        refine textsOf_eq_nil fun q hq heq => ?_
        have hk := List.mem_range.1 hk
        rcases h'.owned _ o q hq with hq | ⟨j, -, hq⟩
        · have := hfresh (n + k) (hq ▸ heq)
          omega
        · have := Option.some.inj (hq.symm.trans heq)
          omega
      rw [textsOf_append, hlater, List.append_nil]
    · have hbefore : textsOf (some (n + (openings es + k))) (pieces n o es) = [] := by
        refine textsOf_eq_nil fun q hq heq => ?_
        rcases h.owned n o q hq with hq | ⟨j, hj, hq⟩
        · have := hfresh (n + (openings es + k)) (hq ▸ heq)
          omega
        · have := Option.some.inj (hq.symm.trans heq)
          omega
      rw [Function.comp_apply, textsOf_append, hbefore, List.nil_append, Nat.add_assoc]
  owned n o q hq := by
    rw [h.splits n o fs] at hq
    rw [openings_append]
    rcases List.mem_append.1 hq with hq | hq
    · rcases h.owned n o q hq with hq | ⟨k, hk, hq⟩
      · exact .inl hq
      · exact .inr ⟨k, by omega, hq⟩
    · rcases h'.owned _ o q hq with hq | ⟨k, hk, hq⟩
      · exact .inl hq
      · exact .inr ⟨openings es + k, by omega, by rw [hq, Nat.add_assoc]⟩

/-- A part that is no item changes nothing for what it holds. -/
theorem within (hpart : part ≠ .item) (h : Describes es a) :
    Describes (.enter part line depth start style :: es ++ [.leave part]) a := by
  have hnew : newItems part = 0 := if_neg hpart
  have hpieces (n : Nat) (o : List Opened) :
      pieces n o (.enter part line depth start style :: es ++ [.leave part])
        = pieces n (⟨part, n⟩ :: o) es := by
    rw [h.splits.pieces_part, hnew, Nat.add_zero]
  have hopen : openings (.enter part line depth start style :: es ++ [.leave part])
      = openings es := by
    rw [openings_enclosed, hnew, Nat.add_zero]
  have hinnermost (n : Nat) (o : List Opened) := innermost_of_ne hpart n o
  have hfresh {n : Nat} {o : List Opened} (h : IsFresh n o) : IsFresh n (⟨part, n⟩ :: o) := by
    rwa [IsFresh, hinnermost]
  refine ⟨h.splits.enclosed, fun n o ho => ?_, fun n o ho => ?_, fun n o q hq => ?_⟩
  · rw [hpieces, ← hinnermost n o]
    exact h.own n _ (hfresh ho)
  · rw [hpieces, hopen]
    exact h.inner n _ (hfresh ho)
  · rw [hpieces] at hq
    rw [hopen, ← hinnermost n o]
    exact h.owned n _ q hq

/-- An item opens before those inside it, and keeps the pieces that are not theirs. -/
theorem item (h : Describes es a) :
    Describes (.enter .item line depth start style :: es ++ [.leave .item])
      { inner := a.texts } := by
  have hpieces (n : Nat) (o : List Opened) :
      pieces n o (.enter .item line depth start style :: es ++ [.leave .item])
        = pieces (n + 1) (⟨.item, n⟩ :: o) es := by
    rw [h.splits.pieces_part]
    rfl
  have hopen : openings (.enter .item line depth start style :: es ++ [.leave .item])
      = openings es + 1 := openings_enclosed
  have hfresh (n : Nat) (o : List Opened) : IsFresh (n + 1) (⟨.item, n⟩ :: o) := by
    intro m hm
    rw [innermost_item] at hm
    have := Option.some.inj hm
    omega
  have howned (n : Nat) (o : List Opened) {q : Option Nat × String}
      (hq : q ∈ pieces (n + 1) (⟨.item, n⟩ :: o) es) :
      ∃ k < openings es + 1, q.1 = some (n + k) := by
    rcases h.owned (n + 1) _ q hq with hq | ⟨k, hk, hq⟩
    · exact ⟨0, Nat.succ_pos _, hq⟩
    · exact ⟨k + 1, by omega, by rw [hq, Nat.add_assoc, Nat.add_comm 1]⟩
  refine ⟨h.splits.enclosed, fun n o ho => ?_, fun n o ho => ?_, fun n o q hq => ?_⟩
  · -- Nothing is left for the item around this one.
    rw [hpieces]
    refine textsOf_eq_nil fun q hq heq => ?_
    obtain ⟨k, -, hk⟩ := howned n o hq
    have := ho (n + k) (heq.symm.trans hk)
    omega
  · have hown : a.pieces = textsOf (some n) (pieces (n + 1) (⟨.item, n⟩ :: o) es) :=
      (h.own (n + 1) _ (hfresh n o)).symm
    have hinner := h.inner (n + 1) _ (hfresh n o)
    rw [hpieces, hopen, List.range_succ_eq_map, List.map_cons, List.map_map, Nat.add_zero, ← hown]
    refine congrArg (_ :: ·) (hinner.trans (List.map_congr_left fun k _ => ?_))
    rw [Function.comp_apply, Nat.succ_eq_add_one, Nat.add_assoc, Nat.add_comm 1]
  · rw [hpieces] at hq
    rw [hopen]
    exact .inr (howned n o hq)

end Describes

/-! ## Blocks that are left out -/

namespace IsTableContent

variable {es : List Event}

theorem level (h : IsTableContent es) : Reading.Level es := by
  induction h with
  | nil => exact .nil
  | text _ ih => exact (Reading.Level.single rfl).append ih
  | part _ _ _ ih ih' =>
    rw [List.append_cons]
    exact (Reading.Level.enclosed ih).append ih'

/-- No item opens inside a table, and what it holds is no text of an item. -/
theorem silent (h : IsTableContent es) :
    Splits es ∧ openings es = 0
      ∧ ∀ n o, (o.head?.any fun x => x.part == .paragraph) = false → pieces n o es = [] := by
  induction h with
  | nil => exact ⟨.nil, rfl, fun _ _ _ => rfl⟩
  | @text text rest _ ih =>
    obtain ⟨hs, hopen, hnone⟩ := ih
    refine ⟨(Splits.single rfl).append hs, hopen, fun n o ho => ?_⟩
    rw [pieces, ho, if_neg Bool.false_ne_true, hnone n o ho, List.append_nil]
  | @part part _ _ _ _ es rest hpart _ _ ih ih' =>
    obtain ⟨hs, hopen, hnone⟩ := ih
    obtain ⟨hs', hopen', hnone'⟩ := ih'
    have hitem : newItems part = 0 := if_neg fun heq => by rw [heq] at hpart; cases hpart
    have hparagraph : (part == .paragraph) = false :=
      beq_eq_false_iff_ne.2 fun heq => by rw [heq] at hpart; cases hpart
    rw [List.append_cons]
    refine ⟨hs.enclosed.append hs', ?_, fun n o ho => ?_⟩
    · rw [openings_append, openings_enclosed, hopen, hopen', hitem]
    · rw [hs.pieces_enclosed, hnone _ (⟨part, n⟩ :: o) hparagraph, hnone' _ _ ho, List.append_nil]

end IsTableContent

namespace IsLeftOut

variable {es : List Event}

/-- A block that is left out has no item and no piece. -/
theorem silent (h : IsLeftOut es) :
    Splits es ∧ openings es = 0 ∧ ∀ n o, pieces n o es = [] := by
  cases h with
  | heading text => exact ⟨(Splits.single rfl).enclosed, rfl, fun _ _ => rfl⟩
  | table hcontent =>
    obtain ⟨hs, hopen, hnone⟩ := hcontent.silent
    refine ⟨hs.enclosed, ?_, fun n o => ?_⟩
    · rw [openings_enclosed, hopen]
      rfl
    · rw [hs.pieces_part, hnone _ _ rfl]
  | @aside e he =>
    cases e with
    | rule line => exact ⟨.single rfl, rfl, fun _ _ => rfl⟩
    | html line raw => exact ⟨.single rfl, rfl, fun _ _ => rfl⟩
    | frontMatter text => exact ⟨.single rfl, rfl, fun _ _ => rfl⟩
    | _ => cases he

theorem addsToItem (h : IsLeftOut es) : ∃ said, Reading.AddsToItem es {} said := by
  cases h with
  | heading text => exact ⟨_, .leftOut (.inl rfl) (Reading.Level.single rfl)⟩
  | table hcontent => exact ⟨_, .leftOut (.inr rfl) hcontent.level⟩
  | aside he => exact ⟨_, .aside he⟩

/-- Without the block, the same pieces are given to the same items. -/
theorem pieces_removed (h : IsLeftOut es) (before after : List Event) (n : Nat)
    (o : List Opened) : pieces n o (before ++ es ++ after) = pieces n o (before ++ after) := by
  obtain ⟨hs, hopen, hnone⟩ := h.silent
  induction before generalizing n o with
  | nil => rw [List.nil_append, List.nil_append, hs n o after, hnone n o, hopen]; rfl
  | cons e before ih =>
    cases e <;> simp only [List.cons_append, pieces, ih]

end IsLeftOut

/-! ## Lists -/

/-- What is read of nested events in an item or in a list, and what a walk through them gives
    to which item, are the same. -/
def Nest.IsAttributed : Nest → List Event → Prop
  | .block, es | .blocks, es =>
    ∃ part said, Reading.AddsToItem es part said ∧ Describes es part
  | .items, es => ∃ texts said, Reading.MakesItems es texts said ∧ Describes es { inner := texts }

theorem IsNested.isAttributed {nest : Nest} {es : List Event} (h : IsNested nest es) :
    nest.IsAttributed es := by
  induction h with
  | paragraph text =>
    have hitem : Part.paragraph ≠ .item := by decide
    refine ⟨_, _, .paragraph text, .of_pieces (Splits.single rfl).enclosed rfl fun n o => ?_⟩
    rw [← innermost_of_ne hitem n o]
    rfl
  | fence info text =>
    exact ⟨_, _, .fence info text, .of_pieces (.single rfl) rfl fun n o => rfl⟩
  | indented text =>
    exact ⟨_, _, .indented text, .of_pieces (.single rfl) rfl fun n o => rfl⟩
  | leftOut hout =>
    obtain ⟨hs, hopen, hnone⟩ := hout.silent
    obtain ⟨said, hreads⟩ := hout.addsToItem
    exact ⟨_, said, hreads, .of_pieces hs hopen hnone⟩
  | quote _ ih =>
    obtain ⟨part, said, hreads, hwalk⟩ := ih
    exact ⟨part, _, hreads.quote, hwalk.within (by decide)⟩
  | @list part _ _ _ _ es hpart _ ih =>
    obtain ⟨texts, said, hreads, hwalk⟩ := ih
    have hitem : part ≠ .item := by
      rcases hpart with rfl | rfl <;> decide
    exact ⟨_, said, .list hpart hreads, hwalk.within hitem⟩
  | noBlocks => exact ⟨{}, [], .nil, .nil⟩
  | blocks _ _ ih ih' =>
    obtain ⟨part, said, hreads, hwalk⟩ := ih
    obtain ⟨part', said', hreads', hwalk'⟩ := ih'
    exact ⟨_, _, hreads.append hreads', hwalk.append hwalk'⟩
  | noItems => exact ⟨[], [], .nil, .nil⟩
  | items _ _ ih ih' =>
    obtain ⟨part, said, hreads, hwalk⟩ := ih
    obtain ⟨texts, said', hreads', hwalk'⟩ := ih'
    refine ⟨_, _, .cons hreads hreads', ?_⟩
    rw [List.append_cons]
    exact hwalk.item.append hwalk'

/-- The items of a list, in any stream and wherever the list stands in it: as many as items
    open between its ends, in the order in which they open. Each piece of text between its
    ends belongs to one of them, the innermost that is open around it, and the text of each
    item is its pieces, one under the other. A heading, a table, a thematic break and markup of
    another language are no pieces and have no items. -/
theorem items_of_isNested {es : List Event} {list : Part} {line depth : Nat}
    {start : Option Nat} {style : Option String} {events : Array Event} {i : Nat}
    (hlist : list = .bulletList ∨ list = .orderedList) (h : IsNested .items es)
    (hs : Stands events i (.enter list line depth start style :: es ++ [.leave list])) :
    ∃ p : Reading.Passage (List String),
      Reads events (i + 1) (Reading.items events list · (i + 1)) (some p)
      ∧ p.next = i + es.length + 2
      ∧ p.value = (List.range (openings es)).map (fun k =>
          "\n".intercalate (textsOf (some k) (pieces 0 [⟨list, 0⟩] es)))
      ∧ (∀ q ∈ pieces 0 [⟨list, 0⟩] es, ∃ k < openings es, q.1 = some k)
      ∧ ∀ before out after, es = before ++ out ++ after → IsLeftOut out →
          pieces 0 [⟨list, 0⟩] (before ++ after) = pieces 0 [⟨list, 0⟩] es
          ∧ openings (before ++ after) = openings es := by
  obtain ⟨texts, said, hreads, hwalk⟩ := h.isAttributed
  have hitem : list ≠ .item := by
    rcases hlist with rfl | rfl <;> decide
  have hnone : innermost [⟨list, 0⟩] = none := innermost_of_ne hitem 0 []
  have hfresh : IsFresh 0 [⟨list, 0⟩] := by
    rw [IsFresh, hnone]
    intro m hm
    cases hm
  have hnext : i + 1 + (es ++ [Event.leave list]).length = i + es.length + 2 := by
    rw [List.length_append, List.length_singleton]
    omega
  refine ⟨_, hreads events (i + 1) list hs.tail, hnext, ?_, fun q hq => ?_, ?_⟩
  · simpa only [Nat.zero_add] using hwalk.inner 0 _ hfresh
  · rcases hwalk.owned 0 _ q hq with howner | ⟨k, hk, hq⟩
    · -- No piece stands in the list but outside its items.
      have hown := hwalk.own 0 _ hfresh
      rw [textsOf, List.map_eq_nil_iff, List.filter_eq_nil_iff] at hown
      exact absurd (beq_iff_eq.2 howner) (hown q hq)
    · exact ⟨k, hk, by rw [hq, Nat.zero_add]⟩
  · rintro before out after rfl hout
    obtain ⟨-, hopen, -⟩ := hout.silent
    refine ⟨(hout.pieces_removed before after _ _).symm, ?_⟩
    rw [openings_append, openings_append, openings_append, hopen, Nat.add_zero]

/-- Two items: the first goes on after a list inside it, the item of which holds a quotation,
    and the second begins with a heading. -/
def twoItems : List (List Block) :=
  [[.paragraph 0 "a", .list 1 none [[.paragraph 1 "b", .quote 2 [.paragraph 2 "c"]]],
    .indented 3 "d\n"],
   [.heading 4 1 "e", .paragraph 5 "f"]]

theorem items_of_isNested_twoItems :
    ∃ p, Reading.items (Event.ofBlock (.list 0 (some 1) twoItems)).toArray .orderedList 40 1 = some p
      ∧ p.value = ["a\nd", "b\nc", "f"] := by
  have hs : Stands (Event.ofBlock (.list 0 (some 1) twoItems)).toArray 0
      (.enter .orderedList 0 0 none none :: Event.ofItems 0 twoItems ++ [.leave .orderedList]) :=
    Stands.toArray _
  obtain ⟨p, hreads, -, hvalue, -⟩ := items_of_isNested (.inr rfl) (isNested_ofItems 0 twoItems) hs
  exact ⟨p, hreads 40 (by decide), hvalue.trans (by decide)⟩

end Manuscript.Markdown
