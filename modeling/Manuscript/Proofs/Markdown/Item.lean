import Manuscript.Proofs.Markdown.Place

/-!
# Reading an item

What some events in an item add to it (`AddsToItem`), and which items the events in a list
make (`MakesItems`), wherever in a stream they stand and whatever follows them. There is a
rule for each kind of block, and one for blocks that stand one after the other.

The rules go through the stream from its end to its start: what is read from a place on is
known once it is known what is read after the block that begins there.
-/

namespace Manuscript.Markdown

open Manuscript.Log Manuscript.Text

/-- A block of one event that is no code. -/
def Event.isAside : Event → Bool
  | .rule _ | .html _ _ | .frontMatter _ => true
  | _ => false

namespace Reading

theorem Item.append_def (a b : Item) : a ++ b = ⟨a.pieces ++ b.pieces, a.inner ++ b.inner⟩ := rfl

theorem Item.append_assoc (a b c : Item) : a ++ b ++ c = a ++ (b ++ c) := by
  simp only [Item.append_def, List.append_assoc]

theorem Item.append_empty (a : Item) : a ++ ({} : Item) = a := by
  simp only [Item.append_def, List.append_nil]

theorem Passage.after_after (p : Passage Item) (a b : Item) (said said' : List Notice) :
    (p.after b said').after a said = p.after (a ++ b) (said ++ said') := by
  simp only [Passage.after, Item.append_assoc, List.append_assoc]

/-- Some events in an item add a part to it, and give some notices. -/
def AddsToItem (es : List Event) (part : Item) (said : List Notice) : Prop :=
  ∀ (events : Array Event) (i : Nat) (p : Passage Item), Stands events i es →
    Reads events (i + es.length) (itemFrom events · (i + es.length)) (some p) →
    Reads events i (itemFrom events · i) (some (p.after part said))

/-- Some events in a list make items with some texts, up to the end of the list, and give
    some notices. -/
def MakesItems (es : List Event) (texts : List String) (said : List Notice) : Prop :=
  ∀ (events : Array Event) (i : Nat) (list : Part), Stands events i (es ++ [.leave list]) →
    Reads events i (items events list · i)
      (some ⟨texts, said, i + (es ++ [Event.leave list]).length⟩)

/-- An item is read after a part of it, once the reader has passed the part. -/
theorem itemFrom_after {events : Array Event} {i j : Nat} {e : Event} {es : List Event}
    {part : Item} {said : List Notice} {p : Passage Item} (hs : Stands events i (e :: es))
    (hij : i < j)
    (hpass : ∀ fuel, events.size ≤ fuel + i →
      itemFrom events (fuel + 1) i = (itemFrom events fuel j).map (Passage.after part said))
    (h : Reads events j (itemFrom events · j) (some p)) :
    Reads events i (itemFrom events · i) (some (p.after part said)) := by
  refine Reads.step hs fun fuel hf => ?_
  have hp : itemFrom events fuel j = some p := h fuel (by omega)
  rw [hpass fuel hf, hp, Option.map_some]

namespace AddsToItem

variable {es fs : List Event} {a b : Item} {said said' : List Notice} {line depth : Nat}
  {start : Option Nat} {style : Option String}

theorem nil : AddsToItem [] {} [] := fun _ _ _ _ h => h

theorem append (h : AddsToItem es a said) (h' : AddsToItem fs b said') :
    AddsToItem (es ++ fs) (a ++ b) (said ++ said') := by
  intro events i p hs hp
  rw [List.length_append, ← Nat.add_assoc] at hp
  have hrest := h' events _ p hs.right hp
  have hfirst := h events i _ hs.left hrest
  rwa [Passage.after_after] at hfirst

/-- A paragraph is a piece of the item. -/
theorem paragraph (text : String) :
    AddsToItem (Event.around (.enter .paragraph line depth start style) .paragraph text)
      { pieces := [text] } [] := by
  intro events i p hs hp
  refine itemFrom_after hs (by simp [Event.around]) (fun fuel _ => ?_) hp
  rw [itemFrom, hs.getElem?_eq]
  simp only [hs.tail.contentAt_eq]
  rfl

/-- Code is a piece of the item. -/
theorem fence (info text : String) :
    AddsToItem [.fence line info text] { pieces := [chomped text] } [.codeInItem] := by
  intro events i p hs hp
  refine itemFrom_after hs (Nat.lt_succ_self i) (fun fuel _ => ?_) hp
  rw [itemFrom, hs.getElem?_eq]

theorem indented (text : String) :
    AddsToItem [.indented line text] { pieces := [chomped text] } [.codeInItem] := by
  intro events i p hs hp
  refine itemFrom_after hs (Nat.lt_succ_self i) (fun fuel _ => ?_) hp
  rw [itemFrom, hs.getElem?_eq]

/-- A block of one event that holds no text of the item is left out. -/
theorem aside {e : Event} (he : e.isAside = true) :
    AddsToItem [e] {} [.leftOutOfItem e.name] := by
  intro events i p hs hp
  refine itemFrom_after hs (Nat.lt_succ_self i) (fun fuel _ => ?_) hp
  rw [itemFrom, hs.getElem?_eq]
  cases e with
  | rule line => rfl
  | html line raw => rfl
  | frontMatter text => rfl
  | _ => cases he

/-- Headings and tables are left out as a whole, up to where they close. -/
theorem leftOut {part : Part} (hpart : part = .heading ∨ part = .table) (h : Level es) :
    AddsToItem (.enter part line depth start style :: es ++ [.leave part]) {}
      [.leftOutOfItem (Event.enter part line depth start style).name] := by
  intro events i p hs hp
  refine itemFrom_after hs (by simp) (fun fuel hf => ?_) hp
  rw [itemFrom, hs.getElem?_eq]
  rcases hpart with rfl | rfl
  · simp only [h.pastClose_eq hs hf]
  · simp only [h.pastClose_eq hs hf]

/-- What a block quote holds belongs to the item. -/
theorem quote (h : AddsToItem es a said) :
    AddsToItem (.enter .quote line depth start style :: es ++ [.leave .quote]) a
      (.quoteInItem :: said) := by
  intro events i p hs hp
  rw [List.cons_append] at hs hp
  rw [place_cons, List.length_append, List.length_singleton, ← Nat.add_assoc] at hp
  have hleave := hs.tail.right
  -- The end of the quotation adds nothing to the item.
  have hout : Reads events (i + 1 + es.length) (itemFrom events · (i + 1 + es.length))
      (some p) := by
    refine Reads.step hleave fun fuel hf => ?_
    rw [itemFrom, hleave.getElem?_eq]
    exact hp fuel (by omega)
  have hbody := h events _ p hs.tail.left hout
  have hquote : Reads events i (itemFrom events · i)
      (some ((p.after a said).after {} [.quoteInItem])) := by
    refine itemFrom_after hs (Nat.lt_succ_self i) (fun fuel _ => ?_) hbody
    rw [itemFrom, hs.getElem?_eq]
  rwa [Passage.after_after] at hquote

/-- The items of a list stand among those inside the item. -/
theorem list {part : Part} (hpart : part = .bulletList ∨ part = .orderedList)
    {texts : List String} (h : MakesItems es texts said) :
    AddsToItem (.enter part line depth start style :: es ++ [.leave part]) { inner := texts }
      said := by
  intro events i p hs hp
  rw [List.cons_append] at hs hp
  rw [place_cons] at hp
  have hlist := h events _ part hs.tail
  refine itemFrom_after hs (by omega) (fun fuel hf => ?_) hp
  have hl := hlist fuel (by omega)
  rw [itemFrom, hs.getElem?_eq]
  rcases hpart with rfl | rfl
  · simp only [hl, Option.bind_eq_bind, Option.bind_some]
  · simp only [hl, Option.bind_eq_bind, Option.bind_some]

end AddsToItem

namespace MakesItems

variable {es fs : List Event} {a : Item} {texts : List String} {said said' : List Notice}
  {line depth : Nat} {start : Option Nat} {style : Option String}

theorem nil : MakesItems [] [] [] := by
  intro events i list hs
  refine Reads.step hs fun fuel _ => ?_
  rw [items, hs.getElem?_eq]
  exact if_pos rfl

/-- An item stands before the items inside it, and these before those after it. -/
theorem cons (h : AddsToItem es a said) (hrest : MakesItems fs texts said') :
    MakesItems (.enter .item line depth start style :: es ++ .leave .item :: fs)
      (a.texts ++ texts) (said ++ said') := by
  intro events i list hs
  rw [List.append_assoc, List.cons_append, List.cons_append] at hs ⊢
  have hleave := hs.tail.right
  have hothers := hrest events _ list hleave.tail
  -- Nothing is read of the item after its last block.
  have hbody := h events _ ⟨{}, [], _⟩ hs.tail.left
    (Reads.step hleave fun fuel _ => by rw [itemFrom, hleave.getElem?_eq])
  rw [place_cons, List.length_append, ← Nat.add_assoc, place_cons]
  refine Reads.step hs fun fuel hf => ?_
  have hb := hbody fuel (by omega)
  have ho := hothers fuel (by omega)
  rw [items, hs.getElem?_eq]
  simp only [hb, Option.bind_eq_bind, Option.bind_some, Passage.after, ho, Item.append_empty,
    List.append_nil]

end MakesItems

end Reading

end Manuscript.Markdown
