import Manuscript.Proofs.Markdown.Forest
import Manuscript.Proofs.Markdown.Item

/-!
# Recovery

A reader of events tells of a forest of blocks what its shape tells (`blockTokens`), and
comes to the end of the stream. As for items, the proof goes through the stream from its end
to its start.

* `addsToItem_ofBlocks`, `makesItems_ofItems`: what an item and a list hold;
* `blocks_ofBlocks`: blocks at any depth, up to the end of what they are in;
* `stream_eq`, `forest_recovered`: whole streams, with blank lines and without.
-/

namespace Manuscript.Markdown

open Manuscript.Document Manuscript.Log Manuscript.Text

variable {events : Array Event}

namespace Reading

/-! ## Items -/

mutual

/-- What a block adds to the item that it is in is read of its events. -/
theorem addsToItem_ofBlock : ∀ b : Block,
    AddsToItem (Event.ofBlock b) b.inItem b.itemNotices
  | .paragraph _ text => .paragraph text
  | .heading _ _ _ => .leftOut (.inl rfl) (Level.single rfl)
  | .table line header rows => by
    rw [Event.ofBlock, ofTable_eq]
    exact .leftOut (.inr rfl) (Level.inTable line header (header.map (·.2)) rows)
  | .list line none its => .list (.inl rfl) (makesItems_ofItems line its)
  | .list line (some n) its => .list (.inr rfl) (makesItems_ofItems line its)
  | .quote _ body => .quote (addsToItem_ofBlocks body)
  | .fence _ info text => .fence info text
  | .indented _ text => .indented text
  | .rule _ => .aside rfl
  | .html _ _ => .aside rfl
  | .frontMatter _ _ => .aside rfl

/-- The same for some blocks at once. -/
theorem addsToItem_ofBlocks : ∀ bs : List Block,
    AddsToItem (Event.ofBlocks bs) (inItemOf bs) (itemNoticesOf bs)
  | [] => .nil
  | b :: rest => (addsToItem_ofBlock b).append (addsToItem_ofBlocks rest)

/-- The items of a list are read of their events. -/
theorem makesItems_ofItems (line : Nat) : ∀ its : List (List Block),
    MakesItems (Event.ofItems line its) (itemTexts its) (itemsNotices its)
  | [] => .nil
  | body :: rest => .cons (addsToItem_ofBlocks body) (makesItems_ofItems line rest)

end

/-! ## Blocks -/

/-- The number that an ordered list starts with is read as it was written, and zero as
    one. -/
theorem firstNumber_start (n : Nat) :
    firstNumber (if n = 1 then none else some n) = if n = 0 then 1 else (n : Int) := by
  rcases n with _ | _ | n <;> simp [firstNumber]

theorem language_eq (info : String) :
    language info = if trimmed info = "" then none else some (trimmed info) := by
  simp only [language, String.isEmpty_iff]

/-- What is read for a block that begins here and those after it. -/
theorem spaced_cons (lines : Option (List (List Char))) (before : Option Kind) (b : Block)
    (rest : List Block) :
    spacedTokens lines before (b :: rest)
      = (match b.token? with
          | none => []
          | some token => spaceBefore lines before b.opening.line? ++ [token])
        ++ spacedTokens lines (kindAfter before b.opening b.token?) rest := by
  cases hb : b.token? with
  | none =>
    have hs := Block.token?_eq_none_iff.1 hb
    simp [spacedTokens, hb, kindAfter, b.line?_opening, hs]
  | some token =>
    have hs := Block.isShown_of_token? hb
    simp [spacedTokens, hb, kindAfter, b.line?_opening, hs]

theorem token_headOf (header : List (String × Option Alignment)) (rows : List (List String)) :
    Grid.token ⟨headOf header, rows⟩
      = .table (header.map fun cell => trimmed cell.1) rows
          (header.map fun cell => cell.2.map Alignment.name) := by
  simp only [Grid.token, headOf, List.map_map, Function.comp_def]

mutual

/-- A block is read from the event that opens it. -/
theorem blockAt_ofBlock : ∀ (b : Block) {i fuel : Nat}, Stands events i (Event.ofBlock b) →
    events.size ≤ fuel + i →
    blockAt events (fun j => blocks events fuel (some .quote) none j none) fuel i b.opening
      = some ⟨b.token?, b.notices, i + (Event.ofBlock b).length⟩
  | .heading line depth text, i, fuel, hs, hf => by
    rw [Block.opening, blockAt, hs.tail.contentAt_eq]
    rfl
  | .paragraph line text, i, fuel, hs, hf => by
    rw [Block.opening, Event.opens, blockAt, hs.tail.contentAt_eq]
    rfl
  | .list line none its, i, fuel, hs, hf => by
    rw [Event.ofBlock, List.cons_append] at hs ⊢
    have hl : items events .bulletList fuel (i + 1) = _ :=
      makesItems_ofItems line its events (i + 1) .bulletList hs.tail fuel (by omega)
    rw [Block.opening, Event.opens, blockAt, hl, place_cons]
    rfl
  | .list line (some n) its, i, fuel, hs, hf => by
    rw [Event.ofBlock, List.cons_append] at hs ⊢
    have hl : items events .orderedList fuel (i + 1) = _ :=
      makesItems_ofItems line its events (i + 1) .orderedList hs.tail fuel (by omega)
    rw [Block.opening, blockAt, hl, place_cons, firstNumber_start]
    rfl
  | .quote line body, i, fuel, hs, hf => by
    rw [Event.ofBlock, List.cons_append] at hs ⊢
    have hq : blocks events fuel (some .quote) none (i + 1) none = _ :=
      blocks_ofBlocks body (some .quote) none none hs.tail.left hs.lt_size
        hs.tail.right.getElem?_eq fuel (by omega)
    rw [Block.opening, Event.opens, blockAt, hq, place_cons, spacedTokens_none,
      List.length_append, ← Nat.add_assoc]
    rfl
  | .fence line info text, i, fuel, hs, hf => by
    rw [Block.opening, blockAt, language_eq]
    rfl
  | .table line header rows, i, fuel, hs, hf => by
    have ht : tableFrom events fuel (i + 1) = _ := tableFrom_ofTable hs fuel (by omega)
    rw [Block.opening, Event.opens, blockAt, ht]
    exact congrArg (fun token => some (⟨some token, [], _⟩ : Passage (Option Token)))
      (token_headOf header _)
  | .indented _ _, i, fuel, hs, hf | .rule _, i, fuel, hs, hf | .html _ _, i, fuel, hs, hf
  | .frontMatter _ _, i, fuel, hs, hf => rfl

/-- Blocks are read up to where nothing more stands, or where the part that they are in
    ends. -/
theorem blocks_ofBlocks : ∀ (bs : List Block) {i : Nat} (stop : Option Part)
    (lines : Option (List (List Char))) (before : Option Kind),
    Stands events i (Event.ofBlocks bs) → i ≤ events.size →
    events[i + (Event.ofBlocks bs).length]? = stop.map Event.leave →
    Reads events i (blocks events · stop lines i before)
      (some ⟨spacedTokens lines before bs, blockNotices bs, i + (Event.ofBlocks bs).length⟩)
  | [], i, stop, lines, before, hs, hi, hend => by
    intro fuel hf
    obtain ⟨fuel, rfl⟩ : ∃ more, fuel = more + 1 := ⟨fuel - 1, by omega⟩
    rw [Event.ofBlocks, List.length_nil, Nat.add_zero] at hend ⊢
    show blocks events (fuel + 1) stop lines i before = _
    rw [blocks, hend]
    cases stop with
    | none => rfl
    | some part => exact if_pos rfl
  | b :: rest, i, stop, lines, before, hs, hi, hend => by
    rw [Event.ofBlocks] at hs hend ⊢
    rw [List.length_append, ← Nat.add_assoc] at hend ⊢
    have hopen := Event.ofBlock_eq_cons b ▸ hs.left
    -- The blocks after this one know its kind, which is that of its token.
    have hrest := blocks_ofBlocks rest stop lines
      (kindAfter before b.opening b.token?) hs.right (hs.left.le_size hi) hend
    refine Reads.step hopen fun fuel hf => ?_
    have hb := blockAt_ofBlock b hs.left hf
    have hlen := Event.length_ofBlock_pos b
    have hr : blocks events fuel stop lines _ _ = _ := hrest fuel (by omega)
    have hstop : stop.map Event.leave ≠ some b.opening := by
      cases stop with
      | none => exact Option.some_ne_none _ |>.symm
      | some part => exact fun h => b.opening_ne_leave part (Option.some.inj h).symm
    rw [blocks, hopen.getElem?_eq]
    simp only [hstop, if_false, hb, hr, Option.bind_eq_bind, Option.bind_some]
    rw [spaced_cons]
    rfl

end

/-- A whole stream is read to its end, with tokens for the blank lines between the blocks
    as far as there are source lines. -/
theorem stream_eq (lines : Option (List (List Char))) (forest : List Block) :
    stream (Event.ofBlocks forest).toArray lines
      = some ⟨spacedTokens lines none forest, blockNotices forest,
          (Event.ofBlocks forest).length⟩ := by
  have hs := Stands.toArray (Event.ofBlocks forest)
  have hend : (Event.ofBlocks forest).toArray[0 + (Event.ofBlocks forest).length]?
      = (none : Option Part).map Event.leave := by simp
  have h := blocks_ofBlocks forest none lines none hs (Nat.zero_le _) hend
    ((Event.ofBlocks forest).toArray.size + 1) (by omega)
  rwa [Nat.zero_add] at h

/-- A forest of blocks of any depth is recovered from its events: the stream is read
    without an event beyond its end, up to its end, and gives one token for each block
    that is shown. -/
theorem forest_recovered (forest : List Block) :
    stream (Event.ofBlocks forest).toArray none
        = some ⟨blockTokens forest, blockNotices forest, (Event.ofBlocks forest).length⟩
      ∧ (blockTokens forest).map some = (forest.filter Block.isShown).map Block.token? := by
  refine ⟨?_, map_some_blockTokens forest⟩
  rw [stream_eq, spacedTokens_none]

end Reading

end Manuscript.Markdown
