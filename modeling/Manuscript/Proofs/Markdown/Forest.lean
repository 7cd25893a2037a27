import Manuscript.Markdown.Reading

/-!
# What a forest says

The tokens that a forest of blocks stands for, told by its shape alone: no stream of
events and no place in one. A block is one token, except for front matter, which is
none (`Block.token?`). The items of a list and of all lists inside it, also of those in
block quotes, stand in the order in which they begin (`itemTexts`); the text of an item
is what its own paragraphs and code say (`Block.inItem`).
-/

namespace Manuscript.Markdown

open Manuscript.Document Manuscript.Log Manuscript.Text

/-! ## Items -/

mutual

/-- What a block adds to the item that it is in. -/
def Block.inItem : Block → Reading.Item
  | .paragraph _ text => { pieces := [text] }
  | .fence _ _ text | .indented _ text => { pieces := [chomped text] }
  | .list _ _ items => { inner := itemTexts items }
  | .quote _ body => inItemOf body
  | _ => {}

/-- What some blocks add to the item that they are in. -/
def inItemOf : List Block → Reading.Item
  | [] => {}
  | b :: rest => b.inItem ++ inItemOf rest

/-- The texts of the items of a list and of the lists inside them: each item stands
    before those inside it. -/
def itemTexts : List (List Block) → List String
  | [] => []
  | body :: rest => (inItemOf body).texts ++ itemTexts rest

end

example :
    itemTexts [[.paragraph 0 "a", .quote 1 [.paragraph 1 "b", .list 2 none [[.paragraph 2 "c"]]]],
      [.paragraph 3 "d"]] = ["a\nb", "c", "d"] := by
  rfl

/-- The event that opens a block. -/
def Block.opening : Block → Event
  | .heading line depth _ => .enter .heading line depth none none
  | .paragraph line _ => .opens .paragraph line
  | .list line none _ => .opens .bulletList line
  | .list line (some n) _ => .enter .orderedList line 0 (if n = 1 then none else some n) none
  | .quote line _ => .opens .quote line
  | .fence line info text => .fence line info text
  | .indented line text => .indented line text
  | .rule line => .rule line
  | .table line _ _ => .opens .table line
  | .html line raw => .html line raw
  | .frontMatter _ text => .frontMatter text

mutual

/-- The notices that a block in an item gives. -/
def Block.itemNotices : Block → List Notice
  | .paragraph _ _ => []
  | .fence _ _ _ | .indented _ _ => [.codeInItem]
  | .list _ _ items => itemsNotices items
  | .quote _ body => .quoteInItem :: itemNoticesOf body
  | b => [.leftOutOfItem b.opening.name]

/-- The notices that some blocks in an item give. -/
def itemNoticesOf : List Block → List Notice
  | [] => []
  | b :: rest => b.itemNotices ++ itemNoticesOf rest

/-- The notices that the items of a list give. -/
def itemsNotices : List (List Block) → List Notice
  | [] => []
  | body :: rest => itemNoticesOf body ++ itemsNotices rest

end

/-! ## Tokens -/

mutual

/-- The token of a block. An ordered list that starts from zero is one that starts from
    one, and code that is marked with blanks has no language. -/
def Block.token? : Block → Option Token
  | .heading _ depth text => some (.heading depth (trimmed text))
  | .paragraph _ text => some (.paragraph text)
  | .list _ none items => some (.list false (itemTexts items) 1)
  | .list _ (some n) items => some (.list true (itemTexts items) (if n = 0 then 1 else n))
  | .quote _ body => some (.blockquote (blockTokens body))
  | .fence _ info text =>
    some (.code (chomped text) (if trimmed info = "" then none else some (trimmed info)))
  | .indented _ text => some (.code (chomped text) none)
  | .rule _ => some .rule
  | .table _ header rows =>
    some (.table (header.map fun cell => trimmed cell.1) (rows.map fun row => row.map trimmed)
      (header.map fun cell => cell.2.map Alignment.name))
  | .html _ raw => some (.other "html_block" raw)
  | .frontMatter _ _ => none

/-- The tokens of blocks. -/
def blockTokens : List Block → List Token
  | [] => []
  | b :: rest => b.token?.toList ++ blockTokens rest

end

/-- The tokens of blocks, with those for the blank lines between them as far as there are
    source lines; `before` is the kind of the block before them. -/
def spacedTokens (lines : Option (List (List Char))) : (before : Option Kind) → List Block →
    List Token
  | _, [] => []
  | before, b :: rest =>
    match b.token? with
    | none => spacedTokens lines before rest
    | some token =>
      Reading.spaceBefore lines before (some b.line)
        ++ token :: spacedTokens lines (some token.kind) rest

mutual

/-- The notices that a block gives. -/
def Block.notices : Block → List Notice
  | .list _ _ items => itemsNotices items
  | .quote _ body => blockNotices body
  | _ => []

/-- The notices that blocks give. -/
def blockNotices : List Block → List Notice
  | [] => []
  | b :: rest => b.notices ++ blockNotices rest

end

/-- Every block is shown but front matter. -/
def Block.isShown : Block → Bool
  | .frontMatter _ _ => false
  | _ => true

theorem Event.ofBlock_eq_cons (b : Block) : Event.ofBlock b = b.opening :: (ofBlock b).tail := by
  cases b with
  | list _ start _ => cases start <;> rfl
  | _ => rfl

theorem Event.length_ofBlock_pos (b : Block) : 0 < (Event.ofBlock b).length := by
  rw [Event.ofBlock_eq_cons]
  exact Nat.succ_pos _

theorem Block.opening_ne_leave (b : Block) (part : Part) : b.opening ≠ .leave part := by
  cases b with
  | list _ start _ => cases start <;> simp [opening, Event.opens]
  | _ => simp [opening, Event.opens]

/-- The event that opens a block tells its line, except for front matter. -/
theorem Block.line?_opening (b : Block) :
    b.opening.line? = if b.isShown then some b.line else none := by
  cases b with
  | list _ start _ => cases start <;> rfl
  | _ => rfl

theorem Block.token?_eq_none_iff {b : Block} : b.token? = none ↔ b.isShown = false := by
  cases b with
  | list _ start _ => cases start <;> simp [token?, isShown]
  | _ => simp [token?, isShown]

theorem Block.isShown_of_token? {b : Block} {t : Token} (h : b.token? = some t) :
    b.isShown = true := by
  rw [← Bool.not_eq_false, ← Block.token?_eq_none_iff, h]
  exact Option.some_ne_none t

theorem mem_blockTokens {bs : List Block} {token : Token} (h : token ∈ blockTokens bs) :
    ∃ b ∈ bs, b.token? = some token := by
  induction bs with
  | nil => cases h
  | cons b rest ih =>
    rcases List.mem_append.1 h with h | h
    · exact ⟨b, List.mem_cons_self, Option.mem_toList.1 h⟩
    · obtain ⟨b', hb', htoken⟩ := ih h
      exact ⟨b', List.mem_cons_of_mem _ hb', htoken⟩

/-- Each block that is shown has one token. -/
theorem map_some_blockTokens (forest : List Block) :
    (blockTokens forest).map some = (forest.filter Block.isShown).map Block.token? := by
  induction forest with
  | nil => rfl
  | cons b rest ih =>
    cases hb : b.token? with
    | none => simp [blockTokens, hb, ih, Block.token?_eq_none_iff.1 hb]
    | some t => simp [blockTokens, hb, ih, Block.isShown_of_token? hb]

/-- Without source lines there are no blank lines. -/
theorem spacedTokens_none (before : Option Kind) (forest : List Block) :
    spacedTokens none before forest = blockTokens forest := by
  induction forest generalizing before with
  | nil => rfl
  | cons b rest ih =>
    cases hb : b.token? with
    | none => simp [spacedTokens, blockTokens, hb, ih]
    | some t => simp [spacedTokens, blockTokens, hb, ih, Reading.spaceBefore]

end Manuscript.Markdown
