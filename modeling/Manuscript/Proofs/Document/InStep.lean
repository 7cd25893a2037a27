import Manuscript.Document.Compose
import Manuscript.Proofs.Inline.Resolution
import Manuscript.Proofs.Work

/-!
# Compositions in step

Two bridges may be used in the same way and answer in the same way. Then whatever is
composed over them is the same, with the same notices, and their states stay in the
relation that their answers keep. Only those formulas matter that stand in the texts of
the tokens (`Token.sources`).

* `format_follows`: the runs of one text;
* `compose_follows`: the blocks of tokens.
-/

namespace Manuscript.Document

open Manuscript.Formula Manuscript.Inline Manuscript.Style Manuscript.Work

/-- The text of a paragraph. -/
def Token.paragraph? : Token → Option String
  | paragraph text => some text
  | _ => none

theorem Token.eq_paragraph_of_paragraph? {token : Token} {text : String}
    (h : token.paragraph? = some text) : token = .paragraph text := by
  cases token with
  | paragraph text' =>
    cases h
    rfl
  | _ => cases h

/-- The texts of a token that runs are made of. -/
def Token.sources : Token → List String
  | paragraph text => [text]
  | list _ items _ => items
  | blockquote tokens => tokens.filterMap Token.paragraph?
  | table header rows _ => header ++ rows.flatten
  | _ => []

variable {σ τ : Type}

/-- Two compositions have taken as many numbers for lists, and their bridges are related. -/
structure Composition.Related (R : σ → τ → Prop) (t : Composition σ) (t' : Composition τ) :
    Prop where
  lists : t.lists = t'.lists
  bridge : R t.bridge t'.bridge

/-! ## Texts -/

section Texts

variable {R : σ → τ → Prop} {b : Bridge σ} {b' : Bridge τ} {config : Config}

/-- Two bridges make the same runs of a text if they answer alike to its formulas. -/
theorem format_follows {text : String}
    (h : ∀ call ∈ Segment.calls (splitRuns text.toList),
      Follows R (b.convert call.1 call.2) (b'.convert call.1 call.2)) :
    Follows R (format b config text) (format b' config text) := by
  refine .forEach fun s hs => ?_
  unfold formatSegment
  dsimp only
  split
  · next hmath =>
    have hcall : s.call ∈ Segment.calls (splitRuns text.toList) :=
      List.mem_map_of_mem (List.mem_filter.2 ⟨hs, hmath⟩)
    refine .bind (.bind (.tell _) fun _ => .onFault ?_ fun fault => ?_) fun _ => .pure _
    · exact .bind (h s.call hcall) fun _ => .bind (.tell _) fun _ => .pure _
    · cases fault with
      | rejected latex reason => exact .bind (.tell _) fun _ => .pure _
      | notStarted reason => exact .fail _
      | escaped escape => exact .fail _
  · exact .bind (.pure _) fun _ => .pure _

/-- What a bridge does, within a composition. -/
theorem onBridge_follows {α : Type} {w : Work σ Formula.Fault α} {v : Work τ Formula.Fault α}
    (h : Follows R w v) : Follows (Composition.Related R) (onBridge w) (onBridge v) :=
  fun t t' ht =>
    have ⟨hresult, hsaid, hstate⟩ := h t.bridge t'.bridge ht.bridge
    ⟨congrArg (Except.mapError _) hresult, hsaid, ⟨ht.lists, hstate⟩⟩

theorem nextList_follows (ordered : Bool) :
    Follows (Composition.Related R) (nextList ordered) (nextList ordered) := by
  unfold nextList
  cases ordered with
  | false => exact .pure 0
  | true =>
    refine .read fun t t' ht => ?_
    rw [ht.lists]
    exact .bind (.put ⟨rfl, ht.bridge⟩) fun _ => .pure _

end Texts

/-! ## Blocks -/

section Blocks

variable {R : σ → τ → Prop} (b : Bridge σ) (b' : Bridge τ) (config : Config)

/-- The same runs are made of a text over two bridges. -/
abbrev FollowsAt (R : σ → τ → Prop) (text : String) : Prop :=
  Follows R (format b config text) (format b' config text)

variable {b b' config}

/-- A cell that is put in has no formula. -/
theorem followsAt_empty : FollowsAt b b' config R "" := .pure []

theorem runsOf_follows {text : String} (h : FollowsAt b b' config R text) :
    Follows (Composition.Related R) (runsOf b config text) (runsOf b' config text) :=
  onBridge_follows h

theorem itemBlocks_follows (ordered : Bool) (list start : Int) (spacing : Spacing)
    {items : List String} (h : ∀ text ∈ items, FollowsAt b b' config R text) :
    Follows (Composition.Related R) (itemBlocks b config ordered list start spacing items)
      (itemBlocks b' config ordered list start spacing items) := by
  induction items generalizing spacing with
  | nil => exact .pure []
  | cons item rest ih =>
    obtain ⟨hitem, hrest⟩ := List.forall_mem_cons.1 h
    exact (runsOf_follows hitem).bind fun _ => (ih _ hrest).bind fun _ => .pure _

theorem quoteBlocks_follows {tokens : List Token}
    (h : ∀ text ∈ tokens.filterMap Token.paragraph?, FollowsAt b b' config R text) :
    Follows (Composition.Related R) (quoteBlocks b config tokens)
      (quoteBlocks b' config tokens) := by
  induction tokens with
  | nil => exact .pure []
  | cons token rest ih =>
    cases token with
    | paragraph text =>
      obtain ⟨htext, hrest⟩ := List.forall_mem_cons.1 h
      exact (runsOf_follows htext).bind fun _ => (ih hrest).bind fun _ => .pure _
    | _ => exact .bind (.tell _) fun _ => ih h

theorem cellsOf_follows (width : Int) (looks : CellLooks) {texts : List (String × Option String)}
    (h : ∀ cell ∈ texts, FollowsAt b b' config R cell.1) :
    Follows (Composition.Related R) (cellsOf b config width looks texts)
      (cellsOf b' config width looks texts) :=
  .forEach fun cell hcell => (runsOf_follows (h cell hcell)).bind fun _ => .pure _

theorem dataRows_follows (columns : Nat) (width : Int) (align : List (Option String))
    (number : Nat) {rows : List (List String)}
    (h : ∀ row ∈ rows, ∀ text ∈ row, FollowsAt b b' config R text) :
    Follows (Composition.Related R) (dataRows b config columns width align number rows)
      (dataRows b' config columns width align number rows) := by
  induction rows generalizing number with
  | nil => exact .pure []
  | cons row rest ih =>
    obtain ⟨hrow, hrest⟩ := List.forall_mem_cons.1 h
    have hcells : ∀ cell ∈ (fitTo columns "" row).zip align, FollowsAt b b' config R cell.1 := by
      intro cell hcell
      rcases List.mem_append.1 (List.mem_of_mem_take (List.of_mem_zip hcell).1) with hmem | hmem
      · exact hrow _ hmem
      · rw [List.eq_of_mem_replicate hmem]
        exact followsAt_empty
    unfold dataRows
    split
    case' isTrue => refine .bind (.tell _) fun _ => ?_
    all_goals
      exact (cellsOf_follows width dataLooks hcells).bind fun _ =>
        (ih _ hrest).bind fun _ => .pure _

theorem tableBlock_follows {header : List String} {rows : List (List String)}
    (align : List (Option String))
    (h : ∀ text ∈ header ++ rows.flatten, FollowsAt b b' config R text) :
    Follows (Composition.Related R) (tableBlock b config header rows align)
      (tableBlock b' config header rows align) := by
  unfold tableBlock
  dsimp only
  split
  · exact .fail _
  · refine (cellsOf_follows _ headerLooks fun cell hcell => ?_).bind fun _ =>
      (dataRows_follows _ _ _ 1 fun row hrow text htext => ?_).bind fun _ => .pure _
    · exact h _ (List.mem_append_left _ (List.of_mem_zip hcell).1)
    · exact h _ (List.mem_append_right _ (List.mem_flatten.2 ⟨row, hrow, htext⟩))

theorem composeToken_follows {token : Token}
    (h : ∀ text ∈ token.sources, FollowsAt b b' config R text) :
    Follows (Composition.Related R) (composeToken b config token)
      (composeToken b' config token) := by
  cases token with
  | heading depth text =>
    refine .bind ?_ fun _ => .pure _
    unfold headingBlock
    dsimp only
    split
    · exact .bind (.tell _) fun _ => .pure _
    · exact .pure _
  | paragraph text =>
    exact (runsOf_follows (h text List.mem_cons_self)).bind fun _ => .pure _
  | list ordered items start =>
    exact (nextList_follows ordered).bind fun _ => itemBlocks_follows _ _ _ _ h
  | blockquote tokens => exact quoteBlocks_follows h
  | table header rows align => exact (tableBlock_follows align h).bind fun _ => .pure _
  | other type raw => exact .bind (.tell _) fun _ => .pure _
  | unknown => exact .fail _
  | _ => exact .pure _

theorem composeFrom_follows (c : Coordinator) {tokens : List Token}
    (h : ∀ token ∈ tokens, ∀ text ∈ token.sources, FollowsAt b b' config R text) :
    Follows (Composition.Related R) (composeFrom b config c tokens)
      (composeFrom b' config c tokens) := by
  induction tokens generalizing c with
  | nil => exact .pure []
  | cons token rest ih =>
    obtain ⟨htoken, hrest⟩ := List.forall_mem_cons.1 h
    exact .bind (.tell _) fun _ => (composeToken_follows htoken).bind fun _ =>
      (ih _ hrest).bind fun _ => .pure _

/-- The same blocks are made of tokens over two bridges that make the same runs of their texts. -/
theorem compose_follows {tokens : List Token}
    (h : ∀ token ∈ tokens, ∀ text ∈ token.sources, FollowsAt b b' config R text) :
    Follows (Composition.Related R) (compose b config tokens) (compose b' config tokens) :=
  composeFrom_follows {} h

end Blocks

end Manuscript.Document
