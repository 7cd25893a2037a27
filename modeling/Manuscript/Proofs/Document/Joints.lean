import Manuscript.Document.Compose
import Manuscript.Proofs.Work

/-!
# Joints

A composition told apart into what its tokens give and what stands between them. Each token
has blocks of its own (`composeEach`), of the kinds that its shape tells (`Token.shape`).
Spacers are put among them afterwards, and only the kinds of the tokens decide where
(`spaced`, `composeFrom_eq_spaced`).

Tokens composed in two calls are those composed in one, but for the spacer at the joint
(`compose_append`): a coordinator that starts afresh misses what it would have put before a
blank line, and from the next token on it is in the state of one that went on.
-/

namespace Manuscript.Document

open Manuscript.Formula Manuscript.Inline Manuscript.Style

/-! ## Own blocks -/

/-- The kinds of the blocks that a token has of its own, from top to bottom: a list one for
    each item, a block quote one for each paragraph right in it. -/
def Token.shape : Token → List Kind
  | .heading _ _ => [.heading]
  | .paragraph _ => [.paragraph]
  | .list _ items _ => items.map fun _ => .list
  | .blockquote tokens => (tokens.map Token.kind).filter (· == .paragraph)
  | .code _ _ => [.code]
  | .rule => [.rule]
  | .table _ _ _ => [.table]
  | .space _ | .other _ _ | .unknown => []

/-- The kind of a block: that of the tokens it may come from. -/
def Block.kind? : Block → Option Kind
  | .paragraph _ _ _ _ => some .paragraph
  | .heading _ _ _ => some .heading
  | .listItem _ _ _ _ _ _ _ => some .list
  | .code _ _ _ _ _ _ => some .code
  | .spacer _ => some .space
  | .rule _ _ => some .rule
  | .table _ _ _ _ _ => some .table
  | .unknown => none

/-- A token and the blocks that it has of its own. -/
structure Composed where
  /-- The token. -/
  token : Token
  /-- Its own blocks. -/
  blocks : List Block

/-- The own blocks of a token have the kinds that its shape tells. -/
def Composed.HasShape (x : Composed) : Prop := x.blocks.map Block.kind? = x.token.shape.map some

/-- The own blocks of composed tokens, with the spacers that a coordinator puts before them. -/
def spaced : Coordinator → List Composed → List Block
  | _, [] => []
  | c, x :: rest =>
    let (spacer, seen) := c.observe x.token.kind.name
    (spacer.map Block.spacer).toList ++ x.blocks ++ spaced seen rest

section

variable {σ : Type} (bridge : Bridge σ) (config : Config)

/-- Tokens with their own blocks, composed one after the other. -/
def composeEach (tokens : List Token) : Work (Composition σ) Fault (List Composed) :=
  Work.forEach
    (fun token => do
      Work.tell (.composing token.kind)
      return ⟨token, ← composeToken bridge config token⟩)
    tokens

/-- The blocks of tokens are their own blocks with spacers among them. -/
theorem composeFrom_eq_spaced (c : Coordinator) (tokens : List Token) :
    composeFrom bridge config c tokens = spaced c <$> composeEach bridge config tokens := by
  induction tokens generalizing c with
  | nil => rfl
  | cons token rest ih =>
    simp only [composeFrom, composeEach, Work.forEach, ih, bind_assoc, map_bind, pure_bind,
      bind_map_left]
    rfl

end

/-! ## Coordinators -/

theorem Token.kind_name_eq_blankKind {t : Token} : t.kind.name = blankKind ↔ t.isSpace = true := by
  cases t <;> simp [Token.kind, Token.isSpace, Kind.name, blankKind]

namespace Coordinator

variable {c : Coordinator} {t : Token}

/-- A coordinator that is not in a run of blank kinds counts none. -/
def IsSettled (c : Coordinator) : Prop := c.last ≠ some blankKind → c.breaks = 0

/-- The state of a coordinator that has seen some tokens. -/
def after (c : Coordinator) (tokens : List Token) : Coordinator :=
  tokens.foldl (fun c t => (c.observe t.kind.name).2) c

/-- A token that is not for blank lines has no spacer before it, and all that was seen before
    it is forgotten. -/
theorem observe_of_not_isSpace (c : Coordinator) (h : t.isSpace = false) :
    c.observe t.kind.name = (none, ⟨some t.kind.name, 0⟩) := by
  refine observe_of_ne c fun hblank => ?_
  rw [Token.kind_name_eq_blankKind, h] at hblank
  cases hblank

/-- Blank lines that follow no token, or other blank lines, have no spacer. -/
theorem observe_of_isSpace (h : t.isSpace = true) (hlast : ∀ kind ∈ c.last, kind = blankKind) :
    c.observe t.kind.name = (none, ⟨some blankKind, c.breaks⟩) := by
  rw [Token.kind_name_eq_blankKind.2 h]
  exact observe_blankKind hlast

/-- Blank lines that follow a token other than blank lines have a spacer. -/
theorem observe_of_isSpace_of_last (hc : c.IsSettled) (h : t.isSpace = true) {kind : String}
    (hlast : c.last = some kind) (hkind : kind ≠ blankKind) :
    c.observe t.kind.name = (some spacerSpacing, ⟨some blankKind, 1⟩) := by
  rw [Token.kind_name_eq_blankKind.2 h]
  exact observe_blankKind_of_ne (hc (by simp [hlast, hkind])) hlast hkind

theorem isSettled_observe (c : Coordinator) (t : Token) :
    (c.observe t.kind.name).2.IsSettled := by
  intro hlast
  cases ht : t.isSpace with
  | false => rw [observe_of_not_isSpace c ht]
  | true => exact absurd (congrArg some (Token.kind_name_eq_blankKind.2 ht)) hlast

theorem IsSettled.after (hc : c.IsSettled) (tokens : List Token) : (c.after tokens).IsSettled := by
  induction tokens generalizing c with
  | nil => exact hc
  | cons t rest ih => exact ih (isSettled_observe c t)

theorem last_after (c : Coordinator) (tokens : List Token) :
    (c.after tokens).last = (tokens.getLast?.map fun t => t.kind.name).or c.last := by
  induction tokens generalizing c with
  | nil => rfl
  | cons t rest ih =>
    rw [after, List.foldl_cons, ← after, ih, List.getLast?_cons]
    cases rest.getLast? <;> rfl

end Coordinator

/-! ## Spacers -/

/-- The spacer between the blocks of some tokens and those of tokens after them: the first
    end in a token other than blank lines, and the others begin with blank lines. -/
def joint (before after : List Token) : List Block :=
  if (before.getLast?.any fun t => !t.isSpace) && after.head?.any Token.isSpace then
    [.spacer spacerSpacing]
  else []

section

variable {c : Coordinator}

theorem spaced_cons (c : Coordinator) (x : Composed) (rest : List Composed) :
    spaced c (x :: rest)
      = ((c.observe x.token.kind.name).1.map Block.spacer).toList ++ x.blocks
        ++ spaced (c.observe x.token.kind.name).2 rest :=
  rfl

theorem spaced_append (c : Coordinator) (xs ys : List Composed) :
    spaced c (xs ++ ys) = spaced c xs ++ spaced (c.after (xs.map Composed.token)) ys := by
  induction xs generalizing c with
  | nil => rfl
  | cons x rest ih =>
    rw [List.cons_append, spaced_cons, spaced_cons, ih, ← List.append_assoc]
    rfl

/-- After blank lines, it does not matter how many of them there were. -/
theorem spaced_of_blank (m n : Int) (xs : List Composed) :
    spaced ⟨some blankKind, m⟩ xs = spaced ⟨some blankKind, n⟩ xs := by
  induction xs with
  | nil => rfl
  | cons x rest ih =>
    rw [spaced_cons, spaced_cons]
    cases hx : x.token.isSpace with
    | false => rw [Coordinator.observe_of_not_isSpace _ hx, Coordinator.observe_of_not_isSpace _ hx]
    | true =>
      rw [Coordinator.observe_of_isSpace hx (by simp),
        Coordinator.observe_of_isSpace hx (by simp), ih]

/-- A coordinator that goes on differs from one that starts afresh by the spacer before blank
    lines at the start, and by nothing after that. -/
theorem spaced_of_isSettled (hc : c.IsSettled) (xs : List Composed) :
    spaced c xs
      = (if c.last.any (· != blankKind) && xs.head?.any (·.token.isSpace) then
          [Block.spacer spacerSpacing] else [])
        ++ spaced {} xs := by
  cases xs with
  | nil => simp [spaced]
  | cons x rest =>
    rw [spaced_cons, spaced_cons, List.head?_cons, Option.any_some]
    cases hx : x.token.isSpace with
    | false =>
      rw [Coordinator.observe_of_not_isSpace _ hx, Coordinator.observe_of_not_isSpace _ hx,
        Bool.and_false, if_neg Bool.false_ne_true, List.nil_append]
    | true =>
      -- Afresh, the blank lines follow no token and have no spacer.
      rw [Coordinator.observe_of_isSpace (c := {}) hx (by simp), Bool.and_true]
      cases hlast : c.last with
      | none =>
        rw [Coordinator.observe_of_isSpace hx (by simp [hlast]), Option.any_none,
          if_neg Bool.false_ne_true, List.nil_append, spaced_of_blank c.breaks]
      | some kind =>
        rw [Option.any_some]
        by_cases hkind : kind = blankKind
        · rw [Coordinator.observe_of_isSpace hx (by simp [hlast, hkind]),
            bne_eq_false_iff_eq.2 hkind, if_neg Bool.false_ne_true, List.nil_append,
            spaced_of_blank c.breaks]
        · rw [Coordinator.observe_of_isSpace_of_last hc hx hlast hkind, bne_iff_ne.2 hkind,
            if_pos rfl, spaced_of_blank 1]
          rfl

end

/-! ## Shapes -/

section

variable {σ : Type} (bridge : Bridge σ) (config : Config)

theorem runsOf_gives (text : String) : Work.Gives (runsOf bridge config text) fun _ => True :=
  .of_forall _ fun _ => trivial

theorem itemBlocks_gives (ordered : Bool) (list start : Int) (spacing : Spacing)
    (items : List String) :
    Work.Gives (itemBlocks bridge config ordered list start spacing items) fun blocks =>
      blocks.map Block.kind? = items.map fun _ => some .list := by
  induction items generalizing spacing with
  | nil => exact .pure rfl
  | cons item rest ih =>
    refine (runsOf_gives bridge config item).bind fun runs _ => ?_
    refine (ih itemSpacing).bind fun blocks hblocks => .pure ?_
    rw [List.map_cons, List.map_cons, hblocks, Block.kind?]

theorem quoteBlocks_gives (tokens : List Token) :
    Work.Gives (quoteBlocks bridge config tokens) fun blocks =>
      blocks.map Block.kind? = (Token.blockquote tokens).shape.map some := by
  induction tokens with
  | nil => exact .pure rfl
  | cons token rest ih =>
    cases token with
    | paragraph text =>
      refine (runsOf_gives bridge config text).bind fun runs _ => ?_
      refine ih.bind fun blocks hblocks => .pure ?_
      rw [List.map_cons, hblocks]
      rfl
    | _ => exact (Work.Keeps.tell _).bind fun _ _ => ih

theorem tableBlock_gives (header : List String) (rows : List (List String))
    (align : List (Option String)) :
    Work.Gives (tableBlock bridge config header rows align) fun b => b.kind? = some .table := by
  unfold tableBlock
  by_cases hcolumns : header.length = 0
  · simp only [hcolumns, if_true]
    exact .fail trivial
  · simp only [hcolumns, if_false]
    refine (Work.Gives.of_forall (P := fun _ => True) _ fun _ => trivial).bind fun _ _ => ?_
    exact (Work.Gives.of_forall (P := fun _ => True) _ fun _ => trivial).bind fun _ _ => .pure rfl

theorem headingBlock_gives (depth : Int) (text : String) :
    Work.Gives (headingBlock (σ := σ) depth text) fun b => b.kind? = some .heading := by
  unfold headingBlock
  by_cases hdepth : (clampDepth depth != depth) = true
  · simp only [hdepth, if_true]
    exact (Work.Keeps.tell _).bind fun _ _ => .pure rfl
  · simp only [hdepth]
    exact .pure rfl

/-- The own blocks of a token have the kinds that its shape tells. -/
theorem composeToken_gives (token : Token) :
    Work.Gives (composeToken bridge config token) fun blocks =>
      Composed.HasShape ⟨token, blocks⟩ := by
  cases token with
  | heading depth text =>
    exact (headingBlock_gives depth text).bind fun b hb => .pure (congrArg (fun k => [k]) hb)
  | paragraph text => exact (runsOf_gives bridge config text).bind fun runs _ => .pure rfl
  | list ordered items start =>
    have hlist : Work.Gives (nextList (σ := σ) ordered) fun _ => True :=
      .of_forall _ fun _ => trivial
    refine hlist.bind fun list _ => ?_
    refine (itemBlocks_gives bridge config ordered list start firstItemSpacing items).mono
      fun blocks hblocks => ?_
    rw [Composed.HasShape, hblocks, Token.shape, List.map_map]
    rfl
  | blockquote tokens => exact quoteBlocks_gives bridge config tokens
  | code text language => exact .pure rfl
  | rule => exact .pure rfl
  | table header rows align =>
    exact (tableBlock_gives bridge config header rows align).bind fun b hb =>
      .pure (congrArg (fun k => [k]) hb)
  | space lines => exact .pure rfl
  | other type raw => exact (Work.Keeps.tell _).bind fun _ _ => .pure rfl
  | unknown => exact .fail trivial

theorem composeEach_gives (tokens : List Token) :
    Work.Gives (composeEach bridge config tokens) fun xs =>
      xs.map Composed.token = tokens ∧ ∀ x ∈ xs, x.HasShape := by
  induction tokens with
  | nil => exact .pure ⟨rfl, by simp⟩
  | cons token rest ih =>
    have hone : Work.Gives
        (do
          Work.tell (.composing token.kind)
          return (⟨token, ← composeToken bridge config token⟩ : Composed))
        fun x => x.token = token ∧ x.HasShape :=
      (Work.Keeps.tell _).bind fun _ _ =>
        (composeToken_gives bridge config token).bind fun blocks hblocks => .pure ⟨rfl, hblocks⟩
    refine hone.bind fun x ⟨htoken, hx⟩ => ?_
    refine ih.bind fun xs ⟨htokens, hxs⟩ => .pure ⟨?_, List.forall_mem_cons.2 ⟨hx, hxs⟩⟩
    rw [List.map_cons, htoken, htokens]

end

/-! ## Composing in two calls -/

theorem spaced_joint (xs ys : List Composed) :
    spaced {} (xs ++ ys)
      = spaced {} xs ++ joint (xs.map Composed.token) (ys.map Composed.token) ++ spaced {} ys := by
  have hsettled : ((({} : Coordinator).after (xs.map Composed.token))).IsSettled :=
    Coordinator.IsSettled.after (fun _ => rfl) _
  have hlast : (({} : Coordinator).after (xs.map Composed.token)).last
      = (xs.map Composed.token).getLast?.map fun t => t.kind.name := by
    rw [Coordinator.last_after, Option.or_none]
  have hspace : (fun t : Token => t.kind.name != blankKind) = fun t => !t.isSpace := by
    funext t
    rw [Bool.eq_iff_iff, bne_iff_ne, Ne, Token.kind_name_eq_blankKind, Bool.not_eq_true',
      Bool.not_eq_true]
  rw [spaced_append, spaced_of_isSettled hsettled, hlast, Option.any_map, List.append_assoc, joint]
  simp only [hspace, List.head?_map, Option.any_map]

theorem Token.space_not_mem_shape (t : Token) : Kind.space ∉ t.shape := by
  cases t <;> simp [shape]

/-- No block that a token has of its own is a spacer. -/
theorem Composed.HasShape.isSpacer_eq {x : Composed} (h : x.HasShape) {b : Block}
    (hb : b ∈ x.blocks) : b.isSpacer = false := by
  have hkind : b.kind? ∈ x.token.shape.map some := h ▸ List.mem_map_of_mem hb
  cases b with
  | spacer spacing =>
    obtain ⟨kind, hmem, heq⟩ := List.mem_map.1 hkind
    obtain rfl := Option.some.inj heq
    exact absurd hmem x.token.space_not_mem_shape
  | _ => rfl

/-- Without the spacers, the own blocks are left. -/
theorem filter_spaced {xs : List Composed} (h : ∀ x ∈ xs, x.HasShape) (c : Coordinator) :
    (spaced c xs).filter (fun b => !b.isSpacer) = xs.flatMap Composed.blocks := by
  induction xs generalizing c with
  | nil => rfl
  | cons x rest ih =>
    obtain ⟨hx, hrest⟩ := List.forall_mem_cons.1 h
    have hspacer (o : Option Spacing) :
        (o.map Block.spacer).toList.filter (fun b => !b.isSpacer) = [] := by
      cases o <;> rfl
    have hown : x.blocks.filter (fun b => !b.isSpacer) = x.blocks :=
      List.filter_eq_self.2 fun b hb => by rw [hx.isSpacer_eq hb, Bool.not_false]
    rw [spaced_cons, List.filter_append, List.filter_append, hspacer, hown, ih hrest,
      List.nil_append, List.flatMap_cons]

section

variable {σ : Type} (bridge : Bridge σ) (config : Config)

/-- Composing tokens and then more tokens on the same composition is composing them in one
    call, whatever lists and formulas there were before: the first fault ends either, and
    otherwise only the spacer at the joint is missing. Without its spacers, a composition is
    the own blocks of its tokens, one token after the other. -/
theorem compose_append (before after : List Token) :
    (compose bridge config (before ++ after) = do
      let blocks ← compose bridge config before
      let more ← compose bridge config after
      return blocks ++ joint before after ++ more)
    ∧ ∀ tokens,
      (List.filter fun b => !b.isSpacer) <$> compose bridge config tokens
          = List.flatMap Composed.blocks <$> composeEach bridge config tokens
        ∧ Work.Gives (composeEach bridge config tokens) fun xs =>
          xs.map Composed.token = tokens ∧ ∀ x ∈ xs, x.HasShape := by
  refine ⟨?_, fun tokens => ⟨?_, composeEach_gives bridge config tokens⟩⟩
  · have heach : composeEach bridge config (before ++ after) = do
        let xs ← composeEach bridge config before
        let ys ← composeEach bridge config after
        return xs ++ ys := Work.forEach_append _ _ _
    simp only [compose, composeFrom_eq_spaced, heach, map_bind, bind_map_left, map_pure]
    -- What is composed of the tokens before and after has these tokens.
    refine (composeEach_gives bridge config before).bind_congr fun xs ⟨hxs, _⟩ => ?_
    refine (composeEach_gives bridge config after).bind_congr fun ys ⟨hys, _⟩ => ?_
    rw [spaced_joint, hxs, hys]
  · rw [compose, composeFrom_eq_spaced, ← comp_map, map_eq_pure_bind, map_eq_pure_bind]
    refine (composeEach_gives bridge config tokens).bind_congr fun xs ⟨_, hxs⟩ => ?_
    rw [Function.comp_apply, filter_spaced hxs]

end

end Manuscript.Document
