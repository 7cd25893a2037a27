import Manuscript.Document.Compose
import Manuscript.Proofs.Work
import Mathlib.Logic.Basic

/-!
# Shares

A composition told apart by its tokens. The share of a token is what it comes to: its
blocks, after the spacer before them. The blocks of some tokens are those of their shares,
one after the other (`composeFrom_eq`), also for calls one after the other on one
composition, some of which may fail (`flatMap_sharesOfCalls`).

The items of a list are the blocks of its share. Those of an ordered list bear a number
that no list before it has had, not even a list of a call that failed (`InTurn`,
`inTurn_sharesOfCalls`).
-/

namespace Manuscript.Document

open Manuscript.Inline Manuscript.Formula Manuscript.Style

/-! ## Tokens and blocks -/

/-- The number that an ordered list with items starts at. -/
def Token.start? : Token → Option Int
  | .list true (_ :: _) start => some start
  | _ => none

/-- Whether a token is an ordered list with items. -/
def Token.isNumbered (t : Token) : Bool := t.start?.isSome

/-- The number of the ordered list that a block is an item of, and where the list starts. -/
def Block.order? : Block → Option (Int × Int)
  | .listItem _ true _ list start _ _ => some (list, start)
  | _ => none

/-- A block is an item of a list with a number and a start. -/
def Block.IsItem (ordered : Bool) (list start : Int) (b : Block) : Prop :=
  ∃ runs spacing indent, b = .listItem runs ordered 0 list start spacing indent

/-! ## Shares -/

/-- What a token comes to in a composition. -/
structure Share where
  /-- The token. -/
  token : Token
  /-- Its blocks, after the spacer before them if there is one. -/
  blocks : List Block

/-- A share that is made after `n` numbers were taken for ordered lists, and after which `n'`
    are taken. -/
inductive Share.Takes (n n' : Nat) (s : Share) : Prop where
  /-- The items of an ordered list bear the next number. -/
  | ordered {items : List String} {start : Int} (token : s.token = .list true items start)
      (count : s.blocks.length = items.length)
      (each : ∀ b ∈ s.blocks, b.IsItem true n' start) (next : n' = n + 1)
  /-- The items of a bulleted list bear none. -/
  | bulleted {items : List String} {start : Int} (token : s.token = .list false items start)
      (count : s.blocks.length = items.length)
      (each : ∀ b ∈ s.blocks, b.IsItem false 0 start) (next : n' = n)
  /-- No other token has items of an ordered list. -/
  | other (token : s.token.kind ≠ .list) (each : ∀ b ∈ s.blocks, b.order? = none)
      (next : n' = n)

/-- Shares whose ordered lists bear increasing numbers from `n + 1` on; some numbers may be
    left out. -/
inductive InTurn : (n : Nat) → List Share → Prop where
  | nil {n : Nat} : InTurn n []
  | cons {n m m' : Nat} {s : Share} {rest : List Share} (le : n ≤ m) (takes : s.Takes m m')
      (next : InTurn m' rest) : InTurn n (s :: rest)

section

variable {σ : Type} (bridge : Bridge σ) (config : Config)

/-- The shares of tokens, after the kinds that a coordinator has seen. -/
def sharesFrom (c : Coordinator) : List Token → Work (Composition σ) Fault (List Share)
  | [] => return []
  | token :: rest => do
    Work.tell (.composing token.kind)
    let (spacer, seen) := c.observe token.kind.name
    let blocks ← composeToken bridge config token
    let more ← sharesFrom seen rest
    return ⟨token, (spacer.map Block.spacer).toList ++ blocks⟩ :: more

/-- What an activity gives for some lists of tokens, one after the other on one
    composition, as far as it succeeds. -/
def eachCall {α : Type} (f : List Token → Work (Composition σ) Fault (List α)) :
    List (List Token) → Composition σ → List α
  | [], _ => []
  | tokens :: rest, t =>
    (f tokens t).result.toOption.getD [] ++ eachCall f rest (f tokens t).state

/-- The blocks of the calls that succeed, of some calls one after the other. -/
def blocksOfCalls (calls : List (List Token)) (t : Composition σ) : List Block :=
  eachCall (compose bridge config) calls t

/-- The shares of the calls that succeed, of some calls one after the other. -/
def sharesOfCalls (calls : List (List Token)) (t : Composition σ) : List Share :=
  eachCall (sharesFrom bridge config {}) calls t

end

section

variable {σ : Type} (bridge : Bridge σ) (config : Config) {c : Coordinator}
  {tokens : List Token} {t t' : Composition σ} {shares : List Share} {said : List Log.Notice}

/-- The blocks of tokens are those of their shares, one after the other. -/
theorem composeFrom_eq (c : Coordinator) (tokens : List Token) (t : Composition σ) :
    composeFrom bridge config c tokens t
      = ⟨(sharesFrom bridge config c tokens t).result.map (List.flatMap Share.blocks),
          (sharesFrom bridge config c tokens t).notices,
          (sharesFrom bridge config c tokens t).state⟩ := by
  induction tokens generalizing c t with
  | nil => rfl
  | cons token rest ih =>
    rcases hseen : c.observe token.kind.name with ⟨spacer, seen⟩
    simp only [composeFrom, sharesFrom, hseen]
    rw [Work.bind_ok (Work.tell_apply _ t), Work.bind_ok (Work.tell_apply _ t)]
    rcases htoken : composeToken bridge config token t with ⟨_ | blocks, said, t'⟩
    · rw [Work.bind_error htoken, Work.bind_error htoken]
      rfl
    · rw [Work.bind_ok htoken, Work.bind_ok htoken]
      have hrest := ih seen t'
      rcases hshares : sharesFrom bridge config seen rest t' with ⟨_ | more, said', u⟩
      · rw [hshares] at hrest
        rw [Work.bind_error hshares, Work.bind_error hrest]
        rfl
      · rw [hshares] at hrest
        rw [Work.bind_ok hshares, Work.bind_ok hrest]
        simp [Except.map]

/-- The blocks of some calls are those of their shares. -/
theorem flatMap_sharesOfCalls (calls : List (List Token)) (t : Composition σ) :
    (sharesOfCalls bridge config calls t).flatMap Share.blocks
      = blocksOfCalls bridge config calls t := by
  induction calls generalizing t with
  | nil => rfl
  | cons tokens rest ih =>
    have heq := composeFrom_eq bridge config {} tokens t
    rw [sharesOfCalls, blocksOfCalls, eachCall, eachCall, List.flatMap_append, compose, heq]
    refine congrArg₂ (· ++ ·) ?_ (ih _)
    cases (sharesFrom bridge config {} tokens t).result <;> rfl

/-! ## Numbers in turn -/

theorem onBridge_error {α : Type} {w : Work σ Formula.Fault α} {e : Formula.Fault} {s : σ}
    (h : w t.bridge = ⟨.error e, said, s⟩) :
    onBridge w t = ⟨.error (.formula e), said, { t with bridge := s }⟩ := by
  simp only [onBridge, h]
  rfl

/-- After `n` numbers were taken for ordered lists, an activity takes none, and what it gives
    has a property. -/
abbrev TakesNone {α : Type} (n : Nat) (w : Work (Composition σ) Fault α) (P : α → Prop) : Prop :=
  Work.Keeps (fun t => t.lists = n) True w P

section

variable {n : Nat}

theorem runsOf_takesNone (text : String) : TakesNone n (runsOf bridge config text) fun _ => True := by
  intro t ht
  rcases h : format bridge config text t.bridge with ⟨e | runs, said, s⟩
  · exact .of_error (onBridge_error h) ⟨trivial, ht⟩
  · exact .of_ok (onBridge_ok h) ⟨ht, trivial⟩

theorem headingBlock_takesNone (depth : Int) (text : String) :
    TakesNone (σ := σ) n (headingBlock depth text) fun b => b.order? = none := by
  unfold headingBlock
  by_cases hdepth : (clampDepth depth != depth) = true
  · simp only [hdepth, if_true]
    exact (Work.Keeps.tell _).bind fun _ _ => .pure rfl
  · simp only [hdepth]
    exact .pure rfl

theorem itemBlocks_takesNone (ordered : Bool) (list start : Int) (spacing : Spacing)
    (items : List String) :
    TakesNone n (itemBlocks bridge config ordered list start spacing items) fun blocks =>
      blocks.length = items.length ∧ ∀ b ∈ blocks, b.IsItem ordered list start := by
  induction items generalizing spacing with
  | nil => exact .pure ⟨rfl, by simp⟩
  | cons item rest ih =>
    refine (runsOf_takesNone bridge config item).bind fun runs _ => ?_
    refine (ih itemSpacing).bind fun blocks ⟨hlength, hblocks⟩ => .pure ⟨?_, ?_⟩
    · rw [List.length_cons, List.length_cons, hlength]
    · exact List.forall_mem_cons.2 ⟨⟨_, _, _, rfl⟩, hblocks⟩

theorem quoteBlocks_takesNone (tokens : List Token) :
    TakesNone n (quoteBlocks bridge config tokens) fun blocks => ∀ b ∈ blocks, b.order? = none := by
  induction tokens with
  | nil => exact .pure (by simp)
  | cons token rest ih =>
    cases token with
    | paragraph text =>
      refine (runsOf_takesNone bridge config text).bind fun runs _ => ?_
      exact ih.bind fun blocks hblocks => .pure (List.forall_mem_cons.2 ⟨rfl, hblocks⟩)
    | _ => exact (Work.Keeps.tell _).bind fun _ _ => ih

theorem cellsOf_takesNone (width : Int) (looks : CellLooks) (texts : List (String × Option String)) :
    TakesNone n (cellsOf bridge config width looks texts) fun _ => True := by
  have h : TakesNone n (cellsOf bridge config width looks texts) fun cells => ∀ c ∈ cells, True :=
    .forEach fun (text, _) _ => (runsOf_takesNone bridge config text).bind fun _ _ => .pure trivial
  exact h.mono fun _ _ => trivial

theorem dataRows_takesNone (columns : Nat) (width : Int) (align : List (Option String)) (number : Nat)
    (rows : List (List String)) :
    TakesNone n (dataRows bridge config columns width align number rows) fun _ => True := by
  induction rows generalizing number with
  | nil => exact .pure trivial
  | cons row rest ih =>
    have hcells := cellsOf_takesNone bridge config (n := n) width dataLooks
      ((fitTo columns "" row).zip align)
    have hrow := hcells.bind fun cells _ => (ih (number + 1)).bind fun rows _ =>
      Work.Keeps.pure (P := fun _ => True) (a := { cells, minHeight := some 400 : Row } :: rows) trivial
    unfold dataRows
    by_cases hragged : (row.length != columns) = true
    · simp only [hragged, if_true]
      exact (Work.Keeps.tell _).bind fun _ _ => hrow
    · simp only [hragged]
      exact hrow

theorem tableBlock_takesNone (header : List String) (rows : List (List String))
    (align : List (Option String)) :
    TakesNone n (tableBlock bridge config header rows align) fun b => b.order? = none := by
  unfold tableBlock
  by_cases hcolumns : header.length = 0
  · simp only [hcolumns, if_true]
    exact .fail trivial
  · simp only [hcolumns, if_false]
    refine (cellsOf_takesNone bridge config _ _ _).bind fun _ _ => ?_
    exact (dataRows_takesNone bridge config _ _ _ _ _).bind fun _ _ => .pure rfl

theorem nextList_eq (ordered : Bool) (t : Composition σ) :
    (nextList ordered : Work (Composition σ) Fault Int) t
      = if ordered then ⟨.ok (t.lists + 1 : Nat), [], { t with lists := t.lists + 1 }⟩
        else ⟨.ok 0, [], t⟩ := by
  cases ordered <;> rfl

theorem listBlocks_ends (ordered : Bool) (items : List String) (start : Int) (t : Composition σ) :
    Work.Ends (listBlocks bridge config ordered items start) t
      (fun blocks t' => Share.Takes t.lists t'.lists ⟨.list ordered items start, blocks⟩)
      fun _ t' => t.lists ≤ t'.lists := by
  have hnext := nextList_eq ordered t
  cases ordered with
  | true =>
    have hlist : Work.Ends (nextList true) t
        (fun n u => n = (t.lists + 1 : Nat) ∧ u = { t with lists := t.lists + 1 })
        fun _ t' => t.lists ≤ t'.lists := .of_ok hnext ⟨rfl, rfl⟩
    -- The list takes the next number, which all its items bear.
    refine hlist.bind fun n u ⟨hn, hu⟩ => ?_
    subst hn hu
    refine (itemBlocks_takesNone bridge config true _ start firstItemSpacing items _ rfl).mono
      (fun blocks t' ⟨ht', hlength, hblocks⟩ => ?_) fun _ t' ⟨_, ht'⟩ => by simp [ht']
    exact .ordered rfl hlength (by rwa [ht']) ht'
  | false =>
    have hlist : Work.Ends (nextList false) t (fun n u => n = 0 ∧ u = t)
        fun _ t' => t.lists ≤ t'.lists := .of_ok hnext ⟨rfl, rfl⟩
    refine hlist.bind fun n u ⟨hn, hu⟩ => ?_
    subst hn hu
    refine (itemBlocks_takesNone bridge config false 0 start firstItemSpacing items _ rfl).mono
      (fun blocks t' ⟨ht', hlength, hblocks⟩ => ?_) fun _ t' ⟨_, ht'⟩ => by simp [ht']
    exact .bulleted rfl hlength hblocks ht'

/-- A token other than a list comes to blocks that are no items. -/
theorem composeToken_takesNone (token : Token) (h : token.kind ≠ .list) :
    TakesNone n (composeToken bridge config token) fun blocks => ∀ b ∈ blocks, b.order? = none := by
  cases token with
  | heading depth text =>
    exact (headingBlock_takesNone depth text).bind fun b hb => .pure (by simpa using hb)
  | paragraph text =>
    exact (runsOf_takesNone bridge config text).bind fun runs _ => .pure (by simp [Block.order?])
  | list => exact absurd rfl h
  | blockquote tokens => exact quoteBlocks_takesNone bridge config tokens
  | code text language => exact .pure (by simp [codeBlock, Block.order?])
  | rule => exact .pure (by simp [Block.order?])
  | table header rows align =>
    exact (tableBlock_takesNone bridge config header rows align).bind fun b hb => .pure (by simpa using hb)
  | space lines => exact .pure (by simp)
  | other type raw => exact (Work.Keeps.tell _).bind fun _ _ => .pure (by simp)
  | unknown => exact .fail trivial

/-- What a token comes to, and the numbers that are taken after it. -/
theorem composeToken_ends (token : Token) (t : Composition σ) :
    Work.Ends (composeToken bridge config token) t
      (fun blocks t' => Share.Takes t.lists t'.lists ⟨token, blocks⟩)
      fun _ t' => t.lists ≤ t'.lists := by
  by_cases hkind : token.kind = .list
  · cases token with
    | list ordered items start => exact listBlocks_ends bridge config ordered items start t
    | _ => cases hkind
  · exact (composeToken_takesNone bridge config token hkind t rfl).mono
      (fun _ _ ⟨ht', hblocks⟩ => .other hkind hblocks ht') fun _ _ ⟨_, ht'⟩ => Nat.le_of_eq ht'.symm

end

/-- A coordinator sees no spacer before a list. -/
theorem observe_list (c : Coordinator) : (c.observe Kind.list.name).1 = none := by
  have hkind : (Kind.list.name == blankKind) = false := rfl
  simp [Coordinator.observe, Coordinator.spaces, hkind]

/-- Spacers are no items, and none stands before a list. -/
theorem Share.Takes.spaced {token : Token} {blocks : List Block} {n n' : Nat}
    (h : Share.Takes n n' ⟨token, blocks⟩) (c : Coordinator) :
    Share.Takes n n'
      ⟨token, ((c.observe token.kind.name).1.map Block.spacer).toList ++ blocks⟩ := by
  by_cases hkind : token.kind = .list
  · rw [hkind, observe_list]
    exact h
  · obtain ⟨hblocks, hnext⟩ : (∀ b ∈ blocks, b.order? = none) ∧ n' = n := by
      cases h with
      | ordered htoken => exact absurd (congrArg Token.kind htoken) hkind
      | bulleted htoken => exact absurd (congrArg Token.kind htoken) hkind
      | other _ each next => exact ⟨each, next⟩
    refine .other hkind (fun b hb => ?_) hnext
    rcases List.mem_append.1 hb with hb | hb
    · obtain ⟨spacing, -, rfl⟩ := Option.map_eq_some_iff.1 (Option.mem_toList.1 hb)
      rfl
    · exact hblocks b hb

theorem Share.Takes.le {s : Share} {n n' : Nat} (h : s.Takes n n') : n ≤ n' := by
  cases h <;> omega

theorem InTurn.mono {n m : Nat} (h : InTurn m shares) (hle : n ≤ m) : InTurn n shares := by
  cases h with
  | nil => exact .nil
  | cons le takes next => exact .cons (Nat.le_trans hle le) takes next

/-- The shares of tokens are in turn, and so are those that follow them. -/
theorem sharesFrom_ends (c : Coordinator) (tokens : List Token) (t : Composition σ) :
    Work.Ends (sharesFrom bridge config c tokens) t
      (fun shares t' => shares.map Share.token = tokens ∧ t.lists ≤ t'.lists
        ∧ ∀ rest, InTurn t'.lists rest → InTurn t.lists (shares ++ rest))
      fun _ t' => t.lists ≤ t'.lists := by
  induction tokens generalizing c t with
  | nil => exact .pure ⟨rfl, Nat.le_refl _, fun _ h => h⟩
  | cons token rest ih =>
    refine (Work.Ends.tell (P := fun _ u => u = t) rfl).bind fun _ u hu => ?_
    subst hu
    refine (composeToken_ends bridge config token u).bind fun blocks u' htakes => ?_
    have hle := htakes.le
    refine ((ih (c.observe token.kind.name).2 u').mono (fun _ _ h => h) fun _ t' h =>
      Nat.le_trans hle h).bind fun more t' ⟨hmap, hle', hnext⟩ => .pure ⟨?_, ?_, ?_⟩
    · rw [List.map_cons, hmap]
    · exact Nat.le_trans hle hle'
    · exact fun others hothers => .cons (Nat.le_refl _) (htakes.spaced c) (hnext others hothers)

/-- The tokens of the calls that succeed, of some calls one after the other. -/
def tokensOfCalls (calls : List (List Token)) (t : Composition σ) : List Token :=
  eachCall (fun tokens => do
    let _ ← compose bridge config tokens
    return tokens) calls t

/-- The shares of some calls are those of the tokens of the calls that succeed. -/
theorem map_token_sharesOfCalls (calls : List (List Token)) (t : Composition σ) :
    (sharesOfCalls bridge config calls t).map Share.token
      = tokensOfCalls bridge config calls t := by
  induction calls generalizing t with
  | nil => rfl
  | cons tokens rest ih =>
    have hcompose := composeFrom_eq bridge config {} tokens t
    rw [sharesOfCalls, tokensOfCalls, eachCall, eachCall, List.map_append]
    cases sharesFrom_ends bridge config {} tokens t with
    | of_ok run holds =>
      rw [run] at hcompose
      rw [compose, Work.bind_ok hcompose, run]
      exact congrArg₂ (· ++ ·) holds.1 (ih _)
    | of_error run hle =>
      rw [run] at hcompose
      rw [compose, Work.bind_error hcompose, run]
      exact ih _

/-- The ordered lists of some calls are in turn. -/
theorem inTurn_sharesOfCalls (calls : List (List Token)) (t : Composition σ) :
    InTurn t.lists (sharesOfCalls bridge config calls t) := by
  induction calls generalizing t with
  | nil => exact .nil
  | cons tokens rest ih =>
    rw [sharesOfCalls, eachCall]
    cases sharesFrom_ends bridge config {} tokens t with
    | of_ok run holds =>
      rw [run]
      exact holds.2.2 _ (ih _)
    | of_error run hle =>
      -- A call that fails gives no blocks, but the numbers that it took are not used again.
      rw [run]
      exact (ih _).mono hle

end

end Manuscript.Document
