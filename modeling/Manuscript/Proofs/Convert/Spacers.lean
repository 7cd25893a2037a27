import Manuscript.Proofs.Convert.Stages
import Manuscript.Proofs.Document.Joints
import Manuscript.Proofs.Document.Locality
import Manuscript.Proofs.Markdown.Separation
import Mathlib.Data.List.Chain

/-!
# Spacers among blocks

Where the spacers of a document stand. Blank lines are tokens between two others, so that
each of them gives one spacer; but it separates blocks only if the tokens on either side of
it have some. The spacers of a text stand between blocks exactly if all its stretches
between blank lines have blocks of their own (`separates_of_build`). They need not: a comment
between blank lines leaves two spacers next to each other (`not_separates_comment`).
-/

namespace Manuscript.Document

open Manuscript.Formula Manuscript.Style

/-! ## Members that separate others -/

/-- The members of a list that `p` holds of stand between others: none is the first one or
    the last one, and no two are neighbours. -/
structure Separates {α : Type} (p : α → Bool) (l : List α) : Prop where
  first : ∀ a ∈ l.head?, p a = false
  last : ∀ a ∈ l.getLast?, p a = false
  apart : l.IsChain fun a b => p a = false ∨ p b = false

section

variable {α β : Type} {p : α → Bool} {l : List α}

theorem separates_map {q : β → Bool} {f : α → β} :
    Separates q (l.map f) ↔ Separates (fun a => q (f a)) l := by
  constructor
  · rintro ⟨hfirst, hlast, hapart⟩
    refine ⟨fun a ha => hfirst _ ?_, fun a ha => hlast _ ?_, (List.isChain_map f).1 hapart⟩
    · rw [List.head?_map]
      exact Option.mem_map_of_mem f ha
    · rw [List.getLast?_map]
      exact Option.mem_map_of_mem f ha
  · rintro ⟨hfirst, hlast, hapart⟩
    refine ⟨fun b hb => ?_, fun b hb => ?_, (List.isChain_map f).2 hapart⟩
    · rw [List.head?_map] at hb
      obtain ⟨a, ha, rfl⟩ := Option.map_eq_some_iff.1 hb
      exact hfirst a ha
    · rw [List.getLast?_map] at hb
      obtain ⟨a, ha, rfl⟩ := Option.map_eq_some_iff.1 hb
      exact hlast a ha

/-- All parts of a list are there if it does not begin with a separating member, and the
    parts after the first are there. -/
theorem forall_mem_splitOnP :
    (∀ part ∈ l.splitOnP p, part ≠ []) ↔
      (∃ a ∈ l.head?, p a = false) ∧ ∀ part ∈ (l.splitOnP p).tail, part ≠ [] := by
  cases l with
  | nil => simp
  | cons a rest =>
    rw [List.splitOnP_cons_eq_if_modifyHead]
    cases ha : p a with
    | true => simp [ha]
    | false =>
      rw [if_neg Bool.false_ne_true]
      rcases hparts : rest.splitOnP p with _ | ⟨part, parts⟩
      · exact absurd hparts (List.splitOnP_ne_nil p rest)
      · simp [ha]

/-- The parts after the first are there exactly if no separating member is the last one or
    next to another. -/
theorem forall_mem_tail_splitOnP :
    (∀ part ∈ (l.splitOnP p).tail, part ≠ []) ↔
      (∀ a ∈ l.getLast?, p a = false) ∧ l.IsChain fun a b => p a = false ∨ p b = false := by
  induction l with
  | nil => simp
  | cons a rest ih =>
    rw [List.splitOnP_cons_eq_if_modifyHead, List.isChain_cons]
    cases ha : p a with
    | true =>
      -- The part that begins here is there if another kind of member follows.
      rw [if_pos rfl, List.tail_cons, forall_mem_splitOnP, ih]
      cases rest with
      | nil => simp [ha]
      | cons b rest => simp [and_left_comm]
    | false =>
      rw [if_neg Bool.false_ne_true, List.tail_modifyHead, ih]
      cases rest with
      | nil => simp [ha]
      | cons b rest => simp

/-- Members separate others exactly if none of the parts between them is empty. -/
theorem separates_iff :
    Separates p l ↔ (l.any p = true → ∀ part ∈ l.splitOnP p, part ≠ []) := by
  rw [forall_mem_splitOnP, forall_mem_tail_splitOnP]
  constructor
  · rintro ⟨hfirst, hlast, hapart⟩ hany
    refine ⟨?_, hlast, hapart⟩
    cases l with
    | nil => simp at hany
    | cons a rest => exact ⟨a, rfl, hfirst a rfl⟩
  · intro h
    cases hany : l.any p with
    | true =>
      obtain ⟨⟨a, ha, hpa⟩, hlast, hapart⟩ := h hany
      exact ⟨fun b hb => Option.mem_unique ha hb ▸ hpa, hlast, hapart⟩
    | false =>
      have hnone : ∀ a ∈ l, p a = false := by simpa using hany
      refine ⟨fun a ha => hnone a (List.mem_of_mem_head? ha),
        fun a ha => hnone a (List.mem_of_mem_getLast? ha), ?_⟩
      exact (List.pairwise_of_forall_mem_list fun a ha b _ => .inl (hnone a ha)).isChain

/-- There is more than one part exactly if there is a separating member. -/
theorem tail_splitOnP_ne_nil : (l.splitOnP p).tail ≠ [] ↔ l.any p = true := by
  induction l with
  | nil => simp
  | cons a rest ih =>
    rw [List.splitOnP_cons_eq_if_modifyHead, List.any_cons]
    cases ha : p a with
    | true => simp [List.splitOnP_ne_nil]
    | false => rw [if_neg Bool.false_ne_true, List.tail_modifyHead, ih, Bool.false_or]

/-- The parts of a list hold its members that do not separate. -/
theorem mem_of_mem_splitOnP {part : List α} (hpart : part ∈ l.splitOnP p) {a : α} (ha : a ∈ part) :
    a ∈ l ∧ p a = false := by
  induction l generalizing part with
  | nil =>
    rw [List.mem_singleton.1 hpart] at ha
    cases ha
  | cons b rest ih =>
    rw [List.splitOnP_cons_eq_if_modifyHead] at hpart
    cases hb : p b with
    | true =>
      rw [hb, if_pos rfl] at hpart
      rcases List.mem_cons.1 hpart with rfl | hpart
      · cases ha
      · exact (ih hpart ha).imp_left (List.mem_cons_of_mem b)
    | false =>
      rw [hb, if_neg Bool.false_ne_true] at hpart
      rcases hparts : rest.splitOnP p with _ | ⟨first, others⟩
      · exact absurd hparts (List.splitOnP_ne_nil p rest)
      · rw [hparts, List.modifyHead_cons] at hpart
        rcases List.mem_cons.1 hpart with rfl | hpart
        · rcases List.mem_cons.1 ha with rfl | ha
          · exact ⟨List.mem_cons_self, hb⟩
          · exact (ih (hparts ▸ List.mem_cons_self) ha).imp_left (List.mem_cons_of_mem b)
        · exact (ih (hparts ▸ List.mem_cons_of_mem _ hpart) ha).imp_left (List.mem_cons_of_mem b)

/-- Members in front that do not separate belong to the first part. -/
theorem splitOnP_append {xs : List α} (h : ∀ a ∈ xs, p a = false) :
    (xs ++ l).splitOnP p = (l.splitOnP p).modifyHead (xs ++ ·) := by
  induction xs with
  | nil =>
    rcases hparts : l.splitOnP p with _ | ⟨part, parts⟩
    · exact absurd hparts (List.splitOnP_ne_nil p l)
    · exact hparts
  | cons a rest ih =>
    obtain ⟨ha, hrest⟩ := List.forall_mem_cons.1 h
    rw [List.cons_append, List.splitOnP_cons_eq_if_modifyHead, ha, if_neg Bool.false_ne_true,
      ih hrest, List.modifyHead_modifyHead]
    rfl

theorem splitOnP_map (f : β → α) (l : List β) :
    (l.map f).splitOnP p = (l.splitOnP fun b => p (f b)).map (List.map f) := by
  induction l with
  | nil => rfl
  | cons b rest ih =>
    rw [List.map_cons, List.splitOnP_cons_eq_if_modifyHead, List.splitOnP_cons_eq_if_modifyHead, ih]
    split
    · rfl
    · cases rest.splitOnP fun b => p (f b) <;> rfl

end

/-! ## Spacers of a composition -/

theorem map_flatMap_modifyHead {α β : Type} (f : α → List β) (a : α) (parts : List (List α)) :
    (parts.modifyHead (a :: ·)).map (List.flatMap f)
      = (parts.map (List.flatMap f)).modifyHead (f a ++ ·) := by
  cases parts <;> rfl

theorem Composed.HasShape.blocks_eq_nil_iff {x : Composed} (h : x.HasShape) :
    x.blocks = [] ↔ x.token.shape = [] := by
  rw [← List.map_eq_nil_iff, h, List.map_eq_nil_iff]

/-- Between the spacers stand the own blocks of the tokens between blank lines, if each blank
    line follows another token. -/
theorem splitOnP_spaced {c : Coordinator} (hc : c.IsSettled) {xs : List Composed}
    (hshape : ∀ x ∈ xs, x.HasShape)
    (hfirst : ∀ x ∈ xs.head?, x.token.isSpace = true → ∃ kind ∈ c.last, kind ≠ blankKind)
    (hapart : xs.IsChain fun x y => x.token.isSpace = false ∨ y.token.isSpace = false) :
    (spaced c xs).splitOnP Block.isSpacer
      = (xs.splitOnP fun x => x.token.isSpace).map (List.flatMap Composed.blocks) := by
  induction xs generalizing c with
  | nil => rfl
  | cons x rest ih =>
    obtain ⟨hx, hrest⟩ := List.forall_mem_cons.1 hshape
    obtain ⟨hnext, hapart⟩ := List.isChain_cons.1 hapart
    have hseen := Coordinator.isSettled_observe c x.token
    rw [spaced_cons, List.splitOnP_cons_eq_if_modifyHead]
    cases hspace : x.token.isSpace with
    | true =>
      -- Blank lines have no block of their own, and what follows is no blank line.
      obtain ⟨kind, hlast, hkind⟩ := hfirst x rfl hspace
      have hown : x.blocks = [] := by
        rw [hx.blocks_eq_nil_iff]
        cases ht : x.token with
        | space lines => rfl
        | _ => rw [ht] at hspace; cases hspace
      have htail : ∀ y ∈ rest.head?, y.token.isSpace = true →
          ∃ kind ∈ some blankKind, kind ≠ blankKind := by
        intro y hy hyspace
        rcases hnext y hy with h | h
        · rw [hspace] at h; cases h
        · rw [hyspace] at h; cases h
      rw [Coordinator.observe_of_isSpace_of_last hc hspace hlast hkind] at hseen ⊢
      rw [if_pos rfl, List.map_cons, ← ih hseen hrest htail hapart, hown]
      rfl
    | false =>
      have hblocks : ∀ b ∈ x.blocks, b.isSpacer = false := fun b hb => hx.isSpacer_eq hb
      rw [Coordinator.observe_of_not_isSpace c hspace] at hseen ⊢
      rw [if_neg Bool.false_ne_true, Option.map_none, Option.toList_none, List.nil_append,
        splitOnP_append hblocks, ih hseen hrest (fun y _ hy => ⟨_, rfl, ?_⟩) hapart]
      · rw [map_flatMap_modifyHead]
      · rw [Ne, Token.kind_name_eq_blankKind, hspace]
        exact Bool.false_ne_true

/-- The spacers of tokens among which blank lines stand between others separate blocks exactly
    if the tokens between blank lines have blocks of their own. -/
theorem separates_spaced_iff {xs : List Composed} (hshape : ∀ x ∈ xs, x.HasShape)
    (h : Separates Token.isSpace (xs.map Composed.token)) :
    Separates Block.isSpacer (spaced {} xs) ↔
      ((xs.map Composed.token).any Token.isSpace = true →
        ∀ part ∈ (xs.map Composed.token).splitOnP Token.isSpace,
          part.flatMap Token.shape ≠ []) := by
  have hxs : Separates (fun x : Composed => x.token.isSpace) xs := separates_map.1 h
  have hparts := splitOnP_spaced (c := {}) (fun _ => rfl) hshape
    (fun x hx hspace => absurd (hxs.first x hx) (by rw [hspace]; exact Bool.noConfusion)) hxs.apart
  have hown (part : List Composed) (hpart : ∀ x ∈ part, x.HasShape) :
      part.flatMap Composed.blocks = [] ↔ (part.map Composed.token).flatMap Token.shape = [] := by
    rw [List.flatMap_eq_nil_iff, List.flatMap_eq_nil_iff, List.forall_mem_map]
    exact forall₂_congr fun x hx => (hpart x hx).blocks_eq_nil_iff
  have hany : (spaced {} xs).any Block.isSpacer = true
      ↔ (xs.map Composed.token).any Token.isSpace = true := by
    rw [← tail_splitOnP_ne_nil, ← tail_splitOnP_ne_nil, hparts, splitOnP_map, ← List.map_tail,
      ← List.map_tail, Ne, List.map_eq_nil_iff, Ne, List.map_eq_nil_iff]
  rw [separates_iff, hany, hparts, splitOnP_map, List.forall_mem_map, List.forall_mem_map]
  refine imp_congr_right fun _ => forall₂_congr fun part hpart =>
    not_congr (hown part fun x hx => ?_)
  exact hshape x (mem_of_mem_splitOnP hpart hx).1

section

variable {σ : Type} {bridge : Bridge σ} {config : Config} {tokens : List Token} {t : Composition σ}

/-- The blocks of tokens are own blocks of the tokens with spacers among them. -/
theorem exists_of_compose {blocks : List Block}
    (h : (compose bridge config tokens t).result = .ok blocks) :
    ∃ xs, blocks = spaced {} xs ∧ xs.map Composed.token = tokens ∧ ∀ x ∈ xs, x.HasShape := by
  rw [compose, composeFrom_eq_spaced, map_eq_pure_bind] at h
  obtain ⟨xs, said, t', hrun, h⟩ := Work.exists_of_bind h
  obtain ⟨htokens, hshape⟩ := Work.Gives.of_run (composeEach_gives bridge config tokens) hrun
  exact ⟨xs, (Except.ok.inj h).symm, htokens, hshape⟩

end

end Manuscript.Document

namespace Manuscript.Markdown

open Manuscript.Document Manuscript.Text

/-! ## Blank lines of a text -/

theorem Reading.spaceBefore_eq (lines : Option (List (List Char))) (before : Option Kind)
    (line : Option Nat) :
    spaceBefore lines before line = []
      ∨ before ≠ none ∧ ∃ n, spaceBefore lines before line = [.space n] := by
  rcases lines with _ | lines
  · exact .inl rfl
  rcases before with _ | kind
  · exact .inl rfl
  rcases line with _ | line
  · exact .inl rfl
  by_cases htakes : takesBlanks kind = true
  · exact .inl (if_pos htakes)
  by_cases hcount : blankAbove lines line = 0
  · exact .inl ((if_neg htakes).trans (if_pos hcount))
  · exact .inr ⟨Option.some_ne_none kind, _, (if_neg htakes).trans (if_neg hcount)⟩

/-- The tokens for blank lines stand between those of blocks; after a block, they may come
    first. -/
theorem apart_spacedTokens (lines : Option (List (List Char))) (before : Option Kind)
    (bs : List Markdown.Block) :
    (before = none → ∀ t ∈ (spacedTokens lines before bs).head?, t.isSpace = false)
    ∧ (∀ t ∈ (spacedTokens lines before bs).getLast?, t.isSpace = false)
    ∧ (spacedTokens lines before bs).IsChain fun s t => s.isSpace = false ∨ t.isSpace = false := by
  induction bs generalizing before with
  | nil => simp [spacedTokens]
  | cons b rest ih =>
    cases hb : b.token? with
    | none =>
      simp only [spacedTokens, hb]
      exact ih before
    | some token =>
      have htoken := Markdown.Block.isSpace_of_token? hb
      obtain ⟨-, hlast, hapart⟩ := ih (some token.kind)
      simp only [spacedTokens, hb]
      generalize spacedTokens lines (some token.kind) rest = more at hlast hapart ⊢
      have hlast' : ∀ t ∈ (token :: more).getLast?, t.isSpace = false := by
        cases more with
        | nil => simpa using htoken
        | cons t more => simpa using hlast
      have hapart' : (token :: more).IsChain fun s t => s.isSpace = false ∨ t.isSpace = false :=
        List.isChain_cons.2 ⟨fun t _ => .inl htoken, hapart⟩
      -- Blank lines, if there are any, stand before a token that is none.
      rcases Reading.spaceBefore_eq lines before (some b.line) with h | ⟨hbefore, n, h⟩
      · rw [h, List.nil_append]
        exact ⟨fun _ => by simpa using htoken, hlast', hapart'⟩
      · rw [h, List.singleton_append]
        refine ⟨fun hnone => absurd hnone hbefore, ?_, ?_⟩
        · rw [List.getLast?_cons_cons]
          exact hlast'
        · exact List.isChain_cons_cons.2 ⟨.inr htoken, hapart'⟩

theorem separates_tokens {text : List Char} {stream : Stream} (h : (tokenize text).1 = .ok stream) :
    Separates Token.isSpace stream.tokens := by
  obtain ⟨hfirst, hlast, hapart⟩ :=
    apart_spacedTokens (some (visualLines text)) none (Markdown.Block.ofText text)
  rw [tokens_of_tokenize h]
  exact ⟨hfirst rfl, hlast, hapart⟩

end Manuscript.Markdown

namespace Manuscript.Convert

open Manuscript.Document Manuscript.Formula Manuscript.Markdown Manuscript.Style Manuscript.Success

/-! ## Spacers of a text -/

/-- In the document of a text, the spacers stand between other blocks exactly if all tokens
    between blank lines, from one to the next, have blocks of their own; so they do when every
    token but those for blank lines has one. -/
theorem separates_of_build {σ : Type} (bridge : Bridge σ) (config : Config) (text : List Char)
    (s : σ) (document : Document) (h : (build bridge config text s).result = .ok document) :
    ∃ stream, (tokenize text).1 = .ok stream
      ∧ Separates Token.isSpace stream.tokens
      ∧ (Separates Block.isSpacer document.blocks ↔
        (stream.tokens.any Token.isSpace = true →
          ∀ part ∈ stream.tokens.splitOnP Token.isSpace, part.flatMap Token.shape ≠ []))
      ∧ ((∀ token ∈ stream.tokens, token.isSpace = false → token.shape ≠ []) →
        Separates Block.isSpacer document.blocks) := by
  obtain ⟨stream, blocks, s', hstream, hblocks, rfl⟩ := exists_of_build h
  obtain ⟨xs, rfl, htokens, hshape⟩ := exists_of_compose hblocks
  have hspaces := separates_tokens hstream
  refine ⟨stream, hstream, ?_⟩
  rw [← htokens] at hspaces ⊢
  have hiff := separates_spaced_iff hshape hspaces
  refine ⟨hspaces, hiff, fun hall => hiff.2 fun hany part hpart hnone => ?_⟩
  -- A part is not empty, so that it holds a token, and this one has a block.
  obtain ⟨token, htoken⟩ := List.exists_mem_of_ne_nil _ (separates_iff.1 hspaces hany part hpart)
  obtain ⟨hmem, hspace⟩ := mem_of_mem_splitOnP hpart htoken
  exact hall token hmem hspace (List.flatMap_eq_nil_iff.1 hnone token htoken)

/-- A list, a blank line and a quotation: the spacer stands between the item and the quoted
    paragraph. -/
theorem separates_of_build_quote :
    ∃ document, (build (rejecting "x") .standard "- a\n\n> b".toList ()).result = .ok document
      ∧ document.blocks.map Block.isSpacer = [false, true, false]
      ∧ Separates Block.isSpacer document.blocks := by
  obtain ⟨document, hdocument, hblocks⟩ := map_eq_ok_iff.1 (by decide +kernel :
    (build (rejecting "x") .standard "- a\n\n> b".toList ()).result.map
      (fun document => document.blocks.map Block.isSpacer) = .ok [false, true, false])
  obtain ⟨stream, hstream, -, hiff, -⟩ := separates_of_build _ _ _ _ document hdocument
  have hshapes : (tokenize "- a\n\n> b".toList).1.map (fun stream =>
      (stream.tokens.splitOnP Token.isSpace).map (List.flatMap Token.shape))
        = .ok [[.list], [.paragraph]] := by decide +kernel
  rw [hstream] at hshapes
  refine ⟨document, hdocument, hblocks, hiff.2 fun _ part hpart hnone => ?_⟩
  have hmem : [] ∈ [[Kind.list], [Kind.paragraph]] :=
    Except.ok.inj hshapes ▸ hnone ▸ List.mem_map_of_mem hpart
  exact absurd hmem (by decide)

/-- A comment between blank lines has no block, so that the spacers above and below it are
    neighbours. -/
theorem not_separates_comment :
    ∃ document,
      (build (rejecting "x") .standard "a\n\n<!-- x -->\n\nb".toList ()).result = .ok document
        ∧ ¬ Separates Block.isSpacer document.blocks := by
  obtain ⟨document, hdocument, hblocks⟩ := map_eq_ok_iff.1 (by decide +kernel :
    (build (rejecting "x") .standard "a\n\n<!-- x -->\n\nb".toList ()).result.map
      (fun document => document.blocks.map Block.isSpacer) = .ok [false, true, true, false])
  refine ⟨document, hdocument, fun h => ?_⟩
  have hapart := (separates_map (q := id) (f := Block.isSpacer)).2 h
  rw [hblocks] at hapart
  exact absurd hapart.apart (by decide)

end Manuscript.Convert
