import Manuscript.Proofs.Convert.Spacers

/-!
# Blank lines from a text to its document

What the tokens for blank lines look like among the tokens of a text (`HasBlanks`): each
counts one line at least and stands between two tokens of other kinds, the first of which
does not take blank lines to itself; none is quoted; without them, one token for each block
of the text is left.

A coordinator of spacers gives nothing for blank lines at the start, and nothing for the
second of two tokens for blank lines. Neither happens among the tokens of a text, so that its
document has as many spacers as it has tokens for blank lines (`hasBlanks_of_text`).
-/

namespace Manuscript.Document

/-- A token stands inside another one, which is a block quote, at any depth. -/
inductive Token.IsInside (t : Token) : Token → Prop
  | directly {tokens : List Token} : t ∈ tokens → t.IsInside (.blockquote tokens)
  | deeper {u : Token} {tokens : List Token} :
    u ∈ tokens → t.IsInside u → t.IsInside (.blockquote tokens)

/-! ## Numbers of parts -/

theorem length_splitOnP {α : Type} (p : α → Bool) (l : List α) :
    (l.splitOnP p).length = l.countP p + 1 := by
  induction l with
  | nil => rfl
  | cons a rest ih =>
    rw [List.splitOnP_cons_eq_if_modifyHead, List.countP_cons]
    split
    · rw [List.length_cons, ih]
    · rw [List.length_modifyHead, ih]

/-- Tokens among which blank lines stand between others have a spacer for each of these. -/
theorem countP_isSpacer_spaced {xs : List Composed} (hshape : ∀ x ∈ xs, x.HasShape)
    (h : Separates Token.isSpace (xs.map Composed.token)) :
    (spaced {} xs).countP Block.isSpacer = (xs.map Composed.token).countP Token.isSpace := by
  have hxs : Separates (fun x : Composed => x.token.isSpace) xs := separates_map.1 h
  have hparts := splitOnP_spaced (c := {}) (fun _ => rfl) hshape
    (fun x hx hspace => absurd (hxs.first x hx) (by rw [hspace]; exact Bool.noConfusion)) hxs.apart
  -- Spacers and blank lines cut what they stand in into as many parts.
  have hlength := congrArg List.length hparts
  rw [List.length_map, length_splitOnP, length_splitOnP] at hlength
  rw [List.countP_map]
  exact Nat.succ.inj hlength

end Manuscript.Document

namespace Manuscript.Markdown

open Manuscript.Document Manuscript.Text

/-! ## Blank lines among the tokens of blocks -/

/-- Tokens of blocks, and among them those for blank lines: at least one line each, between
    two other tokens, after none that takes blank lines to itself, and never quoted. -/
structure HasBlanks (bs : List Markdown.Block) (tokens : List Token) : Prop where
  lines : ∀ n, .space n ∈ tokens → 1 ≤ n
  separates : Separates Token.isSpace tokens
  notTaken : tokens.IsChain fun s t => s.kind = .heading ∨ s.kind = .rule → t.isSpace = false
  notQuoted : ∀ token ∈ tokens, ∀ t : Token, t.IsInside token → t.isSpace = false
  others : (tokens.filter (!·.isSpace)).map some = (bs.filter Block.isShown).map Block.token?

theorem Reading.takesBlanks_iff {kind : Kind} :
    takesBlanks kind = true ↔ kind = .heading ∨ kind = .rule := by
  cases kind <;> simp [takesBlanks]

theorem Reading.one_le_of_mem_spaceBefore {lines : Option (List (List Char))}
    {before : Option Kind} {line : Option Nat} {n : Int}
    (h : .space n ∈ spaceBefore lines before line) : 1 ≤ n := by
  unfold spaceBefore at h
  split at h
  · split at h
    · cases h
    · unfold spaceOf at h
      split at h
      · cases h
      · next hcount =>
        obtain rfl := Token.space.inj (List.mem_singleton.1 h)
        omega
  · cases h

section

variable {lines : Option (List (List Char))} {before : Option Kind} {bs : List Markdown.Block}

/-- A token among those of blocks is for blank lines, or the token of one of the blocks. -/
theorem mem_spacedTokens {t : Token} (h : t ∈ spacedTokens lines before bs) :
    (∃ before line, t ∈ Reading.spaceBefore lines before line)
      ∨ ∃ b ∈ bs, b.token? = some t := by
  induction bs generalizing before with
  | nil => cases h
  | cons b rest ih =>
    have hrest {before' : Option Kind} (h : t ∈ spacedTokens lines before' rest) :
        (∃ before line, t ∈ Reading.spaceBefore lines before line)
          ∨ ∃ b' ∈ b :: rest, b'.token? = some t := by
      rcases ih h with h | ⟨b', hb', htoken⟩
      · exact .inl h
      · exact .inr ⟨b', List.mem_cons_of_mem b hb', htoken⟩
    cases hb : b.token? with
    | none =>
      simp only [spacedTokens, hb] at h
      exact hrest h
    | some token =>
      simp only [spacedTokens, hb] at h
      rcases List.mem_append.1 h with h | h
      · exact .inl ⟨_, _, h⟩
      · rcases List.mem_cons.1 h with rfl | h
        · exact .inr ⟨b, List.mem_cons_self, hb⟩
        · exact hrest h

/-- No blank lines stand right after a token that takes them to itself. -/
theorem notTaken_spacedTokens (lines : Option (List (List Char))) (before : Option Kind)
    (bs : List Markdown.Block) :
    (∀ kind ∈ before, Reading.takesBlanks kind = true →
      ∀ t ∈ (spacedTokens lines before bs).head?, t.isSpace = false)
    ∧ (spacedTokens lines before bs).IsChain fun s t =>
        Reading.takesBlanks s.kind = true → t.isSpace = false := by
  induction bs generalizing before with
  | nil => exact ⟨fun _ _ _ _ ht => (nomatch ht), .nil⟩
  | cons b rest ih =>
    cases hb : b.token? with
    | none =>
      simp only [spacedTokens, hb]
      exact ih before
    | some token =>
      have htoken := Markdown.Block.isSpace_of_token? hb
      obtain ⟨hnext, hchain⟩ := ih (some token.kind)
      have hchain' : (token :: spacedTokens lines (some token.kind) rest).IsChain fun s t =>
          Reading.takesBlanks s.kind = true → t.isSpace = false :=
        List.isChain_cons.2 ⟨fun t ht htakes => hnext token.kind rfl htakes t ht, hchain⟩
      simp only [spacedTokens, hb]
      rcases Reading.spaceBefore_eq lines before (some b.line) with h | ⟨-, n, h⟩
      · rw [h, List.nil_append]
        refine ⟨fun _ _ _ t ht => ?_, hchain'⟩
        obtain rfl := Option.some.inj ht
        exact htoken
      · rw [h, List.singleton_append]
        refine ⟨fun kind hkind htakes => ?_, ?_⟩
        · -- After such a token there would be none for blank lines.
          obtain rfl := Option.mem_def.1 hkind
          cases lines with
          | none => cases h
          | some lines =>
            rw [Reading.spaceBefore, if_pos htakes] at h
            cases h
        · exact List.isChain_cons_cons.2 ⟨fun _ => htoken, hchain'⟩

theorem Block.eq_quote_of_token? {b : Markdown.Block} {tokens : List Token}
    (h : b.token? = some (.blockquote tokens)) :
    ∃ line body, b = .quote line body ∧ tokens = blockTokens body := by
  cases b with
  | quote line body =>
    cases h
    exact ⟨line, body, rfl, rfl⟩
  | list line start items => cases start <;> cases h
  | _ => cases h

/-- What a block quote holds, at any depth, is tokens of blocks. -/
theorem isSpace_of_isInside {b : Markdown.Block} {t token : Token} (hb : b.token? = some token)
    (h : t.IsInside token) : t.isSpace = false := by
  induction h generalizing b with
  | directly hmem =>
    obtain ⟨line, body, rfl, rfl⟩ := Markdown.Block.eq_quote_of_token? hb
    obtain ⟨b', -, hb'⟩ := mem_blockTokens hmem
    exact Markdown.Block.isSpace_of_token? hb'
  | deeper hmem _ ih =>
    obtain ⟨line, body, rfl, rfl⟩ := Markdown.Block.eq_quote_of_token? hb
    obtain ⟨b', -, hb'⟩ := mem_blockTokens hmem
    exact ih hb'

end

/-- The tokens of a text have blank lines among them as blocks do. -/
theorem hasBlanks_tokenize {text : List Char} {stream : Stream}
    (h : (tokenize text).1 = .ok stream) : HasBlanks (Markdown.Block.ofText text) stream.tokens where
  lines n hn := by
    rw [tokens_of_tokenize h] at hn
    rcases mem_spacedTokens hn with ⟨_, _, hspace⟩ | ⟨b, -, hb⟩
    · exact Reading.one_le_of_mem_spaceBefore hspace
    · exact absurd (Markdown.Block.isSpace_of_token? hb) Bool.noConfusion
  separates := separates_tokens h
  notTaken := by
    rw [tokens_of_tokenize h]
    refine (notTaken_spacedTokens _ none _).2.imp fun s t hst htakes => ?_
    exact hst (Reading.takesBlanks_iff.2 htakes)
  notQuoted token htoken t ht := by
    rw [tokens_of_tokenize h] at htoken
    rcases mem_spacedTokens htoken with ⟨_, _, hspace⟩ | ⟨b, -, hb⟩
    · -- A token for blank lines has nothing inside.
      have hisSpace := Reading.isSpace_of_mem_spaceBefore token hspace
      cases ht <;> cases hisSpace
    · exact isSpace_of_isInside hb ht
  others := by rw [filter_tokenize h, map_some_blockTokens]

end Manuscript.Markdown

namespace Manuscript.Convert

open Manuscript.Document Manuscript.Formula Manuscript.Markdown Manuscript.Style Manuscript.Success

/-! ## Spacers of a document -/

/-- The tokens of a text have blank lines among them as blocks do, and its document, if it has
    one, has a spacer for each of them. -/
theorem hasBlanks_of_text (text : List Char) :
    (∀ stream, (tokenize text).1 = .ok stream → HasBlanks (Block.ofText text) stream.tokens)
    ∧ ∀ {σ : Type} (bridge : Bridge σ) (config : Config) (s : σ) (document : Document),
      (build bridge config text s).result = .ok document →
        ∃ stream, (tokenize text).1 = .ok stream
          ∧ document.blocks.countP Block.isSpacer = stream.tokens.countP Token.isSpace := by
  refine ⟨fun stream h => hasBlanks_tokenize h, fun bridge config s document h => ?_⟩
  obtain ⟨stream, blocks, s', hstream, hblocks, rfl⟩ := exists_of_build h
  obtain ⟨xs, rfl, htokens, hshape⟩ := exists_of_compose hblocks
  refine ⟨stream, hstream, ?_⟩
  have hspaces := separates_tokens hstream
  rw [← htokens] at hspaces ⊢
  exact countP_isSpacer_spaced hshape hspaces

/-- A heading takes the blank line after it, and a list does not. -/
theorem hasBlanks_of_text_list :
    ∃ document,
      (build (rejecting "x") .standard "# a\n\n- b\n\n> c".toList ()).result = .ok document
        ∧ ∃ stream, (tokenize "# a\n\n- b\n\n> c".toList).1 = .ok stream
          ∧ HasBlanks (Block.ofText "# a\n\n- b\n\n> c".toList) stream.tokens
          ∧ document.blocks.countP Block.isSpacer = 1 ∧ stream.tokens.countP Token.isSpace = 1 := by
  obtain ⟨document, hdocument, hblocks⟩ := map_eq_ok_iff.1 (by decide +kernel :
    (build (rejecting "x") .standard "# a\n\n- b\n\n> c".toList ()).result.map
      (fun document => document.blocks.countP Block.isSpacer) = .ok 1)
  obtain ⟨hall, hcount⟩ := hasBlanks_of_text "# a\n\n- b\n\n> c".toList
  obtain ⟨stream, hstream, heq⟩ := hcount (rejecting "x") .standard () document hdocument
  exact ⟨document, hdocument, stream, hstream, hall stream hstream, hblocks, heq.symm.trans hblocks⟩

end Manuscript.Convert
