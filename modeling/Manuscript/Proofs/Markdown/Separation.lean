import Manuscript.Markdown.Tokens
import Manuscript.Proofs.Markdown.Recovery

/-!
# Separation

The tokens for blank lines between the blocks of a text. What stands between two blocks
is told by the lines of a display (`gapAfter_tokenize`); where the source lines tell the
same, each gap is as long as the source shows it (`isSeparated_iff`). The two differ where
a text has a character that only a display breaks a line at, or a line of blanks other
than spaces and tabs.
-/

namespace Manuscript.Markdown

open Manuscript.Document Manuscript.Log Manuscript.Text

/-! ## Gaps -/

/-- What stands after the token of the first block. -/
def pastBlock (ts : List Token) : List Token := (ts.dropWhile Token.isSpace).drop 1

/-- The tokens for blank lines right after the block with a number. -/
def gapAfter : Nat → List Token → List Token
  | 0, ts => (pastBlock ts).takeWhile Token.isSpace
  | k + 1, ts => gapAfter k (pastBlock ts)

/-- Blank lines after a block belong to it. -/
def Block.takesBlanks : Block → Bool
  | .heading _ _ _ | .rule _ => true
  | _ => false

theorem Block.takesBlanks_kind {b : Block} {t : Token} (h : b.token? = some t) :
    Reading.takesBlanks t.kind = b.takesBlanks := by
  cases b with
  | list _ start _ => cases start <;> (obtain rfl := Option.some.inj h; rfl)
  | frontMatter => cases h
  | _ => obtain rfl := Option.some.inj h; rfl

theorem Block.isSpace_of_token? {b : Block} {t : Token} (h : b.token? = some t) :
    t.isSpace = false := by
  cases b with
  | list _ start _ => cases start <;> (obtain rfl := Option.some.inj h; rfl)
  | frontMatter => cases h
  | _ => obtain rfl := Option.some.inj h; rfl

namespace Reading

theorem isSpace_of_mem_spaceBefore {lines : Option (List (List Char))} {before : Option Kind}
    {line : Option Nat} : ∀ t ∈ spaceBefore lines before line, t.isSpace = true := by
  intro t ht
  unfold spaceBefore spaceOf at ht
  split at ht
  · split at ht
    · cases ht
    · split at ht
      · cases ht
      · rw [List.mem_singleton.1 ht]
        rfl
  · cases ht

theorem spaceOf_inj {m n : Nat} : spaceOf m = spaceOf n ↔ m = n := by
  unfold spaceOf
  split <;> split <;> simp <;> omega

end Reading

section Spaced

variable {lines : List (List Char)} {bs : List Block} {k : Nat} {P Q : Block}

theorem pastBlock_spaceBefore {ls : Option (List (List Char))} {before : Option Kind}
    {line : Option Nat} {t : Token} (ht : t.isSpace = false) (ts : List Token) :
    pastBlock (Reading.spaceBefore ls before line ++ t :: ts) = ts := by
  rw [pastBlock, List.dropWhile_append_of_pos Reading.isSpace_of_mem_spaceBefore,
    List.dropWhile_cons_of_neg (by simp [ht]), List.drop_one, List.tail_cons]

/-- What stands before the first block of some is for the blank lines above it. -/
theorem takeWhile_spacedTokens {before : Option Kind} (h : (bs.filter Block.isShown)[0]? = some Q) :
    (spacedTokens (some lines) before bs).takeWhile Token.isSpace
      = Reading.spaceBefore (some lines) before (some Q.line) := by
  induction bs with
  | nil => cases h
  | cons b rest ih =>
    cases hb : b.token? with
    | none =>
      have hs := Block.token?_eq_none_iff.1 hb
      rw [List.filter_cons_of_neg (by simp [hs])] at h
      simp only [spacedTokens, hb]
      exact ih h
    | some t =>
      have hs := Block.isShown_of_token? hb
      rw [List.filter_cons_of_pos hs] at h
      obtain rfl : b = Q := Option.some.inj h
      simp only [spacedTokens, hb]
      rw [List.takeWhile_append_of_pos Reading.isSpace_of_mem_spaceBefore,
        List.takeWhile_cons_of_neg (by simp [Block.isSpace_of_token? hb]), List.append_nil]

/-- The gap between two blocks is for the blank lines above the second, unless they belong
    to the first. -/
theorem gapAfter_spacedTokens {before : Option Kind} (hP : (bs.filter Block.isShown)[k]? = some P)
    (hQ : (bs.filter Block.isShown)[k + 1]? = some Q) :
    gapAfter k (spacedTokens (some lines) before bs)
      = if P.takesBlanks then [] else Reading.spaceOf (Reading.blankAbove lines Q.line) := by
  induction bs generalizing k before with
  | nil => cases hP
  | cons b rest ih =>
    cases hb : b.token? with
    | none =>
      have hs := Block.token?_eq_none_iff.1 hb
      rw [List.filter_cons_of_neg (by simp [hs])] at hP hQ
      simp only [spacedTokens, hb]
      exact ih hP hQ
    | some t =>
      have hs := Block.isShown_of_token? hb
      rw [List.filter_cons_of_pos hs] at hP hQ
      simp only [spacedTokens, hb]
      cases k with
      | zero =>
        obtain rfl : b = P := Option.some.inj hP
        rw [gapAfter, pastBlock_spaceBefore (Block.isSpace_of_token? hb),
          takeWhile_spacedTokens hQ, ← Block.takesBlanks_kind hb]
        rfl
      | succ k =>
        rw [gapAfter, pastBlock_spaceBefore (Block.isSpace_of_token? hb)]
        exact ih hP hQ

/-- Without the tokens for blank lines, those of the blocks are left. -/
theorem filter_spacedTokens {ls : Option (List (List Char))} {before : Option Kind} :
    (spacedTokens ls before bs).filter (!·.isSpace) = blockTokens bs := by
  induction bs generalizing before with
  | nil => rfl
  | cons b rest ih =>
    cases hb : b.token? with
    | none => simp [spacedTokens, blockTokens, hb, ih]
    | some t =>
      have hspace : (Reading.spaceBefore ls before (some b.line)).filter (!·.isSpace) = [] :=
        List.filter_eq_nil_iff.2 fun t ht => by simp [Reading.isSpace_of_mem_spaceBefore t ht]
      simp [spacedTokens, blockTokens, hb, ih, hspace, Block.isSpace_of_token? hb]

end Spaced

/-! ## Lines -/

/-- The source lines of a text: it is cut at line feeds, at carriage returns and at pairs
    of both. -/
def textLines (text : List Char) : List (List Char) := (rawLines (unifyBreaks text)).map (·.1)

/-- The number of source lines of spaces and tabs right above a line. -/
def hollowAbove (text : List Char) (line : Nat) : Nat :=
  (((textLines text).take line).reverse.takeWhile fun l => l.all isSpace).length

/-- A text whose blanks are spaces, tabs and the ends of its source lines. -/
def IsPlain (text : List Char) : Prop :=
  ∀ c ∈ text, isBlank c = true → c = ' ' ∨ c = '\t' ∨ c = '\n' ∨ c = '\r'

theorem map_rawLines_cons {c : Char} (hc : c ≠ '\n') (cs : List Char) :
    (rawLines (c :: cs)).map (·.1) = consToFirst c ((rawLines cs).map (·.1)) := by
  rw [rawLines]
  · cases rawLines cs with
    | nil => rfl
    | cons l rest => rfl
  · exact hc

theorem mem_rawLines {cs : List Char} {l : List Char × Bool} {c : Char} (hl : l ∈ rawLines cs)
    (hc : c ∈ l.1) : c ∈ cs ∧ c ≠ '\n' := by
  fun_induction rawLines cs generalizing l with
  | case1 => cases hl
  | case2 cs ih =>
    rcases List.mem_cons.1 hl with rfl | hl
    · cases hc
    · exact ⟨List.mem_cons_of_mem _ (ih hl hc).1, (ih hl hc).2⟩
  | case3 d cs hd heq ih =>
    obtain rfl := List.mem_singleton.1 hl
    obtain rfl := List.mem_singleton.1 hc
    exact ⟨List.mem_cons_self, hd⟩
  | case4 d cs hd line ended rest heq ih =>
    rcases List.mem_cons.1 hl with rfl | hl
    · rcases List.mem_cons.1 hc with rfl | hc
      · exact ⟨List.mem_cons_self, hd⟩
      · have := ih (heq ▸ List.mem_cons_self) hc
        exact ⟨List.mem_cons_of_mem _ this.1, this.2⟩
    · have := ih (heq ▸ List.mem_cons_of_mem _ hl) hc
      exact ⟨List.mem_cons_of_mem _ this.1, this.2⟩

theorem mem_unifyBreaks {cs : List Char} {c : Char} (hc : c ∈ unifyBreaks cs) :
    c = '\n' ∨ c ∈ cs ∧ c ≠ '\r' := by
  fun_induction unifyBreaks cs with
  | case1 => cases hc
  | case2 cs ih =>
    rcases List.mem_cons.1 hc with rfl | hc
    · exact .inl rfl
    · exact (ih hc).imp_right fun h => ⟨by simp [h.1], h.2⟩
  | case3 cs _ ih =>
    rcases List.mem_cons.1 hc with rfl | hc
    · exact .inl rfl
    · exact (ih hc).imp_right fun h => ⟨by simp [h.1], h.2⟩
  | case4 d cs _ hd ih =>
    rcases List.mem_cons.1 hc with rfl | hc
    · exact .inr ⟨List.mem_cons_self, hd⟩
    · exact (ih hc).imp_right fun h => ⟨by simp [h.1], h.2⟩

/-- The characters of a source line are those of the text but for the ends of lines. -/
theorem mem_textLines {text l : List Char} {c : Char} (hl : l ∈ textLines text) (hc : c ∈ l) :
    c ∈ text ∧ c ≠ '\n' ∧ c ≠ '\r' := by
  obtain ⟨raw, hraw, rfl⟩ := List.mem_map.1 hl
  obtain ⟨hmem, hn⟩ := mem_rawLines hraw hc
  obtain ⟨ht, hr⟩ := (mem_unifyBreaks hmem).resolve_left hn
  exact ⟨ht, hn, hr⟩

/-- A text that only source lines break is shown as its source lines. -/
theorem visualLines_eq_textLines {text : List Char}
    (h : ∀ c ∈ text, isBreak c = true → c = '\n' ∨ c = '\r') :
    visualLines text = textLines text := by
  fun_induction visualLines text with
  | case1 => rfl
  | case2 cs ih =>
    have ih := ih fun c hc => h c (by simp [hc])
    rw [ih]
    rfl
  | case3 c cs hpair hbreak ih =>
    have ih := ih fun c hc => h c (by simp [hc])
    rw [ih]
    rcases h c List.mem_cons_self hbreak with rfl | rfl
    · rfl
    · rw [textLines, textLines, unifyBreaks]
      · rfl
      · exact fun cs' h => hpair cs' rfl h
  | case4 c cs hpair hbreak ih =>
    have ih := ih fun c hc => h c (by simp [hc])
    have hn : c ≠ '\n' := fun hc => hbreak (by rw [hc]; rfl)
    have hr : c ≠ '\r' := fun hc => hbreak (by rw [hc]; rfl)
    rw [ih, textLines, textLines, unifyBreaks, map_rawLines_cons hn]
    · exact fun cs' h => absurd h hr
    · exact hr

theorem isBlank_of_isBreak {c : Char} (h : isBreak c = true) : isBlank c = true := by
  unfold isBreak at h
  unfold isBlank
  grind

theorem takeWhile_congr {α : Type} {p q : α → Bool} {l : List α} (h : ∀ a ∈ l, p a = q a) :
    l.takeWhile p = l.takeWhile q := by
  induction l with
  | nil => rfl
  | cons a l ih =>
    rw [List.takeWhile_cons, List.takeWhile_cons, h a List.mem_cons_self,
      ih fun b hb => h b (List.mem_cons_of_mem a hb)]

namespace IsPlain

variable {text : List Char}

theorem visualLines_eq (h : IsPlain text) : visualLines text = textLines text := by
  refine visualLines_eq_textLines fun c hc hbreak => ?_
  rcases h c hc (isBlank_of_isBreak hbreak) with rfl | rfl | hc
  · cases hbreak
  · cases hbreak
  · exact hc

/-- In a plain text, a line is hollow when it holds spaces and tabs only. -/
theorem allBlank_eq (h : IsPlain text) {l : List Char} (hl : l ∈ textLines text) :
    allBlank l = l.all isSpace := by
  rw [allBlank, Bool.eq_iff_iff, List.all_eq_true, List.all_eq_true]
  constructor
  · intro hb c hc
    obtain ⟨hmem, hn, hr⟩ := mem_textLines hl hc
    rcases h c hmem (hb c hc) with rfl | rfl | rfl | rfl
    · rfl
    · rfl
    · exact absurd rfl hn
    · exact absurd rfl hr
  · intro hs c hc
    have := hs c hc
    simp only [isSpace, Bool.or_eq_true, beq_iff_eq] at this
    rcases this with rfl | rfl <;> rfl

/-- In a plain text, a display shows the blank lines that the source has. -/
theorem blankAbove_eq (h : IsPlain text) (line : Nat) :
    Reading.blankAbove (visualLines text) line = hollowAbove text line := by
  rw [Reading.blankAbove, hollowAbove, h.visualLines_eq]
  refine congrArg List.length (takeWhile_congr fun l hl => h.allBlank_eq ?_)
  exact List.mem_of_mem_take (List.mem_reverse.1 hl)

end IsPlain

/-! ## Texts -/

/-- Two blocks of a text with a number and the next one, front matter aside. -/
def AreAdjacent (text : List Char) (k : Nat) (P Q : Block) : Prop :=
  ((Block.ofText text).filter Block.isShown)[k]? = some P
    ∧ ((Block.ofText text).filter Block.isShown)[k + 1]? = some Q

/-- Between any two blocks, the first of which does not take blank lines, stands one token
    for the hollow source lines above the second, and none if there are none. -/
def IsSeparated (text : List Char) (tokens : List Token) : Prop :=
  ∀ k P Q, AreAdjacent text k P Q → P.takesBlanks = false →
    gapAfter k tokens = Reading.spaceOf (hollowAbove text Q.line)

theorem tokens_of_tokenize {text : List Char} {stream : Stream}
    (h : (tokenize text).1 = .ok stream) :
    stream.tokens = spacedTokens (some (visualLines text)) none (Block.ofText text) := by
  simp only [tokenize, tokensOf, Reading.stream_eq] at h
  split at h
  · exact (congrArg Stream.tokens (Except.ok.inj h)).symm
  · split at h
    · exact (congrArg Stream.tokens (Except.ok.inj h)).symm
    · cases h

/-- The blocks of a text have the tokens that are not for blank lines. -/
theorem filter_tokenize {text : List Char} {stream : Stream}
    (h : (tokenize text).1 = .ok stream) :
    stream.tokens.filter (!·.isSpace) = blockTokens (Block.ofText text) := by
  rw [tokens_of_tokenize h, filter_spacedTokens]

/-- Blank lines are counted among the lines of a display, up to that whose number is the
    source line's. -/
theorem gapAfter_tokenize {text : List Char} {stream : Stream} {k : Nat} {P Q : Block}
    (h : (tokenize text).1 = .ok stream) (hPQ : AreAdjacent text k P Q) :
    gapAfter k stream.tokens
      = if P.takesBlanks then []
        else Reading.spaceOf (Reading.blankAbove (visualLines text) Q.line) := by
  rw [tokens_of_tokenize h]
  exact gapAfter_spacedTokens hPQ.1 hPQ.2

/-- The gaps of a text are as long as its source shows them exactly where a display shows
    as many blank lines; it does so for every plain text. -/
theorem isSeparated_iff (text : List Char) (stream : Stream)
    (h : (tokenize text).1 = .ok stream) :
    (IsSeparated text stream.tokens ↔
      ∀ k P Q, AreAdjacent text k P Q → P.takesBlanks = false →
        Reading.blankAbove (visualLines text) Q.line = hollowAbove text Q.line)
    ∧ (IsPlain text → IsSeparated text stream.tokens) := by
  have hiff : IsSeparated text stream.tokens ↔
      ∀ k P Q, AreAdjacent text k P Q → P.takesBlanks = false →
        Reading.blankAbove (visualLines text) Q.line = hollowAbove text Q.line := by
    refine forall₄_congr fun k P Q hPQ => forall_congr' fun hP => ?_
    rw [gapAfter_tokenize h hPQ, hP, if_neg Bool.false_ne_true, Reading.spaceOf_inj]
  exact ⟨hiff, fun hplain => hiff.2 fun k P Q _ _ => hplain.blankAbove_eq Q.line⟩

/-- A blank line between two paragraphs has its token. -/
theorem isSeparated_paragraphs :
    IsSeparated "a\n\nb".toList [.paragraph "a", .space 1, .paragraph "b"] := by
  refine (isSeparated_iff "a\n\nb".toList ⟨[.paragraph "a", .space 1, .paragraph "b"], []⟩ rfl).2
    fun c hc hblank => ?_
  have hc : c = 'a' ∨ c = '\n' ∨ c = 'b' := by simpa using hc
  rcases hc with rfl | rfl | rfl
  · cases hblank
  · exact .inr (.inr (.inl rfl))
  · cases hblank

/-- A form feed in the first of two paragraphs hides the blank line between them. -/
theorem not_isSeparated_formFeed :
    ∃ stream, (tokenize "a\x0cb\n\nc".toList).1 = .ok stream
      ∧ ¬ IsSeparated "a\x0cb\n\nc".toList stream.tokens := by
  refine ⟨⟨[.paragraph "a\x0cb", .paragraph "c"], []⟩, rfl, fun h => ?_⟩
  have hgap : [] = [Token.space 1] := h 0 (.paragraph 0 "a\x0cb") (.paragraph 2 "c") ⟨rfl, rfl⟩ rfl
  exact List.cons_ne_nil _ _ hgap.symm

end Manuscript.Markdown
