import Manuscript.Proofs.Markdown.Separation

/-!
# Ends of lines

A text may end its lines by line feeds, by carriage returns or by pairs of both. Its blocks
are read from its normalized form, but blank lines are counted in the text as it stands, on
the lines of a display. The two agree about ends of lines all the same: a display breaks a
text where it breaks the normalized one (`visualLines_unifyBreaks`), so that texts which
differ in the ends of their lines only have the same tokens.

* `tokenize_unifyBreaks`: a text has the tokens of its normalized form;
* `tokenize_withBreaks`: every line feed may be written as a pair, or as a carriage return.
-/

namespace Manuscript.Markdown

open Manuscript.Text

/-! ## Normalized texts -/

variable {text : List Char}

theorem unifyBreaks_cons_of_ne {c : Char} (hc : c ≠ '\r') (rest : List Char) :
    unifyBreaks (c :: rest) = c :: unifyBreaks rest := by
  rw [unifyBreaks]
  · exact fun _ hpair => absurd hpair hc
  · exact fun hc' => absurd hc' hc

theorem unifyBreaks_of_not_mem (h : '\r' ∉ text) : unifyBreaks text = text := by
  induction text with
  | nil => rfl
  | cons c rest ih =>
    obtain ⟨hc, hrest⟩ := List.ne_and_not_mem_of_not_mem_cons h
    rw [unifyBreaks_cons_of_ne hc.symm, ih hrest]

theorem unifyBreaks_unifyBreaks (text : List Char) :
    unifyBreaks (unifyBreaks text) = unifyBreaks text := by
  refine unifyBreaks_of_not_mem fun hmem => ?_
  rcases mem_unifyBreaks hmem with h | ⟨-, h⟩
  · exact absurd h (by decide)
  · exact h rfl

/-- A display breaks a text and its normalized form into the same lines. -/
theorem visualLines_unifyBreaks (text : List Char) :
    visualLines (unifyBreaks text) = visualLines text := by
  have hfeed : isBreak '\n' = true := rfl
  have hreturn : isBreak '\r' = true := rfl
  fun_induction unifyBreaks text with
  | case1 => rfl
  | case2 rest ih =>
    -- A pair is one break, like the line feed in its place.
    rw [visualLines, visualLines, ih, if_pos hfeed]
    exact fun _ h => absurd h (by decide)
  | case3 rest hpair ih =>
    rw [visualLines, visualLines, ih, if_pos hfeed, if_pos hreturn]
    · exact fun rest' _ => hpair rest'
    · exact fun _ h => absurd h (by decide)
  | case4 c rest hpair hc ih =>
    rw [visualLines, visualLines, ih]
    · exact hpair
    · exact fun _ h => absurd h hc

/-- A text has the tokens of its normalized form, and the same front matter, fault and
    notices. -/
theorem tokenize_unifyBreaks (text : List Char) : tokenize (unifyBreaks text) = tokenize text := by
  have hnormal : normalize (unifyBreaks text) = normalize text := by
    rw [normalize, unifyBreaks_unifyBreaks, normalize]
  rw [tokenize, tokenize, Block.ofText, hnormal, visualLines_unifyBreaks, Block.ofText]

/-! ## Texts with other ends of lines -/

/-- A text with something else in the place of each line feed. -/
def withBreaks (lineEnd text : List Char) : List Char :=
  text.flatMap fun c => if c = '\n' then lineEnd else [c]

theorem withBreaks_cons (lineEnd : List Char) (c : Char) (rest : List Char) :
    withBreaks lineEnd (c :: rest)
      = (if c = '\n' then lineEnd else [c]) ++ withBreaks lineEnd rest :=
  List.flatMap_cons

/-- No line feed is left where all are replaced. -/
theorem not_mem_withBreaks {lineEnd : List Char} (h : '\n' ∉ lineEnd) (text : List Char) :
    '\n' ∉ withBreaks lineEnd text := by
  intro hmem
  obtain ⟨c, -, hc⟩ := List.mem_flatMap.1 hmem
  split at hc
  · exact h hc
  · next hne => exact hne (List.mem_singleton.1 hc).symm

theorem unifyBreaks_withPairs (h : '\r' ∉ text) :
    unifyBreaks (withBreaks ['\r', '\n'] text) = text := by
  induction text with
  | nil => rfl
  | cons c rest ih =>
    obtain ⟨hc, hrest⟩ := List.ne_and_not_mem_of_not_mem_cons h
    rw [withBreaks_cons]
    split
    · next heq =>
      rw [List.cons_append, List.singleton_append, unifyBreaks, ih hrest, heq]
    · rw [List.singleton_append, unifyBreaks_cons_of_ne hc.symm, ih hrest]

theorem unifyBreaks_withReturns (h : '\r' ∉ text) :
    unifyBreaks (withBreaks ['\r'] text) = text := by
  induction text with
  | nil => rfl
  | cons c rest ih =>
    obtain ⟨hc, hrest⟩ := List.ne_and_not_mem_of_not_mem_cons h
    rw [withBreaks_cons]
    split
    · next heq =>
      rw [List.singleton_append, unifyBreaks, ih hrest, heq]
      -- No carriage return has become part of a pair: there is no line feed behind it.
      intro rest' hpair
      have hmem : '\n' ∈ withBreaks ['\r'] rest := by rw [hpair]; exact List.mem_cons_self
      exact not_mem_withBreaks (by decide) rest hmem
    · rw [List.singleton_append, unifyBreaks_cons_of_ne hc.symm, ih hrest]

/-- The ends of the lines of a text do not matter: with pairs or with carriage returns in the
    place of its line feeds, it has the same tokens, the counts of blank lines among them, and
    the same front matter, or the same fault. -/
theorem tokenize_withBreaks (text : List Char) (h : '\r' ∉ text) :
    tokenize (withBreaks ['\r', '\n'] text) = tokenize text
      ∧ tokenize (withBreaks ['\r'] text) = tokenize text := by
  constructor
  · rw [← tokenize_unifyBreaks, unifyBreaks_withPairs h]
  · rw [← tokenize_unifyBreaks, unifyBreaks_withReturns h]

/-- Two paragraphs with two blank lines between them, and nothing after the last line. -/
theorem tokenize_withBreaks_paragraphs :
    '\r' ∉ "a\n\n\nb".toList
      ∧ tokenize "a\r\n\r\n\r\nb".toList = tokenize "a\n\n\nb".toList
      ∧ tokenize "a\r\r\rb".toList = tokenize "a\n\n\nb".toList :=
  ⟨by decide, tokenize_withBreaks "a\n\n\nb".toList (by decide)⟩

end Manuscript.Markdown
