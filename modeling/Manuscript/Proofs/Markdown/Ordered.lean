import Manuscript.Proofs.Markdown.Separation

/-!
# Where ordered lists start

An ordered list of a text is opened by a source line with decimal digits and a point or a
parenthesis after them (`OpensList`). The digits say where it starts, and so does its token
(`exists_token_of_list`), unless they write zero: such a list is recorded to start from one
(`recordedStart`).

* `opensList_of_mem`: what opens the ordered lists among the blocks of a text;
* `getElem?_textLines`: the lines that blocks are read from are those of the text.
-/

namespace Manuscript.Markdown

open Manuscript.Document Manuscript.Text

/-- A source line of a text opens an ordered list: after blanks stand decimal digits that
    write a number, with a point or a parenthesis after them. -/
def OpensList (text : List Char) (line n : Nat) : Prop :=
  ∃ blanks digits sign rest, (textLines text)[line]? = some (blanks ++ digits ++ sign :: rest)
    ∧ (∀ c ∈ blanks, isSpace c = true)
    ∧ digits ≠ [] ∧ (∀ d ∈ digits, d.isDigit = true) ∧ n = Nat.ofDigitChars 10 digits 0
    ∧ (sign = '.' ∨ sign = ')')

/-- Where a list is recorded to start whose first marker has a number. -/
def recordedStart (n : Nat) : Int := if n = 0 then 1 else n

theorem recordedStart_eq_iff {n : Nat} : recordedStart n = n ↔ n ≠ 0 := by
  unfold recordedStart
  split <;> omega

/-! ## Lines -/

/-- All lines but the last are ended. -/
theorem ended_of_mem_dropLast (cs : List Char) : ∀ l ∈ (rawLines cs).dropLast, l.2 = true := by
  fun_induction rawLines cs with
  | case1 => simp
  | case2 cs ih =>
    intro l hl
    cases hlines : rawLines cs with
    | nil => simp [hlines] at hl
    | cons first rest =>
      rw [hlines] at hl ih
      rw [List.dropLast_cons_cons] at hl
      rcases List.mem_cons.1 hl with rfl | hl
      · rfl
      · exact ih l hl
  | case3 c cs hc heq ih => simp
  | case4 c cs hc l ended rest heq ih =>
    -- The character joins the first line, which is the last one only if it stands alone.
    rw [heq] at ih
    cases rest with
    | nil => simp
    | cons second rest =>
      rw [List.dropLast_cons_cons] at ih ⊢
      obtain ⟨hfirst, hrest⟩ := List.forall_mem_cons.1 ih
      exact List.forall_mem_cons.2 ⟨hfirst, hrest⟩

/-- The lines that count are where they are among all lines. -/
theorem getElem?_of_filter_counts {cs : List Char} {i : Nat} {l : List Char × Bool}
    (h : ((rawLines cs).filter counts)[i]? = some l) : (rawLines cs)[i]? = some l := by
  have hended := ended_of_mem_dropLast cs
  rcases List.eq_nil_or_concat (rawLines cs) with hlines | ⟨before, last, hlines⟩
  · rw [hlines] at h
    cases h
  · rw [List.concat_eq_append] at hlines
    rw [hlines, List.dropLast_concat] at hended
    -- Only a line that is not ended may not count, and that is the last one.
    have hbefore : before.filter counts = before :=
      List.filter_eq_self.2 fun l hl => by simp [counts, hended l hl]
    rw [hlines, List.filter_append, hbefore] at h
    rw [hlines]
    rcases Nat.lt_or_ge i before.length with hi | hi
    · rw [List.getElem?_append_left hi] at h ⊢
      exact h
    · rw [List.getElem?_append_right hi] at h ⊢
      by_cases hlast : counts last = true
      · rwa [List.filter_cons_of_pos hlast, List.filter_nil] at h
      · rw [List.filter_cons_of_neg hlast, List.filter_nil] at h
        cases h

/-- A change of characters that keeps the ends of lines changes the lines. -/
theorem rawLines_map {f : Char → Char} (h : ∀ c, f c = '\n' ↔ c = '\n') (cs : List Char) :
    rawLines (cs.map f) = (rawLines cs).map fun l => (l.1.map f, l.2) := by
  have hf : f '\n' = '\n' := (h '\n').2 rfl
  fun_induction rawLines cs with
  | case1 => rfl
  | case2 cs ih =>
    rw [List.map_cons, hf, rawLines, ih]
    rfl
  | case3 c cs hc heq ih =>
    rw [List.map_cons, rawLines, ih, heq]
    · rfl
    · exact fun heq => hc ((h c).1 heq)
  | case4 c cs hc l ended rest heq ih =>
    rw [List.map_cons, rawLines, ih, heq]
    · rfl
    · exact fun heq => hc ((h c).1 heq)

/-- A character that stands for nothing replaced. -/
def filled (c : Char) : Char := if c = '\x00' then '\ufffd' else c

theorem filled_eq_iff {c d : Char} (hd : d ≠ '\ufffd') (hd' : d ≠ '\x00') : filled c = d ↔ c = d := by
  unfold filled
  split
  · next hc =>
    subst hc
    exact ⟨fun h => absurd h.symm hd, fun h => absurd h.symm hd'⟩
  · rfl

/-- Characters that are no replacements stand in the text itself. -/
theorem eq_of_map_filled {cs ds : List Char} (h : cs.map filled = ds)
    (hds : ∀ d ∈ ds, d ≠ '\ufffd' ∧ d ≠ '\x00') : cs = ds := by
  subst h
  induction cs with
  | nil => rfl
  | cons c cs ih =>
    obtain ⟨⟨hc, hc'⟩, hcs⟩ := List.forall_mem_cons.1 hds
    rw [List.map_cons, ← ih hcs]
    exact congrArg (· :: cs) ((filled_eq_iff hc hc').1 rfl)

/-- A line that blocks are read from is the one of the text with the same number, with a
    character in the place of each that stands for nothing. -/
theorem getElem?_textLines {text : List Char} {i : Nat} {l : Line}
    (h : (sourceLines (normalize text))[i]? = some l) :
    ∃ cs, (textLines text)[i]? = some cs ∧ cs.map filled = l.chars.takeWhile isSpace ++ l.ink := by
  rw [sourceLines, List.getElem?_map] at h
  obtain ⟨raw, hraw, rfl⟩ := Option.map_eq_some_iff.1 h
  have hbreak (c : Char) : filled c = '\n' ↔ c = '\n' := filled_eq_iff (by decide) (by decide)
  have hline : (rawLines ((unifyBreaks text).map filled))[i]? = some raw :=
    getElem?_of_filter_counts hraw
  rw [rawLines_map hbreak, List.getElem?_map] at hline
  obtain ⟨line, hsource, rfl⟩ := Option.map_eq_some_iff.1 hline
  refine ⟨line.1, ?_, ?_⟩
  · rw [textLines, List.getElem?_map, hsource]
    rfl
  · have hdrop (cs : List Char) : cs.drop (cs.takeWhile isSpace).length = cs.dropWhile isSpace := by
      have h : (cs.takeWhile isSpace ++ cs.dropWhile isSpace).drop (cs.takeWhile isSpace).length
          = cs.dropWhile isSpace := List.drop_left
      rwa [List.takeWhile_append_dropWhile] at h
    simp only [Line.ink, Line.ofChars, hdrop, List.takeWhile_append_dropWhile]

/-! ## Markers -/

/-- The marker of an item of an ordered list: the digits of its number and a sign. -/
theorem exists_of_marker? {ink : List Char} {m : Marker} {n : Nat} (h : marker? ink = some m)
    (hn : m.number = some n) :
    ∃ digits sign rest, ink = digits ++ sign :: rest ∧ digits ≠ []
      ∧ (∀ d ∈ digits, d.isDigit = true) ∧ n = Nat.ofDigitChars 10 digits 0
      ∧ (sign = '.' ∨ sign = ')') := by
  unfold marker? at h
  simp only at h
  split at h
  · next c rest hrest =>
    split at h
    · split at h
      · cases h
        cases hn
      · cases h
    · next hdigits =>
      split at h
      · next hmarker =>
        cases h
        obtain rfl := Option.some.inj hn
        simp only [Bool.and_eq_true, Bool.or_eq_true, beq_iff_eq] at hmarker
        refine ⟨ink.takeWhile Char.isDigit, c, rest, ?_, by simpa using hdigits, fun d hd => ?_, rfl,
          hmarker.1.2⟩
        · rw [← hrest, List.takeWhile_append_dropWhile]
        · exact List.all_eq_true.1 List.all_takeWhile d hd
      · cases h
  · cases h

/-- A line that blocks are read from and that has such a marker opens an ordered list. -/
theorem opensList_of_marker? {text : List Char} {line n : Nat} {l : Line} {m : Marker}
    (hline : (sourceLines (normalize text))[line]? = some l) (h : marker? l.ink = some m)
    (hn : m.number = some n) : OpensList text line n := by
  obtain ⟨digits, sign, rest, hink, hne, hdigits, hvalue, hsign⟩ := exists_of_marker? h hn
  obtain ⟨cs, hcs, hmap⟩ := getElem?_textLines hline
  have hblanks : ∀ c ∈ l.chars.takeWhile isSpace, isSpace c = true :=
    fun c hc => List.all_eq_true.1 List.all_takeWhile c hc
  -- Blanks, digits and signs replace nothing, so that they stand in the text itself.
  have hplain {p : Char → Bool} {d : Char} (hp : p '\ufffd' = false ∧ p '\x00' = false)
      (hd : p d = true) : d ≠ '\ufffd' ∧ d ≠ '\x00' :=
    ⟨fun heq => by simp [heq, hp.1] at hd, fun heq => by simp [heq, hp.2] at hd⟩
  have hkept : ∀ d ∈ l.chars.takeWhile isSpace ++ digits ++ [sign], d ≠ '\ufffd' ∧ d ≠ '\x00' := by
    refine List.forall_mem_append.2 ⟨List.forall_mem_append.2 ⟨?_, ?_⟩, ?_⟩
    · exact fun d hd => hplain (by decide) (hblanks d hd)
    · exact fun d hd => hplain (by decide) (hdigits d hd)
    · rw [List.forall_mem_singleton]
      rcases hsign with rfl | rfl <;> decide
  have hsplit : cs.map filled = l.chars.takeWhile isSpace ++ digits ++ [sign] ++ rest := by
    rw [hmap, hink]
    simp
  obtain ⟨before, after, rfl, hbefore, -⟩ := List.map_eq_append_iff.1 hsplit
  obtain rfl := eq_of_map_filled hbefore hkept
  refine ⟨l.chars.takeWhile isSpace, digits, sign, after, ?_, hblanks, hne, hdigits, hvalue, hsign⟩
  rw [hcs]
  simp

/-! ## Blocks -/

namespace Region

variable {nested : Reader} {r : Region}

/-- Each block of a region starts on a line of it. -/
theorem exists_of_mem_blocksFrom {stop fuel i : Nat} {b : Block}
    (h : b ∈ (blocksFrom nested r stop fuel i).1) :
    ∃ j, j < stop ∧ (blockAt nested r j stop).1 = some b := by
  induction fuel generalizing i with
  | zero => cases h
  | succ fuel ih =>
    rw [blocksFrom] at h
    split at h
    · cases h
    · simp only at h
      split at h
      · cases h
      · next hstop =>
        split at h
        · cases h
        · rcases List.mem_append.1 h with h | h
          · refine ⟨_, ?_, Option.mem_toList.1 h⟩
            simp only [Bool.or_eq_true, decide_eq_true_eq, not_or] at hstop
            omega
          · exact ih h

theorem eq_frontMatter {i stop last : Nat} {b : Block} (h : r.frontMatterAt? i stop = some (b, last)) :
    ∃ text, b = .frontMatter 0 text := by
  simp only [frontMatterAt?] at h
  split at h
  · cases h
  · obtain ⟨_, _, heq⟩ := Option.map_eq_some_iff.1 h
    exact ⟨_, (Prod.mk.inj heq).1.symm⟩

/-- A list starts on a line with a marker, and has the items that are read from there on. -/
theorem exists_of_blockAt {i stop line : Nat} {start : Option Nat} {items : List (List Block)}
    (h : (blockAt nested r i stop).1 = some (.list line start items)) :
    ∃ m, r.listAt? i = some m ∧ line = i ∧ start = m.number
      ∧ items = (itemsFrom nested r stop (r.limit + stop - i) m i).1 := by
  unfold blockAt at h
  simp only at h
  split at h
  · next hdata =>
    obtain ⟨text, rfl⟩ := eq_frontMatter hdata
    cases h
  -- The kinds that are tried before lists: tables, code, quotes and thematic breaks.
  iterate 5
    split at h
    · cases h
  split at h
  · next m hm =>
    cases h
    exact ⟨m, hm, rfl, rfl, rfl⟩
  · repeat' split at h
    all_goals cases h

/-- A list has an item on the line of its first marker. -/
theorem itemsFrom_ne_nil {stop fuel i : Nat} (m : Marker) (h : 0 < fuel) :
    (itemsFrom nested r stop fuel m i).1 ≠ [] := by
  obtain ⟨fuel, rfl⟩ : ∃ rest, fuel = rest + 1 := ⟨fuel - 1, by omega⟩
  rw [itemsFrom]
  simp only
  split <;> exact List.cons_ne_nil _ _

end Region

/-- An ordered list of a text is opened by the digits of its number, and has an item. -/
theorem opensList_of_mem {text : List Char} {line n : Nat} {items : List (List Block)}
    (h : .list line (some n) items ∈ Block.ofText text) : OpensList text line n ∧ items ≠ [] := by
  obtain ⟨j, hj, hb⟩ := Region.exists_of_mem_blocksFrom h
  obtain ⟨m, hm, rfl, hn, rfl⟩ := Region.exists_of_blockAt hb
  refine ⟨?_, Region.itemsFrom_ne_nil m (by simp only; omega)⟩
  have hline := List.getElem?_eq_getElem hj
  refine opensList_of_marker? hline (m := m) ?_ hn.symm
  unfold Region.listAt? at hm
  simp only at hm
  split at hm
  · cases hm
  · rwa [Region.line, Array.getD_eq_getD_getElem?, List.getElem?_toArray, hline] at hm

/-- The event that opens a list tells its number, unless that is one. -/
theorem exists_of_opening {b : Block} {line n : Nat}
    (h : b.opening = .enter .orderedList line 0 (some n) none) :
    ∃ items, b = .list line (some n) items := by
  cases b with
  | list l start items =>
    cases start with
    | none => cases h
    | some m =>
      simp only [Block.opening, Event.enter.injEq, and_true, true_and] at h
      obtain ⟨rfl, hm⟩ := h
      split at hm
      · cases hm
      · obtain rfl := Option.some.inj hm
        exact ⟨items, rfl⟩
  | _ => cases h

/-! ## Tokens -/

/-- The token at a place is that of the block with a number, blank lines aside. -/
def IsTokenOf (tokens : List Token) (k j : Nat) (t : Token) : Prop :=
  tokens[j]? = some t ∧ t.isSpace = false ∧ (tokens.take j).countP (!·.isSpace) = k

/-- The members of a list that have a property are found in the list, after as many others
    that have it. -/
theorem exists_of_getElem?_filter {α : Type} {p : α → Bool} {l : List α} {k : Nat} {a : α}
    (h : (l.filter p)[k]? = some a) :
    ∃ j, l[j]? = some a ∧ p a = true ∧ (l.take j).countP p = k := by
  induction l generalizing k with
  | nil => cases h
  | cons b l ih =>
    by_cases hb : p b = true
    · rw [List.filter_cons_of_pos hb] at h
      cases k with
      | zero =>
        obtain rfl := Option.some.inj h
        exact ⟨0, rfl, hb, rfl⟩
      | succ k =>
        obtain ⟨j, hj, ha, hcount⟩ := ih h
        exact ⟨j + 1, hj, ha, by rw [List.take_succ_cons, List.countP_cons_of_pos hb, hcount]⟩
    · rw [List.filter_cons_of_neg hb] at h
      obtain ⟨j, hj, ha, hcount⟩ := ih h
      exact ⟨j + 1, hj, ha, by rw [List.take_succ_cons, List.countP_cons_of_neg hb, hcount]⟩

/-- An ordered list of a text has a token, which records where it starts. -/
theorem exists_token_of_list {text : List Char} {stream : Stream} {k line n : Nat}
    {items : List (List Block)} (h : (tokenize text).1 = .ok stream)
    (hk : ((Block.ofText text).filter Block.isShown)[k]? = some (.list line (some n) items)) :
    ∃ j, IsTokenOf stream.tokens k j (.list true (itemTexts items) (recordedStart n)) := by
  have htokens := congrArg (·[k]?) (map_some_blockTokens (Block.ofText text))
  simp only [List.getElem?_map, hk, ← filter_tokenize h, Option.map_some, Block.token?] at htokens
  obtain ⟨t, ht, heq⟩ := Option.map_eq_some_iff.1 htokens
  obtain rfl := Option.some.inj heq
  obtain ⟨j, hj, hspace, hcount⟩ := exists_of_getElem?_filter ht
  exact ⟨j, hj, rfl, hcount⟩

end Manuscript.Markdown
