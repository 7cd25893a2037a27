import Manuscript.Proofs.Markdown.Breaks
import Manuscript.Proofs.Style.Refusal

/-!
# Front matter and files of overrides

A YAML text is read in two places: as the front matter of a document, and as a file that
overrides the style. Both take a mapping and nothing, and should refuse every other value
(`IsStrict`). They look at a value only where it counts as true, so that zero, false and what
is empty pass for nothing, too; and the metadata of a document is lost where a key of it cannot
be shown.

* `hasFrontMatter_framed`: each text in a frame of hyphens is the front matter of a document,
  unless a line of it ends the frame;
* `isStrict_iff`: the values for which both places do as they should.
-/

namespace Manuscript.Markdown

open Manuscript.Text

/-! ## Framed lines -/

/-- A document starts with front matter, which is a text. -/
def HasFrontMatter (doc : List Char) (text : String) : Prop :=
  frontMatterOf (Event.ofBlocks (Block.ofText doc)) = some text

/-- Some lines, each with its end, and what follows them. -/
def withLines (lines : List (List Char)) (rest : List Char) : List Char :=
  lines.foldr (fun l rest => l ++ '\n' :: rest) rest

/-- A line of hyphens, as it opens and ends front matter. -/
def hyphens : List Char := ['-', '-', '-']

/-- Some lines in a frame of hyphens, and what follows the frame. -/
def framed (lines : List (List Char)) (rest : List Char) : List Char :=
  withLines (hyphens :: lines ++ [hyphens]) rest

/-- A line of a text that is read as it stands. -/
def IsLine (l : List Char) : Prop := '\n' ∉ l ∧ '\r' ∉ l ∧ '\x00' ∉ l

/-- Whether a line ends front matter that three hyphens opened. -/
def endsFrame (l : Line) : Bool :=
  let length := (l.ink.takeWhile (· == '-')).length
  Region.isPoints l || (!l.isCode 0 && length ≥ 3 && (l.ink.drop length).all isSpace)

theorem unifyBreaks_append {cs : List Char} (h : '\r' ∉ cs) (rest : List Char) :
    unifyBreaks (cs ++ rest) = cs ++ unifyBreaks rest := by
  induction cs with
  | nil => rfl
  | cons c cs ih =>
    obtain ⟨hc, hcs⟩ := List.ne_and_not_mem_of_not_mem_cons h
    rw [List.cons_append, unifyBreaks_cons_of_ne hc.symm, ih hcs, List.cons_append]

theorem normalize_append {cs : List Char} (hr : '\r' ∉ cs) (h0 : '\x00' ∉ cs) (rest : List Char) :
    normalize (cs ++ rest) = cs ++ normalize rest := by
  rw [normalize, unifyBreaks_append hr, List.map_append, normalize]
  refine congrArg (· ++ _) ((List.map_congr_left fun c hc => ?_).trans (List.map_id cs))
  exact if_neg (ne_of_mem_of_not_mem hc h0)

theorem rawLines_append {l : List Char} (h : '\n' ∉ l) (rest : List Char) :
    rawLines (l ++ '\n' :: rest) = (l, true) :: rawLines rest := by
  induction l with
  | nil => rfl
  | cons c l ih =>
    obtain ⟨hc, hl⟩ := List.ne_and_not_mem_of_not_mem_cons h
    rw [List.cons_append, rawLines, ih hl]
    exact fun h => hc h.symm

theorem sourceLines_line {l : List Char} (h : IsLine l) (rest : List Char) :
    sourceLines (normalize (l ++ '\n' :: rest))
      = Line.ofChars l true :: sourceLines (normalize rest) := by
  obtain ⟨hn, hr, h0⟩ := h
  have hfeed : normalize ('\n' :: rest) = '\n' :: normalize rest :=
    normalize_append (show '\r' ∉ ['\n'] by decide) (by decide) rest
  rw [normalize_append hr h0, hfeed, sourceLines, rawLines_append hn,
    List.filter_cons_of_pos (by rfl), List.map_cons, sourceLines]

theorem sourceLines_withLines {lines : List (List Char)} (h : ∀ l ∈ lines, IsLine l)
    (rest : List Char) :
    sourceLines (normalize (withLines lines rest))
      = lines.map (Line.ofChars · true) ++ sourceLines (normalize rest) := by
  induction lines with
  | nil => rfl
  | cons l lines ih =>
    obtain ⟨hl, hlines⟩ := List.forall_mem_cons.1 h
    rw [withLines, List.foldr_cons, sourceLines_line hl, ← withLines, ih hlines, List.map_cons,
      List.cons_append]

/-! ## The end of the frame -/

namespace Region

variable {r : Region} {length stop k : Nat}

/-- Front matter goes on up to the first line that ends it. -/
theorem frontMatterEnd?_eq {fuel i : Nat} (hi : i ≤ k) (hk : k < stop) (hfuel : k < fuel + i)
    (hmargin : ∀ j, r.isOutdented j = false)
    (hopen : ∀ j, i ≤ j → j < k → isPoints (r.line j) = false ∧ r.isClosingRule length j = false)
    (hpoints : isPoints (r.line k) = false) (hclose : r.isClosingRule length k = true) :
    r.frontMatterEnd? length stop fuel i = some (k, k + 1) := by
  induction fuel generalizing i with
  | zero => omega
  | succ fuel ih =>
    rw [frontMatterEnd?, if_neg (by omega), hmargin, Bool.false_and, if_neg Bool.false_ne_true]
    rcases Nat.eq_or_lt_of_le hi with rfl | hlt
    · rw [hpoints, hclose]
      rfl
    · obtain ⟨h1, h2⟩ := hopen i (Nat.le_refl i) hlt
      rw [h1, h2]
      exact ih hlt (by omega) fun j hj => hopen j (by omega)

theorem endsFrame_line (h : r.indent = 0) (i : Nat) :
    endsFrame (r.line i) = (isPoints (r.line i) || r.isClosingRule 3 i) := by
  rw [endsFrame, isClosingRule, isCode, h]

/-- Front matter is tried before all other kinds of blocks. -/
theorem blocks_of_frontMatterAt? {last : Nat} {b : Block}
    (h : r.frontMatterAt? 0 stop = some (b, last)) (hstop : 0 < stop)
    (hempty : r.isEmpty 0 = false) (hmargin : r.isOutdented 0 = false)
    (hlevel : r.level < maxLevel) : ∃ after, (r.blocks 0 stop).1 = b :: after := by
  have hblock : blockAt (blocksWithin maxLevel) r 0 stop = (some b, last) := by
    unfold blockAt
    rw [h]
  have hskip (fuel : Nat) : r.skipEmpty fuel 0 = 0 := by
    cases fuel with
    | zero => rfl
    | succ fuel => rw [skipEmpty, hempty, Bool.and_false, if_neg Bool.false_ne_true]
  rw [blocks, blocksWithin, blocksFrom, if_neg (by omega)]
  simp only [hskip, hmargin, Bool.or_false, hblock]
  rw [if_neg (by simp only [decide_eq_true_eq]; omega), if_neg (by omega)]
  exact ⟨_, rfl⟩

end Region

/-- Each line that is not in a container starts at a column of the text. -/
theorem width_ofChars_nonneg (l : List Char) (ended : Bool) : 0 ≤ (Line.ofChars l ended).width :=
  Int.natCast_nonneg _

theorem getD_map_getElem? {lines : List (List Char)} {rest : List Line} {i : Nat} {l : List Char}
    (h : lines[i]? = some l) :
    (lines.map (Line.ofChars · true) ++ rest).toArray.getD i Line.nowhere
      = Line.ofChars l true := by
  have hi := (List.getElem?_eq_some_iff.1 h).1
  rw [Array.getD_eq_getD_getElem?, List.getElem?_toArray,
    List.getElem?_append_left (by rwa [List.length_map]), List.getElem?_map, h]
  rfl

/-- A line that may stand in front matter that three hyphens opened. -/
def IsData (l : List Char) : Prop := IsLine l ∧ endsFrame (Line.ofChars l true) = false

/-- The region of a document that starts with a frame. -/
def framedRegion (lines : List (List Char)) (rest : List Line) : Region :=
  let all := (hyphens :: lines ++ [hyphens]).map (Line.ofChars · true) ++ rest
  ⟨all.toArray, all.length, 0, none, 0, true⟩

section Framed

variable {lines : List (List Char)} {rest : List Line}

theorem line_framedRegion {i : Nat} {l : List Char}
    (h : (hyphens :: lines ++ [hyphens])[i]? = some l) :
    (framedRegion lines rest).line i = Line.ofChars l true :=
  getD_map_getElem? h

theorem line_framedRegion_data {i : Nat} (h : i < lines.length) :
    (framedRegion lines rest).line (i + 1) = Line.ofChars lines[i] true := by
  refine line_framedRegion ?_
  rw [List.cons_append, List.getElem?_cons_succ, List.getElem?_append_left h,
    List.getElem?_eq_getElem h]

theorem line_framedRegion_last :
    (framedRegion lines rest).line (lines.length + 1) = Line.ofChars hyphens true := by
  refine line_framedRegion ?_
  rw [List.cons_append, List.getElem?_cons_succ, List.getElem?_concat_length]

theorem isOutdented_framedRegion (i : Nat) (hrest : ∀ l ∈ rest, 0 ≤ l.width) :
    (framedRegion lines rest).isOutdented i = false := by
  refine decide_eq_false (Int.not_lt.2 ?_)
  rw [Region.line, Array.getD_eq_getD_getElem?, framedRegion, List.getElem?_toArray]
  cases hline : ((hyphens :: lines ++ [hyphens]).map (Line.ofChars · true) ++ rest)[i]? with
  | none => exact Int.le_refl 0
  | some l =>
    rcases List.mem_append.1 (List.mem_of_getElem? hline) with hl | hl
    · obtain ⟨cs, -, rfl⟩ := List.mem_map.1 hl
      exact width_ofChars_nonneg cs true
    · exact hrest l hl

/-- The frame is front matter, and its lines are the data. -/
theorem frontMatterAt?_framedRegion (h : ∀ l ∈ lines, IsData l) (hrest : ∀ l ∈ rest, 0 ≤ l.width) :
    (framedRegion lines rest).frontMatterAt? 0 (framedRegion lines rest).limit
      = some (.frontMatter 0 (String.ofList (['\n'].intercalate lines)), lines.length + 2) := by
  have hend : (framedRegion lines rest).frontMatterEnd? 3 (framedRegion lines rest).limit
      (framedRegion lines rest).limit 1 = some (lines.length + 1, lines.length + 2) := by
    have hlimit : lines.length + 1 < (framedRegion lines rest).limit := by
      simp only [framedRegion, List.length_append, List.length_map, List.length_cons,
        List.length_nil]
      omega
    refine Region.frontMatterEnd?_eq (by omega) hlimit (by omega)
      (fun j => isOutdented_framedRegion j hrest) (fun j hj hlast => ?_) ?_ ?_
    · obtain ⟨j, rfl⟩ : ∃ i, j = i + 1 := ⟨j - 1, by omega⟩
      have hj : j < lines.length := by omega
      have hline : (framedRegion lines rest).line (j + 1) = Line.ofChars lines[j] true :=
        line_framedRegion_data hj
      have hopen := (h _ (List.getElem_mem hj)).2
      rw [← hline, Region.endsFrame_line rfl, Bool.or_eq_false_iff] at hopen
      exact hopen
    · rw [line_framedRegion_last]
      decide
    · have hclose := Region.endsFrame_line (r := framedRegion lines rest) rfl (lines.length + 1)
      have hpoints : Region.isPoints (Line.ofChars hyphens true) = false := by decide
      rw [line_framedRegion_last, hpoints, Bool.false_or] at hclose
      rw [← hclose]
      decide
  have hdata : (List.range' 1 lines.length).map (fun n => ((framedRegion lines rest).line n).chars)
      = lines := by
    refine List.ext_getElem (by rw [List.length_map, List.length_range']) fun i hi hlines => ?_
    rw [List.getElem_map, List.getElem_range', Nat.one_mul, Nat.add_comm,
      line_framedRegion_data hlines]
    rfl
  have hfirst : (framedRegion lines rest).line 0 = Line.ofChars hyphens true :=
    line_framedRegion rfl
  have hlength : ((Line.ofChars hyphens true).ink.takeWhile (· == '-')).length = 3 := by decide
  rw [Region.frontMatterAt?]
  dsimp only
  rw [hfirst, hlength, hend, if_neg (by exact Bool.false_ne_true), Option.map_some]
  simp only [Nat.add_sub_cancel, hdata]

end Framed

/-- A document that starts with a frame has its lines as front matter. -/
theorem hasFrontMatter_framed {lines : List (List Char)} (h : ∀ l ∈ lines, IsData l)
    (rest : List Char) :
    HasFrontMatter (framed lines rest) (String.ofList (['\n'].intercalate lines)) := by
  have hlines : ∀ l ∈ hyphens :: lines ++ [hyphens], IsLine l := by
    have hhyphens : IsLine hyphens := ⟨by decide, by decide, by decide⟩
    refine List.forall_mem_append.2 ⟨List.forall_mem_cons.2 ⟨hhyphens, fun l hl => (h l hl).1⟩, ?_⟩
    exact List.forall_mem_singleton.2 hhyphens
  have hrest : ∀ l ∈ sourceLines (normalize rest), 0 ≤ l.width := by
    intro l hl
    obtain ⟨raw, -, rfl⟩ := List.mem_map.1 hl
    exact width_ofChars_nonneg _ _
  obtain ⟨after, hblocks⟩ := Region.blocks_of_frontMatterAt? (frontMatterAt?_framedRegion h hrest)
    (Nat.succ_pos _) rfl (isOutdented_framedRegion 0 hrest) (show 0 < maxLevel by decide)
  -- No line of the frame changes in the normal form, so they are the first of the document.
  have htext : Block.ofText (framed lines rest)
      = ((framedRegion lines (sourceLines (normalize rest))).blocks 0
          (framedRegion lines (sourceLines (normalize rest))).limit).1 := by
    rw [Block.ofText, framed, sourceLines_withLines hlines]
    rfl
  rw [HasFrontMatter, htext, hblocks]
  rfl

/-! ## Values -/

/-- The metadata of a document, or why it is not taken. -/
def metadataOf (doc : List Char) : Except Failure Value.Entries :=
  (tokenize doc).1.map Stream.metadata

/-- A document and a file with one value in them are read as they should: what is neither
    nothing nor a mapping is refused in both, nothing and an empty mapping leave the metadata
    empty and the style as it is, and a mapping is the metadata and overrides the style. -/
structure IsStrict (doc : List Char) (file : String) (v : Value) : Prop where
  refused : v ≠ .null → (∀ entries, v ≠ .map entries) →
    metadataOf doc = .error .notMapping ∧ Style.ofYaml file = .error .notMapping
      ∧ Style.ofValue v = .error .notMapping
  empty : v = .null ∨ v = .map [] →
    metadataOf doc = .ok [] ∧ Style.ofYaml file = .ok Style.Config.standard
  taken : ∀ entries, v = .map entries →
    metadataOf doc = .ok entries ∧ Style.ofYaml file = Style.ofValue v

variable {doc : List Char} {text file : String} {v : Value}

theorem metadataOf_of_hasFrontMatter (h : HasFrontMatter doc text) :
    metadataOf doc = readFrontMatter text := by
  unfold metadataOf tokenize
  dsimp only
  rw [show frontMatterOf (Event.ofBlocks (Block.ofText doc)) = some text from h]
  dsimp only
  cases readFrontMatter text <;> rfl

/-- The metadata is what its value makes of it. -/
theorem metadataOf_eq (hdoc : HasFrontMatter doc text) (hload : Yaml.load? text = .ok v) :
    metadataOf doc = dataOf v := by
  rw [metadataOf_of_hasFrontMatter hdoc, readFrontMatter, hload]

theorem dataOf_map (entries : Value.Entries) :
    dataOf (.map entries)
      = if entries.all fun e => e.1.isWritable then .ok entries else .error .unwritableKey :=
  rfl

theorem dataOf_of_not_map (h : ∀ entries, v ≠ .map entries) :
    dataOf v = if v.isTruthy then .error .notMapping else .ok [] := by
  cases v with
  | map entries => exact absurd rfl (h entries)
  | _ => rfl

theorem ofYaml_eq (hfile : String.ofList (unifyBreaks file.toList) = text)
    (hload : Yaml.load? text = .ok v) :
    Style.ofYaml file = if v.isTruthy then Style.ofValue v else Style.ofValue (.map []) := by
  rw [Style.ofYaml, hfile, hload]

/-- Mappings are read as they should if their keys can be shown. -/
theorem isStrict_map_iff {entries : Value.Entries} (hdoc : HasFrontMatter doc text)
    (hfile : String.ofList (unifyBreaks file.toList) = text)
    (hload : Yaml.load? text = .ok (.map entries)) :
    IsStrict doc file (.map entries) ↔ ∀ e ∈ entries, e.1.isWritable = true := by
  have hmetadata := metadataOf_eq hdoc hload
  have hstyle : Style.ofYaml file = Style.ofValue (.map entries) := by
    rw [ofYaml_eq hfile hload]
    cases entries <;> rfl
  rw [dataOf_map] at hmetadata
  constructor
  · intro h
    rw [(h.taken entries rfl).1] at hmetadata
    split at hmetadata
    · next hall => exact List.all_eq_true.1 hall
    · cases hmetadata
  · intro h
    rw [if_pos (List.all_eq_true.2 h)] at hmetadata
    refine ⟨fun _ hmap => absurd rfl (hmap entries), ?_, ?_⟩
    · rintro (hnull | hnil)
      · cases hnull
      · rw [hmetadata, hstyle, Value.map.inj hnil]
        exact ⟨rfl, Style.ofValue_nil⟩
    · intro _ heq
      obtain rfl := Value.map.inj heq
      exact ⟨hmetadata, hstyle⟩

/-- Other values are read as they should if they count as true or are nothing. -/
theorem isStrict_other_iff (hmap : ∀ entries, v ≠ .map entries) (hdoc : HasFrontMatter doc text)
    (hfile : String.ofList (unifyBreaks file.toList) = text) (hload : Yaml.load? text = .ok v) :
    IsStrict doc file v ↔ v.isTruthy = true ∨ v = .null := by
  have hmetadata := metadataOf_eq hdoc hload
  have hstyle := ofYaml_eq hfile hload
  have hvalue := Style.ofValue_of_not_map hmap
  rw [dataOf_of_not_map hmap] at hmetadata
  constructor
  · intro h
    by_cases hnull : v = .null
    · exact .inr hnull
    -- A refusal is due, which comes only for what counts as true.
    · rw [(h.refused hnull hmap).1] at hmetadata
      split at hmetadata
      · next htruthy => exact .inl htruthy
      · cases hmetadata
  · intro h
    refine ⟨fun hnull _ => ?_, fun hempty => ?_, fun entries heq => absurd heq (hmap entries)⟩
    · have htruthy := h.resolve_right hnull
      rw [if_pos htruthy] at hmetadata hstyle
      exact ⟨hmetadata, hstyle.trans hvalue, hvalue⟩
    · obtain rfl := hempty.resolve_right (hmap [])
      exact ⟨hmetadata, hstyle.trans Style.ofValue_nil⟩

/-- A YAML text is read as it should, as the front matter of a document and as a file that
    overrides the style, exactly where its value counts as true or is nothing or a mapping, and
    where the keys of a mapping can be shown. -/
theorem isStrict_iff (hdoc : HasFrontMatter doc text)
    (hfile : String.ofList (unifyBreaks file.toList) = text) (hload : Yaml.load? text = .ok v) :
    IsStrict doc file v
      ↔ (v.isTruthy = true ∨ v = .null ∨ ∃ entries, v = .map entries)
        ∧ ∀ entries, v = .map entries → ∀ e ∈ entries, e.1.isWritable = true := by
  by_cases hmap : ∃ entries, v = .map entries
  · obtain ⟨entries, rfl⟩ := hmap
    rw [isStrict_map_iff hdoc hfile hload]
    simp only [Value.map.injEq, forall_eq', exists_eq', or_true, true_and]
  · push Not at hmap
    rw [isStrict_other_iff hmap hdoc hfile hload]
    have hnone : ¬ ∃ entries, v = .map entries := fun ⟨entries, h⟩ => hmap entries h
    rw [or_iff_left hnone]
    exact (and_iff_left fun entries h => absurd h (hmap entries)).symm

/-- A list with a member is refused, in a document and in a file. -/
theorem isStrict_list :
    HasFrontMatter "---\n[x]\n---\n".toList "[x]" ∧ Yaml.load? "[x]" = .ok (.list [.text "x"])
      ∧ IsStrict "---\n[x]\n---\n".toList "[x]" (.list [.text "x"]) := by
  have hdoc : HasFrontMatter "---\n[x]\n---\n".toList "[x]" :=
    hasFrontMatter_framed (List.forall_mem_singleton.2
      ⟨⟨by decide, by decide, by decide⟩, by decide⟩ : ∀ l ∈ ["[x]".toList], IsData l) []
  have hload : Yaml.load? "[x]" = .ok (.list [.text "x"]) := by with_unfolding_all rfl
  exact ⟨hdoc, hload, (isStrict_iff hdoc rfl hload).2 ⟨.inl rfl, fun _ => Value.noConfusion⟩⟩

/-- An empty list passes for nothing. -/
theorem not_isStrict_emptyList :
    HasFrontMatter "---\n[]\n---\n".toList "[]" ∧ Yaml.load? "[]" = .ok (.list [])
      ∧ ¬ IsStrict "---\n[]\n---\n".toList "[]" (.list []) := by
  have hdoc : HasFrontMatter "---\n[]\n---\n".toList "[]" :=
    hasFrontMatter_framed (List.forall_mem_singleton.2
      ⟨⟨by decide, by decide, by decide⟩, by decide⟩ : ∀ l ∈ ["[]".toList], IsData l) []
  have hload : Yaml.load? "[]" = .ok (.list []) := by with_unfolding_all rfl
  refine ⟨hdoc, hload, fun h => ?_⟩
  have hrefused := (h.refused Value.noConfusion fun _ => Value.noConfusion).1
  rw [metadataOf_eq hdoc hload] at hrefused
  cases hrefused

end Manuscript.Markdown
