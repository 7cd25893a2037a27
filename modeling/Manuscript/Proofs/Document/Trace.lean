import Manuscript.Proofs.Convert.Uses
import Manuscript.Proofs.Document.Locality

/-!
# Calls in reading order

A composition over a recorded bridge leaves a trace of the formulas that it asked for. The
trace tells what is in the document: it is the calls for the formulas among the runs of the
blocks, in the order in which they are read, each once. Texts that do not show leave none.

Each text is formatted by itself (`IsFormatted`), and the texts of a token are those that its
blocks show (`Token.texts`): a row of a table is cut to the columns of the table or filled
up, and of a quotation only the paragraphs right in it are formatted.

* `Traces`: an activity formats some texts, one after the other, and uses its bridge for
  their formulas alone;
* `compose_trace`: the blocks of tokens, with the trace that composing them leaves.
-/

namespace Manuscript.Formula

/-- The call in a use of a bridge, if it is one. -/
def Use.call? : Use → Option Call
  | ready _ => none
  | convert latex display _ => some (latex, display)

/-- A bridge has been used for some calls and for nothing else. -/
def Asked (calls : List Call) (before after : List Use) : Prop :=
  ∃ uses, after = before ++ uses ∧ uses.map Use.call? = calls.map some

namespace Asked

variable {calls calls' : List Call} {before between after : List Use}

theorem refl (uses : List Use) : Asked [] uses uses := ⟨[], (List.append_nil uses).symm, rfl⟩

theorem append (h : Asked calls before between) (h' : Asked calls' between after) :
    Asked (calls ++ calls') before after := by
  obtain ⟨uses, rfl, huses⟩ := h
  obtain ⟨uses', rfl, huses'⟩ := h'
  refine ⟨uses ++ uses', List.append_assoc before uses uses', ?_⟩
  rw [List.map_append, huses, huses', List.map_append]

end Asked

end Manuscript.Formula

namespace Manuscript.Inline

open Manuscript.Formula Manuscript.Text

theorem allBlank_onOneLine (cs : List Char) : allBlank (onOneLine cs).toList = allBlank cs := by
  have hline : ∀ c, isBlank (if c = '\n' then ' ' else c) = isBlank c := by
    intro c
    split
    · next h =>
      rw [h]
      rfl
    · rfl
  rw [onOneLine, String.toList_ofList, allBlank, allBlank, List.all_map]
  exact List.all_congr rfl hline

/-- A segment worth showing is not blank between its delimiters, unless it is a formula. -/
theorem notBlank_inner {cs : List Char} {s : Segment} (hs : s ∈ splitRuns cs)
    (hmath : s.kind.isMath = false) : allBlank s.inner = false := by
  obtain ⟨hmem, hraw⟩ := List.mem_filter.1 hs
  obtain ⟨s', -, rfl⟩ := List.mem_map.1 hmem
  have hplain : Segment.inner ⟨.plain, s'.raw⟩ = s'.raw := by
    simp [Segment.inner, Kind.delimiterWidth]
  by_cases h : (!s'.kind.isMath && allBlank s'.inner) = true
  · -- Plain text has no delimiters.
    have hdemoted : s'.demoted = ⟨.plain, s'.raw⟩ := if_pos h
    rw [hdemoted] at hraw ⊢
    rw [hplain]
    simpa using hraw
  · have hdemoted : s'.demoted = s' := if_neg h
    rw [hdemoted] at hmath ⊢
    simpa [hmath] using h

end Manuscript.Inline

namespace Manuscript.Document

open Manuscript.Formula Manuscript.Inline Manuscript.Style Manuscript.Text Manuscript.Work

/-! ## Lines -/

/-- The texts that the blocks of a token show, in the order in which they are read. -/
def Token.texts : Token → List String
  | paragraph text => [text]
  | list _ items _ => items
  | blockquote tokens => tokens.filterMap Token.paragraph?
  | table header rows _ => header ++ rows.flatMap (fitTo header.length "")
  | _ => []

/-- The runs of each cell of a row. -/
def Row.lines (r : Row) : List (List Run) := r.cells.map Cell.runs

/-- The runs of a block, those of each text apart. -/
def Block.lines : Block → List (List Run)
  | .paragraph runs _ _ _ => [runs]
  | .listItem runs _ _ _ _ _ _ => [runs]
  | .table rows _ _ _ _ => rows.flatMap Row.lines
  | _ => []

theorem Block.flatten_lines (b : Block) : b.lines.flatten = b.runs := by
  cases b with
  | table rows columns width borders margins =>
    simp only [lines, runs, List.flatMap, List.flatten_flatten, List.map_map]
    rfl
  | paragraph runs spacing indent border => exact List.flatten_singleton
  | listItem runs ordered level list start spacing indent => exact List.flatten_singleton
  | _ => rfl

theorem flatten_flatMap_lines (blocks : List Block) :
    (blocks.flatMap Block.lines).flatten = blocks.flatMap Block.runs := by
  rw [List.flatMap_def, List.flatten_flatten, List.map_map, List.flatMap_def]
  exact congrArg List.flatten (List.map_congr_left fun b _ => b.flatten_lines)

theorem lines_spacer (spacing : Option Spacing) :
    (spacing.map Block.spacer).toList.flatMap Block.lines = [] := by
  cases spacing <;> rfl

/-- A run that is no formula shows the source of its segment on one line, in the looks of its
    kind, and is not blank. -/
structure Run.ShowsSource (config : Config) (r : Run) (t : StyledText) : Prop where
  content : r.content = .styled t
  text : t.text = onOneLine r.segment.inner
  notBlank : allBlank t.text.toList = false
  bold : t.bold = true ↔ r.kind = .bold
  italic : t.italic = true ↔ r.kind = .italic
  font : t.font = if r.kind = .code then codeFont config else config.font

/-- The runs of a text: one for each of its segments, in order. -/
structure IsFormatted (config : Config) (text : String) (runs : List Run) : Prop where
  segments : runs.map Run.segment = splitRuns text.toList
  plain : ∀ r ∈ runs, r.kind.isMath = false → ∃ t, r.ShowsSource config t

theorem calls_eq_of_forall₂ {config : Config} {texts : List String} {lines : List (List Run)}
    (h : List.Forall₂ (IsFormatted config) texts lines) :
    Run.calls lines.flatten = texts.flatMap fun text => Segment.calls (splitRuns text.toList) := by
  induction h with
  | nil => rfl
  | cons hline _ ih =>
    rw [List.flatten_cons, Run.calls_append, ih, List.flatMap_cons, Run.calls, hline.segments]

/-! ## Traces -/

/-- Some texts have been formatted, and the bridge has been used for their formulas alone. -/
structure Trace (config : Config) (texts : List String) (lines : List (List Run))
    (before after : List Use) : Prop where
  formatted : List.Forall₂ (IsFormatted config) texts lines
  asked : Asked (Run.calls lines.flatten) before after

namespace Trace

variable {config : Config} {texts texts' : List String} {lines lines' : List (List Run)}
  {before between after : List Use}

theorem refl (uses : List Use) : Trace config [] [] uses uses := ⟨.nil, .refl uses⟩

theorem append (h : Trace config texts lines before between)
    (h' : Trace config texts' lines' between after) :
    Trace config (texts ++ texts') (lines ++ lines') before after := by
  refine ⟨List.rel_append h.formatted h'.formatted, ?_⟩
  rw [List.flatten_append, Run.calls_append]
  exact h.asked.append h'.asked

end Trace

section Traces

variable {σ α β γ : Type} {config : Config} {texts texts' : List String}
  {lines : α → List (List Run)} {lines' : β → List (List Run)} {lines'' : γ → List (List Run)}

/-- What an activity gives shows some texts, formatted one after the other, and their formulas
    are all that it uses its bridge for. -/
def Traces (config : Config) (texts : List String) (lines : α → List (List Run))
    (w : Work (Composition (σ × List Use)) Fault α) : Prop :=
  ∀ t, Ends w t (fun a t' => Trace config texts (lines a) t.bridge.2 t'.bridge.2) fun _ _ => True

namespace Traces

variable {w : Work (Composition (σ × List Use)) Fault α}

theorem pure {a : α} (h : lines a = []) :
    Traces (σ := σ) config [] lines (Pure.pure a) :=
  fun _ => .pure (h ▸ .refl _)

theorem fail {e : Fault} : Traces (σ := σ) config texts lines (Work.fail e) :=
  fun _ => .fail trivial

theorem tell (n : Log.Notice) : Traces (σ := σ) config [] (fun _ => []) (Work.tell n) :=
  fun _ => .tell (.refl _)

/-- Two activities, and what is made of what they give. -/
theorem both {v : α → Work (Composition (σ × List Use)) Fault β} {f : α → β → γ}
    (h : Traces config texts lines w) (h' : ∀ a, Traces config texts' lines' (v a))
    (hf : ∀ a b, lines'' (f a b) = lines a ++ lines' b) :
    Traces config (texts ++ texts') lines'' (do
      let a ← w
      let b ← v a
      return f a b) := fun t =>
  (h t).bind fun a u hu => (h' a u).bind fun b _ hu' => .pure (hf a b ▸ hu.append hu')

/-- What is made of what an activity gives. -/
theorem map {f : α → β} (h : Traces config texts lines w) (hf : ∀ a, lines' (f a) = lines a) :
    Traces config texts lines' (do
      let a ← w
      return f a) := fun t =>
  (h t).bind fun a _ hu => .pure (hf a ▸ hu)

/-- An activity that formats nothing comes first. -/
theorem after {v : α → Work (Composition (σ × List Use)) Fault β}
    (h : Traces config [] (fun _ => []) w) (h' : ∀ a, Traces config texts' lines' (v a)) :
    Traces config texts' lines' (w >>= v) := fun t =>
  (h t).bind fun a u hu => (h' a u).mono (fun _ _ hu' => hu.append hu') fun _ _ _ => trivial

/-- An activity for each member of a list. -/
theorem forEach {f : β → Work (Composition (σ × List Use)) Fault α} {source : β → String}
    (h : ∀ b, Traces config [source b] lines (f b)) (bs : List β) :
    Traces config (bs.map source) (List.flatMap lines) (Work.forEach f bs) := by
  induction bs with
  | nil => exact .pure rfl
  | cons b rest ih => exact (h b).both (fun _ => ih) fun _ _ => List.flatMap_cons

end Traces

end Traces

/-! ## Texts -/

section Texts

variable {σ : Type} (b : Bridge σ) (config : Config)

/-- The bridge is used once for a formula. -/
theorem convert_asks (call : Call) (u : σ × List Use) :
    Ends (b.recorded.convert call.1 call.2) u (fun _ u' => Asked [call] u.2 u'.2)
      fun _ u' => Asked [call] u.2 u'.2 := by
  have hasked : Asked [call] u.2 (b.recorded.convert call.1 call.2 u).state.2 := ⟨_, rfl, rfl⟩
  rcases hc : b.recorded.convert call.1 call.2 u with ⟨fault | m, said, u'⟩
  · rw [hc] at hasked
    exact .of_error hc hasked
  · rw [hc] at hasked
    exact .of_ok hc hasked

theorem formulaContent_asks (s : Segment) (u : σ × List Use) :
    Ends (formulaContent b.recorded config s) u (fun _ u' => Asked [s.call] u.2 u'.2)
      fun _ _ => True := by
  refine .bind (.tell (P := fun _ v => v = u) rfl) ?_
  rintro _ v rfl
  refine .onFault (G := fun _ u' => Asked [s.call] v.2 u'.2) ?_ fun fault u' hu' => ?_
  · refine .bind (convert_asks b s.call v) fun m u' hu' => ?_
    exact .bind (.tell (P := fun _ u => u = u') rfl) fun _ _ hu => .pure (hu ▸ hu')
  · cases fault with
    | rejected latex reason =>
      exact .bind (.tell (P := fun _ u => u = u') rfl) fun _ _ hu => .pure (hu ▸ hu')
    | notStarted reason => exact .fail trivial
    | escaped escape => exact .fail trivial

theorem showsSource_styledText {s : Segment} (h : allBlank s.inner = false) :
    Run.ShowsSource config ⟨s.kind, String.ofList s.raw, .styled (styledText config s)⟩
      (styledText config s) := by
  refine ⟨rfl, ?_, (allBlank_onOneLine s.inner).trans h, beq_iff_eq, beq_iff_eq, rfl⟩
  rw [Run.segment, String.toList_ofList]
  rfl

/-- A segment has a run of its own, and the bridge is used once if it is a formula. -/
theorem formatSegment_asks {cs : List Char} {s : Segment} (hs : s ∈ splitRuns cs)
    (u : σ × List Use) :
    Ends (formatSegment b.recorded config s) u
      (fun r u' => (r.segment = s ∧ (r.kind.isMath = false → ∃ t, r.ShowsSource config t))
        ∧ Asked (Segment.calls [s]) u.2 u'.2)
      fun _ _ => True := by
  have hsegment (content : Content) : Run.segment ⟨s.kind, String.ofList s.raw, content⟩ = s := by
    rw [Run.segment, String.toList_ofList]
  unfold formatSegment
  cases hmath : s.kind.isMath with
  | false =>
    have hcalls : Segment.calls [s] = [] := by simp [Segment.calls, hmath]
    have hplain := showsSource_styledText config (notBlank_inner hs hmath)
    rw [hcalls]
    exact .pure ⟨⟨hsegment _, fun _ => ⟨_, hplain⟩⟩, .refl u.2⟩
  | true =>
    have hcalls : Segment.calls [s] = [s.call] := by simp [Segment.calls, hmath]
    rw [hcalls, if_pos rfl]
    refine (formulaContent_asks b config s u).bind fun content u' hu' => .pure ?_
    refine ⟨⟨hsegment content, fun h => ?_⟩, hu'⟩
    rw [hmath] at h
    cases h

theorem forEach_formatSegment_asks {cs : List Char} {segs : List Segment}
    (hsegs : ∀ s ∈ segs, s ∈ splitRuns cs) (u : σ × List Use) :
    Ends (Work.forEach (formatSegment b.recorded config) segs) u
      (fun runs u' => (runs.map Run.segment = segs
          ∧ ∀ r ∈ runs, r.kind.isMath = false → ∃ t, r.ShowsSource config t)
        ∧ Asked (Segment.calls segs) u.2 u'.2)
      fun _ _ => True := by
  induction segs generalizing u with
  | nil => exact .pure ⟨⟨rfl, fun _ h => absurd h List.not_mem_nil⟩, .refl u.2⟩
  | cons s rest ih =>
    obtain ⟨hs, hrest⟩ := List.forall_mem_cons.1 hsegs
    refine (formatSegment_asks b config hs u).bind fun r v ⟨⟨hr, hplain⟩, hv⟩ => ?_
    refine (ih hrest v).bind fun runs w ⟨⟨hruns, hplains⟩, hw⟩ => .pure ?_
    rw [List.map_cons, hr, hruns]
    refine ⟨⟨rfl, List.forall_mem_cons.2 ⟨hplain, hplains⟩⟩, ?_⟩
    rw [Segment.calls_cons s rest]
    exact hv.append hw

theorem runsOf_traces (text : String) :
    Traces config [text] (fun runs => [runs]) (runsOf b.recorded config text) := fun t => by
  cases forEach_formatSegment_asks b config (fun s (hs : s ∈ splitRuns text.toList) => hs)
    t.bridge with
  | of_ok run holds =>
    obtain ⟨⟨hsegments, hplain⟩, hasked⟩ := holds
    refine .of_ok (onBridge_ok run) ⟨.cons ⟨hsegments, hplain⟩ .nil, ?_⟩
    rw [List.flatten_singleton, Run.calls, hsegments]
    exact hasked
  | of_error run => exact .of_error (by simp only [runsOf, onBridge, format, run]; rfl) trivial

end Texts

/-! ## Blocks -/

section Blocks

variable {σ : Type} (b : Bridge σ) (config : Config)

theorem nextList_traces (ordered : Bool) :
    Traces (σ := σ) config [] (fun _ => []) (nextList ordered) := by
  intro t
  unfold nextList
  cases ordered with
  | true => exact .read (.put (.pure (.refl _)))
  | false => exact .pure (.refl _)

theorem itemBlocks_traces (ordered : Bool) (list start : Int) (spacing : Spacing)
    (items : List String) :
    Traces config items (List.flatMap Block.lines)
      (itemBlocks b.recorded config ordered list start spacing items) := by
  induction items generalizing spacing with
  | nil => exact .pure rfl
  | cons item rest ih =>
    exact (runsOf_traces b config item).both (fun _ => ih itemSpacing) fun _ _ => rfl

theorem quoteBlocks_traces (tokens : List Token) :
    Traces config (tokens.filterMap Token.paragraph?) (List.flatMap Block.lines)
      (quoteBlocks b.recorded config tokens) := by
  induction tokens with
  | nil => exact .pure rfl
  | cons token rest ih =>
    cases token with
    | paragraph text => exact (runsOf_traces b config text).both (fun _ => ih) fun _ _ => rfl
    | _ => exact .after (.tell _) fun _ => ih

/-- The runs of a text are one line; those of a list of cells are one for each. -/
theorem cellsOf_traces (width : Int) (looks : CellLooks) (cells : List (String × Option String)) :
    Traces config (cells.map Prod.fst) (List.map Cell.runs)
      (cellsOf b.recorded config width looks cells) := by
  have hcell (cell : String × Option String) :
      Traces config [cell.1] (fun c => [Cell.runs c]) (do
        let runs ← runsOf b.recorded config cell.1
        return ⟨runs, width, looks.margins, looks.spacing, cell.2⟩) :=
    (runsOf_traces b config cell.1).map fun _ => rfl
  rw [show List.map Cell.runs = List.flatMap fun c => [Cell.runs c] from
    funext fun cells => List.map_eq_flatMap]
  exact Traces.forEach hcell cells

theorem dataRows_traces (columns : Nat) (width : Int) (align : List (Option String))
    (number : Nat) (rows : List (List String)) :
    Traces config (rows.flatMap (fitTo columns "")) (List.flatMap Row.lines)
      (dataRows b.recorded config columns width (fitTo columns none align) number rows) := by
  induction rows generalizing number with
  | nil => exact .pure rfl
  | cons row rest ih =>
    have hcells : ((fitTo columns "" row).zip (fitTo columns none align)).map Prod.fst
        = fitTo columns "" row := List.map_fst_zip (by simp)
    have hrow := cellsOf_traces b config width dataLooks
      ((fitTo columns "" row).zip (fitTo columns none align))
    rw [hcells] at hrow
    unfold dataRows
    split
    · exact .after (.tell _) fun _ => hrow.both (fun _ => ih (number + 1)) fun _ _ => rfl
    · exact hrow.both (fun _ => ih (number + 1)) fun _ _ => rfl

theorem tableBlock_traces (header : List String) (rows : List (List String))
    (align : List (Option String)) :
    Traces config (header ++ rows.flatMap (fitTo header.length "")) Block.lines
      (tableBlock b.recorded config header rows align) := by
  have hcells : (header.zip (fitTo header.length none align)).map Prod.fst = header :=
    List.map_fst_zip (by simp)
  have hhead := cellsOf_traces b config (100 / header.length : Nat) headerLooks
    (header.zip (fitTo header.length none align))
  rw [hcells] at hhead
  unfold tableBlock
  dsimp only
  split
  · exact .fail
  · exact hhead.both (fun _ => dataRows_traces b config header.length _ align 1 rows) fun _ _ => rfl

theorem composeToken_traces (token : Token) :
    Traces config token.texts (List.flatMap Block.lines)
      (composeToken b.recorded config token) := by
  cases token with
  | heading depth text =>
    have hblock : Traces (σ := σ) config [] Block.lines (headingBlock depth text) := by
      unfold headingBlock
      dsimp only
      split
      · exact .after (.tell _) fun _ => .pure rfl
      · exact .pure rfl
    exact hblock.map fun _ => List.flatMap_singleton _ _
  | paragraph text => exact (runsOf_traces b config text).map fun _ => rfl
  | list ordered items start =>
    exact (nextList_traces config ordered).after fun _ => itemBlocks_traces b config _ _ _ _ items
  | blockquote tokens => exact quoteBlocks_traces b config tokens
  | table header rows align =>
    exact (tableBlock_traces b config header rows align).map fun _ => List.flatMap_singleton _ _
  | other type raw => exact .after (.tell _) fun _ => .pure rfl
  | unknown => exact .fail
  | _ => exact .pure rfl

theorem composeFrom_traces (c : Coordinator) (tokens : List Token) :
    Traces config (tokens.flatMap Token.texts) (List.flatMap Block.lines)
      (composeFrom b.recorded config c tokens) := by
  induction tokens generalizing c with
  | nil => exact .pure rfl
  | cons token rest ih =>
    refine .after (.tell _) fun _ => ?_
    refine (composeToken_traces b config token).both (fun _ => ih _) fun blocks more => ?_
    rw [List.flatMap_append, List.flatMap_append, lines_spacer, List.nil_append]

/-- The bridge may be recorded: the same blocks come of the tokens, and the calls on record are
    those for the formulas among the runs of the blocks, each once and in the order in which they
    are read. They are the formulas of the texts that show, each of which is formatted by itself:
    its runs are its segments, and those that are no formula show their source in the looks of
    their kind and are not blank. -/
theorem compose_trace {tokens : List Token} {t t' : Composition σ} {blocks : List Block}
    {said : List Log.Notice} (h : compose b config tokens t = ⟨.ok blocks, said, t'⟩)
    (before : List Use) :
    ∃ uses, compose b.recorded config tokens ⟨t.lists, t.bridge, before⟩
        = ⟨.ok blocks, said, t'.lists, t'.bridge, before ++ uses⟩
      ∧ uses.map Use.call? = (Run.calls (blocks.flatMap Block.runs)).map some
      ∧ Run.calls (blocks.flatMap Block.runs)
        = (tokens.flatMap Token.texts).flatMap (fun text => Segment.calls (splitRuns text.toList))
      ∧ List.Forall₂ (IsFormatted config) (tokens.flatMap Token.texts)
        (blocks.flatMap Block.lines) := by
  have hfollows : Follows (Composition.Related fun s t => s.1 = t)
      (compose b.recorded config tokens) (compose b config tokens) :=
    compose_follows fun _ _ _ _ => format_follows fun call _ =>
      recording_follows (.convert call.1 call.2) (b.convert call.1 call.2)
  obtain ⟨hresult, hsaid, hstate⟩ := hfollows ⟨t.lists, t.bridge, before⟩ t ⟨rfl, rfl⟩
  rw [h] at hresult hsaid hstate
  cases composeFrom_traces b config {} tokens ⟨t.lists, t.bridge, before⟩ with
  | @of_ok blocks' said' u run holds =>
    have hrun : compose b.recorded config tokens ⟨t.lists, t.bridge, before⟩
        = ⟨.ok blocks', said', u⟩ := run
    rw [hrun] at hresult hsaid hstate
    obtain rfl : blocks' = blocks := Except.ok.inj hresult
    obtain rfl : said' = said := hsaid
    obtain ⟨uses, huses, hcalls⟩ := holds.asked
    obtain ⟨lists, bridge, record⟩ := u
    obtain rfl : record = before ++ uses := huses
    obtain rfl : lists = t'.lists := hstate.lists
    obtain rfl : bridge = t'.bridge := hstate.bridge
    rw [flatten_flatMap_lines] at hcalls
    refine ⟨uses, hrun, hcalls, ?_, holds.formatted⟩
    rw [← flatten_flatMap_lines]
    exact calls_eq_of_forall₂ holds.formatted
  | of_error run =>
    have hrun : compose b.recorded config tokens ⟨t.lists, t.bridge, before⟩ = _ := run
    rw [hrun] at hresult
    cases hresult

end Blocks

/-- Tokens with formulas that show, and with some that do not. -/
def sampleTokens : List Token :=
  [.heading 1 "On $h$", .paragraph "With $x$ and `$c$`.", .list true ["one", "$$ y $$"] 1,
    .blockquote [.code "$k$" none, .paragraph "*as* $x$"],
    .table ["$a$", "b"] [["c"], ["$d$", "$e$", "$surplus$"]] [none], .code "$k$" none]

/-- The calls for these, from the top to the bottom. -/
theorem compose_trace_sample :
    ∃ blocks said t' uses,
      compose (rejecting "x").recorded .standard sampleTokens ⟨0, (), []⟩
        = ⟨.ok blocks, said, t', ((), uses)⟩
      ∧ uses.map Use.call? = [some ("x", false), some ("y", true), some ("x", false),
        some ("a", false), some ("d", false), some ("e", false)] := by
  have hok : (compose (rejecting "x") .standard sampleTokens ⟨0, ()⟩).result.isOk = true := by
    decide +kernel
  rcases hrun : compose (rejecting "x") .standard sampleTokens ⟨0, ()⟩ with ⟨result, said, t'⟩
  rw [hrun] at hok
  obtain ⟨blocks, rfl⟩ := Success.exists_eq_ok hok
  obtain ⟨uses, hrecorded, huses, hcalls, -⟩ := compose_trace (rejecting "x") .standard hrun []
  refine ⟨blocks, _, _, uses, hrecorded, ?_⟩
  rw [huses, hcalls]
  decide +kernel

end Manuscript.Document
