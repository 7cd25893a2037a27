import Manuscript.Document.Compose
import Manuscript.Proofs.Inline.Resolution
import Manuscript.Proofs.Work
import Mathlib.Data.List.Forall2

/-!
# Locality of formulas

Two bridges that agree on all formulas but some compose the same document, except for
what the runs of these formulas show (`compose_local`). Both compositions go on side by
side: after each part they have made the same calls, taken as many numbers for lists and
given blocks of one shape, and no fault comes from a formula.
-/

namespace Manuscript.Document

open Manuscript.Formula Manuscript.Inline Manuscript.Style

/-! ## Runs in place -/

/-- The segment that a run is made of. -/
def Run.segment (r : Run) : Segment := ⟨r.kind, r.raw.toList⟩

/-- The calls for the formulas among some runs. -/
def Run.calls (runs : List Run) : List Call := Segment.calls (runs.map Run.segment)

/-- The runs of a row, from its first cell to its last. -/
def Row.runs (r : Row) : List Run := r.cells.flatMap Cell.runs

/-- The runs of a block in the order in which they are read. -/
def Block.runs : Block → List Run
  | .paragraph runs _ _ _ => runs
  | .listItem runs _ _ _ _ _ _ => runs
  | .table rows _ _ _ _ => rows.flatMap Row.runs
  | _ => []

theorem runs_spacer (spacing : Option Spacing) :
    (spacing.map Block.spacer).toList.flatMap Block.runs = [] := by
  cases spacing <;> rfl

/-- A run without what it shows. -/
def Run.outline (r : Run) : Run := { r with content := .bare "" }

/-- A cell without what its runs show. -/
def Cell.outline (c : Cell) : Cell := { c with runs := c.runs.map Run.outline }

/-- A row without what its runs show. -/
def Row.outline (r : Row) : Row := { r with cells := r.cells.map Cell.outline }

/-- A block without what its runs show. -/
def Block.outline : Block → Block
  | .paragraph runs spacing indent border =>
    .paragraph (runs.map Run.outline) spacing indent border
  | .listItem runs ordered level list start spacing indent =>
    .listItem (runs.map Run.outline) ordered level list start spacing indent
  | .table rows columns width borders margins =>
    .table (rows.map Row.outline) columns width borders margins
  | b => b

/-- Two runs of one segment show the same, unless it is a formula in `F`. -/
structure Run.Alike (F : Call → Prop) (r r' : Run) : Prop where
  kind : r.kind = r'.kind
  raw : r.raw = r'.raw
  content : ¬ (r.kind.isMath = true ∧ F r.segment.call) → r.content = r'.content

/-- A formula that stays as it is written, delimiters included. -/
def Run.asWritten (config : Config) (r : Run) : StyledText :=
  { text := r.raw
    font := config.monoFont
    size := .int (if r.kind = .displayMath then 11 else 12)
    color := config.fallbackColor
    fallback := true }

/-- Each formula among some runs shows what is answered to the call for it after the calls
    for those before it: the formula converted, or as it is written. -/
def IsResolved (answer : List Call → Call → Except Formula.Fault MathObject) (config : Config)
    (calls : List Call) (runs : List Run) : Prop :=
  ∀ left r right, runs = left ++ r :: right → r.kind.isMath = true →
    r.content = match answer (calls ++ Run.calls left) r.segment.call with
      | .ok m => .math m
      | .error _ => .styled (r.asWritten config)

section Runs

variable {F : Call → Prop} {config : Config}
  {answer answer' : List Call → Call → Except Formula.Fault MathObject} {calls : List Call}

theorem Run.calls_nil : Run.calls [] = [] := rfl

theorem Run.calls_append (a b : List Run) : Run.calls (a ++ b) = Run.calls a ++ Run.calls b := by
  rw [Run.calls, List.map_append, Segment.calls_append]
  rfl

theorem Run.Alike.outline_eq {r r' : Run} (h : r.Alike F r') : r.outline = r'.outline := by
  rw [Run.outline, Run.outline, h.kind, h.raw]

theorem Run.Alike.map_outline {runs runs' : List Run} (h : List.Forall₂ (Run.Alike F) runs runs') :
    runs.map Run.outline = runs'.map Run.outline := by
  induction h with
  | nil => rfl
  | cons hr _ ih => rw [List.map_cons, List.map_cons, hr.outline_eq, ih]

/-- Runs that are alike make the same calls. -/
theorem Run.calls_eq_of_alike {runs runs' : List Run}
    (h : List.Forall₂ (Run.Alike F) runs runs') : Run.calls runs = Run.calls runs' := by
  have hsegs : runs.map Run.segment = runs'.map Run.segment := by
    induction h with
    | nil => rfl
    | cons hr _ ih =>
      rw [List.map_cons, List.map_cons, ih, Run.segment, Run.segment, hr.kind, hr.raw]
  rw [Run.calls, Run.calls, hsegs]

theorem IsResolved.nil : IsResolved answer config calls [] := by
  intro left r right h
  exact absurd h (by simp)

theorem IsResolved.append {runs more : List Run} (h : IsResolved answer config calls runs)
    (h' : IsResolved answer config (calls ++ Run.calls runs) more) :
    IsResolved answer config calls (runs ++ more) := by
  intro left r right heq hmath
  rcases List.append_eq_append_iff.1 heq with ⟨as, rfl, has⟩ | ⟨bs, rfl, hbs⟩
  · have := h' as r right has hmath
    rwa [List.append_assoc, ← Run.calls_append] at this
  · cases bs with
    | nil =>
      have := h' [] r right (by simpa using hbs.symm) hmath
      simpa [Run.calls_nil] using this
    | cons b bs =>
      obtain ⟨rfl, rfl⟩ := List.cons.inj hbs
      exact h left r bs rfl hmath

theorem IsResolved.single {r : Run}
    (h : r.kind.isMath = true → r.content = match answer calls r.segment.call with
      | .ok m => .math m
      | .error _ => .styled (r.asWritten config)) :
    IsResolved answer config calls [r] := by
  intro left r' right heq hmath
  obtain ⟨rfl, rfl, rfl⟩ : left = [] ∧ r = r' ∧ right = [] := by
    cases left with
    | nil => simpa [and_comm] using heq
    | cons a as => simp at heq
  rw [Run.calls_nil, List.append_nil]
  exact h hmath

/-- What a formula shows tells no reason for a rejection. -/
theorem shown_congr (config : Config) (s : Segment) {a a' : Except Formula.Fault MathObject}
    (h : a.toOption = a'.toOption) : shown config s a = shown config s a' := by
  cases a <;> cases a'
  · rfl
  · cases h
  · cases h
  · exact congrArg Content.math (Option.some.inj h)

theorem segment_runOf (s : Segment) (a : Except Formula.Fault MathObject) :
    (runOf config s a).segment = s := by
  rw [Run.segment, runOf, String.toList_ofList]

theorem map_segment_resolve (segs : List Segment) :
    (resolve answer config calls segs).map Run.segment = segs := by
  induction segs generalizing calls with
  | nil => rfl
  | cons s rest ih => rw [resolve, List.map_cons, segment_runOf, ih]

theorem content_runOf {s : Segment} (h : s.kind.isMath = true)
    (a : Except Formula.Fault MathObject) :
    (runOf config s a).content = match a with
      | .ok m => .math m
      | .error _ => .styled ((runOf config s a).asWritten config) := by
  rw [runOf, if_pos h]
  cases a with
  | ok m => rfl
  | error e => simp only [shown, fallbackText, fallbackSize, Run.asWritten, beq_iff_eq]

theorem isResolved_resolve (segs : List Segment) :
    IsResolved answer config calls (resolve answer config calls segs) := by
  induction segs generalizing calls with
  | nil => exact IsResolved.nil
  | cons s rest ih =>
    rw [resolve, ← List.singleton_append]
    refine IsResolved.append (IsResolved.single fun hmath => ?_) ?_
    · rw [segment_runOf]
      exact content_runOf hmath _
    · rw [Run.calls, List.map_singleton, segment_runOf]
      exact ih

/-- Answers that agree on all formulas but some resolve the others alike. -/
theorem resolve_alike
    (h : ∀ calls c, ¬ F c → (answer calls c).toOption = (answer' calls c).toOption)
    (segs : List Segment) :
    List.Forall₂ (Run.Alike F) (resolve answer config calls segs)
      (resolve answer' config calls segs) := by
  induction segs generalizing calls with
  | nil => exact .nil
  | cons s rest ih =>
    refine .cons ⟨rfl, rfl, ?_⟩ ih
    rw [segment_runOf]
    intro hF
    cases hmath : s.kind.isMath with
    | false => simp only [runOf, hmath, Bool.false_eq_true, if_false]
    | true =>
      have hs := shown_congr config s (h calls s.call fun hs => hF ⟨hmath, hs⟩)
      simp only [runOf, hmath, if_true, hs]

end Runs

/-! ## Side by side -/

section Sides

variable {σ τ : Type} (b : Bridge σ) (s : σ) (b' : Bridge τ) (s' : τ) (config : Config)
  (F : Call → Prop)

/-- Two compositions have made the same calls and taken as many numbers for lists. -/
structure Even (calls : List Call) (t : Composition σ) (t' : Composition τ) : Prop where
  lists : t.lists = t'.lists
  bridge : t.bridge = b.after s calls
  bridge' : t'.bridge = b'.after s' calls

/-- What two compositions gave after some calls has one shape, and runs that are alike and
    resolved; with the calls for these runs both are even. -/
structure Twin {α γ : Type} (shape : α → γ) (runs : α → List Run) (calls : List Call)
    (a : α) (t : Composition σ) (a' : α) (t' : Composition τ) : Prop where
  shape : shape a = shape a'
  alike : List.Forall₂ (Run.Alike F) (runs a) (runs a')
  resolved : IsResolved (b.answer s) config calls (runs a)
  resolved' : IsResolved (b'.answer s') config calls (runs a')
  even : Even b s b' s' (calls ++ Run.calls (runs a)) t t'

variable {b s b' s' config F} {calls : List Call} {t u : Composition σ} {t' u' : Composition τ}

namespace Twin

variable {α γ : Type} {shape : α → γ} {runs : α → List Run}

/-- What has no runs needs no calls. -/
theorem of_no_runs {a a' : α} (hshape : shape a = shape a') (hruns : runs a = [])
    (hruns' : runs a' = []) (h : Even b s b' s' calls t t') :
    Twin b s b' s' config F shape runs calls a t a' t' := by
  refine ⟨hshape, ?_, ?_, ?_, ?_⟩
  · rw [hruns, hruns']
    exact .nil
  · rw [hruns]
    exact IsResolved.nil
  · rw [hruns']
    exact IsResolved.nil
  · rw [hruns, Run.calls_nil, List.append_nil]
    exact h

/-- What is made of the same runs in the same way. -/
theorem map {β δ : Type} {shape' : β → δ} {runs' : β → List Run} {a a' : α}
    (h : Twin b s b' s' config F shape runs calls a t a' t') {c c' : β}
    (hshape : shape a = shape a' → shape' c = shape' c') (hruns : runs' c = runs a)
    (hruns' : runs' c' = runs a') :
    Twin b s b' s' config F shape' runs' calls c t c' t' := by
  refine ⟨hshape h.shape, ?_, ?_, ?_, ?_⟩
  · rw [hruns, hruns']
    exact h.alike
  · rw [hruns]
    exact h.resolved
  · rw [hruns']
    exact h.resolved'
  · rw [hruns]
    exact h.even

/-- Something, and more after it. -/
theorem append {as as' bs bs' : List α}
    (h : Twin b s b' s' config F (List.map shape) (List.flatMap runs) calls as t as' t')
    (h' : Twin b s b' s' config F (List.map shape) (List.flatMap runs)
      (calls ++ Run.calls (as.flatMap runs)) bs u bs' u') :
    Twin b s b' s' config F (List.map shape) (List.flatMap runs) calls (as ++ bs) u
      (as' ++ bs') u' := by
  refine ⟨?_, ?_, ?_, ?_, ?_⟩
  · rw [List.map_append, List.map_append, h.shape, h'.shape]
  · rw [List.flatMap_append, List.flatMap_append]
    exact List.rel_append h.alike h'.alike
  · rw [List.flatMap_append]
    exact h.resolved.append h'.resolved
  · rw [List.flatMap_append]
    refine h.resolved'.append ?_
    rw [← Run.calls_eq_of_alike h.alike]
    exact h'.resolved'
  · rw [List.flatMap_append, Run.calls_append, ← List.append_assoc]
    exact h'.even

theorem single {a a' : α} (h : Twin b s b' s' config F shape runs calls a t a' t') :
    Twin b s b' s' config F (List.map shape) (List.flatMap runs) calls [a] t [a'] t' :=
  h.map (fun heq => by rw [List.map_singleton, heq, List.map_singleton])
    (List.flatMap_singleton _ _) (List.flatMap_singleton _ _)

/-- One thing, and more after it. -/
theorem cons {a a' : α} {as as' : List α} (h : Twin b s b' s' config F shape runs calls a t a' t')
    (h' : Twin b s b' s' config F (List.map shape) (List.flatMap runs)
      (calls ++ Run.calls (runs a)) as u as' u') :
    Twin b s b' s' config F (List.map shape) (List.flatMap runs) calls (a :: as) u (a' :: as')
      u' := by
  refine h.single.append ?_
  rw [List.flatMap_singleton]
  exact h'

/-- Something behind what is the same on both sides and has no runs. -/
theorem behind {as bs bs' : List α}
    (h : Twin b s b' s' config F (List.map shape) (List.flatMap runs) calls bs t bs' t')
    (has : as.flatMap runs = []) :
    Twin b s b' s' config F (List.map shape) (List.flatMap runs) calls (as ++ bs) t (as ++ bs')
      t' :=
  h.map (fun heq => by rw [List.map_append, List.map_append, heq])
    (by rw [List.flatMap_append, has, List.nil_append])
    (by rw [List.flatMap_append, has, List.nil_append])

end Twin

/-! ## Composing in pace -/

variable (b s b' s' config F)

/-- Two activities that start even give twins. -/
def KeepPace {α γ : Type} (shape : α → γ) (runs : α → List Run)
    (w : Work (Composition σ) Fault α) (w' : Work (Composition τ) Fault α) : Prop :=
  ∀ calls t t', Even b s b' s' calls t t' →
    Work.Pairs w t w' t' (Twin b s b' s' config F shape runs calls)

variable {b s b' s' config F}

/-- Things made one after the other, each in pace. -/
theorem KeepPace.forEach {α β γ : Type} {shape : β → γ} {runs : β → List Run}
    {f : α → Work (Composition σ) Fault β} {f' : α → Work (Composition τ) Fault β}
    (h : ∀ a, KeepPace b s b' s' config F shape runs (f a) (f' a)) (as : List α) :
    KeepPace b s b' s' config F (List.map shape) (List.flatMap runs) (Work.forEach f as)
      (Work.forEach f' as) := by
  intro calls t t' he
  induction as generalizing calls t t' with
  | nil => exact .pure (.of_no_runs rfl rfl rfl he)
  | cons a rest ih =>
    refine (h a calls t t' he).bind fun x u x' u' hx => ?_
    refine (ih _ _ _ hx.even).bind fun xs v xs' v' hxs => .pure ?_
    exact hx.cons hxs

theorem headingBlock_keepPace (depth : Int) (text : String) :
    KeepPace b s b' s' config F Block.outline Block.runs (headingBlock depth text)
      (headingBlock depth text) := by
  intro calls t t' he
  unfold headingBlock
  by_cases hdepth : (clampDepth depth != depth) = true
  · simp only [hdepth, if_true]
    exact (Work.Pairs.tell he).bind fun _ u _ u' hu => .pure (.of_no_runs rfl rfl rfl hu)
  · simp only [hdepth]
    exact .pure (.of_no_runs rfl rfl rfl he)

variable (config) (hb : b.IsTame s) (hb' : b'.IsTame s') (hF : b.AgreeBut s F b' s')

include hb hb' hF

theorem runsOf_keepPace (text : String) :
    KeepPace b s b' s' config F (List.map Run.outline) id (runsOf b config text)
      (runsOf b' config text) := by
  intro calls t t' he
  obtain ⟨said, h⟩ := format_eq hb config calls text
  obtain ⟨said', h'⟩ := format_eq hb' config calls text
  rw [← he.bridge] at h
  rw [← he.bridge'] at h'
  have halike : List.Forall₂ (Run.Alike F)
      (resolve (b.answer s) config calls (splitRuns text.toList))
      (resolve (b'.answer s') config calls (splitRuns text.toList)) := resolve_alike hF _
  have hcalls : Run.calls (resolve (b.answer s) config calls (splitRuns text.toList))
      = Segment.calls (splitRuns text.toList) := by
    rw [Run.calls, map_segment_resolve]
  refine Work.Pairs.of_ok (onBridge_ok h) (onBridge_ok h') ?_
  exact ⟨Run.Alike.map_outline halike, halike, isResolved_resolve _, isResolved_resolve _,
    he.lists, by rw [id, hcalls], by rw [id, hcalls]⟩

theorem itemBlocks_keepPace (ordered : Bool) (list start : Int) (spacing : Spacing)
    (items : List String) :
    KeepPace b s b' s' config F (List.map Block.outline) (List.flatMap Block.runs)
      (itemBlocks b config ordered list start spacing items)
      (itemBlocks b' config ordered list start spacing items) := by
  intro calls t t' he
  induction items generalizing calls t t' spacing with
  | nil => exact .pure (.of_no_runs rfl rfl rfl he)
  | cons item rest ih =>
    refine (runsOf_keepPace config hb hb' hF item calls t t' he).bind fun rs u rs' u' hr => ?_
    refine (ih _ _ _ _ hr.even).bind fun bs v bs' v' hbs => .pure ?_
    exact .cons (hr.map (fun h => congrArg (Block.listItem · ordered 0 list start spacing _) h)
      rfl rfl) hbs

theorem listBlocks_keepPace (ordered : Bool) (items : List String) (start : Int) :
    KeepPace b s b' s' config F (List.map Block.outline) (List.flatMap Block.runs)
      (listBlocks b config ordered items start) (listBlocks b' config ordered items start) := by
  intro calls t t' he
  refine Work.Pairs.bind (R := fun i u i' u' => i = i' ∧ Even b s b' s' calls u u') ?_ ?_
  · cases ordered
    · exact .pure ⟨rfl, he⟩
    · refine .of_ok rfl rfl ⟨?_, ?_⟩
      · rw [he.lists]
      · exact ⟨congrArg (· + 1) he.lists, he.bridge, he.bridge'⟩
  · rintro list u _ u' ⟨rfl, hu⟩
    exact itemBlocks_keepPace config hb hb' hF ordered list start firstItemSpacing items _ _ _ hu

theorem quoteBlocks_keepPace (tokens : List Token) :
    KeepPace b s b' s' config F (List.map Block.outline) (List.flatMap Block.runs)
      (quoteBlocks b config tokens) (quoteBlocks b' config tokens) := by
  intro calls t t' he
  induction tokens generalizing calls t t' with
  | nil => exact .pure (.of_no_runs rfl rfl rfl he)
  | cons token rest ih =>
    cases token with
    | paragraph text =>
      refine (runsOf_keepPace config hb hb' hF text calls t t' he).bind fun rs u rs' u' hr => ?_
      refine (ih _ _ _ hr.even).bind fun bs v bs' v' hbs => .pure ?_
      exact .cons (hr.map (fun h => congrArg (Block.paragraph · paragraphSpacing _ _) h)
        rfl rfl) hbs
    | _ => exact (Work.Pairs.tell he).bind fun _ u _ u' hu => ih calls u u' hu

theorem cellsOf_keepPace (width : Int) (looks : CellLooks) (texts : List (String × Option String)) :
    KeepPace b s b' s' config F (List.map Cell.outline) (List.flatMap Cell.runs)
      (cellsOf b config width looks texts) (cellsOf b' config width looks texts) := by
  refine KeepPace.forEach (fun (text, align) calls t t' he => ?_) texts
  refine (runsOf_keepPace config hb hb' hF text calls t t' he).bind fun rs u rs' u' hr => .pure ?_
  exact hr.map (fun h => congrArg (Cell.mk · width looks.margins looks.spacing align) h) rfl rfl

theorem dataRows_keepPace (columns : Nat) (width : Int) (align : List (Option String))
    (number : Nat) (rows : List (List String)) :
    KeepPace b s b' s' config F (List.map Row.outline) (List.flatMap Row.runs)
      (dataRows b config columns width align number rows)
      (dataRows b' config columns width align number rows) := by
  intro calls t t' he
  induction rows generalizing calls t t' number with
  | nil => exact .pure (.of_no_runs rfl rfl rfl he)
  | cons row rest ih =>
    let cells := (fitTo columns "" row).zip align
    have hrow : KeepPace b s b' s' config F (List.map Row.outline) (List.flatMap Row.runs)
        (do
          let cells ← cellsOf b config width dataLooks cells
          let rows ← dataRows b config columns width align (number + 1) rest
          return { cells, minHeight := some 400 } :: rows)
        (do
          let cells ← cellsOf b' config width dataLooks cells
          let rows ← dataRows b' config columns width align (number + 1) rest
          return { cells, minHeight := some 400 } :: rows) := by
      intro calls u u' hu
      refine (cellsOf_keepPace config hb hb' hF width dataLooks cells calls u u' hu).bind
        fun cs v cs' v' hcs => ?_
      refine (ih (number + 1) _ v v' hcs.even).bind fun rs x rs' x' hrs => .pure ?_
      exact .cons (hcs.map (fun h => congrArg (Row.mk · false (some 400)) h) rfl rfl) hrs
    unfold dataRows
    by_cases hragged : (row.length != columns) = true
    · simp only [hragged, if_true]
      exact (Work.Pairs.tell he).bind fun _ u _ u' hu => hrow calls u u' hu
    · simp only [hragged]
      exact hrow calls t t' he

theorem tableBlock_keepPace (header : List String) (rows : List (List String))
    (align : List (Option String)) :
    KeepPace b s b' s' config F Block.outline Block.runs
      (tableBlock b config header rows align) (tableBlock b' config header rows align) := by
  intro calls t t' he
  unfold tableBlock
  by_cases hcolumns : header.length = 0
  · simp only [hcolumns, if_true]
    exact .fail
  · simp only [hcolumns, if_false]
    refine (cellsOf_keepPace config hb hb' hF _ headerLooks _ calls t t' he).bind
      fun cs u cs' u' hcs => ?_
    refine (dataRows_keepPace config hb hb' hF _ _ _ 1 rows _ u u' hcs.even).bind
      fun rs v rs' v' hrs => .pure ?_
    have hrows : Twin b s b' s' config F (List.map Row.outline) (List.flatMap Row.runs) calls
        (⟨cs, true, some 600⟩ :: rs) v (⟨cs', true, some 600⟩ :: rs') v' :=
      .cons (hcs.map (fun h => congrArg (Row.mk · true (some 600)) h) rfl rfl) hrs
    exact hrows.map (fun h => congrArg (Block.table · _ _ tableBorders tableMargins) h) rfl rfl

theorem composeToken_keepPace (token : Token) :
    KeepPace b s b' s' config F (List.map Block.outline) (List.flatMap Block.runs)
      (composeToken b config token) (composeToken b' config token) := by
  intro calls t t' he
  cases token with
  | heading depth text =>
    exact (headingBlock_keepPace depth text calls t t' he).bind fun _ u _ u' h => .pure h.single
  | paragraph text =>
    refine (runsOf_keepPace config hb hb' hF text calls t t' he).bind fun rs u rs' u' hr => .pure ?_
    have hblock : Twin b s b' s' config F Block.outline Block.runs calls
        (.paragraph rs paragraphSpacing none none) u
        (.paragraph rs' paragraphSpacing none none) u' :=
      hr.map (fun h => congrArg (Block.paragraph · paragraphSpacing none none) h) rfl rfl
    exact hblock.single
  | list ordered items start =>
    exact listBlocks_keepPace config hb hb' hF ordered items start _ _ _ he
  | blockquote tokens => exact quoteBlocks_keepPace config hb hb' hF tokens _ _ _ he
  | code text language => exact .pure (.of_no_runs rfl rfl rfl he)
  | rule => exact .pure (.of_no_runs rfl rfl rfl he)
  | table header rows align =>
    exact (tableBlock_keepPace config hb hb' hF header rows align calls t t' he).bind
      fun _ u _ u' h => .pure h.single
  | space lines => exact .pure (.of_no_runs rfl rfl rfl he)
  | other type raw =>
    exact (Work.Pairs.tell he).bind fun _ u _ u' hu => .pure (.of_no_runs rfl rfl rfl hu)
  | unknown => exact .fail

theorem composeFrom_keepPace (c : Coordinator) (tokens : List Token) :
    KeepPace b s b' s' config F (List.map Block.outline) (List.flatMap Block.runs)
      (composeFrom b config c tokens) (composeFrom b' config c tokens) := by
  intro calls t t' he
  induction tokens generalizing calls t t' c with
  | nil => exact .pure (.of_no_runs rfl rfl rfl he)
  | cons token rest ih =>
    refine Work.Pairs.bind (Work.Pairs.tell (Q := fun _ u _ u' => Even b s b' s' calls u u') he)
      fun _ u _ u' hu => ?_
    refine (composeToken_keepPace config hb hb' hF token calls u u' hu).bind
      fun bs v bs' v' hbs => ?_
    refine (ih _ _ v v' hbs.even).bind fun more x more' x' hmore => .pure ?_
    rw [List.append_assoc, List.append_assoc]
    exact (hbs.append hmore).behind (runs_spacer _)

/-- Formulas are local. Over two bridges that convert or reject and agree on all formulas
    but those in `F`, composing ends with the same fault, or with blocks that are equal but
    for what runs show, and with runs that show the same but for formulas in `F`; on both
    sides each formula that is rejected stays as it is written. -/
theorem compose_local (tokens : List Token) :
    Work.Pairs (compose b config tokens) { bridge := s } (compose b' config tokens)
      { bridge := s' } fun blocks _ blocks' _ =>
        blocks.map Block.outline = blocks'.map Block.outline
        ∧ List.Forall₂ (Run.Alike F) (blocks.flatMap Block.runs) (blocks'.flatMap Block.runs)
        ∧ IsResolved (b.answer s) config [] (blocks.flatMap Block.runs)
        ∧ IsResolved (b'.answer s') config [] (blocks'.flatMap Block.runs) := by
  have h := composeFrom_keepPace config hb hb' hF {} tokens [] { bridge := s } { bridge := s' }
    ⟨rfl, rfl, rfl⟩
  exact h.mono fun _ _ _ _ h => ⟨h.shape, h.alike, h.resolved, h.resolved'⟩

end Sides

/-- A bridge that rejects one formula and converts the others. -/
def rejecting (latex : String) : Bridge Unit where
  ready := pure ()
  isReady := fun _ => true
  convert := fun formula display =>
    if formula = latex then Work.fail (.rejected formula .empty)
    else pure ⟨.element "m:oMath" [] [.text formula], formula, display⟩

theorem answer_rejecting (latex : String) (calls : List Call) (c : Call) :
    (rejecting latex).answer () calls c
      = if c.1 = latex then .error (.rejected c.1 .empty)
        else .ok ⟨.element "m:oMath" [] [.text c.1], c.1, c.2⟩ := by
  simp only [Bridge.answer, rejecting]
  split <;> rfl

theorem isTame_rejecting (latex : String) : (rejecting latex).IsTame () := by
  intro calls c
  rw [answer_rejecting]
  by_cases h : c.1 = latex
  · exact .inr ⟨c.1, .empty, if_pos h⟩
  · exact .inl ⟨_, if_neg h⟩

theorem agreeBut_rejecting (latex latex' : String) :
    (rejecting latex).AgreeBut () (fun c => c.1 = latex ∨ c.1 = latex') (rejecting latex') () := by
  intro calls c hc
  rw [answer_rejecting, answer_rejecting, if_neg fun h => hc (.inl h),
    if_neg fun h => hc (.inr h)]

/-- Of two formulas in a list, one bridge rejects the first and another the second. -/
theorem compose_local_list :
    Work.Pairs (compose (rejecting "x") .standard [.list true ["a $x$", "b $$y$$"] 1])
      { bridge := () } (compose (rejecting "y") .standard [.list true ["a $x$", "b $$y$$"] 1])
      { bridge := () } fun blocks _ blocks' _ =>
        blocks.map Block.outline = blocks'.map Block.outline
        ∧ List.Forall₂ (Run.Alike fun c => c.1 = "x" ∨ c.1 = "y") (blocks.flatMap Block.runs)
          (blocks'.flatMap Block.runs)
        ∧ IsResolved ((rejecting "x").answer ()) .standard [] (blocks.flatMap Block.runs)
        ∧ IsResolved ((rejecting "y").answer ()) .standard [] (blocks'.flatMap Block.runs) :=
  compose_local .standard (isTame_rejecting "x") (isTame_rejecting "y")
    (agreeBut_rejecting "x" "y") _

end Manuscript.Document
